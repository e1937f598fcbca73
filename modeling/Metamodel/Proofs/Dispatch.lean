import Metamodel.CountingMutex
import Metamodel.Proofs.Layers
import Metamodel.Proofs.Pairing

/-!
# Lookups and owners

A lookup on an object without a singleton class begins at its owner. With a singleton class it
still comes to the owner if the object is an instance or an ordinary class. A singleton class with
a singleton class of its own is another matter: the lookup on it visits the singleton classes of
the classes above it and the class of all classes with its ancestors, and its owner need not be
among them.

## Implementation notes

The chain of the singleton class of a class mirrors that of the class. A class that stands on both
chains and is not an ancestor of the class of all classes is mirrored by itself being a mirror, so
the question is handed down from a class to the one that it is the singleton class of. The chains
get shorter on the way.
-/

namespace Metamodel

open Session

namespace Heap

/-- A class, its singleton class, the singleton class of that one, and so on. -/
inductive Tower (heap : Heap) (base : ObjectId) : ObjectId → Prop
  | base : Tower heap base base
  | singleton {id singleton : ObjectId} : Tower heap base id →
      heap.Has id (HeapObject.HasSingleton singleton) → Tower heap base singleton

variable {heap : Heap} {builtins : Builtins} {id lower upper singleton : ObjectId}
  {chain mirrors rest visited : List ObjectId}

/-- What mirrors a chain are the singleton classes of its classes. -/
theorem mem_mirrors_iff
    (pairs : List.Forall₂ (fun lower mirror => ∃ record,
      heap.get? lower = some (.classRecord record) ∧ record.singleton = some mirror)
      chain mirrors) :
    upper ∈ mirrors ↔ ∃ lower ∈ chain, heap.Has lower (HeapObject.HasSingleton upper) := by
  induction pairs with
  | nil => simp
  | @cons lower mirror _ _ pair _ ih =>
      obtain ⟨record, stored, given⟩ := pair
      have same : heap.Has lower (HeapObject.HasSingleton upper) ↔ upper = mirror := by
        constructor
        · intro has
          obtain ⟨header, isHeader, given'⟩ := has.of_get? stored
          cases isHeader
          exact Option.some.inj (given'.symm.trans given)
        · rintro rfl
          exact ⟨_, stored, _, rfl, given⟩
      simp only [List.mem_cons, exists_eq_or_imp, ih, same]

variable (wf : heap.WellFormed builtins)
include wf

/-- The chain of the singleton class of a class consists of the singleton classes of the classes
on its chain and the ancestors of the class of all classes. -/
theorem WellFormed.mem_lineage_singleton_iff (lineage : heap.Lineage builtins.root id chain)
    (anchored : heap.Lineage builtins.root builtins.anchor rest)
    (has : heap.Has id (HeapObject.HasSingleton singleton))
    (above : heap.Lineage builtins.root singleton visited) :
    upper ∈ visited ↔
      (∃ lower ∈ chain, heap.Has lower (HeapObject.HasSingleton upper)) ∨ upper ∈ rest := by
  obtain ⟨mirrors, mirrored, pairs⟩ := wf.lineage_singleton lineage anchored has
  rw [above.unique mirrored, List.mem_append, mem_mirrors_iff pairs]

/-- A singleton class is not an ordinary class. -/
theorem WellFormed.not_isOrdinary (has : heap.Has id (HeapObject.HasSingleton singleton)) :
    ¬ heap.Has singleton HeapObject.IsOrdinary := by
  obtain ⟨mirror, isMirror, flagged, _⟩ := wf.has_singleton_iff.mp has
  intro ordinary
  have unflagged := (ordinary.of_get? isMirror).2
  rw [flagged] at unflagged
  cases unflagged

/-- What is built on a class are classes. -/
theorem WellFormed.isInitialized_of_tower {base : ObjectId} (tower : heap.Tower base id)
    (initialized : heap.Has base HeapObject.IsInitialized) :
    heap.Has id HeapObject.IsInitialized := by
  cases tower with
  | base => exact initialized
  | singleton _ has =>
      obtain ⟨object, stored, header, isHeader, given⟩ := has
      exact wf.isInitialized_singleton stored isHeader given

/-- If the singleton class of a class stands on a chain, the chain is that of a singleton class
itself, and the class stands on the chain that it mirrors, which is shorter. -/
theorem WellFormed.exists_mirrored (layered : heap.Layered)
    (lineage : heap.Lineage builtins.root id chain) (mem : upper ∈ chain)
    (has : heap.Has lower (HeapObject.HasSingleton upper))
    (initialized : heap.Has lower HeapObject.IsInitialized) :
    ∃ mirrored shorter, heap.Lineage builtins.root mirrored shorter ∧
      heap.Has mirrored (HeapObject.HasSingleton id) ∧ lower ∈ shorter ∧
      shorter.length < chain.length := by
  obtain ⟨record, stored, started⟩ := lineage.isInitialized.exists_classRecord
  -- no chain of an ordinary class leads to a singleton class
  have apart : ∀ {other : ObjectId} {above : List ObjectId},
      heap.Lineage builtins.root other above → heap.Has other HeapObject.IsOrdinary →
      upper ∉ above := fun lineage ordinary mem =>
    wf.not_isOrdinary has (layered.isOrdinary_of_mem lineage ordinary mem)
  have flagged : record.isSingleton := by
    apply Bool.of_not_eq_false
    intro unflagged
    exact apart lineage ⟨_, stored, started, unflagged⟩ mem
  obtain ⟨object, _, held, ⟨header, found, next⟩ | ⟨shorter, lineage', short⟩⟩ :=
    wf.attached_cases lineage stored flagged
  · obtain ⟨above, lineage', rfl⟩ := lineage.of_superclass stored next
    rcases List.mem_cons.mp mem with rfl | mem
    · have class_ := (wf.eq_of_has_singleton has held ▸ initialized).of_get? found
      cases class_
    · exact absurd mem (apart lineage' ((wf.sound found).plain header rfl))
  · obtain ⟨rest, anchored⟩ := wf.exists_lineage wf.anchor_isOrdinary.isInitialized
    refine ⟨object, shorter, lineage', held, ?_, short⟩
    rcases (wf.mem_lineage_singleton_iff lineage' anchored held lineage).mp mem with
      ⟨other, mem', has'⟩ | mem'
    · rwa [wf.eq_of_has_singleton has has']
    · exact absurd mem' (apart anchored wf.anchor_isOrdinary)

/-- A class on the chain of another one is visited by lookups on that one, if it has a singleton
class, exactly when it is built on an ancestor of the class of all classes. -/
theorem WellFormed.mem_lineage_both_iff (layered : heap.Layered)
    (anchored : heap.Lineage builtins.root builtins.anchor rest)
    (lineage : heap.Lineage builtins.root id chain)
    (has : heap.Has id (HeapObject.HasSingleton singleton))
    (above : heap.Lineage builtins.root singleton visited) (mem : upper ∈ chain) :
    upper ∈ visited ↔ ∃ base ∈ rest, heap.Tower base upper := by
  induction size : chain.length using Nat.strong_induction_on
    generalizing id singleton chain visited upper with
  | _ size ih =>
      rw [wf.mem_lineage_singleton_iff lineage anchored has above]
      -- whether a class below is on the chain is the same question about a shorter chain
      have lower_iff : ∀ {lower : ObjectId}, heap.Has lower (HeapObject.HasSingleton upper) →
          heap.Has lower HeapObject.IsInitialized →
          (lower ∈ chain ↔ ∃ base ∈ rest, heap.Tower base lower) := by
        intro lower has' initialized
        obtain ⟨mirrored, shorter, lineage', held, mem', short⟩ :=
          wf.exists_mirrored layered lineage mem has' initialized
        exact ih shorter.length (size ▸ short) lineage' held lineage mem' rfl
      constructor
      · rintro (⟨lower, mem', has'⟩ | mem')
        · obtain ⟨base, isBase, tower⟩ :=
            (lower_iff has' (lineage.isInitialized_of_mem mem')).mp mem'
          exact ⟨base, isBase, .singleton tower has'⟩
        · exact ⟨upper, mem', .base⟩
      · rintro ⟨base, isBase, tower⟩
        cases tower with
        | base => exact .inr isBase
        | @singleton lower _ tower has' =>
            have initialized := wf.isInitialized_of_tower tower
              (anchored.isInitialized_of_mem isBase)
            exact .inl ⟨lower, (lower_iff has' initialized).mpr ⟨base, isBase, tower⟩, has'⟩

/-- A lookup on an instance with a singleton class comes to its owner. -/
theorem WellFormed.owner_mem_of_plain {header : Header}
    (stored : heap.get? id = some (.plain header)) (given : header.singleton = some singleton)
    (above : heap.Lineage builtins.root singleton visited) : header.owner ∈ visited := by
  obtain ⟨mirror, isMirror, _⟩ := above.isInitialized.exists_classRecord
  obtain ⟨_, lineage, rfl⟩ :=
    above.of_superclass isMirror (wf.superclass_of_plain stored given isMirror)
  exact List.mem_cons_of_mem _ lineage.mem_self

/-- A lookup on a class with a singleton class comes to the owner if the class is no singleton
class itself, or if the owner is built on an ancestor of the class of all classes. -/
theorem WellFormed.owner_mem_of_class_iff (layered : heap.Layered)
    (anchored : heap.Lineage builtins.root builtins.anchor rest) {record : ClassRecord}
    (stored : heap.get? id = some (.classRecord record))
    (given : record.singleton = some singleton)
    (above : heap.Lineage builtins.root singleton visited) :
    record.owner ∈ visited ↔
      record.isSingleton = false ∨ ∃ base ∈ rest, heap.Tower base record.owner := by
  obtain ⟨chain, lineage⟩ := wf.exists_lineage_of_singleton stored given
  have has : heap.Has id (HeapObject.HasSingleton singleton) := ⟨_, stored, _, rfl, given⟩
  have anchor_mem : builtins.anchor ∈ visited :=
    (wf.mem_lineage_singleton_iff lineage anchored has above).mpr (.inr anchored.mem_self)
  cases flagged : record.isSingleton with
  | false =>
      rw [((wf.sound stored).classRecord record rfl).owner flagged]
      exact iff_of_true anchor_mem (.inl rfl)
  | true =>
      rw [or_iff_right Bool.true_eq_false.mp]
      rcases layered.owner_mem wf lineage stored with same | mem
      · rw [same]
        exact iff_of_true anchor_mem ⟨_, anchored.mem_self, .base⟩
      · exact wf.mem_lineage_both_iff layered anchored lineage has above mem

end Heap

/-- In every reachable image a lookup comes to the owner of its object, unless the object is a
singleton class with a singleton class of its own. Then it comes to the owner exactly if that is
built on an ancestor of the class of all classes. -/
theorem Reached.owner_visited_iff [ReentrantMutex] {settings : Settings}
    {calls : List (Call ObjectId)}
    {image : Image} (reached : Reached settings calls image) {id : ObjectId} {object : HeapObject}
    {header : Header} (stored : image.heap.get? id = some object)
    (isHeader : object.header? = some header) :
    ∃ chain rest, image.heap.dispatchChain id = .ok chain ∧
      image.heap.ancestors image.builtins.anchor = .ok rest ∧
      (header.owner ∈ chain ↔
        (∀ record, object = .classRecord record → record.isSingleton → record.singleton = none) ∨
          ∃ base ∈ rest, image.heap.Tower base header.owner) := by
  have wf := reached.wellFormed
  obtain ⟨visited, above, computed⟩ := wf.exists_dispatchChain stored isHeader
  obtain ⟨rest, anchored⟩ := wf.exists_lineage wf.anchor_isOrdinary.isInitialized
  refine ⟨visited, rest, computed, anchored.ancestors, ?_⟩
  cases given : header.singleton with
  | none =>
      rw [given] at above
      refine iff_of_true above.mem_self (.inl ?_)
      rintro record rfl _
      cases isHeader
      exact given
  | some singleton =>
      rw [given] at above
      cases object with
      | text content => cases isHeader
      | plain header =>
          cases isHeader
          exact iff_of_true (wf.owner_mem_of_plain stored given above)
            (.inl fun record isClass => nomatch isClass)
      | classRecord record =>
          cases isHeader
          have single : record.isSingleton = false ↔ ∀ other,
              HeapObject.classRecord record = .classRecord other →
              other.isSingleton → other.singleton = none := by
            simp [given]
          rw [wf.owner_mem_of_class_iff reached.layered anchored stored given above, single]

/-- The case of a built-in singleton class, in slot 9, that is given a singleton class. Its owner,
in slot 6, is the singleton class of an ancestor of the class of all classes. -/
theorem Reached.owner_visited_builtin : ∃ image chain,
    Reached .standard [.singletonClass 9] image ∧ image.heap.dispatchChain 9 = .ok chain ∧
      6 ∈ chain := by
  have reached := Reached.afterFirst .standard [.singletonClass 9]
  let mirror : ClassRecord := { ClassRecord.singletonOf 8 6 6 .classTag with singleton := some 14 }
  have stored : ((Image.first .standard).afterCalls [.singletonClass 9]).heap.get? 9 =
      some (.classRecord mirror) := by decide +kernel
  have object : ((Image.first .standard).afterCalls [.singletonClass 9]).heap.get? 5 =
      some (.classRecord (.founder (some 6) 7 (some 3) .object)) := by decide +kernel
  have ancestors : ((Image.first .standard).afterCalls [.singletonClass 9]).heap.ancestors
      ((Image.first .standard).afterCalls [.singletonClass 9]).builtins.anchor =
        .ok [0, 8, 5, 3] := by decide +kernel
  obtain ⟨chain, rest, visited, computed, owner⟩ := Reached.owner_visited_iff reached stored rfl
  rw [ancestors] at computed
  cases computed
  have mem := owner.mpr (.inr ⟨5, by decide, .singleton .base ⟨_, object, _, rfl, rfl⟩⟩)
  exact ⟨_, chain, reached, visited, mem⟩

/-- Two classes are derived, each from the one before, and the singleton class of the second, in
slot 15, is given a singleton class. Its owner is the singleton class of the first, in slot 12,
and a lookup on it does not come there. -/
theorem Reached.owner_not_visited : ¬ ∀ settings calls image id object header chain,
    Reached settings calls image → image.heap.get? id = some object →
      object.header? = some header → image.heap.dispatchChain id = .ok chain →
      header.owner ∈ chain := by
  intro visited
  let calls : List (Call ObjectId) :=
    [.subclass 5 "A" none, .subclass 11 "B" none, .singletonClass 15]
  have reached := Reached.afterFirst .standard calls
  let mirror : ClassRecord :=
    { ClassRecord.singletonOf 14 12 12 .classTag with singleton := some 21 }
  have stored : ((Image.first .standard).afterCalls calls).heap.get? 15 =
      some (.classRecord mirror) := by decide +kernel
  have computed : ((Image.first .standard).afterCalls calls).heap.dispatchChain 15 =
      .ok [21, 20, 19, 18, 17, 9, 6, 4, 0, 8, 5, 3] := by decide +kernel
  have mem := visited _ _ _ _ _ _ _ reached stored rfl computed
  revert mem
  decide

end Metamodel
