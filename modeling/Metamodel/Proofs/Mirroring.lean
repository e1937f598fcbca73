import Mathlib.Data.List.Forall2
import Metamodel.CountingMutex
import Metamodel.Proofs.Hierarchy

/-!
# The mirrored hierarchy

The singleton classes of classes form a hierarchy beside that of the classes: wherever a class has
a singleton class, so has its superclass, and the one is below the other. A superclass chain is
therefore mirrored, class by class, and above the singleton class of the root the chain of the
class of all classes follows.
-/

namespace Metamodel

open Session

namespace Heap

variable {heap : Heap} {builtins : Builtins} {id singleton : ObjectId}

/-- The singleton class of an object is a class, attached to the object and in its place. -/
theorem WellFormed.exists_mirror (wf : heap.WellFormed builtins) {object : HeapObject}
    {header : Header} (stored : heap.get? id = some object)
    (isHeader : object.header? = some header) (given : header.singleton = some singleton) :
    ∃ mirror superclass, heap.get? singleton = some (.classRecord mirror) ∧
      HeapObject.IsSingletonOf id superclass (.classRecord mirror) ∧
      heap.SingletonBelow builtins.anchor object superclass := by
  obtain ⟨superclass, below, found, isMirror, isSingleton⟩ :=
    ((wf.sound stored).header header isHeader).singleton singleton given
  cases found with
  | classRecord mirror => exact ⟨mirror, superclass, isMirror, isSingleton, below⟩
  | plain header => cases isSingleton
  | text content => cases isSingleton

/-- A class that has a singleton class stores it. -/
theorem Has.exists_singleton (initialized : heap.Has id HeapObject.IsInitialized)
    (has : heap.Has id (HeapObject.HasSingleton singleton)) :
    ∃ record, heap.get? id = some (.classRecord record) ∧ record.singleton = some singleton := by
  obtain ⟨record, stored, _⟩ := initialized.exists_classRecord
  obtain ⟨header, isHeader, given⟩ := has.of_get? stored
  cases isHeader
  exact ⟨record, stored, given⟩

/-- The chain of the singleton class of a class mirrors that of the class, up to the singleton
class of the root; the rest is the chain of the class of all classes. -/
theorem WellFormed.lineage_singleton (wf : heap.WellFormed builtins) {chain rest : List ObjectId}
    (lineage : heap.Lineage builtins.root id chain)
    (anchored : heap.Lineage builtins.root builtins.anchor rest)
    (has : heap.Has id (HeapObject.HasSingleton singleton)) :
    ∃ mirrors, heap.Lineage builtins.root singleton (mirrors ++ rest) ∧
      List.Forall₂ (fun lower mirror => ∃ record, heap.get? lower = some (.classRecord record) ∧
        record.singleton = some mirror) chain mirrors := by
  induction lineage generalizing singleton with
  | root stored started top =>
      obtain ⟨record, stored', given⟩ := Has.exists_singleton ⟨_, stored, started⟩ has
      obtain rfl := classRecord_inj stored stored'
      obtain ⟨mirror, superclass, isMirror, ⟨started', _, _, next⟩, below⟩ :=
        wf.exists_mirror stored rfl given
      rw [below.of_top top] at next
      exact ⟨[singleton], .under isMirror started' next anchored,
        .cons ⟨_, stored, given⟩ .nil⟩
  | under stored started above _ ih =>
      obtain ⟨record, stored', given⟩ := Has.exists_singleton ⟨_, stored, started⟩ has
      obtain rfl := classRecord_inj stored stored'
      obtain ⟨mirror, superclass, isMirror, ⟨started', _, _, next⟩, below⟩ :=
        wf.exists_mirror stored rfl given
      obtain ⟨mirrors, lineage, mirrored⟩ := ih (below.of_superclass above)
      exact ⟨singleton :: mirrors, .under isMirror started' next lineage,
        .cons ⟨_, stored, given⟩ mirrored⟩

end Heap

/-- In every reachable image the singleton class of a class is below the singleton class of its
superclass, which has one, and that of the root is below the class of all classes. The singleton
class of an instance is below the class of the instance. So the superclass chain of the singleton
class of a class is that of the class with every class replaced by its singleton class, followed
by that of the class of all classes. -/
theorem Reached.mirrored_hierarchy [ReentrantMutex] {settings : Settings}
    {calls : List (Call ObjectId)} {image : Image} (reached : Reached settings calls image) :
    (∀ id record singleton, image.heap.get? id = some (.classRecord record) →
      record.singleton = some singleton →
      ∃ mirror, image.heap.get? singleton = some (.classRecord mirror) ∧
        (∀ superclass, record.superclass = some superclass → ∃ parent above,
          image.heap.get? superclass = some (.classRecord parent) ∧
            parent.singleton = some above ∧ mirror.superclass = some above) ∧
        (record.superclass = none →
          id = image.builtins.root ∧ mirror.superclass = some image.builtins.anchor)) ∧
      (∀ id header singleton, image.heap.get? id = some (.plain header) →
        header.singleton = some singleton →
        ∃ mirror, image.heap.get? singleton = some (.classRecord mirror) ∧
          mirror.superclass = some header.owner) ∧
      ∀ id record singleton, image.heap.get? id = some (.classRecord record) →
        record.singleton = some singleton →
        ∃ chain mirrors rest, image.heap.ancestors id = .ok chain ∧
          image.heap.ancestors image.builtins.anchor = .ok rest ∧
          image.heap.ancestors singleton = .ok (mirrors ++ rest) ∧
          List.Forall₂ (fun lower mirror => ∃ record,
            image.heap.get? lower = some (.classRecord record) ∧
              record.singleton = some mirror) chain mirrors := by
  have wf := reached.wellFormed
  refine ⟨?_, ?_, ?_⟩
  · intro id record singleton stored given
    obtain ⟨mirror, superclass, isMirror, ⟨_, _, _, next⟩, below⟩ :=
      wf.exists_mirror stored rfl given
    have started := ((wf.sound stored).classRecord record rfl).started
      (.inr (by simp [given]))
    refine ⟨mirror, isMirror, ?_, ?_⟩
    · intro parent above
      obtain ⟨_, lineage⟩ := wf.exists_lineage_above stored above
      obtain ⟨upper, isUpper, isAbove⟩ :=
        lineage.isInitialized.exists_singleton (below.of_superclass above)
      exact ⟨upper, superclass, isUpper, isAbove, next⟩
    · intro top
      constructor
      · exact (wf.superclass_eq_none_iff stored started).mp top
      · rw [next, below.of_top top]
  · intro id header singleton stored given
    obtain ⟨mirror, superclass, isMirror, ⟨_, _, _, next⟩, below⟩ :=
      wf.exists_mirror stored rfl given
    cases below with
    | plain => exact ⟨mirror, isMirror, next⟩
  · intro id record singleton stored given
    have started := ((wf.sound stored).classRecord record rfl).started
      (.inr (by simp [given]))
    obtain ⟨chain, lineage⟩ := wf.exists_lineage ⟨_, stored, started⟩
    obtain ⟨rest, anchored⟩ := wf.exists_lineage wf.anchor_isOrdinary.isInitialized
    obtain ⟨mirrors, mirrored, pairs⟩ :=
      wf.lineage_singleton lineage anchored ⟨_, stored, _, rfl, given⟩
    exact ⟨chain, mirrors, rest, lineage.ancestors, anchored.ancestors, mirrored.ancestors,
      pairs⟩

/-- The case of an instance, in slot 17, of a class that is two below a built-in one: its singleton
class has slot 18, and slot 19 holds the singleton class of that one. -/
theorem Reached.mirrored_hierarchy_newObject : ∃ image mirror mirrors rest,
    Reached .standard
        [.subclass 5 "A" none, .subclass 11 "B" none, .newObject 14, .singletonClass 17] image ∧
      image.heap.get? 18 = some (.classRecord mirror) ∧ mirror.superclass = some 14 ∧
      image.heap.ancestors 18 = .ok [18, 14, 11, 5, 3] ∧
      image.heap.ancestors 0 = .ok rest ∧
      image.heap.ancestors 19 = .ok (mirrors ++ rest) ∧ mirrors.length = 5 := by
  let calls : List (Call ObjectId) :=
    [.subclass 5 "A" none, .subclass 11 "B" none, .newObject 14, .singletonClass 17]
  let image := (Image.first .standard).afterCalls calls
  have reached : Reached .standard calls image := .afterFirst .standard calls
  have builtins : image.builtins = ⟨0, 3, 5, 8⟩ := by decide +kernel
  have isInstance : image.heap.get? 17 = some (.plain ⟨.object, 14, some 18⟩) := by decide +kernel
  have isClass : image.heap.get? 18 = some (.classRecord
      { ClassRecord.singletonOf 17 14 0 .object with singleton := some 19 }) := by
    decide +kernel
  obtain ⟨_, instances, chains⟩ := Reached.mirrored_hierarchy reached
  obtain ⟨mirror, isMirror, below⟩ := instances 17 _ 18 isInstance rfl
  obtain ⟨chain, mirrors, rest, computed, anchored, above, pairs⟩ := chains 18 _ 19 isClass rfl
  have own : image.heap.ancestors 18 = .ok [18, 14, 11, 5, 3] := by decide +kernel
  rw [own] at computed
  cases computed
  rw [builtins] at anchored
  exact ⟨image, mirror, mirrors, rest, reached, isMirror, below, own, anchored, above,
    pairs.length_eq.symm⟩

end Metamodel
