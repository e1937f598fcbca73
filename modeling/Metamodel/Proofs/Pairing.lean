import Metamodel.CountingMutex
import Metamodel.Proofs.Mirroring

/-!
# Objects and their singleton classes

The two ends of the link between an object and its singleton class are written at several places
and never apart. So the link is a one-to-one correspondence: each end says of the other what the
other says of it.
-/

namespace Metamodel

open Session

namespace Heap

variable {heap : Heap} {builtins : Builtins} {id other singleton : ObjectId}
  {record mirror : ClassRecord}

/-- An object has a singleton class exactly when that class is one and is attached to it. -/
theorem WellFormed.has_singleton_iff (wf : heap.WellFormed builtins) :
    heap.Has id (HeapObject.HasSingleton singleton) ↔
      ∃ mirror, heap.get? singleton = some (.classRecord mirror) ∧ mirror.isSingleton ∧
        mirror.attached = some id := by
  constructor
  · rintro ⟨object, stored, header, isHeader, given⟩
    obtain ⟨mirror, _, isMirror, ⟨_, flagged, attached, _⟩, _⟩ :=
      wf.exists_mirror stored isHeader given
    exact ⟨mirror, isMirror, flagged, attached⟩
  · rintro ⟨mirror, isMirror, _, attached⟩
    exact ((wf.sound isMirror).classRecord mirror rfl).attached id attached

/-- Two objects have no singleton class in common. -/
theorem WellFormed.eq_of_has_singleton (wf : heap.WellFormed builtins)
    (has : heap.Has id (HeapObject.HasSingleton singleton))
    (has' : heap.Has other (HeapObject.HasSingleton singleton)) : id = other := by
  obtain ⟨mirror, isMirror, _, attached⟩ := wf.has_singleton_iff.mp has
  obtain ⟨mirror', isMirror', _, attached'⟩ := wf.has_singleton_iff.mp has'
  obtain rfl := classRecord_inj isMirror isMirror'
  exact Option.some.inj (attached.symm.trans attached')

/-- A singleton class is attached to an object. -/
theorem WellFormed.exists_attached (wf : heap.WellFormed builtins)
    (isMirror : heap.get? singleton = some (.classRecord mirror)) (flagged : mirror.isSingleton) :
    ∃ object, mirror.attached = some object ∧
      heap.Has object (HeapObject.HasSingleton singleton) := by
  have sound := (wf.sound isMirror).classRecord mirror rfl
  obtain ⟨object, attached⟩ := Option.isSome_iff_exists.mp (sound.flagged ▸ flagged)
  exact ⟨object, attached, sound.attached object attached⟩

/-- A class with a singleton class has a superclass chain. -/
theorem WellFormed.exists_lineage_of_singleton (wf : heap.WellFormed builtins)
    (stored : heap.get? id = some (.classRecord record))
    (given : record.singleton = some singleton) :
    ∃ chain, heap.Lineage builtins.root id chain := by
  have started := ((wf.sound stored).classRecord record rfl).started (.inr (by simp [given]))
  exact wf.exists_lineage ⟨_, stored, started⟩

/-- The chain of the singleton class of a class is longer than that of the class. -/
theorem WellFormed.length_lineage_lt (wf : heap.WellFormed builtins)
    {chain visited : List ObjectId} (lineage : heap.Lineage builtins.root id chain)
    (has : heap.Has id (HeapObject.HasSingleton singleton))
    (above : heap.Lineage builtins.root singleton visited) : chain.length < visited.length := by
  obtain ⟨rest, anchored⟩ := wf.exists_lineage wf.anchor_isOrdinary.isInitialized
  obtain ⟨mirrors, mirrored, pairs⟩ := wf.lineage_singleton lineage anchored has
  have positive := List.length_pos_of_mem anchored.mem_self
  rw [above.unique mirrored, List.length_append, ← pairs.length_eq]
  omega

/-- The singleton class of an instance is below the owner of the instance. -/
theorem WellFormed.superclass_of_plain (wf : heap.WellFormed builtins) {header : Header}
    (stored : heap.get? id = some (.plain header)) (given : header.singleton = some singleton)
    (isMirror : heap.get? singleton = some (.classRecord mirror)) :
    mirror.superclass = some header.owner := by
  obtain ⟨other, superclass, isOther, ⟨_, _, _, next⟩, below⟩ := wf.exists_mirror stored rfl given
  obtain rfl := classRecord_inj isMirror isOther
  cases below with
  | plain => exact next

/-- A singleton class is attached to an instance, and is below the owner of that, or to a class
whose chain is shorter. -/
theorem WellFormed.attached_cases (wf : heap.WellFormed builtins) {chain : List ObjectId}
    (lineage : heap.Lineage builtins.root singleton chain)
    (isMirror : heap.get? singleton = some (.classRecord mirror)) (flagged : mirror.isSingleton) :
    ∃ object, mirror.attached = some object ∧
      heap.Has object (HeapObject.HasSingleton singleton) ∧
      ((∃ header, heap.get? object = some (.plain header) ∧
          mirror.superclass = some header.owner) ∨
        ∃ shorter, heap.Lineage builtins.root object shorter ∧ shorter.length < chain.length) := by
  obtain ⟨object, attached, has⟩ := wf.exists_attached isMirror flagged
  refine ⟨object, attached, has, ?_⟩
  have target := has
  obtain ⟨stored, found, header, isHeader, given⟩ := target
  cases stored with
  | text content => cases isHeader
  | plain header =>
      cases isHeader
      exact .inl ⟨header, found, wf.superclass_of_plain found given isMirror⟩
  | classRecord record =>
      cases isHeader
      obtain ⟨shorter, lineage'⟩ := wf.exists_lineage_of_singleton found given
      exact .inr ⟨shorter, lineage', wf.length_lineage_lt lineage' has lineage⟩

end Heap

/-- In every reachable image an object has a given singleton class exactly when that class is
flagged as one and attached to the object. A class that is flagged is initialized, has no name and
is attached to a live object, the only one whose singleton class it is. A class that is not
flagged is attached to nothing, and an uninitialized class has no singleton class. -/
theorem Reached.singleton_correspondence [ReentrantMutex] {settings : Settings}
    {calls : List (Call ObjectId)} {image : Image} (reached : Reached settings calls image) :
    (∀ id singleton, image.heap.Has id (HeapObject.HasSingleton singleton) ↔
      ∃ mirror, image.heap.get? singleton = some (.classRecord mirror) ∧ mirror.isSingleton ∧
        mirror.attached = some id) ∧
      (∀ singleton mirror, image.heap.get? singleton = some (.classRecord mirror) →
        mirror.isSingleton → mirror.initialized ∧ mirror.name = none ∧
          ∃ object, mirror.attached = some object ∧ image.heap.contains object ∧
            ∀ id, image.heap.Has id (HeapObject.HasSingleton singleton) ↔ id = object) ∧
      (∀ id record, image.heap.get? id = some (.classRecord record) →
        record.isSingleton = false → record.attached = none) ∧
      ∀ id record, image.heap.get? id = some (.classRecord record) →
        record.initialized = false → record.singleton = none := by
  have wf := reached.wellFormed
  refine ⟨fun id singleton => wf.has_singleton_iff, ?_, ?_, ?_⟩
  · intro singleton mirror isMirror flagged
    have sound := (wf.sound isMirror).classRecord mirror rfl
    obtain ⟨object, attached, has⟩ := wf.exists_attached isMirror flagged
    refine ⟨?_, sound.nameless flagged, object, attached, has.contains, ?_⟩
    · apply Bool.of_not_eq_false
      intro raw
      rw [(sound.apart raw).2.2] at flagged
      cases flagged
    · intro id
      constructor
      · intro has'
        exact wf.eq_of_has_singleton has' has
      · rintro rfl
        exact has
  · intro id record stored unflagged
    have flagged := ((wf.sound stored).classRecord record rfl).flagged
    rw [unflagged] at flagged
    exact Option.isNone_iff_eq_none.mp (Option.isSome_eq_false_iff.mp flagged.symm)
  · intro id record stored raw
    exact (((wf.sound stored).classRecord record rfl).apart raw).2.1

/-- The case of an instance, in slot 11, whose singleton class has been asked for. It has slot
12. -/
theorem Reached.singleton_correspondence_newObject : ∃ image mirror,
    Reached .standard [.newObject 5, .singletonClass 11] image ∧
      image.heap.get? 12 = some (.classRecord mirror) ∧ mirror.initialized ∧
      mirror.name = none ∧ ∀ id, image.heap.Has id (HeapObject.HasSingleton 12) ↔ id = 11 := by
  have reached := Reached.afterFirst .standard
    [.newObject 5, .singletonClass 11]
  let mirror : ClassRecord := { ClassRecord.singletonOf 11 5 0 .object with singleton := some 13 }
  have isMirror : ((Image.first .standard).afterCalls [.newObject 5, .singletonClass 11]).heap.get?
      12 = some (.classRecord mirror) := by decide +kernel
  obtain ⟨_, flagged, _⟩ := Reached.singleton_correspondence reached
  obtain ⟨initialized, nameless, object, attached, _, only⟩ := flagged 12 mirror isMirror rfl
  cases attached
  exact ⟨_, mirror, reached, isMirror, initialized, nameless, only⟩

end Metamodel
