import Metamodel.Image.Basic
import Metamodel.Proofs.Evolution
import Metamodel.Proofs.ExactCollection

/-!
# Well-formed heaps

What holds of a heap with its built-in classes between any two operations. Every reference names
an object of the right kind, the superclass chain of every initialized class ends at the root, the
singleton class of a class is below that of its superclass, and a singleton class and its object
refer to each other.

## Implementation notes

Each condition on an object asks its references for lasting properties only. A heap that continues
a well-formed one is therefore well-formed as soon as its new and changed objects are sound; the
others need no second look (`WellFormed.continues`).
-/

namespace Metamodel

namespace Heap

/-- An initialized class with an initialized superclass, and so on up to the root. -/
inductive Rooted (heap : Heap) (root : ObjectId) : ObjectId → Prop
  | root {record : ClassRecord} : heap.get? root = some (.classRecord record) →
      record.initialized → record.superclass = none → Rooted heap root root
  | under {id superclass : ObjectId} {record : ClassRecord} :
      heap.get? id = some (.classRecord record) → record.initialized →
      record.superclass = some superclass → Rooted heap root superclass → Rooted heap root id

/-- The class below which the singleton class of an object belongs: the class of an instance, the
singleton class of the superclass of a class, and the anchor for a class without a superclass. -/
inductive SingletonBelow (heap : Heap) (anchor : ObjectId) : HeapObject → ObjectId → Prop
  | plain (header : Header) : SingletonBelow heap anchor (.plain header) header.owner
  | top {record : ClassRecord} : record.superclass = none →
      SingletonBelow heap anchor (.classRecord record) anchor
  | beside {record : ClassRecord} {superclass above : ObjectId} :
      record.superclass = some superclass → heap.Has superclass (HeapObject.HasSingleton above) →
      SingletonBelow heap anchor (.classRecord record) above

end Heap

/-- What the header of a stored object refers to: an initialized owner, and a singleton class
that is attached to the object and has its place in the hierarchy. -/
structure Header.Sound (heap : Heap) (anchor id : ObjectId) (object : HeapObject)
    (header : Header) : Prop where
  owner : heap.Has header.owner HeapObject.IsInitialized
  singleton : ∀ singleton, header.singleton = some singleton →
    ∃ superclass, heap.SingletonBelow anchor object superclass ∧
      heap.Has singleton (HeapObject.IsSingletonOf id superclass)

/-- What a stored class refers to. -/
structure ClassRecord.Sound (heap : Heap) (builtins : Builtins) (id : ObjectId)
    (record : ClassRecord) : Prop where
  rooted : record.initialized → heap.Rooted builtins.root id
  /-- An uninitialized class stands apart. -/
  apart : record.initialized = false →
    record.superclass = none ∧ record.singleton = none ∧ record.isSingleton = false
  owner : record.isSingleton = false → record.owner = builtins.anchor
  name : ∀ name, record.name = some name → heap.Has name HeapObject.IsText
  nameless : record.isSingleton → record.name = none
  flagged : record.isSingleton = record.attached.isSome
  attached : ∀ object, record.attached = some object →
    heap.Has object (HeapObject.HasSingleton id)

/-- What a stored object refers to. -/
structure HeapObject.Sound (heap : Heap) (builtins : Builtins) (id : ObjectId)
    (object : HeapObject) : Prop where
  header : ∀ header, object.header? = some header →
    header.Sound heap builtins.anchor id object
  classRecord : ∀ record, object = .classRecord record → record.Sound heap builtins id
  plain : ∀ header, object = .plain header → heap.Has header.owner HeapObject.IsOrdinary

/-- The condition that every operation keeps. -/
structure Heap.WellFormed (heap : Heap) (builtins : Builtins) : Prop where
  tidy : heap.Tidy
  sound : ∀ {id : ObjectId} {object : HeapObject}, heap.get? id = some object →
    object.Sound heap builtins id
  /-- No two classes share the text of their names. -/
  names : ∀ {a b name : ObjectId} {first second : ClassRecord},
    heap.get? a = some (.classRecord first) → heap.get? b = some (.classRecord second) →
    first.name = some name → second.name = some name → a = b
  builtins : ∀ id ∈ builtins.toList, heap.Has id HeapObject.IsOrdinary
  pinned : ∀ {id : ObjectId}, 0 < heap.pinCount id → heap.contains id

section Continues

variable {before after : Heap} {builtins : Builtins} {id : ObjectId} {object : HeapObject}

theorem Heap.Rooted.isInitialized {root : ObjectId} (rooted : before.Rooted root id) :
    before.Has id HeapObject.IsInitialized := by
  cases rooted with
  | root stored initialized _ => exact ⟨_, stored, initialized⟩
  | under stored initialized _ _ => exact ⟨_, stored, initialized⟩

theorem HeapObject.sound_classRecord {record : ClassRecord}
    (header : record.header.Sound before builtins.anchor id (.classRecord record))
    (sound : record.Sound before builtins id) :
    (HeapObject.classRecord record).Sound before builtins id where
  header := by
    rintro _ ⟨⟩
    exact header
  classRecord := by
    rintro _ ⟨⟩
    exact sound
  plain := by rintro _ ⟨⟩

theorem HeapObject.sound_plain {header : Header}
    (sound : header.Sound before builtins.anchor id (.plain header))
    (owned : before.Has header.owner IsOrdinary) :
    (HeapObject.plain header).Sound before builtins id where
  header := by
    rintro _ ⟨⟩
    exact sound
  classRecord := by rintro _ ⟨⟩
  plain := by
    rintro _ ⟨⟩
    exact owned

/-- A text refers to nothing. -/
theorem HeapObject.sound_of_isText (h : object.IsText) : object.Sound before builtins id := by
  cases object with
  | classRecord record => cases h
  | plain header => cases h
  | text content => exact ⟨by rintro _ ⟨⟩, by rintro _ ⟨⟩, by rintro _ ⟨⟩⟩

/-- A class that is linked or has a singleton class is initialized. -/
theorem ClassRecord.Sound.started {record : ClassRecord}
    (sound : record.Sound before builtins id)
    (linked : record.superclass ≠ none ∨ record.singleton ≠ none) : record.initialized := by
  apply Bool.of_not_eq_false
  intro raw
  obtain ⟨bare, alone, _⟩ := sound.apart raw
  rcases linked with above | given
  · exact above bare
  · exact given alone

/-- The chain of a kept class is kept, for each class on it refers to the next one. -/
theorem Heap.Rooted.continues {root : ObjectId} (rooted : before.Rooted root id)
    (continues : before.Continues after) (kept : after.contains id) : after.Rooted root id := by
  induction rooted with
  | root stored initialized top =>
      obtain ⟨new, stored'⟩ := contains_iff.mp kept
      cases continues.evolves stored stored' with
      | classRecord evolves =>
          exact .root stored' (evolves.initialized initialized)
            ((evolves.settled_of_initialized initialized).1.trans top)
  | under stored initialized next above ih =>
      obtain ⟨new, stored'⟩ := contains_iff.mp kept
      have live := above.isInitialized.contains
      have kept' := continues.closed stored kept (.inr (.inr (.inl next))) live
      cases continues.evolves stored stored' with
      | classRecord evolves =>
          exact .under stored' (evolves.initialized initialized)
            ((evolves.settled_of_initialized initialized).1.trans next) (ih kept')

theorem Heap.SingletonBelow.continues {anchor superclass : ObjectId}
    (below : before.SingletonBelow anchor object superclass)
    (stored : before.get? id = some object) (continues : before.Continues after)
    (kept : after.contains id) : after.SingletonBelow anchor object superclass := by
  cases below with
  | plain header => exact .plain header
  | top none => exact .top none
  | beside next has =>
      have kept' := continues.closed stored kept (.inr (.inr (.inl next))) has.contains
      exact .beside next (has.continues (HeapObject.lasting_hasSingleton _) continues kept')

theorem Heap.SingletonBelow.of_top {anchor superclass : ObjectId} {record : ClassRecord}
    (below : before.SingletonBelow anchor (.classRecord record) superclass)
    (top : record.superclass = none) : superclass = anchor := by
  cases below with
  | top => rfl
  | beside next _ =>
      rw [top] at next
      cases next

theorem Heap.SingletonBelow.of_superclass {anchor parent superclass : ObjectId}
    {record : ClassRecord} (below : before.SingletonBelow anchor (.classRecord record) superclass)
    (next : record.superclass = some parent) :
    before.Has parent (HeapObject.HasSingleton superclass) := by
  cases below with
  | top bare =>
      rw [bare] at next
      cases next
  | beside next' has =>
      obtain rfl := Option.some.inj (next.symm.trans next')
      exact has

/-- Only the superclass of a class matters for the place of its singleton class. -/
theorem Heap.SingletonBelow.congr {anchor superclass : ObjectId} {record other : ClassRecord}
    (below : before.SingletonBelow anchor (.classRecord record) superclass)
    (same : other.superclass = record.superclass) :
    before.SingletonBelow anchor (.classRecord other) superclass := by
  cases below with
  | top bare => exact .top (same.trans bare)
  | beside next has => exact .beside (same.trans next) has

/-- An object that is kept as it was stays sound. -/
theorem HeapObject.Sound.continues (sound : object.Sound before builtins id)
    (stored : before.get? id = some object) (continues : before.Continues after)
    (kept : after.contains id) : object.Sound after builtins id where
  header := by
    intro header found
    have owns : object.RefersTo header.owner := by
      cases object with
      | classRecord record => cases found; exact .inl rfl
      | plain header => cases found; exact .inl rfl
      | text content => cases found
    have owned := (sound.header header found).owner
    refine ⟨owned.continues lasting_isInitialized continues
      (continues.closed stored kept owns owned.contains), ?_⟩
    intro singleton given
    have refers : object.RefersTo singleton := by
      cases object with
      | classRecord record => cases found; exact .inr (.inl given)
      | plain header => cases found; exact .inr given
      | text content => cases found
    obtain ⟨superclass, below, has⟩ := (sound.header header found).singleton singleton given
    exact ⟨superclass, below.continues stored continues kept,
      has.continues (lasting_isSingletonOf _ _) continues
        (continues.closed stored kept refers has.contains)⟩
  classRecord := by
    rintro record rfl
    have holds := sound.classRecord record rfl
    refine ⟨fun initialized => (holds.rooted initialized).continues continues kept,
      holds.apart, holds.owner, ?_, holds.nameless, holds.flagged, ?_⟩
    · intro name given
      have has := holds.name name given
      exact has.continues lasting_isText continues
        (continues.closed stored kept (.inr (.inr (.inr (.inr given)))) has.contains)
    · intro object given
      have has := holds.attached object given
      exact has.continues (lasting_hasSingleton _) continues
        (continues.closed stored kept (.inr (.inr (.inr (.inl given)))) has.contains)
  plain := by
    rintro header rfl
    have has := sound.plain header rfl
    exact has.continues lasting_isOrdinary continues
      (continues.closed stored kept (.inl rfl) has.contains)

namespace Heap

/-- A heap that continues a well-formed one is well-formed if its new and changed objects are
sound. At most one class, the given one, may have a new name, and that text must be new. -/
theorem WellFormed.continues (wf : before.WellFormed builtins) (tidy : after.Tidy)
    (continues : before.Continues after)
    (sound : ∀ id object, after.get? id = some object →
      before.get? id = some object ∨ object.Sound after builtins id)
    (named : ObjectId)
    (names : ∀ id record name, after.get? id = some (.classRecord record) →
      record.name = some name →
      (∃ old, before.get? id = some (.classRecord old) ∧ old.name = some name) ∨
        id = named ∧ before.get? name = none)
    (builtin : ∀ id ∈ builtins.toList, after.contains id)
    (pinned : ∀ id, 0 < after.pinCount id → after.contains id) :
    after.WellFormed builtins where
  tidy := tidy
  sound := by
    intro id object stored
    rcases sound id object stored with same | sound
    · exact (wf.sound same).continues same continues (contains_iff.mpr ⟨object, stored⟩)
    · exact sound
  names := by
    -- a name that a class had before is a live text, and a new one is not
    have old_ne_new : ∀ {a : ObjectId} {old : ClassRecord} {name : ObjectId},
        before.get? a = some (.classRecord old) → old.name = some name →
        before.get? name ≠ none := by
      intro a old name stored given empty
      obtain ⟨text, found, _⟩ := ((wf.sound stored).classRecord old rfl).name name given
      rw [empty] at found
      cases found
    intro a b name first second ha hb na nb
    rcases names a first name ha na with ⟨old, stored, given⟩ | ⟨rfl, fresh⟩
    · rcases names b second name hb nb with ⟨old', stored', given'⟩ | ⟨rfl, fresh⟩
      · exact wf.names stored stored' given given'
      · exact absurd fresh (old_ne_new stored given)
    · rcases names b second name hb nb with ⟨old', stored', given'⟩ | ⟨rfl, _⟩
      · exact absurd fresh (old_ne_new stored' given')
      · rfl
  builtins := fun id mem =>
    (wf.builtins id mem).continues HeapObject.lasting_isOrdinary continues (builtin id mem)
  pinned := fun pinned' => pinned _ pinned'

/-- The same for a heap that keeps every object and has the same pins. -/
theorem WellFormed.grows (wf : before.WellFormed builtins) (tidy : after.Tidy)
    (grows : before.Grows after) (pins : after.pins = before.pins)
    (sound : ∀ id object, after.get? id = some object →
      before.get? id = some object ∨ object.Sound after builtins id)
    (named : ObjectId)
    (names : ∀ id record name, after.get? id = some (.classRecord record) →
      record.name = some name →
      (∃ old, before.get? id = some (.classRecord old) ∧ old.name = some name) ∨
        id = named ∧ before.get? name = none) :
    after.WellFormed builtins := by
  refine wf.continues tidy grows.continues sound named names ?_ ?_
  · intro id mem
    exact grows.contains (wf.builtins id mem).contains
  · intro id pinned
    rw [pinCount, pins] at pinned
    exact grows.contains (wf.pinned pinned)

/-- The singleton class of an object is an initialized class. -/
theorem WellFormed.isInitialized_singleton (wf : before.WellFormed builtins) {id : ObjectId}
    {object : HeapObject} {header : Header} {singleton : ObjectId}
    (stored : before.get? id = some object) (found : object.header? = some header)
    (given : header.singleton = some singleton) :
    before.Has singleton HeapObject.IsInitialized := by
  obtain ⟨_, _, has⟩ := ((wf.sound stored).header header found).singleton singleton given
  exact has.imp fun _ => HeapObject.IsSingletonOf.isInitialized

theorem WellFormed.exists_singleton (wf : before.WellFormed builtins) {id : ObjectId}
    {object : HeapObject} {header : Header} (stored : before.get? id = some object)
    (found : object.header? = some header) : ∀ singleton, header.singleton = some singleton →
    ∃ record, before.get? singleton = some (.classRecord record) := by
  intro singleton given
  obtain ⟨record, isClass, _⟩ :=
    (wf.isInitialized_singleton stored found given).exists_classRecord
  exact ⟨record, isClass⟩

theorem WellFormed.rooted (wf : before.WellFormed builtins) {id : ObjectId}
    (initialized : before.Has id HeapObject.IsInitialized) :
    before.Rooted builtins.root id := by
  obtain ⟨record, stored, started⟩ := initialized.exists_classRecord
  exact ((wf.sound stored).classRecord record rfl).rooted started

/-- The chain of an initialized class is kept where every object is kept. -/
theorem WellFormed.rooted_of_grows (wf : before.WellFormed builtins)
    (grows : before.Grows after) {id : ObjectId}
    (initialized : before.Has id HeapObject.IsInitialized) : after.Rooted builtins.root id :=
  (wf.rooted initialized).continues grows.continues (grows.contains initialized.contains)

theorem continues_collect (heap : Heap) (roots : List ObjectId) :
    heap.Continues (heap.collect roots).2 where
  evolves := by
    intro id old new stored stored'
    have same := (get?_collect_eq_some_iff.mp stored').2
    rw [stored] at same
    cases same
    exact .refl old
  closed := by
    intro source target old stored kept refers live
    have reached := contains_collect_iff.mp kept
    exact contains_collect_iff.mpr (.step reached stored refers live)

/-- A collection from the built-in classes, the pinned objects and further roots keeps a heap
well-formed. -/
theorem WellFormed.collect (wf : before.WellFormed builtins) {roots : List ObjectId}
    (standing : ∀ id ∈ builtins.toList ++ before.pinned, id ∈ roots) :
    (before.collect roots).2.WellFormed builtins := by
  have root : ∀ id ∈ builtins.toList ++ before.pinned, before.contains id →
      (before.collect roots).2.contains id := fun id mem live =>
    contains_collect_iff.mpr (.root (standing id mem) live)
  refine wf.continues (tidy_collect _ _) (continues_collect _ _) ?_ builtins.root ?_ ?_ ?_
  · intro id object stored
    exact .inl (get?_collect_eq_some_iff.mp stored).2
  · intro id record name stored given
    exact .inl ⟨record, (get?_collect_eq_some_iff.mp stored).2, given⟩
  · intro id mem
    exact root id (List.mem_append_left _ mem) (wf.builtins id mem).contains
  · intro id pinned
    exact root id (List.mem_append_right _ (mem_pinned.mpr pinned)) (wf.pinned pinned)

end Heap

end Continues

end Metamodel
