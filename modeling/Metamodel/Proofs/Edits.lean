import Mathlib.Logic.Relation
import Metamodel.Heap.Pins
import Metamodel.Proofs.Attaching

/-!
# Edits

The ways in which operations change a heap, with what has been checked before each of them. One
edit keeps a heap well-formed, and so does every row of edits.
-/

namespace Metamodel

namespace Heap

section Pins

variable (heap : Heap)

theorem pins_storeName (name : String) : (heap.storeName name).2.pins = heap.pins := by
  unfold storeName
  split
  · rfl
  · exact pins_allocate _ _

theorem pins_joinUnder (superclass subclass : ObjectId) (name : String) (tag : TypeTag) :
    (heap.joinUnder superclass subclass name tag).pins = heap.pins :=
  pins_storeName heap name

theorem pins_addClass (owner : ObjectId) : (heap.addClass owner).pins = heap.pins :=
  pins_allocate _ _

theorem pins_attachSingleton (object singleton : ObjectId) :
    (heap.attachSingleton object singleton).pins = heap.pins := rfl

theorem pins_deriveSingleton (subclass : ObjectId) (above : Option (ObjectId × TypeTag)) :
    (heap.deriveSingleton subclass above).pins = heap.pins := by
  cases above with
  | none => rfl
  | some above => rw [deriveSingleton, pins_attachSingleton, pins_joinUnder, pins_addClass]

theorem pins_link (superclass subclass : ObjectId) (name : String) (tag : TypeTag) :
    (heap.link superclass subclass name tag).pins = heap.pins := by
  rw [link, pins_joinUnder, pins_deriveSingleton]

theorem pins_makeSingleton (object superclass : ObjectId) (record : ClassRecord) :
    (heap.makeSingleton object superclass record).pins = heap.pins := by
  rw [makeSingleton, pins_attachSingleton, pins_link, pins_addClass]

theorem pins_assignName (target : ObjectId) (name : String) :
    (heap.assignName target name).pins = heap.pins :=
  pins_allocate _ _

theorem slots_unpin (id : ObjectId) : (heap.unpin id).2.slots = heap.slots := by
  unfold unpin
  split <;> rfl

theorem vacant_unpin (id : ObjectId) : (heap.unpin id).2.vacant = heap.vacant := by
  unfold unpin
  split <;> rfl

end Pins

variable {before after : Heap} {builtins : Builtins}

theorem WellFormed.link (wf : before.WellFormed builtins) {superclass subclass : ObjectId}
    {parent record : ClassRecord} {name : String} (tag : TypeTag)
    (upper : before.get? superclass = some (.classRecord parent)) (started : parent.initialized)
    (lower : before.get? subclass = some (.classRecord record))
    (raw : record.initialized = false) (unnamed : name.isEmpty ∨ record.name = none) :
    (before.link superclass subclass name tag).WellFormed builtins := by
  obtain ⟨text, derived, links⟩ :=
    exists_links wf.tidy name tag upper started lower raw unnamed (wf.exists_singleton upper rfl)
  exact links.wellFormed wf (wf.tidy.link _ _ _ _) (pins_link _ _ _ _ _)

/-- A new class linked below an initialized one. -/
theorem WellFormed.derive (wf : before.WellFormed builtins) {superclass : ObjectId}
    {parent : ClassRecord} (name : String) (tag : TypeTag)
    (upper : before.get? superclass = some (.classRecord parent)) (started : parent.initialized) :
    ((before.addClass builtins.anchor).link superclass before.nextId name tag).WellFormed
      builtins :=
  wf.addClass.link tag (get?_addClass_of_some wf.tidy _ upper) started
    (get?_addClass_nextId wf.tidy _) rfl (.inr rfl)

theorem WellFormed.makeSingleton (wf : before.WellFormed builtins)
    {object superclass : ObjectId} {stored : HeapObject} {header : Header} {parent : ClassRecord}
    (target : before.get? object = some stored) (isHeader : stored.header? = some header)
    (alone : header.singleton = none)
    (started : ∀ record, stored = .classRecord record → record.initialized)
    (below : before.SingletonBelow builtins.anchor stored superclass)
    (upper : before.get? superclass = some (.classRecord parent)) :
    (before.makeSingleton object superclass parent).WellFormed builtins := by
  obtain ⟨derived, attaches⟩ := wf.attaches target isHeader alone upper
  exact attaches.wellFormed wf below started (wf.tidy.makeSingleton _ _ _)
    (pins_makeSingleton _ _ _ _)

theorem grows_assignName (tidy : before.Tidy) {target : ObjectId} {record : ClassRecord}
    (name : String) (stored : before.get? target = some (.classRecord record))
    (unnamed : record.name = none) : before.Grows (before.assignName target name) := by
  intro id old found
  rw [get?_assignName tidy stored, if_neg (tidy.ne_nextId found)]
  split
  · next here =>
      rw [here, stored] at found
      cases found
      refine ⟨_, rfl, .classRecord ⟨.refl _, rfl, rfl, fun h => h, fun _ => ⟨rfl, rfl⟩, ?_⟩⟩
      intro other given
      rw [unnamed] at given
      cases given
  · exact ⟨old, found, .refl old⟩

theorem WellFormed.assignName (wf : before.WellFormed builtins) {target : ObjectId}
    {record : ClassRecord} (name : String)
    (stored : before.get? target = some (.classRecord record))
    (ordinary : record.isSingleton = false) (unnamed : record.name = none) :
    (before.assignName target name).WellFormed builtins := by
  have grows := grows_assignName wf.tidy name stored unnamed
  have ne := wf.tidy.ne_nextId stored
  have view := fun id => get?_assignName wf.tidy stored name id
  have live : (before.assignName target name).contains target :=
    grows.contains (contains_iff.mpr ⟨_, stored⟩)
  have text : (before.assignName target name).Has before.nextId HeapObject.IsText :=
    ⟨_, (view _).trans ((if_neg ne.symm).trans (if_pos rfl)), trivial⟩
  refine wf.grows (wf.tidy.assignName _ _) grows (pins_assignName _ _ _) ?_ target ?_
  · intro id object found
    rw [view] at found
    split at found
    · next here =>
        subst here
        cases found
        have old := (wf.sound stored).continues stored grows.continues live
        have class_ := old.classRecord record rfl
        refine .inr (HeapObject.sound_classRecord ?_ ?_)
        · have sound := old.header _ rfl
          refine ⟨sound.owner, ?_⟩
          intro singleton given
          obtain ⟨superclass, below, has⟩ := sound.singleton singleton given
          exact ⟨superclass, below.congr rfl, has⟩
        · refine ⟨class_.rooted, class_.apart, class_.owner, ?_, ?_, class_.flagged,
            class_.attached⟩
          · rintro _ ⟨⟩
            exact text
          · intro flagged
            rw [show record.isSingleton = true from flagged] at ordinary
            cases ordinary
    · split at found
      · cases found
        exact .inr (HeapObject.sound_of_isText trivial)
      · exact .inl found
  · intro id new given found isName
    rw [view] at found
    split at found
    · next here =>
        cases found
        cases isName
        exact .inr ⟨here, wf.tidy.get?_nextId⟩
    · split at found
      · cases found
      · exact .inl ⟨new, found, isName⟩

/-- Only the slots matter, and that pinned objects are live. -/
theorem WellFormed.of_slots (wf : before.WellFormed builtins)
    (slots : after.slots = before.slots) (vacant : after.vacant = before.vacant)
    (pinned : ∀ id, 0 < after.pinCount id → before.contains id) :
    after.WellFormed builtins := by
  have view : ∀ id, after.get? id = before.get? id := fun id => by rw [get?, get?, slots]
  have grows : before.Grows after := fun id old found =>
    ⟨old, (view id).trans found, .refl old⟩
  refine wf.continues (wf.tidy.of_slots slots vacant) grows.continues ?_ builtins.root ?_ ?_ ?_
  · intro id object found
    exact .inl ((view id).symm.trans found)
  · intro id record name found given
    exact .inl ⟨record, (view id).symm.trans found, given⟩
  · intro id mem
    exact grows.contains (wf.builtins id mem).contains
  · intro id protected_
    exact grows.contains (pinned id protected_)

theorem WellFormed.pin (wf : before.WellFormed builtins) {id : ObjectId}
    (live : before.contains id) :
    Heap.WellFormed { before with pins := before.pins.increment id } builtins := by
  refine wf.of_slots rfl rfl ?_
  intro other protected_
  by_cases here : other = id
  · exact here ▸ live
  · apply wf.pinned
    simpa [pinCount, PinTable.count_increment, here] using protected_

theorem WellFormed.unpin (wf : before.WellFormed builtins) (id : ObjectId) :
    (before.unpin id).2.WellFormed builtins := by
  refine wf.of_slots (slots_unpin _ _) (vacant_unpin _ _) ?_
  intro other protected_
  apply wf.pinned
  rw [pinCount_unpin] at protected_
  split at protected_ <;> omega

/-- One edit of a heap with the given built-in classes. -/
inductive Edit (builtins : Builtins) : Heap → Heap → Prop
  /-- Add an instance of a class. -/
  | addInstance {heap : Heap} {owner : ObjectId} {record : ClassRecord} :
      heap.get? owner = some (.classRecord record) → record.initialized →
      record.isSingleton = false →
      Edit builtins heap (heap.allocate (.plain (.fresh record.instanceTag owner))).2
  /-- Add a class below another one. -/
  | derive {heap : Heap} {superclass : ObjectId} {parent : ClassRecord} (name : String)
      (tag : TypeTag) : heap.get? superclass = some (.classRecord parent) →
      superclass ≠ builtins.anchor → parent.isSingleton = false → parent.initialized →
      Edit builtins heap
        ((heap.addClass builtins.anchor).link superclass heap.nextId name tag)
  /-- Initialize a class below another one. -/
  | link {heap : Heap} {superclass subclass : ObjectId} {parent record : ClassRecord}
      (tag : TypeTag) : heap.get? superclass = some (.classRecord parent) →
      superclass ≠ builtins.anchor → parent.isSingleton = false → parent.initialized →
      heap.get? subclass = some (.classRecord record) → record.initialized = false →
      Edit builtins heap (heap.link superclass subclass "" tag)
  /-- Make the singleton class of an object. -/
  | makeSingleton {heap : Heap} {object superclass : ObjectId} {stored : HeapObject}
      {header : Header} {parent : ClassRecord} : heap.get? object = some stored →
      stored.header? = some header → header.singleton = none →
      (∀ record, stored = .classRecord record → record.initialized) →
      heap.SingletonBelow builtins.anchor stored superclass →
      heap.get? superclass = some (.classRecord parent) →
      Edit builtins heap (heap.makeSingleton object superclass parent)
  /-- Name an anonymous class. -/
  | assignName {heap : Heap} {target : ObjectId} {record : ClassRecord} (name : String) :
      heap.get? target = some (.classRecord record) → record.isSingleton = false →
      record.name = none → Edit builtins heap (heap.assignName target name)
  | collect {heap : Heap} {roots : List ObjectId} :
      (∀ id ∈ builtins.toList ++ heap.pinned, id ∈ roots) →
      Edit builtins heap (heap.collect roots).2
  | pin {heap : Heap} {id : ObjectId} : heap.contains id →
      Edit builtins heap { heap with pins := heap.pins.increment id }
  | unpin (heap : Heap) (id : ObjectId) : Edit builtins heap (heap.unpin id).2

/-- Edits in a row. -/
abbrev Edits (builtins : Builtins) : Heap → Heap → Prop :=
  Relation.ReflTransGen (Edit builtins)

/-- One edit keeps a heap well-formed. -/
theorem Edit.wellFormed (edit : Edit builtins before after) (wf : before.WellFormed builtins) :
    after.WellFormed builtins := by
  cases edit with
  | addInstance stored initialized ordinary => exact wf.addInstance stored initialized ordinary
  | derive name tag upper _ _ started => exact wf.derive name tag upper started
  | link tag upper _ _ started lower raw =>
      exact wf.link tag upper started lower raw (.inl rfl)
  | makeSingleton target isHeader alone started below upper =>
      exact wf.makeSingleton target isHeader alone started below upper
  | assignName name stored ordinary unnamed => exact wf.assignName name stored ordinary unnamed
  | collect standing => exact wf.collect standing
  | pin live => exact wf.pin live
  | unpin id => exact wf.unpin id

/-- A row of edits keeps a heap well-formed. -/
theorem Edits.wellFormed (edits : Edits builtins before after) (wf : before.WellFormed builtins) :
    after.WellFormed builtins := by
  induction edits with
  | refl => exact wf
  | tail _ edit ih => exact edit.wellFormed ih

end Heap

end Metamodel
