import Metamodel.Proofs.Additions

/-!
# Linking

Linking an uninitialized class below an initialized one keeps a heap well-formed: the class joins
the hierarchy with its singleton class, if there is one to mirror, beside it.
-/

namespace Metamodel

namespace Heap

variable {before after : Heap} {builtins : Builtins}

/-- What linking does: the subclass joins the hierarchy, a text and a singleton class may be new,
and nothing else changes. -/
structure Links (before after : Heap) (superclass subclass : ObjectId)
    (parent record : ClassRecord) (tag : TypeTag) (text derived : Option ObjectId) : Prop where
  upper : before.get? superclass = some (.classRecord parent)
  started : parent.initialized
  lower : before.get? subclass = some (.classRecord record)
  raw : record.initialized = false
  unnamed : text = none ∨ record.name = none
  newText : ∀ {id : ObjectId}, text = some id → before.get? id = none
  newClass : ∀ {id : ObjectId}, derived = some id → before.get? id = none
  joined : after.get? subclass = some (.classRecord (ClassRecord.joined
    { record with singleton := derived.or record.singleton } superclass text tag))
  named : ∀ {id : ObjectId}, text = some id → after.Has id HeapObject.IsText
  mirrored : ∀ {id : ObjectId}, derived = some id → ∃ above mirrored,
    parent.singleton = some above ∧ before.get? above = some (.classRecord mirrored) ∧
      after.get? id = some (.classRecord
        (.singletonOf subclass above above mirrored.instanceTag))
  alone : derived = none → parent.singleton = none
  frame : ∀ {id : ObjectId}, id ≠ subclass → text ≠ some id → derived ≠ some id →
    after.get? id = before.get? id

/-- What is stored after linking, and where. -/
inductive Linked (before : Heap) (superclass subclass : ObjectId) (parent record : ClassRecord)
    (tag : TypeTag) (text derived : Option ObjectId) : ObjectId → HeapObject → Prop
  /-- The subclass itself. -/
  | subclass : Linked before superclass subclass parent record tag text derived subclass
      (.classRecord (ClassRecord.joined
        { record with singleton := derived.or record.singleton } superclass text tag))
  /-- The text of its name. -/
  | text {id : ObjectId} {object : HeapObject} : text = some id → object.IsText →
      Linked before superclass subclass parent record tag text derived id object
  /-- Its singleton class, below that of the superclass and with the same tag for instances. -/
  | mirror {id above : ObjectId} {mirrored : ClassRecord} : derived = some id →
      parent.singleton = some above → before.get? above = some (.classRecord mirrored) →
      Linked before superclass subclass parent record tag text derived id
        (.classRecord (.singletonOf subclass above above mirrored.instanceTag))
  /-- An object that was there before. -/
  | kept {id : ObjectId} {object : HeapObject} : id ≠ subclass → before.get? id = some object →
      Linked before superclass subclass parent record tag text derived id object

namespace Links

variable {superclass subclass : ObjectId} {parent record : ClassRecord} {tag : TypeTag}
  {text derived : Option ObjectId}

/-- After linking nothing else is stored. -/
theorem linked_of_get?
    (links : Links before after superclass subclass parent record tag text derived)
    {id : ObjectId} {object : HeapObject} (found : after.get? id = some object) :
    Linked before superclass subclass parent record tag text derived id object := by
  by_cases here : id = subclass
  · subst here
    rw [links.joined] at found
    cases found
    exact .subclass
  by_cases isText : text = some id
  · exact .text isText ((links.named isText).of_get? found)
  by_cases isClass : derived = some id
  · obtain ⟨above, mirrored, has, isAbove, stored⟩ := links.mirrored isClass
    rw [stored] at found
    cases found
    exact .mirror isClass has isAbove
  · exact .kept here (links.frame here isText isClass ▸ found)

/-- An object other than the subclass is kept as it is. -/
theorem kept (links : Links before after superclass subclass parent record tag text derived)
    {id : ObjectId} {object : HeapObject} (found : before.get? id = some object)
    (ne : id ≠ subclass) : after.get? id = some object := by
  rw [links.frame ne, found]
  · intro given
    simp [links.newText given] at found
  · intro given
    simp [links.newClass given] at found

/-- The subclass is initialized, and its references are given for the first time. -/
theorem grows (links : Links before after superclass subclass parent record tag text derived)
    (alone : record.singleton = none) : before.Grows after := by
  intro id old found
  by_cases here : id = subclass
  · subst here
    rw [links.lower] at found
    cases found
    refine ⟨_, links.joined, .classRecord ⟨⟨rfl, rfl, ?_⟩, rfl, rfl, fun _ => rfl, ?_, ?_⟩⟩
    · intro singleton given
      rw [alone] at given
      cases given
    · intro same
      rw [links.raw] at same
      cases same
    · intro name given
      rcases links.unnamed with none | none
      · simpa [ClassRecord.joined, none] using given
      · rw [none] at given
        cases given
  · exact ⟨old, links.kept found here, .refl old⟩

variable (wf : before.WellFormed builtins)
  (links : Links before after superclass subclass parent record tag text derived)
include wf links

/-- The subclass takes its place in the hierarchy, its singleton class below that of the
superclass. -/
theorem sound_subclass (grows : before.Grows after) :
    HeapObject.Sound after builtins subclass (.classRecord (ClassRecord.joined
      { record with singleton := derived.or record.singleton } superclass text tag)) := by
  have old := (wf.sound links.lower).classRecord record rfl
  apply HeapObject.sound_classRecord
  · have sound := (wf.sound links.lower).header _ rfl
    refine ⟨sound.owner.grows HeapObject.lasting_isInitialized grows, ?_⟩
    intro singleton given
    have given : derived = some singleton := by
      simpa [ClassRecord.joined, (old.apart links.raw).2.1] using given
    obtain ⟨above, mirrored, has, _, stored⟩ := links.mirrored given
    have parentHas : before.Has superclass (HeapObject.HasSingleton above) :=
      ⟨_, links.upper, _, rfl, has⟩
    exact ⟨above, .beside rfl (parentHas.grows (HeapObject.lasting_hasSingleton _) grows),
      _, stored, rfl, rfl, rfl, rfl⟩
  · have plain := (old.apart links.raw).2.2
    have rooted := wf.rooted_of_grows grows ⟨_, links.upper, links.started⟩
    refine ⟨fun _ => .under links.joined rfl rfl rooted, ?_,
      old.owner, ?_, ?_, old.flagged, ?_⟩
    · rintro ⟨⟩
    · intro name given
      cases text with
      | none => exact (old.name name given).grows HeapObject.lasting_isText grows
      | some stored =>
          cases given
          exact links.named rfl
    · intro flagged
      rw [show record.isSingleton = true from flagged] at plain
      cases plain
    · intro object given
      have flagged := old.flagged
      rw [plain, show record.attached = some object from given] at flagged
      cases flagged

/-- Linking keeps a heap well-formed. -/
theorem wellFormed (tidy : after.Tidy) (pins : after.pins = before.pins) :
    after.WellFormed builtins := by
  have old := (wf.sound links.lower).classRecord record rfl
  have grows := links.grows (old.apart links.raw).2.1
  refine wf.grows tidy grows pins ?_ subclass ?_
  · intro id object found
    cases links.linked_of_get? found with
    | subclass => exact .inr (links.sound_subclass wf grows)
    | text _ textual => exact .inr (HeapObject.sound_of_isText textual)
    | mirror isClass has _ =>
        have held : after.Has subclass (HeapObject.HasSingleton id) :=
          ⟨_, links.joined, _, rfl, by simp [ClassRecord.joined, isClass]⟩
        exact .inr (wf.sound_mirror grows links.upper has found held)
    | kept _ stored => exact .inl stored
  · intro id new name found given
    cases links.linked_of_get? found with
    | subclass =>
        cases text with
        | none => exact .inl ⟨record, links.lower, given⟩
        | some stored =>
            cases given
            exact .inr ⟨rfl, links.newText rfl⟩
    | text _ textual => cases textual
    | mirror _ _ _ => cases given
    | kept _ stored => exact .inl ⟨new, stored, given⟩

end Links

theorem storeName_of_isEmpty {heap : Heap} {name : String} (empty : name.isEmpty) :
    heap.storeName name = (none, heap) := by
  rw [storeName, if_pos empty]

theorem singletonAbove_of_none {heap : Heap} {superclass : ObjectId} {record : ClassRecord}
    (stored : heap.get? superclass = some (.classRecord record))
    (alone : record.singleton = none) : heap.singletonAbove superclass = none := by
  simp [singletonAbove, stored, HeapObject.classRecord?, alone]

theorem singletonAbove_of_some {heap : Heap} {superclass above : ObjectId}
    {record mirrored : ClassRecord} (stored : heap.get? superclass = some (.classRecord record))
    (given : record.singleton = some above)
    (found : heap.get? above = some (.classRecord mirrored)) :
    heap.singletonAbove superclass = some (above, mirrored.instanceTag) := by
  simp [singletonAbove, stored, HeapObject.classRecord?, given, found]

/-- The text of a name is stored beside the derived singleton class. -/
theorem ne_nextId_of_deriveSingleton {heap : Heap} {subclass above id : ObjectId}
    {tag : TypeTag} {stored : HeapObject} (tidy : heap.Tidy)
    (live : heap.get? subclass = some stored)
    (empty : (heap.deriveSingleton subclass (some (above, tag))).get? id = none) :
    heap.get? id = none ∧ id ≠ heap.nextId ∧ id ≠ subclass := by
  rw [get?_deriveSingleton tidy live] at empty
  split at empty
  · cases empty
  · next apart =>
      split at empty
      · cases empty
      · next ne => exact ⟨empty, apart, ne⟩

section Link

variable {superclass subclass : ObjectId} {parent record : ClassRecord}

/-- Linking below a class without a singleton class. -/
theorem links_of_none {heap : Heap} (tidy : heap.Tidy) (name : String) (tag : TypeTag)
    (upper : heap.get? superclass = some (.classRecord parent)) (started : parent.initialized)
    (lower : heap.get? subclass = some (.classRecord record)) (raw : record.initialized = false)
    (unnamed : name.isEmpty ∨ record.name = none) (alone : parent.singleton = none) :
    heap.Links (heap.link superclass subclass name tag) superclass subclass parent record tag
      (heap.storeName name).1 none := by
  have view := fun id => get?_link_of_none tidy (singletonAbove_of_none upper alone) lower
    name tag id
  refine
    { upper, started, lower, raw
      unnamed := unnamed.imp_left fun empty => by rw [storeName_of_isEmpty empty]
      newText := get?_eq_none_of_storeName tidy
      newClass := by rintro id ⟨⟩
      joined := (view subclass).trans (if_pos rfl)
      named := ?_
      mirrored := by rintro id ⟨⟩
      alone := fun _ => alone
      frame := fun ne noText _ => (view _).trans ((if_neg ne).trans (if_neg noText)) }
  intro id stored
  have ne : id ≠ subclass := by
    rintro rfl
    rw [get?_eq_none_of_storeName tidy stored] at lower
    cases lower
  exact ⟨_, (view id).trans ((if_neg ne).trans (if_pos stored)), trivial⟩

/-- Linking below a class with a singleton class. -/
theorem links_of_some {heap : Heap} (tidy : heap.Tidy) (name : String) (tag : TypeTag)
    {above : ObjectId} {mirrored : ClassRecord}
    (upper : heap.get? superclass = some (.classRecord parent)) (started : parent.initialized)
    (lower : heap.get? subclass = some (.classRecord record)) (raw : record.initialized = false)
    (unnamed : name.isEmpty ∨ record.name = none)
    (given : parent.singleton = some above)
    (found : heap.get? above = some (.classRecord mirrored)) :
    heap.Links (heap.link superclass subclass name tag) superclass subclass parent record tag
      ((heap.deriveSingleton subclass (some (above, mirrored.instanceTag))).storeName name).1
      (some heap.nextId) := by
  have view := fun id => get?_link_of_some tidy (singletonAbove_of_some upper given found) lower
    name tag id
  have newText : ∀ {id : ObjectId},
      ((heap.deriveSingleton subclass (some (above, mirrored.instanceTag))).storeName name).1 =
        some id → heap.get? id = none ∧ id ≠ heap.nextId ∧ id ≠ subclass := fun stored =>
    ne_nextId_of_deriveSingleton tidy lower
      (get?_eq_none_of_storeName (tidy.deriveSingleton _ _) stored)
  have apart := (tidy.ne_nextId lower).symm
  refine
    { upper, started, lower, raw
      unnamed := unnamed.imp_left fun empty => by rw [storeName_of_isEmpty empty]
      newText := fun stored => (newText stored).1
      newClass := by rintro id ⟨⟩; exact tidy.get?_nextId
      joined := (view subclass).trans (if_pos rfl)
      named := ?_
      mirrored := ?_
      alone := by rintro ⟨⟩
      frame := ?_ }
  · intro id stored
    exact ⟨_, (view id).trans ((if_neg (newText stored).2.2).trans (if_pos stored)), trivial⟩
  · rintro id ⟨⟩
    refine ⟨above, mirrored, given, found, ?_⟩
    rw [view, if_neg apart, if_neg fun stored => (newText stored).2.1 rfl, if_pos rfl]
  · intro id ne noText noClass
    rw [view, if_neg ne, if_neg noText, if_neg fun e => noClass (congrArg some e.symm)]

/-- Linking does what it should if the singleton class to mirror, if there is one, is a class. A
class that has a name receives no other one. -/
theorem exists_links {heap : Heap} (tidy : heap.Tidy) (name : String) (tag : TypeTag)
    (upper : heap.get? superclass = some (.classRecord parent)) (started : parent.initialized)
    (lower : heap.get? subclass = some (.classRecord record)) (raw : record.initialized = false)
    (unnamed : name.isEmpty ∨ record.name = none)
    (mirror : ∀ above, parent.singleton = some above →
      ∃ mirrored, heap.get? above = some (.classRecord mirrored)) :
    ∃ text derived, heap.Links (heap.link superclass subclass name tag) superclass subclass
      parent record tag text derived := by
  cases given : parent.singleton with
  | none => exact ⟨_, _, links_of_none tidy name tag upper started lower raw unnamed given⟩
  | some above =>
      obtain ⟨mirrored, found⟩ := mirror above given
      exact ⟨_, _, links_of_some tidy name tag upper started lower raw unnamed given found⟩

end Link

end Heap

end Metamodel
