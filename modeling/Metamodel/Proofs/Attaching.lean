import Metamodel.Proofs.Linking

/-!
# Attaching singleton classes

Making the singleton class of an object in its place keeps a heap well-formed. The singleton
class receives one of its own when the class above it has one, as in every linking.
-/

namespace Metamodel

namespace Heap

variable {before after : Heap} {builtins : Builtins}

/-- The class below which a singleton class belongs is initialized. -/
theorem WellFormed.isInitialized_above (wf : before.WellFormed builtins)
    {object superclass : ObjectId} {stored : HeapObject}
    (live : before.get? object = some stored)
    (below : before.SingletonBelow builtins.anchor stored superclass) :
    before.Has superclass HeapObject.IsInitialized := by
  cases below with
  | plain header =>
      have owner := (wf.sound live).plain header rfl
      exact owner.isInitialized
  | top none => exact wf.anchor_isOrdinary.isInitialized
  | beside next has =>
      obtain ⟨parent, found, header, isHeader, given⟩ := has
      exact wf.isInitialized_singleton found isHeader given

/-- What the making of a singleton class does: the object receives a new one, which may have a
new one itself, and nothing else changes. -/
structure Attaches (before after : Heap) (object superclass singleton : ObjectId)
    (stored : HeapObject) (parent : ClassRecord) (derived : Option ObjectId) : Prop where
  target : before.get? object = some stored
  alone : ∃ header, stored.header? = some header ∧ header.singleton = none
  upper : before.get? superclass = some (.classRecord parent)
  newSingleton : before.get? singleton = none
  newMirror : ∀ {id : ObjectId}, derived = some id → before.get? id = none
  attached : after.get? object = some (stored.withSingleton singleton)
  made : after.get? singleton = some (.classRecord { ClassRecord.singletonOf object superclass
    parent.owner parent.instanceTag with singleton := derived })
  mirrored : ∀ {id : ObjectId}, derived = some id → ∃ above mirrored,
    parent.singleton = some above ∧ before.get? above = some (.classRecord mirrored) ∧
      after.get? id = some (.classRecord
        (.singletonOf singleton above above mirrored.instanceTag))
  frame : ∀ {id : ObjectId}, id ≠ object → id ≠ singleton → derived ≠ some id →
    after.get? id = before.get? id

/-- What is stored after the making of a singleton class, and where. -/
inductive Attached (before : Heap) (object superclass singleton : ObjectId) (stored : HeapObject)
    (parent : ClassRecord) (derived : Option ObjectId) : ObjectId → HeapObject → Prop
  /-- The object itself. -/
  | object {new : HeapObject} : new = stored.withSingleton singleton →
      Attached before object superclass singleton stored parent derived object new
  /-- Its singleton class. -/
  | singleton : Attached before object superclass singleton stored parent derived singleton
      (.classRecord { ClassRecord.singletonOf object superclass parent.owner parent.instanceTag
        with singleton := derived })
  /-- The singleton class of that one, below that of the class above and with the same tag for
  instances. -/
  | mirror {id above : ObjectId} {mirrored : ClassRecord} : derived = some id →
      parent.singleton = some above → before.get? above = some (.classRecord mirrored) →
      Attached before object superclass singleton stored parent derived id
        (.classRecord (.singletonOf singleton above above mirrored.instanceTag))
  /-- An object that was there before. -/
  | kept {id : ObjectId} {other : HeapObject} : id ≠ object → before.get? id = some other →
      Attached before object superclass singleton stored parent derived id other

namespace Attaches

variable {object superclass singleton : ObjectId} {stored : HeapObject} {parent : ClassRecord}
  {derived : Option ObjectId}

/-- After the making of a singleton class nothing else is stored. -/
theorem attached_of_get?
    (attaches : Attaches before after object superclass singleton stored parent derived)
    {id : ObjectId} {new : HeapObject} (found : after.get? id = some new) :
    Attached before object superclass singleton stored parent derived id new := by
  by_cases here : id = object
  · subst here
    rw [attaches.attached] at found
    exact .object (Option.some.inj found).symm
  by_cases there : id = singleton
  · subst there
    rw [attaches.made] at found
    cases found
    exact .singleton
  by_cases isMirror : derived = some id
  · obtain ⟨above, mirrored, has, isAbove, made⟩ := attaches.mirrored isMirror
    rw [made] at found
    cases found
    exact .mirror isMirror has isAbove
  · exact .kept here (attaches.frame here there isMirror ▸ found)

/-- An object other than the one that receives the singleton class is kept as it is. -/
theorem kept
    (attaches : Attaches before after object superclass singleton stored parent derived)
    {id : ObjectId} {other : HeapObject} (found : before.get? id = some other)
    (ne : id ≠ object) : after.get? id = some other := by
  rw [attaches.frame ne, found]
  · rintro rfl
    rw [attaches.newSingleton] at found
    cases found
  · intro given
    rw [attaches.newMirror given] at found
    cases found

/-- The object gains a singleton class. -/
theorem grows
    (attaches : Attaches before after object superclass singleton stored parent derived) :
    before.Grows after := by
  intro id old found
  by_cases here : id = object
  · subst here
    rw [attaches.target] at found
    cases found
    refine ⟨_, attaches.attached, ?_⟩
    obtain ⟨header, isHeader, alone⟩ := attaches.alone
    have given : ∀ id, header.singleton = some id → some singleton = some id := by
      intro id other
      rw [alone] at other
      cases other
    cases stored with
    | classRecord record =>
        cases isHeader
        exact .classRecord ⟨⟨rfl, rfl, given⟩, rfl, rfl, fun h => h, fun _ => ⟨rfl, rfl⟩,
          fun _ h => h⟩
    | plain header =>
        cases isHeader
        exact .plain ⟨rfl, rfl, given⟩
    | text content => cases isHeader
  · exact ⟨old, attaches.kept found here, .refl old⟩

/-- The object has the new singleton class. -/
theorem held
    (attaches : Attaches before after object superclass singleton stored parent derived) :
    after.Has object (HeapObject.HasSingleton singleton) := by
  obtain ⟨header, isHeader, _⟩ := attaches.alone
  refine ⟨_, attaches.attached, ?_⟩
  cases stored with
  | classRecord record => exact ⟨_, rfl, rfl⟩
  | plain header => exact ⟨_, rfl, rfl⟩
  | text content => cases isHeader

variable (wf : before.WellFormed builtins)
  (attaches : Attaches before after object superclass singleton stored parent derived)
  (below : before.SingletonBelow builtins.anchor stored superclass)
include wf attaches below

/-- The new singleton class has the owner of the class above it. -/
theorem sound_singleton (grows : before.Grows after) :
    HeapObject.Sound after builtins singleton (.classRecord
      { ClassRecord.singletonOf object superclass parent.owner parent.instanceTag with
        singleton := derived }) := by
  have owner := ((wf.sound attaches.upper).header _ rfl).owner
  refine HeapObject.sound_singletonOf attaches.made
    (owner.grows HeapObject.lasting_isInitialized grows)
    (wf.rooted_of_grows grows (wf.isInitialized_above attaches.target below)) attaches.held ?_
  intro mirror given
  obtain ⟨above, mirrored, has, _, found⟩ := attaches.mirrored given
  have parentHas : before.Has superclass (HeapObject.HasSingleton above) :=
    ⟨_, attaches.upper, _, rfl, has⟩
  exact ⟨above, parentHas.grows (HeapObject.lasting_hasSingleton _) grows,
    _, found, rfl, rfl, rfl, rfl⟩

/-- The object is sound with its singleton class. -/
theorem sound_object (grows : before.Grows after)
    (started : ∀ record, stored = .classRecord record → record.initialized) :
    HeapObject.Sound after builtins object (stored.withSingleton singleton) := by
  have isSingleton : after.Has singleton (HeapObject.IsSingletonOf object superclass) :=
    ⟨_, attaches.made, rfl, rfl, rfl, rfl⟩
  have old := (wf.sound attaches.target).continues attaches.target grows.continues
    (grows.contains (contains_iff.mpr ⟨_, attaches.target⟩))
  have place := below.continues attaches.target grows.continues
    (grows.contains (contains_iff.mpr ⟨_, attaches.target⟩))
  cases stored with
  | classRecord record =>
      have class_ := old.classRecord record rfl
      apply HeapObject.sound_classRecord
      · refine ⟨(old.header _ rfl).owner, ?_⟩
        rintro _ ⟨⟩
        exact ⟨superclass, place.congr rfl, isSingleton⟩
      · refine ⟨class_.rooted, ?_, class_.owner, class_.name, class_.nameless, class_.flagged,
          class_.attached⟩
        intro raw
        rw [show record.initialized = true from started record rfl] at raw
        cases raw
  | plain header =>
      apply HeapObject.sound_plain
      · refine ⟨(old.header _ rfl).owner, ?_⟩
        rintro _ ⟨⟩
        cases place with
        | plain header => exact ⟨header.owner, .plain _, isSingleton⟩
      · exact old.plain header rfl
  | text content => exact HeapObject.sound_of_isText trivial

/-- Making a singleton class in its place keeps a heap well-formed. -/
theorem wellFormed (started : ∀ record, stored = .classRecord record → record.initialized)
    (tidy : after.Tidy) (pins : after.pins = before.pins) : after.WellFormed builtins := by
  have grows := attaches.grows
  refine wf.grows tidy grows pins ?_ object ?_
  · intro id new found
    cases attaches.attached_of_get? found with
    | object same =>
        subst same
        exact .inr (attaches.sound_object wf below grows started)
    | singleton => exact .inr (attaches.sound_singleton wf below grows)
    | mirror isMirror has _ =>
        have held : after.Has singleton (HeapObject.HasSingleton id) :=
          ⟨_, attaches.made, _, rfl, isMirror⟩
        exact .inr (wf.sound_mirror grows attaches.upper has found held)
    | kept _ old => exact .inl old
  · intro id record name found given
    refine .inl ?_
    cases attaches.attached_of_get? found with
    | object same =>
        have target := attaches.target
        cases stored with
        | classRecord old =>
            cases same
            exact ⟨old, target, given⟩
        | plain header => cases same
        | text content => cases same
    | singleton => cases given
    | mirror _ _ _ => cases given
    | kept _ old => exact ⟨record, old, given⟩

end Attaches

section MakeSingleton

variable {object superclass : ObjectId} {stored : HeapObject} {header : Header}
  {parent : ClassRecord}

/-- The singleton class of an object made below a class without one. -/
theorem attaches_of_none {heap : Heap} (tidy : heap.Tidy)
    (target : heap.get? object = some stored) (isHeader : stored.header? = some header)
    (alone : header.singleton = none) (upper : heap.get? superclass = some (.classRecord parent))
    (bare : parent.singleton = none) :
    heap.Attaches (heap.makeSingleton object superclass parent) object superclass heap.nextId
      stored parent none := by
  have upper' := get?_addClass_of_some tidy parent.owner upper
  have view := fun id => get?_makeSingleton_of_none tidy
    (singletonAbove_of_none upper' bare) target id
  have ne := tidy.ne_nextId target
  refine
    { target, upper
      alone := ⟨header, isHeader, alone⟩
      newSingleton := tidy.get?_nextId
      newMirror := by rintro id ⟨⟩
      attached := (view object).trans ((if_neg ne).trans (if_pos rfl))
      made := (view heap.nextId).trans (if_pos rfl)
      mirrored := by rintro id ⟨⟩
      frame := fun here there _ => (view _).trans ((if_neg there).trans (if_neg here)) }

/-- The singleton class of an object made below a class that has one. -/
theorem attaches_of_some {heap : Heap} (tidy : heap.Tidy) {above : ObjectId}
    {mirrored : ClassRecord} (target : heap.get? object = some stored)
    (isHeader : stored.header? = some header) (alone : header.singleton = none)
    (upper : heap.get? superclass = some (.classRecord parent))
    (given : parent.singleton = some above)
    (found : heap.get? above = some (.classRecord mirrored)) :
    heap.Attaches (heap.makeSingleton object superclass parent) object superclass heap.nextId
      stored parent (some (heap.addClass parent.owner).nextId) := by
  have upper' := get?_addClass_of_some tidy parent.owner upper
  have found' := get?_addClass_of_some tidy parent.owner found
  have view := fun id => get?_makeSingleton_of_some tidy
    (singletonAbove_of_some upper' given found') target id
  have ne := tidy.ne_nextId target
  have tidy' := tidy.addClass parent.owner
  have apart : (heap.addClass parent.owner).nextId ≠ heap.nextId :=
    (tidy'.ne_nextId (get?_addClass_nextId tidy _)).symm
  have empty : heap.get? (heap.addClass parent.owner).nextId = none := by
    have empty' := tidy'.get?_nextId
    rwa [get?_addClass tidy, if_neg apart] at empty'
  have elsewhere : (heap.addClass parent.owner).nextId ≠ object := by
    rintro rfl
    rw [empty] at target
    cases target
  refine
    { target, upper
      alone := ⟨header, isHeader, alone⟩
      newSingleton := tidy.get?_nextId
      newMirror := by rintro id ⟨⟩; exact empty
      attached := (view object).trans ((if_neg ne).trans (if_pos rfl))
      made := (view heap.nextId).trans (if_pos rfl)
      mirrored := ?_
      frame := ?_ }
  · rintro id ⟨⟩
    refine ⟨above, mirrored, given, found, ?_⟩
    rw [view, if_neg apart, if_neg elsewhere, if_pos rfl]
  · intro id here there noMirror
    rw [view, if_neg there, if_neg here, if_neg fun e => noMirror (congrArg some e.symm)]

/-- Making a singleton class in a well-formed heap. It receives a singleton class of its own
exactly when the class above it has one. -/
theorem WellFormed.exists_attaches (wf : before.WellFormed builtins)
    (target : before.get? object = some stored) (isHeader : stored.header? = some header)
    (alone : header.singleton = none)
    (upper : before.get? superclass = some (.classRecord parent)) :
    ∃ derived, before.Attaches (before.makeSingleton object superclass parent) object superclass
      before.nextId stored parent derived ∧ derived.isSome = parent.singleton.isSome := by
  cases given : parent.singleton with
  | none => exact ⟨_, attaches_of_none wf.tidy target isHeader alone upper given, rfl⟩
  | some above =>
      obtain ⟨mirrored, found⟩ := wf.exists_singleton upper rfl above given
      exact ⟨_, attaches_of_some wf.tidy target isHeader alone upper given found, rfl⟩

theorem WellFormed.attaches (wf : before.WellFormed builtins)
    (target : before.get? object = some stored) (isHeader : stored.header? = some header)
    (alone : header.singleton = none)
    (upper : before.get? superclass = some (.classRecord parent)) :
    ∃ derived, before.Attaches (before.makeSingleton object superclass parent) object superclass
      before.nextId stored parent derived := by
  obtain ⟨derived, attaches, _⟩ := wf.exists_attaches target isHeader alone upper
  exact ⟨derived, attaches⟩

end MakeSingleton

end Heap

end Metamodel
