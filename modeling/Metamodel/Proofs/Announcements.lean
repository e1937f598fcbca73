import Metamodel.CountingMutex
import Metamodel.Proofs.Stretches

/-!
# Announcements

Which events tell of new classes. Every class that an operation allocates is announced by one event
of the operation, which holds its id: a class that is derived or declared, the singleton class that
it receives, and each singleton class that is made on the way to the one that was asked for.
-/

namespace Metamodel

open Session

namespace Event

/-- The messages that announce a class, each with the field that holds its id. -/
def announcements : List (String × String) :=
  [("subclass created", "subclass"), ("class created", "class"),
    ("mirrored singleton class", "singleton"), ("singleton class created", "singleton")]

/-- The number in a field of an event. -/
def number? (event : Event) (field : String) : Option Nat :=
  match event.fields.lookup field with
  | some (.number value) => some value
  | _ => none

/-- The id of the class that an event announces. -/
def announced? (event : Event) : Option ObjectId :=
  (announcements.lookup event.message).bind event.number?

/-- What is told of a singleton class that is made on demand. -/
structure Creation where
  object : ObjectId
  singleton : ObjectId
  superclass : ObjectId
  deriving DecidableEq

/-- The making of a singleton class that an event tells of. -/
def creation? (event : Event) : Option Creation :=
  if event.message = "singleton class created" then do
    pure ⟨← event.number? "object", ← event.number? "singleton", ← event.number? "superclass"⟩
  else none

end Event

namespace Heap

/-- A heap with further classes, listed by their ids. Other objects may be added as well, and each
that was there is still there and of the same kind. -/
structure AddsClasses (before after : Heap) (ids : List ObjectId) : Prop where
  kept : ∀ id, before.contains id → after.contains id ∧ after.isClass id = before.isClass id
  nodup : ids.Nodup
  mem_iff : ∀ id, id ∈ ids ↔ before.contains id = false ∧ after.isClass id

variable {heap before middle after : Heap} {ids more : List ObjectId} {id : ObjectId}

theorem contains_of_isClass (isClass : heap.isClass id) : heap.contains id := by
  obtain ⟨record, stored⟩ := isClass_iff.mp isClass
  exact contains_iff.mpr ⟨_, stored⟩

theorem not_isClass_of_dead (heap : Heap) (id : ObjectId) :
    ¬ (heap.contains id = false ∧ heap.isClass id) := by
  rintro ⟨dead, isClass⟩
  exact Bool.false_ne_true (dead.symm.trans (contains_of_isClass isClass))

namespace AddsClasses

/-- Objects that change, but not in kind. -/
theorem of_same (contains : ∀ id, after.contains id = before.contains id)
    (isClass : ∀ id, after.isClass id = before.isClass id) : before.AddsClasses after [] where
  kept := fun id live => ⟨(contains id).trans live, isClass id⟩
  nodup := List.nodup_nil
  mem_iff := by
    intro id
    rw [isClass]
    exact iff_of_false List.not_mem_nil (not_isClass_of_dead before id)

theorem refl (heap : Heap) : heap.AddsClasses heap [] :=
  .of_same (fun _ => rfl) fun _ => rfl

theorem trans (first : before.AddsClasses middle ids) (second : middle.AddsClasses after more) :
    before.AddsClasses after (ids ++ more) where
  kept := by
    intro id live
    obtain ⟨live', same⟩ := first.kept id live
    obtain ⟨live'', same'⟩ := second.kept id live'
    exact ⟨live'', same'.trans same⟩
  nodup := by
    refine List.nodup_append.mpr ⟨first.nodup, second.nodup, ?_⟩
    rintro id new _ later rfl
    have live := contains_of_isClass ((first.mem_iff id).mp new).2
    exact Bool.false_ne_true (((second.mem_iff id).mp later).1.symm.trans live)
  mem_iff := by
    intro id
    rw [List.mem_append, first.mem_iff, second.mem_iff]
    constructor
    · rintro (⟨new, isClass⟩ | ⟨new, isClass⟩)
      · exact ⟨new, (second.kept id (contains_of_isClass isClass)).2.trans isClass⟩
      · refine ⟨Bool.eq_false_iff.mpr fun live => ?_, isClass⟩
        exact Bool.false_ne_true (new.symm.trans (first.kept id live).1)
    · rintro ⟨new, isClass⟩
      cases live : middle.contains id with
      | true => exact .inl ⟨new, (second.kept id live).2.symm.trans isClass⟩
      | false => exact .inr ⟨rfl, isClass⟩

/-- A further step that adds no class. -/
theorem trans_nil (first : before.AddsClasses middle ids) (second : middle.AddsClasses after []) :
    before.AddsClasses after ids := by
  simpa only [List.append_nil] using first.trans second

theorem perm (adds : before.AddsClasses after ids) (same : ids.Perm more) :
    before.AddsClasses after more where
  kept := adds.kept
  nodup := same.nodup adds.nodup
  mem_iff := fun id => same.mem_iff.symm.trans (adds.mem_iff id)

end AddsClasses

section Steps

/-- A new object is a further class if it is one. -/
theorem Tidy.addsClasses_allocate (tidy : heap.Tidy) (object : HeapObject) :
    heap.AddsClasses (heap.allocate object).2
      (object.classRecord?.map fun _ => heap.nextId).toList where
  kept := by
    intro id live
    obtain ⟨stored, found⟩ := contains_iff.mp live
    have found' : (heap.allocate object).2.get? id = some stored := by
      rw [tidy.get?_allocate, if_neg (tidy.ne_nextId found), found]
    exact ⟨contains_iff.mpr ⟨_, found'⟩, by rw [isClass, isClass, found, found']⟩
  nodup := by cases object.classRecord? <;> simp
  mem_iff := by
    intro id
    by_cases here : id = heap.nextId
    · subst here
      have unused := contains_eq_false_iff.mpr tidy.get?_nextId
      rw [isClass, tidy.get?_allocate, if_pos rfl, unused, Option.bind_some]
      cases object.classRecord? <;> simp
    · have same : (heap.allocate object).2.isClass id = heap.isClass id := by
        rw [isClass, tidy.get?_allocate, if_neg here, isClass]
      rw [same]
      refine iff_of_false ?_ (not_isClass_of_dead heap id)
      cases object.classRecord? <;> simp [here]

theorem addsClasses_modify (id : ObjectId) {change : HeapObject → HeapObject}
    (kind : ∀ object, (change object).classRecord?.isSome = object.classRecord?.isSome) :
    heap.AddsClasses (heap.modify id change) [] := by
  refine .of_same (contains_modify heap id · change) fun other => ?_
  rw [isClass, isClass, get?_modify]
  split
  · cases heap.get? other with
    | none => rfl
    | some object => exact kind object
  · rfl

theorem addsClasses_withClass (id : ObjectId) (edit : ClassRecord → ClassRecord) :
    heap.AddsClasses (heap.modify id (·.withClass edit)) [] :=
  addsClasses_modify id fun object => by cases object <;> rfl

theorem Tidy.addsClasses_joinUnder (tidy : heap.Tidy) (superclass subclass : ObjectId)
    (name : String) (tag : TypeTag) :
    heap.AddsClasses (heap.joinUnder superclass subclass name tag) [] := by
  have named : heap.AddsClasses (heap.storeName name).2 [] := by
    unfold Heap.storeName
    split
    · exact .refl heap
    · exact tidy.addsClasses_allocate _
  exact named.trans (addsClasses_withClass subclass _)

theorem addsClasses_attachSingleton (heap : Heap) (object singleton : ObjectId) :
    heap.AddsClasses (heap.attachSingleton object singleton) [] :=
  (addsClasses_withClass singleton _).trans
    (addsClasses_modify object fun object => by cases object <;> rfl)

/-- Linking announces the singleton class that is derived, if there is one to mirror. -/
theorem Tidy.addsClasses_link (tidy : heap.Tidy) (superclass subclass : ObjectId) (name : String)
    (tag : TypeTag) :
    heap.AddsClasses (heap.link superclass subclass name tag)
      ((heap.linkEvents superclass subclass).filterMap Event.announced?) := by
  have derived : heap.AddsClasses
      (heap.deriveSingleton subclass (heap.singletonAbove superclass))
      ((heap.linkEvents superclass subclass).filterMap Event.announced?) := by
    unfold linkEvents
    cases heap.singletonAbove superclass with
    | none => exact .refl heap
    | some above =>
        have made := tidy.addsClasses_allocate (.classRecord (.fresh above.1))
        have joined := (tidy.addClass above.1).addsClasses_joinUnder above.1 heap.nextId "" above.2
        exact (made.trans_nil joined).trans_nil (addsClasses_attachSingleton _ subclass heap.nextId)
  have tidy' := tidy.deriveSingleton subclass (heap.singletonAbove superclass)
  have joined := tidy'.addsClasses_joinUnder superclass subclass name tag
  exact derived.trans_nil joined

/-- A new class that is linked is announced by an event after those of the linking. -/
theorem Tidy.addsClasses_derive (tidy : heap.Tidy) (owner superclass : ObjectId) (name : String)
    (tag : TypeTag) (event : Event) (tells : event.announced? = some heap.nextId) :
    heap.AddsClasses ((heap.addClass owner).link superclass heap.nextId name tag)
      (((heap.addClass owner).linkEvents superclass heap.nextId ++ [event]).filterMap
        Event.announced?) := by
  have made := tidy.addsClasses_allocate (.classRecord (.fresh owner))
  have linked := (tidy.addClass owner).addsClasses_link superclass heap.nextId name tag
  rw [List.filterMap_append, List.filterMap_cons_some tells, List.filterMap_nil]
  exact (made.trans linked).perm List.perm_append_comm

theorem Tidy.addsClasses_makeSingleton (tidy : heap.Tidy) (object superclass : ObjectId)
    (parent : ClassRecord) :
    heap.AddsClasses (heap.makeSingleton object superclass parent)
      ((heap.singletonEvents object superclass parent).filterMap Event.announced?) := by
  have derived := tidy.addsClasses_derive parent.owner superclass "" parent.instanceTag
    (.singletonCreated object heap.nextId superclass) rfl
  exact derived.trans_nil (addsClasses_attachSingleton _ object heap.nextId)

end Steps

/-- The singleton classes that are made on demand, from the first to the last. Each is below the
one that was made before it, the first one below a class that was there, and the last one is the
one that was asked for. If none is made, that one was there. -/
structure Creates (heap : Heap) (object singleton : ObjectId) (made : List Event.Creation) :
    Prop where
  linked : made.IsChain fun earlier later => later.superclass = earlier.singleton
  first : ∀ creation ∈ made.head?, heap.isClass creation.superclass
  last : ∀ creation ∈ made.getLast?, creation.object = object ∧ creation.singleton = singleton
  known : made = [] → heap.isClass singleton

/-- Whether an object can have a singleton class and has none. -/
def lacksSingleton (heap : Heap) (id : ObjectId) : Bool :=
  ((heap.get? id).bind HeapObject.header?).any (·.singleton.isNone)

theorem lacksSingleton_of_get? {object : HeapObject} {header : Header}
    (stored : heap.get? id = some object) (isHeader : object.header? = some header) :
    heap.lacksSingleton id = header.singleton.isNone := by
  rw [lacksSingleton, stored, Option.bind_some, isHeader]
  rfl

section Creations

variable {builtins : Builtins} {object singleton superclass above : ObjectId}
  {made : List Event.Creation} {events : List Event}

/-- The events of a linking do not tell of a singleton class that is made on demand. -/
theorem creations_concat (heap : Heap) (superclass subclass : ObjectId) (event : Event) :
    (heap.linkEvents superclass subclass ++ [event]).filterMap Event.creation? =
      event.creation?.toList := by
  have none : (heap.linkEvents superclass subclass).filterMap Event.creation? = [] := by
    unfold linkEvents
    split <;> rfl
  rw [List.filterMap_append, none, List.nil_append, List.filterMap_cons]
  cases event.creation? <;> rfl

theorem creations_singletonEvents (heap : Heap) (object superclass : ObjectId)
    (parent : ClassRecord) :
    (heap.singletonEvents object superclass parent).filterMap Event.creation? =
      [⟨object, heap.nextId, superclass⟩] :=
  creations_concat _ _ _ _

theorem Creates.single (isClass : heap.isClass superclass) :
    heap.Creates object singleton [⟨object, singleton, superclass⟩] where
  linked := .singleton _
  first := by
    rintro _ ⟨⟩
    exact isClass
  last := by
    rintro _ ⟨⟩
    exact ⟨rfl, rfl⟩
  known := nofun

theorem Creates.concat (creates : heap.Creates superclass above made)
    (object singleton : ObjectId) :
    heap.Creates object singleton (made ++ [⟨object, singleton, above⟩]) where
  linked := by
    refine List.isChain_append.mpr ⟨creates.linked, .singleton _, ?_⟩
    rintro creation isLast _ ⟨⟩
    exact (creates.last creation isLast).2.symm
  first := by
    cases made with
    | nil =>
        rintro _ ⟨⟩
        exact creates.known rfl
    | cons creation made => exact creates.first
  last := by
    rw [List.getLast?_concat]
    rintro _ ⟨⟩
    exact ⟨rfl, rfl⟩
  known := by simp

namespace Provides

variable (provides : heap.Provides builtins object singleton after events)
  (wf : heap.WellFormed builtins)
include provides

section

include wf

/-- The classes that are made for a request are announced. -/
theorem addsClasses : heap.AddsClasses after (events.filterMap Event.announced?) := by
  induction provides with
  | known => exact .refl heap
  | plain | top => exact wf.tidy.addsClasses_makeSingleton _ _ _
  | beside _ _ _ _ provides _ ih =>
      have wf' := (provides.provision wf).edits.wellFormed wf
      rw [List.filterMap_append]
      exact ih.trans (wf'.tidy.addsClasses_makeSingleton _ _ _)

theorem creates : heap.Creates object singleton (events.filterMap Event.creation?) := by
  induction provides with
  | known target isHeader given =>
      have isClass := isClass_iff.mpr (wf.exists_singleton target isHeader _ given)
      exact ⟨.nil, nofun, nofun, fun _ => isClass⟩
  | plain _ _ upper | top _ _ _ _ upper =>
      rw [creations_singletonEvents]
      exact .single (isClass_iff.mpr ⟨_, upper⟩)
  | beside _ _ _ _ _ _ ih =>
      rw [List.filterMap_append, creations_singletonEvents]
      exact ih.concat _ _

end

/-- Singleton classes are made for a class and its ancestors, the farthest first, up to the first
one that has a singleton class. -/
theorem objects_of_lineage {chain : List ObjectId}
    (lineage : heap.Lineage builtins.root object chain) :
    (events.filterMap Event.creation?).map Event.Creation.object =
      (chain.takeWhile heap.lacksSingleton).reverse := by
  induction provides generalizing chain with
  | known target isHeader given =>
      have has := (lacksSingleton_of_get? target isHeader).trans (congrArg Option.isNone given)
      cases lineage <;> rw [List.takeWhile_cons_of_neg (by simp [has])] <;> rfl
  | plain target =>
      obtain ⟨_, found, _⟩ := lineage.isInitialized.exists_classRecord
      rw [target] at found
      cases found
  | top target started alone bare =>
      have lacks := (lacksSingleton_of_get? target rfl).trans (congrArg Option.isNone alone)
      obtain ⟨_, rfl⟩ := lineage.of_top target bare
      rw [creations_singletonEvents, List.takeWhile_cons_of_pos lacks]
      rfl
  | beside target started alone next provides _ ih =>
      have lacks := (lacksSingleton_of_get? target rfl).trans (congrArg Option.isNone alone)
      obtain ⟨rest, above, rfl⟩ := lineage.of_superclass target next
      rw [List.filterMap_append, List.map_append, ih above, creations_singletonEvents,
        List.takeWhile_cons_of_pos lacks, List.reverse_cons]
      rfl

/-- For an instance only its own one is made. -/
theorem objects_of_plain {header : Header} (target : heap.get? object = some (.plain header)) :
    (events.filterMap Event.creation?).map Event.Creation.object =
      [object].takeWhile heap.lacksSingleton := by
  cases provides with
  | known target' isHeader given =>
      have has := (lacksSingleton_of_get? target' isHeader).trans (congrArg Option.isNone given)
      rw [List.takeWhile_cons_of_neg (by simp [has])]
      rfl
  | plain target' alone =>
      have lacks := (lacksSingleton_of_get? target' rfl).trans (congrArg Option.isNone alone)
      rw [creations_singletonEvents, List.takeWhile_cons_of_pos lacks]
      rfl
  | top target' | beside target' =>
      rw [target] at target'
      cases target'

end Provides

end Creations

end Heap

namespace Image

variable [ReentrantMutex] {image after : Image} {object singleton : ObjectId}

/-- A request that is answered provides the singleton class that it answers. -/
theorem exists_provides (wf : image.heap.WellFormed image.builtins)
    (answered : singletonClass object image = .ok singleton after) :
    ∃ heap events, after = image.extend heap events ∧
      image.heap.Provides image.builtins object singleton heap events := by
  cases found : image.heap.findHeader object with
  | error fault =>
      rw [singletonClass_of_unknown found] at answered
      cases answered
  | ok header =>
      obtain ⟨stored, target, isHeader⟩ :=
        Option.bind_eq_some_iff.mp (Heap.findHeader_eq_ok_iff.mp found)
      rcases stored.raw_or_started with ⟨record, rfl, raw⟩ | started
      · rw [singletonClass_of_raw wf target raw] at answered
        cases answered
      · obtain ⟨_, heap, events, done, provides⟩ :=
          singletonClass_of_live wf target isHeader started
        rw [done] at answered
        cases answered
        exact ⟨heap, events, rfl, provides⟩

end Image

namespace Session.Call

/-- Whether a call may make classes and announces those that it makes. -/
def announces : Call ObjectId → Bool
  | .subclass .. | .declare _ | .singletonClass _ => true
  | _ => false

variable [ReentrantMutex] {image after : Image} {call : Call ObjectId} {value : Value}

/-- The classes that a call adds are those that it announces. Only a request for a singleton class
tells of one that is made on demand. -/
theorem exists_announced (wf : image.heap.WellFormed image.builtins) (announces : call.announces)
    (performed : call.perform image = .ok value after) :
    ∃ events : List Event, after.journal = image.journal ++ events ∧
      image.heap.AddsClasses after.heap (events.filterMap Event.announced?) ∧
      ((∀ object, call ≠ .singletonClass object) → events.filterMap Event.creation? = []) := by
  cases call with
  | subclass receiver name tag =>
      obtain ⟨_, answered, _⟩ := ImageM.exists_of_map performed
      rw [Image.subclass_apply wf] at answered
      obtain ⟨_, _, _, rfl⟩ := Image.exists_of_conclude answered
      exact ⟨_, rfl, wf.tidy.addsClasses_derive _ _ _ _ _ rfl,
        fun _ => Heap.creations_concat _ _ _ _⟩
  | declare declaration =>
      obtain ⟨_, answered, _⟩ := ImageM.exists_of_map performed
      cases declaration with
      | initializeClass declared superclass =>
          rw [Image.declare, Image.initializeClass_apply wf] at answered
          obtain ⟨_, _, _, rfl⟩ := Image.exists_of_conclude answered
          refine ⟨_, rfl, ?_, fun _ => Heap.creations_concat _ _ _ _⟩
          -- the class was allocated before, so it is not announced
          rw [List.filterMap_append]
          exact List.append_nil _ ▸ wf.tidy.addsClasses_link _ _ _ _
      | newClass superclass =>
          rw [Image.declare, Image.newClass_apply wf] at answered
          obtain ⟨_, _, _, rfl⟩ := Image.exists_of_conclude answered
          exact ⟨_, rfl, wf.tidy.addsClasses_derive _ _ _ _ _ rfl,
            fun _ => Heap.creations_concat _ _ _ _⟩
  | singletonClass object =>
      obtain ⟨_, answered, _⟩ := ImageM.exists_of_map performed
      obtain ⟨heap, events, rfl, provides⟩ := Image.exists_provides wf answered
      exact ⟨events, rfl, provides.addsClasses wf, fun other => absurd rfl (other object)⟩
  | _ => cases announces

end Session.Call

/-- In a reachable image a call to derive or declare a class or to ask for a singleton class
announces the classes that it allocates, each once, and nothing else. A call that is refused leaves
the image and its journal as they were, and so does one that asks for a singleton class that is
there. The singleton classes that a request makes on demand are told of from the farthest ancestor
without one down to the object itself, each below the one before it and the first below a class that
was there. -/
theorem Reached.classes_announced [ReentrantMutex] {settings : Settings}
    {calls : List (Call ObjectId)} {image : Image} (reached : Reached settings calls image) :
    (∀ call, Call.announces call →
      (∀ fault left, call.perform image = .error fault left → left = image) ∧
      ∀ value after, call.perform image = .ok value after →
        ∃ (events : List Event) (ids : List ObjectId),
          after.journal = image.journal ++ events ∧ image.heap.Fills ids after.heap ∧
          (events.filterMap Event.announced?).Nodup ∧
          (∀ id, id ∈ events.filterMap Event.announced? ↔ id ∈ ids ∧ after.heap.isClass id) ∧
          ((∀ object, call ≠ .singletonClass object) →
            events.filterMap Event.creation? = [])) ∧
      (∀ object stored header singleton, image.heap.get? object = some stored →
        stored.header? = some header → header.singleton = some singleton →
        Image.singletonClass object image = .ok singleton image) ∧
      ∀ object singleton after, Image.singletonClass object image = .ok singleton after →
        ∃ events : List Event, after.journal = image.journal ++ events ∧
          image.heap.Creates object singleton (events.filterMap Event.creation?) ∧
          (∀ chain, image.heap.Lineage image.builtins.root object chain →
            (events.filterMap Event.creation?).map Event.Creation.object =
              (chain.takeWhile image.heap.lacksSingleton).reverse) ∧
          ∀ header, image.heap.get? object = some (.plain header) →
            (events.filterMap Event.creation?).map Event.Creation.object =
              [object].takeWhile image.heap.lacksSingleton := by
  have wf := reached.wellFormed
  refine ⟨?_, ?_, ?_⟩
  · intro call announces
    refine ⟨fun fault left refused => Call.eq_of_error wf refused, ?_⟩
    intro value after performed
    obtain ⟨events, journal, adds, alone⟩ := Call.exists_announced wf announces performed
    have keeps : call.collection? image = none := by cases call <;> first | rfl | cases announces
    obtain ⟨ids, fills⟩ := Call.exists_fills wf.tidy keeps
    rw [Image.afterCalls_singleton, ImageM.leaves_of_ok performed] at fills
    refine ⟨events, ids, journal, fills, adds.nodup, fun id => ?_, alone⟩
    rw [adds.mem_iff, (fills.places wf.tidy).mem_iff]
    constructor
    · exact fun ⟨dead, isClass⟩ => ⟨⟨dead, Heap.contains_of_isClass isClass⟩, isClass⟩
    · exact fun ⟨⟨dead, _⟩, isClass⟩ => ⟨dead, isClass⟩
  · intro object stored header singleton target isHeader given
    have known := ImageM.singletonClassWithin_of_known image.heap.slotCount target isHeader given
    rw [image.extend_nil] at known
    exact ImageM.bind_of_ok rfl known
  · intro object singleton after answered
    obtain ⟨heap, events, rfl, provides⟩ := Image.exists_provides wf answered
    refine ⟨events, rfl, provides.creates wf, ?_, ?_⟩
    · exact fun chain lineage => provides.objects_of_lineage lineage
    · exact fun header target => provides.objects_of_plain target

/-- The case of the singleton class, in slot 15, of a class two below a built-in one. Those of its
superclass, in slot 12, and of the built-in classes are above it, and they are told of first. -/
theorem Reached.classes_announced_subclass : ∃ (image after : Image) (singleton : ObjectId)
    (events : List Event),
    Reached .standard [.subclass 5 "A" none, .subclass 11 "B" none] image ∧
      Image.singletonClass 15 image = .ok singleton after ∧
      after.journal = image.journal ++ events ∧
      (events.filterMap Event.creation?).map Event.Creation.object = [0, 4, 6, 12, 15] := by
  let calls : List (Call ObjectId) := [.subclass 5 "A" none, .subclass 11 "B" none]
  let image := (Image.first .standard).afterCalls calls
  have reached : Reached .standard calls image := .afterFirst .standard calls
  have target : image.heap.get? 15 =
      some (.classRecord (.singletonOf 14 12 12 .classTag)) := by decide +kernel
  obtain ⟨chain, lineage⟩ := reached.wellFormed.exists_lineage ⟨_, target, rfl⟩
  have ancestors : image.heap.ancestors 15 = .ok [15, 12, 6, 4, 0, 8, 5, 3] := by decide +kernel
  cases ancestors.symm.trans lineage.ancestors
  obtain ⟨singleton, after, _, answered, _⟩ :=
    Image.singletonClass_of_live reached.wellFormed target rfl (by rintro _ ⟨⟩; rfl)
  obtain ⟨_, _, creations⟩ := Reached.classes_announced reached
  obtain ⟨events, journal, _, objects, _⟩ := creations 15 singleton _ answered
  have lacking : ([15, 12, 6, 4, 0, 8, 5, 3].takeWhile image.heap.lacksSingleton).reverse =
      [0, 4, 6, 12, 15] := by decide +kernel
  exact ⟨image, _, singleton, events, reached, answered, journal, (objects _ lineage).trans lacking⟩

end Metamodel
