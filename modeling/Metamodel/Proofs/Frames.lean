import Metamodel.Proofs.Reachability

/-!
# What calls leave alone

An operation changes few of the objects that are there before it: the class that it initializes,
the anonymous class that it names, and objects that are given a singleton class. All others are
kept as they are, unless they are collected.
-/

namespace Metamodel

open Session

namespace ImageM

variable [ReentrantMutex] {α β : Type} {act : ImageM α} {image : Image}

/-- The image that an operation leaves, be it answered or refused. -/
def leaves (act : ImageM α) (image : Image) : Image :=
  match act image with
  | .ok _ after => after
  | .error _ after => after

theorem leaves_of_ok {value : α} {after : Image} (answered : act image = .ok value after) :
    act.leaves image = after := by
  rw [leaves, answered]

theorem leaves_of_error {fault : Fault} {after : Image} (refused : act image = .error fault after) :
    act.leaves image = after := by
  rw [leaves, refused]

theorem leaves_map (f : α → β) (act : ImageM α) (image : Image) :
    (f <$> act).leaves image = act.leaves image := by
  unfold leaves
  rw [map_apply]
  cases act image <;> rfl

/-- What is left after a question and its effect: the heap as it was or that of the effect. -/
theorem leaves_of_conclude {question : Except Fault β} {effect : β → Effect α}
    (same : act image = image.conclude question effect) (property : Heap → Prop)
    (refused : property image.heap)
    (done : ∀ answer, question = .ok answer → property (effect answer).heap) :
    property (act.leaves image).heap := by
  cases asked : question with
  | error fault =>
      rw [asked] at same
      rwa [leaves_of_error same]
  | ok answer =>
      rw [asked] at same
      rw [leaves_of_ok same]
      exact done answer asked

theorem leaves_locked_ask (query : Heap → Except Fault α) (image : Image) :
    (locked (ask query)).leaves image = image := by
  cases answer : query image.heap with
  | error fault => exact leaves_of_error (locked_of_error (ask_of_error answer))
  | ok value => exact leaves_of_ok (locked_eq_ok (ask_of_ok answer))

end ImageM

/-- A row of calls goes on with what its first call leaves as an operation. -/
theorem Image.afterCalls_cons [ReentrantMutex] (image : Image) (call : Call ObjectId)
    (rest : List (Call ObjectId)) :
    image.afterCalls (call :: rest) = (call.perform.leaves image).afterCalls rest := by
  rw [afterCalls, ImageM.leaves]
  cases call.perform image <;> rfl

theorem Image.afterCalls_singleton [ReentrantMutex] (image : Image) (call : Call ObjectId) :
    image.afterCalls [call] = call.perform.leaves image :=
  image.afterCalls_cons call []

namespace Heap

variable {before : Heap} {builtins : Builtins} {id superclass subclass : ObjectId}
  {object : HeapObject} {parent record : ClassRecord}

/-- Deriving a class changes no object. -/
theorem WellFormed.kept_derive (wf : before.WellFormed builtins) (name : String) (tag : TypeTag)
    (upper : before.get? superclass = some (.classRecord parent)) (started : parent.initialized)
    (stored : before.get? id = some object) :
    ((before.addClass builtins.anchor).link superclass before.nextId name tag).get? id =
      some object := by
  obtain ⟨text, derived, links⟩ := wf.exists_links_new name tag upper started
  exact links.kept (get?_addClass_of_some wf.tidy _ stored) (wf.tidy.ne_nextId stored)

/-- Initializing a class changes no other object. -/
theorem WellFormed.kept_link (wf : before.WellFormed builtins) (tag : TypeTag)
    (upper : before.get? superclass = some (.classRecord parent)) (started : parent.initialized)
    (lower : before.get? subclass = some (.classRecord record)) (raw : record.initialized = false)
    (stored : before.get? id = some object) (ne : id ≠ subclass) :
    (before.link superclass subclass "" tag).get? id = some object := by
  obtain ⟨text, derived, links⟩ := exists_links wf.tidy "" tag upper started lower raw (.inl rfl)
    (wf.exists_singleton upper rfl)
  exact links.kept stored ne

end Heap

namespace Session.Call

/-- Whether a call may change an object that is there. A collection may free it. -/
def MayChange (id : ObjectId) (object : HeapObject) : Call ObjectId → Prop
  | .declare (.initializeClass declared _) => id = declared ∧ ¬ object.IsInitialized
  | .assignName target _ => id = target ∧ Heap.nameOf object = none
  | .singletonClass _ => ∀ singleton, ¬ object.HasSingleton singleton
  | .collect _ | .collectIfDue _ => True
  | _ => False

variable [ReentrantMutex] {image : Image} {id : ObjectId} {object : HeapObject}

/-- Making singleton classes changes no object that has one. -/
theorem kept_singletonClass (wf : image.heap.WellFormed image.builtins) (target : ObjectId)
    (stored : image.heap.get? id = some object) {singleton : ObjectId}
    (has : object.HasSingleton singleton) :
    ((Image.singletonClass target).leaves image).heap.get? id = some object := by
  cases found : image.heap.findHeader target with
  | error fault => rwa [ImageM.leaves_of_error (Image.singletonClass_of_unknown found)]
  | ok header =>
      obtain ⟨object', target', isHeader⟩ :=
        Option.bind_eq_some_iff.mp (Heap.findHeader_eq_ok_iff.mp found)
      rcases object'.raw_or_started with ⟨record, rfl, raw⟩ | started
      · rwa [ImageM.leaves_of_error (Image.singletonClass_of_raw wf target' raw)]
      · obtain ⟨_, after, events, done, provides⟩ :=
          Image.singletonClass_of_live wf target' isHeader started
        rw [ImageM.leaves_of_ok done]
        obtain ⟨own, isOwn, given⟩ := has
        exact (provides.provision wf).spared stored isOwn (by simp [given])

/-- What a call may not change is as it was. -/
theorem kept (wf : image.heap.WellFormed image.builtins) (call : Call ObjectId)
    (stored : image.heap.get? id = some object) (spared : ¬ call.MayChange id object) :
    (image.afterCalls [call]).heap.get? id = some object := by
  rw [Image.afterCalls_singleton]
  cases call with
  | subclass receiver name tag =>
      rw [perform, ImageM.leaves_map]
      refine ImageM.leaves_of_conclude (Image.subclass_apply wf receiver name tag)
        (fun heap => heap.get? id = some object) stored ?_
      intro record found
      obtain ⟨upper, accepted⟩ := Heap.accept_eq_ok_iff.mp found
      obtain ⟨_, _, started⟩ := ClassRecord.refuseSubclass_eq_none_iff.mp accepted
      exact wf.kept_derive name _ upper started stored
  | declare declaration =>
      rw [perform, ImageM.leaves_map]
      cases declaration with
      | initializeClass declared superclass =>
          refine ImageM.leaves_of_conclude (Image.initializeClass_apply wf declared superclass)
            (fun heap => heap.get? id = some object) stored ?_
          rintro ⟨record, parent⟩ found
          obtain ⟨⟨lower, raw⟩, accepted⟩ := Heap.acceptDeclaration_eq_ok_iff.mp found
          obtain ⟨upper, _, _, started⟩ := Heap.acceptSuperclass_eq_ok_iff.mp accepted
          refine wf.kept_link _ upper started lower raw stored ?_
          rintro rfl
          rw [lower] at stored
          cases stored
          exact spared ⟨rfl, by simp [HeapObject.IsInitialized, raw]⟩
      | newClass superclass =>
          refine ImageM.leaves_of_conclude (Image.newClass_apply wf superclass)
            (fun heap => heap.get? id = some object) stored ?_
          intro parent found
          obtain ⟨upper, _, _, started⟩ := Heap.acceptSuperclass_eq_ok_iff.mp found
          exact wf.kept_derive "" _ upper started stored
  | allocateClass =>
      rw [perform, ImageM.leaves_map, ImageM.leaves_of_ok (Image.allocateClass_apply image)]
      exact Heap.get?_addClass_of_some wf.tidy _ stored
  | newObject owner =>
      rw [perform, ImageM.leaves_map]
      refine ImageM.leaves_of_conclude (Image.newObject_apply owner image)
        (fun heap => heap.get? id = some object) stored ?_
      intro record _
      rw [wf.tidy.get?_allocate, if_neg (wf.tidy.ne_nextId stored), stored]
  | assignName target name =>
      rw [perform, ImageM.leaves_map]
      refine ImageM.leaves_of_conclude (Image.assignName_apply wf.tidy target name)
        (fun heap => heap.get? id = some object) stored ?_
      intro record found
      obtain ⟨isTarget, _⟩ := Heap.accept_eq_ok_iff.mp found
      simp only
      split
      · next unnamed =>
          rw [Heap.get?_assignName wf.tidy isTarget, if_neg, if_neg (wf.tidy.ne_nextId stored),
            stored]
          rintro rfl
          rw [isTarget] at stored
          cases stored
          exact spared ⟨rfl, unnamed.1⟩
      · exact stored
  | singletonClass target =>
      rw [perform, ImageM.leaves_map]
      obtain ⟨singleton, has⟩ : ∃ singleton, object.HasSingleton singleton := by
        simpa [MayChange] using spared
      exact kept_singletonClass wf target stored has
  | collect roots => exact absurd trivial spared
  | collectIfDue roots => exact absurd trivial spared
  | pin target =>
      rw [perform, ImageM.leaves_map]
      refine ImageM.leaves_of_conclude (Image.pin_apply target image)
        (fun heap => heap.get? id = some object) stored ?_
      intro heap pinned
      obtain ⟨_, rfl⟩ := Heap.pin_eq_ok_iff.mp pinned
      exact stored
  | unpin target =>
      rw [perform, ImageM.leaves_map, ImageM.leaves_of_ok (Image.unpin_apply target image)]
      change (image.heap.unpin target).2.get? id = some object
      rwa [Heap.get?, Heap.slots_unpin]
  | inspect question target => rwa [perform, ImageM.leaves_locked_ask]
  | builtins => exact stored
  | survey question => exact stored
  | isLocked => exact stored
  | tryLock contender => exact stored

end Session.Call

end Metamodel
