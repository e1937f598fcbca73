import Metamodel.Proofs.Blame
import Metamodel.Proofs.Changes
import Metamodel.Proofs.Provision
import Metamodel.Session.Call

/-!
# Calls on a well-formed image

Every call either is refused and leaves the image as it was, blaming nothing but its arguments for
being unknown, or makes a row of edits. Only the allocation of a class stands apart: what it adds
is not initialized.
-/

namespace Metamodel

/-- An object is an uninitialized class or may have a singleton class. -/
theorem HeapObject.raw_or_started (object : HeapObject) :
    (∃ record, object = .classRecord record ∧ record.initialized = false) ∨
      ∀ record, object = .classRecord record → record.initialized := by
  cases object with
  | classRecord record =>
      cases started : record.initialized with
      | true => exact .inr (by rintro _ ⟨⟩; exact started)
      | false => exact .inl ⟨record, rfl, started⟩
  | plain header => exact .inr (by rintro _ ⟨⟩)
  | text content => exact .inr (by rintro _ ⟨⟩)

/-- How an operation ends that is about the given objects. -/
inductive Ends [ReentrantMutex] {α : Type} (arguments : List ObjectId) (image : Image) :
    EStateM.Result Fault Image α → Prop
  | refused {fault : Fault} : (∀ id, fault = .unknownObject id → id ∈ arguments) →
      Ends arguments image (.error fault image)
  | answered {value : α} {heap : Heap} {events : List Event} :
      Heap.Revises image.builtins image.heap heap →
      Ends arguments image (.ok value (image.extend heap events))

namespace Ends

variable [ReentrantMutex] {α β : Type} {arguments : List ObjectId} {image : Image}

theorem map {act : ImageM α} (f : α → β) (ends : Ends arguments image (act image)) :
    Ends arguments image ((f <$> act) image) := by
  rw [ImageM.map_apply]
  generalize act image = result at ends
  cases ends with
  | refused blames => exact .refused blames
  | answered revises => exact .answered revises

theorem conclude {question : Except Fault α} {effect : α → Effect β}
    (blames : Blames arguments question)
    (revises : ∀ answer, question = .ok answer →
      Heap.Revises image.builtins image.heap (effect answer).heap) :
    Ends arguments image (image.conclude question effect) := by
  cases question with
  | error fault =>
      apply refused
      rintro id rfl
      exact blames id rfl
  | ok answer => exact answered (revises answer rfl)

theorem same (value : α) : Ends arguments image (.ok value image) := by
  change Ends arguments image (.ok value (image.extend image.heap []))
  exact answered (.refl _)

/-- A question changes nothing. -/
theorem locked_ask {query : Heap → Except Fault α} (blames : Blames arguments (query image.heap)) :
    Ends arguments image (ImageM.locked (ImageM.ask query) image) := by
  rw [ImageM.locked_ask_apply]
  exact conclude blames fun _ _ => .refl _

end Ends

/-- No class is refused for being unknown. -/
theorem ClassRecord.refuseSubclass_ne {anchor id unknown : ObjectId} {record : ClassRecord} :
    record.refuseSubclass anchor id ≠ some (.unknownObject unknown) := by
  unfold refuseSubclass
  split_ifs <;> simp

namespace Heap

variable {heap : Heap} {builtins : Builtins} {refusal? : ClassRecord → Option Fault}
  {id : ObjectId}

theorem blames_accept_of_class {record : ClassRecord}
    (stored : heap.get? id = some (.classRecord record))
    (other : ∀ unknown, refusal? record ≠ some (.unknownObject unknown)) :
    Blames [] (heap.accept refusal? id) := by
  unfold accept
  rw [findClass_eq_ok_iff.mpr stored]
  cases refusal : refusal? record with
  | none =>
      simp only [refusal]
      exact .ok _
  | some fault =>
      simp only [refusal]
      apply Blames.error
      rintro unknown rfl
      exact other unknown refusal

variable (wf : heap.WellFormed builtins)
include wf

theorem WellFormed.blames_accept
    (other : ∀ record unknown, refusal? record ≠ some (.unknownObject unknown)) (id : ObjectId) :
    Blames [id] (heap.accept refusal? id) := by
  cases found : heap.findClass id with
  | error fault =>
      have same : heap.accept refusal? id = heap.findClass id := by
        unfold accept
        rw [found]
      rw [same]
      exact wf.blames_findClass id
  | ok record =>
      have stored := findClass_eq_ok_iff.mp found
      exact (blames_accept_of_class stored (other record)).mono (List.nil_subset _)

theorem WellFormed.blames_acceptSuperclass (id : ObjectId) :
    Blames [id] (heap.acceptSuperclass builtins.anchor id) := by
  unfold acceptSuperclass
  split
  · exact wf.blames_accept (fun _ _ => ClassRecord.refuseSubclass_ne) id
  · intro unknown refused
    apply wf.blames_ownerDisplayName id unknown
    split at refused
    · next fault found =>
        cases refused
        exact found
    · cases refused

/-- The root is a class, so it is not blamed where it is meant by default. -/
theorem WellFormed.blames_acceptSuperclass_getD (superclass : Option ObjectId) :
    Blames superclass.toList
      (heap.acceptSuperclass builtins.anchor (superclass.getD builtins.root)) := by
  cases superclass with
  | some superclass => exact wf.blames_acceptSuperclass superclass
  | none =>
      obtain ⟨record, stored, _⟩ := wf.root_isOrdinary.isInitialized.exists_classRecord
      unfold acceptSuperclass
      rw [Option.getD_none, if_pos (isClass_iff.mpr ⟨record, stored⟩)]
      exact blames_accept_of_class stored fun _ => ClassRecord.refuseSubclass_ne

theorem WellFormed.blames_acceptDeclaration (declared : ObjectId)
    (superclass : Option ObjectId) :
    Blames (declared :: superclass.toList)
      (heap.acceptDeclaration builtins.anchor declared (superclass.getD builtins.root)) := by
  have first : Blames [declared] (heap.accept (·.refuseInitialization) declared) := by
    apply wf.blames_accept
    intro record unknown
    unfold ClassRecord.refuseInitialization
    split_ifs <;> simp
  have second := wf.blames_acceptSuperclass_getD superclass
  intro unknown refused
  unfold acceptDeclaration at refused
  split at refused
  · next fault found =>
      cases refused
      have same := List.mem_singleton.mp (first unknown found)
      exact same ▸ List.mem_cons_self
  · split at refused
    · next fault found =>
        cases refused
        exact List.mem_cons_of_mem _ (second unknown found)
    · cases refused

end Heap

namespace Session.Call

/-- The objects that a call is about. -/
def arguments {ρ : Type} : Call ρ → List ρ
  | .subclass receiver _ _ => [receiver]
  | .declare (.initializeClass declared superclass) => declared :: superclass.toList
  | .declare (.newClass superclass) => superclass.toList
  | .newObject owner => [owner]
  | .assignName target _ => [target]
  | .singletonClass object => [object]
  | .collect roots => roots
  | .collectIfDue roots => roots
  | .pin object => [object]
  | .unpin object => [object]
  | .inspect _ object => [object]
  | .allocateClass | .builtins | .survey _ | .isLocked | .tryLock _ => []

variable [ReentrantMutex] {image : Image}

theorem ends_collect (wf : image.heap.WellFormed image.builtins) {arguments : List ObjectId}
    (roots : List ObjectId) : Ends arguments image (Image.collect roots image) := by
  rw [Image.collect_apply]
  change Ends arguments image (.ok _ (image.extend
    (image.heap.collect (image.standingRoots ++ roots)).2 [_]))
  apply Ends.answered
  refine Heap.Edit.revises (.collect ?_) wf
  intro id standing
  exact List.mem_append_left _ standing

theorem ends_singletonClass (wf : image.heap.WellFormed image.builtins) (object : ObjectId) :
    Ends [object] image (Image.singletonClass object image) := by
  cases found : image.heap.findHeader object with
  | error fault =>
      rw [Image.singletonClass_of_unknown found]
      apply Ends.refused
      rintro id rfl
      exact image.heap.blames_findHeader object id found
  | ok header =>
      obtain ⟨stored, target, isHeader⟩ :=
        Option.bind_eq_some_iff.mp (Heap.findHeader_eq_ok_iff.mp found)
      rcases stored.raw_or_started with ⟨record, rfl, raw⟩ | started
      · rw [Image.singletonClass_of_raw wf target raw]
        exact .refused (by simp)
      · obtain ⟨singleton, after, events, done, provides⟩ :=
          Image.singletonClass_of_live wf target isHeader started
        rw [done]
        have provision := provides.provision wf
        exact .answered ⟨provision.edits, provision.grows.continues⟩

/-- How each call ends, but for the allocation of a class. -/
theorem ends (wf : image.heap.WellFormed image.builtins) (call : Call ObjectId)
    (ne : call ≠ .allocateClass) : Ends call.arguments image (call.perform image) := by
  cases call with
  | subclass receiver name tag =>
      apply Ends.map
      rw [Image.subclass_apply wf]
      apply Ends.conclude
      · exact wf.blames_accept (fun _ _ => ClassRecord.refuseSubclass_ne) receiver
      · intro record found
        obtain ⟨stored, accepted⟩ := Heap.accept_eq_ok_iff.mp found
        obtain ⟨other, ordinary, started⟩ :=
          ClassRecord.refuseSubclass_eq_none_iff.mp accepted
        exact Heap.Edit.revises (.derive name _ stored other ordinary started) wf
  | declare declaration =>
      cases declaration with
      | initializeClass declared superclass =>
          apply Ends.map
          change Ends _ image (Image.initializeClass declared superclass image)
          rw [Image.initializeClass_apply wf]
          apply Ends.conclude (wf.blames_acceptDeclaration declared superclass)
          rintro ⟨record, parent⟩ found
          obtain ⟨⟨lower, raw⟩, accepted⟩ := Heap.acceptDeclaration_eq_ok_iff.mp found
          obtain ⟨upper, other, ordinary, started⟩ := Heap.acceptSuperclass_eq_ok_iff.mp accepted
          exact Heap.Edit.revises (.link _ upper other ordinary started lower raw) wf
      | newClass superclass =>
          apply Ends.map
          change Ends _ image (Image.newClass superclass image)
          rw [Image.newClass_apply wf]
          apply Ends.conclude (wf.blames_acceptSuperclass_getD superclass)
          intro parent found
          obtain ⟨upper, other, ordinary, started⟩ := Heap.acceptSuperclass_eq_ok_iff.mp found
          exact Heap.Edit.revises (.derive "" _ upper other ordinary started) wf
  | allocateClass => exact absurd rfl ne
  | newObject owner =>
      apply Ends.map
      rw [Image.newObject_apply]
      apply Ends.conclude
      · apply wf.blames_accept
        intro record unknown
        unfold ClassRecord.refuseInstance
        split_ifs <;> simp
      · intro record found
        obtain ⟨stored, accepted⟩ := Heap.accept_eq_ok_iff.mp found
        obtain ⟨ordinary, started⟩ := ClassRecord.refuseInstance_eq_none_iff.mp accepted
        exact Heap.Edit.revises (.addInstance stored started ordinary) wf
  | assignName target name =>
      apply Ends.map
      rw [Image.assignName_apply wf.tidy]
      apply Ends.conclude
      · apply wf.blames_accept
        intro record unknown
        unfold ClassRecord.refuseName
        split_ifs <;> simp
      · intro record found
        obtain ⟨stored, accepted⟩ := Heap.accept_eq_ok_iff.mp found
        have ordinary := ClassRecord.refuseName_eq_none_iff.mp accepted
        simp only
        split_ifs with unnamed
        · exact Heap.Edit.revises (.assignName name stored ordinary unnamed.1) wf
        · exact .refl _
  | singletonClass object => exact (ends_singletonClass wf object).map _
  | collect roots => exact (ends_collect wf roots).map _
  | collectIfDue roots =>
      apply Ends.map
      rw [Image.collectIfDue_apply]
      split
      · exact (ends_collect wf roots).map _
      · exact .same _
  | pin object =>
      apply Ends.map
      rw [Image.pin_apply]
      apply Ends.conclude
      · apply (image.heap.blames_find object).bind
        intro stored _
        exact .ok _
      · intro heap pinned
        obtain ⟨live, rfl⟩ := Heap.pin_eq_ok_iff.mp pinned
        exact Heap.Edit.revises (.pin live) wf
  | unpin object =>
      apply Ends.map
      rw [Image.unpin_apply]
      exact .answered (Heap.Edit.revises (.unpin _ object) wf)
  | builtins => exact .same _
  | inspect question object => exact Ends.locked_ask (wf.blames_answer question object)
  | survey question =>
      rw [perform, ImageM.locked_view_apply]
      exact .same _
  | isLocked => exact .same _
  | tryLock contender => exact .same _

variable {call : Call ObjectId} {after : Image}

/-- The allocation of a class adds one that is not initialized. -/
theorem performed_allocateClass {value : Value}
    (answered : perform .allocateClass image = .ok value after) :
    after.builtins = image.builtins ∧
      after.heap = image.heap.addClass image.builtins.anchor := by
  rw [perform, ImageM.map_apply, Image.allocateClass_apply] at answered
  cases answered
  exact ⟨rfl, rfl⟩

/-- A call that is answered has edited the heap or has added an uninitialized class to it. -/
theorem edits_of_ok (wf : image.heap.WellFormed image.builtins) {value : Value}
    (answered : call.perform image = .ok value after) :
    after.builtins = image.builtins ∧ (Heap.Edits image.builtins image.heap after.heap ∨
      call = .allocateClass ∧ after.heap = image.heap.addClass image.builtins.anchor) := by
  by_cases allocates : call = .allocateClass
  · obtain ⟨same, added⟩ := performed_allocateClass (allocates ▸ answered)
    exact ⟨same, .inr ⟨allocates, added⟩⟩
  · have ends := ends wf call allocates
    rw [answered] at ends
    cases ends with
    | answered revises => exact ⟨rfl, .inl revises.edits⟩

/-- No call puts one object in the place of another. -/
theorem continues_of_ok (wf : image.heap.WellFormed image.builtins) {value : Value}
    (answered : call.perform image = .ok value after) : image.heap.Continues after.heap := by
  by_cases allocates : call = .allocateClass
  · obtain ⟨_, added⟩ := performed_allocateClass (allocates ▸ answered)
    rw [added]
    exact (Heap.grows_allocate wf.tidy _).continues
  · have ends := ends wf call allocates
    rw [answered] at ends
    cases ends with
    | answered revises => exact revises.continues

/-- A call that is refused leaves the image as it was. -/
theorem eq_of_error (wf : image.heap.WellFormed image.builtins) {fault : Fault}
    (refused : call.perform image = .error fault after) : after = image := by
  by_cases allocates : call = .allocateClass
  · subst allocates
    rw [perform, ImageM.map_apply, Image.allocateClass_apply] at refused
    cases refused
  · have ends := ends wf call allocates
    rw [refused] at ends
    cases ends with
    | refused _ => rfl

/-- A call reports no object as unknown but one that it is about. -/
theorem mem_arguments_of_error (wf : image.heap.WellFormed image.builtins) {id : ObjectId}
    (refused : call.perform image = .error (.unknownObject id) after) : id ∈ call.arguments := by
  by_cases allocates : call = .allocateClass
  · subst allocates
    rw [perform, ImageM.map_apply, Image.allocateClass_apply] at refused
    cases refused
  · have ends := ends wf call allocates
    rw [refused] at ends
    cases ends with
    | refused blames => exact blames id rfl

end Session.Call

end Metamodel
