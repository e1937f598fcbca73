import Metamodel.Proofs.Execution

/-!
# Admission

What operations check before they change anything, as questions to the heap. Each operation looks
for the classes that it works on and may refuse what it finds; only then does it act. An operation
in this form either ends with the answer to its question as a fault, on the image as it was, or
acts on what was found.
-/

namespace Metamodel

namespace ClassRecord

/-- Why a class cannot be inherited from, if it cannot. -/
def refuseSubclass (anchor id : ObjectId) (record : ClassRecord) : Option Fault :=
  if id = anchor then some .anchorSuperclass
  else if record.isSingleton then some .singletonSuperclass
  else if record.initialized then none
  else some .uninitializedSuperclass

/-- Why a class cannot be initialized. -/
def refuseInitialization (record : ClassRecord) : Option Fault :=
  if record.initialized then some .alreadyInitialized else none

/-- Why a class cannot have instances. -/
def refuseInstance (record : ClassRecord) : Option Fault :=
  if record.isSingleton then some .singletonInstance
  else if record.initialized then none
  else some .uninitializedClass

/-- Why a class cannot be named. -/
def refuseName (record : ClassRecord) : Option Fault :=
  if record.isSingleton then some .singletonName else none

variable {record : ClassRecord}

theorem refuseSubclass_eq_none_iff {anchor id : ObjectId} :
    record.refuseSubclass anchor id = none ↔
      id ≠ anchor ∧ record.isSingleton = false ∧ record.initialized := by
  unfold refuseSubclass
  by_cases isAnchor : id = anchor <;> cases record.isSingleton <;> cases record.initialized <;>
    simp [isAnchor]

theorem refuseInitialization_eq_none_iff :
    record.refuseInitialization = none ↔ record.initialized = false := by
  cases started : record.initialized <;> simp [refuseInitialization, started]

theorem refuseInstance_eq_none_iff :
    record.refuseInstance = none ↔ record.isSingleton = false ∧ record.initialized := by
  cases flagged : record.isSingleton <;> cases started : record.initialized <;>
    simp [refuseInstance, flagged, started]

theorem refuseName_eq_none_iff : record.refuseName = none ↔ record.isSingleton = false := by
  cases flagged : record.isSingleton <;> simp [refuseName, flagged]

end ClassRecord

namespace Heap

/-- The class with an id, unless there is a reason to refuse it. -/
def accept (heap : Heap) (refusal? : ClassRecord → Option Fault) (id : ObjectId) :
    Except Fault ClassRecord :=
  match heap.findClass id with
  | .error fault => .error fault
  | .ok record =>
      match refusal? record with
      | some fault => .error fault
      | none => .ok record

/-- The class to declare another one below. What is not a class is refused by its owner. -/
def acceptSuperclass (heap : Heap) (anchor id : ObjectId) : Except Fault ClassRecord :=
  if heap.isClass id then heap.accept (·.refuseSubclass anchor id) id
  else
    match heap.ownerDisplayName id with
    | .error fault => .error fault
    | .ok display => .error (.invalidSuperclass display)

/-- The class to initialize and the one to declare it below. -/
def acceptDeclaration (heap : Heap) (anchor declared superclass : ObjectId) :
    Except Fault (ClassRecord × ClassRecord) :=
  match heap.accept (·.refuseInitialization) declared with
  | .error fault => .error fault
  | .ok record =>
      match heap.acceptSuperclass anchor superclass with
      | .error fault => .error fault
      | .ok parent => .ok (record, parent)

variable {heap : Heap} {refusal? : ClassRecord → Option Fault} {anchor id declared : ObjectId}
  {record parent : ClassRecord}

theorem isClass_iff : heap.isClass id ↔ ∃ record, heap.get? id = some (.classRecord record) := by
  unfold isClass
  cases heap.get? id with
  | none => simp
  | some object => cases object <;> simp [HeapObject.classRecord?]

theorem accept_eq_ok_iff : heap.accept refusal? id = .ok record ↔
    heap.get? id = some (.classRecord record) ∧ refusal? record = none := by
  rw [← findClass_eq_ok_iff]
  unfold accept
  cases heap.findClass id with
  | error fault => simp
  | ok found =>
      cases refused : refusal? found with
      | none => grind
      | some fault => grind

/-- A class is admitted as a superclass exactly when it can be inherited from. -/
theorem acceptSuperclass_eq_ok_iff : heap.acceptSuperclass anchor id = .ok record ↔
    heap.get? id = some (.classRecord record) ∧ id ≠ anchor ∧ record.isSingleton = false ∧
      record.initialized := by
  unfold acceptSuperclass
  split
  · rw [accept_eq_ok_iff, ClassRecord.refuseSubclass_eq_none_iff]
  · next noClass =>
      constructor
      · intro accepted
        split at accepted <;> cases accepted
      · intro found
        exact absurd (isClass_iff.mpr ⟨record, found.1⟩) noClass

theorem acceptDeclaration_eq_ok_iff :
    heap.acceptDeclaration anchor declared id = .ok (record, parent) ↔
      (heap.get? declared = some (.classRecord record) ∧ record.initialized = false) ∧
        heap.acceptSuperclass anchor id = .ok parent := by
  rw [← ClassRecord.refuseInitialization_eq_none_iff, ← accept_eq_ok_iff]
  unfold acceptDeclaration
  cases heap.accept (·.refuseInitialization) declared with
  | error fault => simp
  | ok found => cases heap.acceptSuperclass anchor id <;> simp

end Heap

namespace ImageM

variable [ReentrantMutex] {α β γ : Type} {image : Image}

/-- A check asks a question, changes nothing and tells a part of the answer. -/
def Checks (check : ImageM γ) (image : Image) (question : Except Fault α) (part : α → γ) : Prop :=
  check image = image.conclude question fun answer => ⟨part answer, image.heap, []⟩

theorem Checks.of_error {check : ImageM γ} {question : Except Fault α} {part : α → γ}
    (checks : Checks check image question part) {fault : Fault}
    (refused : question = .error fault) : check image = .error fault image := by
  subst refused
  exact checks

theorem Checks.of_ok {check : ImageM γ} {question : Except Fault α} {part : α → γ}
    (checks : Checks check image question part) {answer : α} (found : question = .ok answer) :
    check image = .ok (part answer) image := by
  subst found
  exact checks

/-- An operation that begins with a check. -/
theorem Checks.locked {check : ImageM γ} {question : Except Fault α} {part : α → γ}
    (checks : Checks check image.held question part) {next : γ → ImageM β} {effect : α → Effect β}
    (rest : ∀ answer, question = .ok answer → next (part answer) image.held =
      .ok (effect answer).value
        (image.held.extend (effect answer).heap (effect answer).events)) :
    locked (check >>= next) image = image.conclude question effect := by
  unfold Image.conclude
  cases question with
  | error fault => exact locked_of_error (bind_of_error (checks.of_error rfl))
  | ok answer => exact locked_of_ok (bind_of_ok (checks.of_ok rfl) (rest answer rfl))

/-- An operation that begins with a look at a class and refuses some classes. -/
theorem locked_findClass {id : ObjectId} {refusal? : ClassRecord → Option Fault}
    {next : ClassRecord → ImageM β} {effect : ClassRecord → Effect β}
    (refused : ∀ record fault, refusal? record = some fault →
      next record image.held = .error fault image.held)
    (rest : ∀ record, image.heap.get? id = some (.classRecord record) →
      refusal? record = none → next record image.held = .ok (effect record).value
        (image.held.extend (effect record).heap (effect record).events)) :
    locked (ask (·.findClass id) >>= next) image =
      image.conclude (image.heap.accept refusal? id) effect := by
  unfold Heap.accept Image.conclude
  cases found : image.heap.findClass id with
  | error fault =>
      have asked : ask (·.findClass id) image.held = .error fault image.held := ask_of_error found
      exact locked_of_error (bind_of_error asked)
  | ok record =>
      have asked : ask (·.findClass id) image.held = .ok record image.held := ask_of_ok found
      cases refusal : refusal? record with
      | some fault =>
          simp only [refusal]
          exact locked_of_error (bind_of_ok asked (refused record fault refusal))
      | none =>
          simp only [refusal]
          have stored := Heap.findClass_eq_ok_iff.mp found
          exact locked_of_ok (bind_of_ok asked (rest record stored refusal))

theorem checks_ownerForSubclass (receiver : ObjectId) (image : Image) :
    Checks (ownerForSubclass receiver) image
      (image.heap.accept (·.refuseSubclass image.builtins.anchor receiver) receiver)
      (fun record => record.owner) := by
  simp only [Checks, Image.conclude, ownerForSubclass, bind_apply, ask, Heap.accept,
    ClassRecord.refuseSubclass]
  cases image.heap.findClass receiver with
  | error fault => rfl
  | ok record =>
      by_cases isAnchor : receiver = image.builtins.anchor <;>
        cases flagged : record.isSingleton <;> cases started : record.initialized <;>
        simp [builtinClasses, isAnchor, flagged, started, bind_apply, throw_apply, pure_apply,
          Image.extend]

theorem checks_tagFromSuperclass (superclass : ObjectId) (image : Image) :
    Checks (tagFromSuperclass superclass) image
      (image.heap.acceptSuperclass image.builtins.anchor superclass)
      (fun record => record.instanceTag) := by
  unfold Checks Image.conclude tagFromSuperclass Heap.acceptSuperclass
  rw [bind_apply]
  by_cases isClass : image.heap.isClass superclass
  · obtain ⟨record, stored⟩ := Heap.isClass_iff.mp isClass
    have found := Heap.findClass_eq_ok_iff.mpr stored
    have checks : ownerForSubclass superclass image = _ :=
      checks_ownerForSubclass superclass image
    simp only [view, isClass, Bool.not_true, Bool.false_eq_true, if_false, if_true, bind_apply,
      pure_apply, ask, found, checks]
    cases accepted : image.heap.accept (·.refuseSubclass image.builtins.anchor superclass)
        superclass with
    | error fault => rfl
    | ok answer =>
        have same := (Heap.accept_eq_ok_iff.mp accepted).1
        rw [stored] at same
        cases same
        rfl
  · simp only [view, isClass, Bool.not_false, Bool.false_eq_true, if_false, if_true, bind_apply,
      ask]
    cases image.heap.ownerDisplayName superclass <;> rfl

end ImageM

end Metamodel
