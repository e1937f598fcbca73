import Metamodel.CountingMutex
import Metamodel.Proofs.Display

/-!
# Causes of refusals

Why a call is refused, as a list of causes in the order in which they count. In a reachable image
a call is refused for the first cause that applies; if none applies it is not refused at all. So
nothing that an operation looks up on its way can be missing, and no chain that it follows is
endless.
-/

namespace Metamodel

open Session

/-- A reason to refuse a call, which may apply or not. -/
structure Cause where
  applies : Bool
  fault : Fault
  deriving DecidableEq, Inhabited

/-- The fault of the first cause that applies. -/
def firstFault (causes : List Cause) : Option Fault :=
  (causes.find? Cause.applies).map Cause.fault

namespace Heap

/-- The class with the given id, if there is one. -/
def classAt? (heap : Heap) (id : ObjectId) : Option ClassRecord :=
  (heap.get? id).bind HeapObject.classRecord?

/-- Whether an id denotes a singleton class. -/
def isSingletonClass (heap : Heap) (id : ObjectId) : Bool :=
  (heap.classAt? id).any ClassRecord.isSingleton

/-- Whether an id denotes an initialized class. -/
def isInitialized (heap : Heap) (id : ObjectId) : Bool :=
  (heap.classAt? id).any ClassRecord.initialized

/-- Whether an id denotes a class or an instance. -/
def hasHeader (heap : Heap) (id : ObjectId) : Bool :=
  ((heap.get? id).bind HeapObject.header?).isSome

/-- The display name of the class that an object is an instance of. That of a text is fixed. -/
def ownerDisplay (heap : Heap) (id : ObjectId) : String :=
  match (heap.get? id).bind HeapObject.header? with
  | some header => heap.display header.owner
  | none => "String"

/-- No object has this id. -/
def unknownCause (heap : Heap) (id : ObjectId) : Cause :=
  ⟨!heap.contains id, .unknownObject id⟩

/-- Why no class is found. -/
def classCauses (heap : Heap) (id : ObjectId) : List Cause :=
  [heap.unknownCause id, ⟨!heap.isClass id, .notAClass (heap.display id)⟩]

/-- Why a class cannot be inherited from. -/
def inheritanceCauses (heap : Heap) (anchor id : ObjectId) : List Cause :=
  [⟨id = anchor, .anchorSuperclass⟩, ⟨heap.isSingletonClass id, .singletonSuperclass⟩,
    ⟨!heap.isInitialized id, .uninitializedSuperclass⟩]

/-- Why an object cannot be declared a superclass. -/
def superclassCauses (heap : Heap) (anchor id : ObjectId) : List Cause :=
  [heap.unknownCause id, ⟨!heap.isClass id, .invalidSuperclass (heap.ownerDisplay id)⟩] ++
    heap.inheritanceCauses anchor id

end Heap

/-- Why a call that changes an image is refused. What is not listed here is never refused. -/
def Session.Call.causes (heap : Heap) (builtins : Builtins) : Call ObjectId → List Cause
  | .subclass receiver _ _ =>
      heap.classCauses receiver ++ heap.inheritanceCauses builtins.anchor receiver
  | .declare (.initializeClass declared superclass) =>
      heap.classCauses declared ++ [⟨heap.isInitialized declared, .alreadyInitialized⟩] ++
        heap.superclassCauses builtins.anchor (superclass.getD builtins.root)
  | .declare (.newClass superclass) =>
      heap.superclassCauses builtins.anchor (superclass.getD builtins.root)
  | .newObject owner =>
      heap.classCauses owner ++ [⟨heap.isSingletonClass owner, .singletonInstance⟩,
        ⟨!heap.isInitialized owner, .uninitializedClass⟩]
  | .assignName target _ =>
      heap.classCauses target ++ [⟨heap.isSingletonClass target, .singletonName⟩]
  | .singletonClass object =>
      [⟨!heap.hasHeader object, .unknownObject object⟩,
        ⟨heap.isClass object && !heap.isInitialized object, .uninitializedClass⟩]
  | .pin object => [heap.unknownCause object]
  | _ => []

/-- How an operation ends that is refused for the first cause that applies and for nothing
else. -/
def Decided [ReentrantMutex] {α : Type} (causes : List Cause) (image : Image)
    (result : EStateM.Result Fault Image α) : Prop :=
  match firstFault causes with
  | some fault => result = .error fault image
  | none => ∃ value after, result = .ok value after

/-- The fault of a question that is not answered. -/
def faultOf {α : Type} : Except Fault α → Option Fault
  | .error fault => some fault
  | .ok _ => none

theorem firstFault_append (first rest : List Cause) :
    firstFault (first ++ rest) = (firstFault first).or (firstFault rest) := by
  rw [firstFault, List.find?_append, Option.map_or, firstFault, firstFault]

section Decided

variable [ReentrantMutex] {α β : Type} {causes : List Cause} {image after : Image}
  {result : EStateM.Result Fault Image α}

theorem Decided.of_some {fault : Fault} (first : firstFault causes = some fault)
    (refused : result = .error fault image) : Decided causes image result := by
  rw [Decided, first]
  exact refused

theorem Decided.of_none {value : α} (free : firstFault causes = none)
    (done : result = .ok value after) : Decided causes image result := by
  rw [Decided, free]
  exact ⟨value, after, done⟩

theorem Decided.map (f : α → β) {act : ImageM α} (decided : Decided causes image (act image)) :
    Decided causes image ((f <$> act) image) := by
  unfold Decided at decided ⊢
  rw [ImageM.map_apply]
  cases first : firstFault causes with
  | some fault =>
      simp only [first] at decided
      simp only [decided]
  | none =>
      simp only [first] at decided
      obtain ⟨value, after, done⟩ := decided
      exact ⟨f value, after, by simp only [done]⟩

theorem Decided.conclude {question : Except Fault α} {effect : α → Effect β}
    (same : faultOf question = firstFault causes) :
    Decided causes image (image.conclude question effect) := by
  unfold Decided Image.conclude
  rw [← same]
  cases question with
  | error fault => rfl
  | ok answer => exact ⟨_, _, rfl⟩

theorem Decided.ok (value : α) (after : Image) : Decided [] image (.ok value after) :=
  ⟨value, after, rfl⟩

end Decided

namespace Heap

variable {heap : Heap} {builtins : Builtins} {id : ObjectId} {record : ClassRecord}

theorem classAt?_of_get? (stored : heap.get? id = some (.classRecord record)) :
    heap.classAt? id = some record := by
  rw [classAt?, stored]
  rfl

/-- What speaks against inheriting from a class that is there. -/
theorem refuseSubclass_eq_firstFault (stored : heap.get? id = some (.classRecord record))
    (anchor : ObjectId) :
    record.refuseSubclass anchor id = firstFault (heap.inheritanceCauses anchor id) := by
  unfold ClassRecord.refuseSubclass firstFault inheritanceCauses isSingletonClass isInitialized
  rw [classAt?_of_get? stored]
  by_cases isAnchor : id = anchor <;> cases flagged : record.isSingleton <;>
    cases started : record.initialized <;> simp [isAnchor, flagged, started]

theorem refuseInitialization_eq_firstFault
    (stored : heap.get? id = some (.classRecord record)) :
    record.refuseInitialization =
      firstFault [⟨heap.isInitialized id, .alreadyInitialized⟩] := by
  unfold ClassRecord.refuseInitialization firstFault isInitialized
  rw [classAt?_of_get? stored]
  cases started : record.initialized <;> simp [started]

theorem refuseInstance_eq_firstFault (stored : heap.get? id = some (.classRecord record)) :
    record.refuseInstance = firstFault [⟨heap.isSingletonClass id, .singletonInstance⟩,
      ⟨!heap.isInitialized id, .uninitializedClass⟩] := by
  unfold ClassRecord.refuseInstance firstFault isSingletonClass isInitialized
  rw [classAt?_of_get? stored]
  cases flagged : record.isSingleton <;> cases started : record.initialized <;>
    simp [flagged, started]

theorem refuseName_eq_firstFault (stored : heap.get? id = some (.classRecord record)) :
    record.refuseName = firstFault [⟨heap.isSingletonClass id, .singletonName⟩] := by
  unfold ClassRecord.refuseName firstFault isSingletonClass
  rw [classAt?_of_get? stored]
  cases flagged : record.isSingleton <;> simp [flagged]

/-- An id without an object is refused as unknown before all else. -/
theorem firstFault_of_unknown (unknown : heap.get? id = none) (more : List Cause) :
    firstFault (heap.unknownCause id :: more) = some (.unknownObject id) := by
  simp [firstFault, unknownCause, contains, unknown]

/-- Any other id is refused for another cause, if at all. -/
theorem firstFault_of_known {object : HeapObject} (stored : heap.get? id = some object)
    (more : List Cause) : firstFault (heap.unknownCause id :: more) = firstFault more := by
  simp [firstFault, unknownCause, contains, stored]

theorem firstFault_of_class (stored : heap.get? id = some (.classRecord record)) (fault : Fault)
    (more : List Cause) :
    firstFault (heap.unknownCause id :: ⟨!heap.isClass id, fault⟩ :: more) = firstFault more := by
  rw [firstFault_of_known stored]
  simp [firstFault, isClass, stored, HeapObject.classRecord?]

theorem firstFault_of_not_class {object : HeapObject} (stored : heap.get? id = some object)
    (other : object.classRecord? = none) (fault : Fault) (more : List Cause) :
    firstFault (heap.unknownCause id :: ⟨!heap.isClass id, fault⟩ :: more) = some fault := by
  rw [firstFault_of_known stored]
  simp [firstFault, isClass, stored, other]

theorem faultOf_find (id : ObjectId) :
    faultOf (heap.find id) = firstFault [heap.unknownCause id] := by
  cases stored : heap.get? id with
  | none =>
      rw [firstFault_of_unknown stored, find, stored]
      rfl
  | some object =>
      rw [firstFault_of_known stored, find, stored]
      rfl

/-- What has no header is refused as unknown where one is asked for. -/
theorem findHeader_of_none (headless : (heap.get? id).bind HeapObject.header? = none) :
    heap.findHeader id = .error (.unknownObject id) := by
  unfold findHeader find
  cases stored : heap.get? id with
  | none => rfl
  | some object =>
      rw [stored] at headless
      have isNone : object.header? = none := headless
      simp only [bind, Except.bind, isNone]
      rfl

section Shown

variable (shown : ∀ id, heap.contains id → heap.displayName id = .ok (heap.display id))
include shown

/-- What is not a class is refused by its display name. -/
theorem findClass_of_not_class {object : HeapObject} (stored : heap.get? id = some object)
    (other : object.classRecord? = none) :
    heap.findClass id = .error (.notAClass (heap.display id)) := by
  rw [findClass_eq_bind stored other, shown id (contains_iff.mpr ⟨object, stored⟩)]
  rfl

/-- A class is found, and accepted if nothing speaks against it. -/
theorem faultOf_accept {refusal? : ClassRecord → Option Fault} {more : List Cause}
    (refusals : ∀ record, heap.get? id = some (.classRecord record) →
      refusal? record = firstFault more) :
    faultOf (heap.accept refusal? id) = firstFault (heap.classCauses id ++ more) := by
  unfold accept
  cases stored : heap.get? id with
  | none =>
      have unknown : heap.findClass id = .error (.unknownObject id) := by
        unfold findClass find
        rw [stored]
        rfl
      rw [unknown]
      exact (firstFault_of_unknown stored _).symm
  | some object =>
      cases recorded : object.classRecord? with
      | none =>
          rw [findClass_of_not_class shown stored recorded]
          exact (firstFault_of_not_class stored recorded _ _).symm
      | some record =>
          obtain rfl := HeapObject.eq_of_classRecord? recorded
          refine Eq.trans ?_ (firstFault_of_class stored _ more).symm
          rw [findClass_eq_ok_iff.mpr stored, ← refusals record stored]
          cases refused : refusal? record <;> simp only [refused] <;> rfl

variable (wf : heap.WellFormed builtins)
include wf

theorem ownerDisplayName_eq {object : HeapObject} (stored : heap.get? id = some object) :
    heap.ownerDisplayName id = .ok (heap.ownerDisplay id) := by
  unfold ownerDisplayName ownerDisplay
  rw [find_eq_ok_iff.mpr stored, stored]
  cases isHeader : object.header? with
  | none =>
      simp only [bind, Except.bind, Option.bind_some, isHeader]
      rfl
  | some header =>
      have owner := ((wf.sound stored).header header isHeader).owner
      simp only [bind, Except.bind, Option.bind_some, isHeader, shown _ owner.contains]

theorem faultOf_acceptSuperclass (anchor id : ObjectId) :
    faultOf (heap.acceptSuperclass anchor id) = firstFault (heap.superclassCauses anchor id) := by
  unfold acceptSuperclass
  cases stored : heap.get? id with
  | none =>
      have unknown : heap.ownerDisplayName id = .error (.unknownObject id) := by
        unfold ownerDisplayName find
        rw [stored]
        rfl
      have noClass : heap.isClass id = false := by simp [isClass, stored]
      rw [noClass, if_neg Bool.false_ne_true, unknown]
      exact (firstFault_of_unknown stored _).symm
  | some object =>
      cases recorded : object.classRecord? with
      | none =>
          have noClass : heap.isClass id = false := by simp [isClass, stored, recorded]
          rw [noClass, if_neg Bool.false_ne_true, ownerDisplayName_eq shown wf stored]
          exact (firstFault_of_not_class stored recorded _ _).symm
      | some record =>
          obtain rfl := HeapObject.eq_of_classRecord? recorded
          rw [if_pos (isClass_iff.mpr ⟨record, stored⟩), faultOf_accept shown
            fun record stored => refuseSubclass_eq_firstFault stored anchor]
          exact (firstFault_of_class stored _ _).trans (firstFault_of_class stored _ _).symm

theorem faultOf_acceptDeclaration (anchor declared superclass : ObjectId) :
    faultOf (heap.acceptDeclaration anchor declared superclass) =
      firstFault (heap.classCauses declared ++
        [⟨heap.isInitialized declared, .alreadyInitialized⟩] ++
          heap.superclassCauses anchor superclass) := by
  rw [firstFault_append,
    ← faultOf_accept shown fun record stored => refuseInitialization_eq_firstFault stored,
    ← faultOf_acceptSuperclass shown wf anchor superclass]
  unfold acceptDeclaration
  cases heap.accept (·.refuseInitialization) declared with
  | error fault => rfl
  | ok record => cases heap.acceptSuperclass anchor superclass <;> rfl

end Shown

end Heap

namespace Session.Call

variable [ReentrantMutex] {image : Image}

theorem decided_singletonClass (wf : image.heap.WellFormed image.builtins) (object : ObjectId) :
    Decided (causes image.heap image.builtins (.singletonClass object)) image
      (Image.singletonClass object image) := by
  cases isHeader : (image.heap.get? object).bind HeapObject.header? with
  | none =>
      refine .of_some ?_ (Image.singletonClass_of_unknown (Heap.findHeader_of_none isHeader))
      simp [firstFault, causes, Heap.hasHeader, isHeader]
  | some header =>
      obtain ⟨stored, target, isHeader'⟩ := Option.bind_eq_some_iff.mp isHeader
      rcases stored.raw_or_started with ⟨record, rfl, raw⟩ | started
      · refine .of_some ?_ (Image.singletonClass_of_raw wf target raw)
        simp [firstFault, causes, Heap.hasHeader, Heap.isClass, Heap.isInitialized,
          Heap.classAt?_of_get? target, target, HeapObject.header?, HeapObject.classRecord?, raw]
      · obtain ⟨singleton, after, events, done, _⟩ :=
          Image.singletonClass_of_live wf target isHeader' started
        refine .of_none ?_ done
        cases stored with
        | classRecord record =>
            simp [firstFault, causes, Heap.hasHeader, isHeader, Heap.isInitialized,
              Heap.classAt?_of_get? target, started record rfl]
        | plain header =>
            simp [firstFault, causes, Heap.hasHeader, Heap.isClass, target, HeapObject.header?,
              HeapObject.classRecord?]
        | text content => cases isHeader'

/-- A call that changes a well-formed image is refused for the first cause that applies and
succeeds if none does. -/
theorem decided (wf : image.heap.WellFormed image.builtins)
    (shown : ∀ id, image.heap.contains id →
      image.heap.displayName id = .ok (image.heap.display id))
    (call : Call ObjectId) (changes : ∀ question object, call ≠ .inspect question object) :
    Decided (call.causes image.heap image.builtins) image (call.perform image) := by
  cases call with
  | subclass receiver name tag =>
      apply Decided.map
      rw [Image.subclass_apply wf]
      exact .conclude (Heap.faultOf_accept shown fun record stored =>
        Heap.refuseSubclass_eq_firstFault stored _)
  | declare declaration =>
      apply Decided.map
      cases declaration with
      | initializeClass declared superclass =>
          change Decided _ image (Image.initializeClass declared superclass image)
          rw [Image.initializeClass_apply wf]
          exact .conclude (Heap.faultOf_acceptDeclaration shown wf _ _ _)
      | newClass superclass =>
          change Decided _ image (Image.newClass superclass image)
          rw [Image.newClass_apply wf]
          exact .conclude (Heap.faultOf_acceptSuperclass shown wf _ _)
  | allocateClass =>
      apply Decided.map
      rw [Image.allocateClass_apply]
      exact .ok _ _
  | newObject owner =>
      apply Decided.map
      rw [Image.newObject_apply]
      exact .conclude (Heap.faultOf_accept shown fun record stored =>
        Heap.refuseInstance_eq_firstFault stored)
  | assignName target name =>
      apply Decided.map
      rw [Image.assignName_apply wf.tidy]
      exact .conclude (Heap.faultOf_accept shown fun record stored =>
        Heap.refuseName_eq_firstFault stored)
  | singletonClass object => exact (decided_singletonClass wf object).map _
  | collect roots =>
      apply Decided.map
      rw [Image.collect_apply]
      exact .ok _ _
  | collectIfDue roots =>
      apply Decided.map
      rw [Image.collectIfDue_apply, ImageM.map_apply, Image.collect_apply]
      split <;> exact .ok _ _
  | pin object =>
      apply Decided.map
      rw [Image.pin_apply]
      refine .conclude (Eq.trans ?_ (Heap.faultOf_find object))
      unfold Heap.pin
      cases image.heap.find object <;> rfl
  | unpin object =>
      apply Decided.map
      rw [Image.unpin_apply]
      exact .ok _ _
  | builtins => exact .ok _ _
  | inspect question object => exact absurd rfl (changes question object)
  | survey question => exact .ok _ _
  | isLocked => exact .ok _ _
  | tryLock contender => exact .ok _ _

end Session.Call

/-- In a reachable image every object has a display name, and a call that changes the image is
refused for the first cause that applies and succeeds if none does. -/
theorem Reached.refused_by_first_cause [ReentrantMutex] {settings : Settings}
    {calls : List (Call ObjectId)} {image : Image} (reached : Reached settings calls image) :
    (∀ id, image.heap.contains id →
      image.heap.displayName id = .ok (image.heap.display id)) ∧
      ∀ call : Call ObjectId, (∀ question object, call ≠ .inspect question object) →
        Decided (call.causes image.heap image.builtins) image (call.perform image) := by
  have shown := fun id (live : image.heap.contains id) => reached.displayName_eq live
  exact ⟨shown, fun call changes => call.decided reached.wellFormed shown changes⟩

/-- The case of an allocated class, in slot 11. It cannot be declared below itself, but it can be
declared below the root, and the text in slot 1 cannot. -/
theorem Reached.refused_by_first_cause_allocateClass : ∃ image,
    Reached .standard [.allocateClass] image ∧
      Call.perform (.declare (.initializeClass 11 (some 11))) image =
        .error .uninitializedSuperclass image ∧
      (∃ value after, Call.perform (.declare (.initializeClass 11 none)) image = .ok value after) ∧
      Call.perform (.declare (.initializeClass 1 none)) image =
        .error (.notAClass "\"Class\"") image := by
  let image := (Image.first .standard).afterCalls [.allocateClass]
  have reached : Reached .standard [.allocateClass] image := .afterFirst .standard [.allocateClass]
  obtain ⟨_, decided⟩ := Reached.refused_by_first_cause reached
  have own := decided (.declare (.initializeClass 11 (some 11))) (by rintro question object ⟨⟩)
  have first : firstFault (Call.causes image.heap image.builtins
      (.declare (.initializeClass 11 (some 11)))) = some .uninitializedSuperclass := by
    decide +kernel
  have root := decided (.declare (.initializeClass 11 none)) (by rintro question object ⟨⟩)
  have free : firstFault (Call.causes image.heap image.builtins
      (.declare (.initializeClass 11 none))) = none := by
    decide +kernel
  have text := decided (.declare (.initializeClass 1 none)) (by rintro question object ⟨⟩)
  have quoted : firstFault (Call.causes image.heap image.builtins
      (.declare (.initializeClass 1 none))) = some (.notAClass "\"Class\"") := by
    decide +kernel
  simp only [Decided, first] at own
  simp only [Decided, free] at root
  simp only [Decided, quoted] at text
  exact ⟨image, reached, own, root, text⟩

end Metamodel
