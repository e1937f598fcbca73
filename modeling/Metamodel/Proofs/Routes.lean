import Metamodel.CountingMutex
import Metamodel.Proofs.Display

/-!
# Routes to a new class

A named class below another one can be derived, declared and then named, or allocated, initialized
and then named. The three ways make the same heap: the owner, the tag and the order of the
allocations are the same, and it makes no difference whether the name is stored while the class is
linked or after that. They are refused in the same cases; only what is no class is refused for
another reason when it is declared a superclass.
-/

namespace Metamodel

open Session

namespace Heap

variable {heap after : Heap} {builtins : Builtins} {id : ObjectId}

section Order

theorem modify_modify (heap : Heap) (id : ObjectId) (first second : HeapObject → HeapObject) :
    (heap.modify id first).modify id second = heap.modify id (second ∘ first) := by
  have slots : (heap.slots.modify id (Option.map first)).modify id (Option.map second) =
      heap.slots.modify id (Option.map (second ∘ first)) := by
    apply Array.ext
    · simp
    · intro i _ _
      simp only [Array.getElem_modify]
      split <;> simp
  simp only [modify, slots]

theorem nextId_modify (heap : Heap) (id : ObjectId) (change : HeapObject → HeapObject) :
    (heap.modify id change).nextId = heap.nextId := by
  simp only [nextId, modify, Array.size_modify]

/-- A change in place and an allocation can be made in either order. -/
theorem allocate_modify (tidy : heap.Tidy) (live : heap.contains id)
    (change : HeapObject → HeapObject) (object : HeapObject) :
    (heap.modify id change).allocate object =
      ((heap.allocate object).1, (heap.allocate object).2.modify id change) := by
  obtain ⟨stored, found⟩ := contains_iff.mp live
  have ne := tidy.ne_nextId found
  have inside : id < heap.slots.size := lt_slotCount_of_contains live
  cases vacant : heap.vacant with
  | nil =>
      have slots : (heap.slots.modify id (Option.map change)).push (some object) =
          (heap.slots.push (some object)).modify id (Option.map change) := by
        apply Array.ext
        · simp
        · intro i _ _
          grind
      simp only [Heap.allocate, modify, vacant, Array.size_modify, slots]
  | cons first rest =>
      have other : id ≠ first := by simpa [nextId, vacant] using ne
      have slots : (heap.slots.modify id (Option.map change)).setIfInBounds first (some object) =
          (heap.slots.setIfInBounds first (some object)).modify id (Option.map change) := by
        apply Array.ext
        · simp
        · intro i _ _
          grind
      simp only [Heap.allocate, modify, vacant, slots]

/-- Storing the name of a class while it is joined to another one comes to the same as naming the
class after that. -/
theorem joinUnder_eq_assignName (tidy : heap.Tidy) {superclass subclass : ObjectId}
    (lower : heap.contains subclass) {name : String} (given : ¬ name.isEmpty) (tag : TypeTag) :
    heap.joinUnder superclass subclass name tag =
      (heap.joinUnder superclass subclass "" tag).assignName subclass name := by
  have stored : heap.storeName name = (some heap.nextId, (heap.allocate (.text name)).2) := by
    rw [storeName, if_neg given, allocate_fst]
  have edits : (HeapObject.withClass fun record => { record with name := some heap.nextId }) ∘
      HeapObject.withClass (·.joined superclass none tag) =
        HeapObject.withClass (·.joined superclass (some heap.nextId) tag) := by
    funext object
    cases object <;> rfl
  rw [assignName, joinUnder, joinUnder, storeName_empty, stored, nextId_modify,
    allocate_modify tidy lower, modify_modify, edits]

/-- So does it in a linking. -/
theorem link_eq_assignName (tidy : heap.Tidy) {superclass subclass : ObjectId}
    {record : ClassRecord} (lower : heap.get? subclass = some (.classRecord record))
    {name : String} (given : ¬ name.isEmpty) (tag : TypeTag) :
    heap.link superclass subclass name tag =
      (heap.link superclass subclass "" tag).assignName subclass name := by
  obtain ⟨received, lower'⟩ :=
    exists_get?_deriveSingleton tidy (heap.singletonAbove superclass) lower
  exact joinUnder_eq_assignName (tidy.deriveSingleton _ _) (contains_iff.mpr ⟨_, lower'⟩) given tag

/-- A class that is only allocated is anonymous when it has been linked without a name. -/
theorem exists_get?_link_fresh (tidy : heap.Tidy) (superclass : ObjectId)
    {subclass owner : ObjectId}
    (lower : heap.get? subclass = some (.classRecord (.fresh owner))) (tag : TypeTag) :
    ∃ record, (heap.link superclass subclass "" tag).get? subclass = some (.classRecord record) ∧
      record.isSingleton = false ∧ record.name = none := by
  cases mirrors : heap.singletonAbove superclass with
  | none =>
      rw [get?_link_of_none tidy mirrors lower, if_pos rfl]
      exact ⟨_, rfl, rfl, rfl⟩
  | some mirror =>
      rw [get?_link_of_some tidy mirrors lower, if_pos rfl]
      exact ⟨_, rfl, rfl, rfl⟩

end Order

section Kept

variable (kept : ∀ id object, heap.get? id = some object → after.get? id = some object)
include kept

/-- An object is displayed as before when all objects are kept as they are. -/
theorem Displays.of_kept {name : String} {path : List ObjectId}
    (displays : heap.Displays id name path) : after.Displays id name path := by
  induction displays with
  | literal stored form => exact .literal (kept _ _ stored) form
  | stored stored form text => exact .stored (kept _ _ stored) form (kept _ _ text)
  | around stored form _ ih => exact .around (kept _ _ stored) form ih

/-- A superclass is admitted or refused as before, too. -/
theorem WellFormed.acceptSuperclass_of_kept (wf : heap.WellFormed builtins)
    (named : AnchorNamed builtins heap) (live : heap.contains id) :
    after.acceptSuperclass builtins.anchor id = heap.acceptSuperclass builtins.anchor id := by
  obtain ⟨object, stored⟩ := contains_iff.mp live
  have stored' := kept id object stored
  have found := find_eq_ok_iff.mpr stored
  have found' := find_eq_ok_iff.mpr stored'
  cases object with
  | classRecord record =>
      have isClass : heap.isClass id := isClass_iff.mpr ⟨record, stored⟩
      have isClass' : after.isClass id := isClass_iff.mpr ⟨record, stored'⟩
      simp only [acceptSuperclass, isClass, isClass', if_true, accept,
        findClass_eq_ok_iff.mpr stored, findClass_eq_ok_iff.mpr stored']
  | text content =>
      simp only [acceptSuperclass, Heap.isClass, ownerDisplayName, found, found', stored, stored']
      rfl
  | plain header =>
      obtain ⟨name, path, displays⟩ :=
        wf.exists_displays named ((wf.sound stored).plain header rfl).contains
      have shown := displays.displayName
      have shown' := (displays.of_kept kept).displayName
      simp only [acceptSuperclass, Heap.isClass, ownerDisplayName, found, found', stored, stored',
        bind, Except.bind, HeapObject.header?, shown, shown']
      rfl

end Kept

/-- A class that is only allocated can be initialized below the same classes as before, and is
refused for the same reasons. -/
theorem WellFormed.acceptDeclaration_addClass (wf : heap.WellFormed builtins)
    (named : AnchorNamed builtins heap) (live : heap.contains id) :
    (heap.addClass builtins.anchor).acceptDeclaration builtins.anchor heap.nextId id =
      (heap.acceptSuperclass builtins.anchor id).map (.fresh builtins.anchor, ·) := by
  have lower : (heap.addClass builtins.anchor).accept (·.refuseInitialization) heap.nextId =
      .ok (.fresh builtins.anchor) :=
    accept_eq_ok_iff.mpr ⟨get?_addClass_nextId wf.tidy _, rfl⟩
  have kept : ∀ other object, heap.get? other = some object →
      (heap.addClass builtins.anchor).get? other = some object :=
    fun _ _ stored => get?_addClass_of_some wf.tidy _ stored
  unfold acceptDeclaration
  rw [lower, wf.acceptSuperclass_of_kept kept named live]
  cases heap.acceptSuperclass builtins.anchor id <;> rfl

/-- The same classes are inherited from and declared superclasses. -/
theorem acceptSuperclass_eq_ok_iff_accept {anchor : ObjectId} {record : ClassRecord} :
    heap.acceptSuperclass anchor id = .ok record ↔
      heap.accept (·.refuseSubclass anchor id) id = .ok record := by
  rw [acceptSuperclass_eq_ok_iff, accept_eq_ok_iff, ClassRecord.refuseSubclass_eq_none_iff]

end Heap

namespace Image

variable [ReentrantMutex]

/-- Declare a new class and name it. -/
def declareNamed (superclass : Option ObjectId) (name : String) : ImageM ObjectId := do
  let declared ← newClass superclass
  assignName declared name
  pure declared

/-- Allocate a class, initialize it and name it. -/
def initializeNamed (superclass : Option ObjectId) (name : String) : ImageM ObjectId := do
  let declared ← allocateClass
  let _ ← initializeClass declared superclass
  assignName declared name
  pure declared

variable {image : Image}

/-- Naming a class that has just been linked makes the heap that linking it with the name makes. -/
theorem assignName_of_link (image : Image) {before : Heap} {subclass owner : ObjectId}
    (tidy : before.Tidy) (lower : before.get? subclass = some (.classRecord (.fresh owner)))
    (superclass : ObjectId) (tag : TypeTag) (events : List Event) (name : String) :
    assignName subclass name (image.extend (before.link superclass subclass "" tag) events) =
      .ok () (image.extend (before.link superclass subclass name tag) events) := by
  obtain ⟨record, linked, ordinary, nameless⟩ :=
    Heap.exists_get?_link_fresh tidy superclass lower tag
  have accepted : (before.link superclass subclass "" tag).accept (·.refuseName) subclass =
      .ok record :=
    Heap.accept_eq_ok_iff.mpr ⟨linked, ClassRecord.refuseName_eq_none_iff.mpr ordinary⟩
  rw [assignName_apply (tidy.link _ _ _ _)]
  refine (conclude_of_ok _ accepted).trans ?_
  by_cases empty : name.isEmpty
  · obtain rfl := String.isEmpty_iff.mp empty
    rw [if_neg fun unnamed => unnamed.2 empty, extend_extend, List.append_nil]
    rfl
  · rw [if_pos ⟨nameless, empty⟩, extend_extend, List.append_nil,
      Heap.link_eq_assignName tidy lower empty]
    rfl

/-- Initializing a class right after its allocation. -/
theorem initializeClass_of_allocated (wf : image.heap.WellFormed image.builtins)
    (named : Heap.AnchorNamed image.builtins image.heap) (superclass : Option ObjectId)
    (live : image.heap.contains (superclass.getD image.builtins.root)) :
    let allocated := image.extend (image.heap.addClass image.builtins.anchor) []
    initializeClass image.heap.nextId superclass allocated =
      allocated.conclude (image.heap.acceptSuperclass image.builtins.anchor
        (superclass.getD image.builtins.root)) fun parent =>
          { value := image.heap.nextId
            heap := allocated.heap.link (superclass.getD image.builtins.root) image.heap.nextId ""
              parent.instanceTag
            events := allocated.heap.linkEvents (superclass.getD image.builtins.root)
              image.heap.nextId ++ [.classInitialized image.heap.nextId
                (superclass.getD image.builtins.root)] } := by
  intro allocated
  have wf' : allocated.heap.WellFormed allocated.builtins := wf.addClass
  have question : allocated.heap.acceptDeclaration allocated.builtins.anchor image.heap.nextId
      (superclass.getD allocated.builtins.root) = (image.heap.acceptSuperclass
        image.builtins.anchor (superclass.getD image.builtins.root)).map
          (.fresh image.builtins.anchor, ·) := wf.acceptDeclaration_addClass named live
  rw [initializeClass_apply wf', question]
  cases image.heap.acceptSuperclass image.builtins.anchor
    (superclass.getD image.builtins.root) <;> rfl

section Admitted

variable (wf : image.heap.WellFormed image.builtins) {superclass : Option ObjectId}
  {parent : ClassRecord}
  (admitted : image.heap.acceptSuperclass image.builtins.anchor
    (superclass.getD image.builtins.root) = .ok parent) (name : String)
include wf admitted

/-- Deriving a class with its name, where the superclass is admitted. -/
theorem subclass_of_admitted : ∃ after,
    subclass (superclass.getD image.builtins.root) name none image =
        .ok image.heap.nextId after ∧
      after.heap = (image.heap.addClass image.builtins.anchor).link
        (superclass.getD image.builtins.root) image.heap.nextId name parent.instanceTag := by
  rw [subclass_apply wf, conclude_of_ok _ (Heap.acceptSuperclass_eq_ok_iff_accept.mp admitted)]
  exact ⟨_, rfl, rfl⟩

/-- Declaring a class and naming it then. -/
theorem declareNamed_of_admitted : ∃ after,
    declareNamed superclass name image = .ok image.heap.nextId after ∧
      after.heap = (image.heap.addClass image.builtins.anchor).link
        (superclass.getD image.builtins.root) image.heap.nextId name parent.instanceTag := by
  have declared := newClass_apply wf superclass
  rw [conclude_of_ok _ admitted] at declared
  have named := assignName_of_link image (wf.tidy.addClass image.builtins.anchor)
    (Heap.get?_addClass_nextId wf.tidy _) (superclass.getD image.builtins.root)
    parent.instanceTag
  exact ⟨_, ImageM.bind_of_ok declared (ImageM.bind_of_ok (named _ name) rfl), rfl⟩

/-- Allocating a class, initializing it and naming it then. -/
theorem initializeNamed_of_admitted (named : Heap.AnchorNamed image.builtins image.heap)
    (live : image.heap.contains (superclass.getD image.builtins.root)) : ∃ after,
    initializeNamed superclass name image = .ok image.heap.nextId after ∧
      after.heap = (image.heap.addClass image.builtins.anchor).link
        (superclass.getD image.builtins.root) image.heap.nextId name parent.instanceTag := by
  have initialized := initializeClass_of_allocated wf named superclass live
  rw [admitted] at initialized
  have naming := assignName_of_link (image.extend (image.heap.addClass image.builtins.anchor) [])
    (wf.tidy.addClass image.builtins.anchor) (Heap.get?_addClass_nextId wf.tidy _)
    (superclass.getD image.builtins.root) parent.instanceTag
  exact ⟨_, ImageM.bind_of_ok (allocateClass_apply image) (ImageM.bind_of_ok initialized
    (ImageM.bind_of_ok (naming _ name) rfl)), rfl⟩

end Admitted

end Image

/-- In every reachable image a class below a live one, or below the root, can be derived with its
name, declared and then named, or allocated, initialized and then named: either all three succeed
with the same id and make the same heap, or all are refused when the class is to be linked. The
second and the third are refused with the same fault, and so is the first when the id given for
the superclass denotes a class. -/
theorem Reached.routes_agree [ReentrantMutex] {settings : Settings} {calls : List (Call ObjectId)}
    {image : Image}
    (reached : Reached settings calls image) (superclass : Option ObjectId) (name : String)
    (live : ∀ id ∈ superclass, image.heap.contains id) :
    (∃ id first second third,
      Image.subclass (superclass.getD image.builtins.root) name none image = .ok id first ∧
        Image.declareNamed superclass name image = .ok id second ∧
        Image.initializeNamed superclass name image = .ok id third ∧
        second.heap = first.heap ∧ third.heap = first.heap) ∨
      ∃ fault fault' id allocated,
        Image.subclass (superclass.getD image.builtins.root) name none image =
            .error fault image ∧
          Image.newClass superclass image = .error fault' image ∧
          Image.allocateClass image = .ok id allocated ∧
          Image.initializeClass id superclass allocated = .error fault' allocated ∧
          (image.heap.isClass (superclass.getD image.builtins.root) → fault = fault') := by
  have wf := reached.wellFormed
  have named := reached.anchorNamed
  have isLive : image.heap.contains (superclass.getD image.builtins.root) := by
    cases superclass with
    | none => exact wf.root_isOrdinary.contains
    | some id => exact live id rfl
  cases accepted : image.heap.acceptSuperclass image.builtins.anchor
      (superclass.getD image.builtins.root) with
  | ok parent =>
      obtain ⟨first, derived, isFirst⟩ := Image.subclass_of_admitted wf accepted name
      obtain ⟨second, declared, isSecond⟩ := Image.declareNamed_of_admitted wf accepted name
      obtain ⟨third, initialized, isThird⟩ :=
        Image.initializeNamed_of_admitted wf accepted name named isLive
      exact .inl ⟨_, first, second, third, derived, declared, initialized,
        isSecond.trans isFirst.symm, isThird.trans isFirst.symm⟩
  | error fault' =>
      have initialized := Image.initializeClass_of_allocated wf named superclass isLive
      rw [accepted] at initialized
      cases inherited : image.heap.accept (·.refuseSubclass image.builtins.anchor
          (superclass.getD image.builtins.root)) (superclass.getD image.builtins.root) with
      | ok parent =>
          rw [Heap.acceptSuperclass_eq_ok_iff_accept.mpr inherited] at accepted
          cases accepted
      | error fault =>
          refine .inr ⟨fault, fault', _, _, ?_, ?_, Image.allocateClass_apply image,
            initialized, ?_⟩
          · rw [Image.subclass_apply wf, Image.conclude_of_error _ inherited]
          · rw [Image.newClass_apply wf, Image.conclude_of_error _ accepted]
          · intro isClass
            rw [Heap.acceptSuperclass, if_pos isClass, inherited] at accepted
            cases accepted
            rfl

/-- The case of a class with a name below a declared class, in slot 11, and below the class in slot
15, which is allocated only. The first can be made and the second cannot. -/
theorem Reached.routes_agree_subclass : ∃ image,
    Reached .standard [.subclass 5 "A" none, .newObject 11, .allocateClass] image ∧
      (∃ id first second third,
        Image.subclass 11 "B" none image = .ok id first ∧
          Image.declareNamed (some 11) "B" image = .ok id second ∧
          Image.initializeNamed (some 11) "B" image = .ok id third ∧
          second.heap = first.heap ∧ third.heap = first.heap) ∧
      ∃ fault, Image.subclass 15 "B" none image = .error fault image ∧
        Image.newClass (some 15) image = .error fault image := by
  let calls : List (Call ObjectId) := [.subclass 5 "A" none, .newObject 11, .allocateClass]
  let image := (Image.first .standard).afterCalls calls
  have reached : Reached .standard calls image := .afterFirst .standard calls
  have builtins : image.builtins = ⟨0, 3, 5, 8⟩ := by decide +kernel
  have declared : image.heap.get? 11 = some (.classRecord { ClassRecord.fresh 0 with
      superclass := some 5, singleton := some 12, name := some 13, initialized := true }) := by
    decide +kernel
  have allocated : image.heap.get? 15 = some (.classRecord (.fresh 0)) := by decide +kernel
  have live : ∀ id ∈ [11, 15], image.heap.contains id := by decide +kernel
  refine ⟨image, reached, ?_, ?_⟩
  · rcases Reached.routes_agree reached (some 11) "B" (by simpa using live 11 (by simp)) with
      made | ⟨_, _, _, _, refused, _⟩
    · exact made
    · have admitted : image.heap.acceptSuperclass image.builtins.anchor ((some 11).getD
          image.builtins.root) = .ok _ :=
        Heap.acceptSuperclass_eq_ok_iff.mpr ⟨declared, by rw [builtins]; decide, rfl, rfl⟩
      obtain ⟨_, derived, _⟩ := Image.subclass_of_admitted reached.wellFormed admitted "B"
      cases refused.symm.trans derived
  · rcases Reached.routes_agree reached (some 15) "B" (by simpa using live 15 (by simp)) with
      ⟨_, _, _, _, made, _⟩ | ⟨fault, fault', _, _, refused, undeclared, _, _, same⟩
    · change Image.subclass 15 "B" none image = _ at made
      rw [Image.subclass_apply reached.wellFormed] at made
      obtain ⟨record, accepted, _⟩ := Image.exists_of_conclude made
      obtain ⟨stored, admitted⟩ := Heap.accept_eq_ok_iff.mp accepted
      cases allocated.symm.trans stored
      obtain ⟨_, _, started⟩ := ClassRecord.refuseSubclass_eq_none_iff.mp admitted
      cases started
    · have isClass : image.heap.isClass 15 := by
        rw [Heap.isClass, allocated]
        rfl
      exact ⟨fault, refused, same isClass ▸ undeclared⟩

end Metamodel
