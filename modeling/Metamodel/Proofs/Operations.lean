import Metamodel.Image.Collection
import Metamodel.Proofs.Admission

/-!
# Operations

What each operation does to an image with a well-formed heap, as one equation for each: the fault
and the image as it was, or the answer and the image with the heap and the events after it. Making
singleton classes goes up the superclass chain and has a module of its own.
-/

namespace Metamodel

open ImageM

namespace Image

variable [ReentrantMutex] {image : Image}

theorem allocateClass_apply (image : Image) :
    allocateClass image = .ok image.heap.nextId
      (image.extend (image.heap.addClass image.builtins.anchor) []) :=
  locked_of_ok (bind_of_ok rfl (allocate_apply _ _))

theorem newObject_apply (owner : ObjectId) (image : Image) :
    newObject owner image =
      image.conclude (image.heap.accept (·.refuseInstance) owner) fun record =>
        { value := image.heap.nextId
          heap := (image.heap.allocate (.plain (.fresh record.instanceTag owner))).2
          events := [] } := by
  apply locked_findClass
  · intro record fault refused
    unfold ClassRecord.refuseInstance at refused
    cases flagged : record.isSingleton <;> cases started : record.initialized <;>
      simp_all [bind_apply, throw_apply]
  · intro record _ accepted
    obtain ⟨ordinary, started⟩ := ClassRecord.refuseInstance_eq_none_iff.mp accepted
    simp only [ordinary, started, Bool.false_eq_true, Bool.not_true, if_false]
    exact allocate_apply _ _

/-- Naming a class that has a name, or by an empty text, changes nothing. -/
theorem assignName_apply (tidy : image.heap.Tidy) (target : ObjectId) (name : String) :
    assignName target name image =
      image.conclude (image.heap.accept (·.refuseName) target) fun record =>
        { value := ()
          heap := if record.name = none ∧ ¬ name.isEmpty then image.heap.assignName target name
            else image.heap
          events := [] } := by
  apply locked_findClass
  · intro record fault refused
    unfold ClassRecord.refuseName at refused
    cases flagged : record.isSingleton <;> simp_all [bind_apply, throw_apply]
  · intro record stored accepted
    have ordinary := ClassRecord.refuseName_eq_none_iff.mp accepted
    simp only [ordinary, Bool.false_eq_true, if_false]
    cases given : record.name with
    | some known => rfl
    | none =>
        simp only [Option.isNone_none, if_true, true_and]
        refine bind_of_ok (storeName_apply name _) ?_
        by_cases empty : name.isEmpty
        · simp only [Heap.storeName_of_isEmpty empty, empty, not_true_eq_false, if_false]
          rfl
        · have live : (image.heap.allocate (.text name)).2.get? target =
              some (.classRecord record) := by
            rw [tidy.get?_allocate, if_neg (tidy.ne_nextId stored), stored]
          have named : image.heap.storeName name =
              (some image.heap.nextId, (image.heap.allocate (.text name)).2) := by
            rw [Heap.storeName, if_neg empty, Heap.allocate_fst]
          simp only [named, empty, Bool.false_eq_true, not_false_eq_true, if_true]
          exact editClass_apply _ live

/-- A new class linked below an admitted one. -/
theorem link_new_apply (image : Image) (wf : image.heap.WellFormed image.builtins)
    {superclass : ObjectId} {parent : ClassRecord} (name : String)
    (tag : Option TypeTag) (upper : image.heap.get? superclass = some (.classRecord parent)) :
    link superclass image.heap.nextId name tag
        (image.extend (image.heap.addClass image.builtins.anchor) []) =
      .ok () (image.extend
        ((image.heap.addClass image.builtins.anchor).link superclass image.heap.nextId name
          (tag.getD parent.instanceTag))
        ((image.heap.addClass image.builtins.anchor).linkEvents superclass
          image.heap.nextId)) := by
  have tidy := wf.tidy
  have mirror : ∀ above, parent.singleton = some above → ∃ mirrored,
      (image.heap.addClass image.builtins.anchor).get? above = some (.classRecord mirrored) := by
    intro above given
    obtain ⟨mirrored, found⟩ := wf.exists_singleton upper rfl above given
    exact ⟨mirrored, Heap.get?_addClass_of_some tidy _ found⟩
  have upper' := Heap.get?_addClass_of_some tidy image.builtins.anchor upper
  have lower' := Heap.get?_addClass_nextId tidy image.builtins.anchor
  refine (link_apply _ (tidy.addClass _) tag upper' lower' (tidy.ne_nextId upper) mirror).trans ?_
  rw [Image.extend_extend]
  rfl

theorem subclass_apply (wf : image.heap.WellFormed image.builtins) (receiver : ObjectId)
    (name : String) (tag : Option TypeTag) :
    subclass receiver name tag image =
      image.conclude
        (image.heap.accept (·.refuseSubclass image.builtins.anchor receiver) receiver)
        fun record =>
          { value := image.heap.nextId
            heap := (image.heap.addClass image.builtins.anchor).link receiver image.heap.nextId
              name (tag.getD record.instanceTag)
            events := (image.heap.addClass image.builtins.anchor).linkEvents receiver
              image.heap.nextId ++ [.subclassCreated receiver image.heap.nextId name] } := by
  refine Checks.locked (checks_ownerForSubclass receiver image.held) ?_
  intro record found
  obtain ⟨stored, accepted⟩ := Heap.accept_eq_ok_iff.mp found
  obtain ⟨_, ordinary, _⟩ := ClassRecord.refuseSubclass_eq_none_iff.mp accepted
  have owner := ((wf.sound stored).classRecord record rfl).owner ordinary
  rw [owner]
  refine bind_of_ok (allocate_apply _ _) ?_
  refine bind_of_ok (link_new_apply image.held wf name tag stored) ?_
  refine bind_of_ok (emit_apply _ _) ?_
  rw [Image.extend_extend]
  rfl

theorem newClass_apply (wf : image.heap.WellFormed image.builtins)
    (superclass : Option ObjectId) :
    newClass superclass image =
      image.conclude (image.heap.acceptSuperclass image.builtins.anchor
        (superclass.getD image.builtins.root)) fun parent =>
          { value := image.heap.nextId
            heap := (image.heap.addClass image.builtins.anchor).link
              (superclass.getD image.builtins.root) image.heap.nextId "" parent.instanceTag
            events := (image.heap.addClass image.builtins.anchor).linkEvents
              (superclass.getD image.builtins.root) image.heap.nextId ++
                [.classCreated image.heap.nextId (superclass.getD image.builtins.root)] } := by
  have checks := checks_tagFromSuperclass (superclass.getD image.builtins.root) image.held
  refine checks.locked ?_
  intro parent found
  obtain ⟨stored, _⟩ := Heap.acceptSuperclass_eq_ok_iff.mp found
  refine bind_of_ok rfl ?_
  refine bind_of_ok (allocate_apply _ _) ?_
  refine bind_of_ok (link_new_apply image.held wf "" _ stored) ?_
  refine bind_of_ok (emit_apply _ _) ?_
  rw [extend_extend]
  rfl

theorem initializeClass_apply (wf : image.heap.WellFormed image.builtins) (declared : ObjectId)
    (superclass : Option ObjectId) :
    initializeClass declared superclass image =
      image.conclude (image.heap.acceptDeclaration image.builtins.anchor declared
        (superclass.getD image.builtins.root)) fun found =>
          { value := declared
            heap := image.heap.link (superclass.getD image.builtins.root) declared ""
              found.2.instanceTag
            events := image.heap.linkEvents (superclass.getD image.builtins.root) declared ++
              [.classInitialized declared (superclass.getD image.builtins.root)] } := by
  unfold Heap.acceptDeclaration Heap.accept conclude
  cases found : image.heap.findClass declared with
  | error fault =>
      have asked : ask (·.findClass declared) image.held = .error fault image.held :=
        ask_of_error found
      exact locked_of_error (bind_of_error asked)
  | ok record =>
      have asked : ask (·.findClass declared) image.held = .ok record image.held :=
        ask_of_ok found
      have lower := Heap.findClass_eq_ok_iff.mp found
      simp only [ClassRecord.refuseInitialization]
      cases started : record.initialized with
      | true =>
          refine locked_of_error (bind_of_ok asked ?_)
          simp only [started, if_true]
          rfl
      | false =>
          have checks := checks_tagFromSuperclass (superclass.getD image.builtins.root) image.held
          simp only [Bool.false_eq_true, if_false]
          cases accepted : image.heap.acceptSuperclass image.builtins.anchor
              (superclass.getD image.builtins.root) with
          | error fault =>
              refine locked_of_error (bind_of_ok asked ?_)
              simp only [started, Bool.false_eq_true, if_false]
              exact bind_of_ok rfl (bind_of_error (checks.of_error accepted))
          | ok parent =>
              obtain ⟨upper, _, _, initialized⟩ := Heap.acceptSuperclass_eq_ok_iff.mp accepted
              have ne : superclass.getD image.builtins.root ≠ declared := by
                intro same
                rw [same, lower] at upper
                cases upper
                rw [started] at initialized
                cases initialized
              refine locked_of_ok (bind_of_ok asked ?_)
              simp only [started, Bool.false_eq_true, if_false]
              refine bind_of_ok rfl (bind_of_ok (checks.of_ok accepted) ?_)
              refine bind_of_ok (link_apply image.held wf.tidy _ upper lower ne
                (wf.exists_singleton upper rfl)) ?_
              refine bind_of_ok (emit_apply _ _) ?_
              rw [extend_extend]
              rfl

/-- A collection that is not due is not made. -/
theorem collectIfDue_apply (roots : List ObjectId) (image : Image) :
    collectIfDue roots image =
      if image.heap.collectionDue then (some <$> collect roots) image else .ok none image := by
  have looked : view Heap.collectionDue image.held = .ok image.heap.collectionDue image.held :=
    rfl
  unfold collectIfDue
  cases due : image.heap.collectionDue with
  | false =>
      refine locked_eq_ok (bind_of_ok looked ?_)
      rw [due]
      rfl
  | true =>
      rw [if_pos rfl, map_apply, collect_apply]
      refine locked_eq_ok (bind_of_ok looked ?_)
      rw [due, if_pos rfl, map_apply, collect_apply]
      rfl

theorem pin_apply (object : ObjectId) (image : Image) :
    pin object image = image.conclude (image.heap.pin object) fun heap => ⟨(), heap, []⟩ := by
  unfold pin conclude
  cases pinned : image.heap.pin object with
  | error fault =>
      refine locked_of_error ?_
      simp only [pinned]
  | ok heap =>
      refine locked_of_ok ?_
      simp only [pinned]
      rfl

theorem unpin_apply (object : ObjectId) (image : Image) :
    unpin object image = .ok (image.heap.unpin object).1
      (image.extend (image.heap.unpin object).2 []) :=
  locked_of_ok rfl

end Image

end Metamodel
