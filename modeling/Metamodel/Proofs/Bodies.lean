import Metamodel.CountingMutex
import Metamodel.Proofs.Allocation
import Metamodel.Proofs.Metaclasses
import Metamodel.Proofs.Refusals

/-!
# Bodies of declarations

The body of a declaration may do anything to the image, and the class that it is about is an object
like any other one meanwhile. Only a collection can take it away. While every collection in the
body finds the class reachable, it is there when the declaration is answered.

## Implementation notes

What a script does to an image is a trail: its calls, each with the image that it is made on. Facts
about one call carry over to scripts by induction on the trail, whatever the nesting of bodies.
-/

namespace Metamodel

open Session

/-- The calls on the way from one image to another, each with the image that it is made on. In
between the lock and the journal may change. -/
inductive Image.Trail [ReentrantMutex] : Image → List (Image × Call ObjectId) → Image → Prop
  | nil (image : Image) : Trail image [] image
  | call {image after : Image} {steps : List (Image × Call ObjectId)} (call : Call ObjectId) :
      Trail (image.afterCalls [call]) steps after → Trail image ((image, call) :: steps) after
  | aside {image after : Image} {steps : List (Image × Call ObjectId)} (lock : StructureLock)
      (journal : Array Event) :
      Trail { image with lock, journal } steps after → Trail image steps after

namespace Image.Trail

variable [ReentrantMutex] {image middle after : Image} {steps more : List (Image × Call ObjectId)}

theorem trans (trail : Trail image steps middle) (further : Trail middle more after) :
    Trail image (steps ++ more) after := by
  induction trail with
  | nil => exact further
  | call call _ ih => exact .call call (ih further)
  | aside lock journal _ ih => exact .aside lock journal (ih further)

theorem single (image : Image) (call : Call ObjectId) :
    Trail image [(image, call)] (image.afterCalls [call]) :=
  .call call (.nil _)

theorem report (state : State) (trail : Trail state.report.2.image steps after) :
    Trail state.image steps after :=
  .aside state.image.lock #[] trail

end Image.Trail

namespace Session

variable [ReentrantMutex]

/-- The calls that a script makes, with those of all bodies in it, each with the image that it is
made on. -/
def Script.steps (ends : Bool) : Script → State → List (Image × Call ObjectId)
  | .done, _ => []
  | .call operation options rest, state =>
      let (outcome, after) := state.execute operation
      (state.callOf operation).map (state.image, ·) ++ (outcome.ending? ends options).elim
        (rest.steps ends (after.bindAnswer options outcome).report.2) fun _ => []
  | .declare declaration options body rest, state =>
      match declaration.traverse (Reference.resolve state.bindings) with
      | .error _ => rest.steps ends state.report.2
      | .ok declaration =>
          match Image.declare declaration state.image with
          | .error fault image =>
              [(state.image, .declare declaration)] ++
                ((Outcome.refused fault).ending? ends options).elim
                  (rest.steps ends (State.report ⟨image, state.bindings⟩).2) fun _ => []
          | .ok declared image =>
              let entered := State.enterBody ⟨image, state.bindings⟩ declared
              let inner := body.run true entered
              let outcome := inner.answerOf declared
              let left := (inner.state.leaveBody state.bindings).bindAnswer options outcome
              [(state.image, .declare declaration)] ++ body.steps true entered ++
                (outcome.ending? ends options).elim (rest.steps ends left.report.2) fun _ => []
  | .guarded inner rest, state =>
      inner.steps false state.hold ++
        rest.steps ends (inner.run false state.hold).state.unhold.report.2
  | .unknown rest, state => rest.steps ends state.report.2

section Trail

variable {image : Image} {made : List (Image × Call ObjectId)}

theorem Call.trail_of_ok {call : Call ObjectId} {value : Value} {after : Image}
    (performed : call.perform image = .ok value after) :
    image.Trail [(image, call)] after := by
  have trail := Image.Trail.single image call
  rwa [Image.afterCalls, performed] at trail

theorem Call.trail_of_error {call : Call ObjectId} {fault : Fault} {after : Image}
    (performed : call.perform image = .error fault after) :
    image.Trail [(image, call)] after := by
  have trail := Image.Trail.single image call
  rwa [Image.afterCalls, performed] at trail

theorem State.trail_execute (state : State) (operation : Call Reference) :
    state.image.Trail ((state.callOf operation).map (state.image, ·))
      (state.execute operation).2.image := by
  unfold callOf execute
  cases operation.traverse (Reference.resolve state.bindings) with
  | error name => exact .nil _
  | ok call =>
      cases performed : call.perform state.image with
      | ok value image =>
          simp only [performed]
          exact Call.trail_of_ok performed
      | error fault image =>
          simp only [performed]
          exact Call.trail_of_error performed

/-- After a step the state is reported, and the trail goes on with the steps that follow, unless
its fault ends them. -/
theorem Script.trail_rest {rest : Script} {ends : Bool} (state : State) (outcome : Outcome)
    (options : StepOptions) (last : Fault → Transcript) (answer : Transcript → Transcript)
    (step : image.Trail made state.image)
    (further : state.report.2.image.Trail (rest.steps ends state.report.2)
      (rest.run ends state.report.2).state.image) :
    let run : Run := match outcome.ending? ends options with
      | some fault => ⟨last fault, some fault, state.report.2⟩
      | none => (rest.run ends state.report.2).after answer
    image.Trail (made ++ (outcome.ending? ends options).elim
      (rest.steps ends state.report.2) fun _ => []) run.state.image := by
  cases outcome.ending? ends options with
  | none => exact step.trans (.report state further)
  | some fault => exact step.trans (.report state (.nil _))

/-- A script leads from its image to the one that it leaves. -/
theorem Script.trail_run (script : Script) (ends : Bool) (state : State) :
    state.image.Trail (script.steps ends state) (script.run ends state).state.image := by
  induction script generalizing ends state with
  | done => exact .nil _
  | call operation options rest ih =>
      apply trail_rest _ _ options _ _ _ (ih ends _)
      rw [State.image_bindAnswer]
      exact state.trail_execute operation
  | declare declaration options body rest ihBody ihRest =>
      unfold run Script.steps
      cases declaration.traverse (Reference.resolve state.bindings) with
      | error name => exact .report state (ihRest ends _)
      | ok declaration =>
          cases declared : Image.declare declaration state.image with
          | error fault image =>
              have step := Call.trail_of_error (Call.perform_declare_of_error declared)
              simp only [declared]
              exact trail_rest ⟨image, state.bindings⟩ (.refused fault) options _ _ step
                (ihRest ends _)
          | ok id image =>
              have step := Call.trail_of_ok (Call.perform_declare_of_ok declared)
              have inside := step.trans (ihBody true (State.enterBody ⟨image, state.bindings⟩ id))
              simp only [declared]
              apply trail_rest _ _ options _ _ _ (ihRest ends _)
              rw [State.image_bindAnswer]
              exact inside
  | guarded inner rest ihInner ihRest =>
      have inside : state.image.Trail (inner.steps false state.hold)
          (inner.run false state.hold).state.image := .aside _ _ (ihInner false state.hold)
      have released := Image.Trail.report (inner.run false state.hold).state.unhold (ihRest ends _)
      exact inside.trans (.aside _ _ released)
  | unknown rest ih => exact .report state (ih ends _)

end Trail

/-- The roots that a call gives to a collection, if it makes one. -/
def Call.collection? (image : Image) : Call ObjectId → Option (List ObjectId)
  | .collect roots => some roots
  | .collectIfDue roots => if image.heap.collectionDue then some roots else none
  | _ => none

end Session

/-- A call spares an object that it does not collect: if it makes a collection, the object is
reached from the built-in classes, the pinned objects or the roots given with it. -/
def Image.Spares [ReentrantMutex] (image : Image) (call : Call ObjectId) (id : ObjectId) : Prop :=
  ∀ roots, call.collection? image = some roots →
    image.heap.Reaches (image.standingRoots ++ roots) id

namespace Session.Call

variable [ReentrantMutex] {image : Image} {call : Call ObjectId} {roots : List ObjectId}
  {id : ObjectId}

theorem heap_of_collection (collects : call.collection? image = some roots) :
    (image.afterCalls [call]).heap = (image.heap.collect (image.standingRoots ++ roots)).2 := by
  rw [Image.afterCalls_singleton]
  cases call with
  | collect given =>
      cases collects
      rw [perform, ImageM.leaves_map, ImageM.leaves_of_ok (Image.collect_apply _ _)]
  | collectIfDue given =>
      rw [collection?] at collects
      split_ifs at collects with due
      cases collects
      rw [perform, ImageM.leaves_map, ImageM.leaves, Image.collectIfDue_apply, if_pos due,
        ImageM.map_apply, Image.collect_apply]
  | _ => cases collects

/-- A call that makes no collection keeps every object. -/
theorem grows_of_no_collection (wf : image.heap.WellFormed image.builtins)
    (keeps : call.collection? image = none) : image.heap.Grows (image.afterCalls [call]).heap := by
  cases collects : call.collects with
  | false => exact grows collects wf
  | true =>
      cases call with
      | collect given => cases keeps
      | collectIfDue given =>
          rw [collection?] at keeps
          split_ifs at keeps with due
          rw [Image.afterCalls_singleton, perform, ImageM.leaves_map, ImageM.leaves,
            Image.collectIfDue_apply, if_neg due]
          exact .refl _
      | _ => cases collects

/-- What a call spares keeps its lasting properties. -/
theorem keeps {property : HeapObject → Prop} (wf : image.heap.WellFormed image.builtins)
    (spares : image.Spares call id) (lasting : HeapObject.Lasting property)
    (has : image.heap.Has id property) : (image.afterCalls [call]).heap.Has id property := by
  cases made : call.collection? image with
  | none => exact has.grows lasting (grows_of_no_collection wf made)
  | some roots =>
      obtain ⟨object, stored, holds⟩ := has
      refine ⟨object, ?_, holds⟩
      rw [heap_of_collection made, Heap.get?_collect_of_reaches (spares roots made), stored]

end Session.Call

/-- What every call of a trail spares keeps its lasting properties. -/
theorem Image.Trail.keeps [ReentrantMutex] {settings : Settings} {calls : List (Call ObjectId)}
    {image after : Image}
    {steps : List (Image × Call ObjectId)} {id : ObjectId} {property : HeapObject → Prop}
    (trail : image.Trail steps after) (reached : Reached settings calls image)
    (spared : ∀ step ∈ steps, step.1.Spares step.2 id) (lasting : HeapObject.Lasting property)
    (has : image.heap.Has id property) : after.heap.Has id property := by
  induction trail generalizing calls with
  | nil => exact has
  | @call image _ _ call _ ih =>
      obtain ⟨first, later⟩ := List.forall_mem_cons.mp spared
      exact ih (reached.afterCalls [call]) later
        (call.keeps reached.wellFormed first lasting has)
  | aside lock journal _ ih => exact ih (reached.aside lock journal) spared has

/-- An ordinary class with the given superclass. -/
def HeapObject.IsDeclared (superclass : ObjectId) (object : HeapObject) : Prop :=
  ∃ record, object = .classRecord record ∧ record.initialized ∧ record.isSingleton = false ∧
    record.superclass = some superclass

theorem HeapObject.lasting_isDeclared (superclass : ObjectId) :
    Lasting (IsDeclared superclass) := by
  rintro old new evolves ⟨record, rfl, started, ordinary, below⟩
  cases evolves with
  | classRecord evolves =>
      exact ⟨_, rfl, evolves.initialized started, evolves.isSingleton.trans ordinary,
        (evolves.settled_of_initialized started).1.trans below⟩

namespace Session

variable [ReentrantMutex] {settings : Settings} {calls : List (Call ObjectId)} {image : Image}

/-- A class that is declared is an ordinary one below the requested class when its body begins. -/
theorem Call.isDeclared (reached : Reached settings calls image)
    {declaration : Declaration ObjectId} {id : ObjectId} {linked : Image}
    (performed : Call.perform (.declare declaration) image = .ok (.id id) linked) :
    ∃ superclass, (Call.declare declaration).linksBelow image.builtins.root = some superclass ∧
      linked.heap.Has id (HeapObject.IsDeclared superclass) := by
  have links : ∃ superclass,
      (Call.declare declaration).linksBelow image.builtins.root = some superclass := by
    cases declaration with
    | initializeClass declared superclass => exact ⟨_, rfl⟩
    | newClass superclass => exact ⟨_, rfl⟩
  obtain ⟨superclass, links⟩ := links
  obtain ⟨_, other, _, record, _, same, beside⟩ :=
    Call.linksBeside reached.wellFormed reached.allMirrored links performed
  cases same
  exact ⟨superclass, links, _, beside.stored, record, rfl, beside.ordinary.1, beside.ordinary.2,
    beside.below⟩

variable {declaration : Declaration Reference} {options : StepOptions} {body : Script} {ends : Bool}
  {state : State} {inside : Transcript} {id : ObjectId} {snapshot : Snapshot}

theorem Run.eq_of_answerOf {inner : Run} {declared : ObjectId}
    (answered : inner.answerOf declared = .value (.id id)) : declared = id := by
  unfold answerOf at answered
  split at answered
  · cases answered
  · cases answered
    rfl

/-- A declaration with a body that is answered with a class has linked it, and leaves what its body
has left. -/
theorem Script.exists_body
    (answered : (run ends (.declare declaration options body .done) state).transcript =
      .declared inside (.value (.id id)) snapshot .done) :
    ∃ resolved linked, declaration.traverse (Reference.resolve state.bindings) = .ok resolved ∧
      Image.declare resolved state.image = .ok id linked ∧
      (run ends (.declare declaration options body .done) state).state.image.heap =
        (body.run true (State.enterBody ⟨linked, state.bindings⟩ id)).state.image.heap := by
  cases given : declaration.traverse (Reference.resolve state.bindings) with
  | error name =>
      rw [(concludes_of_unbound given).transcript] at answered
      cases answered
  | ok resolved =>
      cases made : Image.declare resolved state.image with
      | error fault linked =>
          rw [(concludes_of_error given made).transcript] at answered
          cases answered
      | ok declared linked =>
          obtain ⟨_, concludes⟩ : ∃ snapshot, Concludes
              (run ends (.declare declaration options body .done) state)
              (.declared _ _ snapshot .done) _ := concludes_of_ok given made rfl
          rw [concludes.transcript] at answered
          injection answered with _ outcome
          obtain rfl := Run.eq_of_answerOf outcome
          exact ⟨resolved, linked, rfl, made, concludes.heap⟩

end Session

/-- In every reachable image a declaration with a body that is answered with a class has linked it
before the body begins. If every collection that the body makes, with those of the bodies in it,
finds the class reachable from the built-in classes, the pinned objects or the roots given with the
collection, then the class is there when the declaration is answered: an initialized class that is
no singleton class, with the superclass that was asked for. -/
theorem Reached.declared_class_survives [ReentrantMutex] {settings : Settings}
    {calls : List (Call ObjectId)} {image : Image} (reached : Reached settings calls image) :
    ∀ declaration options body ends bindings inside id snapshot,
      let run := Script.run ends (.declare declaration options body .done) ⟨image, bindings⟩
      run.transcript = .declared inside (.value (.id id)) snapshot .done →
      ∃ resolved linked superclass,
        declaration.traverse (Reference.resolve bindings) = .ok resolved ∧
          Call.perform (.declare resolved) image = .ok (.id id) linked ∧
          (Call.declare resolved).linksBelow image.builtins.root = some superclass ∧
          ((∀ step ∈ body.steps true (State.enterBody ⟨linked, bindings⟩ id),
            step.1.Spares step.2 id) →
            ∃ record, run.state.image.heap.get? id = some (.classRecord record) ∧
              record.initialized ∧ record.isSingleton = false ∧
              record.superclass = some superclass) := by
  intro declaration options body ends bindings inside id snapshot run answered
  obtain ⟨resolved, linked, given, made, left⟩ := Script.exists_body answered
  have performed := Call.perform_declare_of_ok made
  obtain ⟨superclass, links, has⟩ := Call.isDeclared reached performed
  refine ⟨resolved, linked, superclass, given, performed, links, ?_⟩
  intro spared
  have trail := body.trail_run true (State.enterBody ⟨linked, bindings⟩ id)
  obtain ⟨_, stored, record, rfl, declared⟩ := trail.keeps (reached.answered performed) spared
    (HeapObject.lasting_isDeclared superclass) has
  exact ⟨record, (congrArg (·.get? id) left).trans stored, declared⟩

/-- The case of a new class, in slot 11, whose body makes a collection with the class as a root. -/
theorem Reached.declared_class_survives_newClass :
    let body : Script := .call (.collect [.handle "self"]) ⟨none, false⟩ .done
    let run := Script.run false (.declare (.newClass none) ⟨none, false⟩ body .done)
      ⟨.first .standard, []⟩
    Reached .standard [] (.first .standard) ∧
      (∃ inside snapshot, run.transcript = .declared inside (.value (.id 11)) snapshot .done) ∧
      ∃ record, run.state.image.heap.get? 11 = some (.classRecord record) ∧
        record.superclass = some 3 := by
  intro body run
  have reached := Reached.first .standard
  have answered : ∃ inside snapshot,
      run.transcript = .declared inside (.value (.id 11)) snapshot .done := ⟨_, _, rfl⟩
  obtain ⟨inside, snapshot, answered⟩ := answered
  obtain ⟨resolved, linked, superclass, given, performed, links, survives⟩ :=
    Reached.declared_class_survives reached _ _ body false [] inside 11 snapshot answered
  cases given
  cases links
  obtain ⟨_, _, has⟩ := Call.isDeclared reached performed
  have steps : body.steps true (State.enterBody ⟨linked, []⟩ 11) = [(linked, .collect [11])] := rfl
  have spared : linked.Spares (.collect [11]) 11 := by
    rintro _ ⟨⟩
    exact .root (List.mem_append_right _ (List.mem_singleton.mpr rfl)) has.contains
  obtain ⟨record, stored, _, _, below⟩ := survives (by
    rw [steps, List.forall_mem_singleton]
    exact spared)
  exact ⟨reached, ⟨inside, snapshot, answered⟩, record, stored, below⟩

/-- A body that makes a collection without a root frees the class, in slot 11, that the declaration
is then answered with. -/
theorem Reached.declared_class_freed :
    let body : Script := .call (.collect []) ⟨none, false⟩ .done
    let run := Script.run false (.declare (.newClass none) ⟨none, false⟩ body .done)
      ⟨.first .standard, []⟩
    Reached .standard [] (.first .standard) ∧
      (∃ inside snapshot, run.transcript = .declared inside (.value (.id 11)) snapshot .done) ∧
      run.state.image.heap.get? 11 = none := by
  intro body run
  have reached := Reached.first .standard
  have answered : ∃ inside snapshot,
      run.transcript = .declared inside (.value (.id 11)) snapshot .done := ⟨_, _, rfl⟩
  refine ⟨reached, answered, ?_⟩
  let linked := (Image.first .standard).afterCalls [.declare (.newClass none)]
  have roots : ∀ id ∈ linked.standingRoots ++ [], id < 11 := by decide +kernel
  have closed : ∀ id < 11, ∀ target ∈ ((linked.heap.get? id).map HeapObject.references).getD [],
      target < 11 := by decide +kernel
  have below : ∀ id, linked.heap.Reaches (linked.standingRoots ++ []) id → id < 11 := by
    intro id reaches
    induction reaches with
    | root mem _ => exact roots _ mem
    | step _ stored refers _ ih =>
        apply closed _ ih
        rw [stored]
        exact HeapObject.mem_references.mpr refers
  have freed : (linked.heap.collect (linked.standingRoots ++ [])).2.get? 11 = none := by
    rw [← Heap.contains_eq_false_iff, Bool.eq_false_iff]
    intro live
    exact Nat.lt_irrefl 11 (below 11 (Heap.contains_collect_iff.mp live))
  exact freed

end Metamodel
