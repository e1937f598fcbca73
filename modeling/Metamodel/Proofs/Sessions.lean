import Metamodel.Proofs.Reachability
import Metamodel.Session.Script

/-!
# The calls of a session

A script comes to a row of calls: its own steps and those of all bodies in it, in the order in
which they are made. It leaves a reachable image, and a fault that ends it is that of its last
call.
-/

namespace Metamodel

open Session

/-- Reading out the journal. -/
theorem Reached.report [ReentrantMutex] {settings : Settings} {calls : List (Call ObjectId)}
    (state : State) (reached : Reached settings calls state.image) :
    Reached settings calls state.report.2.image :=
  reached.aside state.image.lock #[]

/-- What steps come to after some calls: further calls, the last of which was refused with the
fault that ended the steps, if one did. -/
structure Follows [ReentrantMutex] (settings : Settings) (calls made : List (Call ObjectId))
    (ending : Option Fault) (image : Image) : Prop where
  reached : Reached settings (calls ++ made) image
  last : ∀ fault, ending = some fault → ∃ earlier call before after,
    made = earlier ++ [call] ∧ Reached settings (calls ++ earlier) before ∧
      call.perform before = .error fault after

namespace Follows

variable [ReentrantMutex] {settings : Settings} {calls made more : List (Call ObjectId)}
  {call : Call ObjectId}
  {ending : Option Fault} {image after : Image}

theorem nil (reached : Reached settings calls image) : Follows settings calls [] none image where
  reached := by rwa [List.append_nil]
  last := by
    intro fault ended
    cases ended

theorem of_ok (reached : Reached settings calls image) {value : Value}
    (performed : call.perform image = .ok value after) :
    Follows settings calls [call] none after where
  reached := reached.answered performed
  last := by
    intro fault ended
    cases ended

theorem of_error (reached : Reached settings calls image) {fault : Fault}
    (refused : call.perform image = .error fault after) :
    Follows settings calls [call] (some fault) after where
  reached := reached.refused refused
  last := by
    rintro _ ⟨⟩
    exact ⟨[], call, image, after, rfl, by rwa [List.append_nil], refused⟩

theorem append (follows : Follows settings (calls ++ made) more ending image) :
    Follows settings calls (made ++ more) ending image where
  reached := by
    rw [← List.append_assoc]
    exact follows.reached
  last := by
    intro fault ended
    obtain ⟨earlier, call, before, after, split, reached, refused⟩ := follows.last fault ended
    refine ⟨made ++ earlier, call, before, after, ?_, ?_, refused⟩
    · rw [split, List.append_assoc]
    · rw [← List.append_assoc]
      exact reached

end Follows

namespace Session

/-- The fault of an outcome. -/
def Outcome.fault? : Outcome → Option Fault
  | .refused fault => some fault
  | _ => none

theorem Outcome.eq_refused {outcome : Outcome} {ends : Bool} {options : StepOptions}
    {fault : Fault} (ended : outcome.ending? ends options = some fault) :
    outcome = .refused fault := by
  unfold ending? at ended
  split at ended
  · split at ended
    · cases ended
      rfl
    · cases ended
  · cases ended

variable [ReentrantMutex]

theorem State.image_bindAnswer (state : State) (options : StepOptions) (outcome : Outcome) :
    (state.bindAnswer options outcome).image = state.image := by
  unfold bindAnswer
  split <;> rfl

/-- The call of a step, unless a handle in it is not bound. -/
def State.callOf (state : State) (operation : Call Reference) : List (Call ObjectId) :=
  (operation.traverse (Reference.resolve state.bindings)).toOption.toList

/-- The calls that a script makes, with those of all bodies in it. -/
def Script.calls (ends : Bool) : Script → State → List (Call ObjectId)
  | .done, _ => []
  | .call operation options rest, state =>
      let (outcome, after) := state.execute operation
      state.callOf operation ++ (outcome.ending? ends options).elim
        (rest.calls ends (after.bindAnswer options outcome).report.2) fun _ => []
  | .declare declaration options body rest, state =>
      match declaration.traverse (Reference.resolve state.bindings) with
      | .error _ => rest.calls ends state.report.2
      | .ok declaration =>
          match Image.declare declaration state.image with
          | .error fault image =>
              [.declare declaration] ++ ((Outcome.refused fault).ending? ends options).elim
                (rest.calls ends (State.report ⟨image, state.bindings⟩).2) fun _ => []
          | .ok declared image =>
              let entered := State.enterBody ⟨image, state.bindings⟩ declared
              let inner := body.run true entered
              let outcome : Outcome := match inner.ending with
                | some fault => .refused fault
                | none => .value (.id declared)
              let left := (inner.state.leaveBody state.bindings).bindAnswer options outcome
              [.declare declaration] ++ body.calls true entered ++
                (outcome.ending? ends options).elim (rest.calls ends left.report.2) fun _ => []
  | .guarded inner rest, state =>
      inner.calls false state.hold ++
        rest.calls ends (inner.run false state.hold).state.unhold.report.2
  | .unknown rest, state => rest.calls ends state.report.2

section Follows

variable {settings : Settings} {calls made : List (Call ObjectId)}

theorem State.follows_execute {state : State} (reached : Reached settings calls state.image)
    (operation : Call Reference) :
    Follows settings calls (state.callOf operation) (state.execute operation).1.fault?
      (state.execute operation).2.image := by
  unfold callOf execute
  cases operation.traverse (Reference.resolve state.bindings) with
  | error name => exact .nil reached
  | ok call =>
      cases performed : call.perform state.image with
      | ok value image =>
          simp only [performed]
          exact .of_ok reached performed
      | error fault image =>
          simp only [performed]
          exact .of_error reached performed

theorem Call.perform_declare_of_ok {declaration : Declaration ObjectId} {image after : Image}
    {id : ObjectId} (declared : Image.declare declaration image = .ok id after) :
    (Call.declare declaration).perform image = .ok (.id id) after := by
  rw [perform, ImageM.map_apply, declared]

theorem Call.perform_declare_of_error {declaration : Declaration ObjectId} {image after : Image}
    {fault : Fault} (declared : Image.declare declaration image = .error fault after) :
    (Call.declare declaration).perform image = .error fault after := by
  rw [perform, ImageM.map_apply, declared]

/-- After a step the state is reported, and the steps that follow are made unless its fault ends
them. -/
theorem Script.follows_rest {rest : Script} {ends : Bool} (state : State) (outcome : Outcome)
    (options : StepOptions) (last : Fault → Transcript) (answer : Transcript → Transcript)
    (step : Follows settings calls made outcome.fault? state.image)
    (further : ∀ {calls : List (Call ObjectId)}, Reached settings calls state.report.2.image →
      Follows settings calls (rest.calls ends state.report.2)
        (rest.run ends state.report.2).ending (rest.run ends state.report.2).state.image) :
    let run : Run := match outcome.ending? ends options with
      | some fault => ⟨last fault, some fault, state.report.2⟩
      | none => (rest.run ends state.report.2).after answer
    Follows settings calls (made ++ (outcome.ending? ends options).elim
      (rest.calls ends state.report.2) fun _ => []) run.ending run.state.image := by
  have reported := step.reached.report state
  cases ended : outcome.ending? ends options with
  | none => exact (further reported).append
  | some fault =>
      rw [Option.elim_some, List.append_nil]
      refine ⟨reported, ?_⟩
      rintro _ ⟨⟩
      apply step.last
      rw [Outcome.eq_refused ended]
      rfl

/-- A script makes its calls in a row, and the fault that ends it is that of the last one. -/
theorem Script.follows_run (script : Script) (ends : Bool) (state : State)
    (reached : Reached settings calls state.image) :
    Follows settings calls (script.calls ends state) (script.run ends state).ending
      (script.run ends state).state.image := by
  induction script generalizing ends state calls with
  | done => exact .nil reached
  | call operation options rest ih =>
      apply follows_rest _ _ options _ _ _ (ih ends _)
      rw [State.image_bindAnswer]
      exact State.follows_execute reached operation
  | declare declaration options body rest ihBody ihRest =>
      unfold run Script.calls
      cases declaration.traverse (Reference.resolve state.bindings) with
      | error name => exact ihRest ends _ (reached.report state)
      | ok declaration =>
          cases declared : Image.declare declaration state.image with
          | error fault image =>
              have step := Follows.of_error reached (Call.perform_declare_of_error declared)
              simp only [declared]
              exact follows_rest ⟨image, state.bindings⟩ (.refused fault) options _ _ step
                (ihRest ends _)
          | ok id image =>
              have step := Follows.of_ok reached (Call.perform_declare_of_ok declared)
              have inside :=
                (ihBody true (State.enterBody ⟨image, state.bindings⟩ id) step.reached).append
              simp only [declared]
              apply follows_rest _ _ options _ _ _ (ihRest ends _)
              rw [State.image_bindAnswer]
              -- the answer is the fault that ended the body, if there is one
              generalize body.run true (State.enterBody ⟨image, state.bindings⟩ id) = inner
                at inside ⊢
              obtain ⟨transcript, ending, last⟩ := inner
              cases ending with
              | none => exact inside
              | some fault => exact inside
  | guarded inner rest ihInner ihRest =>
      have inside := ihInner false state.hold (reached.aside _ _)
      have released : Reached settings (calls ++ inner.calls false state.hold)
          (inner.run false state.hold).state.unhold.image := inside.reached.aside _ _
      exact (ihRest ends _ (released.report _)).append
  | unknown rest ih => exact ih ends _ (reached.report state)

end Follows

/-- The image of a session is reached by the calls of its script. -/
theorem State.reached_run {settings : Settings} {snapshot : Snapshot} {state : State}
    (started : State.start settings = .ok (snapshot, state)) (script : Script) (ends : Bool) :
    Reached settings (script.calls ends state) (script.run ends state).state.image := by
  have reached : Reached settings [] state.image := by
    rw [start, Image.start_eq] at started
    cases started
    exact (Reached.first settings).report _
  exact (script.follows_run ends state reached).reached

end Session

end Metamodel
