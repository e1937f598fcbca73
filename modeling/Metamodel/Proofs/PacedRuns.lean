import Metamodel.CountingMutex
import Metamodel.Proofs.Pacing

/-!
# Scripts and the pace

A script that is run in two sessions with different settings is answered alike in both of them, and
its steps leave the same objects, unless a call asks whether a collection is due and the sessions
give different answers. As long as the answers are the same, whether a collection is due and the
thresholds that collections report are all that the reports can differ in.

## Implementation notes

The two runs are compared step by step. What the calls of one step have found due is taken off the
front of both rows of answers before the steps that follow are compared.
-/

namespace Metamodel.Session

open ImageM

/-- The report without what depends on the pace: whether a collection is due, and the thresholds in
its events. -/
def Snapshot.unpaced (snapshot : Snapshot) : Snapshot :=
  { snapshot with due := false, events := snapshot.events.map Event.unpaced }

/-- The answers with their reports freed of the pace. -/
def Transcript.unpaced : Transcript → Transcript
  | .done => .done
  | .answer outcome snapshot rest => .answer outcome snapshot.unpaced rest.unpaced
  | .declared body outcome snapshot rest =>
      .declared body.unpaced outcome snapshot.unpaced rest.unpaced
  | .guarded inner snapshot rest => .guarded inner.unpaced snapshot.unpaced rest.unpaced

namespace Transcript

variable {outcome given : Outcome} {snapshot snapshot' : Snapshot}
  {inside inside' rest rest' : Transcript}

theorem answer_agree (answered : outcome = given) (reported : snapshot.unpaced = snapshot'.unpaced)
    (further : rest.unpaced = rest'.unpaced) :
    (answer outcome snapshot rest).unpaced = (answer given snapshot' rest').unpaced := by
  rw [unpaced, unpaced, answered, reported, further]

theorem declared_agree (body : inside.unpaced = inside'.unpaced) (answered : outcome = given)
    (reported : snapshot.unpaced = snapshot'.unpaced) (further : rest.unpaced = rest'.unpaced) :
    (declared inside outcome snapshot rest).unpaced =
      (declared inside' given snapshot' rest').unpaced := by
  rw [unpaced, unpaced, body, answered, reported, further]

theorem guarded_agree (inner : inside.unpaced = inside'.unpaced)
    (reported : snapshot.unpaced = snapshot'.unpaced) (further : rest.unpaced = rest'.unpaced) :
    (guarded inside snapshot rest).unpaced = (guarded inside' snapshot' rest').unpaced := by
  rw [unpaced, unpaced, inner, reported, further]

end Transcript

/-- Rows of answers that are the same as far as both of them go. -/
def Accord (first second : List Bool) : Prop :=
  ∀ (n : Nat) (a b : Bool), first[n]? = some a → second[n]? = some b → a = b

namespace Accord

variable {first second further later : List Bool}

theorem nil (second : List Bool) : Accord [] second := by
  intro n a b here
  cases here

theorem of_eq (same : first = second) : Accord first second := by
  intro n a b here there
  rw [same, there] at here
  exact Option.some.inj here.symm

theorem left (accord : Accord (first ++ further) (second ++ later)) : Accord first second := by
  intro n a b here there
  refine accord n a b ?_ ?_
  · rw [List.getElem?_append_left (List.getElem?_eq_some_iff.mp here).1, here]
  · rw [List.getElem?_append_left (List.getElem?_eq_some_iff.mp there).1, there]

theorem right (accord : Accord (first ++ further) (first ++ later)) : Accord further later := by
  intro n a b here there
  refine accord (first.length + n) a b ?_ ?_
  · rw [List.getElem?_append_right (Nat.le_add_right _ _), Nat.add_sub_cancel_left, here]
  · rw [List.getElem?_append_right (Nat.le_add_right _ _), Nat.add_sub_cancel_left, there]

end Accord

section Pace

variable [ReentrantMutex]

/-- The state without the pace of its image. -/
def State.unpaced (state : State) : State :=
  { state with image := state.image.unpaced }

/-- The run without the pace of its image and its reports. -/
def Run.unpaced (run : Run) : Run where
  transcript := run.transcript.unpaced
  ending := run.ending
  state := run.state.unpaced

theorem Run.agree {run other : Run}
    (transcript : run.transcript.unpaced = other.transcript.unpaced)
    (ending : run.ending = other.ending) (state : run.state.unpaced = other.state.unpaced) :
    run.unpaced = other.unpaced := by
  rw [unpaced, unpaced, transcript, ending, state]

theorem Run.answerOf_agree {run other : Run} (declared : ObjectId)
    (same : run.unpaced = other.unpaced) : run.answerOf declared = other.answerOf declared := by
  change run.unpaced.answerOf declared = other.unpaced.answerOf declared
  rw [same]

theorem Run.leaveBody_agree {run other : Run} (before : Bindings)
    (same : run.unpaced = other.unpaced) :
    (run.state.leaveBody before).unpaced = (other.state.leaveBody before).unpaced :=
  congrArg (fun run : Run => run.state.leaveBody before) same

namespace State

variable {state other : State}

theorem bindAnswer_agree (options : StepOptions) {outcome given : Outcome}
    (same : state.unpaced = other.unpaced) (answered : outcome = given) :
    (state.bindAnswer options outcome).unpaced = (other.bindAnswer options given).unpaced := by
  have unpaced (state : State) : (state.bindAnswer options outcome).unpaced =
      state.unpaced.bindAnswer options outcome := by
    unfold bindAnswer
    split <;> rfl
  rw [← answered, unpaced, unpaced, same]

/-- States that agree but for their pace are reported alike. -/
theorem report_agree (same : state.unpaced = other.unpaced) :
    state.report.1.unpaced = other.report.1.unpaced ∧
      state.report.2.unpaced = other.report.2.unpaced := by
  have snapshot (state : State) : state.report.1.unpaced =
      { state.unpaced.report.1 with due := false } := by
    simp only [report, Snapshot.unpaced, Snapshot.ofHeap, unpaced, Image.unpaced, Array.toList_map]
    rfl
  have after (state : State) : state.report.2.unpaced = state.unpaced.report.2 := by
    simp only [report, unpaced, Image.unpaced, Array.map_empty]
  rw [snapshot, snapshot, after, after, same]
  exact ⟨rfl, rfl⟩

end State

/-- What the calls of a row that ask whether a collection is due are told. -/
def decisions (steps : List (Image × Call ObjectId)) : List Bool :=
  steps.filterMap fun step => step.2.decision? step.1

/-- One call made in two runs, on images that agree but for their pace, and answered alike. -/
structure AlikeSteps (step other : Image × Call ObjectId) : Prop where
  call : step.2 = other.2
  before : step.1.unpaced = other.1.unpaced
  ended : AlikeResults (step.2.perform step.1) (other.2.perform other.1)
  decided : step.2.decision? step.1 = other.2.decision? other.1

/-- Two runs that agree but for the pace, with the steps made in them. -/
structure AlikeRuns (run other : Run) (steps others : List (Image × Call ObjectId)) : Prop where
  run : run.unpaced = other.unpaced
  steps : List.Forall₂ AlikeSteps steps others

section Steps

variable {made others : List (Image × Call ObjectId)} {image other : Image}

theorem decisions_append : decisions (made ++ others) = decisions made ++ decisions others :=
  List.filterMap_append

theorem decisions_eq_of_alike (alike : List.Forall₂ AlikeSteps made others) :
    decisions made = decisions others := by
  induction alike with
  | nil => rfl
  | cons step _ ih => rw [decisions, decisions, List.filterMap_cons, List.filterMap_cons,
      step.decided, ← decisions, ← decisions, ih]

theorem AlikeSteps.of_decided (call : Call ObjectId) (same : image.unpaced = other.unpaced)
    (decided : call.decision? image = call.decision? other) :
    AlikeSteps (image, call) (other, call) where
  call := rfl
  before := same
  ended := call.perform_alike same decided
  decided := decided

/-- Images that agree but for their pace still do so after the step. -/
theorem AlikeSteps.after {step step' : Image × Call ObjectId} (alike : AlikeSteps step step') :
    (step.1.afterCalls [step.2]).unpaced = (step'.1.afterCalls [step'.2]).unpaced := by
  rw [Image.afterCalls_singleton, Image.afterCalls_singleton]
  exact alike.ended.leaves

theorem Call.decided_of_accord (call : Call ObjectId)
    (accord : Accord (decisions [(image, call)]) (decisions [(other, call)])) :
    call.decision? image = call.decision? other := by
  cases call with
  | collectIfDue roots => exact congrArg some (accord 0 _ _ rfl rfl)
  | _ => rfl

theorem State.execute_alike {state other : State} (same : state.unpaced = other.unpaced)
    (operation : Call Reference)
    (accord : Accord (decisions ((state.callOf operation).map (state.image, ·)))
      (decisions ((other.callOf operation).map (other.image, ·)))) :
    (state.execute operation).1 = (other.execute operation).1 ∧
      (state.execute operation).2.unpaced = (other.execute operation).2.unpaced ∧
      List.Forall₂ AlikeSteps ((state.callOf operation).map (state.image, ·))
        ((other.callOf operation).map (other.image, ·)) := by
  obtain ⟨image, bindings⟩ := state
  obtain ⟨image', bindings'⟩ := other
  obtain rfl : bindings = bindings' := congrArg State.bindings same
  replace same : image.unpaced = image'.unpaced := congrArg State.image same
  unfold execute callOf at *
  dsimp only at accord ⊢
  generalize operation.traverse (Reference.resolve bindings) = resolved at accord ⊢
  cases resolved with
  | error name => exact ⟨rfl, congrArg (State.mk · bindings) same, .nil⟩
  | ok call =>
      have decided := call.decided_of_accord accord
      have step : AlikeSteps (image, call) (image', call) := .of_decided call same decided
      have ended := call.perform_alike same decided
      dsimp only
      generalize call.perform image = first, call.perform image' = second at ended
      cases ended with
      | ok value left => exact ⟨rfl, congrArg (State.mk · bindings) left, .cons step .nil⟩
      | error fault left => exact ⟨rfl, congrArg (State.mk · bindings) left, .cons step .nil⟩

end Steps

namespace Script

/-- A script runs alike from any two states that agree but for their pace, as long as those calls
that ask whether a collection is due are told the same. -/
def IgnoresPace (script : Script) (ends : Bool) : Prop :=
  ∀ ⦃state other : State⦄, state.unpaced = other.unpaced →
    Accord (decisions (script.steps ends state)) (decisions (script.steps ends other)) →
    AlikeRuns (script.run ends state) (script.run ends other) (script.steps ends state)
      (script.steps ends other)

section Runs

variable {ends : Bool} {state other : State} {rest : Script}
  {made others : List (Image × Call ObjectId)} {answer answer' : Snapshot → Transcript → Transcript}

/-- After steps that are answered alike in two runs, the states are reported and the steps that
follow are compared. -/
theorem alike_further
    (further : rest.IgnoresPace ends) (same : state.unpaced = other.unpaced)
    (answers : ∀ {snapshot snapshot' rest rest'}, snapshot.unpaced = snapshot'.unpaced →
      rest.unpaced = rest'.unpaced →
      (answer snapshot rest).unpaced = (answer' snapshot' rest').unpaced)
    (alike : List.Forall₂ AlikeSteps made others)
    (accord : Accord (decisions (made ++ rest.steps ends state.report.2))
      (decisions (others ++ rest.steps ends other.report.2))) :
    AlikeRuns ((rest.run ends state.report.2).after (answer state.report.1))
      ((rest.run ends other.report.2).after (answer' other.report.1))
      (made ++ rest.steps ends state.report.2) (others ++ rest.steps ends other.report.2) := by
  obtain ⟨snapshot, reported⟩ := State.report_agree same
  rw [decisions_append, decisions_append, decisions_eq_of_alike alike] at accord
  obtain ⟨run, steps⟩ := further reported accord.right
  have transcript := congrArg Run.transcript run
  have ending := congrArg Run.ending run
  have state := congrArg Run.state run
  exact ⟨Run.agree (answers snapshot transcript) ending state, List.rel_append alike steps⟩

/-- They are compared unless a fault ends both runs. -/
theorem alike_rest (outcome : Outcome) {given : Outcome} (options : StepOptions)
    {last last' : Fault → Transcript}
    (further : rest.IgnoresPace ends) (same : state.unpaced = other.unpaced)
    (answered : outcome = given)
    (answers : ∀ {snapshot snapshot' rest rest'}, snapshot.unpaced = snapshot'.unpaced →
      rest.unpaced = rest'.unpaced →
      (answer snapshot rest).unpaced = (answer' snapshot' rest').unpaced)
    (lasts : state.report.1.unpaced = other.report.1.unpaced →
      ∀ fault, (last fault).unpaced = (last' fault).unpaced)
    (alike : List.Forall₂ AlikeSteps made others)
    (accord : Accord
      (decisions (made ++ (outcome.ending? ends options).elim
        (rest.steps ends state.report.2) fun _ => []))
      (decisions (others ++ (given.ending? ends options).elim
        (rest.steps ends other.report.2) fun _ => []))) :
    AlikeRuns
      (match outcome.ending? ends options with
        | some fault => ⟨last fault, some fault, state.report.2⟩
        | none => (rest.run ends state.report.2).after (answer state.report.1))
      (match given.ending? ends options with
        | some fault => ⟨last' fault, some fault, other.report.2⟩
        | none => (rest.run ends other.report.2).after (answer' other.report.1))
      (made ++ (outcome.ending? ends options).elim (rest.steps ends state.report.2) fun _ => [])
      (others ++ (given.ending? ends options).elim (rest.steps ends other.report.2)
        fun _ => []) := by
  subst answered
  generalize outcome.ending? ends options = ended at accord ⊢
  cases ended with
  | none => exact alike_further further same answers alike accord
  | some fault =>
      obtain ⟨snapshot, reported⟩ := State.report_agree same
      exact ⟨Run.agree (lasts snapshot fault) rfl reported, List.rel_append alike .nil⟩

/-- Every script runs alike, by induction on the script and on the bodies in it. -/
theorem ignoresPace (script : Script) (ends : Bool) : script.IgnoresPace ends := by
  induction script generalizing ends with
  | done => exact fun _ _ same _ => ⟨Run.agree rfl rfl same, .nil⟩
  | call operation options rest ih =>
      intro state other same accord
      -- what the call is told stands before what the steps after it are told
      have first := accord
      rw [steps, steps, decisions_append, decisions_append] at first
      obtain ⟨answered, left, made⟩ := State.execute_alike same operation first.left
      exact alike_rest _ options (ih ends) (State.bindAnswer_agree options left answered) answered
        (Transcript.answer_agree answered)
        (fun reported _ => Transcript.answer_agree answered reported rfl) made accord
  | declare declaration options body rest ihBody ihRest =>
      rintro ⟨image, bindings⟩ ⟨image', bindings'⟩ same accord
      obtain rfl : bindings = bindings' := congrArg State.bindings same
      unfold run
      unfold steps at accord ⊢
      dsimp only at accord ⊢
      generalize declaration.traverse (Reference.resolve bindings) = resolved at accord ⊢
      cases resolved with
      | error name =>
          exact alike_further (ihRest ends) same (Transcript.answer_agree rfl) .nil accord
      | ok declaration =>
          have images : image.unpaced = image'.unpaced := congrArg State.image same
          have step : AlikeSteps (image, .declare declaration) (image', .declare declaration) :=
            .of_decided _ images rfl
          have ended :
              AlikeResults (Image.declare declaration image) (Image.declare declaration image') :=
            .of_commutes (.of_composed (.declare declaration)) images
          dsimp only at accord ⊢
          generalize Image.declare declaration image = first,
            Image.declare declaration image' = second at ended accord ⊢
          cases ended with
          | @error fault linked linked' left =>
              have left : (State.mk linked bindings).unpaced =
                  (State.mk linked' bindings).unpaced :=
                congrArg (State.mk · bindings) left
              exact alike_rest (.refused fault) options (ihRest ends) left rfl
                (Transcript.answer_agree rfl)
                (fun reported _ => Transcript.answer_agree rfl reported rfl) (.cons step .nil)
                accord
          | @ok declared linked linked' left =>
              have entered : (State.enterBody ⟨linked, bindings⟩ declared).unpaced =
                  (State.enterBody ⟨linked', bindings⟩ declared).unpaced :=
                congrArg (fun image => State.enterBody ⟨image, bindings⟩ declared) left
              -- the declaration itself asks nothing, so the answers to its body come first
              have inside := accord
              simp only [decisions_append] at inside
              obtain ⟨ran, made⟩ := ihBody true entered inside.left.right
              have answered := Run.answerOf_agree declared ran
              have left :=
                State.bindAnswer_agree options (Run.leaveBody_agree bindings ran) answered
              have body := congrArg Run.transcript ran
              exact alike_rest _ options (ihRest ends) left answered
                (Transcript.declared_agree body answered)
                (fun reported _ => Transcript.declared_agree body answered reported rfl)
                (List.rel_append (.cons step .nil) made) accord
  | guarded inner rest ihInner ihRest =>
      intro state other same accord
      have held : state.hold.unpaced = other.hold.unpaced := congrArg State.hold same
      have inside := accord
      rw [steps, steps, decisions_append, decisions_append] at inside
      obtain ⟨ran, made⟩ := ihInner false held inside.left
      have left : (inner.run false state.hold).state.unhold.unpaced =
          (inner.run false other.hold).state.unhold.unpaced :=
        congrArg (fun run : Run => run.state.unhold) ran
      exact alike_further (ihRest ends) left
        (Transcript.guarded_agree (congrArg Run.transcript ran)) made accord
  | unknown rest ih =>
      intro state other same accord
      exact alike_further (ih ends) same (Transcript.answer_agree rfl) .nil accord

end Runs

end Script

/-- Whether a call asks if a collection is due. -/
def Call.asksWhetherDue {ρ : Type} : Call ρ → Bool
  | .collectIfDue _ => true
  | _ => false

/-- Whether a script, with the bodies in it, asks anywhere if a collection is due. -/
def Script.asksWhetherDue : Script → Bool
  | .done => false
  | .call operation _ rest => operation.asksWhetherDue || rest.asksWhetherDue
  | .declare _ _ body rest => body.asksWhetherDue || rest.asksWhetherDue
  | .guarded inner rest => inner.asksWhetherDue || rest.asksWhetherDue
  | .unknown rest => rest.asksWhetherDue

/-- A call asks what it asked before its references were resolved. -/
theorem Call.decision?_eq_none {operation : Call Reference} {f : Reference → Except String ObjectId}
    {call : Call ObjectId} (never : operation.asksWhetherDue = false)
    (given : operation.traverse f = .ok call) (image : Image) : call.decision? image = none := by
  have mapped {α : Type} {resolved : Except String α} {make : α → Call ObjectId}
      (made : ∀ value, (make value).decision? image = none)
      (given : make <$> resolved = .ok call) : call.decision? image = none := by
    cases resolved with
    | error name => cases given
    | ok value =>
        cases given
        exact made value
  cases operation with
  | collectIfDue roots => cases never
  | allocateClass | builtins | survey _ | isLocked | tryLock _ =>
      cases given
      rfl
  | _ => exact mapped (fun _ => rfl) given

theorem State.decisions_callOf {operation : Call Reference} (state : State)
    (never : operation.asksWhetherDue = false) :
    decisions ((state.callOf operation).map (state.image, ·)) = [] := by
  unfold callOf
  cases given : operation.traverse (Reference.resolve state.bindings) with
  | error name => rfl
  | ok call =>
      have none := Call.decision?_eq_none never given state.image
      change (call.decision? state.image).toList = []
      rw [none, Option.toList_none]

theorem decisions_further {further : List (Image × Call ObjectId)} (ended : Option Fault)
    (none : decisions further = []) : decisions (ended.elim further fun _ => []) = [] := by
  cases ended with
  | none => exact none
  | some fault => rfl

/-- A script that asks nowhere if a collection is due is told nothing about it. -/
theorem Script.decisions_steps {script : Script} (never : script.asksWhetherDue = false)
    (ends : Bool) (state : State) : decisions (script.steps ends state) = [] := by
  induction script generalizing ends state with
  | done => rfl
  | call operation options rest ih =>
      obtain ⟨first, later⟩ := Bool.or_eq_false_iff.mp never
      rw [steps, decisions_append, state.decisions_callOf first, List.nil_append]
      exact decisions_further _ (ih later ends _)
  | declare declaration options body rest ihBody ihRest =>
      obtain ⟨inside, later⟩ := Bool.or_eq_false_iff.mp never
      unfold steps
      cases declaration.traverse (Reference.resolve state.bindings) with
      | error name => exact ihRest later ends _
      | ok declaration =>
          cases declared : Image.declare declaration state.image with
          | error fault image =>
              simp only [declared]
              exact decisions_further _ (ihRest later ends _)
          | ok id image =>
              simp only [declared]
              rw [decisions_append, decisions_append, ihBody inside, List.append_nil]
              exact decisions_further _ (ihRest later ends _)
  | guarded inner rest ihInner ihRest =>
      obtain ⟨inside, later⟩ := Bool.or_eq_false_iff.mp never
      rw [steps, decisions_append, ihInner inside, List.nil_append]
      exact ihRest later ends _
  | unknown rest ih => exact ih never ends _

/-- A session before its start is reported. -/
def State.first (settings : Settings) : State :=
  ⟨.first settings, [("anchor", 0), ("root", 3), ("object", 5), ("module", 8)]⟩

theorem State.start_eq (settings : Settings) : start settings = .ok (first settings).report := by
  rw [start, Image.start_eq]
  rfl

/-- Sessions with any two settings start alike. A script that asks nowhere if a collection is due,
or is told the same by both as far as both of them ask, is then answered alike: every call is made
on heaps with the same slots, vacant slots, pins and number of allocations, ends in the same answer
or fault, and leaves such heaps. The reports are the same but for whether a collection is due and
for the thresholds in their events, and the images that are left but for their pace. -/
theorem State.settings_only_pace (settings other : Settings) :
    ∃ snapshot state snapshot' state',
      State.start settings = .ok (snapshot, state) ∧
        State.start other = .ok (snapshot', state') ∧
        snapshot.unpaced = snapshot'.unpaced ∧ state.unpaced = state'.unpaced ∧
        ∀ (script : Script) ends,
          (script.asksWhetherDue = false ∨ Accord (decisions (script.steps ends state))
            (decisions (script.steps ends state'))) →
          (script.run ends state).transcript.unpaced =
              (script.run ends state').transcript.unpaced ∧
            (script.run ends state).ending = (script.run ends state').ending ∧
            (script.run ends state).state.unpaced = (script.run ends state').state.unpaced ∧
            List.Forall₂ (fun step step' => step.2 = step'.2 ∧
                step.1.heap.Agrees step'.1.heap ∧
                AlikeResults (step.2.perform step.1) (step'.2.perform step'.1) ∧
                (step.1.afterCalls [step.2]).heap.Agrees (step'.1.afterCalls [step'.2]).heap)
              (script.steps ends state) (script.steps ends state') := by
  have same : (State.first settings).unpaced = (State.first other).unpaced := rfl
  obtain ⟨reported, same⟩ := State.report_agree same
  refine ⟨_, _, _, _, State.start_eq settings, State.start_eq other, reported, same, ?_⟩
  intro script ends told
  have accord : Accord (decisions (script.steps ends (State.first settings).report.2))
      (decisions (script.steps ends (State.first other).report.2)) := by
    rcases told with never | accord
    · rw [Script.decisions_steps never]
      exact .nil _
    · exact accord
  obtain ⟨run, steps⟩ := script.ignoresPace ends same accord
  have transcript := congrArg Run.transcript run
  have ending := congrArg Run.ending run
  have state := congrArg Run.state run
  refine ⟨transcript, ending, state, steps.imp fun step step' alike => ?_⟩
  have before := Heap.agrees_of_unpaced (congrArg Image.heap alike.before)
  have after := Heap.agrees_of_unpaced (congrArg Image.heap alike.after)
  exact ⟨alike.call, before, alike.ended, after⟩

end Pace

/-- The case of two sessions in which no collection is due when that is asked, and one is made
then. -/
theorem State.settings_only_pace_collect :
    let script : Script := .call (.newObject (.handle "object")) ⟨some "made", false⟩ <|
      .call (.collectIfDue []) ⟨none, false⟩ <| .call (.collect []) ⟨none, false⟩ .done
    ∃ snapshot state snapshot' state',
      State.start ⟨16, 100, 50⟩ = .ok (snapshot, state) ∧
        State.start ⟨32, 200, 80⟩ = .ok (snapshot', state') ∧
        decisions (script.steps false state) = [false] ∧
        decisions (script.steps false state') = [false] ∧
        (script.run false state).transcript.unpaced =
          (script.run false state').transcript.unpaced := by
  intro script
  obtain ⟨_, _, _, _, first, second, _, _, scripts⟩ :=
    State.settings_only_pace ⟨16, 100, 50⟩ ⟨32, 200, 80⟩
  refine ⟨_, _, _, _, first, second, ?_⟩
  rw [State.start_eq] at first second
  cases first
  cases second
  have told : decisions (script.steps false (State.first ⟨16, 100, 50⟩).report.2) = [false] := rfl
  have other : decisions (script.steps false (State.first ⟨32, 200, 80⟩).report.2) = [false] := rfl
  obtain ⟨transcript, _⟩ := scripts script false (.inr (.of_eq (told.trans other.symm)))
  exact ⟨told, other, transcript⟩

end Metamodel.Session
