import Metamodel.CountingMutex
import Metamodel.Proofs.Sessions

/-!
# Refusals

A refused operation leaves no trace: what an operation needs is examined before it changes
anything, and nothing fails afterwards. The body of a declaration is another matter. It runs once
the class is linked, and its fault is the answer of the declaration, but what the declaration and
the body have done until then stays done.
-/

namespace Metamodel

open Session

namespace Session

variable [ReentrantMutex]

/-- What a declaration with a body answers: the fault that ended the body, or the class. -/
def Run.answerOf (inner : Run) (declared : ObjectId) : Outcome :=
  match inner.ending with
  | some fault => .refused fault
  | none => .value (.id declared)

theorem Run.ending_of_answerOf {inner : Run} {declared : ObjectId} {fault : Fault}
    (refused : inner.answerOf declared = .refused fault) : inner.ending = some fault := by
  unfold answerOf at refused
  split at refused
  · next last ended =>
      cases refused
      exact ended
  · cases refused

/-- How a step ends that is the only one of its script. -/
structure Concludes (run : Run) (transcript : Transcript) (heap : Heap) : Prop where
  transcript : run.transcript = transcript
  heap : run.state.image.heap = heap

namespace Script

variable {declaration : Declaration Reference} {resolved : Declaration ObjectId}
  {options : StepOptions} {body : Script} {ends : Bool} {state : State} {image : Image}

/-- The body of a declaration that refers to an unbound handle does not run. -/
theorem concludes_of_unbound {name : String}
    (unbound : declaration.traverse (Reference.resolve state.bindings) = .error name) :
    Concludes (run ends (.declare declaration options body .done) state)
      (.answer (.unbound name) state.report.1 .done) state.image.heap := by
  rw [run, unbound]
  exact ⟨rfl, rfl⟩

/-- Neither does that of a refused one. -/
theorem concludes_of_error {fault : Fault}
    (given : declaration.traverse (Reference.resolve state.bindings) = .ok resolved)
    (refused : Image.declare resolved state.image = .error fault image) :
    Concludes (run ends (.declare declaration options body .done) state)
      (.answer (.refused fault) (State.report ⟨image, state.bindings⟩).1 .done) image.heap := by
  rw [run, given]
  simp only [refused]
  cases ended : (Outcome.refused fault).ending? ends options with
  | none => exact ⟨rfl, rfl⟩
  | some last =>
      cases Outcome.eq_refused ended
      exact ⟨rfl, rfl⟩

/-- The body of any other one begins on the image with the class linked, and what is there after
the body is there after the declaration, however the body ends. -/
theorem concludes_of_ok {declared : ObjectId}
    (given : declaration.traverse (Reference.resolve state.bindings) = .ok resolved)
    (done : Image.declare resolved state.image = .ok declared image) {inner : Run}
    (made : body.run true (State.enterBody ⟨image, state.bindings⟩ declared) = inner) :
    ∃ snapshot, Concludes (run ends (.declare declaration options body .done) state)
      (.declared inner.transcript (inner.answerOf declared) snapshot .done)
      inner.state.image.heap := by
  rw [run, given]
  simp only [done, made]
  have kept := State.image_bindAnswer (inner.state.leaveBody state.bindings) options
    (inner.answerOf declared)
  have heap : ((inner.state.leaveBody state.bindings).bindAnswer options
      (inner.answerOf declared)).report.2.image.heap = inner.state.image.heap :=
    (congrArg Image.heap kept :)
  change ∃ snapshot, Concludes (match (inner.answerOf declared).ending? ends options with
    | some fault => _
    | none => _) _ _
  cases (inner.answerOf declared).ending? ends options with
  | none => exact ⟨_, rfl, heap⟩
  | some last => exact ⟨_, rfl, heap⟩

end Script

end Session

/-- In every reachable image a refused call leaves everything as it was. So does a declaration
whose body does not run. When the body of a declaration has run and its fault is the answer, the
class had been linked as it is without a body before the first step of the body, and the heap is
left as the body has left it. -/
theorem Reached.refused_unchanged [ReentrantMutex] {settings : Settings}
    {calls : List (Call ObjectId)} {image : Image} (reached : Reached settings calls image) :
    (∀ call fault after, Call.perform call image = .error fault after → after = image) ∧
      ∀ declaration options body ends bindings snapshot,
        let run := Script.run ends (.declare declaration options body .done) ⟨image, bindings⟩
        (∀ outcome, run.transcript = .answer outcome snapshot .done →
          run.state.image.heap = image.heap) ∧
        ∀ inside fault, run.transcript = .declared inside (.refused fault) snapshot .done →
          ∃ resolved declared linked,
            declaration.traverse (Reference.resolve bindings) = .ok resolved ∧
              Call.perform (.declare resolved) image = .ok (.id declared) linked ∧
              let inner := body.run true (State.enterBody ⟨linked, bindings⟩ declared)
              inner.transcript = inside ∧ inner.ending = some fault ∧
                run.state.image.heap = inner.state.image.heap := by
  have wf := reached.wellFormed
  refine ⟨fun call fault after refused => Call.eq_of_error wf refused, ?_⟩
  intro declaration options body ends bindings snapshot run
  cases given : declaration.traverse (Reference.resolve bindings) with
  | error name =>
      have concludes : Concludes run _ _ := Script.concludes_of_unbound given
      refine ⟨fun _ _ => concludes.heap, ?_⟩
      intro inside fault answered
      rw [concludes.transcript] at answered
      cases answered
  | ok resolved =>
      cases made : Image.declare resolved image with
      | error fault after =>
          have concludes : Concludes run _ _ := Script.concludes_of_error given made
          have same := Call.eq_of_error wf (Call.perform_declare_of_error made)
          refine ⟨fun _ _ => concludes.heap.trans (congrArg Image.heap same), ?_⟩
          intro inside fault answered
          rw [concludes.transcript] at answered
          cases answered
      | ok declared linked =>
          obtain ⟨_, concludes⟩ : ∃ snapshot, Concludes run (.declared _ _ snapshot .done) _ :=
            Script.concludes_of_ok given made rfl
          constructor
          · intro outcome answered
            rw [concludes.transcript] at answered
            cases answered
          · intro inside fault answered
            rw [concludes.transcript] at answered
            refine ⟨resolved, declared, linked, rfl, Call.perform_declare_of_ok made, ?_⟩
            injection answered with transcript outcome
            exact ⟨transcript, Run.ending_of_answerOf outcome, concludes.heap⟩

/-- The case of a new class, in slot 11, whose body asks for an instance of a class that is not
there. -/
theorem Reached.refused_unchanged_newClass :
    let body : Script := .call (.newObject (.slot 99)) ⟨none, false⟩ .done
    let run := Script.run false (.declare (.newClass none) ⟨none, false⟩ body .done)
      ⟨.first .standard, []⟩
    ∃ linked, Call.perform (.declare (.newClass none)) (.first .standard) = .ok (.id 11) linked ∧
      (body.run true (State.enterBody ⟨linked, []⟩ 11)).ending = some (.unknownObject 99) ∧
      run.state.image.heap =
        (body.run true (State.enterBody ⟨linked, []⟩ 11)).state.image.heap := by
  intro body run
  have answered : ∃ inside snapshot,
      run.transcript = .declared inside (.refused (.unknownObject 99)) snapshot .done :=
    ⟨_, _, rfl⟩
  obtain ⟨inside, snapshot, answered⟩ := answered
  obtain ⟨_, scripts⟩ := Reached.refused_unchanged (.first .standard)
  obtain ⟨_, bodies⟩ := scripts (.newClass none) ⟨none, false⟩ body false [] snapshot
  obtain ⟨resolved, declared, linked, given, performed, _, ended, heap⟩ :=
    bodies inside (.unknownObject 99) answered
  cases given
  have first : ∃ after, Call.perform (.declare (.newClass none)) (.first .standard) =
      .ok (.id 11) after := ⟨_, rfl⟩
  obtain ⟨after, first⟩ := first
  have same := performed.symm.trans first
  cases same
  exact ⟨linked, performed, ended, heap⟩

end Metamodel
