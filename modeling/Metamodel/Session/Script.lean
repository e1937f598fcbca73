import Metamodel.Image.Genesis
import Metamodel.Session.Call

/-!
# Scripts

A script is a list of steps on one image. A declaration may have a body, a script that runs once
the class is linked and outside the lock; a guarded step runs a script while the lock is held.
Every step is answered. A fault ends the body that it arises in, unless its step is marked as
rescued, and is then the answer of the declaration; it ends nothing else.

## Implementation notes

Steps and bodies are one inductive type: each constructor carries the steps that follow it.
-/

namespace Metamodel.Session

/-- What becomes of the answer to a step. -/
structure StepOptions where
  /-- The handle to bind to an answer that is an id. -/
  handle : Option String
  /-- Whether a fault of this step leaves the body around it running. -/
  rescued : Bool
  deriving DecidableEq, Inhabited

/-- A list of steps. -/
inductive Script where
  | done
  | call (operation : Call Reference) (options : StepOptions) (rest : Script)
  /-- A declaration with a body. -/
  | declare (declaration : Declaration Reference) (options : StepOptions) (body rest : Script)
  /-- A script run while the lock is held. -/
  | guarded (inner rest : Script)
  /-- A step that names no known operation. -/
  | unknown (rest : Script)
  deriving Inhabited

/-- How a step ends. -/
inductive Outcome where
  | value (value : Value)
  | refused (fault : Fault)
  /-- The step refers to a handle that is not bound. -/
  | unbound (name : String)
  | unknownOperation

/-- The state of an image as it is reported with an answer. -/
structure Snapshot where
  live : Nat
  slots : Nat
  due : Bool
  /-- The events since the report before. -/
  events : List Event

/-- The answers to the steps of a script. -/
inductive Transcript where
  | done
  | answer (outcome : Outcome) (snapshot : Snapshot) (rest : Transcript)
  /-- The answer to a declaration whose body has run. -/
  | declared (body : Transcript) (outcome : Outcome) (snapshot : Snapshot) (rest : Transcript)
  | guarded (inner : Transcript) (snapshot : Snapshot) (rest : Transcript)

/-- Report the state of a heap and the events of a journal. -/
def Snapshot.ofHeap (heap : Heap) (events : List Event) : Snapshot where
  live := heap.liveCount
  slots := heap.slotCount
  due := heap.collectionDue
  events := events

variable [ReentrantMutex]

/-- An image and the handles bound in it. -/
structure State where
  image : Image
  bindings : Bindings

namespace State

/-- Report the state of the image and start a new journal. -/
def report (state : State) : Snapshot × State :=
  (.ofHeap state.image.heap state.image.journal.toList,
    { state with image := { state.image with journal := #[] } })

/-- Carry out a call after looking up its references. -/
def execute (state : State) (call : Call Reference) : Outcome × State :=
  match call.traverse (Reference.resolve state.bindings) with
  | .error name => (.unbound name, state)
  | .ok call =>
      match call.perform state.image with
      | .ok value image => (.value value, { state with image })
      | .error fault image => (.refused fault, { state with image })

/-- Bind the handle that a step asks for, if its answer is an id. -/
def bindAnswer (state : State) (options : StepOptions) (outcome : Outcome) : State :=
  match options.handle, outcome with
  | some name, .value (.id id) => { state with bindings := state.bindings.bind name id }
  | _, _ => state

/-- Bind `self` for the time of a body. -/
def enterBody (state : State) (declared : ObjectId) : State :=
  { state with bindings := state.bindings.bind "self" declared }

/-- Give `self` the binding back that it had before a body. -/
def leaveBody (state : State) (before : Bindings) : State :=
  { state with bindings := state.bindings.rebind "self" (before.lookup "self") }

/-- Take the lock for a guarded script. -/
def hold (state : State) : State :=
  { state with image := { state.image with lock := state.image.lock.acquire } }

/-- Release the lock after a guarded script. -/
def unhold (state : State) : State :=
  { state with image := { state.image with lock := state.image.lock.release } }

end State

/-- The fault that ends the steps around a step, where faults end them. -/
def Outcome.ending? (outcome : Outcome) (ends : Bool) (options : StepOptions) : Option Fault :=
  match outcome with
  | .refused fault => if ends && !options.rescued then some fault else none
  | _ => none

/-- The answers of a script, the fault that ended it, and the state after it. -/
structure Run where
  transcript : Transcript
  ending : Option Fault
  state : State

/-- Put the answer to a step before what follows it. -/
def Run.after (answer : Transcript → Transcript) (run : Run) : Run :=
  { run with transcript := answer run.transcript }

/-- Run a script. In a body (`ends`) the first fault that is not rescued ends it. -/
def Script.run (ends : Bool) : Script → State → Run
  | .done, state => ⟨.done, none, state⟩
  | .call operation options rest, state =>
      let (outcome, state) := state.execute operation
      let (snapshot, state) := (state.bindAnswer options outcome).report
      match outcome.ending? ends options with
      | some fault => ⟨.answer outcome snapshot .done, some fault, state⟩
      | none => (rest.run ends state).after (.answer outcome snapshot)
  | .declare declaration options body rest, state =>
      match declaration.traverse (Reference.resolve state.bindings) with
      | .error name =>
          let (snapshot, state) := state.report
          (rest.run ends state).after (.answer (.unbound name) snapshot)
      | .ok declaration =>
          match Image.declare declaration state.image with
          | .error fault image =>
              let (snapshot, state) := { state with image : State }.report
              match (Outcome.refused fault).ending? ends options with
              | some fault => ⟨.answer (.refused fault) snapshot .done, some fault, state⟩
              | none => (rest.run ends state).after (.answer (.refused fault) snapshot)
          | .ok declared image =>
              let inner := body.run true ({ state with image : State }.enterBody declared)
              let outcome := match inner.ending with
                | some fault => .refused fault
                | none => .value (.id declared)
              let (snapshot, state) :=
                ((inner.state.leaveBody state.bindings).bindAnswer options outcome).report
              match outcome.ending? ends options with
              | some fault =>
                  ⟨.declared inner.transcript outcome snapshot .done, some fault, state⟩
              | none =>
                  (rest.run ends state).after (.declared inner.transcript outcome snapshot)
  | .guarded inner rest, state =>
      let run := inner.run false state.hold
      let (snapshot, state) := run.state.unhold.report
      (rest.run ends state).after (.guarded run.transcript snapshot)
  | .unknown rest, state =>
      let (snapshot, state) := state.report
      (rest.run ends state).after (.answer .unknownOperation snapshot)

/-- A session as it starts, with the built-in classes bound to their handles, and the report of
its image. -/
def State.start (settings : Settings) : Except Fault (Snapshot × State) := do
  let image ← Image.start settings
  let builtins := image.builtins
  pure (State.report ⟨image, [("anchor", builtins.anchor), ("root", builtins.root),
    ("object", builtins.objectClass), ("module", builtins.moduleClass)]⟩)

end Metamodel.Session
