import Metamodel.Session.Script

/-!
# Sessions on a bare heap

A heap can be filled without an image around it. Nothing is checked then: owners may be ids
without an object, and a display name may lead to one.
-/

namespace Metamodel.Session

/-- One operation on a bare heap. -/
inductive HeapCall (ρ : Type) where
  | allocateText (content : String)
  | allocateClass (owner : ρ)
  | allocatePlain (owner : ρ) (tag : TypeTag)
  | inspect (question : Inspection) (object : ρ)
  | survey (question : Survey)
  deriving DecidableEq, Inhabited

namespace HeapCall

variable {ρ σ : Type}

/-- The same call on the objects that a partial function gives. -/
def traverse (f : ρ → Except String σ) : HeapCall ρ → Except String (HeapCall σ)
  | .allocateText content => pure (.allocateText content)
  | .allocateClass owner => .allocateClass <$> f owner
  | .allocatePlain owner tag => (.allocatePlain · tag) <$> f owner
  | .inspect question object => .inspect question <$> f object
  | .survey question => pure (.survey question)

/-- The answer to an allocation is the new id. -/
def allocated (result : ObjectId × Heap) : Except Fault Value × Heap :=
  (.ok (.id result.1), result.2)

/-- Carry out a call. -/
def perform (heap : Heap) : HeapCall ObjectId → Except Fault Value × Heap
  | .allocateText content => allocated (heap.allocate (.text content))
  | .allocateClass owner => allocated (heap.allocate (.classRecord (.fresh owner)))
  | .allocatePlain owner tag => allocated (heap.allocate (.plain (.fresh tag owner)))
  | .inspect question object => (question.answer heap object, heap)
  | .survey question => (.ok (question.answer heap), heap)

end HeapCall

/-- One step on a bare heap. -/
inductive HeapStep where
  | call (call : HeapCall Reference) (options : StepOptions)
  /-- A step that names no known operation. -/
  | unknown
  deriving DecidableEq, Inhabited

/-- A heap and the handles bound in it. -/
structure HeapState where
  heap : Heap
  bindings : Bindings

namespace HeapState

/-- A session on a new heap. -/
def start (settings : Settings) : HeapState :=
  ⟨.empty settings, []⟩

/-- Carry out a step. -/
def step (state : HeapState) : HeapStep → Outcome × HeapState
  | .unknown => (.unknownOperation, state)
  | .call call options =>
      match call.traverse (Reference.resolve state.bindings) with
      | .error name => (.unbound name, state)
      | .ok call =>
          let (result, heap) := call.perform state.heap
          match result, options.handle with
          | .error fault, _ => (.refused fault, { state with heap })
          | .ok (.id id), some name =>
              (.value (.id id), ⟨heap, state.bindings.bind name id⟩)
          | .ok value, _ => (.value value, { state with heap })

/-- Carry out steps in order, each with a report of the heap after it. -/
def run (state : HeapState) : List HeapStep → List (Outcome × Snapshot)
  | [] => []
  | step :: rest =>
      let (outcome, state) := state.step step
      (outcome, .ofHeap state.heap []) :: state.run rest

end HeapState

end Metamodel.Session
