import Metamodel.Event
import Metamodel.Heap.Classes
import Metamodel.Heap.Pins
import Metamodel.StructureLock

/-!
# Images

An image is a heap with the built-in classes in it, its lock, and the events not yet reported.
Operations on an image may be refused; a refusal is a fault together with the image as it then
is, so that what a refused operation leaves behind can be told.
-/

namespace Metamodel

/-- The ids of the built-in classes. -/
structure Builtins where
  /-- The class of all classes. -/
  anchor : ObjectId
  /-- The class that every superclass chain ends at. -/
  root : ObjectId
  objectClass : ObjectId
  moduleClass : ObjectId
  deriving DecidableEq, Inhabited

/-- The built-in classes in the order in which they are listed. -/
def Builtins.toList (builtins : Builtins) : List ObjectId :=
  [builtins.anchor, builtins.root, builtins.objectClass, builtins.moduleClass]

variable [ReentrantMutex]

/-- An object model at work. -/
structure Image where
  heap : Heap
  builtins : Builtins
  settings : Settings
  lock : StructureLock
  /-- The events that have not been reported, oldest first. -/
  journal : Array Event

/-- An image with its lock taken once more. -/
abbrev Image.held (image : Image) : Image :=
  { image with lock := image.lock.acquire }

/-- An operation on an image, which may be refused. -/
abbrev ImageM := EStateM Fault Image

namespace ImageM

variable {α β : Type}

theorem pure_apply (value : α) (image : Image) :
    (pure value : ImageM α) image = .ok value image := rfl

theorem throw_apply (fault : Fault) (image : Image) :
    (throw fault : ImageM α) image = .error fault image := rfl

theorem bind_apply (act : ImageM α) (next : α → ImageM β) (image : Image) :
    (act >>= next) image =
      match act image with
      | .ok value image => next value image
      | .error fault image => .error fault image := by
  change EStateM.bind act next image = _
  unfold EStateM.bind
  cases act image <;> rfl

theorem map_apply (f : α → β) (act : ImageM α) (image : Image) :
    (f <$> act) image =
      match act image with
      | .ok value image => .ok (f value) image
      | .error fault image => .error fault image := by
  change EStateM.map f act image = _
  unfold EStateM.map
  cases act image <;> rfl

/-- Run an operation under the structure lock, which is released on success and on refusal. -/
def locked (act : ImageM α) : ImageM α := fun image =>
  match act image.held with
  | .ok value image => .ok value { image with lock := image.lock.release }
  | .error fault image => .error fault { image with lock := image.lock.release }

section Locked

variable {act : ImageM α} {image after : Image}

/-- What is left while the lock is held is left without that hold in the end. -/
theorem locked_eq_ok {value : α} (made : act image.held = .ok value after.held) :
    locked act image = .ok value after := by
  rw [locked, made]
  simp only [StructureLock.release_acquire]

theorem locked_eq_error {fault : Fault} (made : act image.held = .error fault after.held) :
    locked act image = .error fault after := by
  rw [locked, made]
  simp only [StructureLock.release_acquire]

end Locked

/-- Ask the heap for something without changing it. -/
def ask (query : Heap → Except Fault α) : ImageM α := fun image =>
  match query image.heap with
  | .ok value => .ok value image
  | .error fault => .error fault image

/-- Look at the heap without changing it. -/
def view (look : Heap → α) : ImageM α := fun image => .ok (look image.heap) image

/-- The built-in classes. -/
def builtinClasses : ImageM Builtins := fun image => .ok image.builtins image

/-- Place an object in the heap. -/
def allocate (object : HeapObject) : ImageM ObjectId := fun image =>
  let (id, heap) := image.heap.allocate object
  .ok id { image with heap }

/-- Change the object with the given id. -/
def change (id : ObjectId) (edit : HeapObject → HeapObject) : ImageM Unit := fun image =>
  .ok () { image with heap := image.heap.modify id edit }

/-- Edit a class. What is not a class is refused. -/
def editClass (id : ObjectId) (edit : ClassRecord → ClassRecord) : ImageM Unit := do
  let _ ← ask (·.findClass id)
  change id (·.withClass edit)

/-- Record an event. -/
def emit (event : Event) : ImageM Unit := fun image =>
  .ok () { image with journal := image.journal.push event }

end ImageM

end Metamodel
