import Metamodel.Heap.Naming

/-!
# Classes on the heap

Reading a class that should be there. An object that is no class is refused by its display name,
so an object without a display name is refused for the reason why it has none.
-/

namespace Metamodel.Heap

/-- The class with the given id. What is not a class is refused by its display name. -/
def findClass (heap : Heap) (id : ObjectId) : Except Fault ClassRecord := do
  match ← heap.find id with
  | .classRecord record => pure record
  | _ => throw (.notAClass (← heap.displayName id))

theorem findClass_eq_ok_iff {heap : Heap} {id : ObjectId} {record : ClassRecord} :
    heap.findClass id = .ok record ↔ heap.get? id = some (.classRecord record) := by
  simp only [findClass, find, bind, Except.bind]
  cases heap.get? id with
  | none => simp
  | some object =>
      cases object with
      | classRecord record => simp [pure, Except.pure]
      | plain header =>
          cases heap.displayName id <;> simp [throw, throwThe, MonadExceptOf.throw]
      | text content =>
          cases heap.displayName id <;> simp [throw, throwThe, MonadExceptOf.throw]

/-- An object that is not a class is refused by its display name, and without one as that is. -/
theorem findClass_eq_bind {heap : Heap} {id : ObjectId} {object : HeapObject}
    (stored : heap.get? id = some object) (other : object.classRecord? = none) :
    heap.findClass id = (heap.displayName id).bind fun name => .error (.notAClass name) := by
  unfold findClass
  rw [find_eq_ok_iff.mpr stored]
  cases object with
  | classRecord record => cases other
  | plain header => rfl
  | text content => rfl

/-- Whether an id denotes a class. -/
def isClass (heap : Heap) (id : ObjectId) : Bool :=
  ((heap.get? id).bind HeapObject.classRecord?).isSome

/-- The name given to a class, if it has been given one. -/
def className (heap : Heap) (id : ObjectId) : Except Fault (Option String) := do
  match (← heap.findClass id).name with
  | some name => some <$> heap.findText name
  | none => pure none

/-- The name of a class as the frame of its declaration: marked as such for a named class, the
display name for any other. -/
def backtraceName (heap : Heap) (id : ObjectId) : Except Fault String := do
  let name ← heap.className id
  let record ← heap.findClass id
  match name, record.isSingleton with
  | some name, false => pure ("<class:" ++ name ++ ">")
  | _, _ => heap.displayName id

end Metamodel.Heap
