import Metamodel.Fault
import Metamodel.Heap.Basic

/-!
# Lookups

Reading an object that should be there, or one part of it. An id without an object, or with one
of another kind, is refused as unknown.
-/

namespace Metamodel.Heap

/-- The object with the given id. -/
def find (heap : Heap) (id : ObjectId) : Except Fault HeapObject :=
  match heap.get? id with
  | some object => .ok object
  | none => .error (.unknownObject id)

/-- The header of a class or an instance. -/
def findHeader (heap : Heap) (id : ObjectId) : Except Fault Header := do
  match (← heap.find id).header? with
  | some header => pure header
  | none => throw (.unknownObject id)

/-- The content of a text. -/
def findText (heap : Heap) (id : ObjectId) : Except Fault String := do
  match ← heap.find id with
  | .text content => pure content
  | _ => throw (.unknownObject id)

theorem find_eq_ok_iff {heap : Heap} {id : ObjectId} {object : HeapObject} :
    heap.find id = .ok object ↔ heap.get? id = some object := by
  unfold find
  cases heap.get? id <;> simp

theorem findHeader_eq_ok_iff {heap : Heap} {id : ObjectId} {header : Header} :
    heap.findHeader id = .ok header ↔ (heap.get? id).bind HeapObject.header? = some header := by
  simp only [findHeader, find, bind, Except.bind]
  cases heap.get? id with
  | none => simp
  | some object => cases h : object.header? <;> simp [h, pure, Except.pure, throw, throwThe,
      MonadExceptOf.throw]

theorem findHeader_of_get? {heap : Heap} {id : ObjectId} {object : HeapObject} {header : Header}
    (stored : heap.get? id = some object) (isHeader : object.header? = some header) :
    heap.findHeader id = .ok header := by
  rw [findHeader_eq_ok_iff, stored]
  exact isHeader

theorem findText_eq_ok_iff {heap : Heap} {id : ObjectId} {content : String} :
    heap.findText id = .ok content ↔ heap.get? id = some (.text content) := by
  simp only [findText, find, bind, Except.bind]
  cases heap.get? id with
  | none => simp
  | some object => cases object <;> simp [pure, Except.pure, throw, throwThe,
      MonadExceptOf.throw]

end Metamodel.Heap
