import Metamodel.Heap.Lookup

/-!
# Pins

A pin protects an object from collection until it is taken back. Pins are counted: an object
stays protected until each pin on it has been taken back.
-/

namespace Metamodel.Heap

/-- The number of pins on an id. -/
def pinCount (heap : Heap) (id : ObjectId) : Nat :=
  heap.pins.count id

/-- The pinned ids in ascending order, each once. -/
def pinned (heap : Heap) : List ObjectId :=
  heap.pins.ids.mergeSort

/-- Protect an object. -/
def pin (heap : Heap) (id : ObjectId) : Except Fault Heap := do
  let _ ← heap.find id
  pure { heap with pins := heap.pins.increment id }

/-- Take one pin back, if the id has one. -/
def unpin (heap : Heap) (id : ObjectId) : Bool × Heap :=
  if heap.pinCount id = 0 then (false, heap)
  else (true, { heap with pins := heap.pins.decrement id })

theorem mem_pinned {heap : Heap} {id : ObjectId} : id ∈ heap.pinned ↔ 0 < heap.pinCount id := by
  rw [pinned, List.mem_mergeSort, PinTable.mem_ids, pinCount]

theorem pin_eq_ok_iff {heap heap' : Heap} {id : ObjectId} :
    heap.pin id = .ok heap' ↔
      heap.contains id ∧ heap' = { heap with pins := heap.pins.increment id } := by
  cases h : heap.get? id with
  | none => simp [pin, find, h, contains, bind, Except.bind]
  | some object =>
      simp [pin, find, h, contains, bind, Except.bind, pure, Except.pure, eq_comm]

theorem pinCount_unpin (heap : Heap) (id other : ObjectId) :
    (heap.unpin id).2.pinCount other =
      if other = id then heap.pinCount other - 1 else heap.pinCount other := by
  unfold unpin
  split
  · next none =>
      by_cases h : other = id
      · subst h
        simp [none]
      · simp [h]
  · exact heap.pins.count_decrement id other

end Metamodel.Heap
