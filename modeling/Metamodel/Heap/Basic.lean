import Metamodel.BitSet
import Metamodel.Object.Record
import Metamodel.PinTable
import Metamodel.Settings

/-!
# The heap

A heap is a row of slots. Objects are placed in vacant slots before the row is lengthened, and an
object keeps its slot for as long as it lives. What a slot holds is read with `get?`; each
operation below says what it does to that view.
-/

namespace Metamodel

/-- Slots with objects, and what is known about them between collections. -/
structure Heap where
  slots : Array (Option HeapObject)
  /-- The empty slots, in the order in which they are used again. -/
  vacant : List ObjectId
  /-- The ids protected from collection. -/
  pins : PinTable
  /-- The objects found reachable by the marking under way. -/
  marks : BitSet
  /-- The number of allocations since the last collection. -/
  allocated : Nat
  /-- The number of allocations at which a collection is due. -/
  threshold : Nat
  /-- The least value that a collection sets the threshold to. -/
  minThreshold : Nat
  deriving DecidableEq, Inhabited

namespace Heap

/-- A heap without slots, paced by the given settings. -/
def empty (settings : Settings) : Heap where
  slots := #[]
  vacant := []
  pins := .empty
  marks := .empty
  allocated := 0
  threshold := settings.threshold
  minThreshold := settings.minThreshold

/-- The object in a slot; `none` for an empty slot and beyond the last one. -/
def get? (heap : Heap) (id : ObjectId) : Option HeapObject :=
  heap.slots[id]?.join

/-- Whether an id denotes an object. -/
def contains (heap : Heap) (id : ObjectId) : Bool :=
  (heap.get? id).isSome

/-- The ids of all objects, in slot order. -/
def liveIds (heap : Heap) : List ObjectId :=
  (List.range heap.slots.size).filter heap.contains

/-- The number of objects. -/
def liveCount (heap : Heap) : Nat :=
  heap.slots.countP Option.isSome

/-- The number of slots, empty ones included. -/
def slotCount (heap : Heap) : Nat :=
  heap.slots.size

/-- Whether enough has been allocated for a collection. -/
def collectionDue (heap : Heap) : Bool :=
  heap.threshold ≤ heap.allocated

/-- The id that the next allocation gives out. -/
def nextId (heap : Heap) : ObjectId :=
  heap.vacant.head?.getD heap.slots.size

/-- Place an object in the first vacant slot, or in a new one at the end. -/
def allocate (heap : Heap) (object : HeapObject) : ObjectId × Heap :=
  match heap.vacant with
  | id :: rest =>
      (id, { heap with
        slots := heap.slots.setIfInBounds id (some object)
        vacant := rest
        allocated := heap.allocated + 1 })
  | [] =>
      (heap.slots.size, { heap with
        slots := heap.slots.push (some object)
        allocated := heap.allocated + 1 })

/-- Change the object in a slot, if there is one. -/
def modify (heap : Heap) (id : ObjectId) (change : HeapObject → HeapObject) : Heap :=
  { heap with slots := heap.slots.modify id (Option.map change) }

theorem contains_iff {heap : Heap} {id : ObjectId} :
    heap.contains id ↔ ∃ object, heap.get? id = some object := by
  simp [contains, Option.isSome_iff_exists]

/-- Objects live below the number of slots. -/
theorem lt_slotCount_of_contains {heap : Heap} {id : ObjectId} (h : heap.contains id) :
    id < heap.slots.size := by
  obtain ⟨object, hobject⟩ := contains_iff.mp h
  by_cases hid : id < heap.slots.size
  · exact hid
  · rw [get?, Array.getElem?_eq_none (Nat.le_of_not_lt hid)] at hobject
    cases hobject

theorem mem_liveIds {heap : Heap} {id : ObjectId} :
    id ∈ heap.liveIds ↔ heap.contains id := by
  simp only [liveIds, List.mem_filter, List.mem_range]
  exact ⟨fun h => h.2, fun h => ⟨lt_slotCount_of_contains h, h⟩⟩

theorem allocate_fst (heap : Heap) (object : HeapObject) :
    (heap.allocate object).1 = heap.nextId := by
  cases h : heap.vacant <;> simp [allocate, nextId, h]

/-- An allocation fills the slot it gives out and leaves all others as they are. -/
theorem get?_allocate {heap : Heap} (object : HeapObject) (id : ObjectId)
    (inside : ∀ i ∈ heap.vacant, i < heap.slots.size) :
    (heap.allocate object).2.get? id =
      if id = heap.nextId then some object else heap.get? id := by
  cases h : heap.vacant with
  | nil =>
      simp only [allocate, nextId, get?, h, List.head?_nil, Option.getD_none]
      by_cases hid : id = heap.slots.size
      · simp [hid]
      · simp [Array.getElem?_push, hid]
  | cons first rest =>
      have hf : first < heap.slots.size := inside first (by simp [h])
      simp only [allocate, nextId, get?, h, List.head?_cons, Option.getD_some]
      by_cases hid : id = first
      · subst hid
        simp [hf]
      · simp [hid, Ne.symm hid]

/-- A change reaches only the slot it is made in. -/
theorem get?_modify (heap : Heap) (target id : ObjectId) (change : HeapObject → HeapObject) :
    (heap.modify target change).get? id =
      if id = target then (heap.get? id).map change else heap.get? id := by
  simp only [modify, get?, Array.getElem?_modify]
  by_cases hid : target = id
  · subst hid
    cases heap.slots[target]? with
    | none => simp
    | some slot => cases slot <;> simp
  · simp [hid, Ne.symm hid]

end Heap

end Metamodel
