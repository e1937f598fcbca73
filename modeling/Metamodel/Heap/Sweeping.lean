import Metamodel.Heap.Marking

/-!
# Sweeping

Sweeping empties the slot of every unmarked object, collects all empty slots and then cuts those
off the end of the row. Survivors keep their slots. The empty slots that are left are used again
from the highest to the lowest.
-/

namespace Metamodel

/-- What a collection kept and what it gave back. -/
structure Tally where
  live : Nat
  freed : Nat
  deriving DecidableEq, Inhabited

namespace Heap

/-- The slots with unmarked objects removed. -/
def markedSlots (heap : Heap) : Array (Option HeapObject) :=
  heap.slots.mapIdx fun id slot => if heap.isMarked id then slot else none

/-- The empty slots of a row, highest first. -/
def emptySlots (slots : Array (Option HeapObject)) : List ObjectId :=
  (List.range slots.size).reverse.filter fun id => slots[id]?.join.isNone

/-- How many objects a sweep keeps and how many it frees. -/
def tally (heap : Heap) : Tally where
  live := heap.liveIds.countP heap.isMarked
  freed := heap.liveIds.countP fun id => !heap.isMarked id

/-- Free the unmarked objects and set the pace for the next collection. -/
def sweep (heap : Heap) : Heap :=
  let swept := heap.markedSlots
  let slots := swept.popWhile Option.isNone
  { heap with
    slots
    vacant := (emptySlots swept).filter (· < slots.size)
    marks := .empty
    allocated := 0
    threshold := max (2 * heap.tally.live) heap.minThreshold }

/-- Keep what is reachable from the roots and free all else. -/
def collect (heap : Heap) (roots : List ObjectId) : Tally × Heap :=
  let marked := heap.markAll roots
  (marked.tally, marked.sweep)

theorem getElem?_markedSlots (heap : Heap) (id : ObjectId) :
    heap.markedSlots[id]?.join = if heap.isMarked id then heap.get? id else none := by
  simp only [markedSlots, get?, Array.getElem?_mapIdx]
  cases heap.slots[id]? with
  | none => simp
  | some slot => by_cases h : heap.isMarked id <;> simp [h]

/-- The empty slots of a row are those without an object, each once. -/
theorem mem_emptySlots {slots : Array (Option HeapObject)} {id : ObjectId} :
    id ∈ emptySlots slots ↔ id < slots.size ∧ slots[id]?.join = none := by
  simp [emptySlots]

/-- What is cut off the end of a row are empty slots. -/
theorem exists_popWhile_isNone (slots : Array (Option HeapObject)) :
    ∃ cut, slots.toList = (slots.popWhile Option.isNone).toList ++ List.replicate cut none := by
  obtain ⟨row⟩ := slots
  rw [List.popWhile_toArray]
  have parts := List.takeWhile_append_dropWhile (p := Option.isNone) (l := row.reverse)
  have whole : row = (row.reverse.dropWhile Option.isNone).reverse ++
      (row.reverse.takeWhile Option.isNone).reverse := by
    rw [← List.reverse_append, parts, List.reverse_reverse]
  have empty : ∀ slot ∈ (row.reverse.takeWhile Option.isNone).reverse, slot = none := by
    intro slot mem
    have := List.all_takeWhile (p := Option.isNone) (l := row.reverse)
    simpa using List.all_eq_true.mp this slot (List.mem_reverse.mp mem)
  exact ⟨_, whole.trans (congrArg _ (List.eq_replicate_of_mem empty))⟩

/-- Cutting empty slots off the end of a row leaves every object in its slot. -/
theorem getElem?_popWhile_isNone (slots : Array (Option HeapObject)) (id : ObjectId) :
    (slots.popWhile Option.isNone)[id]?.join = slots[id]?.join := by
  obtain ⟨cut, whole⟩ := exists_popWhile_isNone slots
  rw [← Array.getElem?_toList, ← Array.getElem?_toList, whole, List.getElem?_append]
  split
  · rfl
  · next outside =>
      rw [List.getElem?_eq_none (Nat.le_of_not_lt outside), List.getElem?_replicate]
      split <;> rfl

/-- A sweep keeps the marked objects where they are and nothing else. -/
theorem get?_sweep (heap : Heap) (id : ObjectId) :
    heap.sweep.get? id = if heap.isMarked id then heap.get? id else none := by
  have row : heap.sweep.get? id = (heap.markedSlots.popWhile Option.isNone)[id]?.join := rfl
  rw [row, getElem?_popWhile_isNone, getElem?_markedSlots]

end Heap

end Metamodel
