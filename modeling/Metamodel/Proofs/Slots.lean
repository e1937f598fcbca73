import Mathlib.Data.List.Nodup
import Mathlib.Data.List.Perm.Subperm
import Mathlib.Data.List.Range
import Metamodel.Heap.Sweeping

/-!
# Slot discipline

The vacant list of a heap names every empty slot once and nothing else. Allocations, changes in
place and sweeps keep it so, and while it holds an allocation never touches a slot in use.
-/

namespace Metamodel.Heap

/-- The vacant list names the empty slots, each once. -/
structure Tidy (heap : Heap) : Prop where
  mem_vacant : ∀ id, id ∈ heap.vacant ↔ id < heap.slots.size ∧ heap.get? id = none
  nodup : heap.vacant.Nodup

variable {heap : Heap}

theorem get?_eq_none_of_size_le {id : ObjectId} (h : heap.slots.size ≤ id) :
    heap.get? id = none := by
  rw [get?, Array.getElem?_eq_none h]
  rfl

theorem contains_eq_false_iff {id : ObjectId} : heap.contains id = false ↔ heap.get? id = none := by
  rw [contains, Option.isSome_eq_false_iff, Option.isNone_iff_eq_none]

/-- An id denotes one class at most. -/
theorem classRecord_inj {id : ObjectId} {first second : ClassRecord}
    (h₁ : heap.get? id = some (.classRecord first))
    (h₂ : heap.get? id = some (.classRecord second)) : first = second :=
  HeapObject.classRecord.inj (Option.some.inj (h₁.symm.trans h₂))

theorem tidy_empty (settings : Settings) : (empty settings).Tidy where
  mem_vacant := by simp [empty]
  nodup := List.nodup_nil

/-- Only the slots and the vacant list matter. -/
theorem Tidy.of_slots {after : Heap} (tidy : heap.Tidy) (slots : after.slots = heap.slots)
    (vacant : after.vacant = heap.vacant) : after.Tidy where
  mem_vacant := by
    intro id
    simpa only [slots, vacant, get?] using tidy.mem_vacant id
  nodup := vacant ▸ tidy.nodup

theorem Tidy.vacant_lt (tidy : heap.Tidy) : ∀ id ∈ heap.vacant, id < heap.slots.size :=
  fun id mem => ((tidy.mem_vacant id).mp mem).1

/-- The slot given out next is empty. -/
theorem Tidy.get?_nextId (tidy : heap.Tidy) : heap.get? heap.nextId = none := by
  cases h : heap.vacant with
  | nil =>
      simp only [nextId, h, List.head?_nil, Option.getD_none]
      exact get?_eq_none_of_size_le (Nat.le_refl _)
  | cons first rest =>
      simp only [nextId, h, List.head?_cons, Option.getD_some]
      exact ((tidy.mem_vacant first).mp (by simp [h])).2

theorem Tidy.ne_nextId (tidy : heap.Tidy) {id : ObjectId} {object : HeapObject}
    (live : heap.get? id = some object) : id ≠ heap.nextId := by
  intro e
  rw [e, tidy.get?_nextId] at live
  cases live

theorem Tidy.get?_allocate (tidy : heap.Tidy) (object : HeapObject) (id : ObjectId) :
    (heap.allocate object).2.get? id = if id = heap.nextId then some object else heap.get? id :=
  Heap.get?_allocate object id tidy.vacant_lt

theorem Tidy.allocate (tidy : heap.Tidy) (object : HeapObject) :
    (heap.allocate object).2.Tidy := by
  have view := tidy.get?_allocate object
  cases h : heap.vacant with
  | nil =>
      have next : heap.nextId = heap.slots.size := by simp [nextId, h]
      refine ⟨fun id => ?_, by simp [Heap.allocate, h]⟩
      rw [view, next]
      simp only [Heap.allocate, h, List.not_mem_nil, false_iff, Array.size_push, not_and]
      intro below none
      split at none
      · cases none
      · next ne =>
          have inside := Nat.lt_of_le_of_ne (Nat.lt_succ_iff.mp below) ne
          have vacant := (tidy.mem_vacant id).mpr ⟨inside, none⟩
          simp [h] at vacant
  | cons first rest =>
      have next : heap.nextId = first := by simp [nextId, h]
      have nodup := h ▸ tidy.nodup
      refine ⟨fun id => ?_, by simpa [Heap.allocate, h] using (List.nodup_cons.mp nodup).2⟩
      rw [view, next]
      simp only [Heap.allocate, h, Array.size_setIfInBounds]
      by_cases hid : id = first
      · simpa [hid] using (List.nodup_cons.mp nodup).1
      · rw [if_neg hid, ← tidy.mem_vacant id, h, List.mem_cons, or_iff_right hid]

theorem Tidy.contains_allocate (tidy : heap.Tidy) (object : HeapObject) (id : ObjectId) :
    (heap.allocate object).2.contains id ↔ heap.contains id ∨ id = heap.nextId := by
  rw [contains, tidy.get?_allocate]
  split
  · next here => simp [here]
  · next ne => simp [contains, ne]

theorem get?_modify_eq_none_iff {target id : ObjectId} {change : HeapObject → HeapObject} :
    (heap.modify target change).get? id = none ↔ heap.get? id = none := by
  rw [get?_modify]
  split <;> simp

theorem contains_modify (heap : Heap) (target id : ObjectId) (change : HeapObject → HeapObject) :
    (heap.modify target change).contains id = heap.contains id := by
  rw [contains, contains, get?_modify]
  split
  · rw [Option.isSome_map]
  · rfl

theorem Tidy.modify (tidy : heap.Tidy) (target : ObjectId) (change : HeapObject → HeapObject) :
    (heap.modify target change).Tidy where
  mem_vacant := by
    intro id
    rw [get?_modify_eq_none_iff]
    simpa [Heap.modify] using tidy.mem_vacant id
  nodup := tidy.nodup

/-- The empty slots that are collected before the end of the row is cut off, and lie below the new
end, are the empty slots of the row that is left. -/
theorem filter_emptySlots (slots : Array (Option HeapObject)) :
    (emptySlots slots).filter (· < (slots.popWhile Option.isNone).size) =
      emptySlots (slots.popWhile Option.isNone) := by
  obtain ⟨cut, whole⟩ := exists_popWhile_isNone slots
  have size : slots.size = (slots.popWhile Option.isNone).size + cut := by
    have lengths := congrArg List.length whole
    rwa [List.length_append, List.length_replicate, Array.length_toList,
      Array.length_toList] at lengths
  have same : (fun id : ObjectId => slots[id]?.join.isNone) =
      fun id => (slots.popWhile Option.isNone)[id]?.join.isNone := by
    funext id
    rw [getElem?_popWhile_isNone]
  have below (size : Nat) : (List.range (size + cut)).filter (· < size) = List.range size := by
    rw [List.range_add, List.filter_append, List.filter_eq_self.mpr (by simp),
      List.filter_eq_nil_iff.mpr (by simp), List.append_nil]
  rw [emptySlots, List.filter_comm, List.filter_reverse, size, below, same]
  rfl

theorem vacant_sweep (heap : Heap) : heap.sweep.vacant = emptySlots heap.sweep.slots :=
  filter_emptySlots heap.markedSlots

/-- A sweep leaves the vacant list in order, whatever it was before. -/
theorem tidy_sweep (heap : Heap) : heap.sweep.Tidy where
  mem_vacant := by
    intro id
    rw [vacant_sweep]
    exact mem_emptySlots
  nodup := ((List.nodup_reverse.mpr List.nodup_range).filter _).filter _

theorem nodup_liveIds (heap : Heap) : heap.liveIds.Nodup :=
  List.nodup_range.filter _

/-- The row of slots, read slot by slot. -/
theorem toList_slots (heap : Heap) :
    heap.slots.toList = (List.range heap.slotCount).map heap.get? := by
  apply List.ext_getElem
  · simp [slotCount]
  · intro i h₁ h₂
    have hi : i < heap.slots.size := by simpa using h₁
    simp [get?, hi]

/-- Every object is counted once. -/
theorem length_liveIds (heap : Heap) : heap.liveIds.length = heap.liveCount := by
  rw [liveIds, ← List.countP_eq_length_filter, liveCount, ← Array.countP_toList, toList_slots,
    List.countP_map]
  rfl

/-- A row of distinct objects is no longer than the row of slots. -/
theorem length_le_slotCount {ids : List ObjectId} (distinct : ids.Nodup)
    (live : ∀ id ∈ ids, heap.contains id) : ids.length ≤ heap.slotCount := by
  have inside : ids ⊆ List.range heap.slots.size := by
    intro id mem
    exact List.mem_range.mpr (lt_slotCount_of_contains (live id mem))
  have short := (distinct.subperm inside).length_le
  rwa [List.length_range] at short

end Metamodel.Heap
