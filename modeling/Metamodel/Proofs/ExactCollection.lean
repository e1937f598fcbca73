import Mathlib.Data.List.DropRight
import Metamodel.Image.Collection
import Metamodel.Proofs.Slots
import Metamodel.Proofs.Tracing

/-!
# Exact collection

A collection keeps the objects that the roots reach, each in its slot and as it was, and nothing
else. It counts both kinds rightly, the order and the repetition of its roots do not matter, and
made a second time it changes nothing.

## Implementation notes

The marks decide which slots survive, and a sweep throws them away. Two collections are therefore
compared through what is marked and never through the marks themselves, which may be laid out
differently for the same members.
-/

namespace Metamodel

namespace Heap

variable {heap : Heap} {roots : List ObjectId} {id : ObjectId}

theorem get?_markAll : (heap.markAll roots).get? id = heap.get? id := rfl

/-- What the roots reach is kept as it is. -/
theorem get?_collect_of_reaches (reached : heap.Reaches roots id) :
    (heap.collect roots).2.get? id = heap.get? id := by
  rw [collect, get?_sweep, if_pos (isMarked_markAll_iff.mpr reached), get?_markAll]

/-- What the roots do not reach is gone. -/
theorem get?_collect_of_not_reaches (unreached : ¬ heap.Reaches roots id) :
    (heap.collect roots).2.get? id = none := by
  rw [collect, get?_sweep, if_neg fun marked => unreached (isMarked_markAll_iff.mp marked)]

theorem contains_collect_iff : (heap.collect roots).2.contains id ↔ heap.Reaches roots id := by
  constructor
  · intro live
    by_contra unreached
    rw [contains, get?_collect_of_not_reaches unreached] at live
    cases live
  · intro reached
    rw [contains, get?_collect_of_reaches reached]
    exact reached.contains

/-- What is still stored after a collection was reached and has not changed. -/
theorem get?_collect_eq_some_iff {object : HeapObject} :
    (heap.collect roots).2.get? id = some object ↔
      heap.Reaches roots id ∧ heap.get? id = some object := by
  constructor
  · intro stored
    have reached := contains_collect_iff.mp (contains_iff.mpr ⟨object, stored⟩)
    exact ⟨reached, get?_collect_of_reaches reached ▸ stored⟩
  · rintro ⟨reached, stored⟩
    rw [get?_collect_of_reaches reached, stored]

theorem tidy_collect (heap : Heap) (roots : List ObjectId) : (heap.collect roots).2.Tidy :=
  tidy_sweep _

/-- A sweep keeps as many objects as it counts as live. -/
theorem liveCount_sweep (heap : Heap) : heap.sweep.liveCount = heap.tally.live := by
  have same : heap.sweep.liveIds.Perm (heap.liveIds.filter heap.isMarked) := by
    refine (List.perm_ext_iff_of_nodup (nodup_liveIds _) ((nodup_liveIds _).filter _)).mpr ?_
    intro id
    rw [List.mem_filter, mem_liveIds, mem_liveIds, contains, get?_sweep]
    by_cases marked : heap.isMarked id <;> simp [marked, contains]
  rw [← length_liveIds, same.length_eq, tally, List.countP_eq_length_filter]

/-- Every object is either kept or freed. -/
theorem live_add_freed (heap : Heap) : heap.tally.live + heap.tally.freed = heap.liveCount := by
  rw [← length_liveIds, List.length_eq_countP_add_countP heap.isMarked]
  simp [tally]

/-- Marks with the same members have the same collection as outcome. -/
theorem collect_congr {others : List ObjectId}
    (same : ∀ id, heap.Reaches roots id ↔ heap.Reaches others id) :
    heap.collect roots = heap.collect others := by
  have marked : (heap.markAll roots).isMarked = (heap.markAll others).isMarked := by
    funext id
    rw [Bool.eq_iff_iff, isMarked_markAll_iff, isMarked_markAll_iff, same]
  have tallies : (heap.markAll roots).tally = (heap.markAll others).tally := by
    simp only [tally, marked]
    rfl
  have slots : (heap.markAll roots).markedSlots = (heap.markAll others).markedSlots := by
    simp only [markedSlots, marked]
    rfl
  simp only [collect, sweep, tallies, slots]
  rfl

theorem popWhile_popWhile {α : Type} (p : α → Bool) (row : Array α) :
    (row.popWhile p).popWhile p = row.popWhile p := by
  obtain ⟨items⟩ := row
  rw [List.popWhile_toArray, List.popWhile_toArray, List.reverse_reverse,
    List.dropWhile_idempotent]

/-- Where every object is marked a sweep empties no slot. -/
theorem markedSlots_eq_slots (all : ∀ id, heap.contains id → heap.isMarked id) :
    heap.markedSlots = heap.slots := by
  apply Array.ext
  · simp [markedSlots]
  · intro i h₁ h₂
    have view : heap.get? i = heap.slots[i] := by simp [get?, h₂]
    simp only [markedSlots, Array.getElem_mapIdx]
    split
    · rfl
    · next unmarked =>
        have empty := contains_eq_false_iff.mp (Bool.eq_false_iff.mpr fun live =>
          unmarked (all i live))
        rw [← view, empty]

/-- What survives a collection is reached again by the same roots. -/
theorem Reaches.after_collect (reached : heap.Reaches roots id) :
    (heap.collect roots).2.Reaches roots id := by
  induction reached with
  | root mem live => exact .root mem (contains_collect_iff.mpr (.root mem live))
  | step reached stored refers live ih =>
      refine .step ih (get?_collect_eq_some_iff.mpr ⟨reached, stored⟩) refers ?_
      exact contains_collect_iff.mpr (.step reached stored refers live)

/-- A second collection from the same roots keeps everything as the first one left it. -/
theorem collect_collect (heap : Heap) (roots : List ObjectId) :
    (heap.collect roots).2.collect roots =
      (⟨(heap.collect roots).1.live, 0⟩, (heap.collect roots).2) := by
  have all : ∀ id, (heap.collect roots).2.contains id →
      ((heap.collect roots).2.markAll roots).isMarked id := by
    intro id live
    exact isMarked_markAll_iff.mpr (contains_collect_iff.mp live).after_collect
  have slots : ((heap.collect roots).2.markAll roots).markedSlots.popWhile Option.isNone =
      (heap.collect roots).2.slots := by
    rw [markedSlots_eq_slots all]
    exact popWhile_popWhile _ _
  have vacant : emptySlots (heap.collect roots).2.slots = (heap.collect roots).2.vacant :=
    (vacant_sweep _).symm
  have live : ((heap.collect roots).2.markAll roots).tally.live =
      (heap.collect roots).1.live := by
    calc
      ((heap.collect roots).2.markAll roots).tally.live
          = (heap.collect roots).2.liveIds.length :=
        List.countP_eq_length.mpr fun id mem => all id (mem_liveIds.mp mem)
      _ = (heap.collect roots).2.liveCount := length_liveIds _
      _ = (heap.collect roots).1.live := liveCount_sweep _
  have freed : ((heap.collect roots).2.markAll roots).tally.freed = 0 := by
    refine List.countP_eq_zero.mpr fun id mem => ?_
    simp [all id (mem_liveIds.mp mem)]
  generalize hafter : (heap.collect roots).2 = after at slots vacant live freed ⊢
  have tally : (after.markAll roots).tally = ⟨(heap.collect roots).1.live, 0⟩ := by
    rw [← live, ← freed]
  simp only [collect, sweep, filter_emptySlots]
  simp only [slots, vacant, tally]
  subst hafter
  rfl

end Heap

namespace Image

open ImageM

variable [ReentrantMutex]

/-- What a collection does to an image: the heap is collected from the standing roots and the
given ones, and the outcome is reported. -/
theorem collect_apply (roots : List ObjectId) (image : Image) :
    collect roots image =
      .ok (image.heap.collect (image.standingRoots ++ roots)).1
        { image with
          heap := (image.heap.collect (image.standingRoots ++ roots)).2
          journal := image.journal.push <|
            .collected (image.heap.collect (image.standingRoots ++ roots)).1.live
              (image.heap.collect (image.standingRoots ++ roots)).1.freed
              (image.heap.collect (image.standingRoots ++ roots)).2.threshold } := by
  refine locked_eq_ok ?_
  rfl

/-- The same collection made again frees nothing and leaves the heap as it is. -/
theorem collect_again {image after : Image} {roots : List ObjectId} {tally : Tally}
    (first : collect roots image = .ok tally after) :
    ∃ again, collect roots after = .ok ⟨tally.live, 0⟩ again ∧ again.heap = after.heap := by
  have twice := Heap.collect_collect image.heap (image.standingRoots ++ roots)
  obtain ⟨nothing, kept⟩ := Prod.ext_iff.mp twice
  rw [collect_apply, EStateM.Result.ok.injEq] at first
  obtain ⟨rfl, rfl⟩ := first
  simp only [collect_apply, EStateM.Result.ok.injEq]
  exact ⟨_, ⟨nothing, rfl⟩, kept⟩

/-- A collection keeps exactly what the built-in classes, the pinned objects and the given roots
reach. Survivors keep their ids and records, all other ids denote nothing, the pins stay, and the
tally tells the survivors from the freed. Only the set of given roots matters, and the same
collection made again frees nothing and leaves the heap as it is. -/
theorem collect_exact (image : Image) (roots : List ObjectId) :
    ∃ tally after, collect roots image = .ok tally after ∧
      (∀ id, after.heap.contains id ↔
        image.heap.Reaches (image.builtins.toList ++ image.heap.pinned ++ roots) id) ∧
      (∀ id, after.heap.contains id → after.heap.get? id = image.heap.get? id) ∧
      (∀ id, ¬ after.heap.contains id → after.heap.find id = .error (.unknownObject id)) ∧
      after.heap.pins = image.heap.pins ∧
      tally.live = after.heap.liveCount ∧
      tally.freed = image.heap.liveCount - tally.live ∧ tally.live ≤ image.heap.liveCount ∧
      (∀ others, (∀ id, id ∈ others ↔ id ∈ roots) → collect others image = .ok tally after) ∧
      ∃ again, collect roots after = .ok ⟨tally.live, 0⟩ again ∧ again.heap = after.heap := by
  have counted := Heap.live_add_freed (image.heap.markAll (image.standingRoots ++ roots))
  refine ⟨_, _, collect_apply roots image, ?_, ?_, ?_, rfl, ?_, ?_, ?_, ?_, ?_⟩
  · intro id
    exact Heap.contains_collect_iff
  · intro id live
    exact Heap.get?_collect_of_reaches (Heap.contains_collect_iff.mp live)
  · intro id dead
    rw [Heap.find, Heap.contains_eq_false_iff.mp (Bool.eq_false_iff.mpr dead)]
  · exact (Heap.liveCount_sweep _).symm
  · exact Nat.eq_sub_of_add_eq' counted
  · exact Nat.le.intro counted
  · intro others same
    have reaches : ∀ id, image.heap.Reaches (image.standingRoots ++ roots) id ↔
        image.heap.Reaches (image.standingRoots ++ others) id := by
      intro id
      constructor <;> intro reached <;> refine reached.of_roots fun root mem live => .root ?_ live
      · simpa [same root] using mem
      · simpa [same root] using mem
    rw [collect_apply, Heap.collect_congr reaches]
  · exact collect_again (collect_apply roots image)

end Image

end Metamodel
