import Metamodel.CountingMutex
import Metamodel.Proofs.Stretches

/-!
# The layout of slots

Where the objects are after a collection, and where the next ones go. The row of slots ends with a
survivor. The empty slots below it are used again from the highest to the lowest, and only then is
the row lengthened. A run that has not collected yet has no empty slots at all.
-/

namespace Metamodel

open Session

namespace Heap

variable {heap : Heap} {builtins : Builtins}

/-- Every slot is either in use or vacant. -/
theorem Tidy.slotCount_eq (tidy : heap.Tidy) :
    heap.slotCount = heap.liveCount + heap.vacant.length := by
  have apart : (heap.liveIds ++ heap.vacant).Nodup := by
    refine List.nodup_append.mpr ⟨nodup_liveIds heap, tidy.nodup, ?_⟩
    rintro id live _ vacant rfl
    have empty := contains_eq_false_iff.mpr ((tidy.mem_vacant id).mp vacant).2
    exact Bool.false_ne_true (empty.symm.trans (mem_liveIds.mp live))
  have all : (List.range heap.slots.size).Perm (heap.liveIds ++ heap.vacant) := by
    refine (List.perm_ext_iff_of_nodup List.nodup_range apart).mpr fun id => ?_
    rw [List.mem_range, List.mem_append, mem_liveIds, tidy.mem_vacant,
      ← contains_eq_false_iff]
    constructor
    · intro inside
      cases live : heap.contains id with
      | true => exact .inl rfl
      | false => exact .inr ⟨inside, rfl⟩
    · rintro (live | ⟨inside, _⟩)
      · exact lt_slotCount_of_contains live
      · exact inside
  have counted := all.length_eq
  rwa [List.length_range, List.length_append, length_liveIds] at counted

/-- The row of slots that a sweep leaves is empty or ends with an object. -/
theorem contains_last_sweep (heap : Heap) {last : ObjectId}
    (ends : heap.sweep.slotCount = last + 1) : heap.sweep.contains last := by
  have row : heap.sweep.slots = heap.markedSlots.popWhile Option.isNone := rfl
  generalize heap.markedSlots = marked at row
  obtain ⟨items⟩ := marked
  rw [List.popWhile_toArray] at row
  have size : (items.reverse.dropWhile Option.isNone).length = last + 1 := by
    rw [← ends, slotCount, row, List.size_toArray, List.length_reverse]
  -- the row ends with the first object from the end of the marked slots
  have nonempty : items.reverse.dropWhile Option.isNone ≠ [] :=
    List.ne_nil_of_length_eq_add_one size
  have first := List.head_dropWhile_not Option.isNone nonempty
  rw [contains, get?, row, List.getElem?_toArray, List.getElem?_reverse (by omega), size,
    Nat.add_sub_cancel, Nat.sub_self, ← List.head?_eq_getElem?,
    List.head?_eq_some_head nonempty, Option.join_some, ← Option.not_isNone, first]
  rfl

/-- The vacant slots that a sweep leaves are in falling order. -/
theorem pairwise_vacant_sweep (heap : Heap) : heap.sweep.vacant.Pairwise (· > ·) :=
  ((List.pairwise_reverse.mpr List.pairwise_lt_range).filter _).filter _

/-- A collection that keeps the built-in classes leaves a row that ends with a survivor. -/
theorem WellFormed.exists_last_collect {roots : List ObjectId}
    (wf : (heap.collect roots).2.WellFormed builtins) :
    ∃ last, (heap.collect roots).2.contains last ∧
      (∀ id, (heap.collect roots).2.contains id → id ≤ last) ∧
      (heap.collect roots).2.slotCount = last + 1 := by
  have inside := lt_slotCount_of_contains wf.root_isOrdinary.contains
  obtain ⟨last, ends⟩ := Nat.exists_eq_add_one.mpr (Nat.zero_lt_of_lt inside)
  refine ⟨last, contains_last_sweep _ ends, ?_, ends⟩
  intro id live
  exact Nat.le_of_lt_succ ((lt_slotCount_of_contains live).trans_eq ends)

end Heap

/-- In every reachable image the slots are those in use and the vacant ones. After a collection the
last slot holds the survivor with the largest id. Whatever is called from then on, until the next
collection, the allocations take the empty slots below it from the highest to the lowest, each
once, and then new slots, one after another at the end. Before the first collection they take new
slots only, from the end of those of the built-in classes. -/
theorem Reached.slot_layout [ReentrantMutex] {settings : Settings} {calls : List (Call ObjectId)}
    {image : Image} (reached : Reached settings calls image) :
    image.heap.slotCount = image.heap.liveCount + image.heap.vacant.length ∧
      (∀ call roots, Call.collection? image call = some roots →
        let swept := image.afterCalls [call]
        (∃ last, swept.heap.contains last ∧ (∀ id, swept.heap.contains id → id ≤ last) ∧
          swept.heap.slotCount = last + 1) ∧
        ∃ free : List ObjectId, free.Pairwise (· > ·) ∧
          (∀ id, id ∈ free ↔ id < swept.heap.slotCount ∧ swept.heap.contains id = false) ∧
          ∀ steps after, swept.Trail steps after → Image.Uncollected steps →
            ∃ ids, swept.heap.Fills ids after.heap ∧
              ids = free.take ids.length ++
                List.range' swept.heap.slotCount (ids.length - free.length)) ∧
      ∀ first steps after, Image.start settings = .ok first → first.Trail steps after →
        Image.Uncollected steps → ∃ ids, first.heap.Fills ids after.heap ∧
          ids = List.range' first.heap.slotCount ids.length := by
  refine ⟨reached.wellFormed.tidy.slotCount_eq, ?_, ?_⟩
  · intro call roots collects swept
    have wf := (reached.afterCalls [call]).wellFormed
    have tidy := wf.tidy
    have isSwept : swept.heap = (image.heap.collect (image.standingRoots ++ roots)).2 :=
      Call.heap_of_collection collects
    refine ⟨?_, swept.heap.vacant, ?_, ?_, ?_⟩
    · rw [isSwept]
      exact (isSwept ▸ wf).exists_last_collect
    · rw [isSwept]
      exact Heap.pairwise_vacant_sweep _
    · intro id
      rw [tidy.mem_vacant, Heap.contains_eq_false_iff]
      rfl
    · intro steps after trail quiet
      obtain ⟨ids, fills⟩ := trail.exists_fills tidy quiet
      exact ⟨ids, fills, fills.eq_upcoming⟩
  · intro first steps after started trail quiet
    obtain ⟨ids, fills⟩ := trail.exists_fills (Reached.start started).wellFormed.tidy quiet
    have full : first.heap.vacant = [] := by
      rw [Image.start_eq] at started
      cases started
      rfl
    have row := fills.eq_upcoming
    rw [Heap.upcoming, full, List.take_nil, List.nil_append, List.length_nil, Nat.sub_zero] at row
    exact ⟨ids, fills, row⟩

/-- What no object refers to is reached only as a root. -/
theorem Heap.Reaches.mem_roots {heap : Heap} {roots : List ObjectId} {id : ObjectId}
    (reaches : heap.Reaches roots id)
    (apart : ∀ source < heap.slotCount, id ∉ heap.referencesOf source) : id ∈ roots := by
  cases reaches with
  | root mem _ => exact mem
  | step _ stored refers _ =>
      have inside := lt_slotCount_of_contains (contains_iff.mpr ⟨_, stored⟩)
      exact absurd (mem_referencesOf.mpr ⟨_, stored, refers⟩) (apart _ inside)

/-- A row in falling order begins with its largest member. -/
theorem exists_eq_cons_of_falling {ids : List ObjectId} {id : ObjectId}
    (falling : ids.Pairwise (· > ·)) (mem : id ∈ ids) (largest : ∀ other ∈ ids, other ≤ id) :
    ∃ rest, ids = id :: rest := by
  cases ids with
  | nil => cases mem
  | cons first rest =>
      rcases List.mem_cons.mp mem with rfl | later
      · exact ⟨rest, rfl⟩
      · have above := List.rel_of_pairwise_cons falling later
        exact absurd (largest first List.mem_cons_self) (Nat.not_le_of_gt above)

/-- The case of three instances of which a collection keeps the last, in slot 13. The slots of the
other two are the first to be used again, the higher one before the lower one. -/
theorem Reached.slot_layout_collect : ∃ image swept rest,
    Reached .standard [.newObject 5, .newObject 5, .newObject 5] image ∧
      swept = image.afterCalls [.collect [13]] ∧ swept.heap.slotCount = 14 ∧
      ∀ steps after, swept.Trail steps after → Image.Uncollected steps →
        ∃ ids, swept.heap.Fills ids after.heap ∧
          ids = (12 :: 11 :: rest).take ids.length ++
            List.range' 14 (ids.length - (12 :: 11 :: rest).length) := by
  obtain ⟨image, isImage⟩ : ∃ image, image =
    (Image.first .standard).afterCalls [.newObject 5, .newObject 5, .newObject 5] := ⟨_, rfl⟩
  obtain ⟨swept, isSwept⟩ : ∃ swept, swept = image.afterCalls [.collect [13]] := ⟨_, rfl⟩
  have reached : Reached .standard [.newObject 5, .newObject 5, .newObject 5] image :=
    isImage ▸ Reached.afterFirst .standard _
  have size : image.heap.slotCount = 14 ∧ image.heap.contains 13 := by
    rw [isImage]
    decide +kernel
  have roots : image.standingRoots = [0, 3, 5, 8] := by
    rw [isImage]
    decide +kernel
  have apart : ∀ id ∈ [11, 12], ∀ source < image.heap.slotCount,
      id ∉ image.heap.referencesOf source := by
    rw [isImage]
    decide +kernel
  have kept : ∀ id, swept.heap.contains id ↔ image.heap.Reaches [0, 3, 5, 8, 13] id := by
    intro id
    rw [isSwept, Call.heap_of_collection rfl, roots]
    exact Heap.contains_collect_iff
  obtain ⟨_, layout, _⟩ := Reached.slot_layout reached
  obtain ⟨⟨last, isLast, largest, ends⟩, free, falling, isFree, next⟩ :=
    layout (.collect [13]) [13] rfl
  rw [← isSwept] at isLast largest ends isFree next
  -- the last slot was the last one before, and its object is kept
  have atMost := Heap.lt_slotCount_of_contains ((kept last).mp isLast).contains
  have atLeast := largest 13 ((kept 13).mpr (.root (by decide) size.2))
  have isThirteen : last = 13 :=
    Nat.le_antisymm (Nat.le_of_lt_succ (atMost.trans_eq size.1)) atLeast
  have slots : swept.heap.slotCount = 14 := by rw [ends, isThirteen]
  have freed : ∀ id ∈ [11, 12], id ∈ free := by
    intro id mem
    refine (isFree id).mpr ⟨?_, Bool.eq_false_iff.mpr fun live => ?_⟩
    · rw [slots]
      revert id
      decide
    · have isRoot := ((kept id).mp live).mem_roots (apart id mem)
      clear live
      revert id
      decide
  have below : ∀ id ∈ free, id ≤ 12 := by
    intro id mem
    obtain ⟨inside, dead⟩ := (isFree id).mp mem
    rw [slots] at inside
    have ne : id ≠ 13 := by
      rintro rfl
      rw [(kept 13).mpr (.root (by decide) size.2)] at dead
      cases dead
    exact Nat.le_of_lt_succ (Nat.lt_of_le_of_ne (Nat.le_of_lt_succ inside) ne)
  obtain ⟨lower, rfl⟩ := exists_eq_cons_of_falling falling (freed 12 (by decide)) below
  obtain ⟨less, falling⟩ := List.pairwise_cons.mp falling
  have second := (List.mem_cons.mp (freed 11 (by decide))).resolve_left (by decide)
  obtain ⟨rest, rfl⟩ := exists_eq_cons_of_falling falling second
    fun id mem => Nat.le_of_lt_succ (less id mem)
  rw [slots] at next
  exact ⟨image, swept, rest, reached, isSwept, slots, next⟩

end Metamodel
