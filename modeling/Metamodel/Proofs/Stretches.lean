import Metamodel.Proofs.Pinning

/-!
# Stretches without collections

What a run does from one collection to the next. It frees nothing, so the heap at its start and the
number of its allocations determine which ids it gives out: those of the vacant slots in their
order, and then those of new slots, one after another. The pace of collections is not touched.
-/

namespace Metamodel

open Session

namespace Heap

/-- The ids that allocations in a row give out: those of the vacant slots, and when they are used
up those of new slots at the end. -/
def upcoming (heap : Heap) (count : Nat) : List ObjectId :=
  heap.vacant.take count ++ List.range' heap.slotCount (count - heap.vacant.length)

variable {before after : Heap} {ids : List ObjectId}

/-- What a row of allocations places is what is there afterwards and was not before. -/
theorem Places.mem_iff (places : before.Places ids after) (id : ObjectId) :
    id ∈ ids ↔ before.contains id = false ∧ after.contains id := by
  rw [places.contains_iff]
  constructor
  · exact fun placed => ⟨places.fresh id placed, .inr placed⟩
  · rintro ⟨dead, live | placed⟩
    · exact absurd (dead.symm.trans live) Bool.false_ne_true
    · exact placed

theorem vacant_allocate (heap : Heap) (object : HeapObject) :
    (heap.allocate object).2.vacant = heap.vacant.tail := by
  unfold Heap.allocate
  split
  · next vacant => rw [vacant, List.tail_cons]
  · next vacant => rw [vacant, List.tail_nil]

theorem slotCount_allocate (heap : Heap) (object : HeapObject) :
    (heap.allocate object).2.slotCount = heap.slotCount + (1 - heap.vacant.length) := by
  unfold Heap.allocate slotCount
  split
  · next vacant => simp [vacant]
  · next vacant => simp [vacant]

theorem threshold_allocate (heap : Heap) (object : HeapObject) :
    (heap.allocate object).2.threshold = heap.threshold := by
  unfold Heap.allocate
  split <;> rfl

theorem minThreshold_allocate (heap : Heap) (object : HeapObject) :
    (heap.allocate object).2.minThreshold = heap.minThreshold := by
  unfold Heap.allocate
  split <;> rfl

/-- One id more is the one that is given out after the others. -/
theorem upcoming_succ {heap next : Heap} {count : Nat}
    (vacant : next.vacant = heap.vacant.drop count)
    (slots : next.slotCount = heap.slotCount + (count - heap.vacant.length)) :
    heap.upcoming (count + 1) = heap.upcoming count ++ [next.nextId] := by
  rw [nextId, vacant, List.head?_drop, upcoming, upcoming]
  by_cases inside : count < heap.vacant.length
  · have none : count + 1 - heap.vacant.length = 0 := by omega
    have none' : count - heap.vacant.length = 0 := by omega
    rw [none, none', List.take_add_one, List.getElem?_eq_getElem inside]
    simp
  · have all : heap.vacant.length ≤ count := Nat.le_of_not_lt inside
    rw [List.getElem?_eq_none all, List.take_of_length_le all,
      List.take_of_length_le (Nat.le_succ_of_le all), Nat.succ_sub all, List.range'_concat,
      List.append_assoc, Nat.one_mul]
    exact congrArg (fun last => heap.vacant ++ (List.range' _ _ ++ [last])) slots.symm

namespace Fills

/-- What a row of allocations leaves of the vacant slots, and how many new ones it adds. -/
theorem vacant_and_slotCount (fills : before.Fills ids after) :
    after.vacant = before.vacant.drop ids.length ∧
      after.slotCount = before.slotCount + (ids.length - before.vacant.length) := by
  induction fills with
  | refl => simp
  | @allocate middle ids object _ _ _ ih =>
      obtain ⟨vacant, slots⟩ := ih
      have length : middle.vacant.length = before.vacant.length - ids.length := by
        rw [vacant, List.length_drop]
      rw [vacant_allocate, slotCount_allocate, vacant, slots, List.tail_drop, ← vacant, length,
        List.length_append, List.length_singleton]
      exact ⟨rfl, by omega⟩
  | modify id change _ ih => simpa [Heap.modify, slotCount] using ih
  | repin pins _ ih => exact ih

/-- The ids that a row of allocations gives out are determined by their number. -/
theorem eq_upcoming (fills : before.Fills ids after) : ids = before.upcoming ids.length := by
  induction fills with
  | refl => simp [upcoming]
  | allocate object earlier _ _ ih =>
      obtain ⟨vacant, slots⟩ := earlier.vacant_and_slotCount
      rw [List.length_append, List.length_singleton, upcoming_succ vacant slots, ← ih,
        allocate_fst]
  | modify _ _ _ ih => exact ih
  | repin _ _ ih => exact ih

theorem threshold (fills : before.Fills ids after) : after.threshold = before.threshold := by
  induction fills with
  | refl => rfl
  | allocate object _ _ _ ih => exact (threshold_allocate _ object).trans ih
  | modify _ _ _ ih => exact ih
  | repin _ _ ih => exact ih

theorem minThreshold (fills : before.Fills ids after) :
    after.minThreshold = before.minThreshold := by
  induction fills with
  | refl => rfl
  | allocate object _ _ _ ih => exact (minThreshold_allocate _ object).trans ih
  | modify _ _ _ ih => exact ih
  | repin _ _ ih => exact ih

end Fills

end Heap

/-- A call that makes no collection only allocates and changes in place. -/
theorem Session.Call.exists_fills [ReentrantMutex] {image : Image} {call : Call ObjectId}
    (tidy : image.heap.Tidy) (keeps : call.collection? image = none) :
    ∃ ids, image.heap.Fills ids (image.afterCalls [call]).heap := by
  rw [Image.afterCalls_singleton]
  cases collects : call.collects with
  | false => exact orderly collects image tidy
  | true =>
      cases call with
      | collect roots => cases keeps
      | collectIfDue roots =>
          -- a collection that is not due leaves the image as it is
          rw [collection?] at keeps
          split_ifs at keeps with due
          rw [perform, ImageM.leaves_map, ImageM.leaves, Image.collectIfDue_apply, if_neg due]
          exact ⟨[], .refl⟩
      | _ => cases collects

/-- Steps none of which makes a collection. -/
def Image.Uncollected [ReentrantMutex] (steps : List (Image × Call ObjectId)) : Prop :=
  ∀ step ∈ steps, step.2.collection? step.1 = none

namespace Image.Trail

variable [ReentrantMutex] {image before after : Image}
  {earlier later steps : List (Image × Call ObjectId)}
  {call : Call ObjectId}

/-- A trail leads up to each of its steps and goes on from there. -/
theorem split (trail : image.Trail (earlier ++ (before, call) :: later) after) :
    image.Trail earlier before ∧ (before.afterCalls [call]).Trail later after := by
  generalize all : earlier ++ (before, call) :: later = steps at trail
  induction trail generalizing earlier with
  | nil => cases earlier <;> cases all
  | @call image after steps next trail ih =>
      cases earlier with
      | nil =>
          cases all
          exact ⟨.nil before, trail⟩
      | cons step earlier =>
          obtain ⟨rfl, rest⟩ := List.cons.inj all
          obtain ⟨first, second⟩ := ih rest
          exact ⟨.call next first, second⟩
  | aside lock journal _ ih =>
      obtain ⟨first, second⟩ := ih all
      exact ⟨.aside lock journal first, second⟩

/-- What a trail without collections comes to. -/
theorem exists_fills (trail : image.Trail steps after) (tidy : image.heap.Tidy)
    (quiet : Image.Uncollected steps) : ∃ ids, image.heap.Fills ids after.heap := by
  induction trail with
  | nil => exact ⟨[], .refl⟩
  | call call _ ih =>
      obtain ⟨first, others⟩ := List.forall_mem_cons.mp quiet
      obtain ⟨ids, fills⟩ := Call.exists_fills tidy first
      obtain ⟨more, fills'⟩ := ih (fills.tidy tidy) others
      exact ⟨ids ++ more, fills.trans fills'⟩
  | aside lock journal _ ih => exact ih tidy quiet

/-- Every step of a trail is made on an image that can be reached. -/
theorem exists_reached {settings : Settings} {calls : List (Call ObjectId)}
    (trail : image.Trail steps after) (reached : Reached settings calls image)
    {step : Image × Call ObjectId} (mem : step ∈ steps) :
    ∃ calls, Reached settings calls step.1 := by
  obtain ⟨_, _, rfl⟩ := List.append_of_mem mem
  exact trail.split.1.reached reached

end Image.Trail

end Metamodel
