import Metamodel.CountingMutex
import Metamodel.Proofs.Composition
import Metamodel.Proofs.Histories

/-!
# Allocation

An operation that is no collection places its objects in empty slots one after another and changes
others in place. So each allocation gives out an id that denotes nothing before it, what is stored
stays where it is, and no two allocations of a run without collections give out the same id.

## Implementation notes

The operations are followed step by step in the form in which they run (`ImageM.Orderly`), refused
ones as well, so that nothing depends on what they achieve.
-/

namespace Metamodel

open Session

namespace Heap

/-- A row of allocations and changes in place, with the ids that the allocations give out. Each of
them is the id of an empty slot, and no stored object is overwritten. -/
inductive Fills (before : Heap) : List ObjectId → Heap → Prop
  | refl : Fills before [] before
  | allocate {middle : Heap} {ids : List ObjectId} (object : HeapObject) :
      Fills before ids middle → middle.get? (middle.allocate object).1 = none →
      (∀ id stored, middle.get? id = some stored →
        (middle.allocate object).2.get? id = some stored) →
      Fills before (ids ++ [(middle.allocate object).1]) (middle.allocate object).2
  | modify {middle : Heap} {ids : List ObjectId} (id : ObjectId)
      (change : HeapObject → HeapObject) :
      Fills before ids middle → Fills before ids (middle.modify id change)
  | repin {middle : Heap} {ids : List ObjectId} (pins : PinTable) :
      Fills before ids middle → Fills before ids { middle with pins }

/-- What a row of allocations and changes in place comes to: the ids are distinct, none of them is
in use before, and afterwards they are in use besides those that were. -/
structure Places (before : Heap) (ids : List ObjectId) (after : Heap) : Prop where
  nodup : ids.Nodup
  fresh : ∀ id ∈ ids, before.contains id = false
  contains_iff : ∀ id, after.contains id ↔ before.contains id ∨ id ∈ ids
  allocated : after.allocated = before.allocated + ids.length

variable {before middle after : Heap} {ids more : List ObjectId}

theorem allocated_allocate (heap : Heap) (object : HeapObject) :
    (heap.allocate object).2.allocated = heap.allocated + 1 := by
  unfold Heap.allocate
  split <;> rfl

namespace Fills

theorem trans (first : before.Fills ids middle) (second : middle.Fills more after) :
    before.Fills (ids ++ more) after := by
  induction second with
  | refl => rwa [List.append_nil]
  | allocate object _ vacant kept ih =>
      rw [← List.append_assoc]
      exact ih.allocate object vacant kept
  | modify id change _ ih => exact ih.modify id change
  | repin pins _ ih => exact ih.repin pins

theorem tidy (fills : before.Fills ids after) (tidy : before.Tidy) : after.Tidy := by
  induction fills with
  | refl => exact tidy
  | allocate object _ _ _ ih => exact ih.allocate object
  | modify id change _ ih => exact ih.modify id change
  | repin pins _ ih => exact ih.of_slots rfl rfl

/-- One allocation, while the vacant list is in order. -/
theorem single (tidy : before.Tidy) (object : HeapObject) :
    before.Fills [(before.allocate object).1] (before.allocate object).2 := by
  refine .allocate object .refl ?_ ?_
  · rw [allocate_fst]
    exact tidy.get?_nextId
  · intro id stored live
    rw [tidy.get?_allocate, if_neg (tidy.ne_nextId live), live]

theorem places (fills : before.Fills ids after) (tidy : before.Tidy) : before.Places ids after := by
  induction fills with
  | refl => exact ⟨List.nodup_nil, by simp, by simp, rfl⟩
  | @allocate middle ids object earlier vacant _ ih =>
      have unused : middle.contains (middle.allocate object).1 = false :=
        contains_eq_false_iff.mpr vacant
      have used := ih.contains_iff (middle.allocate object).1
      rw [unused] at used
      have apart := not_or.mp fun mem => Bool.false_ne_true (used.mpr mem)
      refine ⟨?_, ?_, ?_, ?_⟩
      · rw [List.nodup_append_comm]
        exact List.nodup_cons.mpr ⟨apart.2, ih.nodup⟩
      · intro id mem
        rcases List.mem_append.mp mem with old | new
        · exact ih.fresh id old
        · rw [List.mem_singleton.mp new]
          exact Bool.of_not_eq_true apart.1
      · intro id
        rw [(earlier.tidy tidy).contains_allocate, ih.contains_iff, List.mem_append,
          List.mem_singleton, allocate_fst, or_assoc]
      · rw [allocated_allocate, ih.allocated, List.length_append, List.length_singleton,
          Nat.add_assoc]
  | modify id change _ ih =>
      exact ⟨ih.nodup, ih.fresh, fun other => by rw [contains_modify, ih.contains_iff],
        ih.allocated⟩
  | repin pins _ ih => exact ⟨ih.nodup, ih.fresh, ih.contains_iff, ih.allocated⟩

end Fills

end Heap

namespace ImageM

variable [ReentrantMutex] {α β : Type} {act : ImageM α}

/-- An operation that only allocates and changes in place, be it answered or refused. -/
def Orderly (act : ImageM α) : Prop :=
  ∀ image : Image, image.heap.Tidy → ∃ ids, image.heap.Fills ids (act.leaves image).heap

namespace Orderly

theorem of_same (same : ∀ image : Image, (act.leaves image).heap = image.heap) : Orderly act := by
  intro image _
  exact ⟨[], by rw [same]; exact .refl⟩

protected theorem pure (value : α) : Orderly (pure value : ImageM α) := of_same fun _ => rfl

protected theorem throw (fault : Fault) : Orderly (throw fault : ImageM α) := of_same fun _ => rfl

protected theorem ask (query : Heap → Except Fault α) : Orderly (ask query) := by
  apply of_same
  intro image
  unfold leaves ask
  cases query image.heap <;> rfl

protected theorem view (look : Heap → α) : Orderly (view look) := of_same fun _ => rfl

protected theorem builtinClasses : Orderly builtinClasses := of_same fun _ => rfl

protected theorem emit (event : Event) : Orderly (emit event) := of_same fun _ => rfl

protected theorem allocate (object : HeapObject) : Orderly (allocate object) :=
  fun _ tidy => ⟨_, Heap.Fills.single tidy object⟩

protected theorem change (id : ObjectId) (edit : HeapObject → HeapObject) :
    Orderly (change id edit) :=
  fun _ _ => ⟨[], .modify id edit .refl⟩

/-- What orderly operations are made of in a row is orderly. -/
protected theorem bind {next : α → ImageM β} (first : Orderly act)
    (rest : ∀ value, Orderly (next value)) : Orderly (act >>= next) := by
  intro image tidy
  obtain ⟨ids, fills⟩ := first image tidy
  unfold leaves at fills ⊢
  rw [bind_apply]
  cases ran : act image with
  | error fault after =>
      rw [ran] at fills
      exact ⟨ids, fills⟩
  | ok value after =>
      rw [ran] at fills
      obtain ⟨more, fills'⟩ := rest value after (fills.tidy tidy)
      exact ⟨ids ++ more, fills.trans fills'⟩

protected theorem map (f : α → β) (orderly : Orderly act) : Orderly (f <$> act) := by
  intro image tidy
  rw [leaves_map]
  exact orderly image tidy

protected theorem locked (orderly : Orderly act) : Orderly (locked act) := by
  intro image tidy
  obtain ⟨ids, fills⟩ := orderly image.held tidy
  refine ⟨ids, ?_⟩
  unfold leaves at fills ⊢
  unfold locked
  cases ran : act image.held with
  | ok value after => simpa only [ran] using fills
  | error fault after => simpa only [ran] using fills

/-- What is composed of orderly steps is orderly. -/
theorem of_composed (composed : Composed act) : Orderly act := by
  induction composed with
  | answer value => exact .pure value
  | refusal fault => exact .throw fault
  | ask _ => exact .ask _
  | view _ => exact .view _
  | builtinClasses => exact .builtinClasses
  | allocate object => exact .allocate object
  | change id edit => exact .change id edit
  | emit event _ => exact .emit event
  | bind _ _ first rest => exact first.bind rest
  | map f _ ih => exact ih.map f
  | locked _ ih => exact ih.locked

protected theorem pin (object : ObjectId) : Orderly (Image.pin object) := by
  intro image _
  refine leaves_of_conclude (Image.pin_apply object image)
    (fun heap => ∃ ids, image.heap.Fills ids heap) ⟨[], .refl⟩ ?_
  intro heap pinned
  obtain ⟨_, rfl⟩ := Heap.pin_eq_ok_iff.mp pinned
  exact ⟨[], .repin _ .refl⟩

protected theorem unpin (object : ObjectId) : Orderly (Image.unpin object) := by
  apply Orderly.locked
  intro image _
  refine ⟨[], ?_⟩
  change image.heap.Fills [] (image.heap.unpin object).2
  unfold Heap.unpin
  split
  · exact .refl
  · exact .repin _ .refl

end Orderly

end ImageM

namespace Session.Call

variable [ReentrantMutex]

/-- Whether a call may make a collection. -/
def collects {ρ : Type} : Call ρ → Bool
  | .collect _ | .collectIfDue _ => true
  | _ => false

/-- Every call that is no collection only allocates and changes in place. -/
theorem orderly {call : Call ObjectId} (keeps : call.collects = false) : call.perform.Orderly := by
  cases call with
  | collect roots => cases keeps
  | collectIfDue roots => cases keeps
  | pin object => exact .map _ (.pin object)
  | unpin object => exact .map _ (.unpin object)
  | inspect question object => exact .locked (.ask _)
  | survey question => exact .locked (.view _)
  | isLocked => exact .of_same fun _ => rfl
  | tryLock contender => exact .of_same fun _ => rfl
  | _ => exact .of_composed (composed_perform rfl)

variable {image : Image} {call : Call ObjectId}

/-- Such a call keeps every object, which can only evolve. -/
theorem grows (keeps : call.collects = false) (wf : image.heap.WellFormed image.builtins) :
    image.heap.Grows (image.afterCalls [call]).heap := by
  obtain ⟨ids, fills⟩ := orderly keeps image wf.tidy
  rw [← Image.afterCalls_singleton] at fills
  intro id old stored
  have live : (image.afterCalls [call]).heap.contains id :=
    ((fills.places wf.tidy).contains_iff id).mpr (.inl (Heap.contains_iff.mpr ⟨old, stored⟩))
  obtain ⟨new, stored'⟩ := Heap.contains_iff.mp live
  exact ⟨new, stored', (call.continues wf).evolves stored stored'⟩

/-- A collection places nothing and leaves the survivors as they are. -/
theorem get?_of_collects (collects : call.collects) {id : ObjectId} {object : HeapObject}
    (survives : (image.afterCalls [call]).heap.get? id = some object) :
    image.heap.get? id = some object := by
  have of_collect : ∀ roots, ((Image.collect roots).leaves image).heap.get? id = some object →
      image.heap.get? id = some object := by
    intro roots survives
    rw [ImageM.leaves_of_ok (Image.collect_apply roots image)] at survives
    exact (Heap.get?_collect_eq_some_iff.mp survives).2
  rw [Image.afterCalls_singleton] at survives
  cases call with
  | collect roots =>
      rw [perform, ImageM.leaves_map] at survives
      exact of_collect roots survives
  | collectIfDue roots =>
      rw [perform, ImageM.leaves_map, ImageM.leaves, Image.collectIfDue_apply] at survives
      split_ifs at survives with due
      · rw [ImageM.map_apply] at survives
        exact of_collect roots survives
      · exact survives
  | _ => cases collects

end Session.Call

/-- A row of calls that are no collections is a row of allocations and changes in place. -/
theorem Image.fills_afterCalls [ReentrantMutex] {image : Image} (tidy : image.heap.Tidy)
    {calls : List (Call ObjectId)} (keep : ∀ call ∈ calls, call.collects = false) :
    ∃ ids, image.heap.Fills ids (image.afterCalls calls).heap := by
  induction calls generalizing image with
  | nil => exact ⟨[], .refl⟩
  | cons call rest ih =>
      obtain ⟨first, others⟩ := List.forall_mem_cons.mp keep
      obtain ⟨ids, fills⟩ := Call.orderly first image tidy
      obtain ⟨more, fills'⟩ := ih (fills.tidy tidy) others
      rw [afterCalls_cons]
      exact ⟨ids ++ more, fills.trans fills'⟩

section Run

variable [ReentrantMutex] {settings : Settings} {calls : List (Call ObjectId)} {image : Image}

theorem Reached.grows_afterCalls (reached : Reached settings calls image)
    {more : List (Call ObjectId)} (keep : ∀ call ∈ more, call.collects = false) :
    image.heap.Grows (image.afterCalls more).heap := by
  induction more generalizing image calls with
  | nil => exact .refl _
  | cons call rest ih =>
      obtain ⟨first, others⟩ := List.forall_mem_cons.mp keep
      rw [Image.afterCalls_cons, ← Image.afterCalls_singleton]
      exact (Call.grows first reached.wellFormed).trans (ih (reached.afterCalls [call]) others)

end Run

/-- In every reachable image the vacant list names each empty slot once and nothing else. Calls
that are no collections keep every object under its id. All that they allocate, be they answered
or refused, be it classes, singleton classes, instances or names, goes to slots that are empty at
that moment and overwrites nothing, so the ids given out in one call, or in a row of them, are
distinct and denote nothing before. A collection places nothing and leaves the survivors as they
are. -/
theorem Reached.slot_discipline [ReentrantMutex] {settings : Settings}
    {calls : List (Call ObjectId)} {image : Image} (reached : Reached settings calls image) :
    (∀ id, id ∈ image.heap.vacant ↔
      id < image.heap.slotCount ∧ image.heap.contains id = false) ∧
      image.heap.vacant.Nodup ∧
      (∀ more, (∀ call ∈ more, Call.collects call = false) →
        image.heap.Grows (image.afterCalls more).heap ∧
          ∃ ids, image.heap.Fills ids (image.afterCalls more).heap ∧
            image.heap.Places ids (image.afterCalls more).heap) ∧
      ∀ call id object, Call.collects call →
        (image.afterCalls [call]).heap.get? id = some object →
        image.heap.get? id = some object := by
  have tidy := reached.wellFormed.tidy
  refine ⟨?_, tidy.nodup, ?_, ?_⟩
  · intro id
    rw [tidy.mem_vacant, Heap.contains_eq_false_iff]
    rfl
  · intro more keep
    obtain ⟨ids, fills⟩ := Image.fills_afterCalls tidy keep
    exact ⟨reached.grows_afterCalls keep, ids, fills, fills.places tidy⟩
  · intro call id object collects survives
    exact Call.get?_of_collects collects survives

/-- The case of one class derived with a name, at the start: it goes to slot 11, its singleton
class to slot 12 and its name to slot 13. -/
theorem Reached.slot_discipline_subclass : ∃ ids,
    (∀ call ∈ [Call.subclass 5 "A" none], call.collects = false) ∧
      (Image.first .standard).heap.Fills ids
        ((Image.first .standard).afterCalls [.subclass 5 "A" none]).heap ∧
      ids.Nodup ∧ ids.length = 3 ∧ 11 ∈ ids ∧ 12 ∈ ids ∧ 13 ∈ ids := by
  let image := Image.first .standard
  let after := image.afterCalls [.subclass 5 "A" none]
  have keep : ∀ call ∈ [Call.subclass 5 "A" none], call.collects = false := by simp [Call.collects]
  have counted : after.heap.allocated = image.heap.allocated + 3 := by decide +kernel
  have placed : ∀ id ∈ [11, 12, 13], after.heap.contains id ∧ ¬ image.heap.contains id := by
    decide +kernel
  obtain ⟨_, _, rows, _⟩ := Reached.slot_discipline (.first .standard)
  obtain ⟨_, ids, fills, places⟩ := rows _ keep
  have mem : ∀ id ∈ [11, 12, 13], id ∈ ids := fun id new =>
    ((places.contains_iff id).mp (placed id new).1).resolve_left (placed id new).2
  have total : ids.length = 3 := Nat.add_left_cancel (places.allocated.symm.trans counted)
  exact ⟨ids, keep, fills, places.nodup, total, mem 11 (by simp), mem 12 (by simp),
    mem 13 (by simp)⟩

end Metamodel
