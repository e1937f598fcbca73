import Metamodel.CountingMutex
import Metamodel.Proofs.Stretches

/-!
# Thresholds

When a collection is due. A heap counts the objects that are placed in it since its last
collection, and a collection sets the count back to zero and the threshold to twice what it leaves.
So the work of a collection is paid for by the allocations since the one before it.
-/

namespace Metamodel

open Session

namespace Heap

/-- The objects that are there after a step and were not before. -/
def gained (before after : Heap) : List ObjectId :=
  after.liveIds.filter (!before.contains ·)

variable {before after : Heap} {ids : List ObjectId}

theorem Places.length_gained (places : before.Places ids after) :
    (before.gained after).length = ids.length := by
  refine List.Perm.length_eq ?_
  refine (List.perm_ext_iff_of_nodup ((nodup_liveIds after).filter _) places.nodup).mpr fun id => ?_
  rw [List.mem_filter, mem_liveIds, Bool.not_eq_true', places.mem_iff, and_comm]

theorem threshold_collect (heap : Heap) (roots : List ObjectId) :
    (heap.collect roots).2.threshold =
      max (2 * (heap.collect roots).2.liveCount) heap.minThreshold := by
  rw [collect, liveCount_sweep]
  rfl

/-- A collection is not due right after another one: the built-in classes are among those that it
leaves. -/
theorem WellFormed.not_due_of_swept {builtins : Builtins} (wf : before.WellFormed builtins)
    (none : before.allocated = 0) (large : 2 * before.liveCount ≤ before.threshold) :
    before.collectionDue = false := by
  have live := List.length_pos_of_mem (mem_liveIds.mpr wf.root_isOrdinary.contains)
  rw [length_liveIds] at live
  rw [collectionDue, none]
  exact decide_eq_false (by omega)

end Heap

/-- The number of objects that some steps have placed. -/
def Image.allocatedBy [ReentrantMutex] (steps : List (Image × Call ObjectId)) : Nat :=
  (steps.flatMap fun step => step.1.heap.gained (step.1.afterCalls [step.2]).heap).length

theorem Image.allocatedBy_cons [ReentrantMutex] (step : Image × Call ObjectId)
    (steps : List (Image × Call ObjectId)) :
    allocatedBy (step :: steps) = allocatedBy [step] + allocatedBy steps := by
  simp only [allocatedBy, List.flatMap_cons, List.length_append, List.flatMap_nil,
    List.append_nil]

namespace Session.Call

variable [ReentrantMutex] {image : Image} {call : Call ObjectId} {roots : List ObjectId}

/-- What a collection does to the pace. -/
theorem pace_of_collection (collects : call.collection? image = some roots) :
    (image.afterCalls [call]).heap.allocated = 0 ∧
      (image.afterCalls [call]).heap.minThreshold = image.heap.minThreshold ∧
      (image.afterCalls [call]).heap.threshold =
        max (2 * (image.afterCalls [call]).heap.liveCount) image.heap.minThreshold := by
  rw [heap_of_collection collects]
  exact ⟨rfl, rfl, Heap.threshold_collect _ _⟩

/-- What a call without a collection places is what its allocations give out. -/
theorem exists_allocated (tidy : image.heap.Tidy) (keeps : call.collection? image = none) :
    ∃ ids, image.heap.Fills ids (image.afterCalls [call]).heap ∧
      Image.allocatedBy [(image, call)] = ids.length := by
  obtain ⟨ids, fills⟩ := exists_fills tidy keeps
  refine ⟨ids, fills, ?_⟩
  rw [Image.allocatedBy, List.flatMap_singleton, (fills.places tidy).length_gained]

/-- What a call without a collection does to the pace: it counts what it places. -/
theorem pace_of_no_collection (tidy : image.heap.Tidy) (keeps : call.collection? image = none) :
    (image.afterCalls [call]).heap.allocated =
        image.heap.allocated + Image.allocatedBy [(image, call)] ∧
      (image.afterCalls [call]).heap.minThreshold = image.heap.minThreshold ∧
      (image.afterCalls [call]).heap.threshold = image.heap.threshold := by
  obtain ⟨ids, fills, placed⟩ := exists_allocated tidy keeps
  exact ⟨placed ▸ (fills.places tidy).allocated, fills.minThreshold, fills.threshold⟩

end Session.Call

namespace Image.Trail

variable [ReentrantMutex] {settings : Settings} {calls : List (Call ObjectId)} {image after : Image}
  {steps : List (Image × Call ObjectId)}

/-- No call changes the least threshold. -/
theorem minThreshold (trail : image.Trail steps after) (reached : Reached settings calls image) :
    after.heap.minThreshold = image.heap.minThreshold := by
  induction trail generalizing calls with
  | nil => rfl
  | @call image after steps call _ ih =>
      refine (ih (reached.afterCalls [call])).trans ?_
      cases collects : call.collection? image with
      | none => exact (Call.pace_of_no_collection reached.wellFormed.tidy collects).2.1
      | some roots => exact (Call.pace_of_collection collects).2.1
  | aside lock journal _ ih => exact ih (reached.aside lock journal)

/-- Up to the next collection everything that is placed is counted. -/
theorem pace_of_uncollected (trail : image.Trail steps after)
    (reached : Reached settings calls image) (quiet : Image.Uncollected steps) :
    after.heap.allocated = image.heap.allocated + Image.allocatedBy steps ∧
      after.heap.threshold = image.heap.threshold := by
  induction trail generalizing calls with
  | nil => exact ⟨rfl, rfl⟩
  | @call image after steps call _ ih =>
      obtain ⟨first, others⟩ := List.forall_mem_cons.mp quiet
      obtain ⟨counted, _, kept⟩ := Call.pace_of_no_collection reached.wellFormed.tidy first
      obtain ⟨counted', kept'⟩ := ih (reached.afterCalls [call]) others
      refine ⟨?_, kept'.trans kept⟩
      rw [counted', counted, Nat.add_assoc, ← Image.allocatedBy_cons]
  | aside lock journal _ ih => exact ih (reached.aside lock journal) quiet

/-- A collection starts a new count, up to a threshold that depends on what it leaves. -/
theorem pace_since_collection {earlier later : List (Image × Call ObjectId)} {before : Image}
    {call : Call ObjectId} {roots : List ObjectId} (first : Reached settings calls image)
    (trail : image.Trail (earlier ++ (before, call) :: later) after)
    (collects : call.collection? before = some roots) :
    (before.afterCalls [call]).heap.collectionDue = false ∧
      (Image.Uncollected later →
        after.heap.threshold = max image.heap.minThreshold
            (2 * (before.afterCalls [call]).heap.liveCount) ∧
          after.heap.allocated = Image.allocatedBy later) := by
  obtain ⟨way, rest⟩ := trail.split
  obtain ⟨_, reached⟩ := way.reached first
  have reached' := reached.afterCalls [call]
  obtain ⟨none, _, threshold⟩ := Call.pace_of_collection collects
  rw [way.minThreshold first, max_comm] at threshold
  refine ⟨reached'.wellFormed.not_due_of_swept none (threshold ▸ le_max_right _ _), ?_⟩
  intro quiet
  obtain ⟨counted, kept⟩ := rest.pace_of_uncollected reached' quiet
  rw [none, Nat.zero_add] at counted
  exact ⟨kept.trans threshold, counted⟩

/-- On every way from a start a collection is due exactly when as many objects have been placed
since the last one as the threshold says. Before the first collection all objects count, those of
the start included, and the threshold is that of the settings; after a collection it is twice the
number of survivors, or the least one of the settings if that is larger. A collection that is made
if due is the whole one when it is due, and otherwise nothing. So none is due right after another
one, and one that was due comes after at least twice as many allocations as the one before it has
left objects. -/
theorem collections_paced (trail : image.Trail steps after)
    (started : Image.start settings = .ok image) :
    (Image.Uncollected steps →
      after.heap.threshold = settings.threshold ∧
        (after.heap.collectionDue ↔ settings.threshold ≤
          ((Heap.empty settings).gained image.heap).length + Image.allocatedBy steps)) ∧
      (∀ earlier before call roots later, steps = earlier ++ (before, call) :: later →
        call.collection? before = some roots →
        let swept := (before.afterCalls [call]).heap
        let threshold := max settings.minThreshold (2 * swept.liveCount)
        swept.collectionDue = false ∧
          (Image.Uncollected later →
            after.heap.threshold = threshold ∧
              (after.heap.collectionDue ↔ threshold ≤ Image.allocatedBy later))) ∧
      (∀ step ∈ steps, step.2.collection? step.1 = none →
        ∃ ids, step.1.heap.Fills ids (step.1.afterCalls [step.2]).heap ∧
          Image.allocatedBy [step] = ids.length) ∧
      (∀ roots,
        (after.heap.collectionDue → ∃ tally left, Image.collect roots after = .ok tally left ∧
          Image.collectIfDue roots after = .ok (some tally) left) ∧
        (after.heap.collectionDue = false →
          Image.collectIfDue roots after = .ok none after)) ∧
      (∀ earlier before call roots between again given later,
        steps = earlier ++ (before, call) :: (between ++ (again, .collectIfDue given) :: later) →
        call.collection? before = some roots → Image.Uncollected between →
        again.heap.collectionDue →
          2 * (before.afterCalls [call]).heap.liveCount ≤ Image.allocatedBy between) ∧
      ∀ script ends bindings, image.Trail (steps ++ Script.steps ends script ⟨after, bindings⟩)
        (script.run ends ⟨after, bindings⟩).state.image := by
  have first := Reached.start started
  have due : ∀ heap : Heap, heap.collectionDue ↔ heap.threshold ≤ heap.allocated :=
    fun heap => decide_eq_true_iff
  have pace : image.heap.allocated = ((Heap.empty settings).gained image.heap).length ∧
      image.heap.threshold = settings.threshold ∧
      image.heap.minThreshold = settings.minThreshold := by
    rw [Image.start_eq] at started
    cases started
    exact ⟨rfl, rfl, rfl⟩
  obtain ⟨placed, threshold, least⟩ := pace
  refine ⟨?_, ?_, ?_, ?_, ?_, ?_⟩
  · intro quiet
    obtain ⟨counted, kept⟩ := trail.pace_of_uncollected first quiet
    rw [due, counted, kept, threshold, placed]
    exact ⟨rfl, .rfl⟩
  · rintro earlier before call roots later rfl collects swept
    obtain ⟨early, since⟩ := trail.pace_since_collection first collects
    refine ⟨early, fun quiet => ?_⟩
    obtain ⟨kept, counted⟩ := since quiet
    rw [due, counted, kept, least]
    exact ⟨rfl, .rfl⟩
  · intro step mem keeps
    obtain ⟨_, reached⟩ := trail.exists_reached first mem
    exact Call.exists_allocated reached.wellFormed.tidy keeps
  · intro roots
    rw [Image.collectIfDue_apply]
    refine ⟨fun isDue => ⟨_, _, Image.collect_apply roots after, ?_⟩, fun early => ?_⟩
    · rw [if_pos isDue, ImageM.map_apply, Image.collect_apply]
    · rw [early]
      rfl
  · rintro earlier before call roots between again given later rfl collects quiet isDue
    -- the part of the trail up to the later collection ends in the image that it is made on
    rw [← List.cons_append, ← List.append_assoc] at trail
    obtain ⟨_, since⟩ := trail.split.1.pace_since_collection first collects
    obtain ⟨kept, counted⟩ := since quiet
    rw [due, counted, kept] at isDue
    exact (le_max_right _ _).trans isDue
  · intro script ends bindings
    exact trail.trans (script.trail_run ends ⟨after, bindings⟩)

end Image.Trail

/-- The case of a first threshold of twelve and a least one of a hundred. One instance besides the
eleven objects of the start makes a collection due, and the next one is due after a hundred
allocations. -/
theorem Image.Trail.collections_paced_newObject : ∃ settings image made after,
    Image.start settings = .ok image ∧
      image.Trail [(image, .newObject 5), (made, .collectIfDue [])] after ∧
      settings.threshold = 12 ∧ made.heap.collectionDue ∧
      after.heap.threshold = 100 ∧ after.heap.collectionDue = false := by
  obtain ⟨settings, isSettings⟩ : ∃ settings : Settings, settings = ⟨0, 12, 100⟩ := ⟨_, rfl⟩
  obtain ⟨made, isMade⟩ : ∃ made, made = (Image.first settings).afterCalls [.newObject 5] :=
    ⟨_, rfl⟩
  have started := Image.start_eq settings
  have trail : (Image.first settings).Trail [(.first settings, .newObject 5)] made :=
    isMade ▸ .single _ _
  have few : made.heap.liveCount ≤ 50 := by
    rw [isMade, isSettings]
    decide +kernel
  have due : made.heap.collectionDue := by
    obtain ⟨before, _⟩ := trail.collections_paced started
    have quiet : Image.Uncollected [(Image.first settings, .newObject 5)] := by
      simp [Image.Uncollected, Call.collection?]
    rw [(before quiet).2, isSettings]
    decide +kernel
  have collects : Call.collection? made (.collectIfDue []) = some [] := if_pos due
  have trail' := trail.trans (.single made (.collectIfDue []))
  obtain ⟨_, since, _⟩ := trail'.collections_paced started
  obtain ⟨early, kept⟩ := since [_] made _ [] [] rfl collects
  refine ⟨settings, _, made, _, started, trail', isSettings ▸ rfl, due, ?_, early⟩
  have fewer : (made.afterCalls [.collectIfDue []]).heap.liveCount ≤ made.heap.liveCount := by
    rw [Call.heap_of_collection collects, Heap.collect, Heap.liveCount_sweep]
    exact Nat.le.intro (Heap.live_add_freed (made.heap.markAll _))
  rw [(kept (List.forall_mem_nil _)).1, isSettings]
  have small : 2 * (made.afterCalls [.collectIfDue []]).heap.liveCount ≤ 100 := by omega
  exact max_eq_left small

end Metamodel
