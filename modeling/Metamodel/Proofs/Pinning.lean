import Metamodel.CountingMutex
import Metamodel.Proofs.Bodies

/-!
# Pinned objects

Pins are counted call by call: the number of pins on an id is the number of calls that have placed
one less the number of calls that have taken one back, and nothing else changes it. What a pinned
object leads to is never collected. So the pins on an id are those on the object that it has denoted
ever since the first of them was placed.
-/

namespace Metamodel

open Session ImageM

namespace Session.Call

variable [ReentrantMutex]

/-- Whether a step pins an object: a call to do so that is answered. -/
def pins (id : ObjectId) (step : Image × Call ObjectId) : Bool :=
  match step.2, step.2.perform step.1 with
  | .pin object, .ok _ _ => object == id
  | _, _ => false

/-- Whether a step takes back a pin: a call to do so that is answered with true. -/
def unpins (id : ObjectId) (step : Image × Call ObjectId) : Bool :=
  match step.2, step.2.perform step.1 with
  | .unpin object, .ok (.flag true) _ => object == id
  | _, _ => false

variable {image : Image} {id object : ObjectId}

theorem keeps_pins_locked {α : Type} {act : ImageM α} (keeps : Keeps (·.heap.pins) act) :
    Keeps (·.heap.pins) (locked act) := by
  intro image
  rw [leaves_locked]
  exact keeps image.held

theorem keeps_pins_of_composed {α : Type} {act : ImageM α} (composed : Composed act) :
    Keeps (·.heap.pins) act :=
  .of_composed composed (fun _ _ => Heap.pins_allocate _ _) (fun _ _ _ => rfl) (fun _ _ => rfl)
    keeps_pins_locked

/-- Only pins and their withdrawal change what is pinned. -/
theorem keeps_pins {call : Call ObjectId} (other : ∀ object, call ≠ .pin object)
    (other' : ∀ object, call ≠ .unpin object) : Keeps (·.heap.pins) call.perform := by
  cases call with
  | collect roots =>
      refine .map _ fun image => ?_
      rw [leaves_of_ok (Image.collect_apply roots image)]
      rfl
  | collectIfDue roots =>
      refine .map _ fun image => ?_
      unfold leaves
      rw [Image.collectIfDue_apply]
      cases image.heap.collectionDue <;> rfl
  | pin object => exact absurd rfl (other object)
  | unpin object => exact absurd rfl (other' object)
  | inspect question object => exact keeps_pins_locked (.ask _)
  | survey question => exact keeps_pins_locked (.view _)
  | isLocked => exact fun _ => rfl
  | tryLock contender => exact fun _ => rfl
  | _ => exact keeps_pins_of_composed (composed_perform rfl)

/-- A pin is placed on an object that is there. -/
theorem pin_of_contains (live : image.heap.contains object) :
    Image.pin object image = .ok () (image.extend
      { image.heap with pins := image.heap.pins.increment object } []) := by
  rw [Image.pin_apply]
  exact image.conclude_of_ok (Heap.pin_eq_ok_iff.mpr ⟨live, rfl⟩)

theorem pin_of_not_contains (dead : image.heap.contains object = false) :
    Image.pin object image = .error (.unknownObject object) image := by
  have unknown : image.heap.pin object = .error (.unknownObject object) := by
    rw [Heap.pin, Heap.find, Heap.contains_eq_false_iff.mp dead]
    rfl
  rw [Image.pin_apply]
  exact image.conclude_of_error unknown

theorem pins_pin : pins id (image, .pin object) = (image.heap.contains object && object == id) := by
  unfold pins
  cases live : image.heap.contains object with
  | true => simp [perform, map_apply, pin_of_contains live]
  | false => simp [perform, map_apply, pin_of_not_contains live]

/-- A pin is taken back from an id that has one. -/
theorem perform_unpin (image : Image) (object : ObjectId) :
    perform (.unpin object) image = .ok (.flag (0 < image.heap.pinCount object))
      (image.extend (image.heap.unpin object).2 []) := by
  have flag : (image.heap.unpin object).1 = decide (0 < image.heap.pinCount object) := by
    unfold Heap.unpin
    by_cases none : image.heap.pinCount object = 0 <;> simp [none, Nat.pos_iff_ne_zero]
  rw [perform, map_apply, Image.unpin_apply, flag]

theorem unpins_unpin :
    unpins id (image, .unpin object) =
      (decide (0 < image.heap.pinCount object) && object == id) := by
  unfold unpins
  simp only [perform_unpin]
  by_cases positive : 0 < image.heap.pinCount object <;> simp [positive]

theorem pinCount_pin (image : Image) (object id : ObjectId) :
    (image.afterCalls [.pin object]).heap.pinCount id =
      image.heap.pinCount id + (pins id (image, .pin object)).toNat := by
  rw [Image.afterCalls_singleton, perform, leaves_map, pins_pin]
  cases live : image.heap.contains object with
  | true =>
      rw [leaves_of_ok (pin_of_contains live)]
      change (image.heap.pins.increment object).count id = _
      rw [PinTable.count_increment]
      by_cases same : id = object
      · subst same
        simp [Heap.pinCount]
      · simp [same, Ne.symm same, Heap.pinCount]
  | false =>
      rw [leaves_of_error (pin_of_not_contains live)]
      rfl

theorem pinCount_unpin (image : Image) (object id : ObjectId) :
    (image.afterCalls [.unpin object]).heap.pinCount id +
        (unpins id (image, .unpin object)).toNat = image.heap.pinCount id := by
  rw [Image.afterCalls_singleton, perform, leaves_map,
    leaves_of_ok (Image.unpin_apply object image), unpins_unpin]
  change (image.heap.unpin object).2.pinCount id + _ = _
  rw [Heap.pinCount_unpin]
  by_cases same : id = object
  · subst same
    by_cases none : image.heap.pinCount id = 0
    · simp [none]
    · have positive := Nat.pos_of_ne_zero none
      rw [if_pos rfl, decide_eq_true positive, beq_self_eq_true]
      exact Nat.sub_add_cancel positive
  · simp [same, Ne.symm same]

theorem pins_of_ne {call : Call ObjectId} (other : ∀ object, call ≠ .pin object) :
    pins id (image, call) = false := by
  cases call with
  | pin object => exact absurd rfl (other object)
  | _ => rfl

theorem unpins_of_ne {call : Call ObjectId} (other : ∀ object, call ≠ .unpin object) :
    unpins id (image, call) = false := by
  cases call with
  | unpin object => exact absurd rfl (other object)
  | _ => rfl

/-- A step that pins an id is a call to pin the object that it denotes. -/
theorem eq_pin_of_pins {call : Call ObjectId} (placed : pins id (image, call)) :
    call = .pin id ∧ image.heap.contains id := by
  cases call with
  | pin object =>
      rw [pins_pin, Bool.and_eq_true, beq_iff_eq] at placed
      obtain ⟨live, rfl⟩ := placed
      exact ⟨rfl, live⟩
  | _ => cases placed

/-- What one call does to the number of pins on an id. -/
theorem pinCount_afterCalls (image : Image) (call : Call ObjectId) (id : ObjectId) :
    (image.afterCalls [call]).heap.pinCount id + (unpins id (image, call)).toNat =
      image.heap.pinCount id + (pins id (image, call)).toNat := by
  by_cases isPin : ∃ object, call = .pin object
  · obtain ⟨object, rfl⟩ := isPin
    have other : ∀ target, Call.pin object ≠ .unpin target := fun _ => nofun
    rw [unpins_of_ne other, pinCount_pin]
    rfl
  · by_cases isUnpin : ∃ object, call = .unpin object
    · obtain ⟨object, rfl⟩ := isUnpin
      have other : ∀ target, Call.unpin object ≠ .pin target := fun _ => nofun
      rw [pins_of_ne other, pinCount_unpin]
      rfl
    · have other := not_exists.mp isPin
      have other' := not_exists.mp isUnpin
      rw [pins_of_ne other, unpins_of_ne other', Image.afterCalls_singleton]
      exact congrArg (PinTable.count · id) (keeps_pins other other' image)

/-- A call spares what a pinned object leads to: if it makes a collection, the pinned objects are
among the roots. -/
theorem spares_of_pinned (call : Call ObjectId) {target : ObjectId}
    (pinned : id ∈ image.heap.pinned) (leads : image.heap.Reaches [id] target) :
    image.Spares call target := by
  intro roots _
  refine leads.of_roots fun root mem live => .root ?_ live
  rw [List.mem_singleton.mp mem]
  exact List.mem_append_left _ (List.mem_append_right _ pinned)

end Session.Call

namespace HeapObject

theorem lasting_evolves (old : HeapObject) : Lasting old.Evolves :=
  fun _ _ further earlier => earlier.trans further

end HeapObject

namespace Image.Trail

variable [ReentrantMutex] {settings : Settings} {calls : List (Call ObjectId)} {image after : Image}
  {steps : List (Image × Call ObjectId)} {id : ObjectId}

/-- A trail leads from a reachable image to a reachable one. -/
theorem reached (trail : image.Trail steps after) (reached : Reached settings calls image) :
    ∃ calls, Reached settings calls after := by
  induction trail generalizing calls with
  | nil => exact ⟨calls, reached⟩
  | call call _ ih => exact ih (reached.afterCalls [call])
  | aside lock journal _ ih => exact ih (reached.aside lock journal)

/-- The pins on an id are those that it had and those placed on the way, less those taken back. -/
theorem pinCount_add (trail : image.Trail steps after) (id : ObjectId) :
    after.heap.pinCount id + steps.countP (Call.unpins id) =
      image.heap.pinCount id + steps.countP (Call.pins id) := by
  induction trail with
  | nil => rfl
  | @call image after steps call _ ih =>
      have first := Call.pinCount_afterCalls image call id
      have counted : ∀ p : Image × Call ObjectId → Bool,
          ((image, call) :: steps).countP p = steps.countP p + (p (image, call)).toNat := by
        intro p
        rw [List.countP_cons]
        cases p (image, call) <;> rfl
      rw [counted, counted]
      omega
  | aside lock journal _ ih => exact ih

end Image.Trail

/-- An object that is pinned in each of some images, where it is what has become of `old`. -/
def Image.StaysPinned [ReentrantMutex] (images : List Image) (id : ObjectId)
    (old : HeapObject) : Prop :=
  ∀ image ∈ images, 0 < image.heap.pinCount id ∧ image.heap.Has id old.Evolves

theorem Image.StaysPinned.of_evolves [ReentrantMutex] {images : List Image} {id : ObjectId}
    {old new : HeapObject} (stays : Image.StaysPinned images id new) (evolves : old.Evolves new) :
    Image.StaysPinned images id old := by
  intro image mem
  obtain ⟨pinned, has⟩ := stays image mem
  exact ⟨pinned, has.imp fun _ further => evolves.trans further⟩

/-- The pins on an id go back to a step that found it without any. The object that it denoted at
that step is there and pinned ever since. -/
structure Image.PinnedSince [ReentrantMutex] (steps : List (Image × Call ObjectId)) (after : Image)
    (id : ObjectId)
    (before : Image) (later : List (Image × Call ObjectId)) (old : HeapObject) : Prop where
  step : ∃ earlier, steps = earlier ++ (before, .pin id) :: later
  unpinned : before.heap.pinCount id = 0
  stored : before.heap.get? id = some old
  stays : Image.StaysPinned (later.map Prod.fst ++ [after]) id old
  counted : after.heap.pinCount id + later.countP (Call.unpins id) =
    1 + later.countP (Call.pins id)

namespace Image.Trail

variable [ReentrantMutex] {settings : Settings} {calls : List (Call ObjectId)} {image after : Image}
  {steps : List (Image × Call ObjectId)} {id : ObjectId}

/-- An object that is pinned after a trail has been pinned all along or since a step of it. -/
theorem pinned_since (trail : image.Trail steps after) (reached : Reached settings calls image)
    (pinned : 0 < after.heap.pinCount id) :
    (∃ old, image.heap.get? id = some old ∧ 0 < image.heap.pinCount id ∧
      Image.StaysPinned (steps.map Prod.fst ++ [after]) id old) ∨
    ∃ before later old, Image.PinnedSince steps after id before later old := by
  induction trail generalizing calls with
  | nil image =>
      obtain ⟨old, stored⟩ := Heap.contains_iff.mp (reached.wellFormed.pinned pinned)
      refine .inl ⟨old, stored, pinned, ?_⟩
      exact List.forall_mem_singleton.mpr ⟨pinned, old, stored, .refl old⟩
  | @call image after steps call trail ih =>
      have wf := reached.wellFormed
      rcases ih (reached.afterCalls [call]) pinned with ⟨new, stored', positive, stays⟩ | since
      · have first := Call.pinCount_afterCalls image call id
        by_cases had : 0 < image.heap.pinCount id
        · obtain ⟨old, stored⟩ := Heap.contains_iff.mp (wf.pinned had)
          have stays := stays.of_evolves ((call.continues wf).evolves stored stored')
          refine .inl ⟨old, stored, had, List.forall_mem_cons.mpr ⟨?_, stays⟩⟩
          exact ⟨had, old, stored, .refl old⟩
        · -- the call has placed the first pin
          have unpinned : image.heap.pinCount id = 0 := Nat.eq_zero_of_not_pos had
          have placed : Call.pins id (image, call) := by
            by_contra other
            rw [Bool.eq_false_iff.mpr other, unpinned] at first
            have none := (Nat.add_eq_zero_iff.mp first).1
            exact Nat.ne_of_gt positive none
          obtain ⟨rfl, live⟩ := Call.eq_pin_of_pins placed
          obtain ⟨old, stored⟩ := Heap.contains_iff.mp live
          have stays := stays.of_evolves ((Call.continues wf _).evolves stored stored')
          have counted := trail.pinCount_add id
          have other : ∀ target, Call.pin id ≠ .unpin target := fun _ => nofun
          rw [placed, unpinned, Call.unpins_of_ne other] at first
          refine .inr ⟨image, steps, old, ⟨[], rfl⟩, unpinned, stored, stays, ?_⟩
          rw [counted]
          exact congrArg (· + _) first
      · obtain ⟨before, later, old, since⟩ := since
        obtain ⟨earlier, split⟩ := since.step
        refine .inr ⟨before, later, old, { since with step := ⟨(image, call) :: earlier, ?_⟩ }⟩
        rw [split, List.cons_append]
  | aside lock journal _ ih => exact ih (reached.aside lock journal) pinned

/-- On every way from a start, with whatever calls and scripts, the pins on an id are those placed
less those taken back. So it is pinned when more have been placed than taken back, and only then is
a further one taken back; no other call changes any count. What a pinned object leads to is kept by
every call, and by a collection as it is, and each count is of pins on one object: the one that the
id denoted when the first of them was placed, which is there and pinned ever since. -/
theorem pins_counted (trail : image.Trail steps after)
    (started : Image.start settings = .ok image) :
    (∀ id, after.heap.pinCount id + steps.countP (Call.unpins id) =
      steps.countP (Call.pins id)) ∧
      (∀ id, id ∈ after.heap.pinned ↔
        steps.countP (Call.unpins id) < steps.countP (Call.pins id)) ∧
      (∀ id, ∃ left, Call.perform (.unpin id) after =
        .ok (.flag (steps.countP (Call.unpins id) < steps.countP (Call.pins id))) left) ∧
      (∀ call, (∀ object, call ≠ .pin object) → (∀ object, call ≠ .unpin object) →
        (after.afterCalls [call]).heap.pins = after.heap.pins) ∧
      (∀ id ∈ after.heap.pinned, after.heap.Reaches [id] id) ∧
      (∀ id ∈ after.heap.pinned, ∀ target, after.heap.Reaches [id] target → ∀ call,
        ∃ old new, after.heap.get? target = some old ∧
          (after.afterCalls [call]).heap.get? target = some new ∧ old.Evolves new ∧
            (Call.collects call → new = old)) ∧
      (∀ id ∈ after.heap.pinned, ∃ before later old,
        Image.PinnedSince steps after id before later old) ∧
      ∀ script ends bindings, image.Trail (steps ++ Script.steps ends script ⟨after, bindings⟩)
        (script.run ends ⟨after, bindings⟩).state.image := by
  have first := Reached.start started
  obtain ⟨calls, reached⟩ := trail.reached first
  have wf := reached.wellFormed
  have start : ∀ id, image.heap.pinCount id = 0 := by
    intro id
    rw [Image.start_eq] at started
    cases started
    rfl
  have balance : ∀ id, after.heap.pinCount id + steps.countP (Call.unpins id) =
      steps.countP (Call.pins id) := by
    intro id
    rw [trail.pinCount_add, start, Nat.zero_add]
  have positive : ∀ id, 0 < after.heap.pinCount id ↔
      steps.countP (Call.unpins id) < steps.countP (Call.pins id) := by
    intro id
    have counted := balance id
    omega
  have isPinned : ∀ id ∈ after.heap.pinned, 0 < after.heap.pinCount id :=
    fun id mem => Heap.mem_pinned.mp mem
  refine ⟨balance, fun id => Heap.mem_pinned.trans (positive id), ?_, ?_, ?_, ?_, ?_, ?_⟩
  · intro id
    simp only [← positive]
    exact ⟨_, Call.perform_unpin after id⟩
  · intro call other other'
    rw [Image.afterCalls_singleton]
    exact Call.keeps_pins other other' after
  · intro id mem
    exact .root (List.mem_singleton.mpr rfl) (wf.pinned (isPinned id mem))
  · intro id mem target leads call
    obtain ⟨old, stored⟩ := Heap.contains_iff.mp leads.contains
    have spares := Call.spares_of_pinned call mem leads
    obtain ⟨new, stored', evolves⟩ :=
      call.keeps wf spares (HeapObject.lasting_evolves old) ⟨old, stored, .refl old⟩
    refine ⟨old, new, stored, stored', evolves, fun collects => ?_⟩
    have same := Call.get?_of_collects collects stored'
    rw [stored] at same
    cases same
    rfl
  · intro id mem
    rcases trail.pinned_since first (isPinned id mem) with ⟨_, _, pinned, _⟩ | since
    · rw [start id] at pinned
      cases pinned
    · exact since
  · intro script ends bindings
    exact trail.trans (script.trail_run ends ⟨after, bindings⟩)

end Image.Trail

/-- The case of an instance, in slot 11, that is pinned before a collection without roots. The
collection keeps it, and the pin can be taken back afterwards. -/
theorem Image.Trail.pins_counted_newObject :
    let made := (Image.first .standard).afterCalls [.newObject 5]
    let pinned := made.afterCalls [.pin 11]
    let after := pinned.afterCalls [.collect []]
    Image.start .standard = .ok (.first .standard) ∧
      (Image.first .standard).Trail
        [(.first .standard, .newObject 5), (made, .pin 11), (pinned, .collect [])] after ∧
      after.heap.contains 11 ∧
      ∃ left, Call.perform (.unpin 11) after = .ok (.flag true) left := by
  intro made pinned after
  have started := Image.start_eq .standard
  have trail : (Image.first .standard).Trail
      [(.first .standard, .newObject 5), (made, .pin 11), (pinned, .collect [])] after :=
    .call _ (.call _ (.call _ (.nil after)))
  obtain ⟨_, isPinned, withdrawn, _, reaches, _⟩ := trail.pins_counted started
  have placed : [(Image.first .standard, Call.newObject 5), (made, .pin 11),
      (pinned, .collect [])].countP (Call.pins 11) = 1 := rfl
  have taken : [(Image.first .standard, Call.newObject 5), (made, .pin 11),
      (pinned, .collect [])].countP (Call.unpins 11) = 0 := rfl
  have mem : 11 ∈ after.heap.pinned := by
    rw [isPinned, placed, taken]
    exact Nat.one_pos
  obtain ⟨left, performed⟩ := withdrawn 11
  rw [placed, taken] at performed
  exact ⟨started, trail, (reaches 11 mem).contains, left, performed⟩

end Metamodel
