import Metamodel.Proofs.Bodies
import Metamodel.Proofs.Composition

/-!
# Pacing

The settings decide when a collection is due and nothing else. Two images that agree but for their
pace, that is for their settings, their thresholds and the thresholds that collections have
reported, go on alike under every call that does not ask whether a collection is due, and under
those that do as long as the answer is the same.

## Implementation notes

Images agree but for their pace when they are equal without it. Operations composed of primitive
steps commute with the removal of the pace; a collection does so up to the threshold that it sets.
-/

namespace Metamodel

open Session ImageM

/-- The event without the threshold that a collection has set. -/
def Event.unpaced : Event → Event
  | .collected live freed _ => .collected live freed 0
  | event => event

namespace Heap

/-- The heap without its pace. -/
def unpaced (heap : Heap) : Heap :=
  { heap with threshold := 0, minThreshold := 0 }

/-- Heaps that hold the same objects and go on to place new ones alike. -/
structure Agrees (heap other : Heap) : Prop where
  slots : heap.slots = other.slots
  vacant : heap.vacant = other.vacant
  pins : heap.pins = other.pins
  marks : heap.marks = other.marks
  allocated : heap.allocated = other.allocated

theorem agrees_of_unpaced {heap other : Heap} (same : heap.unpaced = other.unpaced) :
    heap.Agrees other where
  slots := congrArg (·.slots) same
  vacant := congrArg (·.vacant) same
  pins := congrArg (·.pins) same
  marks := congrArg (·.marks) same
  allocated := congrArg (·.allocated) same

/-- What is read off the slots does not depend on the pace. -/
theorem FromSlots.unpaced {α : Type} {look : Heap → α} (fromSlots : FromSlots look) (heap : Heap) :
    look heap.unpaced = look heap :=
  fromSlots heap.unpaced heap rfl

variable (heap : Heap)

theorem allocate_unpaced (object : HeapObject) :
    heap.unpaced.allocate object =
      ((heap.allocate object).1, (heap.allocate object).2.unpaced) := by
  unfold allocate unpaced
  cases heap.vacant <;> rfl

theorem pin_unpaced (id : ObjectId) : heap.unpaced.pin id = (heap.pin id).map unpaced := by
  unfold pin
  rw [(FromSlots.find id).unpaced heap]
  cases heap.find id <;> rfl

theorem unpin_unpaced (id : ObjectId) :
    heap.unpaced.unpin id = ((heap.unpin id).1, (heap.unpin id).2.unpaced) := by
  unfold unpin
  change (if heap.pinCount id = 0 then _ else _) = _
  split <;> rfl

theorem markAll_unpaced (roots : List ObjectId) :
    heap.unpaced.markAll roots = (heap.markAll roots).unpaced := by
  unfold markAll
  rw [reach_congr heap heap.unpaced rfl]
  rfl

/-- A collection keeps and frees the same whatever the pace. -/
theorem collect_agree {heap other : Heap} (same : heap.unpaced = other.unpaced)
    (roots : List ObjectId) :
    (heap.collect roots).1 = (other.collect roots).1 ∧
      (heap.collect roots).2.unpaced = (other.collect roots).2.unpaced := by
  have unpaced (heap : Heap) : (heap.unpaced.collect roots).1 = (heap.collect roots).1 ∧
      (heap.unpaced.collect roots).2.unpaced = (heap.collect roots).2.unpaced := by
    unfold collect
    rw [markAll_unpaced]
    exact ⟨rfl, rfl⟩
  rw [← (unpaced heap).1, ← (unpaced heap).2, ← (unpaced other).1, ← (unpaced other).2, same]
  exact ⟨rfl, rfl⟩

end Heap

/-- The image without its pace. -/
def Image.unpaced [ReentrantMutex] (image : Image) : Image :=
  { image with
    heap := image.heap.unpaced
    settings := .standard
    journal := image.journal.map Event.unpaced }

theorem Image.unpaced_report [ReentrantMutex] (image : Image) (heap : Heap) (event : Event) :
    { image with heap, journal := image.journal.push event : Image }.unpaced =
      { image.unpaced with
        heap := heap.unpaced, journal := image.unpaced.journal.push event.unpaced } := by
  simp only [unpaced, Array.map_push]

namespace ImageM

variable [ReentrantMutex] {α β : Type}

/-- How an operation has ended, without the pace of the image that it leaves. -/
def unpaced : EStateM.Result Fault Image α → EStateM.Result Fault Image α
  | .ok value image => .ok value image.unpaced
  | .error fault image => .error fault image.unpaced

/-- An operation that does the same without the pace. -/
def Unpaced (act : ImageM α) : Prop :=
  ∀ image : Image, act image.unpaced = unpaced (act image)

namespace Unpaced

protected theorem ask {query : Heap → Except Fault α}
    (same : ∀ heap : Heap, query heap.unpaced = query heap) : Unpaced (ask query) := by
  intro image
  have asked : query image.unpaced.heap = query image.heap := same image.heap
  cases answer : query image.heap with
  | ok value =>
      rw [ask_of_ok (asked.trans answer), ask_of_ok answer]
      rfl
  | error fault =>
      rw [ask_of_error (asked.trans answer), ask_of_error answer]
      rfl

protected theorem view {look : Heap → α} (same : ∀ heap : Heap, look heap.unpaced = look heap) :
    Unpaced (view look) := by
  intro image
  exact congrArg (EStateM.Result.ok · image.unpaced) (same image.heap)

protected theorem allocate (object : HeapObject) : Unpaced (allocate object) := by
  intro image
  have placed := image.heap.allocate_unpaced object
  change EStateM.Result.ok (image.heap.unpaced.allocate object).1
    { image.unpaced with heap := (image.heap.unpaced.allocate object).2 } = _
  rw [placed]
  rfl

/-- Only collections report a threshold. -/
protected theorem emit {event : Event} (same : event.unpaced = event) : Unpaced (emit event) := by
  intro image
  have journal : (image.journal.push event).map Event.unpaced =
      (image.journal.map Event.unpaced).push event := by
    rw [Array.map_push, same]
  change EStateM.Result.ok () { image.unpaced with
    journal := (image.journal.map Event.unpaced).push event } = _
  rw [← journal]
  rfl

protected theorem bind {act : ImageM α} {next : α → ImageM β} (first : Unpaced act)
    (rest : ∀ value, Unpaced (next value)) : Unpaced (act >>= next) := by
  intro image
  rw [bind_apply, bind_apply, first image]
  cases act image with
  | ok value after => exact rest value after
  | error fault after => rfl

protected theorem map {act : ImageM α} (f : α → β) (unpaced : Unpaced act) :
    Unpaced (f <$> act) := by
  intro image
  rw [map_apply, map_apply, unpaced image]
  cases act image <;> rfl

protected theorem locked {act : ImageM α} (unpaced : Unpaced act) : Unpaced (locked act) := by
  intro image
  -- taking the lock and leaving out the pace commute
  have inside : act image.unpaced.held = ImageM.unpaced (act image.held) := unpaced image.held
  unfold ImageM.locked
  rw [inside]
  cases act image.held <;> rfl

/-- What is composed of primitive steps does not depend on the pace. -/
theorem of_composed {act : ImageM α} (composed : Composed act) : Unpaced act := by
  induction composed with
  | answer value => exact fun _ => rfl
  | refusal fault => exact fun _ => rfl
  | ask fromSlots => exact .ask fromSlots.unpaced
  | view fromSlots => exact .view fromSlots.unpaced
  | builtinClasses => exact fun _ => rfl
  | allocate object => exact .allocate object
  | change id edit => exact fun _ => rfl
  | emit event other =>
      refine .emit ?_
      cases event with
      | collected live freed next => exact absurd rfl (other live freed next)
      | _ => rfl
  | bind _ _ first rest => exact .bind first rest
  | map f _ ih => exact ih.map f
  | locked _ ih => exact ih.locked

protected theorem pin (object : ObjectId) : Unpaced (Image.pin object) := by
  intro image
  have pinned : image.unpaced.heap.pin object = (image.heap.pin object).map Heap.unpaced :=
    image.heap.pin_unpaced object
  rw [Image.pin_apply, Image.pin_apply, pinned]
  cases image.heap.pin object <;> rfl

protected theorem unpin (object : ObjectId) : Unpaced (Image.unpin object) := by
  intro image
  have taken := image.heap.unpin_unpaced object
  rw [Image.unpin_apply, Image.unpin_apply]
  change EStateM.Result.ok (image.heap.unpaced.unpin object).1
    (image.unpaced.extend (image.heap.unpaced.unpin object).2 []) = _
  rw [taken]
  rfl

end Unpaced

/-- Two ways to end alike, but for the pace of the images that are left. -/
inductive AlikeResults {α : Type} :
    EStateM.Result Fault Image α → EStateM.Result Fault Image α → Prop
  | ok (value : α) {image other : Image} : image.unpaced = other.unpaced →
      AlikeResults (.ok value image) (.ok value other)
  | error (fault : Fault) {image other : Image} : image.unpaced = other.unpaced →
      AlikeResults (.error fault image) (.error fault other)

namespace AlikeResults

variable {act : ImageM α} {image other : Image}

theorem of_unpaced {result other : EStateM.Result Fault Image α}
    (same : unpaced result = unpaced other) : AlikeResults result other := by
  cases result with
  | ok value image =>
      cases other with
      | ok _ _ =>
          injection same with value image
          exact value ▸ .ok _ image
      | error _ _ => cases same
  | error fault image =>
      cases other with
      | ok _ _ => cases same
      | error _ _ =>
          injection same with fault image
          exact fault ▸ .error _ image

/-- What does not depend on the pace ends alike on images that agree but for their pace. -/
theorem of_commutes (commutes : Unpaced act) (same : image.unpaced = other.unpaced) :
    AlikeResults (act image) (act other) := by
  apply of_unpaced
  rw [← commutes image, ← commutes other, same]

protected theorem map (f : α → β) (alike : AlikeResults (act image) (act other)) :
    AlikeResults ((f <$> act) image) ((f <$> act) other) := by
  rw [map_apply, map_apply]
  generalize act image = first, act other = second at alike
  cases alike with
  | ok value same => exact .ok _ same
  | error fault same => exact .error _ same

theorem leaves {act' : ImageM α} (alike : AlikeResults (act image) (act' other)) :
    (act.leaves image).unpaced = (act'.leaves other).unpaced := by
  unfold ImageM.leaves
  generalize act image = first, act' other = second at alike
  cases alike with
  | ok _ same => exact same
  | error _ same => exact same

/-- Collections end alike, though they may set and report different thresholds. -/
protected theorem collect (roots : List ObjectId) (same : image.unpaced = other.unpaced) :
    AlikeResults (Image.collect roots image) (Image.collect roots other) := by
  have heap : image.heap.unpaced = other.heap.unpaced := congrArg Image.heap same
  have standing : image.standingRoots = other.standingRoots := by
    change image.unpaced.standingRoots = other.unpaced.standingRoots
    rw [same]
  obtain ⟨tally, swept⟩ := Heap.collect_agree heap (other.standingRoots ++ roots)
  rw [Image.collect_apply, Image.collect_apply, standing, tally]
  apply AlikeResults.ok
  rw [Image.unpaced_report, Image.unpaced_report, same, swept]
  rfl

end AlikeResults

end ImageM

namespace Session

/-- Questions about one object do not depend on the pace. -/
theorem Inspection.answer_unpaced (question : Inspection) (heap : Heap) (id : ObjectId) :
    question.answer heap.unpaced id = question.answer heap id := by
  have reading {α : Type} {look : Heap → Except Fault α} (fromSlots : Heap.FromSlots look)
      (f : α → Value) : f <$> look heap.unpaced = f <$> look heap :=
    congrArg (f <$> ·) (fromSlots.unpaced heap)
  cases question with
  | contains | isClass | isMarked => rfl
  | object | references => exact reading (.find id) _
  | header | owner | tag | singleton => exact reading (.findHeader id) _
  | classRecord | superclass | isSingleton => exact reading (.findClass id) _
  | text => exact reading (.findText id) _
  | className => exact reading (.className id) _
  | displayName => exact reading (.displayName id) _
  | backtraceName => exact reading (.backtraceName id) _
  | ownerDisplayName => exact reading (.ownerDisplayName id) _
  | ancestors => exact reading (.ancestors id) _
  | dispatchChain => exact reading (.dispatchChain id) _

/-- Questions about a whole heap do not depend on the pace. -/
theorem Survey.answer_unpaced (question : Survey) (heap : Heap) :
    question.answer heap.unpaced = question.answer heap := by
  cases question with
  | classes | pinned | census => rfl
  | slots =>
      have display : heap.unpaced.displayName = heap.displayName :=
        funext fun id => (Heap.FromSlots.displayName id).unpaced heap
      rw [answer, display]
      rfl

namespace Call

variable [ReentrantMutex]

/-- Whether a collection is due, where a call asks for that. -/
def decision? (image : Image) : Call ObjectId → Option Bool
  | .collectIfDue _ => some image.heap.collectionDue
  | _ => none

/-- A call ends alike on images that agree but for their pace. If it asks whether a collection is
due, both have to give the same answer. -/
theorem perform_alike (call : Call ObjectId) {image other : Image}
    (same : image.unpaced = other.unpaced)
    (decided : call.decision? image = call.decision? other) :
    AlikeResults (call.perform image) (call.perform other) := by
  cases call with
  | collect roots => exact .map _ (.collect roots same)
  | collectIfDue roots =>
      have due : image.heap.collectionDue = other.heap.collectionDue := Option.some.inj decided
      apply AlikeResults.map
      rw [Image.collectIfDue_apply, Image.collectIfDue_apply, due]
      split
      · exact .map _ (.collect roots same)
      · exact .ok none same
  | pin object => exact .map _ (.of_commutes (.pin object) same)
  | unpin object => exact .map _ (.of_commutes (.unpin object) same)
  | inspect question object =>
      exact .of_commutes (.locked (.ask fun heap => question.answer_unpaced heap object)) same
  | survey question => exact .of_commutes (.locked (.view question.answer_unpaced)) same
  | isLocked => exact .of_commutes (fun _ => rfl) same
  | tryLock contender => exact .of_commutes (fun _ => rfl) same
  | _ => exact .of_commutes (.of_composed (composed_perform rfl)) same

end Call

end Session

end Metamodel
