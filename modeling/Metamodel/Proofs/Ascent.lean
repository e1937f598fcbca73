import Metamodel.CountingMutex
import Metamodel.Proofs.Hierarchy

/-!
# Ascents

What asking for the singleton class of an object leaves behind, record by record. A class without
one is the lowest rung of a ladder: the classes of its superclass chain up to the first that has a
singleton class. Every rung below that one receives a singleton class under that of the next rung,
and the new ones have singleton classes themselves if the last one has, and else none of them has.

## Implementation notes

The rungs are a function of their height, so that a rung and the next one can be named together.
The root always has a singleton class, so no ascent passes it.
-/

namespace Metamodel

open Session

namespace Heap

/-- The root has a singleton class. -/
def RootMirrored (builtins : Builtins) (heap : Heap) : Prop :=
  ∃ singleton, heap.Has builtins.root (HeapObject.HasSingleton singleton)

theorem RootMirrored.continues {builtins : Builtins} {before after : Heap}
    (mirrored : RootMirrored builtins before) (continues : before.Continues after)
    (kept : after.contains builtins.root) : RootMirrored builtins after := by
  obtain ⟨singleton, has⟩ := mirrored
  exact ⟨singleton, has.continues (HeapObject.lasting_hasSingleton singleton) continues kept⟩

theorem keptByEdits_rootMirrored : KeptByEdits RootMirrored := by
  intro builtins before after wf edit mirrored
  exact mirrored.continues (edit.continues wf) (edit.wellFormed wf).root_isOrdinary.contains

theorem rootMirrored_first [ReentrantMutex] (settings : Settings) :
    RootMirrored (Image.first settings).builtins (Image.first settings).heap :=
  ⟨4, _, rfl, _, rfl, rfl⟩

/-- One class on an ascent, with its singleton class and the singleton class of that one, if there
is one. -/
structure Rung where
  object : ObjectId
  singleton : ObjectId
  mirror : Option ObjectId

/-- The rungs of a ladder with one more below them. -/
def Rung.below (first : Rung) (rungs : Nat → Rung) : Nat → Rung
  | 0 => first
  | i + 1 => rungs i

/-- What an ascent changes. Owner and tag are those of the singleton class at the top. -/
structure Ascent (before after : Heap) (rungs : Nat → Rung) (height : Nat) (owner : ObjectId)
    (tag : TypeTag) : Prop where
  /-- The classes are a superclass chain. Those below the top receive a singleton class and are
  otherwise as they were. -/
  lower : ∀ i < height, ∃ record, before.get? (rungs i).object = some (.classRecord record) ∧
    record.singleton = none ∧ record.superclass = some (rungs (i + 1)).object ∧
    after.get? (rungs i).object =
      some (.classRecord { record with singleton := some (rungs i).singleton })
  /-- The class at the top has a singleton class. -/
  top : ∃ record, before.get? (rungs height).object = some (.classRecord record) ∧
    record.singleton = some (rungs height).singleton
  known : ∃ record, before.get? (rungs height).singleton = some (.classRecord record) ∧
    record.owner = owner ∧ record.instanceTag = tag ∧ record.singleton = (rungs height).mirror
  fresh : ∀ i < height, before.get? (rungs i).singleton = none
  freshMirror : ∀ i < height, ∀ id, (rungs i).mirror = some id → before.get? id = none
  /-- Each new singleton class is below that of the next rung. -/
  made : ∀ i < height, after.get? (rungs i).singleton = some (.classRecord
    { ClassRecord.singletonOf (rungs i).object (rungs (i + 1)).singleton owner tag with
      singleton := (rungs i).mirror })
  /-- The new singleton classes have singleton classes if that at the top has one. -/
  together : ∀ i < height, (rungs i).mirror.isSome = (rungs height).mirror.isSome
  /-- Each singleton class of a singleton class is below that of the next rung and is owned by
  it. -/
  mirrored : ∀ i < height, ∀ id, (rungs i).mirror = some id → ∃ above tag,
    (rungs (i + 1)).mirror = some above ∧
      after.get? id = some (.classRecord (.singletonOf (rungs i).singleton above above tag))
  /-- Nothing else is changed or made. -/
  frame : ∀ id, (∀ i < height, id ≠ (rungs i).object ∧ id ≠ (rungs i).singleton ∧
    (rungs i).mirror ≠ some id) → after.get? id = before.get? id

variable {builtins : Builtins} {before middle after : Heap} {object singleton : ObjectId}
  {record parent : ClassRecord} {rungs : Nat → Rung} {height : Nat} {owner : ObjectId}
  {tag : TypeTag} {events : List Event}

namespace Ascent

/-- The ascent from a class with a singleton class changes nothing. -/
theorem known_of_mirror {mirror : ClassRecord}
    (target : before.get? object = some (.classRecord record))
    (given : record.singleton = some singleton)
    (isMirror : before.get? singleton = some (.classRecord mirror)) :
    Ascent before before (fun _ => ⟨object, singleton, mirror.singleton⟩) 0 mirror.owner
      mirror.instanceTag where
  lower := nofun
  top := ⟨record, target, given⟩
  known := ⟨mirror, isMirror, rfl, rfl, rfl⟩
  fresh := nofun
  freshMirror := nofun
  made := nofun
  together := nofun
  mirrored := nofun
  frame := fun _ _ => rfl

/-- The singleton class on the lowest rung has the owner and the tag of that at the top. -/
theorem exists_lowest (ascent : Ascent before after rungs height owner tag) :
    ∃ record, after.get? (rungs 0).singleton = some (.classRecord record) ∧
      record.owner = owner ∧ record.instanceTag = tag ∧ record.singleton = (rungs 0).mirror := by
  cases height with
  | zero =>
      obtain ⟨record, stored, same⟩ := ascent.known
      have kept := ascent.frame (rungs 0).singleton nofun
      exact ⟨record, kept.trans stored, same⟩
  | succ height => exact ⟨_, ascent.made 0 (Nat.succ_pos _), rfl, rfl, rfl⟩

theorem together_zero (ascent : Ascent before after rungs height owner tag) :
    (rungs 0).mirror.isSome = (rungs height).mirror.isSome := by
  cases height with
  | zero => rfl
  | succ height => exact ascent.together 0 (Nat.succ_pos _)

/-- One more singleton class, made below that of the lowest rung, continues an ascent. -/
theorem cons {derived : Option ObjectId} (ascent : Ascent before middle rungs height owner tag)
    (grows : before.Grows middle)
    (target : before.get? object = some (.classRecord record))
    (next : record.superclass = some (rungs 0).object)
    (upper : middle.get? (rungs 0).singleton = some (.classRecord parent))
    (attaches : Attaches middle after object (rungs 0).singleton singleton (.classRecord record)
      parent derived)
    (both : derived.isSome = parent.singleton.isSome) :
    Ascent before after (Rung.below ⟨object, singleton, derived⟩ rungs) (height + 1) owner tag := by
  obtain ⟨header, isHeader, alone⟩ := attaches.alone
  cases isHeader
  obtain ⟨lowest, found, rfl, rfl, same⟩ := ascent.exists_lowest
  obtain rfl := classRecord_inj found upper
  -- what the earlier rungs received was not there before, so it is not the class on the new one
  have ne : ∀ {id : ObjectId}, before.get? id = none → id ≠ object := by
    rintro id none rfl
    rw [target] at none
    cases none
  refine
    { lower := Nat.forall_lt_succ_left.mpr ⟨?_, ?_⟩
      top := ascent.top
      known := ascent.known
      fresh := Nat.forall_lt_succ_left.mpr ⟨?_, ascent.fresh⟩
      freshMirror := Nat.forall_lt_succ_left.mpr ⟨?_, ascent.freshMirror⟩
      made := Nat.forall_lt_succ_left.mpr ⟨attaches.made, ?_⟩
      together := Nat.forall_lt_succ_left.mpr ⟨?_, ascent.together⟩
      mirrored := Nat.forall_lt_succ_left.mpr ⟨?_, ?_⟩
      frame := ?_ }
  · exact ⟨record, target, alone, next, attaches.attached⟩
  · intro i below
    obtain ⟨lower, earlier, alone', next', stored⟩ := ascent.lower i below
    refine ⟨lower, earlier, alone', next', attaches.kept stored ?_⟩
    intro (here : (rungs i).object = object)
    rw [here, attaches.target] at stored
    cases stored
    cases alone
  · exact grows.get?_eq_none attaches.newSingleton
  · exact fun id given => grows.get?_eq_none (attaches.newMirror given)
  · exact fun i below => attaches.kept (ascent.made i below) (ne (ascent.fresh i below))
  · exact both.trans ((congrArg Option.isSome same).trans ascent.together_zero)
  · intro id given
    obtain ⟨above, mirrored, has, _, made⟩ := attaches.mirrored given
    exact ⟨above, _, same.symm.trans has, made⟩
  · intro i below id given
    obtain ⟨above, tag, has, made⟩ := ascent.mirrored i below id given
    exact ⟨above, tag, has, attaches.kept made (ne (ascent.freshMirror i below id given))⟩
  · intro id apart
    obtain ⟨⟨here, there, noMirror⟩, earlier⟩ := Nat.forall_lt_succ_left.mp apart
    exact (attaches.frame here there noMirror).trans (ascent.frame id earlier)

end Ascent

/-- An ascent passes no class with a singleton class and ends at one. -/
theorem Provides.ascent (provides : before.Provides builtins object singleton after events)
    (wf : before.WellFormed builtins) (root : RootMirrored builtins before)
    (target : before.get? object = some (.classRecord record)) :
    ∃ rungs height owner tag, (rungs 0).object = object ∧ (rungs 0).singleton = singleton ∧
      Ascent before after rungs height owner tag := by
  induction provides generalizing record with
  | known stored isHeader given =>
      obtain rfl := Option.some.inj (target.symm.trans stored)
      cases isHeader
      obtain ⟨mirror, isMirror⟩ := wf.exists_singleton target rfl _ given
      exact ⟨_, 0, _, _, rfl, rfl, .known_of_mirror target given isMirror⟩
  | plain stored _ _ =>
      rw [target] at stored
      cases stored
  | top stored started alone bare _ =>
      -- the class without a superclass is the root, which is not without a singleton class
      obtain rfl := (wf.superclass_eq_none_iff stored started).mp bare
      obtain ⟨_, has⟩ := root
      obtain ⟨_, isHeader, given⟩ := has.of_get? stored
      cases isHeader
      rw [alone] at given
      cases given
  | @beside object superclass above record' parent middle events stored started alone next
      provides upper ih =>
      obtain rfl := classRecord_inj stored target
      obtain ⟨chain, lineage⟩ := wf.exists_lineage_above stored next
      obtain ⟨_, isAbove, _⟩ := lineage.isInitialized.exists_classRecord
      obtain ⟨rungs, height, owner, tag, rfl, rfl, ascent⟩ := ih isAbove
      have provision := provides.provision wf
      have wf' := provision.edits.wellFormed wf
      have target' := provision.kept_below wf stored started next
      obtain ⟨derived, attaches, both⟩ := wf'.exists_attaches target' rfl alone upper
      exact ⟨_, height + 1, owner, tag, rfl, rfl,
        ascent.cons provision.grows stored next upper attaches both⟩

/-- An ascent leaves the pins alone. -/
theorem Provides.pins (provides : before.Provides builtins object singleton after events) :
    after.pins = before.pins := by
  induction provides with
  | known => rfl
  | plain => exact pins_makeSingleton _ _ _ _
  | top => exact pins_makeSingleton _ _ _ _
  | beside _ _ _ _ _ _ ih => exact (pins_makeSingleton _ _ _ _).trans ih

end Heap

theorem Reached.rootMirrored [ReentrantMutex] {settings : Settings} {calls : List (Call ObjectId)}
    {image : Image} (reached : Reached settings calls image) :
    Heap.RootMirrored image.builtins image.heap := by
  refine (reached.induct _ (Heap.rootMirrored_first settings) Heap.keptByEdits_rootMirrored ?_).2
  intro _ builtins heap wf mirrored
  exact mirrored.continues (Heap.grows_allocate wf.tidy _).continues
    wf.addClass.root_isOrdinary.contains

/-- In a reachable image asking for the singleton class of an instance or an initialized class is
answered. An object that has one keeps it and the image is as before. An instance without one
receives one below its class, and a class without one receives one at the foot of an ascent. No
other object changes, and no pin is set or taken back. -/
theorem Reached.singletonClass_answered [ReentrantMutex] {settings : Settings}
    {calls : List (Call ObjectId)}
    {image : Image} (reached : Reached settings calls image) {object : ObjectId}
    {stored : HeapObject} {header : Header} (target : image.heap.get? object = some stored)
    (isHeader : stored.header? = some header)
    (started : ∀ record, stored = .classRecord record → record.initialized) :
    ∃ singleton after events,
      Image.singletonClass object image = .ok singleton (image.extend after events) ∧
      after.pins = image.heap.pins ∧
      (∀ known, header.singleton = some known →
        singleton = known ∧ image.extend after events = image) ∧
      (header.singleton = none → stored = .plain header → ∃ parent derived,
        image.heap.Attaches after object header.owner singleton stored parent derived ∧
          derived.isSome = parent.singleton.isSome) ∧
      (header.singleton = none → ∀ record, stored = .classRecord record →
        ∃ rungs height owner tag, (rungs 0).object = object ∧ (rungs 0).singleton = singleton ∧
          image.heap.Ascent after rungs height owner tag) := by
  have wf := reached.wellFormed
  obtain ⟨singleton, after, events, done, provides⟩ :=
    Image.singletonClass_of_live wf target isHeader started
  refine ⟨singleton, after, events, done, provides.pins, ?_, ?_, ?_⟩
  · intro known given
    obtain ⟨rfl, rfl, rfl⟩ := provides.of_known target isHeader given
    exact ⟨rfl, image.extend_nil⟩
  · rintro alone rfl
    obtain ⟨parent, upper, rfl, rfl⟩ := provides.of_plain target alone
    obtain ⟨derived, attaches, both⟩ := wf.exists_attaches target rfl alone upper
    exact ⟨parent, derived, attaches, both⟩
  · rintro _ record rfl
    exact provides.ascent wf reached.rootMirrored target

/-- The case of the singleton class, in slot 15, of a class two below a built-in one. The ascent
goes from it to the singleton class of its superclass, in slot 12. -/
theorem Reached.singletonClass_answered_subclass : ∃ image singleton after events rungs height
    owner tag, Reached .standard [.subclass 5 "A" none, .subclass 11 "B" none] image ∧
      Image.singletonClass 15 image = .ok singleton (image.extend after events) ∧
      (rungs 0).object = 15 ∧ (rungs 0).singleton = singleton ∧
      image.heap.Ascent after rungs height owner tag ∧ height ≠ 0 ∧ (rungs 1).object = 12 := by
  let calls : List (Call ObjectId) := [.subclass 5 "A" none, .subclass 11 "B" none]
  let image := (Image.first .standard).afterCalls calls
  have reached : Reached .standard calls image := .afterFirst .standard calls
  have target : image.heap.get? 15 =
      some (.classRecord (.singletonOf 14 12 12 .classTag)) := by decide +kernel
  obtain ⟨singleton, after, events, done, _, _, _, ascends⟩ :=
    Reached.singletonClass_answered reached target rfl (by rintro _ ⟨⟩; rfl)
  obtain ⟨rungs, height, owner, tag, foot, answer, ascent⟩ := ascends rfl _ rfl
  have above : height ≠ 0 := by
    rintro rfl
    obtain ⟨record, isTop, given⟩ := ascent.top
    rw [foot, target] at isTop
    cases isTop
    cases given
  obtain ⟨record, isLowest, _, next, _⟩ := ascent.lower 0 (Nat.pos_of_ne_zero above)
  rw [foot, target] at isLowest
  cases isLowest
  exact ⟨image, singleton, after, events, rungs, height, owner, tag, reached, done, foot, answer,
    ascent, above, (Option.some.inj next).symm⟩

end Metamodel
