import Metamodel.CountingMutex
import Metamodel.Proofs.Layers
import Metamodel.Proofs.Mirroring

/-!
# Metaclasses

Every initialized class that is private to no object has a singleton class, except perhaps the
class of all classes. It is therefore never missing when a class is linked: the new class gets a
singleton class of its own below that of its superclass, and the mirroring stops there.
-/

namespace Metamodel

open Session

namespace Heap

/-- Every ordinary class other than the class of all classes has a singleton class. -/
def AllMirrored (builtins : Builtins) (heap : Heap) : Prop :=
  ∀ id record, heap.get? id = some (.classRecord record) → record.initialized →
    record.isSingleton = false → id ≠ builtins.anchor →
    ∃ singleton, record.singleton = some singleton

/-- A class is linked below another one with a new singleton class. That class is owned by the
singleton class of the superclass and stands directly below it, and has no singleton class
itself. -/
structure LinksBeside (before after : Heap) (superclass above id singleton : ObjectId)
    (record mirror : ClassRecord) : Prop where
  upper : before.Has superclass (HeapObject.HasSingleton above)
  keeps : after.Has superclass (HeapObject.HasSingleton above)
  stored : after.get? id = some (.classRecord record)
  ordinary : HeapObject.IsOrdinary (.classRecord record)
  below : record.superclass = some superclass
  beside : record.singleton = some singleton
  fresh : before.get? singleton = none
  isMirror : after.get? singleton = some (.classRecord mirror)
  attached : mirror.attached = some id
  owner : mirror.owner = above
  under : mirror.superclass = some above
  bare : mirror.singleton = none

variable {before after : Heap} {builtins : Builtins} {superclass subclass above : ObjectId}
  {record parent : ClassRecord}

/-- What is linked gets a singleton class because the class above it has one. -/
theorem keptByEdits_allMirrored : KeptByEdits AllMirrored := by
  intro builtins before after wf edit mirrored id record stored started unflagged other
  cases edit.edited wf stored with
  | kept found evolves same =>
      cases evolves with
      | classRecord evolves =>
          obtain ⟨singleton, given⟩ := mirrored id _ found (same started)
            (evolves.isSingleton.symm.trans unflagged) other
          exact ⟨singleton, evolves.header.singleton singleton given⟩
  | @linked superclass _ _ _ _ derived upper notAnchor ordinary initialized _ _ alone =>
      obtain ⟨above, given⟩ := mirrored superclass _ upper initialized ordinary notAnchor
      cases derived with
      | none =>
          rw [alone rfl] at given
          cases given
      | some singleton => exact ⟨singleton, rfl⟩
  | mirror _ _ _ => cases unflagged
  | singleton _ _ _ => cases unflagged
  | text textual => cases textual

theorem allMirrored_first [ReentrantMutex] (settings : Settings) :
    AllMirrored (Image.first settings).builtins (Image.first settings).heap := by
  intro id record stored _ unflagged other
  cases firstClass_of_get? stored with
  | anchor => exact absurd rfl other
  | root => exact ⟨4, rfl⟩
  | rootMirror => cases unflagged
  | objectClass => exact ⟨6, rfl⟩
  | objectMirror => cases unflagged
  | moduleClass => exact ⟨9, rfl⟩
  | moduleMirror => cases unflagged

/-- A class that is only allocated is not initialized. -/
theorem WellFormed.allMirrored_addClass (wf : before.WellFormed builtins)
    (mirrored : AllMirrored builtins before) :
    AllMirrored builtins (before.addClass builtins.anchor) := by
  intro id record stored started
  rw [get?_addClass wf.tidy] at stored
  split at stored
  · cases stored
    cases started
  · exact mirrored id record stored started

/-- Linking below a class with a singleton class mirrors it. -/
theorem Links.beside {tag : TypeTag} {text derived : Option ObjectId}
    (links : Links before after superclass subclass parent record tag text derived)
    (ordinary : record.isSingleton = false) (given : parent.singleton = some above) :
    ∃ joined singleton mirror,
      LinksBeside before after superclass above subclass singleton joined mirror := by
  cases derived with
  | none =>
      rw [links.alone rfl] at given
      cases given
  | some singleton =>
      obtain ⟨other, _, same, _, stored⟩ := links.mirrored rfl
      obtain rfl : other = above := Option.some.inj (same.symm.trans given)
      have apart : superclass ≠ subclass := by
        rintro rfl
        obtain rfl := classRecord_inj links.upper links.lower
        exact Bool.false_ne_true (links.raw.symm.trans links.started)
      exact ⟨_, singleton, _,
        { upper := ⟨_, links.upper, _, rfl, given⟩
          keeps := ⟨_, links.kept links.upper apart, _, rfl, given⟩
          stored := links.joined
          ordinary := ⟨rfl, ordinary⟩
          below := rfl
          beside := rfl
          fresh := links.newClass rfl
          isMirror := stored
          attached := rfl
          owner := rfl
          under := rfl
          bare := rfl }⟩

/-- A new class linked below a class with a singleton class. -/
theorem WellFormed.linksBeside_new (wf : before.WellFormed builtins) (name : String)
    (tag : TypeTag) (upper : before.get? superclass = some (.classRecord parent))
    (started : parent.initialized) (given : parent.singleton = some above) :
    ∃ joined singleton mirror, LinksBeside before
      ((before.addClass builtins.anchor).link superclass before.nextId name tag) superclass above
      before.nextId singleton joined mirror := by
  obtain ⟨text, derived, links⟩ := wf.exists_links_new name tag upper started
  obtain ⟨joined, singleton, mirror, beside⟩ := links.beside rfl given
  have fresh := beside.fresh
  rw [get?_addClass wf.tidy] at fresh
  split at fresh
  · cases fresh
  · exact ⟨joined, singleton, mirror, { beside with upper := ⟨_, upper, _, rfl, given⟩, fresh }⟩

/-- A class that has been allocated before, linked below a class with a singleton class. -/
theorem WellFormed.linksBeside (wf : before.WellFormed builtins) (tag : TypeTag)
    (upper : before.get? superclass = some (.classRecord parent)) (started : parent.initialized)
    (lower : before.get? subclass = some (.classRecord record)) (raw : record.initialized = false)
    (given : parent.singleton = some above) :
    ∃ joined singleton mirror, LinksBeside before (before.link superclass subclass "" tag)
      superclass above subclass singleton joined mirror := by
  obtain ⟨text, derived, links⟩ := exists_links wf.tidy "" tag upper started lower raw (.inl rfl)
    (wf.exists_singleton upper rfl)
  exact links.beside (wf.unflagged_of_raw raw (.inl lower)) given

end Heap

namespace Session.Call

/-- The class below which a call links a class. Without a superclass the root is meant. -/
def linksBelow (root : ObjectId) : Call ObjectId → Option ObjectId
  | .subclass receiver _ _ => some receiver
  | .declare (.newClass superclass) => some (superclass.getD root)
  | .declare (.initializeClass _ superclass) => some (superclass.getD root)
  | _ => none

variable [ReentrantMutex] {image after : Image} {call : Call ObjectId} {superclass : ObjectId}
  {value : Value}

/-- A call that links a class mirrors it, for its superclass is an ordinary one. -/
theorem linksBeside (wf : image.heap.WellFormed image.builtins)
    (mirrored : Heap.AllMirrored image.builtins image.heap)
    (links : call.linksBelow image.builtins.root = some superclass)
    (answered : call.perform image = .ok value after) :
    ∃ above id singleton record mirror, value = .id id ∧
      image.heap.LinksBeside after.heap superclass above id singleton record mirror := by
  cases call with
  | subclass receiver name tag =>
      cases links
      obtain ⟨id, done, rfl⟩ := ImageM.exists_of_map answered
      rw [Image.subclass_apply wf] at done
      obtain ⟨parent, found, rfl, rfl⟩ := Image.exists_of_conclude done
      obtain ⟨upper, accepted⟩ := Heap.accept_eq_ok_iff.mp found
      obtain ⟨other, ordinary, started⟩ := ClassRecord.refuseSubclass_eq_none_iff.mp accepted
      obtain ⟨above, given⟩ := mirrored _ parent upper started ordinary other
      obtain ⟨record, singleton, mirror, beside⟩ :=
        wf.linksBeside_new name (tag.getD parent.instanceTag) upper started given
      exact ⟨above, _, singleton, record, mirror, rfl, beside⟩
  | declare declaration =>
      obtain ⟨id, done, rfl⟩ := ImageM.exists_of_map answered
      cases declaration with
      | initializeClass declared above =>
          cases links
          rw [Image.declare, Image.initializeClass_apply wf] at done
          obtain ⟨⟨record, parent⟩, found, rfl, rfl⟩ := Image.exists_of_conclude done
          obtain ⟨⟨lower, raw⟩, accepted⟩ := Heap.acceptDeclaration_eq_ok_iff.mp found
          obtain ⟨upper, other, ordinary, started⟩ :=
            Heap.acceptSuperclass_eq_ok_iff.mp accepted
          obtain ⟨above, given⟩ := mirrored _ parent upper started ordinary other
          obtain ⟨joined, singleton, mirror, beside⟩ :=
            wf.linksBeside parent.instanceTag upper started lower raw given
          exact ⟨above, _, singleton, joined, mirror, rfl, beside⟩
      | newClass above =>
          cases links
          rw [Image.declare, Image.newClass_apply wf] at done
          obtain ⟨parent, found, rfl, rfl⟩ := Image.exists_of_conclude done
          obtain ⟨upper, other, ordinary, started⟩ := Heap.acceptSuperclass_eq_ok_iff.mp found
          obtain ⟨above, given⟩ := mirrored _ parent upper started ordinary other
          obtain ⟨joined, singleton, mirror, beside⟩ :=
            wf.linksBeside_new "" parent.instanceTag upper started given
          exact ⟨above, _, singleton, joined, mirror, rfl, beside⟩
  | _ => cases links

end Session.Call

/-- In every reachable heap no ordinary class lacks its singleton class, except perhaps the class
of all classes. -/
theorem Reached.allMirrored [ReentrantMutex] {settings : Settings} {calls : List (Call ObjectId)}
    {image : Image} (reached : Reached settings calls image) :
    Heap.AllMirrored image.builtins image.heap :=
  (reached.induct Heap.AllMirrored (Heap.allMirrored_first settings) Heap.keptByEdits_allMirrored
    fun _ _ _ wf => wf.allMirrored_addClass).2

/-- In every reachable image an initialized class that is neither a singleton class nor the class
of all classes has a singleton class, which is attached to it. So a class that is linked, whether
it is derived, declared anew or initialized, receives a new singleton class. The singleton class
of its superclass owns that one and stands directly above it, and the mirroring ends there: the
new singleton class has none itself. -/
theorem Reached.metaclasses [ReentrantMutex] {settings : Settings} {calls : List (Call ObjectId)}
    {image : Image} (reached : Reached settings calls image) :
    (∀ id record, image.heap.get? id = some (.classRecord record) → record.initialized →
      record.isSingleton = false → id ≠ image.builtins.anchor →
      ∃ singleton mirror, record.singleton = some singleton ∧
        image.heap.get? singleton = some (.classRecord mirror) ∧ mirror.attached = some id) ∧
      ∀ (call : Call ObjectId) superclass value after,
        call.linksBelow image.builtins.root = some superclass →
        call.perform image = .ok value after →
        ∃ above id singleton record mirror, value = .id id ∧
          image.heap.LinksBeside after.heap superclass above id singleton record mirror := by
  have wf := reached.wellFormed
  constructor
  · intro id record stored started ordinary other
    obtain ⟨singleton, given⟩ := reached.allMirrored id record stored started ordinary other
    obtain ⟨mirror, _, isMirror, ⟨_, _, attached, _⟩, _⟩ := wf.exists_mirror stored rfl given
    exact ⟨singleton, mirror, given, isMirror, attached⟩
  · intro call superclass value after links answered
    exact call.linksBeside wf reached.allMirrored links answered

/-- The case of a class declared below the class in slot 5, whose singleton class, in slot 6, has
a singleton class itself: the new singleton class has none. -/
theorem Reached.metaclasses_newClass : ∃ image after upper id singleton record mirror,
    Reached .standard [.singletonClass 6] image ∧
      image.heap.get? 6 = some (.classRecord upper) ∧ upper.singleton = some 13 ∧
      Call.perform (.declare (.newClass (some 5))) image = .ok (.id id) after ∧
      image.heap.LinksBeside after.heap 5 6 id singleton record mirror ∧
      mirror.singleton = none := by
  have reached := Reached.afterFirst .standard [.singletonClass 6]
  let image := (Image.first .standard).afterCalls [.singletonClass 6]
  have superclass : image.heap.get? 5 =
      some (.classRecord (.founder (some 6) 7 (some 3) .object)) := by decide +kernel
  have isMirror : image.heap.get? 6 = some (.classRecord
      { ClassRecord.singletonOf 5 4 4 .classTag with singleton := some 13 }) := by decide +kernel
  have builtins : image.builtins = ⟨0, 3, 5, 8⟩ := by decide +kernel
  have accepted := Heap.acceptSuperclass_eq_ok_iff.mpr
    ⟨superclass, (by rw [builtins]; decide : 5 ≠ image.builtins.anchor), rfl, rfl⟩
  have answered : ∃ value after,
      Call.perform (.declare (.newClass (some 5))) image = .ok value after := by
    rw [Call.perform, ImageM.map_apply, Image.declare, Image.newClass_apply reached.wellFormed,
      Option.getD_some, Image.conclude_of_ok _ accepted]
    exact ⟨_, _, rfl⟩
  obtain ⟨value, after, answered⟩ := answered
  obtain ⟨_, declared⟩ := Reached.metaclasses reached
  obtain ⟨above, id, singleton, record, mirror, same, beside⟩ :=
    declared (.declare (.newClass (some 5))) 5 value after rfl answered
  subst same
  obtain ⟨header, isHeader, given⟩ := beside.upper.of_get? superclass
  cases isHeader
  cases given
  exact ⟨image, after, _, id, singleton, record, mirror, reached, isMirror, rfl, answered, beside,
    beside.bare⟩

end Metamodel
