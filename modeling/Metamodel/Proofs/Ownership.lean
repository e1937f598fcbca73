import Metamodel.CountingMutex
import Metamodel.Proofs.Layers
import Metamodel.Proofs.Pairing

/-!
# Ownership

Every class and every instance has an owner, which is a class and has an owner in turn. The owners
of an object form a row that ends at the class of all classes, the only object that owns itself.
The row is finite because the owner of a class is the class of all classes or stands above it: an
owner has the shorter superclass chain. A class that has another owner is the singleton class of a
class and is owned by one.
-/

namespace Metamodel

open Session

namespace Heap

/-- The owners of an object one after another, up to the class of all classes. -/
inductive Owners (heap : Heap) (anchor : ObjectId) : ObjectId → List ObjectId → Prop
  | last {id : ObjectId} {object : HeapObject} {header : Header} :
      heap.get? id = some object → object.header? = some header → header.owner = anchor →
      Owners heap anchor id [anchor]
  | next {id : ObjectId} {object : HeapObject} {header : Header} {above : List ObjectId} :
      heap.get? id = some object → object.header? = some header → header.owner ≠ anchor →
      Owners heap anchor header.owner above → Owners heap anchor id (header.owner :: above)

/-- The singleton class of a class. -/
def IsMirror (heap : Heap) (id : ObjectId) : Prop :=
  ∃ lower record, heap.get? lower = some (.classRecord record) ∧ record.singleton = some id

/-- Every class is owned by the class of all classes or by the singleton class of a class. -/
def Owned (builtins : Builtins) (heap : Heap) : Prop :=
  ∀ id record, heap.get? id = some (.classRecord record) →
    record.owner = builtins.anchor ∨ heap.IsMirror record.owner

variable {heap before after : Heap} {builtins : Builtins} {id : ObjectId} {record : ClassRecord}
  {chain : List ObjectId}

/-- The singleton class of a class remains one as long as it is there. -/
theorem IsMirror.continues (mirrors : before.IsMirror id) (wf : before.WellFormed builtins)
    (continues : before.Continues after) (kept : after.contains id) : after.IsMirror id := by
  obtain ⟨lower, record, stored, given⟩ := mirrors
  obtain ⟨mirror, isMirror, _, attached⟩ := wf.has_singleton_iff.mp ⟨_, stored, _, rfl, given⟩
  have kept' := continues.closed isMirror kept (.inr (.inr (.inr (.inl attached))))
    (contains_iff.mpr ⟨_, stored⟩)
  obtain ⟨new, stored'⟩ := contains_iff.mp kept'
  cases continues.evolves stored stored' with
  | classRecord evolves => exact ⟨lower, _, stored', evolves.header.singleton id given⟩

theorem keptByEdits_owned : KeptByEdits Owned := by
  intro builtins before after wf edit owned id record stored
  have sound := (edit.wellFormed wf).sound stored
  have live : after.contains record.owner := (sound.header _ rfl).owner.contains
  cases edit.edited wf stored with
  | kept found evolves _ =>
      cases evolves with
      | classRecord evolves =>
          have same := evolves.header.owner
          rcases owned id _ found with isAnchor | mirrors
          · exact .inl (same.trans isAnchor)
          · exact .inr (IsMirror.continues (same ▸ mirrors) wf (edit.continues wf) live)
  | linked _ _ _ _ raw origin _ =>
      have unflagged := wf.unflagged_of_raw raw origin
      exact .inl ((sound.classRecord _ rfl).owner unflagged)
  | mirror upper given _ =>
      exact .inr (IsMirror.continues ⟨_, _, upper, given⟩ wf (edit.continues wf) live)
  | singleton _ _ upper =>
      rcases owned _ _ upper with isAnchor | mirrors
      · exact .inl isAnchor
      · exact .inr (mirrors.continues wf (edit.continues wf) live)
  | text textual => cases textual

theorem owned_first [ReentrantMutex] (settings : Settings) :
    Owned (Image.first settings).builtins (Image.first settings).heap := by
  intro id record stored
  cases firstClass_of_get? stored with
  | anchor => exact .inl rfl
  | root => exact .inl rfl
  | rootMirror => exact .inl rfl
  | objectClass => exact .inl rfl
  | objectMirror => exact .inr ⟨3, _, rfl, rfl⟩
  | moduleClass => exact .inl rfl
  | moduleMirror => exact .inr ⟨5, _, rfl, rfl⟩

/-- A class that is only allocated is owned by the class of all classes. -/
theorem WellFormed.owned_addClass (wf : heap.WellFormed builtins) (owned : Owned builtins heap) :
    Owned builtins (heap.addClass builtins.anchor) := by
  intro id record stored
  have live := ((wf.addClass.sound stored).header _ rfl).owner.contains
  rw [get?_addClass wf.tidy] at stored
  split at stored
  · cases stored
    exact .inl rfl
  · have continues := (grows_allocate wf.tidy (.classRecord (.fresh builtins.anchor))).continues
    exact (owned id record stored).imp_right fun mirrors => mirrors.continues wf continues live

/-- The owner of a class is the class of all classes or has a shorter superclass chain. -/
theorem Layered.owner_shorter (layered : heap.Layered) (wf : heap.WellFormed builtins)
    (lineage : heap.Lineage builtins.root id chain)
    (stored : heap.get? id = some (.classRecord record)) :
    record.owner = builtins.anchor ∨
      ∃ rest, heap.Lineage builtins.root record.owner rest ∧ rest.length < chain.length := by
  cases lineage with
  | root => exact .inl (((wf.sound stored).classRecord record rfl).owner
      (wf.root_isOrdinary.of_get? stored).2)
  | @under _ superclass _ above stored' _ next lineage =>
      obtain rfl := classRecord_inj stored stored'
      obtain ⟨parent, upper, _⟩ := lineage.isInitialized.exists_classRecord
      rcases layered.owner_cases wf stored next upper with isAnchor | same | same
      · exact .inl isAnchor
      · exact .inr ⟨above, same ▸ lineage, Nat.lt_succ_self _⟩
      · rcases layered.owner_mem wf lineage upper with isAnchor | mem
        · exact .inl (same.trans isAnchor)
        · obtain ⟨rest, lineage', suffix⟩ := lineage.exists_suffix mem
          exact .inr ⟨rest, same ▸ lineage', Nat.lt_succ_of_le suffix.length_le⟩

/-- The owners of a class, by induction on the length of its superclass chain. -/
theorem Layered.exists_owners_of_lineage (layered : heap.Layered) (wf : heap.WellFormed builtins)
    (lineage : heap.Lineage builtins.root id chain) :
    ∃ owners, heap.Owners builtins.anchor id owners := by
  induction length : chain.length using Nat.strongRecOn generalizing id chain with
  | _ steps ih =>
      obtain ⟨record, stored, _⟩ := lineage.isInitialized.exists_classRecord
      by_cases isAnchor : record.owner = builtins.anchor
      · exact ⟨_, .last stored rfl isAnchor⟩
      · obtain ⟨rest, lineage', shorter⟩ :=
          (layered.owner_shorter wf lineage stored).resolve_left isAnchor
        obtain ⟨owners, further⟩ := ih _ (length ▸ shorter) lineage' rfl
        exact ⟨_, .next stored rfl isAnchor further⟩

/-- Every class and every instance has a row of owners. -/
theorem Layered.exists_owners (layered : heap.Layered) (wf : heap.WellFormed builtins)
    {object : HeapObject} {header : Header} (stored : heap.get? id = some object)
    (isHeader : object.header? = some header) :
    ∃ owners, heap.Owners builtins.anchor id owners := by
  by_cases isAnchor : header.owner = builtins.anchor
  · exact ⟨_, .last stored isHeader isAnchor⟩
  · obtain ⟨chain, lineage⟩ := wf.exists_lineage ((wf.sound stored).header header isHeader).owner
    obtain ⟨owners, further⟩ := layered.exists_owners_of_lineage wf lineage
    exact ⟨_, .next stored isHeader isAnchor further⟩

theorem Owners.getLast? {anchor : ObjectId} (owners : heap.Owners anchor id chain) :
    chain.getLast? = some anchor := by
  induction owners with
  | last => rfl
  | next _ _ _ _ ih =>
      rw [List.getLast?_cons, ih]
      rfl

/-- All owners in the row are initialized classes. -/
theorem Owners.isInitialized (owners : heap.Owners builtins.anchor id chain)
    (wf : heap.WellFormed builtins) :
    ∀ owner ∈ chain, heap.Has owner HeapObject.IsInitialized := by
  induction owners with
  | last =>
      rw [List.forall_mem_singleton]
      exact wf.anchor_isOrdinary.isInitialized
  | next stored isHeader _ _ ih =>
      rw [List.forall_mem_cons]
      exact ⟨((wf.sound stored).header _ isHeader).owner, ih⟩

/-- Only the class of all classes owns itself. -/
theorem Layered.owner_eq_self_iff (layered : heap.Layered) (wf : heap.WellFormed builtins)
    {object : HeapObject} {header : Header} (stored : heap.get? id = some object)
    (isHeader : object.header? = some header) : header.owner = id ↔ id = builtins.anchor := by
  constructor
  · intro self
    have owner := ((wf.sound stored).header header isHeader).owner
    obtain ⟨record, isClass, _⟩ := owner.exists_classRecord
    rw [self, stored] at isClass
    cases isClass
    cases isHeader
    obtain ⟨chain, lineage⟩ := wf.exists_lineage (self ▸ owner)
    rcases layered.owner_shorter wf lineage stored with isAnchor | ⟨rest, lineage', shorter⟩
    · exact self.symm.trans isAnchor
    · rw [lineage.unique (self ▸ lineage')] at shorter
      exact absurd shorter (Nat.lt_irrefl _)
  · rintro rfl
    obtain ⟨record, isClass, _⟩ := wf.anchor_isOrdinary.isInitialized.exists_classRecord
    rw [stored] at isClass
    cases isClass
    cases isHeader
    exact ((wf.sound stored).classRecord record rfl).owner (wf.anchor_isOrdinary.of_get? stored).2

/-- The singleton class of an instance is owned by the class of all classes: the class above it is
no singleton class, so it can be owned neither by that class nor by a singleton class. -/
theorem Layered.owner_of_plain (layered : heap.Layered) (wf : heap.WellFormed builtins)
    (owned : Owned builtins heap) {header : Header} {singleton : ObjectId} {mirror : ClassRecord}
    (stored : heap.get? id = some (.plain header)) (given : header.singleton = some singleton)
    (isMirror : heap.get? singleton = some (.classRecord mirror)) :
    mirror.owner = builtins.anchor := by
  have next := wf.superclass_of_plain stored given isMirror
  have ordinary := (wf.sound stored).plain header rfl
  obtain ⟨parent, upper, _⟩ := ordinary.isInitialized.exists_classRecord
  have unflagged : parent.isSingleton = false := (ordinary.of_get? upper).2
  rcases layered.owner_cases wf isMirror next upper with isAnchor | same | same
  · exact isAnchor
  · rcases owned singleton mirror isMirror with isAnchor | ⟨lower, record, isLower, lowers⟩
    · exact isAnchor
    · obtain ⟨other, isOther, flagged, _⟩ :=
        wf.has_singleton_iff.mp ⟨_, isLower, _, rfl, lowers⟩
      rw [same, upper] at isOther
      cases isOther
      rw [unflagged] at flagged
      cases flagged
  · exact same.trans (((wf.sound upper).classRecord parent rfl).owner unflagged)

end Heap

/-- In every reachable heap each class has an owner that fits. -/
theorem Reached.owned [ReentrantMutex] {settings : Settings} {calls : List (Call ObjectId)}
    {image : Image}
    (reached : Reached settings calls image) : Heap.Owned image.builtins image.heap :=
  (reached.induct Heap.Owned (Heap.owned_first settings) Heap.keptByEdits_owned
    fun _ _ _ wf => wf.owned_addClass).2

/-- In every reachable image the owners of each class and each instance form a finite row of
initialized classes that ends at the class of all classes, which alone owns itself. A class that is
no singleton class is owned by the class of all classes, and so is the singleton class of an
instance. Any other singleton class is owned by the class of all classes or by the singleton class
of a class. -/
theorem Reached.owner_rows [ReentrantMutex] {settings : Settings} {calls : List (Call ObjectId)}
    {image : Image} (reached : Reached settings calls image) :
    (∀ id object header, image.heap.get? id = some object → object.header? = some header →
      ∃ owners, image.heap.Owners image.builtins.anchor id owners ∧
        (∀ owner ∈ owners, image.heap.Has owner HeapObject.IsInitialized) ∧
        owners.getLast? = some image.builtins.anchor) ∧
      (∀ id object header, image.heap.get? id = some object → object.header? = some header →
        (header.owner = id ↔ id = image.builtins.anchor)) ∧
      (∀ id record, image.heap.get? id = some (.classRecord record) →
        record.isSingleton = false → record.owner = image.builtins.anchor) ∧
      (∀ id header singleton, image.heap.get? id = some (.plain header) →
        header.singleton = some singleton → ∃ mirror,
          image.heap.get? singleton = some (.classRecord mirror) ∧
            mirror.owner = image.builtins.anchor) ∧
      ∀ id record, image.heap.get? id = some (.classRecord record) → record.isSingleton →
        record.owner = image.builtins.anchor ∨ ∃ lower below,
          image.heap.get? lower = some (.classRecord below) ∧
            below.singleton = some record.owner := by
  have wf := reached.wellFormed
  have layered := reached.layered
  refine ⟨?_, ?_, ?_, ?_, ?_⟩
  · intro id object header stored isHeader
    obtain ⟨owners, row⟩ := layered.exists_owners wf stored isHeader
    exact ⟨owners, row, row.isInitialized wf, row.getLast?⟩
  · intro id object header stored isHeader
    exact layered.owner_eq_self_iff wf stored isHeader
  · intro id record stored unflagged
    exact ((wf.sound stored).classRecord record rfl).owner unflagged
  · intro id header singleton stored given
    obtain ⟨mirror, _, isMirror, _⟩ := wf.exists_mirror stored rfl given
    exact ⟨mirror, isMirror, layered.owner_of_plain wf reached.owned stored given isMirror⟩
  · intro id record stored _
    exact reached.owned id record stored

/-- The case of an instance, in slot 11, of the class in slot 5. Its singleton class, in slot 12,
is owned by the class of all classes, and the singleton class of that one, in slot 13, by the
singleton class of the class of the instance. -/
theorem Reached.owner_rows_newObject : ∃ image mirror,
    Reached .standard [.newObject 5, .singletonClass 11] image ∧
      image.heap.get? 12 = some (.classRecord mirror) ∧ mirror.owner = 0 ∧
      image.heap.get? 13 = some (.classRecord (.singletonOf 12 6 6 .classTag)) ∧
      (∃ owners, image.heap.Owners 0 13 owners ∧ owners.getLast? = some 0) ∧
      ∃ lower below, image.heap.get? lower = some (.classRecord below) ∧
        below.singleton = some 6 := by
  have reached := Reached.afterFirst .standard
    [.newObject 5, .singletonClass 11]
  let image := (Image.first .standard).afterCalls [.newObject 5, .singletonClass 11]
  have builtins : image.builtins = ⟨0, 3, 5, 8⟩ := by decide +kernel
  have isInstance : image.heap.get? 11 = some (.plain ⟨.object, 5, some 12⟩) := by decide +kernel
  have above : image.heap.get? 13 = some (.classRecord (.singletonOf 12 6 6 .classTag)) := by
    decide +kernel
  obtain ⟨rows, _, _, plain, flagged⟩ := Reached.owner_rows reached
  obtain ⟨mirror, isMirror, isAnchor⟩ := plain 11 _ 12 isInstance rfl
  obtain ⟨owners, row, _, last⟩ := rows 13 _ _ above rfl
  have other := (flagged 13 _ above rfl).resolve_left (by rw [builtins]; decide)
  rw [builtins] at isAnchor row last
  exact ⟨image, mirror, reached, isMirror, isAnchor, above, ⟨owners, row, last⟩, other⟩

end Metamodel
