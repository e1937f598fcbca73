import Metamodel.CountingMutex
import Metamodel.Proofs.Ownership

/-!
# Type tags

The tag of an object is the one that its owner gives to instances. For an instance this is how it
was made. For a class it rests on the classes that can own one: the class of all classes and the
singleton classes of classes. A singleton class gives the tag that its superclass gives, so the
singleton class of a class gives the tag of classes: the superclass chains of those classes lead to
the class of all classes.
-/

namespace Metamodel

open Session

namespace HeapObject

/-- An initialized class that gives a tag to its instances. -/
def GivesTag (tag : TypeTag) (object : HeapObject) : Prop :=
  object.IsInitialized ∧ ∃ record, object = .classRecord record ∧ record.instanceTag = tag

theorem lasting_givesTag (tag : TypeTag) : Lasting (GivesTag tag) := by
  rintro old new evolves ⟨started, record, rfl, gives⟩
  refine ⟨lasting_isInitialized _ _ evolves started, ?_⟩
  cases evolves with
  | classRecord evolves =>
      exact ⟨_, rfl, (evolves.settled_of_initialized started).2.trans gives⟩

/-- A class gives one tag. -/
theorem GivesTag.unique {object : HeapObject} {tag other : TypeTag} (gives : object.GivesTag tag)
    (gives' : object.GivesTag other) : tag = other := by
  obtain ⟨_, record, rfl, same⟩ := gives
  obtain ⟨_, _, ⟨rfl⟩, same'⟩ := gives'
  exact same.symm.trans same'

/-- Tags fit at one object: it has the tag that its owner gives, and if it is a singleton class it
gives the tag that its superclass gives. -/
structure Tagged (heap : Heap) (object : HeapObject) : Prop where
  isClass : ∀ record, object = .classRecord record → record.tag = .classTag
  owner : ∀ header, object.header? = some header → heap.Has header.owner (GivesTag header.tag)
  singleton : ∀ record superclass, object = .classRecord record → record.isSingleton →
    record.superclass = some superclass → heap.Has superclass (GivesTag record.instanceTag)

variable {heap : Heap}

theorem tagged_ordinary {record : ClassRecord} (isClass : record.tag = .classTag)
    (owner : heap.Has record.owner (GivesTag .classTag))
    (unflagged : record.isSingleton = false) : Tagged heap (.classRecord record) where
  isClass := by
    rintro _ ⟨⟩
    exact isClass
  owner := by
    rintro _ ⟨⟩
    rwa [isClass]
  singleton := by
    rintro _ superclass ⟨⟩ flagged
    rw [unflagged] at flagged
    cases flagged

theorem tagged_singletonOf {object superclass owner : ObjectId} {tag : TypeTag}
    {derived : Option ObjectId} (owned : heap.Has owner (GivesTag .classTag))
    (below : heap.Has superclass (GivesTag tag)) :
    Tagged heap (.classRecord
      { ClassRecord.singletonOf object superclass owner tag with singleton := derived }) where
  isClass := by
    rintro _ ⟨⟩
    rfl
  owner := by
    rintro _ ⟨⟩
    exact owned
  singleton := by
    rintro _ _ ⟨⟩ _ ⟨⟩
    exact below

theorem tagged_plain {header : Header} (owner : heap.Has header.owner (GivesTag header.tag)) :
    Tagged heap (.plain header) where
  isClass := by rintro record ⟨⟩
  owner := by
    rintro _ ⟨⟩
    exact owner
  singleton := by rintro record superclass ⟨⟩

theorem tagged_of_isText {object : HeapObject} (textual : object.IsText) : Tagged heap object := by
  cases object with
  | classRecord record => cases textual
  | plain header => cases textual
  | text content => exact ⟨by rintro _ ⟨⟩, by rintro _ ⟨⟩, by rintro _ _ ⟨⟩⟩

end HeapObject

namespace Heap

/-- Tags fit: the class of all classes gives the tag of classes, and they fit at every object. -/
structure Tagged (builtins : Builtins) (heap : Heap) : Prop where
  anchor : heap.Has builtins.anchor (HeapObject.GivesTag .classTag)
  object : ∀ {id : ObjectId} {object : HeapObject}, heap.get? id = some object →
    object.Tagged heap

variable {heap before after : Heap} {builtins : Builtins} {id singleton : ObjectId}
  {record : ClassRecord} {chain : List ObjectId}

theorem Has.givesTag_unique {tag other : TypeTag} (gives : heap.Has id (HeapObject.GivesTag tag))
    (gives' : heap.Has id (HeapObject.GivesTag other)) : tag = other := by
  obtain ⟨object, stored, gives⟩ := gives
  exact gives.unique (gives'.of_get? stored)

/-- A singleton class is initialized. -/
theorem WellFormed.started_of_flagged (wf : heap.WellFormed builtins)
    (stored : heap.get? id = some (.classRecord record)) (flagged : record.isSingleton) :
    record.initialized := by
  by_contra raw
  rw [Bool.not_eq_true] at raw
  obtain ⟨_, _, unflagged⟩ := ((wf.sound stored).classRecord record rfl).apart raw
  rw [unflagged] at flagged
  cases flagged

/-- A singleton class has a superclass, for only the root has none. -/
theorem WellFormed.exists_superclass_of_flagged (wf : heap.WellFormed builtins)
    (stored : heap.get? id = some (.classRecord record)) (flagged : record.isSingleton) :
    ∃ superclass, record.superclass = some superclass := by
  cases next : record.superclass with
  | some superclass => exact ⟨superclass, rfl⟩
  | none =>
      have started := wf.started_of_flagged stored flagged
      obtain rfl := (wf.superclass_eq_none_iff stored started).mp next
      have unflagged : record.isSingleton = false := (wf.root_isOrdinary.of_get? stored).2
      rw [unflagged] at flagged
      cases flagged

/-- Tags go on fitting in a heap that continues this one, if they fit at what is new. -/
theorem Tagged.continues (continues : before.Continues after) (wf : after.WellFormed builtins)
    (anchor : before.Has builtins.anchor (HeapObject.GivesTag .classTag))
    (fits : ∀ {id : ObjectId} {object : HeapObject}, after.get? id = some object →
      object.Tagged before) : Tagged builtins after where
  anchor := anchor.continues (HeapObject.lasting_givesTag _) continues
    wf.anchor_isOrdinary.contains
  object := by
    intro id object stored
    have old := fits stored
    refine ⟨old.isClass, ?_, ?_⟩
    · intro header isHeader
      exact (old.owner header isHeader).continues (HeapObject.lasting_givesTag _) continues
        ((wf.sound stored).header header isHeader).owner.contains
    · rintro record superclass rfl flagged next
      obtain ⟨_, lineage⟩ := wf.exists_lineage_above stored next
      exact (old.singleton record superclass rfl flagged next).continues
        (HeapObject.lasting_givesTag _) continues lineage.isInitialized.contains

/-- The class that a singleton class is below gives the tag that the singleton class gives. -/
theorem Tagged.below (tagged : Tagged builtins heap) {superclass : ObjectId}
    (stored : heap.get? id = some (.classRecord record)) (flagged : record.isSingleton)
    (next : record.superclass = some superclass) {tag : TypeTag}
    (gives : heap.Has superclass (HeapObject.GivesTag tag)) : record.instanceTag = tag :=
  ((tagged.object stored).singleton record superclass rfl flagged next).givesTag_unique gives

/-- The singleton class of a class gives the tag of classes, by induction on the superclass chain of
the class: that of the root is below the class of all classes, and any other one below the
singleton class of the superclass. -/
theorem Tagged.givesTag_singleton (tagged : Tagged builtins heap) (wf : heap.WellFormed builtins)
    (lineage : heap.Lineage builtins.root id chain)
    (has : heap.Has id (HeapObject.HasSingleton singleton)) :
    heap.Has singleton (HeapObject.GivesTag .classTag) := by
  induction lineage generalizing singleton with
  | root stored started top =>
      obtain ⟨record, stored', given⟩ := Has.exists_singleton ⟨_, stored, started⟩ has
      obtain rfl := classRecord_inj stored stored'
      obtain ⟨mirror, superclass, isMirror, ⟨started', flagged, _, next⟩, below⟩ :=
        wf.exists_mirror stored rfl given
      obtain rfl := below.of_top top
      exact ⟨_, isMirror, started', mirror, rfl, tagged.below isMirror flagged next tagged.anchor⟩
  | under stored started above _ ih =>
      obtain ⟨record, stored', given⟩ := Has.exists_singleton ⟨_, stored, started⟩ has
      obtain rfl := classRecord_inj stored stored'
      obtain ⟨mirror, superclass, isMirror, ⟨started', flagged, _, next⟩, below⟩ :=
        wf.exists_mirror stored rfl given
      have gives := ih (below.of_superclass above)
      exact ⟨_, isMirror, started', mirror, rfl, tagged.below isMirror flagged next gives⟩

/-- The singleton class of a stored class. -/
theorem Tagged.givesTag_of_class (tagged : Tagged builtins heap) (wf : heap.WellFormed builtins)
    (stored : heap.get? id = some (.classRecord record))
    (given : record.singleton = some singleton) :
    heap.Has singleton (HeapObject.GivesTag .classTag) := by
  have started := ((wf.sound stored).classRecord record rfl).started (.inr (by simp [given]))
  obtain ⟨chain, lineage⟩ := wf.exists_lineage ⟨_, stored, started⟩
  exact tagged.givesTag_singleton wf lineage ⟨_, stored, _, rfl, given⟩

/-- The owner of a class gives the tag of classes. -/
theorem Tagged.owner_of_class (tagged : Tagged builtins heap)
    (stored : heap.get? id = some (.classRecord record)) :
    heap.Has record.owner (HeapObject.GivesTag .classTag) := by
  have fits := tagged.object stored
  exact fits.isClass record rfl ▸ fits.owner record.header rfl

/-- Tags fit at an object that has evolved without being initialized. -/
theorem Tagged.kept (tagged : Tagged builtins before) (wf : before.WellFormed builtins)
    {old new : HeapObject} (found : before.get? id = some old) (evolves : old.Evolves new) :
    new.Tagged before := by
  have fits := tagged.object found
  cases evolves with
  | @classRecord old new evolves =>
      cases flagged : new.isSingleton with
      | false =>
          refine HeapObject.tagged_ordinary ?_ ?_ flagged
          · exact evolves.header.tag.trans (fits.isClass old rfl)
          · exact evolves.header.owner ▸ tagged.owner_of_class found
      | true =>
          have flagged' := evolves.isSingleton.symm.trans flagged
          have settled := evolves.settled_of_initialized (wf.started_of_flagged found flagged')
          refine ⟨?_, ?_, ?_⟩
          · rintro _ ⟨⟩
            exact evolves.header.tag.trans (fits.isClass old rfl)
          · rintro _ ⟨⟩
            exact evolves.header.owner ▸ evolves.header.tag ▸ fits.owner old.header rfl
          · rintro _ superclass ⟨⟩ _ next
            exact settled.2 ▸ fits.singleton old superclass rfl flagged' (settled.1.symm.trans next)
  | @plain old new evolves =>
      exact HeapObject.tagged_plain
        (evolves.owner ▸ evolves.tag ▸ fits.owner old rfl)
  | text content => exact HeapObject.tagged_of_isText trivial

theorem keptByEdits_tagged : KeptByEdits Tagged := by
  intro builtins before after wf edit tagged
  refine .continues (edit.continues wf) (edit.wellFormed wf) tagged.anchor ?_
  intro id object stored
  cases edit.edited wf stored with
  | kept found evolves _ => exact tagged.kept wf found evolves
  | @linked _ _ record _ _ _ _ _ _ _ raw origin _ =>
      have unflagged := wf.unflagged_of_raw raw origin
      rcases origin with lower | rfl
      · have owned := tagged.owner_of_class lower
        have isClass := (tagged.object lower).isClass record rfl
        exact HeapObject.tagged_ordinary isClass owned unflagged
      · exact HeapObject.tagged_ordinary rfl tagged.anchor unflagged
  | mirror upper given isAbove =>
      have gives := tagged.givesTag_of_class wf upper given
      have started := (wf.isInitialized_singleton upper rfl given).of_get? isAbove
      exact HeapObject.tagged_singletonOf gives ⟨_, isAbove, started, _, rfl, rfl⟩
  | singleton target below upper =>
      have started := (wf.isInitialized_above target below).of_get? upper
      exact HeapObject.tagged_singletonOf (tagged.owner_of_class upper)
        ⟨_, upper, started, _, rfl, rfl⟩
  | «instance» upper started _ => exact HeapObject.tagged_plain ⟨_, upper, started, _, rfl, rfl⟩
  | text textual => exact HeapObject.tagged_of_isText textual

theorem tagged_first [ReentrantMutex] (settings : Settings) :
    Tagged (Image.first settings).builtins (Image.first settings).heap := by
  have anchor : (Image.first settings).heap.Has 0 (HeapObject.GivesTag .classTag) :=
    ⟨_, rfl, rfl, _, rfl, rfl⟩
  refine ⟨anchor, ?_⟩
  intro id object stored
  cases object with
  | classRecord record =>
      cases firstClass_of_get? stored with
      | anchor => exact HeapObject.tagged_ordinary rfl anchor rfl
      | root => exact HeapObject.tagged_ordinary rfl anchor rfl
      | rootMirror => exact HeapObject.tagged_singletonOf anchor anchor
      | objectClass => exact HeapObject.tagged_ordinary rfl anchor rfl
      | objectMirror =>
          have above : (Image.first settings).heap.Has 4 (HeapObject.GivesTag .classTag) :=
            ⟨_, rfl, rfl, _, rfl, rfl⟩
          exact HeapObject.tagged_singletonOf above above
      | moduleClass => exact HeapObject.tagged_ordinary rfl anchor rfl
      | moduleMirror =>
          have above : (Image.first settings).heap.Has 6 (HeapObject.GivesTag .classTag) :=
            ⟨_, rfl, rfl, _, rfl, rfl⟩
          exact HeapObject.tagged_singletonOf above above
  | plain header =>
      have mem := mem_firstObjects stored
      simp [firstObjects] at mem
  | text content => exact HeapObject.tagged_of_isText trivial

/-- A class that is only allocated has the tag that the class of all classes gives. -/
theorem WellFormed.tagged_addClass (wf : heap.WellFormed builtins) (tagged : Tagged builtins heap) :
    Tagged builtins (heap.addClass builtins.anchor) := by
  have continues := (grows_allocate wf.tidy (.classRecord (.fresh builtins.anchor))).continues
  refine .continues continues wf.addClass tagged.anchor ?_
  intro id object stored
  rw [get?_addClass wf.tidy] at stored
  split at stored
  · cases stored
    exact HeapObject.tagged_ordinary rfl tagged.anchor rfl
  · exact tagged.object stored

end Heap

/-- In every reachable heap tags fit. -/
theorem Reached.tagged [ReentrantMutex] {settings : Settings} {calls : List (Call ObjectId)}
    {image : Image}
    (reached : Reached settings calls image) : Heap.Tagged image.builtins image.heap :=
  (reached.induct Heap.Tagged (Heap.tagged_first settings) Heap.keptByEdits_tagged
    fun _ _ _ wf => wf.tagged_addClass).2

/-- In every reachable image each class and each instance has the tag that its owner gives to
instances; for a class this is the tag of classes. Each singleton class gives the tag that its
superclass gives. So the singleton class of a class, which may be a singleton class itself, gives
the tag of classes, and the singleton class of an instance gives the tag of the instance. -/
theorem Reached.tags_agree [ReentrantMutex] {settings : Settings} {calls : List (Call ObjectId)}
    {image : Image} (reached : Reached settings calls image) :
    (∀ id object header, image.heap.get? id = some object → object.header? = some header →
      ∃ owner, image.heap.get? header.owner = some (.classRecord owner) ∧
        owner.instanceTag = header.tag) ∧
      (∀ id record, image.heap.get? id = some (.classRecord record) → record.tag = .classTag) ∧
      (∀ id record, image.heap.get? id = some (.classRecord record) → record.isSingleton →
        ∃ superclass parent, record.superclass = some superclass ∧
          image.heap.get? superclass = some (.classRecord parent) ∧
          record.instanceTag = parent.instanceTag) ∧
      (∀ id record singleton, image.heap.get? id = some (.classRecord record) →
        record.singleton = some singleton →
        ∃ mirror, image.heap.get? singleton = some (.classRecord mirror) ∧
          mirror.instanceTag = .classTag) ∧
      ∀ id header singleton, image.heap.get? id = some (.plain header) →
        header.singleton = some singleton →
        ∃ mirror, image.heap.get? singleton = some (.classRecord mirror) ∧
          mirror.instanceTag = header.tag := by
  have wf := reached.wellFormed
  have tagged := reached.tagged
  refine ⟨?_, ?_, ?_, ?_, ?_⟩
  · intro id object header stored isHeader
    obtain ⟨_, isOwner, _, owner, rfl, same⟩ := (tagged.object stored).owner header isHeader
    exact ⟨owner, isOwner, same⟩
  · intro id record stored
    exact (tagged.object stored).isClass record rfl
  · intro id record stored flagged
    obtain ⟨superclass, next⟩ := wf.exists_superclass_of_flagged stored flagged
    obtain ⟨_, isParent, _, parent, rfl, same⟩ :=
      (tagged.object stored).singleton record superclass rfl flagged next
    exact ⟨superclass, parent, next, isParent, same.symm⟩
  · intro id record singleton stored given
    obtain ⟨_, isMirror, _, mirror, rfl, same⟩ := tagged.givesTag_of_class wf stored given
    exact ⟨mirror, isMirror, same⟩
  · intro id header singleton stored given
    obtain ⟨mirror, _, isMirror, ⟨_, flagged, _⟩, _⟩ := wf.exists_mirror stored rfl given
    have next := wf.superclass_of_plain stored given isMirror
    have gives := (tagged.object stored).owner header rfl
    exact ⟨mirror, isMirror, tagged.below isMirror flagged next gives⟩

/-- The case of an instance, in slot 13, of a class that is allocated in slot 11 and initialized
below the class of modules. The class gives the tag of modules only since then; its singleton class,
in slot 12, gives the tag of classes, and that of the instance, in slot 14, the tag of modules. -/
theorem Reached.tags_agree_newObject : ∃ image owner mirror upper,
    Reached .standard [.allocateClass, .declare (.initializeClass 11 (some 8)), .newObject 11,
        .singletonClass 13] image ∧
      image.heap.get? 13 = some (.plain ⟨.moduleTag, 11, some 14⟩) ∧
      image.heap.get? 11 = some (.classRecord owner) ∧ owner.instanceTag = .moduleTag ∧
      image.heap.get? 14 = some (.classRecord mirror) ∧ mirror.instanceTag = .moduleTag ∧
      image.heap.get? 12 = some (.classRecord upper) ∧ upper.instanceTag = .classTag := by
  have reached := Reached.afterFirst .standard
    [.allocateClass, .declare (.initializeClass 11 (some 8)), .newObject 11, .singletonClass 13]
  let image := (Image.first .standard).afterCalls
    [.allocateClass, .declare (.initializeClass 11 (some 8)), .newObject 11, .singletonClass 13]
  have isInstance : image.heap.get? 13 = some (.plain ⟨.moduleTag, 11, some 14⟩) := by
    decide +kernel
  have isClass : image.heap.get? 11 = some (.classRecord { ClassRecord.fresh 0 with
      superclass := some 8, instanceTag := .moduleTag, initialized := true,
      singleton := some 12 }) := by decide +kernel
  obtain ⟨owners, _, _, classes, instances⟩ := Reached.tags_agree reached
  obtain ⟨owner, isOwner, gives⟩ := owners 13 _ _ isInstance rfl
  obtain ⟨mirror, isMirror, gives'⟩ := instances 13 _ 14 isInstance rfl
  obtain ⟨upper, isUpper, gives''⟩ := classes 11 _ 12 isClass rfl
  exact ⟨image, owner, mirror, upper, reached, isInstance, isOwner, gives, isMirror, gives',
    isUpper, gives''⟩

end Metamodel
