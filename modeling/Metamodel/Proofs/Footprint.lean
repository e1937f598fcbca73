import Metamodel.CountingMutex
import Metamodel.Proofs.Allocation
import Metamodel.Proofs.Metaclasses

/-!
# Footprints

What the operations that derive, declare and name classes or make instances leave in a heap: the
objects that they add, the ones among those that were there that they change, and that nothing
else is touched. Each operation adds the same number of objects whenever it is not refused, up to
the text of a name, because every class that can be inherited from has a singleton class to be
mirrored.

## Implementation notes

The view of the heap after an operation says what is added. The counts follow from it, because the
ids that an operation gives out are then known (`Adds.gains`).
-/

namespace Metamodel

open Session

namespace Heap

/-- A heap with further objects, listed with their ids, and with the same ones besides, except
where it is changed. -/
structure Adds (before after : Heap) (changed : List ObjectId)
    (added : List (ObjectId × HeapObject)) : Prop where
  nodup : (added.map Prod.fst).Nodup
  fresh : ∀ new ∈ added, before.get? new.1 = none
  stored : ∀ new ∈ added, after.get? new.1 = some new.2
  frame : ∀ id, id ∉ changed → id ∉ added.map Prod.fst → after.get? id = before.get? id

/-- The same with the counts: each of the further objects is allocated and is there, and nothing
else is. -/
structure Gains (before after : Heap) (changed : List ObjectId)
    (added : List (ObjectId × HeapObject)) : Prop extends Adds before after changed added where
  liveCount : after.liveCount = before.liveCount + added.length
  allocated : after.allocated = before.allocated + added.length

variable {before middle after : Heap} {builtins : Builtins} {changed ids : List ObjectId}
  {added : List (ObjectId × HeapObject)} {id superclass subclass above : ObjectId}
  {record parent mirrored : ClassRecord}

/-- What is placed is counted. -/
theorem Places.liveCount (places : before.Places ids after) :
    after.liveCount = before.liveCount + ids.length := by
  have apart : (before.liveIds ++ ids).Nodup := by
    refine List.nodup_append.mpr ⟨nodup_liveIds before, places.nodup, ?_⟩
    rintro id live _ new rfl
    exact Bool.false_ne_true ((places.fresh id new).symm.trans (mem_liveIds.mp live))
  have same : after.liveIds.Perm (before.liveIds ++ ids) := by
    refine (List.perm_ext_iff_of_nodup (nodup_liveIds after) apart).mpr fun id => ?_
    rw [List.mem_append, mem_liveIds, mem_liveIds, places.contains_iff]
  rw [← length_liveIds, ← length_liveIds, same.length_eq, List.length_append]

/-- The objects that a heap has in addition are the ones that are placed in it. -/
theorem Adds.gains (adds : before.Adds after changed added) (places : before.Places ids after)
    (live : ∀ id ∈ changed, before.contains id) : before.Gains after changed added := by
  have same : ids.Perm (added.map Prod.fst) := by
    refine (List.perm_ext_iff_of_nodup places.nodup adds.nodup).mpr fun id => ?_
    constructor
    · intro placed
      have there := (places.contains_iff id).mpr (.inr placed)
      have unused := places.fresh id placed
      by_contra missing
      have untouched : id ∉ changed := fun mem =>
        Bool.false_ne_true (unused.symm.trans (live id mem))
      rw [contains, adds.frame id untouched missing, ← contains, unused] at there
      cases there
    · intro mem
      obtain ⟨new, isNew, rfl⟩ := List.mem_map.mp mem
      have there := contains_iff.mpr ⟨_, adds.stored new isNew⟩
      refine ((places.contains_iff _).mp there).resolve_left ?_
      simp [contains, adds.fresh new isNew]
  have total : ids.length = added.length := by rw [same.length_eq, List.length_map]
  exact { adds with
    liveCount := by rw [places.liveCount, total]
    allocated := by rw [places.allocated, total] }

/-- What is there and may not change is as it was. -/
theorem Adds.kept (adds : before.Adds after changed added) {object : HeapObject}
    (found : before.get? id = some object) (spared : id ∉ changed) :
    after.get? id = some object := by
  rw [adds.frame id spared, found]
  intro mem
  obtain ⟨new, isNew, rfl⟩ := List.mem_map.mp mem
  rw [adds.fresh new isNew] at found
  cases found

/-- One further object. -/
theorem Adds.single {object : HeapObject} (fresh : before.get? id = none)
    (stored : after.get? id = some object)
    (frame : ∀ other, other ∉ changed → other ≠ id → after.get? other = before.get? other) :
    before.Adds after changed [(id, object)] where
  nodup := List.nodup_singleton _
  fresh := List.forall_mem_singleton.mpr fresh
  stored := List.forall_mem_singleton.mpr stored
  frame := fun other spared old => frame other spared fun same =>
    old (List.mem_singleton.mpr same)

theorem adds_allocate (tidy : before.Tidy) (object : HeapObject) :
    before.Adds (before.allocate object).2 [] [(before.nextId, object)] := by
  have view := fun id => tidy.get?_allocate object id
  exact .single tidy.get?_nextId ((view _).trans (if_pos rfl))
    fun other _ ne => (view other).trans (if_neg ne)

/-- An object that is added and then changed, while others are added. -/
theorem Adds.then_changed {first last : HeapObject}
    (fresh : before.Adds middle [] [(id, first)]) (adds : middle.Adds after [id] added)
    (stored : after.get? id = some last) : before.Adds after [] ((id, last) :: added) := by
  have there : middle.get? id = some first := fresh.stored (id, first) (by simp)
  have apart : ∀ new ∈ added, new.1 ≠ id := by
    rintro new isNew rfl
    rw [adds.fresh new isNew] at there
    cases there
  have earlier : ∀ other, other ≠ id → middle.get? other = before.get? other := fun other ne =>
    fresh.frame other List.not_mem_nil (mt List.mem_singleton.mp ne)
  refine ⟨?_, List.forall_mem_cons.mpr ⟨?_, ?_⟩, List.forall_mem_cons.mpr ⟨stored, adds.stored⟩,
    ?_⟩
  · refine List.nodup_cons.mpr ⟨fun mem => ?_, adds.nodup⟩
    obtain ⟨new, isNew, same⟩ := List.mem_map.mp mem
    exact apart new isNew same
  · exact fresh.fresh (id, first) (by simp)
  · intro new isNew
    rw [← earlier new.1 (apart new isNew)]
    exact adds.fresh new isNew
  · intro other _ old
    obtain ⟨ne, missing⟩ := not_or.mp fun mem => old (List.mem_cons.mpr mem)
    rw [adds.frame other (mt List.mem_singleton.mp ne) missing, earlier other ne]

/-- A class with its own singleton class, which is attached to it. -/
def Mirrors (id : ObjectId) (record : ClassRecord) (singleton : ObjectId) (mirror : ClassRecord) :
    Prop :=
  record.singleton = some singleton ∧ mirror.isSingleton ∧ mirror.attached = some id

/-- The text of a name as an added object, if there is one. -/
def nameAdded (text : Option ObjectId) (name : String) : List (ObjectId × HeapObject) :=
  text.toList.map fun id => (id, .text name)

section NameAdded

variable {text : Option ObjectId} {name : String}

theorem forall_mem_nameAdded {property : ObjectId × HeapObject → Prop} :
    (∀ new ∈ nameAdded text name, property new) ↔
      ∀ id, text = some id → property (id, .text name) := by
  cases text <;> simp [nameAdded]

theorem mem_ids_nameAdded : id ∈ (nameAdded text name).map Prod.fst ↔ text = some id := by
  cases text <;> simp [nameAdded, eq_comm]

theorem nodup_nameAdded : ((nameAdded text name).map Prod.fst).Nodup := by
  cases text <;> simp [nameAdded]

end NameAdded

theorem isNone_storeName (heap : Heap) (name : String) :
    (heap.storeName name).1.isNone = name.isEmpty := by
  unfold storeName
  split <;> simp_all

/-- Linking below a class with a singleton class adds one for the class that is linked, and the
text of a name that is not empty. Only that class changes. -/
theorem exists_adds_link (tidy : before.Tidy)
    (upper : before.get? superclass = some (.classRecord parent))
    (given : parent.singleton = some above)
    (found : before.get? above = some (.classRecord mirrored))
    (lower : before.get? subclass = some (.classRecord record)) (name : String) (tag : TypeTag) :
    ∃ (text : Option ObjectId) (joined : ClassRecord) (singleton : ObjectId)
      (mirror : ClassRecord), text.isNone = name.isEmpty ∧ joined.name = text.or record.name ∧
      Mirrors subclass joined singleton mirror ∧
      (before.link superclass subclass name tag).get? subclass = some (.classRecord joined) ∧
      before.Adds (before.link superclass subclass name tag) [subclass]
        ((singleton, .classRecord mirror) :: nameAdded text name) := by
  have view := fun id => get?_link_of_some tidy (singletonAbove_of_some upper given found) lower
    name tag id
  generalize stored : ((before.deriveSingleton subclass
    (some (above, mirrored.instanceTag))).storeName name).1 = text at view
  have newText : ∀ {id : ObjectId}, text = some id →
      before.get? id = none ∧ id ≠ before.nextId ∧ id ≠ subclass := fun given =>
    ne_nextId_of_deriveSingleton tidy lower
      (get?_eq_none_of_storeName (tidy.deriveSingleton _ _) (stored.trans given))
  have apart := (tidy.ne_nextId lower).symm
  refine ⟨text, _, before.nextId, .singletonOf subclass above above mirrored.instanceTag,
    stored ▸ isNone_storeName _ name, rfl, ⟨rfl, rfl, rfl⟩, (view subclass).trans (if_pos rfl),
    ?_, List.forall_mem_cons.mpr ⟨tidy.get?_nextId, forall_mem_nameAdded.mpr ?_⟩,
    List.forall_mem_cons.mpr ⟨?_, forall_mem_nameAdded.mpr ?_⟩, ?_⟩
  · refine List.nodup_cons.mpr ⟨fun mem => ?_, nodup_nameAdded⟩
    exact (newText (mem_ids_nameAdded.mp mem)).2.1 rfl
  · exact fun id isText => (newText isText).1
  · exact (view _).trans ((if_neg apart).trans
      ((if_neg fun isText => (newText isText).2.1 rfl).trans (if_pos rfl)))
  · exact fun id isText => (view id).trans ((if_neg (newText isText).2.2).trans (if_pos isText))
  · intro id ne old
    obtain ⟨noClass, noText⟩ := not_or.mp fun mem => old (List.mem_cons.mpr mem)
    rw [view, if_neg (List.ne_of_not_mem_cons ne),
      if_neg fun isText => noText (mem_ids_nameAdded.mpr isText), if_neg noClass]

/-- A new class linked below a class with a singleton class is added together with its own, and
with the text of its name. -/
theorem WellFormed.exists_adds_derive (wf : before.WellFormed builtins)
    (upper : before.get? superclass = some (.classRecord parent))
    (given : parent.singleton = some above) (name : String) (tag : TypeTag) :
    ∃ (text : Option ObjectId) (joined : ClassRecord) (singleton : ObjectId)
      (mirror : ClassRecord), text.isNone = name.isEmpty ∧ joined.name = text ∧
      Mirrors before.nextId joined singleton mirror ∧
      before.Adds ((before.addClass builtins.anchor).link superclass before.nextId name tag) []
        ((before.nextId, .classRecord joined) :: (singleton, .classRecord mirror) ::
          nameAdded text name) := by
  have tidy := wf.tidy
  obtain ⟨mirrored, found⟩ := wf.exists_singleton upper rfl above given
  have upper' := get?_addClass_of_some tidy builtins.anchor upper
  have found' := get?_addClass_of_some tidy builtins.anchor found
  have lower := get?_addClass_nextId tidy builtins.anchor
  obtain ⟨text, joined, singleton, mirror, isText, isName, mirrors, stored, adds⟩ :=
    exists_adds_link (tidy.addClass _) upper' given found' lower name tag
  exact ⟨text, joined, singleton, mirror, isText, isName.trans Option.or_none, mirrors,
    (adds_allocate tidy _).then_changed adds stored⟩

/-- Naming a class adds a text, and only the name of that class changes. -/
theorem adds_assignName (tidy : before.Tidy)
    (target : before.get? id = some (.classRecord record)) (name : String) :
    before.Adds (before.assignName id name) [id] [(before.nextId, .text name)] := by
  have view := fun other => get?_assignName tidy target name other
  have apart := (tidy.ne_nextId target).symm
  refine .single tidy.get?_nextId ((view _).trans ((if_neg apart).trans (if_pos rfl))) ?_
  intro other spared ne
  exact (view other).trans ((if_neg (List.ne_of_not_mem_cons spared)).trans (if_neg ne))

end Heap

/-- What is placed by an operation that is orderly and not refused. -/
theorem ImageM.Orderly.exists_places [ReentrantMutex] {α : Type} {act : ImageM α}
    (orderly : act.Orderly) {image after : Image} {value : α} (tidy : image.heap.Tidy)
    (answered : act image = .ok value after) : ∃ ids, image.heap.Places ids after.heap := by
  obtain ⟨ids, fills⟩ := orderly image tidy
  rw [ImageM.leaves_of_ok answered] at fills
  exact ⟨ids, fills.places tidy⟩

namespace Image

open Heap

variable [ReentrantMutex] {image after : Image} {id declared target owner : ObjectId}
  {name : String}

/-- What an orderly operation adds is what it allocates. -/
theorem gains_of_adds {α : Type} {act : ImageM α} {value : α} {changed : List ObjectId}
    {added : List (ObjectId × HeapObject)} (composed : act.Composed) (tidy : image.heap.Tidy)
    (answered : act image = .ok value after) (adds : image.heap.Adds after.heap changed added)
    (live : ∀ id ∈ changed, image.heap.contains id) :
    image.heap.Gains after.heap changed added := by
  obtain ⟨ids, places⟩ := (ImageM.Orderly.of_composed composed).exists_places tidy answered
  exact adds.gains places live

section Mirrored

variable (wf : image.heap.WellFormed image.builtins)
  (mirrored : AllMirrored image.builtins image.heap)
include wf mirrored

/-- A derived class comes with its singleton class and the text of its name. -/
theorem gains_subclass {receiver : ObjectId} {tag : Option TypeTag}
    (answered : subclass receiver name tag image = .ok id after) :
    ∃ (text : Option ObjectId) (record : ClassRecord) (singleton : ObjectId)
      (mirror : ClassRecord), text.isNone = name.isEmpty ∧ record.name = text ∧
      Mirrors id record singleton mirror ∧
      image.heap.Gains after.heap [] ((id, .classRecord record) ::
        (singleton, .classRecord mirror) :: nameAdded text name) := by
  have done := answered
  rw [subclass_apply wf] at done
  obtain ⟨parent, found, rfl, rfl⟩ := exists_of_conclude done
  obtain ⟨upper, accepted⟩ := accept_eq_ok_iff.mp found
  obtain ⟨other, ordinary, started⟩ := ClassRecord.refuseSubclass_eq_none_iff.mp accepted
  obtain ⟨above, given⟩ := mirrored _ parent upper started ordinary other
  obtain ⟨text, record, singleton, mirror, isText, isName, mirrors, adds⟩ :=
    wf.exists_adds_derive upper given name (tag.getD parent.instanceTag)
  exact ⟨text, record, singleton, mirror, isText, isName, mirrors,
    gains_of_adds (.subclass receiver name tag) wf.tidy answered adds (by simp)⟩

/-- A new class comes with its singleton class. -/
theorem gains_newClass {superclass : Option ObjectId}
    (answered : newClass superclass image = .ok id after) :
    ∃ (record : ClassRecord) (singleton : ObjectId) (mirror : ClassRecord),
      Mirrors id record singleton mirror ∧
      image.heap.Gains after.heap [] [(id, .classRecord record),
        (singleton, .classRecord mirror)] := by
  have done := answered
  rw [newClass_apply wf] at done
  obtain ⟨parent, found, rfl, rfl⟩ := exists_of_conclude done
  obtain ⟨upper, other, ordinary, started⟩ := acceptSuperclass_eq_ok_iff.mp found
  obtain ⟨above, given⟩ := mirrored _ parent upper started ordinary other
  obtain ⟨text, record, singleton, mirror, isText, _, mirrors, adds⟩ :=
    wf.exists_adds_derive upper given "" parent.instanceTag
  obtain rfl := Option.isNone_iff_eq_none.mp (isText.trans rfl)
  exact ⟨record, singleton, mirror, mirrors,
    gains_of_adds (.newClass superclass) wf.tidy answered adds (by simp)⟩

/-- A class that is initialized receives its singleton class and is changed itself. -/
theorem gains_initializeClass {superclass : Option ObjectId}
    (answered : initializeClass declared superclass image = .ok id after) :
    ∃ (record : ClassRecord) (singleton : ObjectId) (mirror : ClassRecord),
      id = declared ∧ after.heap.get? declared = some (.classRecord record) ∧
      Mirrors declared record singleton mirror ∧
      image.heap.Gains after.heap [declared] [(singleton, .classRecord mirror)] := by
  have done := answered
  rw [initializeClass_apply wf] at done
  obtain ⟨⟨record, parent⟩, found, same, rfl⟩ := exists_of_conclude done
  obtain ⟨⟨lower, raw⟩, accepted⟩ := acceptDeclaration_eq_ok_iff.mp found
  obtain ⟨upper, other, ordinary, started⟩ := acceptSuperclass_eq_ok_iff.mp accepted
  obtain ⟨above, given⟩ := mirrored _ parent upper started ordinary other
  obtain ⟨mirrored, isAbove⟩ := wf.exists_singleton upper rfl above given
  obtain ⟨text, joined, singleton, mirror, isText, _, mirrors, stored, adds⟩ :=
    exists_adds_link wf.tidy upper given isAbove lower "" parent.instanceTag
  obtain rfl := Option.isNone_iff_eq_none.mp (isText.trans rfl)
  refine ⟨joined, singleton, mirror, same, stored, mirrors,
    gains_of_adds (.initializeClass declared superclass) wf.tidy answered adds ?_⟩
  simpa using contains_iff.mpr ⟨_, lower⟩

end Mirrored

theorem gains_allocateClass (tidy : image.heap.Tidy)
    (answered : allocateClass image = .ok id after) :
    image.heap.Gains after.heap [] [(id, .classRecord (.fresh image.builtins.anchor))] := by
  have done := answered
  rw [allocateClass_apply] at done
  cases done
  exact gains_of_adds .allocateClass tidy answered (adds_allocate tidy _) (by simp)

theorem gains_newObject (tidy : image.heap.Tidy) (answered : newObject owner image = .ok id after) :
    ∃ tag, image.heap.Gains after.heap [] [(id, .plain (.fresh tag owner))] := by
  have done := answered
  rw [newObject_apply] at done
  obtain ⟨record, _, rfl, rfl⟩ := exists_of_conclude done
  exact ⟨record.instanceTag,
    gains_of_adds (.newObject owner) tidy answered (adds_allocate tidy _) (by simp)⟩

/-- A class without a name receives a name that is not empty. Any other keeps what it has. -/
theorem gains_assignName (tidy : image.heap.Tidy)
    (answered : assignName target name image = .ok () after) :
    ∃ record, image.heap.get? target = some (.classRecord record) ∧
      (record.name = none ∧ ¬ name.isEmpty → ∃ text,
        after.heap.get? target = some (.classRecord { record with name := some text }) ∧
        image.heap.Gains after.heap [target] [(text, .text name)]) ∧
      (¬ (record.name = none ∧ ¬ name.isEmpty) → after = image) := by
  have done := answered
  rw [assignName_apply tidy] at done
  obtain ⟨record, accepted, _, rfl⟩ := exists_of_conclude done
  have stored := (accept_eq_ok_iff.mp accepted).1
  refine ⟨record, stored, ?_, ?_⟩
  · intro named
    simp only [if_pos named] at answered ⊢
    refine ⟨image.heap.nextId, (get?_assignName tidy stored name target).trans (if_pos rfl), ?_⟩
    refine gains_of_adds (.assignName target name) tidy answered
      (adds_assignName tidy stored name) ?_
    simpa using contains_iff.mpr ⟨_, stored⟩
  · intro idle
    simp only [if_neg idle, extend_nil]

end Image

/-- In a reachable image an operation that derives, makes or declares a class or makes an instance
adds the same number of objects whenever it is answered, up to the text of a name: a class that is
linked always comes with its singleton class. Nothing else is changed but the class that is
initialized and the name of the class that is named, and the counts of the heap grow by what is
added. -/
theorem Reached.footprints [ReentrantMutex] {settings : Settings} {calls : List (Call ObjectId)}
    {image : Image} (reached : Reached settings calls image) :
    (∀ receiver name tag id after, Image.subclass receiver name tag image = .ok id after →
      ∃ (text : Option ObjectId) (record : ClassRecord) (singleton : ObjectId)
        (mirror : ClassRecord), text.isNone = name.isEmpty ∧ record.name = text ∧
        Heap.Mirrors id record singleton mirror ∧
        image.heap.Gains after.heap [] ((id, .classRecord record) ::
          (singleton, .classRecord mirror) :: Heap.nameAdded text name)) ∧
      (∀ superclass id after, Image.newClass superclass image = .ok id after →
        ∃ (record : ClassRecord) (singleton : ObjectId) (mirror : ClassRecord),
          Heap.Mirrors id record singleton mirror ∧ image.heap.Gains after.heap []
            [(id, .classRecord record), (singleton, .classRecord mirror)]) ∧
      (∀ id after, Image.allocateClass image = .ok id after → image.heap.Gains after.heap []
        [(id, .classRecord (.fresh image.builtins.anchor))]) ∧
      (∀ owner id after, Image.newObject owner image = .ok id after →
        ∃ tag, image.heap.Gains after.heap [] [(id, .plain (.fresh tag owner))]) ∧
      (∀ declared superclass id after,
        Image.initializeClass declared superclass image = .ok id after →
        ∃ (record : ClassRecord) (singleton : ObjectId) (mirror : ClassRecord),
          id = declared ∧ after.heap.get? declared = some (.classRecord record) ∧
          Heap.Mirrors declared record singleton mirror ∧
          image.heap.Gains after.heap [declared] [(singleton, .classRecord mirror)]) ∧
      ∀ target name after, Image.assignName target name image = .ok () after →
        ∃ record, image.heap.get? target = some (.classRecord record) ∧
          (record.name = none ∧ ¬ name.isEmpty → ∃ text,
            after.heap.get? target = some (.classRecord { record with name := some text }) ∧
            image.heap.Gains after.heap [target] [(text, .text name)]) ∧
          (¬ (record.name = none ∧ ¬ name.isEmpty) → after = image) := by
  have wf := reached.wellFormed
  have mirrored := reached.allMirrored
  refine ⟨?_, ?_, ?_, ?_, ?_, ?_⟩
  · intro receiver name tag id after answered
    exact Image.gains_subclass wf mirrored answered
  · intro superclass id after answered
    exact Image.gains_newClass wf mirrored answered
  · intro id after answered
    exact Image.gains_allocateClass wf.tidy answered
  · intro owner id after answered
    exact Image.gains_newObject wf.tidy answered
  · intro declared superclass id after answered
    exact Image.gains_initializeClass wf mirrored answered
  · intro target name after answered
    exact Image.gains_assignName wf.tidy answered

/-- The case of a class with a name, derived from the class in slot 5: three objects are added,
and the record of that class is as before. -/
theorem Reached.footprints_subclass : ∃ image after,
    Reached .standard [] image ∧ Image.subclass 5 "A" none image = .ok 11 after ∧
      after.heap.liveCount = image.heap.liveCount + 3 ∧
      after.heap.get? 5 = image.heap.get? 5 := by
  have reached := Reached.first .standard
  let image := Image.first .standard
  have receiver : image.heap.get? 5 =
      some (.classRecord (.founder (some 6) 7 (some 3) .object)) := rfl
  have answered : ∃ after, Image.subclass 5 "A" none image = .ok 11 after := by
    have accepted := Heap.accept_eq_ok_iff.mpr ⟨receiver,
      ClassRecord.refuseSubclass_eq_none_iff.mpr
        ⟨(by decide : 5 ≠ image.builtins.anchor), rfl, rfl⟩⟩
    rw [Image.subclass_apply reached.wellFormed, Image.conclude_of_ok _ accepted]
    exact ⟨_, rfl⟩
  obtain ⟨after, answered⟩ := answered
  obtain ⟨derived, _⟩ := Reached.footprints reached
  obtain ⟨text, record, singleton, mirror, isText, _, _, gains⟩ := derived _ _ _ _ _ answered
  refine ⟨image, after, reached, answered, ?_, ?_⟩
  · cases text with
    | none => cases isText
    | some text => exact gains.liveCount
  · exact (gains.kept receiver (by simp)).trans receiver.symm

end Metamodel
