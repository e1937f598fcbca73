import Mathlib.Tactic.SplitIfs
import Metamodel.Image.Singleton
import Metamodel.Proofs.Slots

/-!
# Effects on the heap

What linking, naming and the making of singleton classes do to a heap, as functions from heaps to
heaps that cannot be refused. Each comes with the view of the heap after it: which object is
changed, which are added, and that all others are as before.
-/

namespace Metamodel

namespace ClassRecord

/-- A class linked below another one, with a new name if there is one. -/
def joined (record : ClassRecord) (superclass : ObjectId) (name : Option ObjectId)
    (tag : TypeTag) : ClassRecord :=
  { record with
    name := name.or record.name
    superclass := some superclass
    instanceTag := tag
    initialized := true }

/-- A class made private to an object. -/
def attachedTo (record : ClassRecord) (object : ObjectId) : ClassRecord :=
  { record with isSingleton := true, attached := some object }

/-- A new singleton class of an object. -/
def singletonOf (object superclass owner : ObjectId) (tag : TypeTag) : ClassRecord :=
  ((fresh owner).joined superclass none tag).attachedTo object

end ClassRecord

namespace Heap

/-- Add a class that has an owner and nothing else. -/
def addClass (heap : Heap) (owner : ObjectId) : Heap :=
  (heap.allocate (.classRecord (.fresh owner))).2

/-- Store a name, unless it is empty. -/
def storeName (heap : Heap) (name : String) : Option ObjectId × Heap :=
  if name.isEmpty then (none, heap)
  else (some (heap.allocate (.text name)).1, (heap.allocate (.text name)).2)

/-- Make a class an initialized subclass. -/
def joinUnder (heap : Heap) (superclass subclass : ObjectId) (name : String) (tag : TypeTag) :
    Heap :=
  (heap.storeName name).2.modify subclass
    (·.withClass (·.joined superclass (heap.storeName name).1 tag))

/-- Make a class the singleton class of an object. -/
def attachSingleton (heap : Heap) (object singleton : ObjectId) : Heap :=
  (heap.modify singleton (·.withClass (·.attachedTo object))).modify object
    (·.withSingleton singleton)

/-- The singleton class of a class, with the tag for its instances. -/
def singletonAbove (heap : Heap) (superclass : ObjectId) : Option (ObjectId × TypeTag) := do
  let record ← (heap.get? superclass).bind HeapObject.classRecord?
  let above ← record.singleton
  let mirrored ← (heap.get? above).bind HeapObject.classRecord?
  pure (above, mirrored.instanceTag)

/-- Give a class a singleton class below the given one, if one is given. -/
def deriveSingleton (heap : Heap) (subclass : ObjectId) : Option (ObjectId × TypeTag) → Heap
  | none => heap
  | some (above, tag) =>
      ((heap.addClass above).joinUnder above heap.nextId "" tag).attachSingleton subclass
        heap.nextId

/-- Link a class below another one, with a singleton class if that one has one. -/
def link (heap : Heap) (superclass subclass : ObjectId) (name : String) (tag : TypeTag) : Heap :=
  (heap.deriveSingleton subclass (heap.singletonAbove superclass)).joinUnder superclass subclass
    name tag

/-- Make the singleton class of an object below a class. -/
def makeSingleton (heap : Heap) (object superclass : ObjectId) (record : ClassRecord) : Heap :=
  ((heap.addClass record.owner).link superclass heap.nextId ""
    record.instanceTag).attachSingleton object heap.nextId

/-- Name a class by a new text. -/
def assignName (heap : Heap) (target : ObjectId) (name : String) : Heap :=
  (heap.allocate (.text name)).2.modify target
    (·.withClass fun record => { record with name := some heap.nextId })

section View

variable {heap : Heap} {id superclass subclass object singleton above : ObjectId}
  {record : ClassRecord} {tag : TypeTag}

theorem Tidy.addClass (tidy : heap.Tidy) (owner : ObjectId) : (heap.addClass owner).Tidy :=
  tidy.allocate _

theorem get?_addClass (tidy : heap.Tidy) (owner : ObjectId) :
    (heap.addClass owner).get? id =
      if id = heap.nextId then some (.classRecord (.fresh owner)) else heap.get? id :=
  tidy.get?_allocate _ _

theorem get?_addClass_nextId (tidy : heap.Tidy) (owner : ObjectId) :
    (heap.addClass owner).get? heap.nextId = some (.classRecord (.fresh owner)) := by
  rw [get?_addClass tidy, if_pos rfl]

/-- A further class leaves what is stored as it is. -/
theorem get?_addClass_of_some (tidy : heap.Tidy) (owner : ObjectId) {stored : HeapObject}
    (live : heap.get? id = some stored) : (heap.addClass owner).get? id = some stored := by
  rw [get?_addClass tidy, if_neg (tidy.ne_nextId live), live]

theorem storeName_empty (heap : Heap) : heap.storeName "" = (none, heap) := rfl

theorem Tidy.storeName (tidy : heap.Tidy) (name : String) : (heap.storeName name).2.Tidy := by
  unfold Heap.storeName
  split
  · exact tidy
  · exact tidy.allocate _

theorem Tidy.joinUnder (tidy : heap.Tidy) (superclass subclass : ObjectId) (name : String)
    (tag : TypeTag) : (heap.joinUnder superclass subclass name tag).Tidy :=
  (tidy.storeName name).modify _ _

theorem Tidy.attachSingleton (tidy : heap.Tidy) (object singleton : ObjectId) :
    (heap.attachSingleton object singleton).Tidy :=
  (tidy.modify _ _).modify _ _

theorem Tidy.deriveSingleton (tidy : heap.Tidy) (subclass : ObjectId)
    (above : Option (ObjectId × TypeTag)) : (heap.deriveSingleton subclass above).Tidy := by
  cases above with
  | none => exact tidy
  | some above => exact ((tidy.allocate _).joinUnder _ _ _ _).attachSingleton _ _

theorem Tidy.link (tidy : heap.Tidy) (superclass subclass : ObjectId) (name : String)
    (tag : TypeTag) : (heap.link superclass subclass name tag).Tidy :=
  (tidy.deriveSingleton _ _).joinUnder _ _ _ _

theorem Tidy.makeSingleton (tidy : heap.Tidy) (object superclass : ObjectId)
    (record : ClassRecord) : (heap.makeSingleton object superclass record).Tidy :=
  ((tidy.allocate _).link _ _ _ _).attachSingleton _ _

theorem Tidy.assignName (tidy : heap.Tidy) (target : ObjectId) (name : String) :
    (heap.assignName target name).Tidy :=
  (tidy.allocate _).modify _ _

/-- A stored name is a text in a slot that was empty. -/
theorem get?_eq_none_of_storeName (tidy : heap.Tidy) {name : String}
    (stored : (heap.storeName name).1 = some id) :
    heap.get? id = none := by
  unfold storeName at stored
  split at stored
  · cases stored
  · rw [allocate_fst] at stored
    cases stored
    exact tidy.get?_nextId

theorem get?_storeName (tidy : heap.Tidy) (name : String) (id : ObjectId) :
    (heap.storeName name).2.get? id =
      if (heap.storeName name).1 = some id then some (.text name) else heap.get? id := by
  unfold storeName
  split
  · simp
  · simp [tidy.get?_allocate, allocate_fst, eq_comm]

theorem get?_joinUnder (tidy : heap.Tidy)
    (stored : heap.get? subclass = some (.classRecord record)) (superclass : ObjectId)
    (name : String) (tag : TypeTag) (id : ObjectId) :
    (heap.joinUnder superclass subclass name tag).get? id =
      if id = subclass then
        some (.classRecord (record.joined superclass (heap.storeName name).1 tag))
      else if (heap.storeName name).1 = some id then some (.text name)
      else heap.get? id := by
  have old : (heap.storeName name).1 ≠ some subclass := by
    intro given
    rw [get?_eq_none_of_storeName tidy given] at stored
    cases stored
  rw [joinUnder, get?_modify, get?_storeName tidy]
  split_ifs with here given
  · subst here
    exact absurd given old
  · subst here
    rw [stored]
    rfl
  · rfl
  · rfl

theorem get?_attachSingleton (stored : heap.get? singleton = some (.classRecord record))
    (ne : object ≠ singleton) :
    (heap.attachSingleton object singleton).get? id =
      if id = singleton then some (.classRecord (record.attachedTo object))
      else if id = object then (heap.get? id).map (·.withSingleton singleton)
      else heap.get? id := by
  rw [attachSingleton, get?_modify, get?_modify]
  split_ifs with here there there
  · exact absurd (here.symm.trans there) ne
  · rfl
  · rw [there, stored]
    rfl
  · rfl

/-- A derived singleton class is new, and only the class that receives it changes. -/
theorem get?_deriveSingleton (tidy : heap.Tidy) {stored : HeapObject}
    (live : heap.get? subclass = some stored) :
    (heap.deriveSingleton subclass (some (above, tag))).get? id =
      if id = heap.nextId then some (.classRecord (.singletonOf subclass above above tag))
      else if id = subclass then some (stored.withSingleton heap.nextId)
      else heap.get? id := by
  have ne : subclass ≠ heap.nextId := tidy.ne_nextId live
  have fresh := get?_addClass_nextId tidy above
  have joined : ∀ i, ((heap.addClass above).joinUnder above heap.nextId "" tag).get? i =
      if i = heap.nextId then
        some (.classRecord ((ClassRecord.fresh above).joined above none tag))
      else heap.get? i := by
    intro i
    rw [get?_joinUnder (tidy.addClass above) fresh, storeName_empty, get?_addClass tidy]
    split_ifs <;> simp_all
  rw [Heap.deriveSingleton, get?_attachSingleton ((joined _).trans (if_pos rfl)) ne, joined]
  split_ifs with here there
  · rfl
  · rw [there, live]
    rfl
  · rfl

/-- A class that receives a singleton class stays a class. -/
theorem exists_get?_deriveSingleton (tidy : heap.Tidy)
    (mirrors : Option (ObjectId × TypeTag))
    (lower : heap.get? subclass = some (.classRecord record)) :
    ∃ received, (heap.deriveSingleton subclass mirrors).get? subclass =
      some (.classRecord received) := by
  cases mirrors with
  | none => exact ⟨record, lower⟩
  | some mirrors =>
      obtain ⟨above, tag⟩ := mirrors
      rw [get?_deriveSingleton tidy lower, if_neg (tidy.ne_nextId lower), if_pos rfl]
      exact ⟨_, rfl⟩

/-- Any other object is not touched by it. -/
theorem get?_deriveSingleton_of_ne (tidy : heap.Tidy) (mirrors : Option (ObjectId × TypeTag))
    {lowest stored : HeapObject} (lower : heap.get? subclass = some lowest)
    (live : heap.get? id = some stored) (ne : id ≠ subclass) :
    (heap.deriveSingleton subclass mirrors).get? id = some stored := by
  cases mirrors with
  | none => exact live
  | some mirrors =>
      obtain ⟨above, tag⟩ := mirrors
      rw [get?_deriveSingleton tidy lower, if_neg (tidy.ne_nextId live), if_neg ne, live]

/-- Linking below a class without a singleton class. -/
theorem get?_link_of_none (tidy : heap.Tidy) (alone : heap.singletonAbove superclass = none)
    (stored : heap.get? subclass = some (.classRecord record)) (name : String) (tag : TypeTag)
    (id : ObjectId) :
    (heap.link superclass subclass name tag).get? id =
      if id = subclass then
        some (.classRecord (record.joined superclass (heap.storeName name).1 tag))
      else if (heap.storeName name).1 = some id then some (.text name)
      else heap.get? id := by
  rw [link, alone]
  exact get?_joinUnder tidy stored superclass name tag id

/-- Linking below a class with a singleton class. -/
theorem get?_link_of_some {mirrored : TypeTag} (tidy : heap.Tidy)
    (mirrors : heap.singletonAbove superclass = some (above, mirrored))
    (stored : heap.get? subclass = some (.classRecord record)) (name : String) (tag : TypeTag)
    (id : ObjectId) :
    (heap.link superclass subclass name tag).get? id =
      if id = subclass then
        some (.classRecord (ClassRecord.joined
          { record with singleton := some heap.nextId } superclass
          ((heap.deriveSingleton subclass (some (above, mirrored))).storeName name).1 tag))
      else if ((heap.deriveSingleton subclass (some (above, mirrored))).storeName name).1 =
          some id then some (.text name)
      else if id = heap.nextId then
        some (.classRecord (.singletonOf subclass above above mirrored))
      else heap.get? id := by
  have derived : (heap.deriveSingleton subclass (some (above, mirrored))).get? subclass =
      some (.classRecord { record with singleton := some heap.nextId }) := by
    rw [get?_deriveSingleton tidy stored, if_neg (tidy.ne_nextId stored), if_pos rfl]
    rfl
  rw [link, mirrors, get?_joinUnder (tidy.deriveSingleton _ _) derived,
    get?_deriveSingleton tidy stored]
  split_ifs <;> rfl

/-- The singleton class of an object made below a class without one of its own. -/
theorem get?_makeSingleton_of_none {stored : HeapObject} (tidy : heap.Tidy)
    (alone : (heap.addClass record.owner).singletonAbove superclass = none)
    (live : heap.get? object = some stored) (id : ObjectId) :
    (heap.makeSingleton object superclass record).get? id =
      if id = heap.nextId then
        some (.classRecord (.singletonOf object superclass record.owner record.instanceTag))
      else if id = object then some (stored.withSingleton heap.nextId)
      else heap.get? id := by
  have linked : ∀ i, ((heap.addClass record.owner).link superclass heap.nextId ""
      record.instanceTag).get? i =
      if i = heap.nextId then some (.classRecord
        ((ClassRecord.fresh record.owner).joined superclass none record.instanceTag))
      else heap.get? i := by
    intro i
    rw [get?_link_of_none (tidy.addClass _) alone (get?_addClass_nextId tidy _),
      storeName_empty, get?_addClass tidy]
    split_ifs <;> simp_all
  rw [makeSingleton,
    get?_attachSingleton ((linked _).trans (if_pos rfl)) (tidy.ne_nextId live), linked]
  split_ifs with here there
  · rfl
  · rw [there, live]
    rfl
  · rfl

/-- The singleton class of an object made below a class that has one of its own. -/
theorem get?_makeSingleton_of_some {stored : HeapObject} {mirrored : TypeTag} (tidy : heap.Tidy)
    (mirrors : (heap.addClass record.owner).singletonAbove superclass = some (above, mirrored))
    (live : heap.get? object = some stored) (id : ObjectId) :
    (heap.makeSingleton object superclass record).get? id =
      if id = heap.nextId then
        some (.classRecord { ClassRecord.singletonOf object superclass record.owner
          record.instanceTag with singleton := some (heap.addClass record.owner).nextId })
      else if id = object then some (stored.withSingleton heap.nextId)
      else if id = (heap.addClass record.owner).nextId then
        some (.classRecord (.singletonOf heap.nextId above above mirrored))
      else heap.get? id := by
  have apart : object ≠ (heap.addClass record.owner).nextId :=
    (tidy.addClass _).ne_nextId (get?_addClass_of_some tidy _ live)
  have linked : ∀ i, ((heap.addClass record.owner).link superclass heap.nextId ""
      record.instanceTag).get? i =
      if i = heap.nextId then some (.classRecord (ClassRecord.joined
        { ClassRecord.fresh record.owner with
          singleton := some (heap.addClass record.owner).nextId }
        superclass none record.instanceTag))
      else if i = (heap.addClass record.owner).nextId then
        some (.classRecord (.singletonOf heap.nextId above above mirrored))
      else heap.get? i := by
    intro i
    rw [get?_link_of_some (tidy.addClass _) mirrors (get?_addClass_nextId tidy _),
      storeName_empty, get?_addClass tidy]
    split_ifs <;> simp_all
  rw [makeSingleton,
    get?_attachSingleton ((linked _).trans (if_pos rfl)) (tidy.ne_nextId live), linked]
  split_ifs with here there next next
  · rfl
  · exact absurd (there.symm.trans next) apart
  · rw [there, live]
    rfl
  · rfl
  · rfl

theorem get?_assignName (tidy : heap.Tidy)
    (stored : heap.get? object = some (.classRecord record)) (name : String) (id : ObjectId) :
    (heap.assignName object name).get? id =
      if id = object then some (.classRecord { record with name := some heap.nextId })
      else if id = heap.nextId then some (.text name)
      else heap.get? id := by
  have ne := tidy.ne_nextId stored
  rw [assignName, get?_modify, tidy.get?_allocate]
  split_ifs with here there there
  · exact absurd (here.symm.trans there) ne
  · rw [here, stored]
    rfl
  · rfl
  · rfl

end View

end Heap

end Metamodel
