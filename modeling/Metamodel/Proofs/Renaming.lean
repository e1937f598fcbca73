import Metamodel.Proofs.Edits

/-!
# Renaming objects

Two heaps may hold the same objects in different slots, each with garbage and vacant slots of its
own. A renaming tells which object of the one heap stands for which object of the other; what it
does not name is of no account. Effects on the two heaps that are given alike arguments keep pace:
afterwards the renaming has been extended to the objects that are new, and the heaps are alike
under the extended one.
-/

namespace Metamodel

/-- What follows from related values that may be missing is related. -/
theorem rel_bind {α β γ δ : Type} {related : α → β → Prop} {relatedNext : γ → δ → Prop}
    {first : Option α} {second : Option β} {next : α → Option γ} {next' : β → Option δ}
    (alike : Option.Rel related first second)
    (further : ∀ {a b}, related a b → Option.Rel relatedNext (next a) (next' b)) :
    Option.Rel relatedNext (first.bind next) (second.bind next') := by
  cases alike with
  | some alike => exact further alike
  | none => exact .none

section Rel

variable {α β : Type} {related : α → β → Prop} {first : Option α} {second : Option β}

theorem eq_none_of_rel (alike : Option.Rel related first second) (missing : first = none) :
    second = none := by
  cases alike with
  | some alike => cases missing
  | none => rfl

theorem exists_of_rel (alike : Option.Rel related first second) {value : α}
    (given : first = some value) : ∃ value', second = some value' ∧ related value value' := by
  cases alike with
  | some alike =>
      cases given
      exact ⟨_, rfl, alike⟩
  | none => cases given

theorem isSome_of_rel (alike : Option.Rel related first second) : first.isSome = second.isSome := by
  cases alike with
  | some alike => rfl
  | none => rfl

end Rel

/-- Which id of one heap stands for which id of another one. -/
abbrev Renaming := ObjectId → Option ObjectId

namespace Renaming

/-- An id is renamed to another one. -/
def Sends (f : Renaming) (id other : ObjectId) : Prop :=
  f id = some other

/-- An id that may be missing is renamed, or is missing on both sides. -/
abbrev SendsMaybe (f : Renaming) : Option ObjectId → Option ObjectId → Prop :=
  Option.Rel f.Sends

/-- A renaming is kept by another one that extends it. -/
def Keeps (f g : Renaming) : Prop :=
  ∀ id other, f.Sends id other → g.Sends id other

variable {f g : Renaming}

theorem Sends.unique {id first second : ObjectId} (sends : f.Sends id first)
    (sends' : f.Sends id second) : first = second :=
  Option.some.inj (sends.symm.trans sends')

theorem Keeps.refl (f : Renaming) : f.Keeps f :=
  fun _ _ sends => sends

theorem Keeps.trans {h : Renaming} (first : f.Keeps g) (second : g.Keeps h) : f.Keeps h :=
  fun _ _ sends => second _ _ (first _ _ sends)

theorem Keeps.maybe (keeps : f.Keeps g) {id other : Option ObjectId}
    (sends : f.SendsMaybe id other) : g.SendsMaybe id other := by
  cases sends with
  | some sends => exact .some (keeps _ _ sends)
  | none => exact .none

/-- A renaming with one more id. -/
def extend (f : Renaming) (new new' : ObjectId) : Renaming :=
  fun id => if id = new then some new' else f id

theorem sends_extend {new new' id id' : ObjectId} :
    (f.extend new new').Sends id id' ↔ id = new ∧ id' = new' ∨ id ≠ new ∧ f.Sends id id' := by
  unfold Sends extend
  split
  · next same => simp [same, eq_comm]
  · next ne => simp [ne]

theorem sendsMaybe_or {first second other other' : Option ObjectId}
    (sends : f.SendsMaybe first other) (sends' : f.SendsMaybe second other') :
    f.SendsMaybe (first.or second) (other.or other') := by
  cases sends with
  | some sends => exact .some sends
  | none => exact sends'

theorem sends_getD {first other : Option ObjectId} {id id' : ObjectId}
    (sends : f.SendsMaybe first other) (otherwise : f.Sends id id') :
    f.Sends (first.getD id) (other.getD id') := by
  cases sends with
  | some sends => exact sends
  | none => exact otherwise

end Renaming

/-- The parts of two headers agree, up to the names of objects. -/
structure Header.Alike (f : Renaming) (header other : Header) : Prop where
  tag : header.tag = other.tag
  owner : f.Sends header.owner other.owner
  singleton : f.SendsMaybe header.singleton other.singleton

/-- The parts of two classes agree, up to the names of objects. -/
structure ClassRecord.Alike (f : Renaming) (record other : ClassRecord) : Prop where
  header : record.header.Alike f other.header
  name : f.SendsMaybe record.name other.name
  superclass : f.SendsMaybe record.superclass other.superclass
  attached : f.SendsMaybe record.attached other.attached
  instanceTag : record.instanceTag = other.instanceTag
  initialized : record.initialized = other.initialized
  isSingleton : record.isSingleton = other.isSingleton

/-- Two objects are of one kind and their parts agree, up to the names of objects. -/
inductive HeapObject.Alike (f : Renaming) : HeapObject → HeapObject → Prop
  | classRecord {record other : ClassRecord} : record.Alike f other →
      Alike f (.classRecord record) (.classRecord other)
  | plain {header other : Header} : header.Alike f other → Alike f (.plain header) (.plain other)
  | text (content : String) : Alike f (.text content) (.text content)

section Alike

variable {f g : Renaming}

theorem Header.Alike.mono {header other : Header} (alike : header.Alike f other)
    (keeps : f.Keeps g) : header.Alike g other :=
  ⟨alike.tag, keeps _ _ alike.owner, keeps.maybe alike.singleton⟩

theorem Header.Alike.fresh {tag tag' : TypeTag} {owner owner' : ObjectId} (tags : tag = tag')
    (owners : f.Sends owner owner') : (Header.fresh tag owner).Alike f (.fresh tag' owner') :=
  ⟨tags, owners, .none⟩

theorem ClassRecord.Alike.mono {record other : ClassRecord} (alike : record.Alike f other)
    (keeps : f.Keeps g) : record.Alike g other :=
  ⟨alike.header.mono keeps, keeps.maybe alike.name, keeps.maybe alike.superclass,
    keeps.maybe alike.attached, alike.instanceTag, alike.initialized, alike.isSingleton⟩

theorem HeapObject.Alike.mono {object other : HeapObject} (alike : object.Alike f other)
    (keeps : f.Keeps g) : object.Alike g other := by
  cases alike with
  | classRecord alike => exact .classRecord (alike.mono keeps)
  | plain alike => exact .plain (alike.mono keeps)
  | text content => exact .text content

namespace ClassRecord.Alike

variable {record other : ClassRecord} {id id' : ObjectId}

theorem fresh (owner : f.Sends id id') : (ClassRecord.fresh id).Alike f (.fresh id') :=
  ⟨⟨rfl, owner, .none⟩, .none, .none, .none, rfl, rfl, rfl⟩

theorem joined (alike : record.Alike f other) (superclass : f.Sends id id')
    {text text' : Option ObjectId} (name : f.SendsMaybe text text') (tag : TypeTag) :
    (record.joined id text tag).Alike f (other.joined id' text' tag) :=
  ⟨alike.header, Renaming.sendsMaybe_or name alike.name, .some superclass, alike.attached, rfl, rfl,
    alike.isSingleton⟩

theorem attachedTo (alike : record.Alike f other) (attached : f.Sends id id') :
    (record.attachedTo id).Alike f (other.attachedTo id') :=
  { alike with attached := .some attached, isSingleton := rfl }

theorem named (alike : record.Alike f other) (sends : f.Sends id id') :
    ClassRecord.Alike f { record with name := some id } { other with name := some id' } :=
  { alike with name := .some sends }

end ClassRecord.Alike

namespace HeapObject.Alike

variable {object other : HeapObject}

theorem withClass (alike : object.Alike f other) {change change' : ClassRecord → ClassRecord}
    (changes : ∀ {record other : ClassRecord}, record.Alike f other →
      (change record).Alike f (change' other)) :
    (object.withClass change).Alike f (other.withClass change') := by
  cases alike with
  | classRecord alike => exact .classRecord (changes alike)
  | plain alike => exact .plain alike
  | text content => exact .text content

theorem withSingleton (alike : object.Alike f other) {id id' : ObjectId}
    (sends : f.Sends id id') : (object.withSingleton id).Alike f (other.withSingleton id') := by
  cases alike with
  | classRecord alike =>
      exact .classRecord { alike with header := { alike.header with singleton := .some sends } }
  | plain alike => exact .plain { alike with singleton := .some sends }
  | text content => exact .text content

theorem header? (alike : object.Alike f other) :
    Option.Rel (Header.Alike f) object.header? other.header? := by
  cases alike with
  | classRecord alike => exact .some alike.header
  | plain alike => exact .some alike
  | text content => exact .none

theorem classRecord? (alike : object.Alike f other) :
    Option.Rel (ClassRecord.Alike f) object.classRecord? other.classRecord? := by
  cases alike with
  | classRecord alike => exact .some alike
  | plain alike => exact .none
  | text content => exact .none

end HeapObject.Alike

end Alike

namespace Heap

/-- A renaming relates two heaps: no two objects become one, and what is renamed is there on both
sides, with alike parts and as many pins. -/
structure Resembles (f : Renaming) (heap other : Heap) : Prop where
  injective : ∀ {id id' target : ObjectId}, f.Sends id target → f.Sends id' target → id = id'
  object : ∀ {id id' : ObjectId}, f.Sends id id' → ∃ object object',
    heap.get? id = some object ∧ other.get? id' = some object' ∧ object.Alike f object'
  pinCount : ∀ {id id' : ObjectId}, f.Sends id id' → heap.pinCount id = other.pinCount id'

/-- A heap that operations can work on: allocations find empty slots, and only objects are
pinned. -/
structure Ready (heap : Heap) : Prop where
  tidy : heap.Tidy
  pinned : ∀ id, 0 < heap.pinCount id → heap.contains id

/-- Two heaps that are related and can be worked on. -/
structure Twins (f : Renaming) (heap other : Heap) : Prop where
  resembles : Resembles f heap other
  ready : heap.Ready
  ready' : other.Ready

/-- Two heaps go on alike. The renaming is extended to objects that were not there before. -/
structure Lockstep (f : Renaming) (heap other : Heap) (g : Renaming) (heap' other' : Heap) :
    Prop where
  twins : Twins g heap' other'
  keeps : f.Keeps g
  fresh : ∀ {id id' : ObjectId}, g.Sends id id' →
    f.Sends id id' ∨ heap.contains id = false ∧ other.contains id' = false
  lives : ∀ {id : ObjectId}, heap.contains id → heap'.contains id
  lives' : ∀ {id : ObjectId}, other.contains id → other'.contains id

variable {f g h : Renaming} {heap other heap' other' heap'' other'' : Heap} {id id' : ObjectId}

theorem WellFormed.ready {builtins : Builtins} (wf : heap.WellFormed builtins) : heap.Ready :=
  ⟨wf.tidy, fun _ => wf.pinned⟩

theorem Resembles.contains (resembles : Resembles f heap other) (sends : f.Sends id id') :
    heap.contains id ∧ other.contains id' := by
  obtain ⟨object, object', stored, stored', _⟩ := resembles.object sends
  exact ⟨contains_iff.mpr ⟨object, stored⟩, contains_iff.mpr ⟨object', stored'⟩⟩

/-- What is renamed is told apart alike. -/
theorem Resembles.eq_iff (resembles : Resembles f heap other) {target target' : ObjectId}
    (sends : f.Sends id id') (sends' : f.Sends target target') : id = target ↔ id' = target' := by
  constructor
  · rintro rfl
    exact sends.unique sends'
  · rintro rfl
    exact resembles.injective sends sends'

theorem Resembles.get? (resembles : Resembles f heap other) (sends : f.Sends id id') :
    Option.Rel (HeapObject.Alike f) (heap.get? id) (other.get? id') := by
  obtain ⟨object, object', stored, stored', alike⟩ := resembles.object sends
  rw [stored, stored']
  exact .some alike

theorem Resembles.classRecord? (resembles : Resembles f heap other) (sends : f.Sends id id') :
    Option.Rel (ClassRecord.Alike f) ((heap.get? id).bind HeapObject.classRecord?)
      ((other.get? id').bind HeapObject.classRecord?) :=
  rel_bind (resembles.get? sends) HeapObject.Alike.classRecord?

/-- The classes that two ids denote. -/
theorem Resembles.classRecord (resembles : Resembles f heap other) (sends : f.Sends id id')
    {record : ClassRecord} (stored : heap.get? id = some (.classRecord record)) :
    ∃ record', other.get? id' = some (.classRecord record') ∧ record.Alike f record' := by
  obtain ⟨object, object', found, found', alike⟩ := resembles.object sends
  rw [stored] at found
  cases found
  cases alike with
  | classRecord alike => exact ⟨_, found', alike⟩

namespace Lockstep

theorem refl (twins : Twins f heap other) : Lockstep f heap other f heap other :=
  ⟨twins, .refl f, .inl, fun live => live, fun live => live⟩

theorem trans (first : Lockstep f heap other g heap' other')
    (second : Lockstep g heap' other' h heap'' other'') :
    Lockstep f heap other h heap'' other'' where
  twins := second.twins
  keeps := first.keeps.trans second.keeps
  fresh := by
    intro id id' sends
    rcases second.fresh sends with earlier | ⟨new, new'⟩
    · exact first.fresh earlier
    · refine .inr ⟨Bool.eq_false_iff.mpr fun live => ?_, Bool.eq_false_iff.mpr fun live => ?_⟩
      · exact Bool.eq_false_iff.mp new (first.lives live)
      · exact Bool.eq_false_iff.mp new' (first.lives' live)
  lives := fun live => second.lives (first.lives live)
  lives' := fun live => second.lives' (first.lives' live)

end Lockstep

section Allocate

variable {object object' : HeapObject}

theorem Ready.contains_allocate (ready : heap.Ready) (object : HeapObject)
    (live : heap.contains id) : (heap.allocate object).2.contains id :=
  (ready.tidy.contains_allocate object id).mpr (.inl live)

theorem Ready.allocate (ready : heap.Ready) (object : HeapObject) :
    (heap.allocate object).2.Ready where
  tidy := ready.tidy.allocate object
  pinned := by
    intro id protected_
    rw [pinCount, pins_allocate] at protected_
    exact ready.contains_allocate object (ready.pinned id protected_)

/-- An id without an object has no pins. -/
theorem Ready.pinCount_eq_zero (ready : heap.Ready) (dead : heap.get? id = none) :
    heap.pinCount id = 0 := by
  by_contra positive
  have live := ready.pinned id (Nat.pos_of_ne_zero positive)
  rw [contains, dead] at live
  cases live

section Next

variable (twins : Twins f heap other)
include twins

/-- What is renamed is not in a slot that is still empty. -/
theorem Twins.ne_nextId (sends : f.Sends id id') : id ≠ heap.nextId ∧ id' ≠ other.nextId := by
  obtain ⟨_, _, stored, stored', _⟩ := twins.resembles.object sends
  exact ⟨twins.ready.tidy.ne_nextId stored, twins.ready'.tidy.ne_nextId stored'⟩

theorem Twins.keeps_extend : f.Keeps (f.extend heap.nextId other.nextId) :=
  fun _ _ sends => Renaming.sends_extend.mpr (.inr ⟨(twins.ne_nextId sends).1, sends⟩)

theorem Twins.resembles_allocate (alike : object.Alike f object') :
    Resembles (f.extend heap.nextId other.nextId) (heap.allocate object).2
      (other.allocate object').2 where
  injective := by
    intro id id' target sends sends'
    rcases Renaming.sends_extend.mp sends with ⟨here, new⟩ | ⟨_, earlier⟩ <;>
      rcases Renaming.sends_extend.mp sends' with ⟨there, new'⟩ | ⟨_, earlier'⟩
    · exact here.trans there.symm
    · exact absurd new (twins.ne_nextId earlier').2
    · exact absurd new' (twins.ne_nextId earlier).2
    · exact twins.resembles.injective earlier earlier'
  object := by
    intro id id' sends
    rw [twins.ready.tidy.get?_allocate, twins.ready'.tidy.get?_allocate]
    rcases Renaming.sends_extend.mp sends with ⟨rfl, rfl⟩ | ⟨ne, earlier⟩
    · rw [if_pos rfl, if_pos rfl]
      exact ⟨object, object', rfl, rfl, alike.mono twins.keeps_extend⟩
    · rw [if_neg ne, if_neg (twins.ne_nextId earlier).2]
      obtain ⟨known, known', stored, stored', alike'⟩ := twins.resembles.object earlier
      exact ⟨known, known', stored, stored', alike'.mono twins.keeps_extend⟩
  pinCount := by
    intro id id' sends
    rw [pinCount, pinCount, pins_allocate, pins_allocate]
    rcases Renaming.sends_extend.mp sends with ⟨rfl, rfl⟩ | ⟨_, earlier⟩
    · have none := twins.ready.pinCount_eq_zero twins.ready.tidy.get?_nextId
      have none' := twins.ready'.pinCount_eq_zero twins.ready'.tidy.get?_nextId
      exact none.trans none'.symm
    · exact twins.resembles.pinCount earlier

/-- Alike objects are placed in the next slot on either side. -/
theorem Twins.allocate (alike : object.Alike f object') :
    ∃ g : Renaming, Lockstep f heap other g (heap.allocate object).2 (other.allocate object').2 ∧
      g.Sends heap.nextId other.nextId := by
  refine ⟨f.extend heap.nextId other.nextId, ?_, Renaming.sends_extend.mpr (.inl ⟨rfl, rfl⟩)⟩
  exact {
    twins := ⟨twins.resembles_allocate alike, twins.ready.allocate object,
      twins.ready'.allocate object'⟩
    keeps := twins.keeps_extend
    fresh := by
      intro id id' sends
      rcases Renaming.sends_extend.mp sends with ⟨rfl, rfl⟩ | ⟨_, earlier⟩
      · exact .inr ⟨contains_eq_false_iff.mpr twins.ready.tidy.get?_nextId,
          contains_eq_false_iff.mpr twins.ready'.tidy.get?_nextId⟩
      · exact .inl earlier
    lives := twins.ready.contains_allocate object
    lives' := twins.ready'.contains_allocate object' }

end Next

end Allocate

section Modify

variable {change change' : HeapObject → HeapObject}

theorem Ready.modify (ready : heap.Ready) (target : ObjectId) (change : HeapObject → HeapObject) :
    (heap.modify target change).Ready where
  tidy := ready.tidy.modify target change
  pinned := fun id protected_ => (contains_modify heap target id change).trans
    (ready.pinned id protected_)

/-- Objects that stand for each other are changed alike. -/
theorem Twins.modify (twins : Twins f heap other) {target target' : ObjectId}
    (here : f.Sends target target')
    (changes : ∀ {object object' : HeapObject}, object.Alike f object' →
      (change object).Alike f (change' object')) :
    Lockstep f heap other f (heap.modify target change) (other.modify target' change') := by
  have ready := twins.ready.modify target change
  have ready' := twins.ready'.modify target' change'
  refine ⟨⟨⟨twins.resembles.injective, ?_, twins.resembles.pinCount⟩, ready, ready'⟩, .refl f, .inl,
    (contains_modify heap target _ change).trans, (contains_modify other target' _ change').trans⟩
  intro id id' sends
  obtain ⟨object, object', stored, stored', alike⟩ := twins.resembles.object sends
  have same := twins.resembles.eq_iff sends here
  by_cases isTarget : id = target
  · refine ⟨change object, change' object', ?_, ?_, changes alike⟩
    · rw [get?_modify, if_pos isTarget, stored, Option.map_some]
    · rw [get?_modify, if_pos (same.mp isTarget), stored', Option.map_some]
  · refine ⟨object, object', ?_, ?_, alike⟩
    · rw [get?_modify, if_neg isTarget, stored]
    · rw [get?_modify, if_neg (mt same.mpr isTarget), stored']

end Modify

section Pins

variable {target : ObjectId}

theorem Ready.pinned_increment (ready : heap.Ready) (live : heap.contains target) (id : ObjectId)
    (positive : 0 < (heap.pins.increment target).count id) : heap.contains id := by
  rw [PinTable.count_increment] at positive
  split at positive
  · next same => exact same ▸ live
  · exact ready.pinned id positive

theorem Ready.pinned_decrement (ready : heap.Ready) (id : ObjectId)
    (positive : 0 < (heap.pins.decrement target).count id) : heap.contains id := by
  apply ready.pinned
  rw [PinTable.count_decrement] at positive
  unfold pinCount
  split at positive <;> omega

end Pins

section Effects

variable (twins : Twins f heap other)
include twins

/-- A name is stored on both sides or on neither. -/
theorem Twins.storeName (name : String) :
    ∃ g : Renaming, Lockstep f heap other g (heap.storeName name).2 (other.storeName name).2 ∧
      g.SendsMaybe (heap.storeName name).1 (other.storeName name).1 := by
  unfold Heap.storeName
  split
  · exact ⟨f, .refl twins, .none⟩
  · obtain ⟨g, step, sends⟩ := twins.allocate (.text name)
    rw [allocate_fst, allocate_fst]
    exact ⟨g, step, .some sends⟩

theorem Twins.addClass {owner owner' : ObjectId} (sends : f.Sends owner owner') :
    ∃ g : Renaming, Lockstep f heap other g (heap.addClass owner) (other.addClass owner') ∧
      g.Sends heap.nextId other.nextId :=
  twins.allocate (.classRecord (.fresh sends))

variable {superclass superclass' subclass subclass' : ObjectId}

theorem Twins.joinUnder (above : f.Sends superclass superclass')
    (below : f.Sends subclass subclass') (name : String) (tag : TypeTag) :
    ∃ g : Renaming, Lockstep f heap other g (heap.joinUnder superclass subclass name tag)
      (other.joinUnder superclass' subclass' name tag) := by
  obtain ⟨g, step, text⟩ := twins.storeName name
  have changed := step.twins.modify (step.keeps _ _ below) fun alike =>
    alike.withClass fun alike => alike.joined (step.keeps _ _ above) text tag
  exact ⟨g, step.trans changed⟩

theorem Twins.attachSingleton {object object' singleton singleton' : ObjectId}
    (sends : f.Sends object object') (sends' : f.Sends singleton singleton') :
    Lockstep f heap other f (heap.attachSingleton object singleton)
      (other.attachSingleton object' singleton') := by
  have flagged := twins.modify sends' fun alike =>
    alike.withClass fun alike => alike.attachedTo sends
  exact flagged.trans (flagged.twins.modify sends fun alike => alike.withSingleton sends')

/-- Whether there is a singleton class to mirror, and which tag it gives. -/
theorem Twins.singletonAbove (above : f.Sends superclass superclass') :
    Option.Rel (fun mirror mirror' => f.Sends mirror.1 mirror'.1 ∧ mirror.2 = mirror'.2)
      (heap.singletonAbove superclass) (other.singletonAbove superclass') := by
  refine rel_bind (twins.resembles.classRecord? above) fun {record record'} alike => ?_
  refine rel_bind alike.header.singleton fun {mirror mirror'} sends => ?_
  refine rel_bind (twins.resembles.classRecord? sends) fun {mirrored mirrored'} alike => ?_
  exact .some ⟨sends, alike.instanceTag⟩

theorem Twins.deriveSingleton (below : f.Sends subclass subclass')
    {mirror mirror' : Option (ObjectId × TypeTag)}
    (mirrors : Option.Rel (fun mirror mirror' => f.Sends mirror.1 mirror'.1 ∧ mirror.2 = mirror'.2)
      mirror mirror') :
    ∃ g : Renaming, Lockstep f heap other g (heap.deriveSingleton subclass mirror)
      (other.deriveSingleton subclass' mirror') := by
  cases mirrors with
  | none => exact ⟨f, .refl twins⟩
  | @some mirror mirror' same =>
      obtain ⟨above, tag⟩ := mirror
      obtain ⟨above', tag'⟩ := mirror'
      obtain ⟨sends, rfl⟩ := same
      obtain ⟨g, added, new⟩ := twins.addClass sends
      obtain ⟨h, joined⟩ := added.twins.joinUnder (added.keeps _ _ sends) new "" tag
      have attached := joined.twins.attachSingleton (joined.keeps _ _ (added.keeps _ _ below))
        (joined.keeps _ _ new)
      exact ⟨h, (added.trans joined).trans attached⟩

theorem Twins.link (above : f.Sends superclass superclass') (below : f.Sends subclass subclass')
    (name : String) (tag : TypeTag) :
    ∃ g : Renaming, Lockstep f heap other g (heap.link superclass subclass name tag)
      (other.link superclass' subclass' name tag) := by
  obtain ⟨g, derived⟩ := twins.deriveSingleton below (twins.singletonAbove above)
  obtain ⟨h, joined⟩ := derived.twins.joinUnder (derived.keeps _ _ above) (derived.keeps _ _ below)
    name tag
  exact ⟨h, derived.trans joined⟩

/-- A new class is linked on both sides. -/
theorem Twins.linkNew {owner owner' : ObjectId} (owners : f.Sends owner owner')
    (above : f.Sends superclass superclass') (name : String) (tag : TypeTag) :
    ∃ g : Renaming, Lockstep f heap other g
        ((heap.addClass owner).link superclass heap.nextId name tag)
        ((other.addClass owner').link superclass' other.nextId name tag) ∧
      g.Sends heap.nextId other.nextId := by
  obtain ⟨g, added, new⟩ := twins.addClass owners
  obtain ⟨h, linked⟩ := added.twins.link (added.keeps _ _ above) new name tag
  exact ⟨h, added.trans linked, linked.keeps _ _ new⟩

theorem Twins.makeSingleton {object object' : ObjectId} (target : f.Sends object object')
    (above : f.Sends superclass superclass') {record record' : ClassRecord}
    (alike : record.Alike f record') :
    ∃ g : Renaming, Lockstep f heap other g (heap.makeSingleton object superclass record)
        (other.makeSingleton object' superclass' record') ∧
      g.Sends heap.nextId other.nextId := by
  obtain ⟨g, linked, new⟩ := twins.linkNew alike.header.owner above "" record.instanceTag
  unfold Heap.makeSingleton
  rw [← alike.instanceTag]
  have attached := linked.twins.attachSingleton (linked.keeps _ _ target) new
  exact ⟨g, linked.trans attached, new⟩

theorem Twins.assignName {target target' : ObjectId} (sends : f.Sends target target')
    (name : String) :
    ∃ g : Renaming, Lockstep f heap other g (heap.assignName target name)
      (other.assignName target' name) := by
  obtain ⟨g, step, new⟩ := twins.allocate (.text name)
  have named := step.twins.modify (step.keeps _ _ sends) fun alike =>
    alike.withClass fun alike => alike.named new
  exact ⟨g, step.trans named⟩

/-- Pins may be counted anew as long as they agree and protect objects only. -/
theorem Twins.repin {pins pins' : PinTable}
    (same : ∀ {id id' : ObjectId}, f.Sends id id' → pins.count id = pins'.count id')
    (pinned : ∀ id, 0 < pins.count id → heap.contains id)
    (pinned' : ∀ id, 0 < pins'.count id → other.contains id) :
    Lockstep f heap other f { heap with pins := pins } { other with pins := pins' } where
  twins :=
    { resembles := ⟨twins.resembles.injective, twins.resembles.object, same⟩
      ready := ⟨twins.ready.tidy.of_slots rfl rfl, pinned⟩
      ready' := ⟨twins.ready'.tidy.of_slots rfl rfl, pinned'⟩ }
  keeps := .refl f
  fresh := .inl
  lives := fun live => live
  lives' := fun live => live

variable {target target' : ObjectId}

/-- Objects that stand for each other are pinned. -/
theorem Twins.pin (here : f.Sends target target') :
    Lockstep f heap other f { heap with pins := heap.pins.increment target }
      { other with pins := other.pins.increment target' } := by
  obtain ⟨live, live'⟩ := twins.resembles.contains here
  refine twins.repin ?_ (twins.ready.pinned_increment live) (twins.ready'.pinned_increment live')
  intro id id' sends
  have counts : heap.pins.count id = other.pins.count id' := twins.resembles.pinCount sends
  simp only [PinTable.count_increment, twins.resembles.eq_iff sends here, counts]

/-- Pins are taken back on both sides or on neither. -/
theorem Twins.unpin (here : f.Sends target target') :
    Lockstep f heap other f (heap.unpin target).2 (other.unpin target').2 ∧
      (heap.unpin target).1 = (other.unpin target').1 := by
  have counts := twins.resembles.pinCount here
  unfold Heap.unpin
  rw [← counts]
  split
  · exact ⟨.refl twins, rfl⟩
  · refine ⟨twins.repin ?_ (twins.ready.pinned_decrement) (twins.ready'.pinned_decrement), rfl⟩
    intro id id' sends
    have counts : heap.pins.count id = other.pins.count id' := twins.resembles.pinCount sends
    simp only [PinTable.count_decrement, twins.resembles.eq_iff sends here, counts]

end Effects

end Heap

end Metamodel
