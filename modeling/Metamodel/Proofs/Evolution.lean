import Metamodel.Proofs.Tracing

/-!
# Evolution of objects

What an object may become while it lives. Its kind, tag, owner and text are fixed, and so is what
a singleton class is attached to. A class is initialized once, and its superclass and the tag of
its instances are settled then. A singleton class and a name are given once.

A heap continues another one when every object that both hold has evolved and no kept object has
lost an object that it refers to. Facts about an object that evolution respects carry over from
the one heap to the other.
-/

namespace Metamodel

/-- What a header may become: a singleton class can be added. -/
structure Header.Evolves (old new : Header) : Prop where
  tag : new.tag = old.tag
  owner : new.owner = old.owner
  singleton : ∀ id, old.singleton = some id → new.singleton = some id

/-- What a class may become. -/
structure ClassRecord.Evolves (old new : ClassRecord) : Prop where
  header : old.header.Evolves new.header
  isSingleton : new.isSingleton = old.isSingleton
  attached : new.attached = old.attached
  initialized : old.initialized → new.initialized
  /-- The superclass and the tag for instances change in the step that initializes the class. -/
  settled : new.initialized = old.initialized →
    new.superclass = old.superclass ∧ new.instanceTag = old.instanceTag
  name : ∀ id, old.name = some id → new.name = some id

/-- What an object may become. -/
inductive HeapObject.Evolves : HeapObject → HeapObject → Prop
  | classRecord {old new : ClassRecord} : old.Evolves new →
      Evolves (.classRecord old) (.classRecord new)
  | plain {old new : Header} : old.Evolves new → Evolves (.plain old) (.plain new)
  | text (content : String) : Evolves (.text content) (.text content)

theorem Header.Evolves.refl (header : Header) : header.Evolves header :=
  ⟨rfl, rfl, fun _ h => h⟩

theorem Header.Evolves.trans {first second third : Header} (h₁ : first.Evolves second)
    (h₂ : second.Evolves third) : first.Evolves third where
  tag := h₂.tag.trans h₁.tag
  owner := h₂.owner.trans h₁.owner
  singleton := fun id h => h₂.singleton id (h₁.singleton id h)

theorem ClassRecord.Evolves.refl (record : ClassRecord) : record.Evolves record :=
  ⟨.refl _, rfl, rfl, fun h => h, fun _ => ⟨rfl, rfl⟩, fun _ h => h⟩

/-- An initialized class keeps its superclass and the tag of its instances. -/
theorem ClassRecord.Evolves.settled_of_initialized {old new : ClassRecord} (h : old.Evolves new)
    (initialized : old.initialized) :
    new.superclass = old.superclass ∧ new.instanceTag = old.instanceTag :=
  h.settled ((h.initialized initialized).trans initialized.symm)

theorem ClassRecord.Evolves.trans {first second third : ClassRecord} (h₁ : first.Evolves second)
    (h₂ : second.Evolves third) : first.Evolves third where
  header := h₁.header.trans h₂.header
  isSingleton := h₂.isSingleton.trans h₁.isSingleton
  attached := h₂.attached.trans h₁.attached
  initialized := fun h => h₂.initialized (h₁.initialized h)
  settled := by
    intro same
    -- the class in between cannot be initialized if the last one is not
    have middle : second.initialized = first.initialized := by
      cases h : first.initialized with
      | true => exact h₁.initialized h
      | false =>
          cases started : second.initialized with
          | false => rfl
          | true =>
              have last := h₂.initialized started
              rw [same, h] at last
              cases last
    have early := h₁.settled middle
    have late := h₂.settled (same.trans middle.symm)
    exact ⟨late.1.trans early.1, late.2.trans early.2⟩
  name := fun id h => h₂.name id (h₁.name id h)

namespace HeapObject

theorem Evolves.refl (object : HeapObject) : object.Evolves object := by
  cases object with
  | classRecord record => exact .classRecord (.refl record)
  | plain header => exact .plain (.refl header)
  | text content => exact .text content

theorem Evolves.trans {first second third : HeapObject} (h₁ : first.Evolves second)
    (h₂ : second.Evolves third) : first.Evolves third := by
  cases h₁ with
  | classRecord h₁ => cases h₂ with | classRecord h₂ => exact .classRecord (h₁.trans h₂)
  | plain h₁ => cases h₂ with | plain h₂ => exact .plain (h₁.trans h₂)
  | text content => exact h₂

/-- An initialized class. -/
def IsInitialized : HeapObject → Prop
  | .classRecord record => record.initialized
  | _ => False

/-- An initialized class that is not private to one object. -/
def IsOrdinary : HeapObject → Prop
  | .classRecord record => record.initialized ∧ record.isSingleton = false
  | _ => False

/-- A text. -/
def IsText : HeapObject → Prop
  | .text _ => True
  | _ => False

/-- A class or an instance with the given singleton class. -/
def HasSingleton (singleton : ObjectId) (object : HeapObject) : Prop :=
  ∃ header, object.header? = some header ∧ header.singleton = some singleton

/-- The singleton class of an object, below the given superclass. -/
def IsSingletonOf (object superclass : ObjectId) : HeapObject → Prop
  | .classRecord record => record.initialized ∧ record.isSingleton ∧
      record.attached = some object ∧ record.superclass = some superclass
  | _ => False

/-- A property that an object does not lose while it lives. -/
def Lasting (property : HeapObject → Prop) : Prop :=
  ∀ old new, old.Evolves new → property old → property new

theorem IsOrdinary.isInitialized {object : HeapObject} (h : object.IsOrdinary) :
    object.IsInitialized := by
  cases object with
  | classRecord record => exact h.1
  | plain header => exact h
  | text content => exact h

theorem IsSingletonOf.isInitialized {object superclass : ObjectId} {stored : HeapObject}
    (h : stored.IsSingletonOf object superclass) : stored.IsInitialized := by
  cases stored with
  | classRecord record => exact h.1
  | plain header => exact h
  | text content => exact h

theorem lasting_isInitialized : Lasting IsInitialized := by
  intro old new evolves h
  cases evolves with
  | classRecord evolves => exact evolves.initialized h
  | plain _ => exact h
  | text _ => exact h

theorem lasting_isOrdinary : Lasting IsOrdinary := by
  intro old new evolves h
  cases evolves with
  | classRecord evolves => exact ⟨evolves.initialized h.1, evolves.isSingleton.trans h.2⟩
  | plain _ => exact h
  | text _ => exact h

theorem lasting_isText : Lasting IsText := by
  intro old new evolves h
  cases evolves with
  | classRecord _ => exact h
  | plain _ => exact h
  | text _ => exact h

theorem lasting_hasSingleton (singleton : ObjectId) : Lasting (HasSingleton singleton) := by
  intro old new evolves h
  obtain ⟨header, stored, given⟩ := h
  cases evolves with
  | classRecord evolves =>
      cases stored
      exact ⟨_, rfl, evolves.header.singleton singleton given⟩
  | plain evolves =>
      cases stored
      exact ⟨_, rfl, evolves.singleton singleton given⟩
  | text _ => cases stored

theorem lasting_isSingletonOf (object superclass : ObjectId) :
    Lasting (IsSingletonOf object superclass) := by
  intro old new evolves h
  cases evolves with
  | classRecord evolves =>
      obtain ⟨initialized, flagged, attached, below⟩ := h
      exact ⟨evolves.initialized initialized, evolves.isSingleton.trans flagged,
        evolves.attached.trans attached,
        (evolves.settled_of_initialized initialized).1.trans below⟩
  | plain _ => exact h
  | text _ => exact h

end HeapObject

namespace Heap

/-- An id denotes an object with a property. -/
def Has (heap : Heap) (id : ObjectId) (property : HeapObject → Prop) : Prop :=
  ∃ object, heap.get? id = some object ∧ property object

/-- Every object that both heaps hold has evolved, and a kept object keeps what it refers to. -/
structure Continues (before after : Heap) : Prop where
  evolves : ∀ {id : ObjectId} {old new : HeapObject}, before.get? id = some old →
    after.get? id = some new → old.Evolves new
  closed : ∀ {source target : ObjectId} {old : HeapObject}, before.get? source = some old →
    after.contains source → old.RefersTo target → before.contains target → after.contains target

/-- Every object is kept and has evolved. -/
def Grows (before after : Heap) : Prop :=
  ∀ id old, before.get? id = some old → ∃ new, after.get? id = some new ∧ old.Evolves new

variable {before after : Heap} {id : ObjectId}

theorem Has.contains {property : HeapObject → Prop} (h : before.Has id property) :
    before.contains id := by
  obtain ⟨object, stored, _⟩ := h
  exact contains_iff.mpr ⟨object, stored⟩

theorem Has.imp {property weaker : HeapObject → Prop} (h : before.Has id property)
    (imp : ∀ object, property object → weaker object) : before.Has id weaker := by
  obtain ⟨object, stored, holds⟩ := h
  exact ⟨object, stored, imp object holds⟩

theorem Has.isInitialized (h : before.Has id HeapObject.IsOrdinary) :
    before.Has id HeapObject.IsInitialized :=
  h.imp fun _ => HeapObject.IsOrdinary.isInitialized

theorem Has.of_get? {property : HeapObject → Prop} {object : HeapObject}
    (h : before.Has id property) (stored : before.get? id = some object) : property object := by
  obtain ⟨other, found, holds⟩ := h
  rw [stored] at found
  cases found
  exact holds

theorem Has.exists_classRecord (h : before.Has id HeapObject.IsInitialized) :
    ∃ record, before.get? id = some (.classRecord record) ∧ record.initialized := by
  obtain ⟨object, stored, initialized⟩ := h
  cases object with
  | classRecord record => exact ⟨record, stored, initialized⟩
  | plain header => cases initialized
  | text content => cases initialized

/-- A lasting property carries over to a heap that continues this one. -/
theorem Has.continues {property : HeapObject → Prop} (h : before.Has id property)
    (lasting : HeapObject.Lasting property) (continues : before.Continues after)
    (kept : after.contains id) : after.Has id property := by
  obtain ⟨old, stored, holds⟩ := h
  obtain ⟨new, stored'⟩ := contains_iff.mp kept
  exact ⟨new, stored', lasting old new (continues.evolves stored stored') holds⟩

theorem Grows.refl (heap : Heap) : heap.Grows heap :=
  fun _ old stored => ⟨old, stored, .refl old⟩

/-- What a heap grows into further is what it grows into. -/
theorem Grows.trans {middle : Heap} (h₁ : before.Grows middle) (h₂ : middle.Grows after) :
    before.Grows after := by
  intro id old stored
  obtain ⟨between, stored₁, evolves₁⟩ := h₁ id old stored
  obtain ⟨new, stored₂, evolves₂⟩ := h₂ id between stored₁
  exact ⟨new, stored₂, evolves₁.trans evolves₂⟩

theorem Grows.contains (grows : before.Grows after) (live : before.contains id) :
    after.contains id := by
  obtain ⟨old, stored⟩ := contains_iff.mp live
  obtain ⟨new, stored', _⟩ := grows id old stored
  exact contains_iff.mpr ⟨new, stored'⟩

/-- What is not there after a growth was not there before it. -/
theorem Grows.get?_eq_none (grows : before.Grows after) (empty : after.get? id = none) :
    before.get? id = none := by
  cases found : before.get? id with
  | none => rfl
  | some stored =>
      obtain ⟨_, kept, _⟩ := grows id stored found
      rw [empty] at kept
      cases kept

theorem Grows.continues (grows : before.Grows after) : before.Continues after where
  evolves := by
    intro id old new stored stored'
    obtain ⟨grown, found, evolves⟩ := grows id old stored
    rw [stored'] at found
    cases found
    exact evolves
  closed := fun _ _ _ live => grows.contains live

/-- A lasting property carries over to a heap that this one grows into. -/
theorem Has.grows {property : HeapObject → Prop} (h : before.Has id property)
    (lasting : HeapObject.Lasting property) (grows : before.Grows after) :
    after.Has id property :=
  h.continues lasting grows.continues (grows.contains h.contains)

end Heap

end Metamodel
