import Mathlib.Logic.Relation
import Mathlib.Tactic.IntervalCases
import Metamodel.Proofs.Layers
import Metamodel.Proofs.NameForms
import Metamodel.Session.BareHeap

/-!
# Names on a bare heap

Nothing is checked when a heap is filled without an image around it. An owner may be an id without
an object, an id that gets an object later, or a text. The display name of an object is found along
its owners. If they do not lead in a circle, they lead to a text or to an id without an object, and
this end decides whether there is a name.
-/

namespace Metamodel

open Session Relation

/-- A name with the id of an instance or of a class without a name. -/
def ObjectId.label (id : ObjectId) (name : String) : String :=
  "#<" ++ name ++ ":0x" ++ String.ofList id.hexDigits ++ ">"

namespace Heap

/-- The object with the first id is owned by the second id, with or without an object. -/
def OwnedBy (heap : Heap) (id owner : ObjectId) : Prop :=
  heap.Has id (HeapObject.IsOwnedBy owner)

/-- No id on the way along the owners of an object comes back to itself. -/
def Uncycled (heap : Heap) (id : ObjectId) : Prop :=
  ∀ other, ReflTransGen heap.OwnedBy id other → ¬ TransGen heap.OwnedBy other other

/-- The way along the owners of an object: the records that are passed, and the id at which it
ends because nothing is stored there that has an owner. -/
inductive OwnerPath (heap : Heap) : ObjectId → List ObjectId → ObjectId → Prop
  | ends {id : ObjectId} : (∀ owner, ¬ heap.OwnedBy id owner) → OwnerPath heap id [] id
  | next {id owner last : ObjectId} {path : List ObjectId} : heap.OwnedBy id owner →
      OwnerPath heap owner path last → OwnerPath heap id (id :: path) last

/-- No class is a singleton class or has a name. -/
def Bare (heap : Heap) : Prop :=
  ∀ id record, heap.get? id = some (.classRecord record) →
    record.isSingleton = false ∧ record.name = none

variable {heap : Heap} {id other owner last : ObjectId} {path : List ObjectId}

/-- What has no owner is a text or no object at all. -/
theorem get?_of_not_ownedBy (unowned : ∀ owner, ¬ heap.OwnedBy id owner) :
    heap.get? id = none ∨ ∃ content, heap.get? id = some (.text content) := by
  cases stored : heap.get? id with
  | none => exact .inl rfl
  | some object =>
      cases object with
      | classRecord record => exact absurd ⟨_, stored, _, rfl, rfl⟩ (unowned record.owner)
      | plain header => exact absurd ⟨_, stored, _, rfl, rfl⟩ (unowned header.owner)
      | text content => exact .inr ⟨content, rfl⟩

theorem OwnedBy.owner_unique {owner' : ObjectId} (owned : heap.OwnedBy id owner)
    (owned' : heap.OwnedBy id owner') : owner = owner' := by
  obtain ⟨object, stored, header, isHeader, rfl⟩ := owned
  obtain ⟨header', isHeader', rfl⟩ := owned'.of_get? stored
  rw [isHeader] at isHeader'
  cases isHeader'
  rfl

/-- Owners with larger ids than what they own do not lead in a circle. -/
theorem uncycled_of_ascending (ascending : ∀ id owner, heap.OwnedBy id owner → id < owner) :
    heap.Uncycled id := by
  have above : ∀ lower upper, TransGen heap.OwnedBy lower upper → lower < upper := by
    intro lower upper way
    induction way with
    | single owned => exact ascending _ _ owned
    | tail _ owned ih => exact ih.trans (ascending _ _ owned)
  exact fun other _ circle => Nat.lt_irrefl other (above other other circle)

theorem Uncycled.next (uncycled : heap.Uncycled id) (owned : heap.OwnedBy id owner) :
    heap.Uncycled owner :=
  fun other reached => uncycled other (reached.head owned)

/-- Whatever has been passed on the way to an id, the way comes to an end from there: all that is
passed is different, and there are only so many slots. -/
theorem Uncycled.exists_ownerPath_of_passed (uncycled : heap.Uncycled id) {room : Nat}
    {passed : List ObjectId} (distinct : passed.Nodup)
    (earlier : ∀ other ∈ passed, heap.contains other ∧ TransGen heap.OwnedBy other id)
    (slots : heap.slotCount < passed.length + room) :
    ∃ path last, heap.OwnerPath id path last := by
  induction room generalizing id passed with
  | zero =>
      have short := length_le_slotCount distinct fun other mem => (earlier other mem).1
      omega
  | succ room ih =>
      by_cases owned : ∃ owner, heap.OwnedBy id owner
      · obtain ⟨owner, owned⟩ := owned
        have fresh : id ∉ passed := fun mem => uncycled id .refl (earlier id mem).2
        have onwards : ∀ other ∈ id :: passed,
            heap.contains other ∧ TransGen heap.OwnedBy other owner := by
          intro other mem
          rcases List.mem_cons.mp mem with rfl | mem
          · exact ⟨owned.contains, .single owned⟩
          · obtain ⟨live, reaches⟩ := earlier other mem
            exact ⟨live, reaches.tail owned⟩
        obtain ⟨path, last, route⟩ := ih (uncycled.next owned)
          (List.nodup_cons.mpr ⟨fresh, distinct⟩) onwards (by rw [List.length_cons]; omega)
        exact ⟨id :: path, last, .next owned route⟩
      · exact ⟨[], id, .ends (not_exists.mp owned)⟩

/-- Owners that do not lead in a circle come to an end. -/
theorem Uncycled.exists_ownerPath (uncycled : heap.Uncycled id) :
    ∃ path last, heap.OwnerPath id path last := by
  apply uncycled.exists_ownerPath_of_passed List.nodup_nil
  · intro other mem
    cases mem
  · exact Nat.lt_add_left _ (Nat.lt_succ_self heap.slotCount)

namespace OwnerPath

/-- At the end stands a text or no object at all. -/
theorem end_cases (route : heap.OwnerPath id path last) :
    heap.get? last = none ∨ ∃ content, heap.get? last = some (.text content) := by
  induction route with
  | ends unowned => exact get?_of_not_ownedBy unowned
  | next _ _ ih => exact ih

/-- What is passed is an object on the way. -/
theorem of_mem (route : heap.OwnerPath id path last) (mem : other ∈ path) :
    heap.contains other ∧ ReflTransGen heap.OwnedBy id other := by
  induction route with
  | ends => cases mem
  | next owned _ ih =>
      rcases List.mem_cons.mp mem with rfl | mem
      · exact ⟨owned.contains, .refl⟩
      · obtain ⟨live, reached⟩ := ih mem
        exact ⟨live, reached.head owned⟩

/-- There is one way along the owners of an object. -/
theorem unique (route : heap.OwnerPath id path last) {path' : List ObjectId} {last' : ObjectId}
    (route' : heap.OwnerPath id path' last') : path = path' ∧ last = last' := by
  induction route generalizing path' with
  | ends unowned =>
      cases route' with
      | ends => exact ⟨rfl, rfl⟩
      | next owned _ => exact absurd owned (unowned _)
  | next owned _ ih =>
      cases route' with
      | ends unowned => exact absurd owned (unowned _)
      | next owned' route' =>
          obtain rfl := owned.owner_unique owned'
          obtain ⟨rfl, rfl⟩ := ih route'
          exact ⟨rfl, rfl⟩

theorem nodup (route : heap.OwnerPath id path last) (uncycled : heap.Uncycled id) :
    path.Nodup := by
  induction route with
  | ends => exact List.nodup_nil
  | next owned route ih =>
      refine List.nodup_cons.mpr ⟨fun mem => ?_, ih (uncycled.next owned)⟩
      exact uncycled _ .refl (.head' owned (route.of_mem mem).2)

theorem length_le (route : heap.OwnerPath id path last) (uncycled : heap.Uncycled id) :
    path.length ≤ heap.slotCount :=
  length_le_slotCount (route.nodup uncycled) fun _ mem => (route.of_mem mem).1

end OwnerPath

namespace Bare

/-- What has an owner shows the name of that and its own id. -/
theorem nameForm (bare : heap.Bare) {object : HeapObject} {header : Header}
    (stored : heap.get? id = some object) (isHeader : object.header? = some header) :
    object.nameForm id = .ofOwner header.owner id := by
  cases object with
  | classRecord record =>
      cases isHeader
      obtain ⟨unflagged, nameless⟩ := bare id record stored
      exact ClassRecord.nameForm_of_anonymous unflagged nameless id
  | plain header =>
      cases isHeader
      rfl
  | text content => cases isHeader

/-- One step of the computation goes to the owner. -/
theorem displayNameWithin_succ (bare : heap.Bare) (owned : heap.OwnedBy id owner) (steps : Nat) :
    heap.displayNameWithin (steps + 1) id = id.label <$> heap.displayNameWithin steps owner := by
  obtain ⟨object, stored, header, isHeader, rfl⟩ := owned
  have form := bare.nameForm stored isHeader
  rw [Heap.displayNameWithin, find_eq_ok_iff.mpr stored]
  simp only [bind, Except.bind, form, NameForm.ofOwner]
  cases heap.displayNameWithin steps header.owner with
  | error fault => rfl
  | ok name =>
      refine congrArg Except.ok (String.toList_inj.mp ?_)
      simp [ObjectId.label, ObjectId.text_eq]

/-- The whole computation goes along the owners to the end and then back outwards. -/
theorem displayNameWithin_of_ownerPath (bare : heap.Bare) (route : heap.OwnerPath id path last)
    (steps : Nat) :
    heap.displayNameWithin (path.length + steps) id =
      (path.foldr ObjectId.label ·) <$> heap.displayNameWithin steps last := by
  induction route with
  | ends => simp
  | next owned _ ih =>
      rw [List.length_cons, Nat.add_right_comm, bare.displayNameWithin_succ owned, ih,
        ← comp_map]
      rfl

section Ends

variable (bare : heap.Bare) (route : heap.OwnerPath id path last) (uncycled : heap.Uncycled id)
include bare route uncycled

/-- There are steps enough to come to the end. -/
theorem exists_displayName : ∃ steps, heap.displayName id =
    (path.foldr ObjectId.label ·) <$> heap.displayNameWithin (steps + 1) last := by
  obtain ⟨steps, slots⟩ := Nat.exists_eq_add_of_le (route.length_le uncycled)
  refine ⟨steps, ?_⟩
  rw [Heap.displayName, slots, Nat.add_assoc, bare.displayNameWithin_of_ownerPath route]

theorem displayName_of_text {content : String} (stored : heap.get? last = some (.text content)) :
    heap.displayName id = .ok (path.foldr ObjectId.label (Text.quoted content)) := by
  obtain ⟨steps, shown⟩ := bare.exists_displayName route uncycled
  rw [shown, Heap.displayNameWithin, find_eq_ok_iff.mpr stored]
  rfl

theorem displayName_of_empty (empty : heap.get? last = none) :
    heap.displayName id = .error (.unknownObject last) := by
  obtain ⟨steps, shown⟩ := bare.exists_displayName route uncycled
  rw [shown, Heap.displayNameWithin, find, empty]
  rfl

end Ends

/-- An allocation of what is no class with a name and no singleton class. -/
theorem allocate (bare : heap.Bare) (tidy : heap.Tidy) {object : HeapObject}
    (fresh : ∀ record, object = .classRecord record →
      record.isSingleton = false ∧ record.name = none) : (heap.allocate object).2.Bare := by
  intro id record stored
  rw [tidy.get?_allocate] at stored
  split at stored
  · exact fresh record (Option.some.inj stored)
  · exact bare id record stored

end Bare

/-- How the display name of an object follows from the way along its owners. -/
structure NamedAlong (heap : Heap) (id : ObjectId) (path : List ObjectId) (last : ObjectId) :
    Prop where
  route : heap.OwnerPath id path last
  /-- No id before the last one is without an object. -/
  live : ∀ other ∈ path, heap.contains other
  /-- There is a display name if the way ends at a text, and then only. -/
  total : (∃ name, heap.displayName id = .ok name) ↔
    ∃ content, heap.get? last = some (.text content)
  /-- The name is the quoted text with the ids of the way around it, those of the first objects
  outermost. -/
  named : ∀ content, heap.get? last = some (.text content) →
    heap.displayName id = .ok (path.foldr ObjectId.label (Text.quoted content))
  /-- Without a text at the end there is no object there, and this id is reported. -/
  unnamed : (∀ content, heap.get? last ≠ some (.text content)) →
    heap.contains last = false ∧ heap.displayName id = .error (.unknownObject last)
  /-- What is no class is refused by its display name. -/
  refused : ∀ content, heap.contains id → heap.isClass id = false →
    heap.get? last = some (.text content) →
    heap.findClass id = .error (.notAClass (path.foldr ObjectId.label (Text.quoted content)))
  /-- Without a display name it is refused for the reason why it has none. -/
  refusedUnnamed : heap.contains id → heap.isClass id = false →
    (∀ content, heap.get? last ≠ some (.text content)) →
    heap.findClass id = .error (.unknownObject last)

theorem findClass_of_not_isClass (live : heap.contains id) (other : heap.isClass id = false) :
    heap.findClass id = (heap.displayName id).bind fun name => .error (.notAClass name) := by
  obtain ⟨object, stored⟩ := contains_iff.mp live
  apply findClass_eq_bind stored
  rwa [isClass, stored, Option.isSome_eq_false_iff, Option.isNone_iff_eq_none] at other

theorem Bare.namedAlong (bare : heap.Bare) (route : heap.OwnerPath id path last)
    (uncycled : heap.Uncycled id) : heap.NamedAlong id path last := by
  have named : ∀ content, heap.get? last = some (.text content) →
      heap.displayName id = .ok (path.foldr ObjectId.label (Text.quoted content)) :=
    fun _ => bare.displayName_of_text route uncycled
  have unnamed : (∀ content, heap.get? last ≠ some (.text content)) →
      heap.get? last = none ∧ heap.displayName id = .error (.unknownObject last) := by
    intro other
    have empty := route.end_cases.resolve_right fun ⟨content, stored⟩ => other content stored
    exact ⟨empty, bare.displayName_of_empty route uncycled empty⟩
  exact {
    route
    live := fun other mem => (route.of_mem mem).1
    total := by
      constructor
      · rintro ⟨name, shown⟩
        by_contra other
        rw [(unnamed (not_exists.mp other)).2] at shown
        cases shown
      · rintro ⟨content, stored⟩
        exact ⟨_, named content stored⟩
    named
    unnamed := fun other => (unnamed other).imp_left contains_eq_false_iff.mpr
    refused := by
      intro content live isClass stored
      rw [findClass_of_not_isClass live isClass, named content stored]
      rfl
    refusedUnnamed := by
      intro live isClass other
      rw [findClass_of_not_isClass live isClass, (unnamed other).2]
      rfl }

end Heap

namespace Session.HeapCall

/-- The heap after some calls, in order, on one without objects. -/
def build (settings : Settings) (calls : List (HeapCall ObjectId)) : Heap :=
  calls.foldl (fun heap call => (call.perform heap).2) (.empty settings)

/-- One call keeps the slots in order and gives no class a name. -/
theorem bare_perform {heap : Heap} (tidy : heap.Tidy) (bare : heap.Bare)
    (call : HeapCall ObjectId) : (call.perform heap).2.Tidy ∧ (call.perform heap).2.Bare := by
  cases call with
  | allocateText content =>
      refine ⟨tidy.allocate _, bare.allocate tidy ?_⟩
      rintro record ⟨⟩
  | allocateClass owner =>
      refine ⟨tidy.allocate _, bare.allocate tidy ?_⟩
      rintro record ⟨⟩
      exact ⟨rfl, rfl⟩
  | allocatePlain owner tag =>
      refine ⟨tidy.allocate _, bare.allocate tidy ?_⟩
      rintro record ⟨⟩
  | inspect question object => exact ⟨tidy, bare⟩
  | survey question => exact ⟨tidy, bare⟩

theorem bare_build (settings : Settings) (calls : List (HeapCall ObjectId)) :
    (build settings calls).Tidy ∧ (build settings calls).Bare := by
  induction calls using List.reverseRecOn with
  | nil =>
      refine ⟨Heap.tidy_empty settings, ?_⟩
      intro id record stored
      cases stored
  | append_singleton calls call ih =>
      rw [build, List.foldl_append, List.foldl_cons, List.foldl_nil]
      exact bare_perform ih.1 ih.2 call

/-- Whatever is allocated on a bare heap, under whatever owners, an object whose owners do not lead
in a circle has a display name if they lead to a text, and then only. The name is the quoted text,
wrapped once for each object on the way, and the ids in it are hexadecimal, with sixteen digits for
ids of sixty-four bits. Otherwise the first id on the way that is without an object is reported. To
be asked for as a class, what is none is refused by this name or for the same reason. -/
theorem names_resolved (settings : Settings) (calls : List (HeapCall ObjectId)) {id : ObjectId}
    (uncycled : (build settings calls).Uncycled id) :
    (∃ path last, (build settings calls).NamedAlong id path last) ∧
      ∀ other : ObjectId, Text.Hexadecimal.value other.hexDigits = other ∧
        (∀ c ∈ other.hexDigits, Text.Hexadecimal.isDigit c) ∧
        (other < 2 ^ 64 → other.hexDigits.length = 16) := by
  have bare := (bare_build settings calls).2
  obtain ⟨path, last, route⟩ := uncycled.exists_ownerPath
  refine ⟨⟨path, last, bare.namedAlong route uncycled⟩, fun other => ⟨?_, ?_, ?_⟩⟩
  · exact ObjectId.value_hexDigits other
  · exact fun c mem => ObjectId.isDigit_of_mem_hexDigits mem
  · exact fun small => ObjectId.length_hexDigits small

/-- The case of an instance of a class that a text owns, and of one whose owner is never
allocated. -/
theorem names_resolved_text : ∃ heap, heap = build .standard
    [.allocatePlain 1 .object, .allocateClass 2, .allocateText "K", .allocatePlain 9 .object] ∧
      heap.Uncycled 0 ∧ heap.Uncycled 3 ∧
      heap.displayName 0 = .ok "#<#<\"K\":0x0000000000000001>:0x0000000000000000>" ∧
      heap.findClass 0 = .error (.notAClass "#<#<\"K\":0x0000000000000001>:0x0000000000000000>") ∧
      heap.displayName 3 = .error (.unknownObject 9) ∧
      heap.findClass 3 = .error (.unknownObject 9) := by
  let heap := build .standard
    [.allocatePlain 1 .object, .allocateClass 2, .allocateText "K", .allocatePlain 9 .object]
  have instanceOwned : heap.OwnedBy 0 1 := ⟨_, rfl, _, rfl, rfl⟩
  have classOwned : heap.OwnedBy 1 2 := ⟨_, rfl, _, rfl, rfl⟩
  have strayOwned : heap.OwnedBy 3 9 := ⟨_, rfl, _, rfl, rfl⟩
  have text : heap.get? 2 = some (.text "K") := rfl
  have unowned : ∀ owner, ¬ heap.OwnedBy 2 owner := by
    rintro owner ⟨object, stored, header, isHeader, _⟩
    cases text.symm.trans stored
    cases isHeader
  have ascending : ∀ id owner, heap.OwnedBy id owner → id < owner := by
    intro id owner owned
    have inside : id < 4 := Heap.lt_slotCount_of_contains owned.contains
    interval_cases id
    · exact instanceOwned.owner_unique owned ▸ Nat.zero_lt_one
    · exact classOwned.owner_unique owned ▸ Nat.lt_succ_self 1
    · exact absurd owned (unowned owner)
    · exact strayOwned.owner_unique owned ▸ (by decide)
  have route : heap.OwnerPath 0 [0, 1] 2 := .next instanceOwned (.next classOwned (.ends unowned))
  have strayRoute : heap.OwnerPath 3 [3] 9 := .next strayOwned (.ends fun _ owned =>
    Bool.false_ne_true owned.contains)
  have uncycled : ∀ id, heap.Uncycled id := fun _ => Heap.uncycled_of_ascending ascending
  have shown : [0, 1].foldr ObjectId.label (Text.quoted "K") =
      "#<#<\"K\":0x0000000000000001>:0x0000000000000000>" := by decide +kernel
  obtain ⟨⟨path, last, names⟩, _⟩ := names_resolved _ _ (uncycled 0)
  obtain ⟨rfl, rfl⟩ := route.unique names.route
  obtain ⟨⟨path, last, strayNames⟩, _⟩ := names_resolved _ _ (uncycled 3)
  obtain ⟨rfl, rfl⟩ := strayRoute.unique strayNames.route
  have missing : ∀ content, heap.get? 9 ≠ some (.text content) := by
    rintro content ⟨⟩
  refine ⟨heap, rfl, uncycled 0, uncycled 3, ?_, ?_, ?_, ?_⟩
  · rw [names.named "K" text, shown]
  · rw [names.refused "K" rfl rfl text, shown]
  · exact (strayNames.unnamed missing).2
  · exact strayNames.refusedUnnamed rfl rfl missing

end Session.HeapCall

end Metamodel
