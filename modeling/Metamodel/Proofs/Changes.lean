import Metamodel.Proofs.Edits

/-!
# What edits change

Only a collection frees objects; every other edit keeps what is stored. Whatever is stored after
an edit is an object that was there before and has evolved without being initialized, a class that
the edit has linked, a singleton class that it has made, an instance or a text.
-/

namespace Metamodel

/-- A class is not initialized by a singleton class. -/
theorem HeapObject.isInitialized_of_withSingleton {object : HeapObject} {singleton : ObjectId}
    (initialized : (object.withSingleton singleton).IsInitialized) : object.IsInitialized := by
  cases object with
  | classRecord record => exact initialized
  | plain header => exact initialized
  | text content => exact initialized

namespace Heap

variable {before after : Heap} {builtins : Builtins}

/-- What is stored after an edit, and where it comes from. -/
inductive Edited (builtins : Builtins) (before : Heap) : ObjectId → HeapObject → Prop
  /-- An object that was there before. It has not been initialized by the edit. -/
  | kept {id : ObjectId} {old new : HeapObject} : before.get? id = some old → old.Evolves new →
      (new.IsInitialized → old.IsInitialized) → Edited builtins before id new
  /-- A class linked below an ordinary one: an uninitialized class or a new one. It has a
  singleton class if the class above it has one. -/
  | linked {id superclass : ObjectId} {parent record : ClassRecord} {tag : TypeTag}
      {text derived : Option ObjectId} :
      before.get? superclass = some (.classRecord parent) → superclass ≠ builtins.anchor →
      parent.isSingleton = false → parent.initialized → record.initialized = false →
      before.get? id = some (.classRecord record) ∨ record = .fresh builtins.anchor →
      (derived = none → parent.singleton = none) →
      Edited builtins before id (.classRecord (ClassRecord.joined
        { record with singleton := derived.or record.singleton } superclass text tag))
  /-- A singleton class below that of another class, which owns it and gives the same tag to
  instances. -/
  | mirror {id lower superclass above : ObjectId} {parent mirrored : ClassRecord} :
      before.get? superclass = some (.classRecord parent) → parent.singleton = some above →
      before.get? above = some (.classRecord mirrored) →
      Edited builtins before id
        (.classRecord (.singletonOf lower above above mirrored.instanceTag))
  /-- A singleton class in its place. It has the owner of the class above it. -/
  | singleton {id object superclass : ObjectId} {stored : HeapObject} {parent : ClassRecord}
      {derived : Option ObjectId} : before.get? object = some stored →
      before.SingletonBelow builtins.anchor stored superclass →
      before.get? superclass = some (.classRecord parent) →
      Edited builtins before id (.classRecord
        { ClassRecord.singletonOf object superclass parent.owner parent.instanceTag with
          singleton := derived })
  /-- A new instance of an ordinary class. -/
  | instance {id owner : ObjectId} {record : ClassRecord} :
      before.get? owner = some (.classRecord record) → record.initialized →
      record.isSingleton = false →
      Edited builtins before id (.plain (.fresh record.instanceTag owner))
  | text {id : ObjectId} {object : HeapObject} : object.IsText → Edited builtins before id object

theorem Edited.same {id : ObjectId} {object : HeapObject} (stored : before.get? id = some object) :
    Edited builtins before id object :=
  .kept stored (.refl object) fun started => started

/-- A new class is linked like any other one. -/
theorem WellFormed.exists_links_new (wf : before.WellFormed builtins) {superclass : ObjectId}
    {parent : ClassRecord} (name : String) (tag : TypeTag)
    (upper : before.get? superclass = some (.classRecord parent)) (started : parent.initialized) :
    ∃ text derived, (before.addClass builtins.anchor).Links
      ((before.addClass builtins.anchor).link superclass before.nextId name tag) superclass
      before.nextId parent (.fresh builtins.anchor) tag text derived := by
  have upper' := get?_addClass_of_some wf.tidy builtins.anchor upper
  have lower' := get?_addClass_nextId wf.tidy builtins.anchor
  exact exists_links (wf.tidy.addClass builtins.anchor) name tag upper' started lower' rfl
    (.inr rfl) (wf.addClass.exists_singleton upper' rfl)

/-- An edit that is no collection keeps every object. -/
theorem Edit.grows_or_collects (edit : Edit builtins before after)
    (wf : before.WellFormed builtins) :
    before.Grows after ∨ ∃ roots, after = (before.collect roots).2 := by
  cases edit with
  | addInstance => exact .inl (grows_allocate wf.tidy _)
  | derive name tag upper _ _ started =>
      obtain ⟨text, derived, links⟩ := wf.exists_links_new name tag upper started
      exact .inl ((grows_allocate wf.tidy _).trans (links.grows rfl))
  | link tag upper _ _ started lower raw =>
      obtain ⟨text, derived, links⟩ := exists_links wf.tidy "" tag upper started lower raw
        (.inl rfl) (wf.exists_singleton upper rfl)
      exact .inl (links.grows (((wf.sound lower).classRecord _ rfl).apart raw).2.1)
  | makeSingleton target isHeader alone _ _ upper =>
      obtain ⟨derived, attaches⟩ := wf.attaches target isHeader alone upper
      exact .inl attaches.grows
  | assignName name stored _ unnamed => exact .inl (grows_assignName wf.tidy name stored unnamed)
  | collect => exact .inr ⟨_, rfl⟩
  | pin => exact .inl fun id old found => ⟨old, found, .refl old⟩
  | unpin target =>
      refine .inl fun id old found => ⟨old, ?_, .refl old⟩
      rw [get?, slots_unpin]
      exact found

/-- What an edit keeps evolves in it, with what it refers to. -/
theorem Edit.continues (edit : Edit builtins before after) (wf : before.WellFormed builtins) :
    before.Continues after := by
  rcases edit.grows_or_collects wf with grows | ⟨roots, rfl⟩
  · exact grows.continues
  · exact continues_collect before roots

/-- What one call makes of a heap: edits in a row, in which no slot passes from one object to
another. -/
structure Revises (builtins : Builtins) (before after : Heap) : Prop where
  edits : Edits builtins before after
  continues : before.Continues after

theorem Revises.refl (heap : Heap) : Revises builtins heap heap :=
  ⟨.refl, (Grows.refl heap).continues⟩

theorem Edit.revises (edit : Edit builtins before after) (wf : before.WellFormed builtins) :
    Revises builtins before after :=
  ⟨.single edit, edit.continues wf⟩

/-- After an edit nothing else is stored. -/
theorem Edit.edited (edit : Edit builtins before after) (wf : before.WellFormed builtins)
    {id : ObjectId} {object : HeapObject} (found : after.get? id = some object) :
    Edited builtins before id object := by
  cases edit with
  | addInstance stored initialized ordinary =>
      rw [wf.tidy.get?_allocate] at found
      split at found
      · cases found
        exact .instance stored initialized ordinary
      · exact .same found
  | derive name tag upper other ordinary started =>
      obtain ⟨text, derived, links⟩ := wf.exists_links_new name tag upper started
      cases links.linked_of_get? found with
      | subclass =>
          exact .linked upper other ordinary started rfl (.inr rfl) links.alone
      | text _ textual => exact .text textual
      | mirror _ has isAbove =>
          obtain ⟨mirrored, isAbove'⟩ := wf.exists_singleton upper rfl _ has
          obtain rfl := classRecord_inj (get?_addClass_of_some wf.tidy _ isAbove') isAbove
          exact .mirror upper has isAbove'
      | kept ne stored =>
          rw [get?_addClass wf.tidy, if_neg ne] at stored
          exact .same stored
  | link tag upper other ordinary started lower raw =>
      obtain ⟨text, derived, links⟩ := exists_links wf.tidy "" tag upper started lower raw
        (.inl rfl) (wf.exists_singleton upper rfl)
      cases links.linked_of_get? found with
      | subclass => exact .linked upper other ordinary started raw (.inl lower) links.alone
      | text _ textual => exact .text textual
      | mirror _ has isAbove => exact .mirror upper has isAbove
      | kept _ stored => exact .same stored
  | makeSingleton target isHeader alone started below upper =>
      obtain ⟨derived, attaches⟩ := wf.attaches target isHeader alone upper
      cases attaches.attached_of_get? found with
      | object same =>
          refine .kept target (attaches.grows.continues.evolves target found) ?_
          rw [same]
          exact HeapObject.isInitialized_of_withSingleton
      | singleton => exact .singleton target below upper
      | mirror _ has isAbove => exact .mirror upper has isAbove
      | kept _ stored => exact .same stored
  | assignName name stored ordinary unnamed =>
      have grows := grows_assignName wf.tidy name stored unnamed
      have view := found
      rw [get?_assignName wf.tidy stored] at view
      split at view
      · next here =>
          subst here
          refine .kept stored (grows.continues.evolves stored found) ?_
          cases view
          exact fun started => started
      · split at view
        · cases view
          exact .text trivial
        · exact .same view
  | collect => exact .same (get?_collect_eq_some_iff.mp found).2
  | pin => exact .same found
  | unpin target =>
      rw [get?, slots_unpin] at found
      exact .same found

end Heap

end Metamodel
