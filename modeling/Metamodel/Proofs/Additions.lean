import Metamodel.Proofs.Effects
import Metamodel.Proofs.WellFormed

/-!
# Additions

A further object keeps a heap well-formed if it is sound in its new slot, for nothing refers to a
new object yet and no other object changes.
-/

namespace Metamodel

/-- A class that has only an owner refers to nothing else. -/
theorem ClassRecord.sound_fresh (heap : Heap) (builtins : Builtins) (id : ObjectId) :
    (ClassRecord.fresh builtins.anchor).Sound heap builtins id where
  rooted := by rintro ⟨⟩
  apart := fun _ => ⟨rfl, rfl, rfl⟩
  owner := fun _ => rfl
  name := by rintro name ⟨⟩
  nameless := by rintro ⟨⟩
  flagged := rfl
  attached := by rintro object ⟨⟩

/-- A singleton class is sound once its object knows it and it has its place in the hierarchy,
with or without a singleton class of its own. -/
theorem HeapObject.sound_singletonOf {heap : Heap} {builtins : Builtins}
    {id object superclass owner : ObjectId} {tag : TypeTag} {derived : Option ObjectId}
    (stored : heap.get? id = some (.classRecord
      { ClassRecord.singletonOf object superclass owner tag with singleton := derived }))
    (owned : heap.Has owner IsInitialized) (rooted : heap.Rooted builtins.root superclass)
    (attached : heap.Has object (HasSingleton id))
    (mirrored : ∀ singleton, derived = some singleton → ∃ above,
      heap.Has superclass (HasSingleton above) ∧ heap.Has singleton (IsSingletonOf id above)) :
    HeapObject.Sound heap builtins id (.classRecord
      { ClassRecord.singletonOf object superclass owner tag with singleton := derived }) := by
  apply HeapObject.sound_classRecord
  · refine ⟨owned, ?_⟩
    intro singleton given
    obtain ⟨above, has, isSingleton⟩ := mirrored singleton given
    exact ⟨above, .beside rfl has, isSingleton⟩
  · refine ⟨fun _ => .under stored rfl rfl rooted, ?_, ?_, ?_, fun _ => rfl, rfl, ?_⟩
    · rintro ⟨⟩
    · rintro ⟨⟩
    · rintro name ⟨⟩
    · rintro object ⟨⟩
      exact attached

namespace Heap

variable {before after : Heap} {builtins : Builtins}

/-- An allocation changes no object. -/
theorem grows_allocate (tidy : before.Tidy) (object : HeapObject) :
    before.Grows (before.allocate object).2 := by
  intro id old stored
  refine ⟨old, ?_, .refl old⟩
  rw [tidy.get?_allocate, if_neg (tidy.ne_nextId stored), stored]

/-- A singleton class derived from that of a superclass is below it and owned by it. -/
theorem WellFormed.sound_mirror (wf : before.WellFormed builtins) (grows : before.Grows after)
    {id lower superclass above : ObjectId} {parent : ClassRecord} {tag : TypeTag}
    (upper : before.get? superclass = some (.classRecord parent))
    (has : parent.singleton = some above)
    (stored : after.get? id = some (.classRecord (.singletonOf lower above above tag)))
    (held : after.Has lower (HeapObject.HasSingleton id)) :
    HeapObject.Sound after builtins id (.classRecord (.singletonOf lower above above tag)) := by
  have initialized := wf.isInitialized_singleton upper rfl has
  exact HeapObject.sound_singletonOf stored
    (initialized.grows HeapObject.lasting_isInitialized grows)
    (wf.rooted_of_grows grows initialized) held (by rintro singleton ⟨⟩)

theorem pins_allocate (heap : Heap) (object : HeapObject) :
    (heap.allocate object).2.pins = heap.pins := by
  unfold allocate
  split <;> rfl

/-- An added object that is sound where it is placed keeps a heap well-formed; a class must not
bring a name. -/
theorem WellFormed.allocate (wf : before.WellFormed builtins) (object : HeapObject)
    (sound : object.Sound (before.allocate object).2 builtins before.nextId)
    (nameless : ∀ record, object = .classRecord record → record.name = none) :
    (before.allocate object).2.WellFormed builtins := by
  have view := fun id => wf.tidy.get?_allocate object id
  refine wf.grows (wf.tidy.allocate _) (grows_allocate wf.tidy _) (pins_allocate _ _) ?_
    builtins.root ?_
  · intro id stored found
    rw [view] at found
    split at found
    · next here =>
        cases found
        exact .inr (here ▸ sound)
    · exact .inl found
  · intro id record name found given
    rw [view] at found
    split at found
    · cases found
      rw [nameless record rfl] at given
      cases given
    · exact .inl ⟨record, found, given⟩

theorem WellFormed.anchor_isOrdinary (wf : before.WellFormed builtins) :
    before.Has builtins.anchor HeapObject.IsOrdinary :=
  wf.builtins _ (by simp [Builtins.toList])

theorem WellFormed.root_isOrdinary (wf : before.WellFormed builtins) :
    before.Has builtins.root HeapObject.IsOrdinary :=
  wf.builtins _ (by simp [Builtins.toList])

theorem WellFormed.addClass (wf : before.WellFormed builtins) :
    (before.addClass builtins.anchor).WellFormed builtins := by
  have anchor := wf.anchor_isOrdinary.isInitialized
  have grows := grows_allocate wf.tidy (.classRecord (.fresh builtins.anchor))
  have owned := anchor.grows HeapObject.lasting_isInitialized grows
  apply wf.allocate
  · apply HeapObject.sound_classRecord
    · exact ⟨owned, fun singleton given => nomatch given⟩
    · exact ClassRecord.sound_fresh _ _ _
  · rintro record ⟨⟩
    rfl

theorem WellFormed.addInstance (wf : before.WellFormed builtins) {owner : ObjectId}
    {record : ClassRecord} (stored : before.get? owner = some (.classRecord record))
    (initialized : record.initialized) (ordinary : record.isSingleton = false) :
    (before.allocate (.plain (.fresh record.instanceTag owner))).2.WellFormed builtins := by
  have grows := grows_allocate wf.tidy (.plain (.fresh record.instanceTag owner))
  have owned : before.Has owner HeapObject.IsOrdinary := ⟨_, stored, initialized, ordinary⟩
  have owned' := owned.grows HeapObject.lasting_isOrdinary grows
  apply wf.allocate
  · apply HeapObject.sound_plain
    · exact ⟨owned'.isInitialized, fun singleton given => nomatch given⟩
    · exact owned'
  · rintro record ⟨⟩

end Heap

end Metamodel
