import Metamodel.Proofs.Changes
import Metamodel.Proofs.Hierarchy

/-!
# Layers

Above an ordinary class stand ordinary classes only. A singleton class is owned by the class above
it or has the owner of that class. So the owner of a singleton class is found on its superclass
chain, unless it is the class of all classes.
-/

namespace Metamodel

open Session

/-- An object that the given class owns. -/
def HeapObject.IsOwnedBy (owner : ObjectId) (object : HeapObject) : Prop :=
  ∃ header, object.header? = some header ∧ header.owner = owner

/-- How a class fits below the class above it. -/
inductive ClassRecord.FitsBelow (record : ClassRecord) (superclass : ObjectId)
    (above : HeapObject) : Prop
  | ordinary : record.isSingleton = false → above.IsOrdinary → FitsBelow record superclass above
  /-- A singleton class that the class above owns. -/
  | owned : record.isSingleton → record.owner = superclass → FitsBelow record superclass above
  /-- A singleton class with the owner of the class above. -/
  | shared : record.isSingleton → above.IsOwnedBy record.owner →
      FitsBelow record superclass above

namespace HeapObject

theorem lasting_isOwnedBy (owner : ObjectId) : Lasting (IsOwnedBy owner) := by
  intro old new evolves owned
  obtain ⟨header, isHeader, same⟩ := owned
  cases evolves with
  | classRecord evolves =>
      cases isHeader
      exact ⟨_, rfl, evolves.header.owner.trans same⟩
  | plain evolves =>
      cases isHeader
      exact ⟨_, rfl, evolves.owner.trans same⟩
  | text _ => cases isHeader

theorem lasting_fitsBelow (record : ClassRecord) (superclass : ObjectId) :
    Lasting (record.FitsBelow superclass) := by
  intro old new evolves fits
  cases fits with
  | ordinary unflagged above => exact .ordinary unflagged (lasting_isOrdinary old new evolves above)
  | owned flagged same => exact .owned flagged same
  | shared flagged owned => exact .shared flagged (lasting_isOwnedBy _ old new evolves owned)

end HeapObject

namespace Heap

/-- Every class fits below its superclass. -/
def Layered (heap : Heap) : Prop :=
  ∀ id record superclass, heap.get? id = some (.classRecord record) →
    record.superclass = some superclass → heap.Has superclass (record.FitsBelow superclass)

variable {heap before after : Heap} {builtins : Builtins} {id other : ObjectId}
  {record : ClassRecord}

/-- How a class fits depends only on whether it is a singleton class and on its owner, neither of
which changes. -/
theorem Layered.of_evolves (layered : before.Layered) {old new : ClassRecord}
    {superclass : ObjectId} (stored : before.get? id = some (.classRecord old))
    (evolves : old.Evolves new) (next : old.superclass = some superclass) :
    before.Has superclass (new.FitsBelow superclass) := by
  refine (layered id old superclass stored next).imp fun above fits => ?_
  have flags := evolves.isSingleton
  have owners := evolves.header.owner
  cases fits with
  | ordinary unflagged ordinary => exact .ordinary (flags.trans unflagged) ordinary
  | owned flagged same => exact .owned (flags.trans flagged) (owners.trans same)
  | shared flagged owned => exact .shared (flags.trans flagged) (owners ▸ owned)

/-- Classes go on fitting in a heap that continues this one, if what it has linked anew fits. -/
theorem Layered.continues (continues : before.Continues after) (wf : after.WellFormed builtins)
    (fits : ∀ id record superclass, after.get? id = some (.classRecord record) →
      record.superclass = some superclass →
      before.Has superclass (record.FitsBelow superclass)) : after.Layered := by
  intro id record superclass stored next
  obtain ⟨_, lineage⟩ := wf.exists_lineage_above stored next
  exact (fits id record superclass stored next).continues
    (HeapObject.lasting_fitsBelow record superclass) continues lineage.isInitialized.contains

/-- What is linked is no singleton class. -/
theorem WellFormed.unflagged_of_raw (wf : heap.WellFormed builtins)
    (raw : record.initialized = false)
    (origin : heap.get? id = some (.classRecord record) ∨ record = .fresh builtins.anchor) :
    record.isSingleton = false := by
  rcases origin with lower | rfl
  · exact (((wf.sound lower).classRecord record rfl).apart raw).2.2
  · rfl

theorem keptByEdits_layered : KeptByEdits fun _ heap => heap.Layered := by
  intro builtins before after wf edit layered
  have wf' := edit.wellFormed wf
  refine Layered.continues (edit.continues wf) wf' ?_
  intro id record superclass stored next
  cases edit.edited wf stored with
  | kept found evolves started =>
      cases evolves with
      | classRecord evolves =>
          have initialized := ((wf'.sound stored).classRecord record rfl).started
            (.inl (by simp [next]))
          have settled := evolves.settled_of_initialized (started initialized)
          exact layered.of_evolves found evolves (settled.1.symm.trans next)
  | linked upper _ ordinary started raw origin _ =>
      cases next
      have unflagged := wf.unflagged_of_raw raw origin
      exact ⟨_, upper, .ordinary unflagged ⟨started, ordinary⟩⟩
  | mirror upper given _ =>
      cases next
      exact (wf.isInitialized_singleton upper rfl given).imp fun above _ => .owned rfl rfl
  | singleton target below upper =>
      cases next
      exact ⟨_, upper, .shared rfl ⟨_, rfl, rfl⟩⟩
  | text textual => cases textual

theorem layered_first [ReentrantMutex] (settings : Settings) :
    (Image.first settings).heap.Layered := by
  intro id record superclass stored next
  cases firstClass_of_get? stored <;> cases next
  case anchor => exact ⟨_, rfl, .ordinary rfl ⟨rfl, rfl⟩⟩
  case rootMirror => exact ⟨_, rfl, .owned rfl rfl⟩
  case objectClass => exact ⟨_, rfl, .ordinary rfl ⟨rfl, rfl⟩⟩
  case objectMirror => exact ⟨_, rfl, .owned rfl rfl⟩
  case moduleClass => exact ⟨_, rfl, .ordinary rfl ⟨rfl, rfl⟩⟩
  case moduleMirror => exact ⟨_, rfl, .owned rfl rfl⟩

/-- A class that is only allocated stands below no class. -/
theorem WellFormed.layered_addClass (wf : heap.WellFormed builtins) (layered : heap.Layered) :
    (heap.addClass builtins.anchor).Layered := by
  refine Layered.continues (grows_allocate wf.tidy _).continues wf.addClass ?_
  intro id record superclass stored next
  rw [get?_addClass wf.tidy] at stored
  split at stored
  · cases stored
    cases next
  · exact layered id record superclass stored next

/-- Above an ordinary class stand ordinary classes only. -/
theorem Layered.isOrdinary_of_mem (layered : heap.Layered) {chain : List ObjectId}
    (lineage : heap.Lineage builtins.root id chain) (ordinary : heap.Has id HeapObject.IsOrdinary)
    (mem : other ∈ chain) : heap.Has other HeapObject.IsOrdinary := by
  induction lineage with
  | root => rwa [List.mem_singleton.mp mem]
  | @under id superclass record above stored _ next _ ih =>
      rcases List.mem_cons.mp mem with rfl | mem
      · exact ordinary
      · have unflagged : record.isSingleton = false := (ordinary.of_get? stored).2
        refine ih ((layered id record superclass stored next).imp fun above fits => ?_) mem
        cases fits with
        | ordinary _ ordinary => exact ordinary
        | owned flagged => simp [unflagged] at flagged
        | shared flagged => simp [unflagged] at flagged

/-- The owner of a class is the class of all classes, the class above it or the owner of that. -/
theorem Layered.owner_cases (layered : heap.Layered) (wf : heap.WellFormed builtins)
    {superclass : ObjectId} {parent : ClassRecord}
    (stored : heap.get? id = some (.classRecord record))
    (next : record.superclass = some superclass)
    (upper : heap.get? superclass = some (.classRecord parent)) :
    record.owner = builtins.anchor ∨ record.owner = superclass ∨ record.owner = parent.owner := by
  have fits := (layered id record superclass stored next).of_get? upper
  cases fits with
  | ordinary unflagged => exact .inl (((wf.sound stored).classRecord record rfl).owner unflagged)
  | owned _ same => exact .inr (.inl same)
  | shared _ owned =>
      obtain ⟨header, isHeader, same⟩ := owned
      cases isHeader
      exact .inr (.inr same.symm)

/-- The owner of a class stands on its superclass chain or is the class of all classes. -/
theorem Layered.owner_mem (layered : heap.Layered) (wf : heap.WellFormed builtins)
    {chain : List ObjectId} (lineage : heap.Lineage builtins.root id chain)
    (stored : heap.get? id = some (.classRecord record)) :
    record.owner = builtins.anchor ∨ record.owner ∈ chain := by
  induction lineage generalizing record with
  | root => exact .inl (((wf.sound stored).classRecord record rfl).owner
      (wf.root_isOrdinary.of_get? stored).2)
  | @under id superclass _ above stored' _ next lineage ih =>
      obtain rfl := classRecord_inj stored stored'
      obtain ⟨parent, upper, _⟩ := lineage.isInitialized.exists_classRecord
      rcases layered.owner_cases wf stored next upper with isAnchor | same | same
      · exact .inl isAnchor
      · exact .inr (List.mem_cons_of_mem _ (same ▸ lineage.mem_self))
      · rw [same]
        exact (ih upper).imp_right (List.mem_cons_of_mem _)

end Heap

/-- Every reachable heap is layered. -/
theorem Reached.layered [ReentrantMutex] {settings : Settings} {calls : List (Call ObjectId)}
    {image : Image} (reached : Reached settings calls image) : image.heap.Layered :=
  (reached.induct (fun _ heap => heap.Layered) (Heap.layered_first settings)
    Heap.keptByEdits_layered fun _ _ _ wf => wf.layered_addClass).2

end Metamodel
