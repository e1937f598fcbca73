import Metamodel.CountingMutex
import Metamodel.Proofs.Changes
import Metamodel.Proofs.Reachability

/-!
# The class hierarchy

What the superclass links of a reachable image come to. Every initialized class has a superclass
chain that ends at the root, the root alone has no superclass, and uninitialized classes stand
apart. The chains that are asked for are computed to their end.
-/

namespace Metamodel

open Session

namespace Heap

variable {before after : Heap} {builtins : Builtins} {id : ObjectId}

/-- No edit adds an uninitialized class. -/
theorem Edit.exists_raw (edit : Edit builtins before after) (wf : before.WellFormed builtins)
    {new : ClassRecord} (found : after.get? id = some (.classRecord new))
    (raw : new.initialized = false) :
    ∃ old, before.get? id = some (.classRecord old) ∧ old.initialized = false := by
  cases edit.edited wf found with
  | kept stored evolves _ =>
      cases evolves with
      | classRecord evolves =>
          refine ⟨_, stored, Bool.of_not_eq_true fun started => ?_⟩
          have started' := evolves.initialized started
          rw [raw] at started'
          cases started'
  | linked => cases raw
  | mirror => cases raw
  | singleton => cases raw
  | text textual => cases textual

/-- Every class of a heap is initialized. -/
def AllInitialized (heap : Heap) : Prop :=
  ∀ id record, heap.get? id = some (.classRecord record) → record.initialized

theorem keptByEdits_allInitialized : KeptByEdits fun _ heap => heap.AllInitialized := by
  intro builtins before after wf edit all id new found
  apply Bool.of_not_eq_false
  intro raw
  obtain ⟨old, stored, unstarted⟩ := edit.exists_raw wf found raw
  rw [all id old stored] at unstarted
  cases unstarted

theorem allInitialized_first [ReentrantMutex] (settings : Settings) :
    (Image.first settings).heap.AllInitialized := by
  intro id record stored
  cases firstClass_of_get? stored <;> rfl

/-- An uninitialized class has no superclass, and its chain is that class alone. -/
theorem WellFormed.ancestors_of_raw (wf : before.WellFormed builtins) {record : ClassRecord}
    (stored : before.get? id = some (.classRecord record)) (raw : record.initialized = false) :
    before.ancestors id = .ok [id] := by
  have bare := (((wf.sound stored).classRecord record rfl).apart raw).1
  rw [ancestors, ancestorsWithin, findClass_eq_ok_iff.mpr stored]
  simp only [bind, Except.bind, bare]
  rfl

/-- A chain that is computed is that of an initialized class or of an uninitialized one alone. -/
theorem WellFormed.lineage_of_ancestors (wf : before.WellFormed builtins)
    {chain : List ObjectId} (computed : before.ancestors id = .ok chain) :
    before.Lineage builtins.root id chain ∨ chain = [id] := by
  cases found : before.findClass id with
  | error fault =>
      rw [ancestors, ancestorsWithin, found] at computed
      cases computed
  | ok record =>
      have stored := findClass_eq_ok_iff.mp found
      cases started : record.initialized with
      | false =>
          rw [wf.ancestors_of_raw stored started] at computed
          cases computed
          exact .inr rfl
      | true =>
          obtain ⟨own, lineage⟩ := wf.exists_lineage ⟨_, stored, started⟩
          rw [lineage.ancestors] at computed
          cases computed
          exact .inl lineage

/-- An initialized class without a superclass is the root. -/
theorem WellFormed.superclass_eq_none_iff (wf : before.WellFormed builtins)
    {record : ClassRecord} (stored : before.get? id = some (.classRecord record))
    (started : record.initialized) : record.superclass = none ↔ id = builtins.root := by
  obtain ⟨chain, lineage⟩ := wf.exists_lineage ⟨_, stored, started⟩
  constructor
  · intro top
    exact (lineage.of_top stored top).1
  · intro isRoot
    cases next : record.superclass with
    | none => rfl
    | some superclass =>
        -- the chain of the class above would lead back to the root
        obtain ⟨above, lineage', _⟩ := lineage.of_superclass stored next
        have mem : builtins.root ∈ above := List.mem_of_getLast? lineage'.getLast?
        exact absurd (isRoot ▸ mem) (lineage'.not_mem_above stored started next)

end Heap

/-- In every reachable image each initialized class has a superclass chain that visits initialized
classes only, none twice, and ends at the root, and that chain is computed, within the number of
slots. Only the root has no superclass. An uninitialized class has none and is on no chain but its
own, and there is none without an allocation of classes. A lookup visits such a chain for every
class, initialized or not, and every instance. -/
theorem Reached.hierarchy [ReentrantMutex] {settings : Settings} {calls : List (Call ObjectId)}
    {image : Image} (reached : Reached settings calls image) :
    (∀ id, image.heap.Has id HeapObject.IsInitialized →
      ∃ chain, image.heap.Lineage image.builtins.root id chain ∧ chain.Nodup ∧
        (∀ other ∈ chain, image.heap.Has other HeapObject.IsInitialized) ∧
        chain.getLast? = some image.builtins.root ∧ chain.length ≤ image.heap.slotCount ∧
        image.heap.ancestors id = .ok chain) ∧
      image.heap.Has image.builtins.root HeapObject.IsInitialized ∧
      (∀ id record, image.heap.get? id = some (.classRecord record) → record.initialized →
        (record.superclass = none ↔ id = image.builtins.root)) ∧
      (∀ id record, image.heap.get? id = some (.classRecord record) →
        record.initialized = false → record.superclass = none ∧
          ∀ other chain, image.heap.ancestors other = .ok chain → id ∈ chain → id = other) ∧
      (.allocateClass ∉ calls → ∀ id record,
        image.heap.get? id = some (.classRecord record) → record.initialized) ∧
      ∀ id object header, image.heap.get? id = some object → object.header? = some header →
        ∃ chain, image.heap.dispatchChain id = .ok chain ∧ chain.Nodup ∧
          chain.getLast? = some image.builtins.root := by
  have wf := reached.wellFormed
  refine ⟨?_, ?_, ?_, ?_, ?_, ?_⟩
  · intro id initialized
    obtain ⟨chain, lineage⟩ := wf.exists_lineage initialized
    exact ⟨chain, lineage, lineage.nodup, fun _ => lineage.isInitialized_of_mem,
      lineage.getLast?, lineage.length_le, lineage.ancestors⟩
  · exact wf.root_isOrdinary.isInitialized
  · intro id record stored started
    exact wf.superclass_eq_none_iff stored started
  · intro id record stored raw
    refine ⟨(((wf.sound stored).classRecord record rfl).apart raw).1, ?_⟩
    intro other chain computed mem
    rcases wf.lineage_of_ancestors computed with lineage | rfl
    · have started : record.initialized := (lineage.isInitialized_of_mem mem).of_get? stored
      rw [raw] at started
      cases started
    · exact List.mem_singleton.mp mem
  · intro unallocated id record stored
    have all := (reached.induct _ (Heap.allInitialized_first settings)
      Heap.keptByEdits_allInitialized fun mem => absurd mem unallocated).2
    exact all id record stored
  · intro id object header stored isHeader
    obtain ⟨chain, lineage, visited⟩ := wf.exists_dispatchChain stored isHeader
    exact ⟨chain, visited, lineage.nodup, lineage.getLast?⟩

/-- The case of one allocated class: it has slot 11, and 8 is the last built-in class. -/
theorem Reached.hierarchy_allocateClass :
    ∃ image, Reached .standard [.allocateClass] image ∧
      (∃ chain, image.heap.ancestors 8 = .ok chain ∧ chain.Nodup ∧ chain.getLast? = some 3) ∧
      (∀ other chain, image.heap.ancestors other = .ok chain → 11 ∈ chain → 11 = other) ∧
      ∃ chain, image.heap.dispatchChain 11 = .ok chain ∧ chain.getLast? = some 3 := by
  have performed : Call.perform .allocateClass (.first .standard) =
      .ok (.id 11) ((Image.first .standard).extend
        ((Image.first .standard).heap.addClass 0) []) := by
    rw [Call.perform, ImageM.map_apply, Image.allocateClass_apply]
    rfl
  have reached := Reached.answered (.first .standard) performed
  have tidy := Heap.tidy_first .standard
  have last : (Image.first .standard).heap.get? 8 =
      some (.classRecord (.founder (some 9) 10 (some 5) .moduleTag)) := rfl
  have kept := Heap.get?_addClass_of_some tidy 0 last
  have raw := Heap.get?_addClass_nextId tidy 0
  obtain ⟨chains, _, _, apart, _, dispatch⟩ := Reached.hierarchy reached
  refine ⟨_, reached, ?_, ?_, ?_⟩
  · obtain ⟨chain, _, nodup, _, top, _, computed⟩ := chains 8 ⟨_, kept, rfl⟩
    exact ⟨chain, computed, nodup, top⟩
  · exact (apart 11 _ raw rfl).2
  · obtain ⟨chain, visited, _, top⟩ := dispatch 11 _ _ raw rfl
    exact ⟨chain, visited, top⟩

end Metamodel
