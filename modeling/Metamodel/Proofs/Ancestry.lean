import Metamodel.Heap.Lineage
import Metamodel.Proofs.WellFormed

/-!
# Ancestry

The superclass chain of an initialized class as a list. A heap gives a class at most one such
list, and whatever stands on it has its own list as a tail of it. No class stands on its chain
twice, for its list would be a proper tail of itself.
-/

namespace Metamodel.Heap

/-- The superclass chain of an initialized class, from the class itself to the root. -/
inductive Lineage (heap : Heap) (root : ObjectId) : ObjectId → List ObjectId → Prop
  | root {record : ClassRecord} : heap.get? root = some (.classRecord record) →
      record.initialized → record.superclass = none → Lineage heap root root [root]
  | under {id superclass : ObjectId} {record : ClassRecord} {above : List ObjectId} :
      heap.get? id = some (.classRecord record) → record.initialized →
      record.superclass = some superclass → Lineage heap root superclass above →
      Lineage heap root id (id :: above)

variable {heap : Heap} {root id other : ObjectId} {chain : List ObjectId}

theorem Rooted.exists_lineage (rooted : heap.Rooted root id) :
    ∃ chain, heap.Lineage root id chain := by
  induction rooted with
  | root stored initialized top => exact ⟨_, .root stored initialized top⟩
  | under stored initialized next _ ih =>
      obtain ⟨above, lineage⟩ := ih
      exact ⟨_, .under stored initialized next lineage⟩

namespace Lineage

theorem isInitialized (lineage : heap.Lineage root id chain) :
    heap.Has id HeapObject.IsInitialized := by
  cases lineage with
  | root stored initialized _ => exact ⟨_, stored, initialized⟩
  | under stored initialized _ _ => exact ⟨_, stored, initialized⟩

theorem mem_self (lineage : heap.Lineage root id chain) : id ∈ chain := by
  cases lineage with
  | root => exact List.mem_singleton_self _
  | under => exact List.mem_cons_self

/-- The chain of a class without a superclass. -/
theorem of_top (lineage : heap.Lineage root id chain) {record : ClassRecord}
    (stored : heap.get? id = some (.classRecord record)) (top : record.superclass = none) :
    id = root ∧ chain = [id] := by
  cases lineage with
  | root => exact ⟨rfl, rfl⟩
  | under stored' _ next _ =>
      obtain rfl := classRecord_inj stored stored'
      rw [top] at next
      cases next

/-- The chain of a class begins with the class and goes on with that of its superclass. -/
theorem of_superclass (lineage : heap.Lineage root id chain) {record : ClassRecord}
    {superclass : ObjectId} (stored : heap.get? id = some (.classRecord record))
    (next : record.superclass = some superclass) :
    ∃ above, heap.Lineage root superclass above ∧ chain = id :: above := by
  cases lineage with
  | root stored' _ top =>
      obtain rfl := classRecord_inj stored stored'
      rw [top] at next
      cases next
  | under stored' _ next' lineage =>
      obtain rfl := classRecord_inj stored stored'
      obtain rfl := Option.some.inj (next.symm.trans next')
      exact ⟨_, lineage, rfl⟩

/-- A class has at most one superclass chain. -/
theorem unique (lineage : heap.Lineage root id chain) {second : List ObjectId}
    (lineage' : heap.Lineage root id second) : chain = second := by
  induction lineage generalizing second with
  | root stored _ top => exact (lineage'.of_top stored top).2.symm
  | under stored _ next _ ih =>
      obtain ⟨above, lineage, rfl⟩ := lineage'.of_superclass stored next
      rw [ih lineage]

/-- What stands on the chain of a class has the rest of it as its own chain. -/
theorem exists_suffix (lineage : heap.Lineage root id chain) (mem : other ∈ chain) :
    ∃ rest, heap.Lineage root other rest ∧ rest <:+ chain := by
  induction lineage with
  | root stored initialized top =>
      obtain rfl := List.mem_singleton.mp mem
      exact ⟨_, .root stored initialized top, List.suffix_rfl⟩
  | under stored initialized next lineage ih =>
      rcases List.mem_cons.mp mem with rfl | above
      · exact ⟨_, .under stored initialized next lineage, List.suffix_rfl⟩
      · obtain ⟨rest, lineage', suffix⟩ := ih above
        exact ⟨rest, lineage', suffix.trans (List.suffix_cons _ _)⟩

theorem isInitialized_of_mem (lineage : heap.Lineage root id chain) (mem : other ∈ chain) :
    heap.Has other HeapObject.IsInitialized := by
  obtain ⟨rest, lineage', _⟩ := lineage.exists_suffix mem
  exact lineage'.isInitialized

/-- A class does not stand above itself. -/
theorem not_mem_above {superclass : ObjectId} {record : ClassRecord} {above : List ObjectId}
    (stored : heap.get? id = some (.classRecord record)) (initialized : record.initialized)
    (next : record.superclass = some superclass) (lineage : heap.Lineage root superclass above) :
    id ∉ above := by
  intro mem
  obtain ⟨rest, lineage', suffix⟩ := lineage.exists_suffix mem
  have same := lineage'.unique (.under stored initialized next lineage)
  have short := suffix.length_le
  rw [same, List.length_cons] at short
  omega

theorem nodup (lineage : heap.Lineage root id chain) : chain.Nodup := by
  induction lineage with
  | root => exact List.nodup_singleton _
  | under stored initialized next lineage ih =>
      apply List.nodup_cons.mpr
      constructor
      · exact not_mem_above stored initialized next lineage
      · exact ih

theorem getLast? (lineage : heap.Lineage root id chain) : chain.getLast? = some root := by
  induction lineage with
  | root => rfl
  | under _ _ _ lineage ih =>
      rw [List.getLast?_cons, ih]
      rfl

/-- A chain is no longer than the row of slots. -/
theorem length_le (lineage : heap.Lineage root id chain) : chain.length ≤ heap.slotCount := by
  apply length_le_slotCount lineage.nodup
  intro other mem
  exact (lineage.isInitialized_of_mem mem).contains

theorem ancestorsWithin (lineage : heap.Lineage root id chain) {steps : Nat}
    (enough : chain.length ≤ steps) : heap.ancestorsWithin steps id = .ok chain := by
  induction lineage generalizing steps with
  | root stored _ top =>
      cases steps with
      | zero => cases enough
      | succ steps =>
          rw [Heap.ancestorsWithin, findClass_eq_ok_iff.mpr stored]
          simp only [bind, Except.bind, top]
          rfl
  | under stored _ next _ ih =>
      cases steps with
      | zero => cases enough
      | succ steps =>
          have above := ih (Nat.le_of_succ_le_succ enough)
          rw [Heap.ancestorsWithin, findClass_eq_ok_iff.mpr stored]
          simp only [bind, Except.bind, next, above]
          rfl

/-- The computed chain of a class is the one it has. -/
theorem ancestors (lineage : heap.Lineage root id chain) : heap.ancestors id = .ok chain := by
  apply lineage.ancestorsWithin
  have bound := lineage.length_le
  omega

end Lineage

/-- Every initialized class of a well-formed heap has a superclass chain. -/
theorem WellFormed.exists_lineage {builtins : Builtins} (wf : heap.WellFormed builtins)
    (initialized : heap.Has id HeapObject.IsInitialized) :
    ∃ chain, heap.Lineage builtins.root id chain :=
  (wf.rooted initialized).exists_lineage

/-- So has the superclass of each. -/
theorem WellFormed.exists_lineage_above {builtins : Builtins} (wf : heap.WellFormed builtins)
    {superclass : ObjectId} {record : ClassRecord}
    (stored : heap.get? id = some (.classRecord record))
    (next : record.superclass = some superclass) :
    ∃ chain, heap.Lineage builtins.root superclass chain := by
  have initialized := ((wf.sound stored).classRecord record rfl).started (.inl (by simp [next]))
  obtain ⟨chain, lineage⟩ := wf.exists_lineage ⟨_, stored, initialized⟩
  obtain ⟨above, lineage', _⟩ := lineage.of_superclass stored next
  exact ⟨above, lineage'⟩

/-- A lookup on any class or instance visits a superclass chain. -/
theorem WellFormed.exists_dispatchChain {builtins : Builtins} (wf : heap.WellFormed builtins)
    {object : HeapObject} {header : Header} (stored : heap.get? id = some object)
    (isHeader : object.header? = some header) :
    ∃ chain, heap.Lineage builtins.root (header.singleton.getD header.owner) chain ∧
      heap.dispatchChain id = .ok chain := by
  have initialized : heap.Has (header.singleton.getD header.owner)
      HeapObject.IsInitialized := by
    cases given : header.singleton with
    | none => exact ((wf.sound stored).header header isHeader).owner
    | some singleton => exact wf.isInitialized_singleton stored isHeader given
  obtain ⟨chain, lineage⟩ := wf.exists_lineage initialized
  refine ⟨chain, lineage, ?_⟩
  rw [dispatchChain, findHeader_of_get? stored isHeader]
  exact lineage.ancestors

end Metamodel.Heap
