import Mathlib.Data.List.Flatten
import Metamodel.Proofs.Slots

/-!
# Tracing

Marking finds exactly the objects that a chain of references leads to from a live root. The
references are read off the fields of a record here, and a chain may run through live objects
only. This is so on every heap, cyclic or not, with references and roots that lead nowhere.

## Implementation notes

A marking is followed turn by turn. A turn takes any of the ids that wait, so that nothing depends
on the order in which they are kept. Two facts carry the marking through all turns: nothing is
marked and nothing live waits without a chain, and the live references of a marked object are
marked or wait. The turns themselves are counted by the references of the marked objects.
-/

namespace Metamodel

/-- An object refers to its owning class, its singleton class, its superclass, the object that it
is attached to and its name. -/
def HeapObject.RefersTo : HeapObject → ObjectId → Prop
  | .classRecord record, id =>
      record.owner = id ∨ record.singleton = some id ∨ record.superclass = some id ∨
        record.attached = some id ∨ record.name = some id
  | .plain header, id => header.owner = id ∨ header.singleton = some id
  | .text _, _ => False

/-- The traced ids are those in the fields of a record. -/
theorem HeapObject.mem_references {object : HeapObject} {id : ObjectId} :
    id ∈ object.references ↔ object.RefersTo id := by
  cases object with
  | classRecord record =>
      rw [HeapObject.mem_references_classRecord, RefersTo, eq_comm]
  | plain header =>
      simp [references, Header.references, RefersTo, eq_comm, Option.mem_toList]
  | text content => simp [references, RefersTo]

/-- How far a marking has come: the marks made so far and the ids that wait for a visit. -/
structure Worklist where
  marks : BitSet
  pending : List ObjectId

/-- An id that is marked or waits for its visit. -/
def Worklist.Covers (list : Worklist) (id : ObjectId) : Prop :=
  list.marks.contains id ∨ id ∈ list.pending

namespace Heap

/-- A chain of references leads from a live root to a live object, through live objects. -/
inductive Reaches (heap : Heap) (roots : List ObjectId) : ObjectId → Prop
  | root {id : ObjectId} : id ∈ roots → heap.contains id → Reaches heap roots id
  | step {source target : ObjectId} {object : HeapObject} : Reaches heap roots source →
      heap.get? source = some object → object.RefersTo target → heap.contains target →
      Reaches heap roots target

variable {heap : Heap} {marks : BitSet} {pending roots : List ObjectId} {id : ObjectId}

theorem Reaches.contains (reached : heap.Reaches roots id) : heap.contains id := by
  cases reached with
  | root _ live => exact live
  | step _ _ _ live => exact live

/-- What can be reached from roots that can themselves be reached. -/
theorem Reaches.of_roots {others : List ObjectId} (reached : heap.Reaches roots id)
    (covered : ∀ root ∈ roots, heap.contains root → heap.Reaches others root) :
    heap.Reaches others id := by
  induction reached with
  | root mem live => exact covered _ mem live
  | step _ stored refers live ih => exact .step ih stored refers live

theorem mem_referencesOf {source : ObjectId} : id ∈ heap.referencesOf source ↔
    ∃ object, heap.get? source = some object ∧ object.RefersTo id := by
  unfold referencesOf
  cases heap.get? source <;> simp [HeapObject.mem_references]

/-- One turn of a marking takes any id that waits. An id without an object or with a mark is passed
over. Any other is marked, and what its object refers to waits from then on. -/
inductive Turn (heap : Heap) : Worklist → Worklist → Prop
  | skip {marks : BitSet} {pending rest : List ObjectId} {id : ObjectId} :
      pending.Perm (id :: rest) → ¬ (heap.contains id ∧ ¬ marks.contains id) →
      Turn heap ⟨marks, pending⟩ ⟨marks, rest⟩
  | visit {marks : BitSet} {pending rest : List ObjectId} {id : ObjectId} :
      pending.Perm (id :: rest) → heap.contains id → ¬ marks.contains id →
      Turn heap ⟨marks, pending⟩ ⟨marks.insert id, heap.referencesOf id ++ rest⟩

/-- A number of turns one after another. -/
inductive Turns (heap : Heap) : Nat → Worklist → Worklist → Prop
  | none (list : Worklist) : Turns heap 0 list list
  | more {count : Nat} {first next last : Worklist} : heap.Turn first next →
      Turns heap count next last → Turns heap (count + 1) first last

/-- What holds of a marking from the given roots after any number of turns. -/
structure Traces (heap : Heap) (roots : List ObjectId) (list : Worklist) : Prop where
  marked : ∀ id, list.marks.contains id → heap.Reaches roots id
  waiting : ∀ id ∈ list.pending, heap.contains id → heap.Reaches roots id
  root : ∀ id ∈ roots, heap.contains id → list.Covers id
  closed : ∀ {source target : ObjectId} {object : HeapObject}, list.marks.contains source →
    heap.get? source = some object → object.RefersTo target → heap.contains target →
    list.Covers target

section Turns

variable {first next last list : Worklist} {count : Nat}

/-- There is a turn as long as an id waits. -/
theorem exists_turn (waits : list.pending ≠ []) : ∃ next, heap.Turn list next := by
  obtain ⟨marks, pending⟩ := list
  obtain ⟨id, rest, rfl⟩ := List.exists_cons_of_ne_nil waits
  by_cases visit : heap.contains id ∧ ¬ marks.contains id
  · exact ⟨_, .visit (.refl _) visit.1 visit.2⟩
  · exact ⟨_, .skip (.refl _) visit⟩

/-- A live id that is marked or waits is so after a turn as well. -/
theorem Turn.covers (turn : heap.Turn first next) (live : heap.contains id)
    (covered : first.Covers id) : next.Covers id := by
  cases turn with
  | @skip marks pending rest taken order skip =>
      rcases covered with marked | waits
      · exact .inl marked
      · rcases List.mem_cons.mp (order.mem_iff.mp waits) with rfl | later
        · exact .inl (Classical.byContradiction fun unmarked => skip ⟨live, unmarked⟩)
        · exact .inr later
  | @visit marks pending rest taken order _ _ =>
      rcases covered with marked | waits
      · exact .inl (by simp [show marks.contains id from marked])
      · rcases List.mem_cons.mp (order.mem_iff.mp waits) with rfl | later
        · exact .inl (by simp)
        · exact .inr (List.mem_append_right _ later)

theorem Turn.traces (turn : heap.Turn first next) (traces : heap.Traces roots first) :
    heap.Traces roots next := by
  have covers {id : ObjectId} (live : heap.contains id) (covered : first.Covers id) :
      next.Covers id := turn.covers live covered
  have rooted : ∀ id ∈ roots, heap.contains id → next.Covers id :=
    fun id mem live => covers live (traces.root id mem live)
  cases turn with
  | @skip marks pending rest taken order skip =>
      refine ⟨traces.marked, fun id mem => ?_, rooted, ?_⟩
      · exact traces.waiting id (order.mem_iff.mpr (List.mem_cons_of_mem _ mem))
      · intro source target object marked stored refers live
        exact covers live (traces.closed marked stored refers live)
  | @visit marks pending rest taken order live _ =>
      have here : heap.Reaches roots taken :=
        traces.waiting taken (order.mem_iff.mpr List.mem_cons_self) live
      refine ⟨fun id marked => ?_, fun id mem live => ?_, rooted, ?_⟩
      · rw [BitSet.contains_insert, Bool.or_eq_true, decide_eq_true_eq] at marked
        rcases marked with rfl | before
        · exact here
        · exact traces.marked id before
      · rcases List.mem_append.mp mem with child | later
        · obtain ⟨object, stored, refers⟩ := mem_referencesOf.mp child
          exact .step here stored refers live
        · exact traces.waiting id (order.mem_iff.mpr (List.mem_cons_of_mem _ later)) live
      · intro source target object marked stored refers live
        rw [BitSet.contains_insert, Bool.or_eq_true, decide_eq_true_eq] at marked
        rcases marked with rfl | before
        -- what the new object refers to waits from now on
        · exact .inr (List.mem_append_left _ (mem_referencesOf.mpr ⟨object, stored, refers⟩))
        · exact covers live (traces.closed before stored refers live)

theorem traces_start (heap : Heap) (roots : List ObjectId) :
    heap.Traces roots ⟨.empty, roots⟩ where
  marked := by simp
  waiting := fun _ mem live => .root mem live
  root := fun _ mem _ => .inr mem
  closed := by simp

theorem Turns.traces (turns : heap.Turns count first last) (traces : heap.Traces roots first) :
    heap.Traces roots last := by
  induction turns with
  | none => exact traces
  | more turn _ ih => exact ih (turn.traces traces)

/-- When nothing waits any more exactly what the roots reach is marked. -/
theorem Traces.contains_iff (traces : heap.Traces roots list) (done : list.pending = []) :
    list.marks.contains id ↔ heap.Reaches roots id := by
  have marked_of_covers {id : ObjectId} (covered : list.Covers id) : list.marks.contains id := by
    refine covered.resolve_right ?_
    rw [done]
    exact List.not_mem_nil
  constructor
  · exact traces.marked id
  · intro reached
    induction reached with
    | root mem live => exact marked_of_covers (traces.root _ mem live)
    | step _ stored refers live ih =>
        exact marked_of_covers (traces.closed ih stored refers live)

/-- Marking takes turns until nothing waits any more. -/
theorem exists_turns_reach (heap : Heap) (marks : BitSet) (pending : List ObjectId) :
    ∃ count, heap.Turns count ⟨marks, pending⟩ ⟨heap.reach marks pending, []⟩ := by
  induction marks, pending using reach.induct heap with
  | case1 marks =>
      rw [reach]
      exact ⟨0, .none _⟩
  | case2 marks first rest visit ih =>
      rw [reach, if_pos visit]
      obtain ⟨count, turns⟩ := ih
      exact ⟨count + 1, .more (.visit (.refl _) visit.1 visit.2) turns⟩
  | case3 marks first rest skip ih =>
      rw [reach, if_neg skip]
      obtain ⟨count, turns⟩ := ih
      exact ⟨count + 1, .more (.skip (.refl _) skip) turns⟩

/-- The references of the marked objects, object by object. -/
def referencesFrom (heap : Heap) (marks : BitSet) : List ObjectId :=
  (heap.liveIds.filter marks.contains).flatMap heap.referencesOf

theorem length_referencesFrom_insert (live : heap.contains id) (unmarked : ¬ marks.contains id) :
    (heap.referencesFrom (marks.insert id)).length =
      (heap.referencesOf id).length + (heap.referencesFrom marks).length := by
  have same : (heap.liveIds.filter (marks.insert id).contains).Perm
      (id :: heap.liveIds.filter marks.contains) := by
    have fresh : (id :: heap.liveIds.filter marks.contains).Nodup := by
      refine List.nodup_cons.mpr ⟨fun mem => ?_, (nodup_liveIds heap).filter _⟩
      exact unmarked (List.mem_filter.mp mem).2
    refine (List.perm_ext_iff_of_nodup ((nodup_liveIds heap).filter _) fresh).mpr fun other => ?_
    rw [List.mem_filter, List.mem_cons, List.mem_filter, mem_liveIds, BitSet.contains_insert,
      Bool.or_eq_true, decide_eq_true_eq]
    constructor
    · rintro ⟨inside, here | before⟩
      · exact .inl here
      · exact .inr ⟨inside, before⟩
    · rintro (rfl | ⟨inside, before⟩)
      · exact ⟨live, .inl rfl⟩
      · exact ⟨inside, .inr before⟩
  rw [referencesFrom, (same.flatMap_right heap.referencesOf).length_eq, List.flatMap_cons,
    List.length_append, referencesFrom]

theorem referencesFrom_empty (heap : Heap) : heap.referencesFrom .empty = [] := by
  simp [referencesFrom]

/-- Marked objects have no more references than all objects. -/
theorem length_referencesFrom_le (heap : Heap) (marks : BitSet) :
    (heap.referencesFrom marks).length ≤ (heap.liveIds.flatMap heap.referencesOf).length :=
  (List.filter_sublist.flatMap heap.referencesOf).length_le

/-- A turn takes one id off those that wait and adds the references of an object that it marks. -/
theorem Turn.length_pending (turn : heap.Turn first next) :
    1 + next.pending.length + (heap.referencesFrom first.marks).length =
      first.pending.length + (heap.referencesFrom next.marks).length := by
  cases turn with
  | skip order _ =>
      rw [order.length_eq, List.length_cons]
      dsimp only
      omega
  | visit order live unmarked =>
      rw [order.length_eq, length_referencesFrom_insert live unmarked, List.length_append,
        List.length_cons]
      dsimp only
      omega

theorem Turns.length_pending (turns : heap.Turns count first last) :
    count + last.pending.length + (heap.referencesFrom first.marks).length =
      first.pending.length + (heap.referencesFrom last.marks).length := by
  induction turns with
  | none => omega
  | more turn _ ih =>
      have step := turn.length_pending
      omega

end Turns

theorem isMarked_markAll_iff : (heap.markAll roots).isMarked id ↔ heap.Reaches roots id := by
  obtain ⟨count, turns⟩ := heap.exists_turns_reach .empty roots
  exact (turns.traces (heap.traces_start roots)).contains_iff rfl

/-- Marking reads the slots of a heap and nothing else. -/
theorem reach_congr (heap other : Heap) (same : other.get? = heap.get?) (marks : BitSet)
    (pending : List ObjectId) : other.reach marks pending = heap.reach marks pending := by
  have live (id : ObjectId) : other.contains id = heap.contains id := by
    rw [contains, contains, same]
  have references (id : ObjectId) : other.referencesOf id = heap.referencesOf id := by
    rw [referencesOf, referencesOf, same]
  -- by induction on the marking of the one heap: that of the other takes the same turns
  induction marks, pending using reach.induct heap with
  | case1 marks => rw [reach, reach]
  | case2 marks first rest visit ih =>
      rw [reach, live, references, if_pos visit]
      apply ih.trans
      rw [reach, if_pos visit]
  | case3 marks first rest skip ih =>
      rw [reach, live, if_neg skip]
      apply ih.trans
      rw [reach, if_neg skip]

/-- Marking works on every heap, whatever is stored in it and whatever marks are left on it, and
from all roots. It marks exactly the live ids that a chain of references leads to from a live root,
on a bitmap that is long enough for them. Earlier marks make no difference, and nothing but the
marks is changed. The marking ends, in whatever order the ids that wait are taken: there are no more
turns than roots and references, and when no id waits any more there has been one turn for each
root and for each reference of a marked object. -/
theorem markAll_exact (heap : Heap) (roots : List ObjectId) :
    (∀ id, (heap.markAll roots).isMarked id ↔ heap.Reaches roots id) ∧
      (∀ id, heap.Reaches roots id → id < 64 * (heap.markAll roots).marks.words.size) ∧
      (∀ marks, { heap with marks }.markAll roots = heap.markAll roots) ∧
      { heap.markAll roots with marks := heap.marks } = heap ∧
      (∃ count, heap.Turns count ⟨.empty, roots⟩ ⟨(heap.markAll roots).marks, []⟩) ∧
      ∀ count list, heap.Turns count ⟨.empty, roots⟩ list →
        count ≤ roots.length + (heap.liveIds.flatMap heap.referencesOf).length ∧
          (list.pending ≠ [] → ∃ next, heap.Turn list next) ∧
          (list.pending = [] →
            count = roots.length + (heap.referencesFrom list.marks).length ∧
              ∀ id, list.marks.contains id ↔ heap.Reaches roots id) := by
  refine ⟨fun id => isMarked_markAll_iff, ?_, ?_, rfl, heap.exists_turns_reach .empty roots, ?_⟩
  · intro id reached
    exact BitSet.lt_of_contains (isMarked_markAll_iff.mpr reached)
  · intro marks
    simp only [markAll, reach_congr heap { heap with marks } rfl]
  · intro count list turns
    have counted := turns.length_pending
    have all := heap.length_referencesFrom_le list.marks
    simp only [referencesFrom_empty, List.length_nil] at counted
    refine ⟨by omega, exists_turn, fun done => ⟨?_, fun id => ?_⟩⟩
    · rw [done, List.length_nil] at counted
      omega
    · exact (turns.traces (heap.traces_start roots)).contains_iff done

end Heap

end Metamodel
