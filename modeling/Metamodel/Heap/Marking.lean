import Metamodel.Heap.Basic

/-!
# Marking

Marking visits everything that can be reached from a list of roots. Ids without an object are
passed over. Each visit either shortens the list of pending ids or marks an object for the first
time, so marking ends on every heap, cyclic or not.
-/

namespace Metamodel.Heap

/-- The number of objects that are not in a set of marks. -/
def unmarkedCount (heap : Heap) (marks : BitSet) : Nat :=
  heap.liveIds.countP fun id => !marks.contains id

private theorem countP_lt_of_imp {p q : ObjectId → Bool} {a : ObjectId} {ids : List ObjectId}
    (imp : ∀ x, p x → q x) (mem : a ∈ ids) (hq : q a) (hp : ¬ p a) :
    ids.countP p < ids.countP q := by
  induction ids with
  | nil => cases mem
  | cons x rest ih =>
      have tail : rest.countP p ≤ rest.countP q := List.countP_mono_left fun y _ => imp y
      rcases List.mem_cons.mp mem with rfl | inRest
      · simp [hq, hp]
        omega
      · have strict := ih inRest
        have head : (if p x then 1 else 0) ≤ (if q x then 1 else 0 : Nat) := by
          by_cases hx : p x = true
          · exact Nat.le_of_eq (by rw [if_pos hx, if_pos (imp x hx)])
          · rw [if_neg hx]
            exact Nat.zero_le _
        rw [List.countP_cons, List.countP_cons]
        omega

/-- Marking an object for the first time leaves fewer unmarked ones. -/
theorem unmarkedCount_insert_lt {heap : Heap} {marks : BitSet} {id : ObjectId}
    (live : heap.contains id) (unmarked : ¬ marks.contains id) :
    heap.unmarkedCount (marks.insert id) < heap.unmarkedCount marks := by
  refine countP_lt_of_imp (a := id) (fun x hx => ?_) (mem_liveIds.mpr live) ?_ ?_
  · simp only [BitSet.contains_insert, Bool.not_or, Bool.and_eq_true] at hx
    exact hx.2
  · simpa using unmarked
  · simp

/-- The ids that the object with an id refers to; none without an object. -/
def referencesOf (heap : Heap) (id : ObjectId) : List ObjectId :=
  ((heap.get? id).map HeapObject.references).getD []

/-- The marks after visiting all pending ids and everything reachable from them. -/
def reach (heap : Heap) (marks : BitSet) (pending : List ObjectId) : BitSet :=
  match pending with
  | [] => marks
  | id :: rest =>
      if heap.contains id ∧ ¬ marks.contains id then
        heap.reach (marks.insert id) (heap.referencesOf id ++ rest)
      else heap.reach marks rest
termination_by (heap.unmarkedCount marks, pending.length)
decreasing_by
  · next first => exact Prod.Lex.left _ _ (unmarkedCount_insert_lt first.1 first.2)
  · exact Prod.Lex.right _ (Nat.lt_succ_self rest.length)

/-- Mark what is reachable from the roots, and nothing else: earlier marks are forgotten. -/
def markAll (heap : Heap) (roots : List ObjectId) : Heap :=
  { heap with marks := heap.reach .empty roots }

/-- Whether an object has been marked since the last collection. -/
def isMarked (heap : Heap) (id : ObjectId) : Bool :=
  heap.marks.contains id

end Metamodel.Heap
