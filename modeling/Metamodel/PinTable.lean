import Metamodel.Object.Id

/-!
# Pin tables

How often each id is pinned. A table lists every pinned id once, with a count that is not zero;
an id that is not listed has no pins.
-/

namespace Metamodel

/-- A list of entries without those of one key. -/
theorem lookup_filter_ne {α β : Type} [BEq α] [LawfulBEq α] [DecidableEq α]
    (entries : List (α × β)) (key other : α) :
    (entries.filter fun entry => entry.1 != key).lookup other =
      if other = key then none else entries.lookup other := by
  induction entries with
  | nil => simp
  | cons entry rest ih =>
      obtain ⟨first, value⟩ := entry
      by_cases removed : first = key
      · subst removed
        rw [List.filter_cons_of_neg (by simp), ih]
        split
        · rfl
        · next ne => rw [List.lookup_cons, beq_eq_false_iff_ne.mpr ne]
      · rw [List.filter_cons_of_pos (by simpa using removed), List.lookup_cons,
          List.lookup_cons, ih]
        by_cases found : other = first
        · subst found
          simp [removed]
        · rw [beq_eq_false_iff_ne.mpr found]

/-- The pinned ids, each with the number of its pins. -/
structure PinTable where
  entries : List (ObjectId × Nat)
  distinct : (entries.map Prod.fst).Nodup
  positive : ∀ entry ∈ entries, 0 < entry.2
  deriving DecidableEq

namespace PinTable

/-- The table without pins. -/
def empty : PinTable := ⟨[], by simp, by simp⟩

instance : Inhabited PinTable := ⟨empty⟩

/-- The pinned ids. -/
def ids (table : PinTable) : List ObjectId :=
  table.entries.map Prod.fst

/-- The number of pins on an id. -/
def count (table : PinTable) (id : ObjectId) : Nat :=
  (table.entries.lookup id).getD 0

/-- The table without the pins on an id. -/
def clear (table : PinTable) (id : ObjectId) : PinTable where
  entries := table.entries.filter fun entry => entry.1 != id
  distinct := table.distinct.sublist (List.filter_sublist.map Prod.fst)
  positive := fun entry mem => table.positive entry (List.mem_filter.mp mem).1

/-- The table with a given number of pins, not zero, on an id. -/
def set (table : PinTable) (id : ObjectId) (count : Nat) (positive : 0 < count) : PinTable where
  entries := (id, count) :: (table.clear id).entries
  distinct := by
    rw [List.map_cons, List.nodup_cons]
    exact ⟨by simp [clear], (table.clear id).distinct⟩
  positive := by
    intro entry mem
    rcases List.mem_cons.mp mem with rfl | mem
    · exact positive
    · exact (table.clear id).positive entry mem

@[simp] theorem count_empty (id : ObjectId) : empty.count id = 0 := rfl

theorem count_clear (table : PinTable) (id other : ObjectId) :
    (table.clear id).count other = if other = id then 0 else table.count other := by
  simp only [count, clear, lookup_filter_ne]
  by_cases h : other = id <;> simp [h]

theorem count_set (table : PinTable) (id other : ObjectId) (number : Nat)
    (positive : 0 < number) :
    (table.set id number positive).count other =
      if other = id then number else table.count other := by
  by_cases h : other = id
  · simp [count, set, h]
  · have hb : (other == id) = false := by simpa using h
    have cleared := count_clear table id other
    simp only [count, h, if_false] at cleared
    simpa [count, set, List.lookup_cons, hb, h] using cleared

/-- The pinned ids are those with a pin. -/
theorem mem_ids {table : PinTable} {id : ObjectId} : id ∈ table.ids ↔ 0 < table.count id := by
  simp only [ids, count, List.mem_map]
  constructor
  · rintro ⟨entry, mem, rfl⟩
    cases h : table.entries.lookup entry.1 with
    | none => simpa using List.lookup_eq_none_iff.mp h entry mem
    | some number =>
        obtain ⟨before, after, row, _⟩ := List.lookup_eq_some_iff.mp h
        exact table.positive (entry.1, number) (by rw [row]; simp)
  · intro pinned
    cases h : table.entries.lookup id with
    | none => simp [h] at pinned
    | some number =>
        obtain ⟨before, after, row, _⟩ := List.lookup_eq_some_iff.mp h
        exact ⟨(id, number), by rw [row]; simp, rfl⟩

/-- The table with one more pin on an id. -/
def increment (table : PinTable) (id : ObjectId) : PinTable :=
  table.set id (table.count id + 1) (Nat.succ_pos _)

/-- The table with one pin less on an id, if it has any. With its last pin an id is no longer
listed. -/
def decrement (table : PinTable) (id : ObjectId) : PinTable :=
  if more : 0 < table.count id - 1 then table.set id (table.count id - 1) more
  else table.clear id

theorem count_increment (table : PinTable) (id other : ObjectId) :
    (table.increment id).count other =
      if other = id then table.count other + 1 else table.count other := by
  rw [increment, count_set]
  by_cases h : other = id <;> simp [h]

theorem count_decrement (table : PinTable) (id other : ObjectId) :
    (table.decrement id).count other =
      if other = id then table.count other - 1 else table.count other := by
  unfold decrement
  split
  · rw [count_set]
    by_cases h : other = id <;> simp [h]
  · next last =>
      rw [count_clear]
      by_cases h : other = id
      · subst h
        simp only [if_true]
        omega
      · simp [h]

end PinTable

end Metamodel
