/-!
# Sets of numbers as bits

A set of natural numbers in 64-bit words. The words grow as far as the largest member needs;
every number beyond them is outside the set.
-/

namespace Metamodel

/-- A finite set of natural numbers, one bit a number. -/
structure BitSet where
  words : Array UInt64
  deriving DecidableEq, Inhabited

namespace BitSet

/-- The set without members. -/
def empty : BitSet := ⟨#[]⟩

/-- The word whose only bit is that of `i` within its word. -/
def bit (i : Nat) : UInt64 := 1 <<< (i % 64).toUInt64

/-- Whether `i` is a member. -/
def contains (set : BitSet) (i : Nat) : Bool :=
  match set.words[i / 64]? with
  | some word => word &&& bit i != 0
  | none => false

/-- The set with `i` as a further member. -/
def insert (set : BitSet) (i : Nat) : BitSet :=
  ⟨(set.words.rightpad (i / 64 + 1) 0).modify (i / 64) (· ||| bit i)⟩

@[simp] theorem contains_empty (i : Nat) : empty.contains i = false := by
  simp [empty, contains]

/-- The words reach as far as the largest member. -/
theorem lt_of_contains {set : BitSet} {i : Nat} (member : set.contains i) :
    i < 64 * set.words.size := by
  unfold contains at member
  split at member
  · next word found =>
      obtain ⟨inside, _⟩ := Array.getElem?_eq_some_iff.mp found
      omega
  · cases member

theorem toNat_bit (i : Nat) : (bit i).toNat = 1 <<< (i % 64) := by
  have h : i % 64 < 64 := Nat.mod_lt i (by decide)
  have hm : (i % 64).toUInt64.toNat % 64 = i % 64 := by
    rw [Nat.toUInt64_eq, UInt64.toNat_ofNat']
    omega
  have hp : 1 <<< (i % 64) < 18446744073709551616 := by
    rw [Nat.one_shiftLeft]
    exact Nat.pow_lt_pow_right (by decide : 1 < 2) h
  rw [bit, UInt64.toNat_shiftLeft, hm, UInt64.toNat_one]
  exact Nat.mod_eq_of_lt hp

theorem testBit_one_shiftLeft (i j : Nat) : (1 <<< i).testBit j = decide (i = j) := by
  rw [Nat.one_shiftLeft, Nat.testBit_two_pow]

theorem and_bit_ne_zero (word : UInt64) (i : Nat) :
    (word &&& bit i != 0) = word.toNat.testBit (i % 64) := by
  have h : (word &&& bit i = 0) ↔ word.toNat.testBit (i % 64) = false := by
    rw [← UInt64.toNat_inj, UInt64.toNat_and, toNat_bit]
    constructor
    · intro e
      have := congrArg (fun n => n.testBit (i % 64)) e
      rw [Nat.testBit_and, testBit_one_shiftLeft] at this
      simpa using this
    · intro e
      apply Nat.eq_of_testBit_eq
      intro j
      rw [Nat.testBit_and, testBit_one_shiftLeft]
      by_cases hj : i % 64 = j
      · simp [← hj, e]
      · simp [hj]
  cases hb : word.toNat.testBit (i % 64) with
  | false => simp [h.mpr hb]
  | true =>
      have : word &&& bit i ≠ 0 := fun e => by simp [h.mp e] at hb
      simp [this]

theorem contains_eq_testBit (set : BitSet) (i : Nat) :
    set.contains i = ((set.words[i / 64]?).map UInt64.toNat |>.getD 0).testBit (i % 64) := by
  unfold contains
  cases set.words[i / 64]? with
  | none => simp
  | some word => simpa using and_bit_ne_zero word i

theorem getElem?_insert_words (set : BitSet) (i k : Nat) :
    ((set.insert i).words[k]?.map UInt64.toNat).getD 0 =
      if k = i / 64 then (set.words[k]?.map UInt64.toNat).getD 0 ||| 1 <<< (i % 64)
      else (set.words[k]?.map UInt64.toNat).getD 0 := by
  simp only [insert, Array.rightpad, Array.getElem?_modify, Array.getElem?_append,
    Array.getElem?_replicate]
  by_cases hk : k < set.words.size
  · by_cases he : i / 64 = k
    · simp [he, hk, toNat_bit]
    · simp [he, hk, Ne.symm he]
  · by_cases he : i / 64 = k
    · subst he
      have hs : i / 64 - set.words.size < i / 64 + 1 - set.words.size := by omega
      simp [hk, hs, toNat_bit]
    · by_cases hs : k - set.words.size < i / 64 + 1 - set.words.size
      · simp [he, hk, hs, Ne.symm he]
      · simp [he, hk, hs, Ne.symm he]

/-- A further member is the only change that an insertion makes. -/
@[simp] theorem contains_insert (set : BitSet) (i j : Nat) :
    (set.insert i).contains j = (decide (j = i) || set.contains j) := by
  rw [contains_eq_testBit, contains_eq_testBit, getElem?_insert_words]
  by_cases hw : j / 64 = i / 64
  · rw [if_pos hw, Nat.testBit_or, testBit_one_shiftLeft]
    by_cases hj : j = i
    · simp [hj]
    · have hm : i % 64 ≠ j % 64 := by omega
      simp [hj, hm]
  · have hj : j ≠ i := fun e => hw (by rw [e])
    simp [hw, hj]

end BitSet

end Metamodel
