import Metamodel.Text.Padding

/-!
# Hexadecimal numerals

Lower-case hexadecimal digits, most significant first and without leading zeros. Reading the
digits back gives the number (`value_digits`), with any number of zeros in front
(`value_padLeft`).
-/

namespace Metamodel.Text.Hexadecimal

/-- The digits of a number. Zero is written as one digit. -/
def digits (n : Nat) : List Char :=
  if n < 16 then [n.digitChar] else digits (n / 16) ++ [(n % 16).digitChar]

/-- Whether a character is a lower-case hexadecimal digit. -/
def isDigit (c : Char) : Bool :=
  '0' ≤ c && c ≤ '9' || 'a' ≤ c && c ≤ 'f'

/-- The number that a lower-case digit stands for; other characters count as zero. -/
def digitValue (c : Char) : Nat :=
  if '0' ≤ c ∧ c ≤ '9' then c.toNat - '0'.toNat
  else if 'a' ≤ c ∧ c ≤ 'f' then c.toNat - 'a'.toNat + 10
  else 0

/-- The number that a list of digits stands for. -/
def value (text : List Char) : Nat :=
  text.foldl (fun acc c => 16 * acc + digitValue c) 0

theorem digitValue_digitChar {n : Nat} (h : n < 16) : digitValue n.digitChar = n := by
  have all : ∀ k : Fin 16, digitValue k.val.digitChar = k.val := by decide
  exact all ⟨n, h⟩

theorem isDigit_digitChar {n : Nat} (h : n < 16) : isDigit n.digitChar := by
  have all : ∀ k : Fin 16, isDigit k.val.digitChar := by decide
  exact all ⟨n, h⟩

/-- A number is written in digits only. -/
theorem isDigit_of_mem_digits {n : Nat} {c : Char} (mem : c ∈ digits n) : isDigit c := by
  induction n using Nat.strongRecOn with
  | ind n ih =>
      unfold digits at mem
      split at mem
      · next h => exact List.mem_singleton.mp mem ▸ isDigit_digitChar h
      · next h =>
          rcases List.mem_append.mp mem with front | last
          · exact ih (n / 16) (by omega) front
          · exact List.mem_singleton.mp last ▸ isDigit_digitChar (Nat.mod_lt n (by decide))

theorem value_append_singleton (text : List Char) (c : Char) :
    value (text ++ [c]) = 16 * value text + digitValue c := by
  simp [value]

/-- Reading the digits of a number gives the number. -/
theorem value_digits (n : Nat) : value (digits n) = n := by
  induction n using Nat.strongRecOn with
  | ind n ih =>
      unfold digits
      split
      · next h => simp [value, digitValue_digitChar h]
      · next h =>
          rw [value_append_singleton, ih (n / 16) (by omega),
            digitValue_digitChar (Nat.mod_lt n (by decide))]
          omega

theorem value_replicate_append (k : Nat) (text : List Char) :
    value (List.replicate k '0' ++ text) = value text := by
  induction k with
  | zero => rfl
  | succ k ih =>
      have zero : digitValue '0' = 0 := by decide
      simpa [value, List.replicate_succ, zero] using ih

/-- Leading zeros do not change the number read. -/
theorem value_padLeft (width : Nat) (text : List Char) :
    value (padLeft width '0' text) = value text := by
  rw [padLeft_eq_append, value_replicate_append]

end Metamodel.Text.Hexadecimal
