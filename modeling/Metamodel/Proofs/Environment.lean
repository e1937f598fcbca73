import Mathlib.Algebra.Group.Nat.Hom
import Metamodel.Settings

/-!
# Settings from the environment

Which values of the environment are taken as numbers. A value is read when it is a numeral between
blanks, an optional plus sign and one or more decimal digits, and denotes a number of sixty-four
bits. Everything else leaves the standard setting in place, and the two values are read apart.
-/

namespace Metamodel

namespace Text

/-- A text writes a number: between blanks there are an optional plus sign and one or more decimal
digits with that value. Leading zeros are allowed. -/
inductive Writes : List Char → Nat → Prop
  | numeral {before sign digits after : List Char} : (∀ c ∈ before, isBlank c) →
      sign = [] ∨ sign = ['+'] → digits ≠ [] → (∀ c ∈ digits, c.isDigit) →
      (∀ c ∈ after, isBlank c) →
      Writes (before ++ (sign ++ digits) ++ after) (Nat.ofDigitChars 10 digits 0)

theorem isDigit_iff {c : Char} : c.isDigit ↔ 48 ≤ c.toNat ∧ c.toNat ≤ 57 := by
  simp only [Char.isDigit, ge_iff_le, Bool.and_eq_true, decide_eq_true_eq,
    UInt32.le_iff_toNat_le]
  rfl

theorem digit?_eq_some_iff {c : Char} {d : Nat} :
    digit? c = some d ↔ c.isDigit ∧ c.toNat - '0'.toNat = d := by
  have range : '0' ≤ c ∧ c ≤ '9' ↔ c.isDigit := by
    rw [isDigit_iff, Char.le_def, Char.le_def, UInt32.le_iff_toNat_le, UInt32.le_iff_toNat_le]
    rfl
  simp [digit?, range]

theorem digitsFrom?_eq_some_iff {acc n : Nat} {text : List Char} :
    digitsFrom? acc text = some n ↔
      (∀ c ∈ text, c.isDigit) ∧ Nat.ofDigitChars 10 text acc = n := by
  induction text generalizing acc with
  | nil => simp [digitsFrom?]
  | cons c rest ih =>
      simp only [digitsFrom?, Option.bind_eq_some_iff, digit?_eq_some_iff, ih,
        Nat.ofDigitChars_cons, List.forall_mem_cons]
      grind

theorem digits?_eq_some_iff {n : Nat} {text : List Char} :
    digits? text = some n ↔
      text ≠ [] ∧ (∀ c ∈ text, c.isDigit) ∧ Nat.ofDigitChars 10 text 0 = n := by
  cases text with
  | nil => simp [digits?]
  | cons c rest => simp [digits?, digitsFrom?_eq_some_iff]

/-- A numeral is an optional plus sign and one or more decimal digits. -/
theorem numeral?_eq_some_iff {n : Nat} {text : List Char} :
    numeral? text = some n ↔ ∃ sign digits, text = sign ++ digits ∧
      (sign = [] ∨ sign = ['+']) ∧ digits ≠ [] ∧ (∀ c ∈ digits, c.isDigit) ∧
      Nat.ofDigitChars 10 digits 0 = n := by
  constructor
  · intro read
    unfold numeral? at read
    split at read
    · exact ⟨['+'], _, rfl, .inr rfl, digits?_eq_some_iff.mp read⟩
    · exact ⟨[], text, rfl, .inl rfl, digits?_eq_some_iff.mp read⟩
  · rintro ⟨sign, digits, rfl, rfl | rfl, digital⟩
    · unfold numeral?
      split
      · next rest plus =>
          -- a plus sign is no digit
          rw [List.nil_append] at plus
          have first := digital.2.1 '+' (by simp [plus])
          cases first
      · exact digits?_eq_some_iff.mpr digital
    · exact digits?_eq_some_iff.mpr digital

theorem not_isBlank_of_isDigit {c : Char} (digit : c.isDigit) : ¬ isBlank c := by
  rw [isDigit_iff] at digit
  simp [isBlank, blankRanges]
  omega

/-- Trimming takes blanks from both ends. -/
theorem exists_eq_trim (text : List Char) : ∃ before after,
    text = before ++ trim text ++ after ∧ (∀ c ∈ before, isBlank c) ∧ ∀ c ∈ after, isBlank c := by
  refine ⟨text.takeWhile isBlank,
    ((text.dropWhile isBlank).reverse.takeWhile isBlank).reverse, ?_, ?_, ?_⟩
  · rw [trim, List.append_assoc, ← List.reverse_append, List.takeWhile_append_dropWhile,
      List.reverse_reverse, List.takeWhile_append_dropWhile]
  · exact List.all_eq_true.mp List.all_takeWhile
  · intro c mem
    exact List.all_eq_true.mp List.all_takeWhile c (List.mem_reverse.mp mem)

/-- The number read from a text without the blanks around it is the one that the text writes. -/
theorem numeral?_trim_eq_some_iff {n : Nat} {text : List Char} :
    numeral? (trim text) = some n ↔ Writes text n := by
  constructor
  · intro read
    obtain ⟨sign, digits, core, signed, ne, digital, rfl⟩ := numeral?_eq_some_iff.mp read
    obtain ⟨before, after, whole, front, back⟩ := exists_eq_trim text
    rw [core] at whole
    exact whole ▸ .numeral front signed ne digital back
  · intro writes
    cases writes with
    | @numeral before sign digits after front signed ne digital back =>
        have visible : ∀ c ∈ sign ++ digits, ¬ isBlank c := by
          intro c mem
          rcases List.mem_append.mp mem with inSign | inDigits
          · rcases signed with rfl | rfl
            · cases inSign
            · rw [List.mem_singleton.mp inSign]
              decide
          · exact not_isBlank_of_isDigit (digital c inDigits)
        rw [trim_append front back (fun c head => visible c (List.mem_of_mem_head? head))
          (fun c last => visible c (List.mem_of_mem_getLast? last)) (by simp [ne])]
        exact numeral?_eq_some_iff.mpr ⟨sign, digits, rfl, signed, ne, digital, rfl⟩

/-- A number in decimal digits, with any number of zeros in front, is written between blanks. -/
theorem writes_toDigits {before after : List Char} (front : ∀ c ∈ before, isBlank c)
    (back : ∀ c ∈ after, isBlank c) (zeros n : Nat) :
    Writes (before ++ (List.replicate zeros '0' ++ Nat.toDigits 10 n) ++ after) n := by
  have digital : ∀ c ∈ List.replicate zeros '0' ++ Nat.toDigits 10 n, c.isDigit := by
    intro c mem
    rcases List.mem_append.mp mem with zero | digit
    · rw [List.eq_of_mem_replicate zero]
      rfl
    · exact Nat.isDigit_of_mem_toDigits (by decide) (by decide) digit
  have value : Nat.ofDigitChars 10 (List.replicate zeros '0' ++ Nat.toDigits 10 n) 0 = n := by
    rw [Nat.ofDigitChars_append, Nat.ofDigitChars_replicate_zero, Nat.mul_zero,
      Nat.ofDigitChars_ten_toDigits]
  have writes := Writes.numeral front (.inl rfl) (by simp [Nat.toDigits_ne_nil]) digital back
  rwa [value] at writes

end Text

namespace Settings

/-- A value of the environment gives a number: it is there and writes a number of sixty-four
bits. -/
def Gives (value : Option String) (n : Nat) : Prop :=
  ∃ text, value = some text ∧ Text.Writes text.toList n ∧ n < 2 ^ 64

variable {value : Option String} {n : Nat}

theorem number?_eq_some_iff : number? value = some n ↔ Gives value n := by
  have size : UInt64.size = 2 ^ 64 := rfl
  simp only [number?, Text.numeralBelow?, size, Gives, Option.bind_eq_some_iff,
    Option.filter_eq_some_iff, Text.numeral?_trim_eq_some_iff, decide_eq_true_eq]

theorem number?_eq_none (nothing : ∀ n, ¬ Gives value n) : number? value = none := by
  cases read : number? value with
  | none => rfl
  | some n => exact absurd (number?_eq_some_iff.mp read) (nothing n)

/-- What a text that writes a number is read as depends on the size of the number alone. -/
theorem number?_of_writes {text : List Char} (writes : Text.Writes text n) :
    number? (some (String.ofList text)) = if n < 2 ^ 64 then some n else none := by
  have read := Text.numeral?_trim_eq_some_iff.mpr writes
  have size : UInt64.size = 2 ^ 64 := rfl
  simp [number?, Text.numeralBelow?, read, size, Option.filter]

/-- The environment sets the capacity to the number that its value gives, and the threshold to the
greater of one and the number that the other value gives. A value that gives no number leaves the
standard setting, neither value bears on the other setting, the least threshold is always the
standard one, and no threshold is zero. In particular every number of sixty-four bits is read back
from its decimal digits, with zeros in front and blanks around them, and no larger one is. -/
theorem ofEnvironment_exact (capacity threshold : Option String) :
    (∀ n, Gives capacity n → (ofEnvironment capacity threshold).capacity = n) ∧
      ((∀ n, ¬ Gives capacity n) →
        (ofEnvironment capacity threshold).capacity = standard.capacity) ∧
      (∀ n, Gives threshold n → (ofEnvironment capacity threshold).threshold = max n 1) ∧
      ((∀ n, ¬ Gives threshold n) →
        (ofEnvironment capacity threshold).threshold = standard.threshold) ∧
      (ofEnvironment capacity threshold).minThreshold = standard.minThreshold ∧
      (ofEnvironment capacity threshold).threshold ≠ 0 ∧
      (∀ other, (ofEnvironment capacity other).capacity =
          (ofEnvironment capacity threshold).capacity ∧
        (ofEnvironment other threshold).threshold =
          (ofEnvironment capacity threshold).threshold) ∧
      ∀ before after zeros n, (∀ c ∈ before, Text.isBlank c) → (∀ c ∈ after, Text.isBlank c) →
        let text := String.ofList
          (before ++ (List.replicate zeros '0' ++ Nat.toDigits 10 n) ++ after)
        (n < 2 ^ 64 → (ofEnvironment (some text) threshold).capacity = n ∧
          (ofEnvironment capacity (some text)).threshold = max n 1) ∧
        (2 ^ 64 ≤ n → (ofEnvironment (some text) threshold).capacity = standard.capacity ∧
          (ofEnvironment capacity (some text)).threshold = standard.threshold) := by
  refine ⟨?_, ?_, ?_, ?_, rfl, ?_, fun other => ⟨rfl, rfl⟩, ?_⟩
  · intro n gives
    rw [ofEnvironment, number?_eq_some_iff.mpr gives]
    rfl
  · intro nothing
    rw [ofEnvironment, number?_eq_none nothing]
    rfl
  · intro n gives
    rw [ofEnvironment, number?_eq_some_iff.mpr gives, Nat.max_comm n 1]
    rfl
  · intro nothing
    rw [ofEnvironment, number?_eq_none nothing]
    rfl
  · cases read : number? threshold with
    | none => simp [ofEnvironment, read, standard]
    | some n =>
        simp only [ofEnvironment, read, Option.map_some, Option.getD_some]
        omega
  · intro before after zeros n front back
    have read := number?_of_writes (Text.writes_toDigits front back zeros n)
    dsimp only
    constructor
    · intro small
      rw [ofEnvironment, ofEnvironment, read, if_pos small, Nat.max_comm n 1]
      exact ⟨rfl, rfl⟩
    · intro large
      rw [ofEnvironment, ofEnvironment, read, if_neg (Nat.not_lt.mpr large)]
      exact ⟨rfl, rfl⟩

end Settings

end Metamodel
