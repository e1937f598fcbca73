/-!
# Blank characters

The characters that count as white space around a value, and a value without them. Trimming
takes blanks from both ends and nothing else (`trim_append`).
-/

namespace Metamodel.Text

/-- The white-space code points, as ascending closed intervals. -/
def blankRanges : List (Nat × Nat) :=
  [(0x9, 0xD), (0x20, 0x20), (0x85, 0x85), (0xA0, 0xA0), (0x1680, 0x1680), (0x2000, 0x200A),
    (0x2028, 0x2029), (0x202F, 0x202F), (0x205F, 0x205F), (0x3000, 0x3000)]

/-- Whether a character is white space. -/
def isBlank (c : Char) : Bool :=
  blankRanges.any fun range => range.1 ≤ c.toNat && c.toNat ≤ range.2

/-- A text without the blanks at its two ends. -/
def trim (text : List Char) : List Char :=
  ((text.dropWhile isBlank).reverse.dropWhile isBlank).reverse

/-- Blanks around a text that neither starts nor ends with one are removed, and nothing else. -/
theorem trim_append {before text after : List Char} (hb : ∀ c ∈ before, isBlank c)
    (ha : ∀ c ∈ after, isBlank c) (first : ∀ c ∈ text.head?, ¬ isBlank c)
    (last : ∀ c ∈ text.getLast?, ¬ isBlank c) (ne : text ≠ []) :
    trim (before ++ text ++ after) = text := by
  have front : (before ++ text ++ after).dropWhile isBlank = text ++ after := by
    rw [List.append_assoc, List.dropWhile_append_of_pos hb]
    cases text with
    | nil => exact absurd rfl ne
    | cons c rest =>
        have hc : ¬ isBlank c := first c rfl
        simp [hc]
  have back : (text ++ after).reverse.dropWhile isBlank = text.reverse := by
    rw [List.reverse_append,
      List.dropWhile_append_of_pos fun c hc => ha c (List.mem_reverse.mp hc)]
    have tail := last
    rw [← List.head?_reverse] at tail
    cases h : text.reverse with
    | nil => rfl
    | cons c rest =>
        have hc : ¬ isBlank c := tail c (by rw [h]; rfl)
        simp [hc]
  rw [trim, front, back, List.reverse_reverse]

end Metamodel.Text
