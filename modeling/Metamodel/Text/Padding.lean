/-!
# Padding

Fixed-width columns: text moved to the right edge of its column by a fill character.
-/

namespace Metamodel.Text

/-- Fill `text` on the left up to `width` characters. Longer text is kept whole. -/
def padLeft (width : Nat) (fill : Char) (text : List Char) : List Char :=
  text.leftpad width fill

theorem padLeft_eq_append (width : Nat) (fill : Char) (text : List Char) :
    padLeft width fill text = List.replicate (width - text.length) fill ++ text := rfl

theorem length_padLeft (width : Nat) (fill : Char) (text : List Char) :
    (padLeft width fill text).length = max width text.length := by
  rw [padLeft_eq_append]
  simp only [List.length_append, List.length_replicate]
  omega

/-- A number at the right edge of a column of `width` blanks. -/
def column (width : Nat) (value : Nat) : String :=
  String.ofList (padLeft width ' ' (Nat.toDigits 10 value))

end Metamodel.Text
