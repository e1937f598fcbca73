import Metamodel.Text.Hexadecimal

/-!
# Object ids

An id is a slot number. Its written form is hexadecimal, at least sixteen digits wide, so ids
with different numbers are written differently (`text_injective`).
-/

namespace Metamodel

/-- The number of the heap slot that holds an object. -/
abbrev ObjectId := Nat

namespace ObjectId

/-- The written form of an id. -/
def text (id : ObjectId) : String :=
  String.ofList ('0' :: 'x' :: Text.padLeft 16 '0' (Text.Hexadecimal.digits id))

theorem text_injective {a b : ObjectId} (h : text a = text b) : a = b := by
  have chars := congrArg String.toList h
  simp only [text, String.toList_ofList, List.cons.injEq, true_and] at chars
  have values := congrArg Text.Hexadecimal.value chars
  simpa only [Text.Hexadecimal.value_padLeft, Text.Hexadecimal.value_digits] using values

/-- The digits in the written form of an id. -/
def hexDigits (id : ObjectId) : List Char :=
  Text.padLeft 16 '0' (Text.Hexadecimal.digits id)

theorem toList_text (id : ObjectId) : (text id).toList = '0' :: 'x' :: hexDigits id := by
  rw [text, String.toList_ofList, hexDigits]

theorem text_eq (id : ObjectId) : text id = "0x" ++ String.ofList (hexDigits id) := by
  rw [← String.toList_inj, toList_text, String.toList_append, String.toList_ofList]
  simp

theorem value_hexDigits (id : ObjectId) : Text.Hexadecimal.value (hexDigits id) = id := by
  rw [hexDigits, Text.Hexadecimal.value_padLeft, Text.Hexadecimal.value_digits]

theorem isDigit_of_mem_hexDigits {id : ObjectId} {c : Char} (mem : c ∈ hexDigits id) :
    Text.Hexadecimal.isDigit c := by
  rw [hexDigits, Text.padLeft_eq_append, List.mem_append] at mem
  rcases mem with zeros | digits
  · rw [List.eq_of_mem_replicate zeros]
    rfl
  · exact Text.Hexadecimal.isDigit_of_mem_digits digits

end ObjectId

end Metamodel
