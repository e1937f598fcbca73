import Metamodel.Text.Hexadecimal
import Metamodel.Text.Unprintable

/-!
# Quoted text

Text between double quotes. A quote, a backslash and the common controls have short escapes;
other characters without a printed form are written by their code point.
-/

namespace Metamodel.Text

/-- The code point of a character in braces, after a backslash and a `u`. -/
def codePointEscape (c : Char) : List Char :=
  ['\\', 'u', '\x7b'] ++ Hexadecimal.digits c.toNat ++ ['\x7d']

/-- How one character is written between quotes. A single quote needs no escape. -/
def escape (c : Char) : List Char :=
  match c with
  | '"' => ['\\', '"']
  | '\\' => ['\\', '\\']
  | '\t' => ['\\', 't']
  | '\r' => ['\\', 'r']
  | '\n' => ['\\', 'n']
  | '\x00' => ['\\', '0']
  | c => if isUnprintable c then codePointEscape c else [c]

/-- The quoted form of a text. -/
def quoted (text : String) : String :=
  String.ofList ('"' :: text.toList.flatMap escape ++ ['"'])

end Metamodel.Text
