/-!
# Unsigned decimal numerals

A numeral is an optional plus sign and at least one ASCII digit. Leading zeros are allowed.
-/

namespace Metamodel.Text

/-- The value of an ASCII digit. -/
def digit? (c : Char) : Option Nat :=
  if '0' ≤ c ∧ c ≤ '9' then some (c.toNat - '0'.toNat) else none

/-- Continue a number by decimal digits; `none` when another character stands among them. -/
def digitsFrom? (acc : Nat) : List Char → Option Nat
  | [] => some acc
  | c :: rest => (digit? c).bind fun d => digitsFrom? (10 * acc + d) rest

/-- The number written by one or more decimal digits. -/
def digits? : List Char → Option Nat
  | [] => none
  | c :: rest => digitsFrom? 0 (c :: rest)

/-- The number that a numeral denotes. -/
def numeral? : List Char → Option Nat
  | '+' :: rest => digits? rest
  | text => digits? text

/-- The number that a numeral denotes, if it is below a limit. -/
def numeralBelow? (limit : Nat) (text : List Char) : Option Nat :=
  (numeral? text).filter (· < limit)

end Metamodel.Text
