import ResultBuilder.Decimal.Binary64

/-!
# Numbers of one machine word

Numbers in annotations are natural numbers below two to the power of sixty-four, written in decimal
digits, possibly after a plus sign.
-/

namespace ResultBuilder

/-- The number that digits denote, if there are any and it is small enough. -/
def wordOfDigits? (text : List Char) : Option Nat :=
  if text ≠ [] ∧ text.all Char.isDigit ∧ digitsValue text < Nat.pow 2 64 then
    some (digitsValue text)
  else none

/-- The number that a text denotes. -/
def word? : List Char → Option Nat
  | '+' :: digits => wordOfDigits? digits
  | text => wordOfDigits? text

end ResultBuilder
