/-!
# Sets of characters given by ranges of code points

A character class of the Unicode standard is a list of closed intervals of code points.
-/

namespace ResultBuilder.Text

/-- Closed intervals of code points, lower end first. -/
abbrev Ranges := List (Nat × Nat)

/-- A character is in the set when some interval holds its code point. -/
def Ranges.contains (ranges : Ranges) (c : Char) : Bool :=
  ranges.any fun (lower, upper) => decide (lower ≤ c.toNat ∧ c.toNat ≤ upper)

end ResultBuilder.Text
