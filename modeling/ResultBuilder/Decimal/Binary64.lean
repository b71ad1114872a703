/-!
# Decimal numbers and the doubles nearest to them

A literal with a point is a decimal number. It stands for the double precision number nearest to
it, a tie going to the even mantissa.
-/

namespace ResultBuilder

/-- The number `digits` times ten to the power of minus `places`. -/
structure Decimal where
  /-- The digits as a natural number. -/
  digits : Nat
  /-- How many of the digits stand after the point. -/
  places : Nat
  deriving DecidableEq, Repr

/-- The natural number that a text of decimal digits denotes. -/
def digitsValue (text : List Char) : Nat :=
  text.foldl (fun value c => 10 * value + (c.toNat - '0'.toNat)) 0

/-- The decimal number written as digits with a point among them. -/
def Decimal.ofText (text : String) : Decimal :=
  let characters := text.toList
  let whole := characters.takeWhile (· ≠ '.')
  let fraction := (characters.dropWhile (· ≠ '.')).drop 1
  ⟨digitsValue (whole ++ fraction), fraction.length⟩

/-- A non-negative double precision number. -/
inductive Binary64 where
  /-- The mantissa times two to the power of the exponent. -/
  | finite (mantissa : Nat) (exponent : Int)
  /-- What lies beyond the largest number. -/
  | infinity
  deriving DecidableEq, Repr

namespace Binary64

/-- The quotient of two natural numbers rounded to the nearest, a tie going to the even one. -/
def roundedQuotient (numerator denominator : Nat) : Nat :=
  let quotient := numerator / denominator
  let twice := 2 * (numerator % denominator)
  if twice < denominator || (twice == denominator && quotient % 2 == 0) then quotient
  else quotient + 1

/-- The smallest exponent of a double. -/
def leastExponent : Int := -1074

/-- The largest exponent of a double. -/
def greatestExponent : Int := 971

/-- A mantissa of at most fifty-three bits and the exponent that goes with it, a mantissa of two to
the fifty-three being halved. -/
def normalized (mantissa : Nat) (exponent : Int) : Binary64 :=
  let (mantissa, exponent) :=
    if mantissa == Nat.pow 2 53 then (Nat.pow 2 52, exponent + 1) else (mantissa, exponent)
  if greatestExponent < exponent then .infinity else .finite mantissa exponent

/-- The quotient of a natural number by a power of two whose exponent may be negative, as a
fraction of natural numbers. -/
def scaled (numerator denominator : Nat) (exponent : Int) : Nat × Nat :=
  (numerator * Nat.pow 2 (-exponent).toNat, denominator * Nat.pow 2 exponent.toNat)

/-- The double nearest to a fraction. -/
def nearest (numerator denominator : Nat) : Binary64 :=
  if numerator == 0 then .finite 0 leastExponent
  else
    let guess : Int := (numerator.log2 : Int) - (denominator.log2 : Int) - 53
    let (top, bottom) := scaled numerator denominator guess
    let exponent := if Nat.pow 2 53 * bottom ≤ top then guess + 1 else guess
    let exponent := max exponent leastExponent
    let (top, bottom) := scaled numerator denominator exponent
    normalized (roundedQuotient top bottom) exponent

/-- The double nearest to a decimal number. -/
def ofDecimal (value : Decimal) : Binary64 :=
  nearest value.digits (Nat.pow 10 value.places)

/-- The double nearest to a natural number times a power of ten. The power is computed only where
the outcome is neither zero nor infinity for its size alone. -/
def ofScientific (digits : Nat) (exponent : Int) : Binary64 :=
  let size := ((Nat.toDigits 10 digits).length : Int) + exponent
  if digits = 0 ∨ size ≤ -324 then .finite 0 leastExponent
  else if 309 < size then .infinity
  else nearest (digits * Nat.pow 10 exponent.toNat) (Nat.pow 10 (-exponent).toNat)

end Binary64

end ResultBuilder
