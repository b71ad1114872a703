import ResultBuilder.Decimal.Binary64

/-!
# The shortest text of a double

A double is written with the fewest digits for which no other double is nearer, and among those
with the digits nearest to it, a half going up. The text is positional at every size: no exponent,
and no point when there is nothing after it.
-/

namespace ResultBuilder

namespace Binary64

/-- A fraction of natural numbers. -/
structure Ratio where
  /-- The part above the line. -/
  numerator : Nat
  /-- The part below the line. -/
  denominator : Nat
  deriving Repr

namespace Ratio

/-- Whether a fraction is at most another. -/
def atMost (left right : Ratio) : Bool :=
  left.numerator * right.denominator ≤ right.numerator * left.denominator

/-- Whether a fraction is less than another. -/
def below (left right : Ratio) : Bool :=
  left.numerator * right.denominator < right.numerator * left.denominator

/-- A natural number times a power of a base. -/
def power (factor base : Nat) (exponent : Int) : Ratio :=
  ⟨factor * base.pow exponent.toNat, base.pow (-exponent).toNat⟩

end Ratio

/-- The reals that round to a double: the ends of an interval, and whether they belong to it. -/
structure Interval where
  /-- The lower end. -/
  lower : Ratio
  /-- The upper end. -/
  upper : Ratio
  /-- Whether the ends round to the double too. -/
  closed : Bool
  deriving Repr

/-- Whether a fraction rounds to the double of an interval. -/
def Interval.contains (interval : Interval) (value : Ratio) : Bool :=
  if interval.closed then interval.lower.atMost value && value.atMost interval.upper
  else interval.lower.below value && value.below interval.upper

/-- The reals that round to a double. The gap below a power of two is half as wide as the gap above
it, and the ends belong to the double with the even mantissa. -/
def interval (mantissa : Nat) (exponent : Int) : Interval :=
  let narrow := mantissa == Nat.pow 2 52 && leastExponent < exponent
  ⟨if narrow then .power (4 * mantissa - 1) 2 (exponent - 2)
    else .power (2 * mantissa - 1) 2 (exponent - 1),
    .power (2 * mantissa + 1) 2 (exponent - 1),
    mantissa % 2 == 0⟩

/-- The power of ten that is the first above a positive fraction, found by trying one power after
another within some fuel. -/
def magnitude (value : Ratio) : Nat → Int → Int
  | 0, exponent => exponent
  | fuel + 1, exponent =>
      if value.below (.power 1 10 exponent) then exponent
      else magnitude value fuel (exponent + 1)

/-- The point nearest to a fraction on the grid of multiples of a power of ten, if it or its
neighbour rounds to the double. Of two points that are equally near the greater one counts. -/
def onGrid (value : Ratio) (reals : Interval) (exponent : Int) : Option (Nat × Int) :=
  let unit := Ratio.power 1 10 exponent
  let scaledTop := value.numerator * unit.denominator
  let scaledBottom := value.denominator * unit.numerator
  let lower := scaledTop / scaledBottom
  let twice := 2 * (scaledTop % scaledBottom)
  let nearer := if twice < scaledBottom then [lower, lower + 1] else [lower + 1, lower]
  (nearer.find? fun digits => reals.contains (.power digits 10 exponent)).map (·, exponent)

/-- The decimal with the fewest digits that rounds to a positive double, as digits and the power of
ten that they count. Seventeen digits are always enough. -/
def shortestDigits (mantissa : Nat) (exponent : Int) : Nat × Int :=
  let value := Ratio.power mantissa 2 exponent
  let reals := interval mantissa exponent
  let top := magnitude value 700 (-330)
  let grids := (List.range 17).map fun (count : Nat) => top - 1 - (count : Int)
  (grids.findSome? (onGrid value reals)).getD (0, 0)

/-- The text without the characters of a kind at its end. -/
def trimmedEnd (drop : Char → Bool) (text : List Char) : List Char :=
  (text.reverse.dropWhile drop).reverse

/-- Digits that count a power of ten, in positional notation. -/
def positional (digits : Nat) (exponent : Int) : String :=
  let shown := Nat.toDigits 10 digits
  if 0 ≤ exponent then String.ofList (shown ++ List.replicate exponent.toNat '0')
  else
    let places := (-exponent).toNat
    let padded := List.replicate (places + 1 - shown.length) '0' ++ shown
    let whole := padded.take (padded.length - places)
    let fraction := trimmedEnd (· == '0') (padded.drop (padded.length - places))
    if fraction.isEmpty then String.ofList whole
    else String.ofList (whole ++ '.' :: fraction)

/-- The text of a double. -/
def shortestText : Binary64 → String
  | .infinity => "inf"
  | .finite 0 _ => "0"
  | .finite mantissa exponent =>
      let (digits, power) := shortestDigits mantissa exponent
      positional digits power

end Binary64

/-- The text of the double nearest to a decimal number. -/
def Decimal.shortestText (value : Decimal) : String :=
  (Binary64.ofDecimal value).shortestText

end ResultBuilder
