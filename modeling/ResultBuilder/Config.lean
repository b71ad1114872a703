/-!
# Configuration

Which checks are made, and how the cases of a `switch` are told apart by pairs of alternatives.
-/

namespace ResultBuilder

/-- How the cases of a `switch` are folded into pairs of alternatives. -/
inductive EitherEncoding where
  /-- The cases are split in halves again and again, the first half being the first alternative. -/
  | balanced
  /-- Each case is the first alternative to all cases after it. -/
  | rightNested
  deriving DecidableEq, Repr

/-- The name of an encoding. -/
def EitherEncoding.text : EitherEncoding → String
  | .balanced => "balanced"
  | .rightNested => "right_nested"

/-- How bodies are transformed. -/
structure Config where
  /-- Whether it is checked how expressions are used. -/
  checkSyntacticUses : Bool := true
  /-- Whether it is checked what closures capture. -/
  checkCaptures : Bool := true
  /-- How the cases of a `switch` are told apart. -/
  eitherEncoding : EitherEncoding := .balanced
  deriving DecidableEq, Repr

namespace Config

/-- The configuration without checks of how expressions are used. -/
def withoutSyntacticUses (config : Config) : Config :=
  { config with checkSyntacticUses := false }

/-- The configuration without checks of what closures capture. -/
def withoutCaptures (config : Config) : Config :=
  { config with checkCaptures := false }

/-- The configuration with an encoding. -/
def withEncoding (config : Config) (encoding : EitherEncoding) : Config :=
  { config with eitherEncoding := encoding }

end Config

end ResultBuilder
