/-!
# Styled text

Text for a terminal is put between a sequence that sets a colour and one that resets it.
-/

namespace ResultBuilder.Text

/-- The colours in use. -/
inductive Colour where
  | red
  | green
  | yellow
  | purple
  /-- A colour by its number among two hundred and fifty-six. -/
  | numbered (number : Nat)
  deriving DecidableEq, Repr

/-- The parameters that set a colour. -/
def Colour.parameters : Colour → String
  | .red => "31"
  | .green => "32"
  | .yellow => "33"
  | .purple => "35"
  | .numbered number => s!"38;5;{number}"

/-- A text in a style given by its parameters. -/
def styled (parameters text : String) : String :=
  "\x1b[" ++ parameters ++ "m" ++ text ++ "\x1b[0m"

/-- A text in a colour. -/
def coloured (colour : Colour) (text : String) : String :=
  styled colour.parameters text

/-- A bold text in a colour. -/
def bold (colour : Colour) (text : String) : String :=
  styled ("1;" ++ colour.parameters) text

end ResultBuilder.Text
