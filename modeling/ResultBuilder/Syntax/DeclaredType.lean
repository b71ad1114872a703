import ResultBuilder.Syntax.Name

/-!
# Types as they are written

The types of parameters, results, variables and enum payloads.
-/

namespace ResultBuilder.Syntax

/-- A type as it is written in a declaration. -/
inductive DeclaredType where
  /-- A name, possibly with dots in it, and its type arguments. -/
  | named (span : Span) (name : String) (args : List DeclaredType)
  /-- Any number of types but one between parentheses. -/
  | tuple (span : Span) (elements : List DeclaredType)
  /-- A type that a mark makes optional. -/
  | optional (span : Span) (wrapped : DeclaredType)
  /-- A function type. -/
  | function (span : Span) (params : List DeclaredType) (result : DeclaredType)
  /-- Some type that is only known by a bound. -/
  | someOf (span : Span) (bound : DeclaredType)
  deriving Repr, Inhabited

namespace DeclaredType

/-- Where a type is written. -/
def span : DeclaredType → Span
  | .named span _ _ | .tuple span _ | .optional span _ | .function span _ _ | .someOf span _ => span

/-- The same type at another place. -/
def relocate (place : Span) : DeclaredType → DeclaredType
  | .named _ name args => .named place name args
  | .tuple _ elements => .tuple place elements
  | .optional _ wrapped => .optional place wrapped
  | .function _ params result => .function place params result
  | .someOf _ bound => .someOf place bound

@[simp] theorem span_relocate (place : Span) (type : DeclaredType) :
    (type.relocate place).span = place := by
  cases type <;> rfl

mutual

/-- A type as text. -/
def text : DeclaredType → String
  | .named _ name [] => name
  | .named _ name args => name ++ "<" ++ String.intercalate ", " (texts args) ++ ">"
  | .tuple _ elements => "(" ++ String.intercalate ", " (texts elements) ++ ")"
  | .optional _ wrapped => wrapped.text ++ "?"
  | .function _ params result =>
      "(" ++ String.intercalate ", " (texts params) ++ ") -> " ++ result.text
  | .someOf _ bound => "some " ++ bound.text

/-- Types as texts. -/
def texts : List DeclaredType → List String
  | [] => []
  | type :: rest => type.text :: texts rest

end

theorem texts_eq_map (types : List DeclaredType) : texts types = types.map text := by
  induction types with
  | nil => rfl
  | cons type rest ih => simp [texts, ih]

end DeclaredType

end ResultBuilder.Syntax
