import ResultBuilder.Source.Span

/-!
# Names in the source
-/

namespace ResultBuilder.Syntax

/-- A name and where it is written. -/
structure Name where
  /-- The span of the name. -/
  span : Span
  /-- The name itself. -/
  text : String
  deriving DecidableEq, Repr, Inhabited

end ResultBuilder.Syntax
