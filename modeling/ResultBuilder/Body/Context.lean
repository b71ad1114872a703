import ResultBuilder.Source.Span

/-!
# Where a body stands
-/

namespace ResultBuilder

/-- The kinds of bodies that a builder is applied to. -/
inductive BodyKind where
  | closure
  | function
  | property
  deriving DecidableEq, Repr

/-- The name of a kind of body. -/
def BodyKind.text : BodyKind → String
  | .closure => "closure"
  | .function => "function"
  | .property => "property"

/-- The object that `self` is within a body. -/
structure ImplicitSelf where
  /-- The name of its type. -/
  typeName : String
  /-- Whether values of the type are shared by reference. -/
  isReference : Bool
  /-- The members that can be used without naming the object. -/
  members : List String
  deriving DecidableEq, Repr

/-- Where a body stands. -/
structure BodyContext where
  /-- What kind of body it is. -/
  kind : BodyKind
  /-- The span of the body with its braces. -/
  span : Span
  /-- Whether the body may outlive the call that it is given to. -/
  isEscaping : Bool := false
  /-- The builder attribute of the declaration that has the body. -/
  builderAttribute : Option Span := none
  /-- The parameters of the body. -/
  params : List String := []
  /-- The generic parameters in scope. -/
  typeParams : List String := []
  /-- The object that `self` is. -/
  implicitSelf : Option ImplicitSelf := none
  deriving DecidableEq, Repr

end ResultBuilder
