import ResultBuilder.Body.Context
import ResultBuilder.Builder.Descriptor

/-!
# Collaborators

Transforming a body leaves some questions to others: whether a `switch` covers every value, whether
an expression is used properly, what a closure captures, what type an expression has, and which of
several functions a call means. Their answers are plain values; no diagnostics mean that all is
well.
-/

namespace ResultBuilder

open Syntax

/-- A call whose callee can be one of several functions. -/
structure OverloadSite where
  /-- The name by which the callee is known. -/
  name : String
  /-- Where the call is. -/
  span : Span
  deriving DecidableEq, Repr

/-- A function that a call could mean, with what its closures were transformed into. -/
structure OverloadCandidate where
  /-- The name of the function. -/
  name : String
  /-- Where its name is declared. -/
  span : Span
  /-- The builders of the closures, in the order of the arguments. -/
  builders : List String
  /-- The shapes of the closures. -/
  shapes : List Shape
  deriving DecidableEq, Repr

/-- Those who are asked while bodies are transformed. -/
structure Collaborators where
  /-- Whether the cases of a `switch` cover every value. -/
  checkExhaustive : BodyContext → Switch → List Diagnostic
  /-- Whether a condition is used properly. -/
  checkCondition : BodyContext → Condition → List Diagnostic
  /-- Whether an expression is used properly. -/
  checkExpression : BodyContext → Expr → List Diagnostic
  /-- Whether an expression captures the enclosing object properly. -/
  checkCaptures : BodyContext → Expr → List Diagnostic
  /-- The shape of an expression. -/
  typeOf : BodyContext → Expr → Shape
  /-- The index of the function that a call means, or why it cannot be told. -/
  resolveOverload : OverloadSite → List OverloadCandidate → Except Diagnostic Nat

/-- Collaborators who accept everything and know no types. -/
def Collaborators.permissive : Collaborators where
  checkExhaustive _ _ := []
  checkCondition _ _ := []
  checkExpression _ _ := []
  checkCaptures _ _ := []
  typeOf _ _ := .hole
  resolveOverload _ _ := .ok 0

/-- A question to a collaborator. -/
inductive Question where
  | exhaustive (context : BodyContext) (node : Switch)
  | condition (context : BodyContext) (node : Condition)
  | expression (context : BodyContext) (node : Expr)
  | captures (context : BodyContext) (node : Expr)
  | type (context : BodyContext) (node : Expr)
  | overload (site : OverloadSite) (candidates : List OverloadCandidate)

end ResultBuilder
