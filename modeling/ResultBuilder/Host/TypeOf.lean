import ResultBuilder.Host.Basic

/-!
# The shapes of expressions

What the form of an expression and the declarations of the program tell about its type.
-/

namespace ResultBuilder.Host

open Syntax

/-- The shape of a literal. -/
def literalShape : Literal → Shape
  | .integer _ => .named "Int" []
  | .float _ => .named "Double" []
  | .string _ => .named "String" []
  | .boolean _ => .named "Bool" []
  | .nil => .hole

/-- The shape of what a call of a name gives: a value of the type, or the result of the functions of
that name where they agree. -/
def namedCallShape (host : Host) (name : String) : Shape :=
  match host.type? name with
  | some decl => .named name (List.replicate decl.generics.length .hole)
  | none =>
      if (host.enum? name).isSome then .named name []
      else (host.functionResult? name).getD .hole

/-- The shape of what a call gives. -/
def callShape (host : Host) : Expr → Shape
  | .ident _ name => host.namedCallShape name
  | .member _ (.ident _ typeName) name =>
      ((host.type? typeName).bind (staticResult? · name.text)).getD .hole
  | _ => .hole

mutual

/-- The shape of an expression. -/
def typeOf (host : Host) : Expr → Shape
  | .literal _ value => literalShape value
  | .tuple _ elements => .tuple (elementTypes host elements)
  | .paren _ inner => typeOf host inner
  | .array _ [] => .named "Array" [.hole]
  | .array _ (first :: _) => .named "Array" [typeOf host first]
  | .call _ callee _ _ => host.callShape callee
  | .unary _ .not _ => .named "Bool" []
  | .unary _ .negate operand => typeOf host operand
  | .binary _ left op right =>
      if op.isComparison then .named "Bool" [] else (typeOf host left).unify (typeOf host right)
  | .ternary _ _ thenValue elseValue => (typeOf host thenValue).unify (typeOf host elseValue)
  | .ident _ _ | .implicitMember _ _ | .member _ _ _ | .subscript _ _ _ | .closure _
  | .assign _ _ _ _ | .postfixed _ _ _ => .hole

/-- The shapes of the elements of a tuple. -/
def elementTypes (host : Host) : List Argument → List Shape
  | [] => []
  | ⟨_, _, value⟩ :: rest => typeOf host value :: elementTypes host rest

end

end ResultBuilder.Host
