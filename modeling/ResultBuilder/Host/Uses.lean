import ResultBuilder.Collaborators
import ResultBuilder.Host.Basic

/-!
# Proper uses of expressions

The name of a type is no value, generic parameters of a type have to be known where the type is
used, and an assignment is no condition. Closures are looked at when they are bodies themselves.
-/

namespace ResultBuilder.Host

open Syntax

/-- The diagnostics for a generic type whose name is used at a place without arguments. -/
def unresolvedGenerics (host : Host) (name : String) (place : Span) : List Diagnostic :=
  match host.type? name with
  | none => []
  | some decl =>
      decl.generics.map fun generic =>
        let param := generic.name.text
        ⟨.error, DiagnosticCode.unresolvedGeneric.number,
          s!"generic parameter '{param}' could not be inferred",
          [.primary "cannot infer type" place,
            .context s!"'{param}' declared as parameter to type '{name}'" generic.name.span],
          [.fixIt ⟨"explicitly specify the generic arguments to fix this issue", place,
            [.insert place.stop ("<<#" ++ param ++ "#>>")]⟩]⟩

/-- The diagnostics for a call of a generic type without arguments: its parameters cannot be
inferred, and an initializer that takes arguments lacks them. -/
def emptyConstruction (host : Host) (place : Span) (callee : Expr) : List Diagnostic :=
  match callee with
  | .ident calleeSpan name =>
      match host.type? name with
      | none => []
      | some decl =>
          if decl.generics.isEmpty then []
          else
            host.unresolvedGenerics name calleeSpan ++
              ((initializers decl).find? (!·.params.isEmpty)).toList.map fun initializer =>
                ⟨.error, DiagnosticCode.syntacticUse.number,
                  "missing argument for parameter #1 in call",
                  [.primary "missing argument" place,
                    .context s!"'{initializer.fullName}' declared here" initializer.name.span],
                  []⟩
  | _ => []

/-- Whether a name means a type within a body: a generic parameter in scope, or a declared type that
no parameter of the body hides. -/
def meansType (host : Host) (context : BodyContext) (name : String) : Bool :=
  context.typeParams.contains name || (host.isType name && !context.params.contains name)

/-- The diagnostic for the name of a type that is given as an argument. -/
def typeAsValue (host : Host) (context : BodyContext) (value : Expr) : List Diagnostic :=
  match value with
  | .ident place name =>
      if host.meansType context name then
        [⟨.error, DiagnosticCode.syntacticUse.number,
          "expected member name or constructor call after type name",
          [.primary "type name used as a value" place],
          [.fixIt ⟨"use '.self' to reference the type object", place,
            [.insert place.stop ".self"]⟩]⟩]
      else []
  | _ => []

mutual

/-- The diagnostics for the parts of an expression. -/
def uses (host : Host) (context : BodyContext) : Expr → List Diagnostic
  | .call span callee args trailing =>
      (if args.isEmpty && trailing.isNone then host.emptyConstruction span callee else []) ++
        uses host context callee ++ argumentUses host context args
  | .member _ base _ => uses host context base
  | .subscript _ base args => uses host context base ++ elementUses host context args
  | .tuple _ elements => elementUses host context elements
  | .array _ elements => allUses host context elements
  | .paren _ inner | .unary _ _ inner | .postfixed _ inner _ => uses host context inner
  | .binary _ left _ right => uses host context left ++ uses host context right
  | .ternary _ condition thenValue elseValue =>
      uses host context condition ++ uses host context thenValue ++ uses host context elseValue
  | .assign _ target _ value => uses host context target ++ uses host context value
  | .ident _ _ | .literal _ _ | .implicitMember _ _ | .closure _ => []

/-- The diagnostics for the arguments of a call. -/
def argumentUses (host : Host) (context : BodyContext) : List Argument → List Diagnostic
  | [] => []
  | ⟨_, _, value⟩ :: rest =>
      host.typeAsValue context value ++ uses host context value ++ argumentUses host context rest

/-- The diagnostics for the elements of a tuple or the arguments of a subscript. -/
def elementUses (host : Host) (context : BodyContext) : List Argument → List Diagnostic
  | [] => []
  | ⟨_, _, value⟩ :: rest => uses host context value ++ elementUses host context rest

/-- The diagnostics for expressions. -/
def allUses (host : Host) (context : BodyContext) : List Expr → List Diagnostic
  | [] => []
  | expr :: rest => uses host context expr ++ allUses host context rest

end

/-- Checks how an expression is used that becomes a value by itself. -/
def checkExpression (host : Host) (context : BodyContext) (expr : Expr) : List Diagnostic :=
  match expr with
  | .ident place name => host.unresolvedGenerics name place
  | _ => uses host context expr

/-- The first assignment that is used as a truth value. -/
def assignment? : Expr → Option Diagnostic
  | .assign _ _ sign _ =>
      some ⟨.error, DiagnosticCode.syntacticUse.number,
        "use of '=' in a boolean context, did you mean '=='?",
        [.primary "assignment used as a condition" sign],
        [.fixIt ⟨"use '==' to compare", sign, [.replace sign "=="]⟩]⟩
  | .paren _ inner => assignment? inner
  | .binary _ left .and right | .binary _ left .or right => assignment? left <|> assignment? right
  | _ => none

/-- Checks that a condition is no assignment. -/
def checkCondition : Condition → List Diagnostic
  | .expression expr => (assignment? expr).toList
  | .binding _ _ _ _ => []

end ResultBuilder.Host
