import ResultBuilder.Collaborators
import ResultBuilder.Host.Basic

/-!
# Captures of the enclosing object

Within a closure that may outlive its call, the members of an object that is shared by reference are
to be used with `self` in front.
-/

namespace ResultBuilder.Host

open Syntax

/-- The diagnostic for a member that is used without `self`. -/
def captureDiagnostic (context : BodyContext) (place : Span) (name : String) : Diagnostic :=
  let opening : Span := ⟨context.span.start, context.span.start + 1⟩
  ⟨.error, DiagnosticCode.implicitSelfCapture.number,
    "reference to property '" ++ name ++ "' in closure requires explicit use of 'self' to make " ++
      "capture semantics explicit",
    [.primary "implicitly captures 'self'" place],
    [.fixIt ⟨"reference 'self.' explicitly", place, [.insert place.start "self."]⟩,
      .fixIt ⟨"capture 'self' explicitly to enable implicit 'self' in this closure", opening,
        [.insert opening.stop " [self] in"]⟩]⟩

mutual

/-- The members of an object that an expression uses without naming the object. Closures in it are
left out. -/
def captures (members : List String) (context : BodyContext) : Expr → List Diagnostic
  | .ident place name =>
      if members.contains name && !context.params.contains name then
        [captureDiagnostic context place name]
      else []
  | .call _ callee args _ =>
      captures members context callee ++ argumentCaptures members context args
  | .member _ base _ => captures members context base
  | .subscript _ base args =>
      captures members context base ++ argumentCaptures members context args
  | .tuple _ elements => argumentCaptures members context elements
  | .array _ elements => allCaptures members context elements
  | .paren _ inner | .unary _ _ inner | .postfixed _ inner _ => captures members context inner
  | .binary _ left _ right => captures members context left ++ captures members context right
  | .assign _ target _ value => captures members context target ++ captures members context value
  | .ternary _ condition thenValue elseValue =>
      captures members context condition ++ captures members context thenValue ++
        captures members context elseValue
  | .literal _ _ | .implicitMember _ _ | .closure _ => []

/-- The captures in arguments. -/
def argumentCaptures (members : List String) (context : BodyContext) :
    List Argument → List Diagnostic
  | [] => []
  | ⟨_, _, value⟩ :: rest =>
      captures members context value ++ argumentCaptures members context rest

/-- The captures in expressions. -/
def allCaptures (members : List String) (context : BodyContext) : List Expr → List Diagnostic
  | [] => []
  | expr :: rest => captures members context expr ++ allCaptures members context rest

end

/-- Checks what an expression captures. -/
def checkCaptures (context : BodyContext) (expr : Expr) : List Diagnostic :=
  match context.implicitSelf with
  | some object =>
      if context.isEscaping && object.isReference then captures object.members context expr else []
  | none => []

end ResultBuilder.Host
