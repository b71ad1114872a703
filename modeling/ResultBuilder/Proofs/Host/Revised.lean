import ResultBuilder.Host
import ResultBuilder.Proofs.Body.Revised

/-!
# Answers about revised trees

A host looks at an expression down to its closures and no further: whatever is made of the closures,
it answers the same. Each of its walks goes through all kinds of expressions on its own, so that each
has to be followed.

Main statement: `Host.overlooksClosures_collaborators`.
-/

namespace ResultBuilder

open Syntax

/-- **Collaborators who overlook closures**: whatever is made of the closures in what they are asked
about, they answer the same. -/
structure Collaborators.OverlooksClosures (services : Collaborators) : Prop where
  exhaustive {revision : Revision} (ofClosures : revision.OfClosures) (context : BodyContext)
    (node : Switch) :
    services.checkExhaustive context (node.revise revision) = services.checkExhaustive context node
  condition {revision : Revision} (ofClosures : revision.OfClosures) (context : BodyContext)
    (node : Condition) :
    services.checkCondition context (node.revise revision) = services.checkCondition context node
  expression {revision : Revision} (ofClosures : revision.OfClosures) (context : BodyContext)
    (node : Expr) :
    services.checkExpression context (node.revise revision) = services.checkExpression context node
  captures {revision : Revision} (ofClosures : revision.OfClosures) (context : BodyContext)
    (node : Expr) :
    services.checkCaptures context (node.revise revision) = services.checkCaptures context node
  typeOf {revision : Revision} (ofClosures : revision.OfClosures) (context : BodyContext)
    (node : Expr) :
    services.typeOf context (node.revise revision) = services.typeOf context node

namespace Host

variable (host : Host) (context : BodyContext) (revision : Revision)

/-! ### Captures -/

section Captures

variable (members : List String)

mutual

theorem captures_revise : ∀ expr : Expr,
    captures members context (expr.revise revision) = captures members context expr
  | .ident _ _ | .literal _ _ | .implicitMember _ _ => rfl
  | .closure ⟨_, _, _⟩ => rfl
  | .member _ base _ => captures_revise base
  | .paren _ inner | .unary _ _ inner | .postfixed _ inner _ => captures_revise inner
  | .tuple _ elements => argumentCaptures_revise elements
  | .array _ elements => allCaptures_revise elements
  | .call _ callee args _ | .subscript _ callee args => by
      rw [Expr.revise, captures, captures, captures_revise callee, argumentCaptures_revise args]
  | .binary _ left _ right | .assign _ left _ right => by
      rw [Expr.revise, captures, captures, captures_revise left, captures_revise right]
  | .ternary _ test thenValue elseValue => by
      rw [Expr.revise, captures, captures, captures_revise test, captures_revise thenValue,
        captures_revise elseValue]

theorem argumentCaptures_revise : ∀ args : List Argument,
    argumentCaptures members context (Argument.reviseAll revision args) =
      argumentCaptures members context args
  | [] => rfl
  | ⟨_, _, value⟩ :: rest => by
      rw [Argument.reviseAll, Argument.revise, argumentCaptures, argumentCaptures,
        captures_revise value, argumentCaptures_revise rest]

theorem allCaptures_revise : ∀ exprs : List Expr,
    allCaptures members context (Expr.reviseAll revision exprs) = allCaptures members context exprs
  | [] => rfl
  | expr :: rest => by
      rw [Expr.reviseAll, allCaptures, allCaptures, captures_revise expr, allCaptures_revise rest]

end

theorem checkCaptures_revise (expr : Expr) :
    checkCaptures context (expr.revise revision) = checkCaptures context expr := by
  unfold checkCaptures
  cases context.implicitSelf with
  | none => rfl
  | some object =>
      dsimp only
      rw [captures_revise]

end Captures

/-! ### Uses -/

theorem emptyConstruction_revise (place : Span) (callee : Expr) :
    host.emptyConstruction place (callee.revise revision) = host.emptyConstruction place callee := by
  cases callee <;> rfl

theorem typeAsValue_revise (value : Expr) :
    host.typeAsValue context (value.revise revision) = host.typeAsValue context value := by
  cases value <;> rfl

mutual

theorem uses_revise : ∀ expr : Expr,
    host.uses context (expr.revise revision) = host.uses context expr
  | .ident _ _ | .literal _ _ | .implicitMember _ _ => rfl
  | .closure ⟨_, _, _⟩ => rfl
  | .member _ base _ => uses_revise base
  | .paren _ inner | .unary _ _ inner | .postfixed _ inner _ => uses_revise inner
  | .tuple _ elements => elementUses_revise elements
  | .array _ elements => allUses_revise elements
  | .call span callee args trailing => by
      have noArgs : (args.map (·.revise revision)).isEmpty = args.isEmpty := by
        cases args <;> rfl
      have noClosure : (trailing.map (·.revise revision)).isNone = trailing.isNone := by
        cases trailing <;> rfl
      rw [Expr.revise, uses, uses, argumentUses_revise args, uses_revise callee,
        emptyConstruction_revise, Argument.reviseAll_eq_map, Closure.reviseOption_eq_map, noArgs,
        noClosure]
  | .subscript _ base args => by
      rw [Expr.revise, uses, uses, uses_revise base, elementUses_revise args]
  | .binary _ left _ right | .assign _ left _ right => by
      rw [Expr.revise, uses, uses, uses_revise left, uses_revise right]
  | .ternary _ test thenValue elseValue => by
      rw [Expr.revise, uses, uses, uses_revise test, uses_revise thenValue, uses_revise elseValue]

theorem argumentUses_revise : ∀ args : List Argument,
    host.argumentUses context (Argument.reviseAll revision args) = host.argumentUses context args
  | [] => rfl
  | ⟨_, _, value⟩ :: rest => by
      rw [Argument.reviseAll, Argument.revise, argumentUses, argumentUses, typeAsValue_revise,
        uses_revise value, argumentUses_revise rest]

theorem elementUses_revise : ∀ args : List Argument,
    host.elementUses context (Argument.reviseAll revision args) = host.elementUses context args
  | [] => rfl
  | ⟨_, _, value⟩ :: rest => by
      rw [Argument.reviseAll, Argument.revise, elementUses, elementUses, uses_revise value,
        elementUses_revise rest]

theorem allUses_revise : ∀ exprs : List Expr,
    host.allUses context (Expr.reviseAll revision exprs) = host.allUses context exprs
  | [] => rfl
  | expr :: rest => by
      rw [Expr.reviseAll, allUses, allUses, uses_revise expr, allUses_revise rest]

end

theorem checkExpression_revise (expr : Expr) :
    host.checkExpression context (expr.revise revision) = host.checkExpression context expr := by
  cases expr with
  | ident => rfl
  | _ => exact uses_revise host context revision _

/-! ### Conditions -/

theorem assignment?_revise : ∀ expr : Expr, assignment? (expr.revise revision) = assignment? expr
  | .assign _ _ _ _ => rfl
  | .paren _ inner => assignment?_revise inner
  | .binary _ left op right => by
      cases op with
      | and | or =>
          rw [Expr.revise, assignment?, assignment?, assignment?_revise left,
            assignment?_revise right]
      | _ => rfl
  | .literal _ _ | .ident _ _ | .implicitMember _ _ | .member _ _ _ | .call _ _ _ _
  | .subscript _ _ _ | .tuple _ _ | .array _ _ | .unary _ _ _ | .ternary _ _ _ _
  | .postfixed _ _ _ => rfl
  | .closure ⟨_, _, _⟩ => rfl

theorem checkCondition_revise (condition : Condition) :
    checkCondition (condition.revise revision) = checkCondition condition := by
  cases condition with
  | expression expr => exact congrArg Option.toList (assignment?_revise revision expr)
  | binding => rfl

/-! ### Cases -/

section Cases

variable {revision : Revision} (ofClosures : revision.OfClosures)
include ofClosures

theorem label_revise (switchCase : SwitchCase) :
    (switchCase.revise revision).label = switchCase.label := by
  obtain ⟨span, label, body⟩ := switchCase
  rw [SwitchCase.revise_of_closures ofClosures]

theorem checkExhaustive_revise (node : Switch) :
    host.checkExhaustive (node.revise revision) = host.checkExhaustive node := by
  obtain ⟨span, subject, cases⟩ := node
  have catchAll : (cases.map (·.revise revision)).any (·.label.isCatchAll) =
      cases.any (·.label.isCatchAll) := by
    rw [List.any_map]
    exact congrArg cases.any (funext fun switchCase => by
      rw [Function.comp_apply, label_revise ofClosures switchCase])
  have listed : patterns ((Switch.mk span subject cases).revise revision) =
      patterns ⟨span, subject, cases⟩ := by
    rw [Switch.revise, SwitchCase.reviseAll_eq_map, patterns, patterns, List.flatMap_map]
    exact congrArg (List.flatMap · cases)
      (funext fun switchCase => by rw [label_revise ofClosures switchCase])
  have diagnostic (missing : List EnumCase) :
      exhaustivenessDiagnostic ((Switch.mk span subject cases).revise revision) missing =
        exhaustivenessDiagnostic ⟨span, subject, cases⟩ missing := by
    rw [Switch.revise, exhaustivenessDiagnostic, exhaustivenessDiagnostic,
      subject.span_revise ofClosures]
  rw [Switch.revise, SwitchCase.reviseAll_eq_map] at listed diagnostic
  rw [Switch.revise, SwitchCase.reviseAll_eq_map, checkExhaustive, checkExhaustive, catchAll, listed]
  simp only [diagnostic]

end Cases

/-! ### Shapes -/

theorem callShape_revise (callee : Expr) :
    host.callShape (callee.revise revision) = host.callShape callee := by
  cases callee with
  | member _ base _ =>
      cases base with
      | closure node => cases node; rfl
      | _ => rfl
  | closure node => cases node; rfl
  | _ => rfl

mutual

theorem typeOf_revise : ∀ expr : Expr, host.typeOf (expr.revise revision) = host.typeOf expr
  | .literal _ _ | .ident _ _ | .implicitMember _ _ | .member _ _ _ | .subscript _ _ _
  | .assign _ _ _ _ | .postfixed _ _ _ | .array _ [] | .unary _ .not _ => rfl
  | .closure ⟨_, _, _⟩ => rfl
  | .paren _ inner | .unary _ .negate inner => typeOf_revise inner
  | .call _ callee _ _ => callShape_revise host revision callee
  | .array _ (first :: _) => by
      rw [Expr.revise, Expr.reviseAll, typeOf, typeOf, typeOf_revise first]
  | .tuple _ elements => by rw [Expr.revise, typeOf, typeOf, elementTypes_revise elements]
  | .binary _ left op right => by
      rw [Expr.revise, typeOf, typeOf, typeOf_revise left, typeOf_revise right]
  | .ternary _ _ thenValue elseValue => by
      rw [Expr.revise, typeOf, typeOf, typeOf_revise thenValue, typeOf_revise elseValue]

theorem elementTypes_revise : ∀ args : List Argument,
    host.elementTypes (Argument.reviseAll revision args) = host.elementTypes args
  | [] => rfl
  | ⟨_, _, value⟩ :: rest => by
      rw [Argument.reviseAll, Argument.revise, elementTypes, elementTypes, typeOf_revise value,
        elementTypes_revise rest]

end

/-- **A host overlooks closures.** -/
theorem overlooksClosures_collaborators : host.collaborators.OverlooksClosures where
  exhaustive ofClosures _ := host.checkExhaustive_revise ofClosures
  condition _ _ := checkCondition_revise _
  expression _ context := host.checkExpression_revise context _
  captures _ context := checkCaptures_revise context _
  typeOf _ _ := host.typeOf_revise _

end Host

end ResultBuilder
