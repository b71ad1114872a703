import ResultBuilder.Host
import ResultBuilder.Proofs.Syntax.Bare

/-!
# Answers and places

A host looks at what is written and not at where it is written: it answers the same about an
expression at another place, up to the places in its answers. What is done in the cases of a
`switch` plays no part in whether the cases are all there.

* **`Diagnostic.bare`**: a diagnostic without its places.
* **`Collaborators.OverlooksArms`**, **`Collaborators.OverlooksPlaces`**: collaborators who look
  neither at the bodies of cases nor at places.
* **`Host.overlooksArms_collaborators`**, **`Host.overlooksPlaces_collaborators`**: a host is such a
  collaborator.
-/

namespace ResultBuilder

open Syntax

/-! ### Diagnostics without places -/

/-- A label that points nowhere. -/
def Label.bare (label : Label) : Label :=
  { label with span := .point 0 }

/-- An edit made nowhere. -/
def Edit.bare (edit : Edit) : Edit :=
  { edit with span := .point 0 }

/-- A suggestion about nowhere. -/
def FixIt.bare (suggestion : FixIt) : FixIt :=
  { suggestion with span := .point 0, edits := suggestion.edits.map (·.bare) }

/-- A remark without places. -/
def Note.bare : Note → Note
  | .fixIt suggestion => .fixIt suggestion.bare
  | .hint text => .hint text
  | .basic text => .basic text

/-- **A diagnostic without its places.** -/
def Diagnostic.bare (diagnostic : Diagnostic) : Diagnostic :=
  { diagnostic with
    labels := diagnostic.labels.map (·.bare)
    notes := diagnostic.notes.map (·.bare) }

/-! ### Parts of a body at other places -/

namespace Syntax

/-- The same expression at another place. -/
def Expr.relocate (place : Span) : Expr → Expr
  | .literal _ value => .literal place value
  | .ident _ name => .ident place name
  | .implicitMember _ name => .implicitMember place name
  | .member _ base name => .member place base name
  | .call _ callee args trailing => .call place callee args trailing
  | .subscript _ base args => .subscript place base args
  | .tuple _ elements => .tuple place elements
  | .paren _ inner => .paren place inner
  | .array _ elements => .array place elements
  | .closure node => .closure { node with span := place }
  | .unary _ op operand => .unary place op operand
  | .binary _ left op right => .binary place left op right
  | .ternary _ test thenValue elseValue => .ternary place test thenValue elseValue
  | .assign _ target sign value => .assign place target sign value
  | .postfixed _ operand op => .postfixed place operand op

@[simp] theorem Expr.span_relocate (place : Span) (expr : Expr) :
    (expr.relocate place).span = place := by
  cases expr <;> rfl

variable (move : Span → Span)

/-- **An expression that is moved.** Of its parts it is not known any more where they stand. -/
def Expr.moved (expr : Expr) : Expr :=
  (expr.rebuild .plain).relocate (move expr.span)

theorem Expr.span_moved (expr : Expr) : (expr.moved move).span = move expr.span :=
  Expr.span_relocate _ _

/-- A condition that is moved. -/
def Condition.moved : Condition → Condition
  | .expression node => .expression (node.moved move)
  | .binding span isMutable bound value =>
      .binding (move span) isMutable bound.bare (value.moved move)

/-- A `switch` that is moved with its labels. The bodies of its cases stay. -/
def Switch.moved (node : Switch) : Switch where
  span := move node.span
  subject := node.subject.moved move
  cases := node.cases.map fun switchCase =>
    { switchCase with span := move switchCase.span, label := switchCase.label.bare }

/-- A `switch` with other bodies of its cases. -/
def Switch.withBodies (node : Switch) (bodies : Block → Block) : Switch :=
  { node with cases := node.cases.map fun switchCase =>
      { switchCase with body := bodies switchCase.body } }

end Syntax

/-! ### Collaborators -/

/-- **Collaborators who judge a `switch` by its labels** and its subject, whatever is done in its
cases. -/
def Collaborators.OverlooksArms (services : Collaborators) : Prop :=
  ∀ (context : BodyContext) (node : Switch) (bodies : Block → Block),
    services.checkExhaustive context (node.withBodies bodies) =
      services.checkExhaustive context node

/-- **Collaborators who overlook places**: wherever something stands, they answer the same about it,
as far as a view of their answers goes. What is done in the cases of a `switch` does not matter
either. -/
structure Collaborators.OverlooksPlaces (services : Collaborators)
    (view : Diagnostic → Diagnostic) : Prop where
  exhaustive (context : BodyContext) (node : Switch) (move : Span → Span)
    (bodies : Block → Block) :
    (services.checkExhaustive context ((node.moved move).withBodies bodies)).map view =
      (services.checkExhaustive context node).map view
  condition (context : BodyContext) (node : Condition) (move : Span → Span) :
    (services.checkCondition context (node.moved move)).map view =
      (services.checkCondition context node).map view
  expression (context : BodyContext) (node : Expr) (move : Span → Span) :
    (services.checkExpression context (node.moved move)).map view =
      (services.checkExpression context node).map view
  captures (context : BodyContext) (node : Expr) (move : Span → Span) :
    (services.checkCaptures context (node.moved move)).map view =
      (services.checkCaptures context node).map view
  typeOf (context : BodyContext) (node : Expr) (move : Span → Span) :
    services.typeOf context (node.moved move) = services.typeOf context node

namespace Host

variable (host : Host) (context : BodyContext)

/-! ### Captures -/

section Captures

variable (members : List String)

mutual

theorem captures_bare : ∀ expr : Expr,
    (captures members context (expr.rebuild .plain)).map (·.bare) =
      (captures members context expr).map (·.bare)
  | .ident _ name => by
      rw [Expr.rebuild, captures, captures]
      split <;> rfl
  | .literal _ _ | .implicitMember _ _ => rfl
  | .closure ⟨_, _, _⟩ => rfl
  | .member _ base _ => captures_bare base
  | .paren _ inner | .unary _ _ inner | .postfixed _ inner _ => captures_bare inner
  | .tuple _ elements => argumentCaptures_bare elements
  | .array _ elements => allCaptures_bare elements
  | .call _ callee args _ | .subscript _ callee args => by
      simp only [Expr.rebuild, CallForm.plain, captures, List.map_append, captures_bare callee,
        argumentCaptures_bare args]
  | .binary _ left _ right | .assign _ left _ right => by
      simp only [Expr.rebuild, captures, List.map_append, captures_bare left, captures_bare right]
  | .ternary _ test thenValue elseValue => by
      simp only [Expr.rebuild, captures, List.map_append, captures_bare test,
        captures_bare thenValue, captures_bare elseValue]

theorem argumentCaptures_bare : ∀ args : List Argument,
    (argumentCaptures members context (Argument.rebuilds .plain args)).map (·.bare) =
      (argumentCaptures members context args).map (·.bare)
  | [] => rfl
  | ⟨_, _, value⟩ :: rest => by
      simp only [Argument.rebuilds, Argument.rebuild, argumentCaptures, List.map_append,
        captures_bare value, argumentCaptures_bare rest]

theorem allCaptures_bare : ∀ exprs : List Expr,
    (allCaptures members context (Expr.rebuilds .plain exprs)).map (·.bare) =
      (allCaptures members context exprs).map (·.bare)
  | [] => rfl
  | expr :: rest => by
      simp only [Expr.rebuilds, allCaptures, List.map_append, captures_bare expr,
        allCaptures_bare rest]

end

theorem captures_relocate (place : Span) (expr : Expr) :
    (captures members context (expr.relocate place)).map (·.bare) =
      (captures members context expr).map (·.bare) := by
  cases expr with
  | ident _ name =>
      rw [Expr.relocate, captures, captures]
      split <;> rfl
  | _ => rfl

theorem checkCaptures_moved (move : Span → Span) (expr : Expr) :
    (checkCaptures context (expr.moved move)).map (·.bare) =
      (checkCaptures context expr).map (·.bare) := by
  unfold checkCaptures
  cases context.implicitSelf with
  | none => rfl
  | some object =>
      dsimp only
      split
      · exact (captures_relocate context _ _ _).trans (captures_bare context _ expr)
      · rfl

end Captures

/-! ### Uses -/

theorem unresolvedGenerics_bare (name : String) (place other : Span) :
    (host.unresolvedGenerics name other).map (·.bare) =
      (host.unresolvedGenerics name place).map (·.bare) := by
  unfold unresolvedGenerics
  cases host.type? name with
  | none => rfl
  | some decl =>
      dsimp only
      rw [List.map_map, List.map_map]
      rfl

theorem emptyConstruction_bare (place other : Span) (callee : Expr) :
    (host.emptyConstruction other (callee.rebuild .plain)).map (·.bare) =
      (host.emptyConstruction place callee).map (·.bare) := by
  cases callee with
  | ident span name =>
      simp only [Expr.rebuild, emptyConstruction]
      cases host.type? name with
      | none => rfl
      | some decl =>
          dsimp only
          split
          · rfl
          · rw [List.map_append, List.map_append, host.unresolvedGenerics_bare name span,
              List.map_map, List.map_map]
            rfl
  | _ => rfl

theorem typeAsValue_bare (value : Expr) :
    (host.typeAsValue context (value.rebuild .plain)).map (·.bare) =
      (host.typeAsValue context value).map (·.bare) := by
  cases value with
  | ident _ name =>
      simp only [Expr.rebuild, typeAsValue]
      split <;> rfl
  | _ => rfl

/-- A call without arguments is looked at as a construction, wherever it is. -/
theorem construction_bare (place other : Span) (callee : Expr) (args : List Argument)
    (trailing : Option Closure) :
    (if (args.map (·.rebuild .plain)).isEmpty && (trailing.map (·.rebuild .plain)).isNone then
        host.emptyConstruction other (callee.rebuild .plain)
      else []).map Diagnostic.bare =
      (if args.isEmpty && trailing.isNone then host.emptyConstruction place callee else []).map
        Diagnostic.bare := by
  rw [List.isEmpty_map, Option.isNone_map]
  split
  · exact host.emptyConstruction_bare place other callee
  · rfl

mutual

theorem uses_bare : ∀ expr : Expr,
    (host.uses context (expr.rebuild .plain)).map (·.bare) =
      (host.uses context expr).map (·.bare)
  | .ident _ _ | .literal _ _ | .implicitMember _ _ => rfl
  | .closure ⟨_, _, _⟩ => rfl
  | .member _ base _ => uses_bare base
  | .paren _ inner | .unary _ _ inner | .postfixed _ inner _ => uses_bare inner
  | .tuple _ elements => elementUses_bare elements
  | .array _ elements => allUses_bare elements
  | .call span callee args trailing => by
      have construction := host.construction_bare span (.point 0) callee args trailing
      rw [← Argument.rebuilds_eq_map, ← Closure.rebuildOption_eq_map] at construction
      show (host.uses context (.call (.point 0) _ _ _)).map (·.bare) = _
      rw [uses, uses, List.map_append, List.map_append, List.map_append, List.map_append,
        construction, uses_bare callee, argumentUses_bare args]
  | .subscript _ base args => by
      rw [Expr.rebuild, uses, uses, List.map_append, List.map_append, uses_bare base,
        elementUses_bare args]
  | .binary _ left _ right | .assign _ left _ right => by
      rw [Expr.rebuild, uses, uses, List.map_append, List.map_append, uses_bare left,
        uses_bare right]
  | .ternary _ test thenValue elseValue => by
      simp only [Expr.rebuild, uses, List.map_append, uses_bare test, uses_bare thenValue,
        uses_bare elseValue]

theorem argumentUses_bare : ∀ args : List Argument,
    (host.argumentUses context (Argument.rebuilds .plain args)).map (·.bare) =
      (host.argumentUses context args).map (·.bare)
  | [] => rfl
  | ⟨_, _, value⟩ :: rest => by
      simp only [Argument.rebuilds, Argument.rebuild, argumentUses, List.map_append,
        typeAsValue_bare, uses_bare value, argumentUses_bare rest]

theorem elementUses_bare : ∀ args : List Argument,
    (host.elementUses context (Argument.rebuilds .plain args)).map (·.bare) =
      (host.elementUses context args).map (·.bare)
  | [] => rfl
  | ⟨_, _, value⟩ :: rest => by
      simp only [Argument.rebuilds, Argument.rebuild, elementUses, List.map_append,
        uses_bare value, elementUses_bare rest]

theorem allUses_bare : ∀ exprs : List Expr,
    (host.allUses context (Expr.rebuilds .plain exprs)).map (·.bare) =
      (host.allUses context exprs).map (·.bare)
  | [] => rfl
  | expr :: rest => by
      simp only [Expr.rebuilds, allUses, List.map_append, uses_bare expr, allUses_bare rest]

end

/-- Where a call stands plays no part in what is wrong with its construction. -/
theorem emptyConstruction_place (place other : Span) (callee : Expr) :
    (host.emptyConstruction other callee).map (·.bare) =
      (host.emptyConstruction place callee).map (·.bare) :=
  (host.emptyConstruction_bare other other callee).symm.trans
    (host.emptyConstruction_bare place other callee)

theorem uses_relocate (place : Span) (expr : Expr) :
    (host.uses context (expr.relocate place)).map (·.bare) =
      (host.uses context expr).map (·.bare) := by
  cases expr with
  | call span callee args trailing =>
      have construction : (if args.isEmpty && trailing.isNone then
          host.emptyConstruction place callee else []).map Diagnostic.bare =
          (if args.isEmpty && trailing.isNone then
            host.emptyConstruction span callee else []).map Diagnostic.bare := by
        split
        · exact host.emptyConstruction_place span place callee
        · rfl
      rw [Expr.relocate, uses, uses, List.map_append, List.map_append, List.map_append,
        List.map_append, construction]
  | _ => rfl

theorem checkExpression_moved (move : Span → Span) (expr : Expr) :
    (host.checkExpression context (expr.moved move)).map (·.bare) =
      (host.checkExpression context expr).map (·.bare) := by
  have uses : (host.uses context (expr.moved move)).map (·.bare) =
      (host.uses context expr).map (·.bare) :=
    (host.uses_relocate context _ _).trans (host.uses_bare context expr)
  cases expr with
  | ident span name => exact host.unresolvedGenerics_bare name span (move span)
  | _ => exact uses

/-! ### Conditions -/

theorem assignment?_bare : ∀ expr : Expr,
    (assignment? (expr.rebuild .plain)).map (·.bare) = (assignment? expr).map (·.bare)
  | .assign _ _ _ _ => rfl
  | .paren _ inner => assignment?_bare inner
  | .binary _ left op right => by
      have ofLeft := assignment?_bare left
      have ofRight := assignment?_bare right
      cases op with
      | and | or =>
          simp only [Expr.rebuild, assignment?, Option.orElse_eq_orElse, Option.orElse_eq_or,
            Option.map_or, ofLeft, ofRight]
      | _ => rfl
  | .literal _ _ | .ident _ _ | .implicitMember _ _ | .member _ _ _ | .call _ _ _ _
  | .subscript _ _ _ | .tuple _ _ | .array _ _ | .unary _ _ _ | .ternary _ _ _ _
  | .postfixed _ _ _ => rfl
  | .closure ⟨_, _, _⟩ => rfl

theorem assignment?_relocate (place : Span) (expr : Expr) :
    assignment? (expr.relocate place) = assignment? expr := by
  cases expr with
  | binary _ _ op _ => cases op <;> rfl
  | _ => rfl

theorem checkCondition_moved (move : Span → Span) (condition : Condition) :
    (checkCondition (condition.moved move)).map (·.bare) =
      (checkCondition condition).map (·.bare) := by
  cases condition with
  | binding => rfl
  | expression expr =>
      rw [Condition.moved, checkCondition, checkCondition, Expr.moved, assignment?_relocate,
        ← Option.toList_map, ← Option.toList_map, assignment?_bare]

/-! ### Cases -/

/-- The bodies of cases play no part. -/
theorem checkExhaustive_withBodies (node : Switch) (bodies : Block → Block) :
    host.checkExhaustive (node.withBodies bodies) = host.checkExhaustive node := by
  have catchAll : (node.withBodies bodies).cases.any (·.label.isCatchAll) =
      node.cases.any (·.label.isCatchAll) :=
    List.any_map
  have listed : patterns (node.withBodies bodies) = patterns node := by
    rw [patterns, patterns, Switch.withBodies, List.flatMap_map]
  rw [checkExhaustive, checkExhaustive, catchAll, listed]
  rfl

theorem isCatchAll_bare (label : CaseLabel) : label.bare.isCatchAll = label.isCatchAll := by
  cases label with
  | default => rfl
  | patterns listed => exact List.any_map

theorem patterns_moved (move : Span → Span) (node : Switch) :
    patterns (node.moved move) = (patterns node).map (·.bare) := by
  rw [patterns, patterns, Switch.moved, List.flatMap_map, List.map_flatMap]
  exact congrArg (List.flatMap · node.cases) (funext fun switchCase => by
    cases switchCase.label <;> rfl)

theorem missingCases_bare (decl : EnumDecl) (listed : List Pattern) :
    missingCases decl (listed.map (·.bare)) = missingCases decl listed := by
  unfold missingCases
  simp only [List.any_map]
  rfl

theorem exhaustivenessDiagnostic_bare (node other : Switch) (missing : List EnumCase) :
    (exhaustivenessDiagnostic other missing).bare =
      (exhaustivenessDiagnostic node missing).bare := by
  simp only [exhaustivenessDiagnostic, Diagnostic.bare, List.map_map]
  rfl

theorem checkExhaustive_moved (move : Span → Span) (node : Switch) :
    (host.checkExhaustive (node.moved move)).map (·.bare) =
      (host.checkExhaustive node).map (·.bare) := by
  have catchAll : (node.moved move).cases.any (·.label.isCatchAll) =
      node.cases.any (·.label.isCatchAll) := by
    rw [Switch.moved, List.any_map]
    exact congrArg node.cases.any (funext fun switchCase => isCatchAll_bare switchCase.label)
  have named : ((patterns node).map (·.bare)).filterMap (·.caseName) =
      (patterns node).filterMap (·.caseName) :=
    List.filterMap_map
  rw [checkExhaustive, checkExhaustive, catchAll, patterns_moved]
  dsimp only
  rw [named]
  split
  · rfl
  · cases host.subjectEnum? ((patterns node).filterMap (·.caseName)) with
    | none => rfl
    | some decl =>
        dsimp only
        rw [missingCases_bare]
        cases missingCases decl (patterns node) with
        | nil => rfl
        | cons first rest =>
            exact congrArg ([·]) (exhaustivenessDiagnostic_bare node (node.moved move) _)

/-! ### Shapes -/

theorem callShape_bare (callee : Expr) :
    host.callShape (callee.rebuild .plain) = host.callShape callee := by
  cases callee with
  | member _ base _ =>
      cases base with
      | closure node => cases node; rfl
      | _ => rfl
  | closure node => cases node; rfl
  | _ => rfl

mutual

theorem typeOf_bare : ∀ expr : Expr, host.typeOf (expr.rebuild .plain) = host.typeOf expr
  | .literal _ _ | .ident _ _ | .implicitMember _ _ | .member _ _ _ | .subscript _ _ _
  | .assign _ _ _ _ | .postfixed _ _ _ | .array _ [] | .unary _ .not _ => rfl
  | .closure ⟨_, _, _⟩ => rfl
  | .paren _ inner | .unary _ .negate inner => typeOf_bare inner
  | .call _ callee _ _ => callShape_bare host callee
  | .array _ (first :: _) => by
      rw [Expr.rebuild, Expr.rebuilds, typeOf, typeOf, typeOf_bare first]
  | .tuple _ elements => by rw [Expr.rebuild, typeOf, typeOf, elementTypes_bare elements]
  | .binary _ left op right => by
      rw [Expr.rebuild, typeOf, typeOf, typeOf_bare left, typeOf_bare right]
  | .ternary _ _ thenValue elseValue => by
      rw [Expr.rebuild, typeOf, typeOf, typeOf_bare thenValue, typeOf_bare elseValue]

theorem elementTypes_bare : ∀ args : List Argument,
    host.elementTypes (Argument.rebuilds .plain args) = host.elementTypes args
  | [] => rfl
  | ⟨_, _, value⟩ :: rest => by
      rw [Argument.rebuilds, Argument.rebuild, elementTypes, elementTypes, typeOf_bare value,
        elementTypes_bare rest]

end

theorem typeOf_moved (move : Span → Span) (expr : Expr) :
    host.typeOf (expr.moved move) = host.typeOf expr := by
  have relocated (place : Span) (moved : Expr) :
      host.typeOf (moved.relocate place) = host.typeOf moved := by
    cases moved with
    | array _ elements => cases elements <;> rfl
    | unary _ op _ => cases op <;> rfl
    | _ => rfl
  rw [Expr.moved, relocated, typeOf_bare]

/-! ### A host -/

/-- **A host judges a `switch` by its labels.** -/
theorem overlooksArms_collaborators : host.collaborators.OverlooksArms :=
  fun _ => host.checkExhaustive_withBodies

/-- **A host overlooks places**, up to those in its answers. -/
theorem overlooksPlaces_collaborators : host.collaborators.OverlooksPlaces Diagnostic.bare where
  exhaustive _ node move bodies := by
    show (host.checkExhaustive _).map _ = (host.checkExhaustive node).map _
    rw [checkExhaustive_withBodies, checkExhaustive_moved]
  condition _ node move := checkCondition_moved move node
  expression context node move := host.checkExpression_moved context move node
  captures context node move := checkCaptures_moved context move node
  typeOf _ node move := host.typeOf_moved move node

end Host

end ResultBuilder
