import ResultBuilder.Proofs.Syntax.Nodes
import ResultBuilder.Proofs.Syntax.Printing.Type

/-!
# Trees without their places

Two trees are the same apart from where they are written when they are equal without their places.
Calls are made up anew when a tree is rebuilt: as they are, or as their text is read, where a call
without arguments whose callee is a call, and which has a closure, is the callee with the closure.

* **`Statement.bare`**: a statement without its places.
* **`CallForm.merged`**: calls as their text is read.
-/

namespace ResultBuilder.Syntax

/-! ### Parts without expressions -/

/-- A name written nowhere. -/
def Name.bare (name : Name) : Name :=
  { name with span := .point 0 }

/-- A pattern written nowhere. -/
def Pattern.bare (pattern : Pattern) : Pattern :=
  { pattern with span := .point 0 }

/-- What stands before the colon of a switch case, written nowhere. -/
def CaseLabel.bare : CaseLabel → CaseLabel
  | .patterns listed => .patterns (listed.map (·.bare))
  | .default => .default

/-- The form of a loop, written nowhere. -/
def LoopForm.bare : LoopForm → LoopForm
  | .forIn pattern => .forIn pattern.bare
  | .whileDo => .whileDo
  | .repeatWhile => .repeatWhile

/-- A directive written nowhere. -/
def Directive.bare (directive : Directive) : Directive :=
  { directive with span := .point 0, messageSpan := .point 0 }

/-- An attribute written nowhere. -/
def Attribute.bare (mark : Attribute) : Attribute :=
  { mark with span := .point 0 }

/-- A generic parameter written nowhere. -/
def GenericParam.bare (param : GenericParam) : GenericParam :=
  ⟨.point 0, param.name.bare, param.bound.map (·.bare)⟩

/-- A parameter written nowhere. -/
def Param.bare (param : Param) : Param :=
  ⟨.point 0, param.attributes.map (·.bare), param.label.map (·.bare), param.name.bare,
    param.type.bare, param.isVariadic⟩

/-- A case of an enum, written nowhere. -/
def EnumCase.bare (enumCase : EnumCase) : EnumCase :=
  ⟨.point 0, enumCase.name.bare, enumCase.payload.map (·.bare)⟩

/-- An enum written nowhere. -/
def EnumDecl.bare (decl : EnumDecl) : EnumDecl :=
  ⟨.point 0, decl.name.bare, decl.cases.map (·.bare)⟩

/-! ### Expressions, statements and declarations -/

/-- A way to make up a call. -/
abbrev CallForm := Expr → List Argument → Option Closure → Expr

mutual

/-- An expression written nowhere, with a way to make up calls. -/
def Expr.rebuild (form : CallForm) : Expr → Expr
  | .literal _ value => .literal (.point 0) value
  | .ident _ name => .ident (.point 0) name
  | .implicitMember _ name => .implicitMember (.point 0) name.bare
  | .member _ base name => .member (.point 0) (base.rebuild form) name.bare
  | .call _ callee args trailing =>
      form (callee.rebuild form) (Argument.rebuilds form args) (Closure.rebuildOption form trailing)
  | .subscript _ base args => .subscript (.point 0) (base.rebuild form) (Argument.rebuilds form args)
  | .tuple _ elements => .tuple (.point 0) (Argument.rebuilds form elements)
  | .paren _ inner => .paren (.point 0) (inner.rebuild form)
  | .array _ elements => .array (.point 0) (Expr.rebuilds form elements)
  | .closure node => .closure (node.rebuild form)
  | .unary _ op operand => .unary (.point 0) op (operand.rebuild form)
  | .binary _ left op right => .binary (.point 0) (left.rebuild form) op (right.rebuild form)
  | .ternary _ test thenValue elseValue =>
      .ternary (.point 0) (test.rebuild form) (thenValue.rebuild form) (elseValue.rebuild form)
  | .assign _ target _ value =>
      .assign (.point 0) (target.rebuild form) (.point 0) (value.rebuild form)
  | .postfixed _ operand op => .postfixed (.point 0) (operand.rebuild form) op

/-- Expressions written nowhere. -/
def Expr.rebuilds (form : CallForm) : List Expr → List Expr
  | [] => []
  | expr :: rest => expr.rebuild form :: Expr.rebuilds form rest

/-- An expression that may be missing, written nowhere. -/
def Expr.rebuildOption (form : CallForm) : Option Expr → Option Expr
  | none => none
  | some expr => some (expr.rebuild form)

/-- An argument written nowhere. -/
def Argument.rebuild (form : CallForm) : Argument → Argument
  | ⟨_, label, value⟩ => ⟨.point 0, label.map (·.bare), value.rebuild form⟩

/-- Arguments written nowhere. -/
def Argument.rebuilds (form : CallForm) : List Argument → List Argument
  | [] => []
  | argument :: rest => argument.rebuild form :: Argument.rebuilds form rest

/-- A closure written nowhere. -/
def Closure.rebuild (form : CallForm) : Closure → Closure
  | ⟨_, params, body⟩ => ⟨.point 0, params.map (·.bare), body.rebuild form⟩

/-- A closure that may be missing, written nowhere. -/
def Closure.rebuildOption (form : CallForm) : Option Closure → Option Closure
  | none => none
  | some closure => some (closure.rebuild form)

/-- A block written nowhere. -/
def Block.rebuild (form : CallForm) : Block → Block
  | ⟨_, statements⟩ => ⟨.point 0, Statement.rebuilds form statements⟩

/-- A block that may be missing, written nowhere. -/
def Block.rebuildOption (form : CallForm) : Option Block → Option Block
  | none => none
  | some block => some (block.rebuild form)

/-- A statement written nowhere. -/
def Statement.rebuild (form : CallForm) : Statement → Statement
  | .expression node => .expression (node.rebuild form)
  | .conditional node => .conditional (node.rebuild form)
  | .switch node => .switch (node.rebuild form)
  | .doBlock _ body => .doBlock (.point 0) (body.rebuild form)
  | .loop node => .loop (node.rebuild form)
  | .returning _ _ value => .returning (.point 0) (.point 0) (Expr.rebuildOption form value)
  | .fallthrough _ => .fallthrough (.point 0)
  | .jump _ kind => .jump (.point 0) kind
  | .directive node => .directive node.bare
  | .declaration node => .declaration (node.rebuild form)

/-- Statements written nowhere. -/
def Statement.rebuilds (form : CallForm) : List Statement → List Statement
  | [] => []
  | statement :: rest => statement.rebuild form :: Statement.rebuilds form rest

/-- An `if` statement written nowhere. -/
def Conditional.rebuild (form : CallForm) : Conditional → Conditional
  | ⟨_, conditions, thenBlock, otherwise⟩ =>
      ⟨.point 0, Condition.rebuilds form conditions, thenBlock.rebuild form,
        Alternative.rebuildOption form otherwise⟩

/-- A condition written nowhere. -/
def Condition.rebuild (form : CallForm) : Condition → Condition
  | .expression node => .expression (node.rebuild form)
  | .binding _ isMutable bound value =>
      .binding (.point 0) isMutable bound.bare (value.rebuild form)

/-- Conditions written nowhere. -/
def Condition.rebuilds (form : CallForm) : List Condition → List Condition
  | [] => []
  | condition :: rest => condition.rebuild form :: Condition.rebuilds form rest

/-- What is done otherwise, written nowhere. -/
def Alternative.rebuild (form : CallForm) : Alternative → Alternative
  | .block node => .block (node.rebuild form)
  | .chained node => .chained (node.rebuild form)

/-- What may be done otherwise, written nowhere. -/
def Alternative.rebuildOption (form : CallForm) : Option Alternative → Option Alternative
  | none => none
  | some otherwise => some (otherwise.rebuild form)

/-- A `switch` statement written nowhere. -/
def Switch.rebuild (form : CallForm) : Switch → Switch
  | ⟨_, subject, cases⟩ => ⟨.point 0, subject.rebuild form, SwitchCase.rebuilds form cases⟩

/-- A switch case written nowhere. -/
def SwitchCase.rebuild (form : CallForm) : SwitchCase → SwitchCase
  | ⟨_, label, body⟩ => ⟨.point 0, label.bare, body.rebuild form⟩

/-- Switch cases written nowhere. -/
def SwitchCase.rebuilds (form : CallForm) : List SwitchCase → List SwitchCase
  | [] => []
  | switchCase :: rest => switchCase.rebuild form :: SwitchCase.rebuilds form rest

/-- A loop written nowhere. -/
def Loop.rebuild (form : CallForm) : Loop → Loop
  | ⟨_, kind, header, body⟩ => ⟨.point 0, kind.bare, header.rebuild form, body.rebuild form⟩

/-- A declaration written nowhere. -/
def Declaration.rebuild (form : CallForm) : Declaration → Declaration
  | .variable node => .variable (node.rebuild form)
  | .function node => .function (node.rebuild form)
  | .type node => .type (node.rebuild form)
  | .enum node => .enum node.bare

/-- Declarations written nowhere. -/
def Declaration.rebuilds (form : CallForm) : List Declaration → List Declaration
  | [] => []
  | declaration :: rest => declaration.rebuild form :: Declaration.rebuilds form rest

/-- A variable written nowhere. -/
def VariableDecl.rebuild (form : CallForm) : VariableDecl → VariableDecl
  | ⟨_, attributes, isMutable, name, type, value, body⟩ =>
      ⟨.point 0, attributes.map (·.bare), isMutable, name.bare, type.map (·.bare),
        Expr.rebuildOption form value, Block.rebuildOption form body⟩

/-- A function written nowhere. -/
def FunctionDecl.rebuild (form : CallForm) : FunctionDecl → FunctionDecl
  | ⟨_, attributes, isStatic, name, generics, params, result, body⟩ =>
      ⟨.point 0, attributes.map (·.bare), isStatic, name.bare, generics.map (·.bare),
        params.map (·.bare), result.map (·.bare), Block.rebuildOption form body⟩

/-- A struct or class written nowhere. -/
def TypeDecl.rebuild (form : CallForm) : TypeDecl → TypeDecl
  | ⟨_, attributes, kind, name, generics, members⟩ =>
      ⟨.point 0, attributes.map (·.bare), kind, name.bare, generics.map (·.bare),
        Declaration.rebuilds form members⟩

end

section Lists

variable (form : CallForm)

@[simp] theorem Expr.rebuilds_eq_map (exprs : List Expr) :
    Expr.rebuilds form exprs = exprs.map (·.rebuild form) := by
  induction exprs with
  | nil => rfl
  | cons expr rest ih => rw [Expr.rebuilds, ih, List.map_cons]

@[simp] theorem Expr.rebuildOption_eq_map (expr? : Option Expr) :
    Expr.rebuildOption form expr? = expr?.map (·.rebuild form) := by
  cases expr? <;> rfl

@[simp] theorem Argument.rebuilds_eq_map (args : List Argument) :
    Argument.rebuilds form args = args.map (·.rebuild form) := by
  induction args with
  | nil => rfl
  | cons argument rest ih => rw [Argument.rebuilds, ih, List.map_cons]

@[simp] theorem Closure.rebuildOption_eq_map (closure? : Option Closure) :
    Closure.rebuildOption form closure? = closure?.map (·.rebuild form) := by
  cases closure? <;> rfl

@[simp] theorem Block.rebuildOption_eq_map (block? : Option Block) :
    Block.rebuildOption form block? = block?.map (·.rebuild form) := by
  cases block? <;> rfl

@[simp] theorem Statement.rebuilds_eq_map (statements : List Statement) :
    Statement.rebuilds form statements = statements.map (·.rebuild form) := by
  induction statements with
  | nil => rfl
  | cons statement rest ih => rw [Statement.rebuilds, ih, List.map_cons]

@[simp] theorem Condition.rebuilds_eq_map (conditions : List Condition) :
    Condition.rebuilds form conditions = conditions.map (·.rebuild form) := by
  induction conditions with
  | nil => rfl
  | cons condition rest ih => rw [Condition.rebuilds, ih, List.map_cons]

@[simp] theorem Alternative.rebuildOption_eq_map (otherwise? : Option Alternative) :
    Alternative.rebuildOption form otherwise? = otherwise?.map (·.rebuild form) := by
  cases otherwise? <;> rfl

@[simp] theorem SwitchCase.rebuilds_eq_map (cases : List SwitchCase) :
    SwitchCase.rebuilds form cases = cases.map (·.rebuild form) := by
  induction cases with
  | nil => rfl
  | cons switchCase rest ih => rw [SwitchCase.rebuilds, ih, List.map_cons]

@[simp] theorem Declaration.rebuilds_eq_map (declarations : List Declaration) :
    Declaration.rebuilds form declarations = declarations.map (·.rebuild form) := by
  induction declarations with
  | nil => rfl
  | cons declaration rest ih => rw [Declaration.rebuilds, ih, List.map_cons]

end Lists

/-! ### Ways to make up calls -/

/-- Whether an expression is a call without a closure, which would take a closure after it. -/
def Expr.takesClosure : Expr → Bool
  | .call _ _ _ none => true
  | _ => false

namespace CallForm

/-- A call as it is. -/
def plain : CallForm :=
  fun callee args trailing => .call (.point 0) callee args trailing

/-- **A call as its text is read**: a closure directly after a call belongs to that call. -/
def merged : CallForm
  | .call _ callee args none, [], some trailing => .call (.point 0) callee args (some trailing)
  | callee, args, trailing => .call (.point 0) callee args trailing

theorem merged_of_not_takesClosure {callee : Expr} {args : List Argument}
    {trailing : Option Closure}
    (apart : args = [] → trailing.isSome = true → callee.takesClosure = false) :
    merged callee args trailing = .call (.point 0) callee args trailing := by
  unfold merged
  split
  · exact absurd (apart rfl rfl) Bool.true_eq_false.mp
  · rfl

end CallForm

/-- Whether a call takes a closure after it does not depend on how calls are made up. -/
theorem Expr.takesClosure_rebuild_merged (expr : Expr) :
    (expr.rebuild .merged).takesClosure = expr.takesClosure := by
  cases expr with
  | call span callee args trailing =>
      rw [rebuild, CallForm.merged.eq_def]
      cases trailing with
      | none =>
          split
          · next same => cases same
          · rfl
      | some closure => split <;> rfl
  | _ => rfl

/-- **A statement without its places.** -/
def Statement.bare (statement : Statement) : Statement :=
  statement.rebuild .plain

/-! ### Trees whose text is read as they are -/

/-- How many calls are called one after the other. -/
def Expr.callDepth : Expr → Nat
  | .call _ callee _ _ => callee.callDepth + 1
  | _ => 0

/-- Reading a text merges calls and never makes more of them. -/
theorem Expr.callDepth_rebuild_merged (expr : Expr) :
    (expr.rebuild .merged).callDepth ≤ expr.callDepth := by
  induction size : sizeOf expr using Nat.strongRecOn generalizing expr with
  | ind _ ih =>
      cases expr with
      | call span callee args trailing =>
          have below := ih _ (by rw [← size]; (simp; omega)) callee rfl
          rw [rebuild, CallForm.merged.eq_def]
          split
          · next same _ _ =>
              rw [same] at below
              simp only [callDepth] at below ⊢
              omega
          · exact Nat.succ_le_succ below
      | _ => exact Nat.zero_le _

theorem Expr.callDepth_rebuild_plain (expr : Expr) :
    (expr.rebuild .plain).callDepth = expr.callDepth := by
  induction size : sizeOf expr using Nat.strongRecOn generalizing expr with
  | ind _ ih =>
      cases expr with
      | call span callee args trailing =>
          exact congrArg Nat.succ (ih _ (by rw [← size]; (simp; omega)) callee rfl)
      | _ => rfl

/-- **Calls apart**: no call that has nothing but a closure is a call of a call that has none. -/
def Node.CallsApart : Node → Prop
  | .expression (.call _ (.call _ _ _ none) [] (some _)) => False
  | _ => True

theorem Node.callsApart_call {span : Span} {callee : Expr} {args : List Argument}
    {trailing : Option Closure} :
    Node.CallsApart (.expression (.call span callee args trailing)) ↔
      (args = [] → trailing.isSome = true → callee.takesClosure = false) := by
  unfold CallsApart Expr.takesClosure
  split
  · next same =>
      cases same
      simp
  · next other =>
      refine iff_of_true trivial fun noArgs isSome => ?_
      split
      · obtain ⟨closure, rfl⟩ := Option.isSome_iff_exists.mp isSome
        exact absurd (by rw [noArgs]) (other _ _ _ _ _)
      · rfl

end ResultBuilder.Syntax
