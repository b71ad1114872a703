import ResultBuilder.Syntax.Tree

/-!
# Revising trees

A revision says what is made of every closure and of every case of a `switch` in a tree; all else
stays as it is, its places included. The parts of a closure or a case are revised before it is.

* **`Revision`**, **`Expr.revise`** and its companions: a revision of each kind of tree.
* **`Revision.OfClosures`**: a revision after which all trees stand where they stood.
-/

namespace ResultBuilder.Syntax

/-- **A revision** of trees. -/
structure Revision where
  /-- What is made of a closure whose parts are revised. -/
  closure : Closure → Closure := id
  /-- What is made of a case whose parts are revised. -/
  switchCase : SwitchCase → SwitchCase := id

/-! ### Trees -/

mutual

/-- A revised expression. -/
def Expr.revise (revision : Revision) : Expr → Expr
  | .literal span value => .literal span value
  | .ident span name => .ident span name
  | .implicitMember span name => .implicitMember span name
  | .member span base name => .member span (base.revise revision) name
  | .call span callee args trailing =>
      .call span (callee.revise revision) (Argument.reviseAll revision args)
        (Closure.reviseOption revision trailing)
  | .subscript span base args =>
      .subscript span (base.revise revision) (Argument.reviseAll revision args)
  | .tuple span elements => .tuple span (Argument.reviseAll revision elements)
  | .paren span inner => .paren span (inner.revise revision)
  | .array span elements => .array span (Expr.reviseAll revision elements)
  | .closure node => .closure (node.revise revision)
  | .unary span op operand => .unary span op (operand.revise revision)
  | .binary span left op right => .binary span (left.revise revision) op (right.revise revision)
  | .ternary span test thenValue elseValue =>
      .ternary span (test.revise revision) (thenValue.revise revision) (elseValue.revise revision)
  | .assign span target sign value =>
      .assign span (target.revise revision) sign (value.revise revision)
  | .postfixed span operand op => .postfixed span (operand.revise revision) op

/-- Revised expressions. -/
def Expr.reviseAll (revision : Revision) : List Expr → List Expr
  | [] => []
  | expr :: rest => expr.revise revision :: Expr.reviseAll revision rest

/-- An expression that may be missing, revised. -/
def Expr.reviseOption (revision : Revision) : Option Expr → Option Expr
  | none => none
  | some expr => some (expr.revise revision)

/-- A revised argument. -/
def Argument.revise (revision : Revision) : Argument → Argument
  | ⟨span, label, value⟩ => ⟨span, label, value.revise revision⟩

/-- Revised arguments. -/
def Argument.reviseAll (revision : Revision) : List Argument → List Argument
  | [] => []
  | argument :: rest => argument.revise revision :: Argument.reviseAll revision rest

/-- A revised closure. -/
def Closure.revise (revision : Revision) : Closure → Closure
  | ⟨span, params, body⟩ => revision.closure ⟨span, params, body.revise revision⟩

/-- A closure that may be missing, revised. -/
def Closure.reviseOption (revision : Revision) : Option Closure → Option Closure
  | none => none
  | some closure => some (closure.revise revision)

/-- A revised block. -/
def Block.revise (revision : Revision) : Block → Block
  | ⟨span, statements⟩ => ⟨span, Statement.reviseAll revision statements⟩

/-- A block that may be missing, revised. -/
def Block.reviseOption (revision : Revision) : Option Block → Option Block
  | none => none
  | some block => some (block.revise revision)

/-- A revised statement. -/
def Statement.revise (revision : Revision) : Statement → Statement
  | .expression node => .expression (node.revise revision)
  | .conditional node => .conditional (node.revise revision)
  | .switch node => .switch (node.revise revision)
  | .doBlock span body => .doBlock span (body.revise revision)
  | .loop node => .loop (node.revise revision)
  | .returning span keyword value => .returning span keyword (Expr.reviseOption revision value)
  | .fallthrough span => .fallthrough span
  | .jump span kind => .jump span kind
  | .directive node => .directive node
  | .declaration node => .declaration (node.revise revision)

/-- Revised statements. -/
def Statement.reviseAll (revision : Revision) : List Statement → List Statement
  | [] => []
  | statement :: rest => statement.revise revision :: Statement.reviseAll revision rest

/-- A revised `if` statement. -/
def Conditional.revise (revision : Revision) : Conditional → Conditional
  | ⟨span, conditions, thenBlock, otherwise⟩ =>
      ⟨span, Condition.reviseAll revision conditions, thenBlock.revise revision,
        Alternative.reviseOption revision otherwise⟩

/-- A revised condition. -/
def Condition.revise (revision : Revision) : Condition → Condition
  | .expression node => .expression (node.revise revision)
  | .binding span isMutable bound value => .binding span isMutable bound (value.revise revision)

/-- Revised conditions. -/
def Condition.reviseAll (revision : Revision) : List Condition → List Condition
  | [] => []
  | condition :: rest => condition.revise revision :: Condition.reviseAll revision rest

/-- What is done otherwise, revised. -/
def Alternative.revise (revision : Revision) : Alternative → Alternative
  | .block node => .block (node.revise revision)
  | .chained node => .chained (node.revise revision)

/-- What may be done otherwise, revised. -/
def Alternative.reviseOption (revision : Revision) : Option Alternative → Option Alternative
  | none => none
  | some otherwise => some (otherwise.revise revision)

/-- A revised `switch` statement. -/
def Switch.revise (revision : Revision) : Switch → Switch
  | ⟨span, subject, cases⟩ =>
      ⟨span, subject.revise revision, SwitchCase.reviseAll revision cases⟩

/-- A revised case. -/
def SwitchCase.revise (revision : Revision) : SwitchCase → SwitchCase
  | ⟨span, label, body⟩ => revision.switchCase ⟨span, label, body.revise revision⟩

/-- Revised cases. -/
def SwitchCase.reviseAll (revision : Revision) : List SwitchCase → List SwitchCase
  | [] => []
  | switchCase :: rest => switchCase.revise revision :: SwitchCase.reviseAll revision rest

/-- A revised loop. -/
def Loop.revise (revision : Revision) : Loop → Loop
  | ⟨span, form, header, body⟩ => ⟨span, form, header.revise revision, body.revise revision⟩

/-- A revised declaration. -/
def Declaration.revise (revision : Revision) : Declaration → Declaration
  | .variable node => .variable (node.revise revision)
  | .function node => .function (node.revise revision)
  | .type node => .type (node.revise revision)
  | .enum node => .enum node

/-- Revised declarations. -/
def Declaration.reviseAll (revision : Revision) : List Declaration → List Declaration
  | [] => []
  | declaration :: rest => declaration.revise revision :: Declaration.reviseAll revision rest

/-- A revised variable. -/
def VariableDecl.revise (revision : Revision) : VariableDecl → VariableDecl
  | ⟨span, attributes, isMutable, name, type, value, body⟩ =>
      ⟨span, attributes, isMutable, name, type, Expr.reviseOption revision value,
        Block.reviseOption revision body⟩

/-- A revised function. -/
def FunctionDecl.revise (revision : Revision) : FunctionDecl → FunctionDecl
  | ⟨span, attributes, isStatic, name, generics, params, result, body⟩ =>
      ⟨span, attributes, isStatic, name, generics, params, result,
        Block.reviseOption revision body⟩

/-- A revised struct or class. -/
def TypeDecl.revise (revision : Revision) : TypeDecl → TypeDecl
  | ⟨span, attributes, kind, name, generics, members⟩ =>
      ⟨span, attributes, kind, name, generics, Declaration.reviseAll revision members⟩

end

/-! ### Lists -/

section Lists

variable (revision : Revision)

@[simp] theorem Expr.reviseAll_eq_map (exprs : List Expr) :
    Expr.reviseAll revision exprs = exprs.map (·.revise revision) := by
  induction exprs with
  | nil => rfl
  | cons expr rest ih => rw [Expr.reviseAll, ih, List.map_cons]

@[simp] theorem Expr.reviseOption_eq_map (expr? : Option Expr) :
    Expr.reviseOption revision expr? = expr?.map (·.revise revision) := by
  cases expr? <;> rfl

@[simp] theorem Argument.reviseAll_eq_map (args : List Argument) :
    Argument.reviseAll revision args = args.map (·.revise revision) := by
  induction args with
  | nil => rfl
  | cons argument rest ih => rw [Argument.reviseAll, ih, List.map_cons]

@[simp] theorem Closure.reviseOption_eq_map (closure? : Option Closure) :
    Closure.reviseOption revision closure? = closure?.map (·.revise revision) := by
  cases closure? <;> rfl

@[simp] theorem Block.reviseOption_eq_map (block? : Option Block) :
    Block.reviseOption revision block? = block?.map (·.revise revision) := by
  cases block? <;> rfl

@[simp] theorem Statement.reviseAll_eq_map (statements : List Statement) :
    Statement.reviseAll revision statements = statements.map (·.revise revision) := by
  induction statements with
  | nil => rfl
  | cons statement rest ih => rw [Statement.reviseAll, ih, List.map_cons]

@[simp] theorem Condition.reviseAll_eq_map (conditions : List Condition) :
    Condition.reviseAll revision conditions = conditions.map (·.revise revision) := by
  induction conditions with
  | nil => rfl
  | cons condition rest ih => rw [Condition.reviseAll, ih, List.map_cons]

@[simp] theorem Alternative.reviseOption_eq_map (otherwise? : Option Alternative) :
    Alternative.reviseOption revision otherwise? = otherwise?.map (·.revise revision) := by
  cases otherwise? <;> rfl

@[simp] theorem SwitchCase.reviseAll_eq_map (cases : List SwitchCase) :
    SwitchCase.reviseAll revision cases = cases.map (·.revise revision) := by
  induction cases with
  | nil => rfl
  | cons switchCase rest ih => rw [SwitchCase.reviseAll, ih, List.map_cons]

@[simp] theorem Declaration.reviseAll_eq_map (declarations : List Declaration) :
    Declaration.reviseAll revision declarations = declarations.map (·.revise revision) := by
  induction declarations with
  | nil => rfl
  | cons declaration rest ih => rw [Declaration.reviseAll, ih, List.map_cons]

end Lists

/-! ### Closures alone -/

/-- **A revision of closures alone**: they stand where they stood, and cases stay as they are. -/
structure Revision.OfClosures (revision : Revision) : Prop where
  span (node : Closure) : (revision.closure node).span = node.span
  switchCase (node : SwitchCase) : revision.switchCase node = node

section OfClosures

variable {revision : Revision} (ofClosures : revision.OfClosures)
include ofClosures

theorem Expr.span_revise (expr : Expr) : (expr.revise revision).span = expr.span := by
  cases expr with
  | closure node =>
      obtain ⟨span, params, body⟩ := node
      exact ofClosures.span _
  | _ => rfl

omit ofClosures in
theorem Declaration.span_revise (declaration : Declaration) :
    (declaration.revise revision).span = declaration.span := by
  cases declaration with
  | «variable» node | function node | type node | enum node =>
      cases node
      rfl

theorem Statement.span_revise (statement : Statement) :
    (statement.revise revision).span = statement.span := by
  cases statement with
  | expression node => exact node.span_revise ofClosures
  | declaration node => exact node.span_revise
  | conditional node | «switch» node | loop node =>
      cases node
      rfl
  | doBlock | returning | «fallthrough» | jump | directive => rfl

end OfClosures

end ResultBuilder.Syntax
