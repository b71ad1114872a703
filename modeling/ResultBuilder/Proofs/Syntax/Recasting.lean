import ResultBuilder.Syntax.Tree

/-!
# Recasting bodies

A body says the same in several ways: a chained `if` could as well be the only statement of a block
after `else`, directives could be missing, and all of it could stand at other places. A body that is
recast is written in one of these ways, the same one for all bodies that say the same. Closures
belong to their expressions, and nothing is kept of a declaration but its place.

* **`Recast`**: a way to write bodies anew.
* **`Block.recast`** and its companions: statements that are written anew.
* **`Alternative.recast_chained`**: a chained `if` is recast as the block that it stands for.
-/

namespace ResultBuilder.Syntax

/-- **A way to write bodies anew.** -/
structure Recast where
  /-- Where statements, cases and expressions stand afterwards. -/
  place : Span → Span
  /-- Where blocks stand afterwards. -/
  blockPlace : Span → Span
  /-- What becomes of an expression. -/
  expr : Expr → Expr
  /-- What becomes of a pattern. -/
  pattern : Pattern → Pattern
  /-- Whether directives stay. -/
  keepsDirectives : Bool
  /-- An expression stands where the way puts what stands in its place. -/
  span_expr (node : Expr) : (expr node).span = place node.span

/-! ### Parts of statements -/

/-- A condition, recast. -/
def Condition.recast (way : Recast) : Condition → Condition
  | .expression node => .expression (way.expr node)
  | .binding span isMutable bound value =>
      .binding (way.place span) isMutable (way.pattern bound) (way.expr value)

theorem Condition.expr_recast (way : Recast) (condition : Condition) :
    (condition.recast way).expr = way.expr condition.expr := by
  cases condition <;> rfl

/-- What stands before the colon of a switch case, recast. -/
def CaseLabel.recast (way : Recast) : CaseLabel → CaseLabel
  | .patterns listed => .patterns (listed.map way.pattern)
  | .default => .default

/-- The form of a loop, recast. -/
def LoopForm.recast (way : Recast) : LoopForm → LoopForm
  | .forIn pattern => .forIn (way.pattern pattern)
  | .whileDo => .whileDo
  | .repeatWhile => .repeatWhile

/-- A directive, recast. -/
def Directive.recast (way : Recast) (directive : Directive) : Directive :=
  { directive with
    span := way.place directive.span
    messageSpan := way.place directive.messageSpan }

/-- A declaration of which nothing is known but its place. -/
def Declaration.blank (place : Span) : Declaration :=
  .enum ⟨place, ⟨.point 0, ""⟩, []⟩

/-- Whether a statement is left out. -/
def Recast.drops (way : Recast) : Statement → Bool
  | .directive _ => !way.keepsDirectives
  | .expression _ | .conditional _ | .switch _ | .doBlock _ _ | .loop _ | .returning _ _ _
  | .fallthrough _ | .jump _ _ | .declaration _ => false

/-- Only directives are left out. -/
theorem Recast.exists_of_drops {way : Recast} {statement : Statement}
    (drops : way.drops statement = true) : ∃ node, statement = .directive node := by
  cases statement with
  | directive node => exact ⟨node, rfl⟩
  | _ => cases drops

/-- A way that keeps directives leaves nothing out. -/
theorem Recast.drops_of_keepsDirectives {way : Recast} (keeps : way.keepsDirectives = true)
    (statement : Statement) : way.drops statement = false := by
  cases statement with
  | directive node => simp [drops, keeps]
  | _ => rfl

/-! ### Statements -/

mutual

/-- **A block, recast.** -/
def Block.recast (way : Recast) : Block → Block
  | ⟨span, statements⟩ => ⟨way.blockPlace span, Statement.recastAll way statements⟩

/-- Statements, recast. -/
def Statement.recastAll (way : Recast) : List Statement → List Statement
  | [] => []
  | statement :: rest =>
      if way.drops statement then Statement.recastAll way rest
      else statement.recast way :: Statement.recastAll way rest

/-- A statement, recast. -/
def Statement.recast (way : Recast) : Statement → Statement
  | .expression node => .expression (way.expr node)
  | .conditional node => .conditional (node.recast way)
  | .switch node => .switch (node.recast way)
  | .doBlock span body => .doBlock (way.place span) (body.recast way)
  | .loop node => .loop (node.recast way)
  | .returning span keyword value =>
      .returning (way.place span) (way.place keyword) (value.map way.expr)
  | .fallthrough span => .fallthrough (way.place span)
  | .jump span kind => .jump (way.place span) kind
  | .directive node => .directive (node.recast way)
  | .declaration node => .declaration (.blank (way.place node.span))

/-- An `if` statement, recast. -/
def Conditional.recast (way : Recast) : Conditional → Conditional
  | ⟨span, conditions, thenBlock, none⟩ =>
      ⟨way.place span, conditions.map (·.recast way), thenBlock.recast way, none⟩
  | ⟨span, conditions, thenBlock, some otherwise⟩ =>
      ⟨way.place span, conditions.map (·.recast way), thenBlock.recast way,
        some (.block (otherwise.recast way))⟩

/-- What is done otherwise, as a block. -/
def Alternative.recast (way : Recast) : Alternative → Block
  | .block node => node.recast way
  | .chained node => ⟨way.blockPlace node.span, [.conditional (node.recast way)]⟩

/-- A `switch` statement, recast. -/
def Switch.recast (way : Recast) : Switch → Switch
  | ⟨span, subject, cases⟩ =>
      ⟨way.place span, way.expr subject, SwitchCase.recastAll way cases⟩

/-- Switch cases, recast. -/
def SwitchCase.recastAll (way : Recast) : List SwitchCase → List SwitchCase
  | [] => []
  | ⟨span, label, body⟩ :: rest =>
      ⟨way.place span, label.recast way, body.recast way⟩ :: SwitchCase.recastAll way rest

/-- A loop, recast. -/
def Loop.recast (way : Recast) : Loop → Loop
  | ⟨span, kind, header, body⟩ =>
      ⟨way.place span, kind.recast way, way.expr header, body.recast way⟩

end

section Recasting

variable (way : Recast)

/-- **A chained `if` is recast as a block** with the `if` as its only statement. -/
theorem Alternative.recast_chained (node : Conditional) :
    (Alternative.chained node).recast way =
      (Alternative.block ⟨node.span, [.conditional node]⟩).recast way :=
  rfl

theorem SwitchCase.recastAll_eq_map (cases : List SwitchCase) :
    SwitchCase.recastAll way cases =
      cases.map fun switchCase =>
        ⟨way.place switchCase.span, switchCase.label.recast way, switchCase.body.recast way⟩ := by
  induction cases with
  | nil => rfl
  | cons switchCase rest ih =>
      obtain ⟨span, label, body⟩ := switchCase
      rw [SwitchCase.recastAll, ih, List.map_cons]

/-- Where nothing is left out, each statement is recast. -/
theorem Statement.recastAll_eq_map {way : Recast} (keeps : way.keepsDirectives = true)
    (statements : List Statement) :
    Statement.recastAll way statements = statements.map (·.recast way) := by
  induction statements with
  | nil => rfl
  | cons statement rest ih =>
      rw [Statement.recastAll, if_neg (by simp [way.drops_of_keepsDirectives keeps]), ih,
        List.map_cons]

/-- A directive that is left out makes no difference, wherever it stands. -/
theorem Statement.recastAll_insert {way : Recast} (drops : way.keepsDirectives = false)
    (front back : List Statement) (node : Directive) :
    Statement.recastAll way (front ++ .directive node :: back) =
      Statement.recastAll way (front ++ back) := by
  induction front with
  | nil => exact if_pos (by simp [Recast.drops, drops])
  | cons statement rest ih =>
      rw [List.cons_append, List.cons_append, Statement.recastAll, Statement.recastAll, ih]

@[simp] theorem Conditional.span_recast (node : Conditional) :
    (node.recast way).span = way.place node.span := by
  obtain ⟨span, conditions, thenBlock, _ | otherwise⟩ := node <;> rfl

@[simp] theorem Switch.span_recast (node : Switch) :
    (node.recast way).span = way.place node.span := by
  cases node
  rfl

@[simp] theorem Loop.span_recast (node : Loop) : (node.recast way).span = way.place node.span := by
  cases node
  rfl

/-- A statement stands where the way puts it. -/
theorem Statement.span_recast (statement : Statement) :
    (statement.recast way).span = way.place statement.span := by
  cases statement with
  | expression node => exact way.span_expr node
  | conditional node => exact node.span_recast way
  | «switch» node => exact node.span_recast way
  | loop node => exact node.span_recast way
  | _ => rfl

end Recasting

end ResultBuilder.Syntax
