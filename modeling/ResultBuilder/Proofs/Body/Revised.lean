import ResultBuilder.Proofs.Syntax.Revising
import ResultBuilder.Synthesis.Transform

/-!
# Forms of revised statements

What a statement asks of a builder, whether it is rejected and which returns it has is all outside of
closures: a revision of closures changes none of it.
-/

namespace ResultBuilder.Syntax

section Forms

variable {revision : Revision} (ofClosures : revision.OfClosures)
include ofClosures
-- in a mutual block a hypothesis may only be needed through the other theorems
set_option linter.unusedSectionVars false

/-- A revised case has the same label and place, and its body is revised. -/
theorem SwitchCase.revise_of_closures (span : Span) (label : CaseLabel) (body : Block) :
    (SwitchCase.mk span label body).revise revision = ⟨span, label, body.revise revision⟩ := by
  rw [SwitchCase.revise, ofClosures.switchCase]

/-- The statements directly in revised cases. -/
theorem SwitchCase.flatMap_statements_revise (cases : List SwitchCase) :
    (cases.map (·.revise revision)).flatMap (·.body.statements) =
      (cases.flatMap (·.body.statements)).map (·.revise revision) := by
  rw [List.flatMap_map, List.map_flatMap]
  congr 1
  funext ⟨span, label, ⟨place, statements⟩⟩
  rw [SwitchCase.revise_of_closures ofClosures]
  exact Statement.reviseAll_eq_map revision statements

theorem Switch.fallthrough?_revise (node : Switch) :
    (node.revise revision).fallthrough? = node.fallthrough? := by
  obtain ⟨span, subject, cases⟩ := node
  rw [Switch.revise, Switch.fallthrough?, Switch.fallthrough?, SwitchCase.reviseAll_eq_map,
    SwitchCase.flatMap_statements_revise ofClosures, List.findSome?_map]
  congr 1
  funext statement
  cases statement <;> rfl

/-! ### Rejections -/

mutual

theorem Statement.rejection?_revise : ∀ statement : Statement,
    (statement.revise revision).rejection? = statement.rejection?
  | .expression _ | .returning _ _ _ | .directive _ | .fallthrough _ | .jump _ _ => rfl
  | .conditional node => Conditional.rejection?_revise node
  | .switch ⟨span, subject, cases⟩ => by
      have same := Switch.fallthrough?_revise ofClosures ⟨span, subject, cases⟩
      rw [Switch.revise] at same
      rw [Statement.revise, Switch.revise, Statement.rejection?, Statement.rejection?, same,
        SwitchCase.rejection?_revise cases]
  | .doBlock _ body => Block.rejection?_revise body
  | .declaration node => by
      rw [Statement.revise, Statement.rejection?, Statement.rejection?, node.span_revise]
  | .loop ⟨_, _, _, _⟩ => rfl

theorem Statement.firstRejection?_revise : ∀ statements : List Statement,
    Statement.firstRejection? (Statement.reviseAll revision statements) =
      Statement.firstRejection? statements
  | [] => rfl
  | statement :: rest => by
      rw [Statement.reviseAll, Statement.firstRejection?, Statement.firstRejection?,
        Statement.rejection?_revise statement, Statement.firstRejection?_revise rest]

theorem Block.rejection?_revise : ∀ block : Block,
    (block.revise revision).rejection? = block.rejection?
  | ⟨_, statements⟩ => Statement.firstRejection?_revise statements

theorem Conditional.rejection?_revise : ∀ node : Conditional,
    (node.revise revision).rejection? = node.rejection?
  | ⟨_, _, thenBlock, none⟩ => Block.rejection?_revise thenBlock
  | ⟨_, _, thenBlock, some otherwise⟩ => by
      rw [Conditional.revise, Alternative.reviseOption, Conditional.rejection?,
        Conditional.rejection?, Block.rejection?_revise thenBlock,
        Alternative.rejection?_revise otherwise]

theorem Alternative.rejection?_revise : ∀ otherwise : Alternative,
    (otherwise.revise revision).rejection? = otherwise.rejection?
  | .block node => Block.rejection?_revise node
  | .chained node => Conditional.rejection?_revise node

theorem SwitchCase.rejection?_revise : ∀ cases : List SwitchCase,
    SwitchCase.rejection? (SwitchCase.reviseAll revision cases) = SwitchCase.rejection? cases
  | [] => rfl
  | ⟨_, _, body⟩ :: rest => by
      rw [SwitchCase.reviseAll, SwitchCase.revise_of_closures ofClosures, SwitchCase.rejection?,
        SwitchCase.rejection?, Block.rejection?_revise body, SwitchCase.rejection?_revise rest]

end

/-! ### Returns -/

mutual

theorem Statement.returns_revise : ∀ statement : Statement,
    (statement.revise revision).returns = statement.returns
  | .returning _ _ none | .expression _ | .fallthrough _ | .jump _ _ | .directive _
  | .declaration _ => rfl
  | .returning _ _ (some value) => by
      rw [Statement.revise, Expr.reviseOption, Statement.returns, Statement.returns, Option.map_some,
        Option.map_some, value.span_revise ofClosures]
  | .conditional node => Conditional.returns_revise node
  | .switch ⟨_, _, cases⟩ => SwitchCase.returns_revise cases
  | .doBlock _ body => Block.returns_revise body
  | .loop ⟨_, _, _, body⟩ => Block.returns_revise body

theorem Statement.allReturns_revise : ∀ statements : List Statement,
    Statement.allReturns (Statement.reviseAll revision statements) =
      Statement.allReturns statements
  | [] => rfl
  | statement :: rest => by
      rw [Statement.reviseAll, Statement.allReturns, Statement.allReturns,
        Statement.returns_revise statement, Statement.allReturns_revise rest]

theorem Block.returns_revise : ∀ block : Block,
    (block.revise revision).returns = block.returns
  | ⟨_, statements⟩ => Statement.allReturns_revise statements

theorem Conditional.returns_revise : ∀ node : Conditional,
    (node.revise revision).returns = node.returns
  | ⟨_, _, thenBlock, none⟩ => Block.returns_revise thenBlock
  | ⟨_, _, thenBlock, some otherwise⟩ => by
      rw [Conditional.revise, Alternative.reviseOption, Conditional.returns, Conditional.returns,
        Block.returns_revise thenBlock, Alternative.returns_revise otherwise]

theorem Alternative.returns_revise : ∀ otherwise : Alternative,
    (otherwise.revise revision).returns = otherwise.returns
  | .block node => Block.returns_revise node
  | .chained node => Conditional.returns_revise node

theorem SwitchCase.returns_revise : ∀ cases : List SwitchCase,
    SwitchCase.returns (SwitchCase.reviseAll revision cases) = SwitchCase.returns cases
  | [] => rfl
  | ⟨_, _, body⟩ :: rest => by
      rw [SwitchCase.reviseAll, SwitchCase.revise_of_closures ofClosures, SwitchCase.returns,
        SwitchCase.returns, Block.returns_revise body, SwitchCase.returns_revise rest]

end

end Forms

/-- A revision makes no sole return and loses none. -/
theorem Block.isSoleReturn_revise (revision : Revision) (block : Block) :
    (block.revise revision).isSoleReturn = block.isSoleReturn := by
  obtain ⟨span, statements⟩ := block
  match statements with
  | [] => rfl
  | [statement] =>
      cases statement with
      | returning _ _ value => cases value <;> rfl
      | _ => rfl
  | first :: second :: rest =>
      cases first with
      | returning _ _ value => cases value <;> rfl
      | _ => rfl

end ResultBuilder.Syntax

namespace ResultBuilder.Transform

open Syntax

section Checks

variable {revision : Revision} (ofClosures : revision.OfClosures)
include ofClosures

/-- A revision changes neither what a statement is called, nor whether it has a value, nor what the
check says of it. -/
theorem form_revise (statement : Statement) :
    (statement.revise revision).form.text = statement.form.text ∧
      (statement.revise revision).form.isComponent = statement.form.isComponent ∧
      ∀ setting, check setting (statement.revise revision) = check setting statement := by
  cases statement with
  | conditional node =>
      obtain ⟨span, conditions, thenBlock, otherwise⟩ := node
      cases otherwise <;> exact ⟨rfl, rfl, fun _ => rfl⟩
  | «switch» node =>
      have same := Switch.fallthrough?_revise ofClosures node
      have length : (node.revise revision).cases.length = node.cases.length := by
        obtain ⟨span, subject, cases⟩ := node
        rw [Switch.revise, SwitchCase.reviseAll_eq_map, List.length_map]
      have place : (node.revise revision).span = node.span := by
        cases node
        rfl
      simp only [Statement.revise, check, Statement.form, same]
      cases node.fallthrough? with
      | some span => exact ⟨rfl, rfl, fun _ => rfl⟩
      | none => simp only [StatementForm.text, StatementForm.isComponent, length, Statement.span,
          place, implies_true, and_self]
  | returning span keyword value => cases value <;> exact ⟨rfl, rfl, fun _ => rfl⟩
  | declaration node =>
      refine ⟨rfl, rfl, fun setting => ?_⟩
      rw [Statement.revise, check, check, Statement.form, Statement.form, node.span_revise]
  | loop node =>
      cases node
      exact ⟨rfl, rfl, fun _ => rfl⟩
  | expression | doBlock | «fallthrough» | jump | directive => exact ⟨rfl, rfl, fun _ => rfl⟩

theorem checkAll_revise (setting : Setting) (statements : List Statement) :
    checkAll setting (statements.map (·.revise revision)) = checkAll setting statements := by
  induction statements with
  | nil => rfl
  | cons statement rest ih =>
      rw [List.map_cons, checkAll, checkAll, ih, (form_revise ofClosures statement).2.2]

/-- Revised statements have a value where they had one, at the same place. -/
theorem componentSpans_revise (statements : List Statement) :
    componentSpans (statements.map (·.revise revision)) = componentSpans statements := by
  have kept : (fun statement : Statement => statement.form.isComponent) ∘
        (fun statement => statement.revise revision) =
      fun statement : Statement => statement.form.isComponent :=
    funext fun statement => (form_revise ofClosures statement).2.1
  rw [componentSpans, componentSpans, List.filter_map, List.map_map, kept]
  exact List.map_congr_left fun statement _ => statement.span_revise ofClosures

end Checks

end ResultBuilder.Transform
