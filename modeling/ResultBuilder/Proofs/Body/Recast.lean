import ResultBuilder.Proofs.Syntax.Recasting
import ResultBuilder.Synthesis.Transform

/-!
# Forms of recast statements

A recast statement asks the same of a builder as before, is rejected for the same reason and has the
same returns. Only the places are others.

* **`TransformError.recast`**: why a body is not transformed, told about the recast body.
* **`check_recast`**, **`arityError_recast`**: what is found wrong with recast statements.
* **`Block.rejection?_recast`**, **`Block.returns_recast`**: what is looked for in a whole body.
-/

namespace ResultBuilder

open Syntax

/-! ### Reasons -/

/-- A rejected statement, recast. -/
def Rejection.recast (way : Recast) (rejection : Rejection) : Rejection :=
  { rejection with span := way.place rejection.span }

/-- A return, recast. -/
def ReturnSite.recast (way : Recast) (site : ReturnSite) : ReturnSite :=
  ⟨way.place site.keyword, site.value.map way.place⟩

/-- **Why a body is not transformed**, told about the recast body. A block with too few values for
the builder is named as a whole, so that its place is that of a block. -/
def TransformError.recast (way : Recast) : TransformError → TransformError
  | .declaration kind builder span => .declaration kind builder (way.place span)
  | .controlFlow kind builder statement span =>
      .controlFlow kind builder statement (way.place span)
  | .missingCapability kind builder capability span =>
      .missingCapability kind builder capability (way.place span)
  | .extraArgument builder count most span => .extraArgument builder count most (way.place span)
  | .missingArgument builder position span =>
      .missingArgument builder position (way.blockPlace span)
  | .noBlockOverload builder count arities span =>
      .noBlockOverload builder count arities (way.blockPlace span)

namespace Syntax

variable (way : Recast)

/-! ### Rejections -/

/-- The place of a statement that is a `fallthrough`. -/
def Statement.fallthroughPlace? : Statement → Option Span
  | .fallthrough span => some span
  | _ => none

theorem Switch.fallthrough?_eq (node : Switch) :
    node.fallthrough? =
      (node.cases.flatMap (·.body.statements)).findSome? Statement.fallthroughPlace? :=
  rfl

theorem Statement.findSome?_fallthrough_recastAll (statements : List Statement) :
    (Statement.recastAll way statements).findSome? Statement.fallthroughPlace? =
      (statements.findSome? Statement.fallthroughPlace?).map way.place := by
  induction statements with
  | nil => rfl
  | cons statement rest ih =>
      rw [Statement.recastAll]
      split
      · next drops =>
          obtain ⟨node, rfl⟩ := Recast.exists_of_drops drops
          exact ih
      · rw [List.findSome?_cons, List.findSome?_cons, ih]
        cases statement <;> rfl

theorem Switch.fallthrough?_recast (node : Switch) :
    (node.recast way).fallthrough? = node.fallthrough?.map way.place := by
  obtain ⟨span, subject, cases⟩ := node
  rw [Switch.fallthrough?_eq, Switch.fallthrough?_eq, Switch.recast]
  induction cases with
  | nil => rfl
  | cons switchCase rest ih =>
      obtain ⟨place, label, ⟨bodyPlace, statements⟩⟩ := switchCase
      rw [SwitchCase.recastAll, List.flatMap_cons, List.flatMap_cons, List.findSome?_append,
        List.findSome?_append, ih, Block.recast, Statement.findSome?_fallthrough_recastAll]
      cases statements.findSome? Statement.fallthroughPlace? <;> rfl

mutual

theorem Statement.rejection?_recast : ∀ statement : Statement,
    (statement.recast way).rejection? = statement.rejection?.map (·.recast way)
  | .expression _ | .returning _ _ _ | .directive _ | .fallthrough _ | .jump _ _
  | .declaration _ => rfl
  | .conditional node => Conditional.rejection?_recast node
  | .switch ⟨span, subject, cases⟩ => by
      have same := Switch.fallthrough?_recast way ⟨span, subject, cases⟩
      rw [Switch.recast] at same
      rw [Statement.recast, Switch.recast, Statement.rejection?, Statement.rejection?, same,
        SwitchCase.rejection?_recast cases]
      cases (Switch.mk span subject cases).fallthrough? <;> rfl
  | .doBlock _ body => Block.rejection?_recast body
  | .loop ⟨_, _, _, _⟩ => rfl

theorem Statement.firstRejection?_recast : ∀ statements : List Statement,
    Statement.firstRejection? (Statement.recastAll way statements) =
      (Statement.firstRejection? statements).map (·.recast way)
  | [] => rfl
  | statement :: rest => by
      have ih := Statement.firstRejection?_recast rest
      rw [Statement.recastAll]
      split
      · next drops =>
          obtain ⟨node, rfl⟩ := Recast.exists_of_drops drops
          exact ih
      · rw [Statement.firstRejection?, Statement.firstRejection?, ih,
          Statement.rejection?_recast statement]
        cases statement.rejection? <;> rfl

theorem Block.rejection?_recast : ∀ block : Block,
    (block.recast way).rejection? = block.rejection?.map (·.recast way)
  | ⟨_, statements⟩ => Statement.firstRejection?_recast statements

theorem Conditional.rejection?_recast : ∀ node : Conditional,
    (node.recast way).rejection? = node.rejection?.map (·.recast way)
  | ⟨_, _, thenBlock, none⟩ => Block.rejection?_recast thenBlock
  | ⟨_, _, thenBlock, some otherwise⟩ => by
      rw [Conditional.recast, Conditional.rejection?, Conditional.rejection?,
        Block.rejection?_recast thenBlock]
      show (_ <|> (otherwise.recast way).rejection?) = _
      rw [Alternative.rejection?_recast otherwise]
      cases thenBlock.rejection? <;> rfl

theorem Alternative.rejection?_recast : ∀ otherwise : Alternative,
    (otherwise.recast way).rejection? = otherwise.rejection?.map (·.recast way)
  | .block node => Block.rejection?_recast node
  | .chained node => by
      show ((node.recast way).rejection? <|> none) = _
      rw [Conditional.rejection?_recast node, Alternative.rejection?]
      cases node.rejection? <;> rfl

theorem SwitchCase.rejection?_recast : ∀ cases : List SwitchCase,
    SwitchCase.rejection? (SwitchCase.recastAll way cases) =
      (SwitchCase.rejection? cases).map (·.recast way)
  | [] => rfl
  | ⟨_, _, body⟩ :: rest => by
      rw [SwitchCase.recastAll, SwitchCase.rejection?, SwitchCase.rejection?,
        Block.rejection?_recast body, SwitchCase.rejection?_recast rest]
      cases body.rejection? <;> rfl

end

/-! ### Returns -/

mutual

theorem Statement.returns_recast : ∀ statement : Statement,
    (statement.recast way).returns = statement.returns.map (·.recast way)
  | .returning _ _ none | .expression _ | .fallthrough _ | .jump _ _ | .directive _
  | .declaration _ => rfl
  | .returning span keyword (some value) => by
      show [ReturnSite.mk (way.place keyword) (some (way.expr value).span)] = _
      rw [way.span_expr]
      rfl
  | .conditional node => Conditional.returns_recast node
  | .switch ⟨_, _, cases⟩ => SwitchCase.returns_recast cases
  | .doBlock _ body => Block.returns_recast body
  | .loop ⟨_, _, _, body⟩ => Block.returns_recast body

theorem Statement.allReturns_recast : ∀ statements : List Statement,
    Statement.allReturns (Statement.recastAll way statements) =
      (Statement.allReturns statements).map (·.recast way)
  | [] => rfl
  | statement :: rest => by
      have ih := Statement.allReturns_recast rest
      rw [Statement.recastAll]
      split
      · next drops =>
          obtain ⟨node, rfl⟩ := Recast.exists_of_drops drops
          exact ih
      · rw [Statement.allReturns, Statement.allReturns, ih, Statement.returns_recast statement,
          List.map_append]

theorem Block.returns_recast : ∀ block : Block,
    (block.recast way).returns = block.returns.map (·.recast way)
  | ⟨_, statements⟩ => Statement.allReturns_recast statements

theorem Conditional.returns_recast : ∀ node : Conditional,
    (node.recast way).returns = node.returns.map (·.recast way)
  | ⟨_, _, thenBlock, none⟩ => Block.returns_recast thenBlock
  | ⟨_, _, thenBlock, some otherwise⟩ => by
      rw [Conditional.recast, Conditional.returns, Conditional.returns,
        Block.returns_recast thenBlock, List.map_append]
      show _ ++ (otherwise.recast way).returns = _
      rw [Alternative.returns_recast otherwise]

theorem Alternative.returns_recast : ∀ otherwise : Alternative,
    (otherwise.recast way).returns = otherwise.returns.map (·.recast way)
  | .block node => Block.returns_recast node
  | .chained node => by
      show (node.recast way).returns ++ [] = _
      rw [List.append_nil, Conditional.returns_recast node, Alternative.returns]

theorem SwitchCase.returns_recast : ∀ cases : List SwitchCase,
    SwitchCase.returns (SwitchCase.recastAll way cases) =
      (SwitchCase.returns cases).map (·.recast way)
  | [] => rfl
  | ⟨_, _, body⟩ :: rest => by
      rw [SwitchCase.recastAll, SwitchCase.returns, SwitchCase.returns,
        Block.returns_recast body, SwitchCase.returns_recast rest, List.map_append]

end

/-- Where nothing is left out, a sole return stays one and none is made. -/
theorem Block.isSoleReturn_recast {way : Recast} (keeps : way.keepsDirectives = true)
    (block : Block) : (block.recast way).isSoleReturn = block.isSoleReturn := by
  obtain ⟨span, statements⟩ := block
  rw [Block.recast, Statement.recastAll_eq_map keeps]
  match statements with
  | [] => rfl
  | [statement] =>
      cases statement with
      | returning _ _ value => cases value <;> rfl
      | _ => rfl
  | first :: second :: rest =>
      cases first with
      | returning _ _ value => cases value <;> rfl
      | _ => rfl

end Syntax

/-! ### What statements need -/

namespace Transform

variable (way : Recast) (setting : Setting)

theorem rejected_recast (rejection : Rejection) :
    rejected setting (rejection.recast way) = (rejected setting rejection).recast way := by
  unfold rejected
  rw [show (rejection.recast way).kind = rejection.kind from rfl]
  split <;> rfl

theorem optionalWrap_recast (span : Span) :
    optionalWrap setting (way.place span) =
      (optionalWrap setting span).mapError (·.recast way) := by
  unfold optionalWrap
  cases setting.descriptor.optionalWrap <;> rfl

theorem either_recast (span : Span) :
    either setting (way.place span) = (either setting span).mapError (·.recast way) := by
  unfold either
  cases setting.descriptor.either? with
  | some operations => rfl
  | none => cases setting.descriptor.has .eitherFirst <;> rfl

/-- A block is found wrong for the same number of values, and the same value is one too many. -/
theorem arityError_recast (components : List Span) (span : Span) :
    arityError setting (components.map way.place) (way.blockPlace span) =
      (arityError setting components span).recast way := by
  unfold arityError
  dsimp only
  rw [List.length_map]
  -- in either case there is an error for too few values, which names the block as a whole
  cases setting.descriptor.blockArities.getLast? with
  | none =>
      cases setting.descriptor.blockArities.head? with
      | none => rfl
      | some least => dsimp only; split <;> rfl
  | some most =>
      dsimp only
      split
      · next fewer =>
          rw [List.getElem?_map, List.getElem?_eq_getElem fewer]
          rfl
      · cases setting.descriptor.blockArities.head? with
        | none => rfl
        | some least => dsimp only; split <;> rfl

theorem blockJoin_recast (components : List Span) (span : Span) :
    blockJoin setting (components.map way.place) (way.blockPlace span) =
      (blockJoin setting components span).mapError (·.recast way) := by
  unfold blockJoin
  rw [List.length_map, arityError_recast]
  cases setting.descriptor.blockJoin? components.length <;> rfl

/-- A recast statement has a value when the statement has one. -/
theorem isComponent_recast (statement : Statement) :
    (statement.recast way).form.isComponent = statement.form.isComponent := by
  cases statement with
  | conditional node => obtain ⟨span, conditions, thenBlock, _ | otherwise⟩ := node <;> rfl
  | «switch» node =>
      rw [Statement.recast, Statement.form, Statement.form, Switch.fallthrough?_recast]
      cases node.fallthrough? <;> rfl
  | returning _ _ value => cases value <;> rfl
  | _ => rfl

/-- **A recast statement asks the same of a builder.** -/
theorem check_recast (statement : Statement) :
    check setting (statement.recast way) =
      (check setting statement).mapError (·.recast way) := by
  cases statement with
  | conditional node =>
      obtain ⟨span, conditions, thenBlock, _ | otherwise⟩ := node
      · show (fun _ => ()) <$> optionalWrap setting (way.place span) =
          ((fun _ => ()) <$> optionalWrap setting span : Except _ _).mapError _
        rw [optionalWrap_recast]
        cases optionalWrap setting span <;> rfl
      · show (fun _ => ()) <$> either setting (way.place span) =
          ((fun _ => ()) <$> either setting span : Except _ _).mapError _
        rw [either_recast]
        cases either setting span <;> rfl
  | «switch» node =>
      have length : (node.recast way).cases.length = node.cases.length := by
        obtain ⟨span, subject, cases⟩ := node
        rw [Switch.recast, SwitchCase.recastAll_eq_map, List.length_map]
      simp only [Statement.recast, check, Statement.form, Switch.fallthrough?_recast]
      cases node.fallthrough? with
      | some span => exact congrArg Except.error (rejected_recast way setting ⟨_, span⟩)
      | none =>
          simp only [Option.map_none, length, Statement.span, Switch.span_recast, either_recast]
          split
          · cases either setting node.span <;> rfl
          · rfl
  | declaration node => exact congrArg Except.error (rejected_recast way setting ⟨_, node.span⟩)
  | loop node =>
      show Except.error (rejected setting ⟨.loop, (node.recast way).span⟩) = _
      rw [node.span_recast]
      exact congrArg Except.error (rejected_recast way setting ⟨.loop, node.span⟩)
  | returning _ _ value => cases value <;> rfl
  | _ => rfl

theorem checkAll_recast (statements : List Statement) :
    checkAll setting (Statement.recastAll way statements) =
      (checkAll setting statements).mapError (·.recast way) := by
  induction statements with
  | nil => rfl
  | cons statement rest ih =>
      rw [Statement.recastAll]
      split
      · next drops =>
          obtain ⟨node, rfl⟩ := Recast.exists_of_drops drops
          exact ih
      · rw [checkAll, checkAll, ih, check_recast]
        cases check setting statement <;> rfl

/-- Recast statements have values at the places where the way puts them. -/
theorem componentSpans_recast (statements : List Statement) :
    componentSpans (Statement.recastAll way statements) =
      (componentSpans statements).map way.place := by
  induction statements with
  | nil => rfl
  | cons statement rest ih =>
      rw [Statement.recastAll]
      split
      · next drops =>
          obtain ⟨node, rfl⟩ := Recast.exists_of_drops drops
          exact ih
      · rw [componentSpans] at ih ⊢
        rw [List.filter_cons, isComponent_recast, componentSpans, List.filter_cons]
        split
        · rw [List.map_cons, ih, Statement.span_recast]
          rfl
        · exact ih

end Transform

end ResultBuilder
