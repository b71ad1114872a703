import ResultBuilder.Proofs.Host.Places
import ResultBuilder.Proofs.Synthesis.Calls
import ResultBuilder.Proofs.Synthesis.Recast
import ResultBuilder.Proofs.Synthesis.Verdict

/-!
# A chained `if` as the only statement of a block

After `else` there is a block or a chained `if`, and a chained `if` says what a block with the `if`
as its only statement says. In whichever of the two ways the branches of a body are written, and
wherever it stands, the same becomes of it and the same is found in it.

* **`Block.unchained`**: a body in which each chained `if` has a block of its own.
* **`Result.Agree`**: results that are the same up to places.
* **`transform_of_unchained_eq`**: the same becomes of bodies that differ in chained `if`s only.
-/

namespace ResultBuilder

open Syntax

/-! ### Bodies without chains -/

/-- Bodies that are moved. -/
def Syntax.Recast.moving (move : Span → Span) : Recast where
  place := move
  blockPlace := move
  expr := Expr.moved move
  pattern := Pattern.bare
  keepsDirectives := true
  span_expr node := node.span_moved move

variable (move : Span → Span)

/-- **A body in which each chained `if` has a block of its own**, and which is moved. Its closures
stay as they are, apart from their places. -/
def Syntax.Block.unchained (body : Block) : Block :=
  body.recast (.moving move)

/-- A chained `if` makes no difference to the block with the `if` as its only statement, wherever the
two stand in a block. -/
theorem Syntax.Block.unchained_chained (span place : Span) (front back : List Statement)
    (conditions : List Condition) (thenBlock : Block) (node : Conditional) :
    (Block.mk span (front ++
      .conditional ⟨place, conditions, thenBlock, some (.chained node)⟩ :: back)).unchained move =
    (Block.mk span (front ++ .conditional
      ⟨place, conditions, thenBlock, some (.block ⟨node.span, [.conditional node]⟩)⟩ ::
        back)).unchained move := by
  rw [unchained, unchained, Block.recast, Block.recast, Statement.recastAll_eq_map rfl,
    Statement.recastAll_eq_map rfl, List.map_append, List.map_append, List.map_cons, List.map_cons,
    Statement.recast, Statement.recast, Conditional.recast, Conditional.recast,
    Alternative.recast_chained]

/-- A synthesized expression, moved. -/
def Synthesized.moved (value : Synthesized) : Synthesized :=
  value.recast (.moving move)

/-- An error, moved. -/
def TransformError.moved (error : TransformError) : TransformError :=
  error.recast (.moving move)

/-- A return, moved. -/
def ReturnSite.moved (site : ReturnSite) : ReturnSite :=
  site.recast (.moving move)

/-- A rejected statement, moved. -/
def Rejection.moved (rejection : Rejection) : Rejection :=
  rejection.recast (.moving move)

/-! ### Collaborators -/

namespace Syntax

theorem Condition.recast_moving (condition : Condition) :
    condition.recast (.moving move) = condition.moved move := by
  cases condition <;> rfl

theorem CaseLabel.recast_moving (label : CaseLabel) : label.recast (.moving move) = label.bare := by
  cases label <;> rfl

/-- A `switch` is moved with its labels, and the bodies of its cases lose their chains. -/
theorem Switch.recast_moving (node : Switch) :
    node.recast (.moving move) = (node.moved move).withBodies (·.unchained move) := by
  obtain ⟨span, subject, cases⟩ := node
  rw [Switch.recast, SwitchCase.recastAll_eq_map, Switch.withBodies, Switch.moved, List.map_map]
  refine congrArg (Switch.mk _ _) (List.map_congr_left fun switchCase _ => ?_)
  rw [CaseLabel.recast_moving]
  rfl

end Syntax

theorem Collaborators.OverlooksPlaces.overlooks {services : Collaborators}
    {view : Diagnostic → Diagnostic} (overlooks : services.OverlooksPlaces view) :
    services.Overlooks (.moving move) view where
  exhaustive context node := by
    rw [Switch.recast_moving]
    exact overlooks.exhaustive context node move _
  condition context node := by
    rw [Condition.recast_moving]
    exact overlooks.condition context node move
  expression context node := overlooks.expression context node move
  captures context node := overlooks.captures context node move
  typeOf context node := overlooks.typeOf context node move

/-- Without its places a diagnostic is viewed apart from its remarks. -/
theorem Diagnostic.isView_bare : Diagnostic.IsView Diagnostic.bare := by
  intro left right note same
  have withNote (diagnostic : Diagnostic) : (diagnostic.withNote note).bare =
      { diagnostic.bare with notes := diagnostic.bare.notes ++ [note.bare] } := by
    rw [Diagnostic.withNote, Diagnostic.bare, List.map_append]
    rfl
  rw [withNote, withNote, same]

/-- The warning for a body that is left as it is says the same about moved returns. -/
theorem ReturnWarning.bare_diagnostic_moved (builder : BuilderRef) (returns : List ReturnSite)
    (mark : Option Span) :
    (ReturnWarning.diagnostic ⟨builder, returns.map (·.moved move), mark⟩).bare =
      (ReturnWarning.diagnostic ⟨builder, returns, mark⟩).bare := by
  simp only [diagnostic, Diagnostic.bare, notes, List.map_append, List.map_cons, List.map_nil,
    Note.bare, FixIt.bare, List.map_map]
  rfl

/-! ### Bodies -/

namespace Transform

/-- **Results that agree**: the same becomes of both bodies, once what becomes of the one is moved
in one way and what becomes of the other in another. -/
inductive Result.Agree (move otherMove : Span → Span) : Result → Result → Prop where
  /-- The same is synthesized, with the same shape. -/
  | built {left right : Built} (expr_eq : left.expr.moved move = right.expr.moved otherMove)
      (shape_eq : left.shape = right.shape) : Agree move otherMove (.built left) (.built right)
  /-- Both bodies are left as they are. -/
  | verbatim {left right : Block} (body_eq : left.unchained move = right.unchained otherMove) :
      Agree move otherMove (.verbatim left) (.verbatim right)
  /-- The same error occurs, about the same part of both bodies. -/
  | failed {left right : TransformError} (error_eq : left.moved move = right.moved otherMove) :
      Agree move otherMove (.failed left) (.failed right)

theorem Result.agree_of_recast_eq {move otherMove : Span → Span} {left right : Result}
    (same : left.recast (.moving move) = right.recast (.moving otherMove)) :
    left.Agree move otherMove right := by
  cases left with
  | built left =>
      cases right with
      | built right =>
          obtain ⟨expr_eq, shape_eq⟩ := Built.mk.inj (Result.built.inj same)
          exact .built expr_eq shape_eq
      | verbatim | failed => cases same
  | verbatim left =>
      cases right with
      | verbatim right => exact .verbatim (Result.verbatim.inj same)
      | built | failed => cases same
  | failed left =>
      cases right with
      | failed right => exact .failed (Result.failed.inj same)
      | built | verbatim => cases same

/-- The same becomes of a body without its chains, and the same is reported. -/
theorem transform_unchained {setting : Setting}
    (overlooks : setting.services.OverlooksPlaces Diagnostic.bare) (body : Block) :
    (transform setting (body.unchained move)).result =
        (transform setting body).result.recast (.moving move) ∧
      (transform setting (body.unchained move)).journal.diagnostics.map (·.bare) =
        (transform setting body).journal.diagnostics.map (·.bare) := by
  have harmless : (Recast.moving move).keepsDirectives = true ∨ body.returns = [] := .inl rfl
  obtain ⟨result, reports⟩ := transform_recast Diagnostic.isView_bare (overlooks.overlooks move)
    (Recast.suits_of_place_eq rfl _) harmless
  refine ⟨result, ?_⟩
  by_cases disables : IsDisabled body
  · have stillDisables : IsDisabled (body.unchained move) :=
      (isDisabled_recast harmless).mpr disables
    rw [transform_of_isDisabled disables, transform_of_isDisabled stillDisables,
      diagnostics_disabled, diagnostics_disabled, Block.unchained, Block.returns_recast]
    exact congrArg ([·]) (ReturnWarning.bare_diagnostic_moved move _ _ _)
  · exact reports disables

/-- **A chained `if` is a block with an `if`.** A host answers the same about what is moved, and
does not look at the bodies of cases. With collaborators like that, let two bodies be the same up to
places once each chained `if` has a block of its own. Then the same becomes of both, up to the same
places, for any builder: the same expression with the same shape, or the same error. The same is
reported in the same order, and both have the same returns and the same first rejected statement. -/
theorem transform_of_unchained_eq :
    (∀ host : Host, host.collaborators.OverlooksPlaces Diagnostic.bare) ∧
      ∀ (setting : Setting) (move otherMove : Span → Span) (one other : Block),
        setting.services.OverlooksPlaces Diagnostic.bare →
        one.unchained move = other.unchained otherMove →
          (transform setting one).result.Agree move otherMove (transform setting other).result ∧
          (transform setting one).journal.diagnostics.map (·.bare) =
            (transform setting other).journal.diagnostics.map (·.bare) ∧
          one.returns.map (·.moved move) = other.returns.map (·.moved otherMove) ∧
          one.rejection?.map (·.moved move) = other.rejection?.map (·.moved otherMove) := by
  refine ⟨Host.overlooksPlaces_collaborators, ?_⟩
  intro setting move otherMove one other overlooks same
  obtain ⟨resultOne, reportsOne⟩ := transform_unchained move overlooks one
  obtain ⟨resultOther, reportsOther⟩ := transform_unchained otherMove overlooks other
  rw [same] at resultOne reportsOne
  refine ⟨Result.agree_of_recast_eq (resultOne.symm.trans resultOther),
    reportsOne.symm.trans reportsOther, ?_, ?_⟩
  · have returns := congrArg Block.returns same
    rwa [Block.unchained, Block.unchained, Block.returns_recast, Block.returns_recast] at returns
  · have rejections := congrArg Block.rejection? same
    rwa [Block.unchained, Block.unchained, Block.rejection?_recast, Block.rejection?_recast]
      at rejections

/-! ### A body with a chained `if` -/

/-- A setting with a host that knows `x` as a generic type, whose name is not to be used alone. -/
def hostedSetting : Setting :=
  { BuilderCall.versatileSetting with
    services := Host.collaborators
      { types := [⟨⟨0, 9⟩, [], .structType, ⟨⟨0, 9⟩, "x"⟩, [⟨⟨3, 4⟩, ⟨⟨3, 4⟩, "T"⟩, none⟩], []⟩] } }

/-- A chained `if` with a name as its condition, in a `do` block. -/
def chainedBody : Block :=
  ⟨⟨0, 50⟩, [.doBlock ⟨2, 48⟩ ⟨⟨4, 46⟩, [
    .conditional ⟨⟨6, 40⟩, [.expression (.ident ⟨7, 8⟩ "a")], ⟨⟨9, 12⟩, [.expression
      (.ident ⟨10, 11⟩ "x")]⟩,
      some (.chained ⟨⟨20, 40⟩, [.expression (.ident ⟨22, 23⟩ "x")], ⟨⟨24, 28⟩, [.expression
        (.ident ⟨25, 26⟩ "b")]⟩, none⟩)⟩]⟩]⟩

/-- The same with the `if` in a block, four places further on in the source. -/
def enclosedBody : Block :=
  ⟨⟨4, 56⟩, [.doBlock ⟨6, 54⟩ ⟨⟨8, 52⟩, [
    .conditional ⟨⟨10, 46⟩, [.expression (.ident ⟨11, 12⟩ "a")], ⟨⟨13, 16⟩, [.expression
      (.ident ⟨14, 15⟩ "x")]⟩,
      some (.block ⟨⟨22, 46⟩, [.conditional ⟨⟨24, 44⟩, [.expression (.ident ⟨26, 27⟩ "x")],
        ⟨⟨28, 32⟩, [.expression (.ident ⟨29, 30⟩ "b")]⟩, none⟩]⟩)⟩]⟩]⟩

theorem transform_of_chainedBody :
    hostedSetting.services.OverlooksPlaces Diagnostic.bare ∧
      chainedBody.unchained (fun _ => .point 0) = enclosedBody.unchained (fun _ => .point 0) ∧
      (transform hostedSetting chainedBody).result.Agree (fun _ => .point 0) (fun _ => .point 0)
        (transform hostedSetting enclosedBody).result ∧
      (transform hostedSetting enclosedBody).journal.diagnostics.length = 2 ∧
      (transform hostedSetting chainedBody).journal.diagnostics.map (·.bare) =
        (transform hostedSetting enclosedBody).journal.diagnostics.map (·.bare) := by
  obtain ⟨hosts, same⟩ := transform_of_unchained_eq
  have overlooks : hostedSetting.services.OverlooksPlaces Diagnostic.bare := hosts _
  have unchained : chainedBody.unchained (fun _ => .point 0) =
      enclosedBody.unchained (fun _ => .point 0) := rfl
  obtain ⟨agree, reports, _, _⟩ := same hostedSetting _ _ _ _ overlooks unchained
  exact ⟨overlooks, unchained, agree, rfl, reports⟩

end Transform

end ResultBuilder
