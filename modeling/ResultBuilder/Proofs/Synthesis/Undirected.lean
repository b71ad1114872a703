import ResultBuilder.Proofs.Body.Nesting
import ResultBuilder.Proofs.Host.Places
import ResultBuilder.Proofs.Synthesis.Calls
import ResultBuilder.Proofs.Synthesis.Recast

/-!
# Directives take no part in the transform

Directives speak to the reader of a source. Wherever they stand in a body, in whichever of its
blocks, the same becomes of the body without them. With a directive a block gets longer, and so the
places of blocks are left out when bodies with and without directives are compared.

* **`Block.undirected`**: a body without its directives and the places of its blocks.
* **`Result.SameOffBlocks`**: results that differ in the places of blocks only.
* **`transform_of_undirected_eq`**: the same becomes of bodies that differ in directives only.
-/

namespace ResultBuilder

open Syntax

/-! ### Bodies without directives -/

/-- Bodies without directives and the places of blocks. All else stays where it is. -/
def Syntax.Recast.undirecting : Recast where
  place := id
  blockPlace _ := .point 0
  expr := id
  pattern := id
  keepsDirectives := false
  span_expr _ := rfl

/-- **A block without directives** and the places of blocks, in all blocks within it. -/
def Syntax.Block.undirected (block : Block) : Block :=
  block.recast .undirecting

/-- A directive more or less makes no difference, wherever it stands in a block. -/
theorem Syntax.Block.undirected_insert (span other : Span) (front back : List Statement)
    (node : Directive) :
    (Block.mk span (front ++ .directive node :: back)).undirected =
      (Block.mk other (front ++ back)).undirected :=
  congrArg (Block.mk _) (Statement.recastAll_insert rfl front back node)

/-- A synthesized expression without the places of the blocks that its values come from. -/
def Synthesized.offBlocks (value : Synthesized) : Synthesized :=
  value.recast .undirecting

/-- An error without the place of a block. -/
def TransformError.offBlocks (error : TransformError) : TransformError :=
  error.recast .undirecting

/-! ### Collaborators -/

namespace Syntax

/-- Without directives a condition stays as it is. -/
theorem Condition.recast_undirecting (condition : Condition) :
    condition.recast .undirecting = condition := by
  cases condition <;> rfl

/-- Without directives a label stays as it is. -/
theorem CaseLabel.recast_undirecting (label : CaseLabel) :
    label.recast .undirecting = label := by
  cases label with
  | default => rfl
  | patterns listed => exact congrArg CaseLabel.patterns (List.map_id listed)

/-- Without directives only the bodies of cases change. -/
theorem Switch.recast_undirecting (node : Switch) :
    node.recast .undirecting = node.withBodies Block.undirected := by
  obtain ⟨span, subject, cases⟩ := node
  rw [Switch.recast, SwitchCase.recastAll_eq_map, Switch.withBodies]
  refine congrArg (Switch.mk span subject) (List.map_congr_left fun switchCase _ => ?_)
  rw [CaseLabel.recast_undirecting]
  rfl

end Syntax

theorem Collaborators.OverlooksArms.overlooks {services : Collaborators}
    (overlooks : services.OverlooksArms) : services.Overlooks .undirecting id where
  exhaustive context node := by rw [Switch.recast_undirecting, overlooks]
  condition _ node := by rw [node.recast_undirecting]
  expression _ _ := rfl
  captures _ _ := rfl
  typeOf _ _ := rfl

/-! ### Bodies -/

namespace Transform

/-- **The same becomes of a body** apart from the places of blocks. -/
inductive Result.SameOffBlocks : Result → Result → Prop where
  /-- The same is synthesized, with the same shape. -/
  | built {left right : Built} (expr_eq : left.expr.offBlocks = right.expr.offBlocks)
      (shape_eq : left.shape = right.shape) : SameOffBlocks (.built left) (.built right)
  /-- The same error occurs. -/
  | failed {left right : TransformError} (error_eq : left.offBlocks = right.offBlocks) :
      SameOffBlocks (.failed left) (.failed right)

/-- Results that are equal without directives are the same off blocks, unless bodies are left as
they are. -/
theorem Result.sameOffBlocks_of_recast_eq {left right : Result}
    (same : left.recast .undirecting = right.recast .undirecting)
    (transformed : ∀ body, left ≠ .verbatim body) : left.SameOffBlocks right := by
  cases left with
  | built left =>
      cases right with
      | built right =>
          obtain ⟨expr_eq, shape_eq⟩ := Built.mk.inj (Result.built.inj same)
          exact .built expr_eq shape_eq
      | verbatim | failed => cases same
  | verbatim body => exact absurd rfl (transformed body)
  | failed left =>
      cases right with
      | failed right => exact .failed (Result.failed.inj same)
      | built | verbatim => cases same

/-- **Directives take no part in the transform.** For the descriptor of any builder, and any
collaborators who judge a `switch` by its labels: two bodies without a `return` that are the same
once the directives in all of their blocks are left out, apart from the places of their blocks,
become the same. Either both are transformed to the same expression with the same shape, or both
fail with the same error; only places of blocks can differ. The same is reported, in the same
order. -/
theorem transform_of_undirected_eq (decl : TypeDecl) (setting : Setting)
    (resolved : Descriptor.resolve decl = .ok setting.descriptor)
    (overlooks : setting.services.OverlooksArms) (one other : Block)
    (noReturn : ¬ Somewhere true HasReturn one.statements)
    (same : one.undirected = other.undirected) :
    (transform setting one).result.SameOffBlocks (transform setting other).result ∧
      (transform setting one).journal.diagnostics =
        (transform setting other).journal.diagnostics := by
  have returnsOne : one.returns = [] := by
    rwa [← returns_ne_nil_iff, ne_eq, Decidable.not_not] at noReturn
  have returnsOther : other.returns = [] := by
    have mapped := congrArg Block.returns same
    rwa [Block.undirected, Block.undirected, Block.returns_recast, Block.returns_recast, returnsOne,
      List.map_nil, eq_comm, List.map_eq_nil_iff] at mapped
  have enablesOne : ¬ IsDisabled one := fun disables => disables.1 returnsOne
  have enablesOther : ¬ IsDisabled other := fun disables => disables.1 returnsOther
  have suits : Recast.undirecting.Suits setting.descriptor :=
    Recast.suits_of_sound _ (Descriptor.sound_of_resolve resolved)
  obtain ⟨ofOne, reportsOne⟩ :=
    transform_recast Diagnostic.isView_id overlooks.overlooks suits (.inr returnsOne)
  obtain ⟨ofOther, reportsOther⟩ :=
    transform_recast Diagnostic.isView_id overlooks.overlooks suits (.inr returnsOther)
  -- both bodies become the same body without directives, whose transform both are compared with
  rw [Block.undirected, Block.undirected] at same
  rw [same] at ofOne reportsOne
  constructor
  · refine Result.sameOffBlocks_of_recast_eq (ofOne.symm.trans ofOther) fun body verbatim => ?_
    rw [result_of_not_isDisabled enablesOne] at verbatim
    split at verbatim <;> cases verbatim
  · have reports := (reportsOne enablesOne).symm.trans (reportsOther enablesOther)
    rwa [List.map_id, List.map_id] at reports

/-! ### A body with directives -/

/-- A setting with a collaborator who asks for a case that matches everything. -/
def askingSetting : Setting :=
  { BuilderCall.versatileSetting with
    services := { Collaborators.permissive with
      checkExhaustive _ node :=
        if node.cases.any (·.label.isCatchAll) then []
        else [⟨.error, 1, "no default case", [.primary "here" node.span], []⟩] } }

theorem overlooksArms_askingSetting : askingSetting.services.OverlooksArms := by
  intro _ node bodies
  have catchAll : (node.withBodies bodies).cases.any (·.label.isCatchAll) =
      node.cases.any (·.label.isCatchAll) :=
    List.any_map
  simp only [askingSetting, catchAll]
  rfl

/-- An `if` and a `switch` without a default case, given the blocks in them. -/
def branchingStatements (thenBlock elseBlock caseBlock : Block) : Statement × Statement :=
  (.conditional ⟨⟨20, 30⟩, [.expression (.ident ⟨21, 22⟩ "x")], thenBlock, some (.block elseBlock)⟩,
    .switch ⟨⟨40, 80⟩, .ident ⟨41, 42⟩ "y",
      [⟨⟨43, 60⟩, .patterns [⟨⟨44, 49⟩, ".left", some "left", false, false⟩], caseBlock⟩]⟩)

/-- A directive. -/
def remark : Statement :=
  .directive ⟨⟨1, 9⟩, .warning, "look", ⟨2, 8⟩⟩

/-- A statement of a name. -/
def nameStatement : Statement :=
  .expression (.ident ⟨50, 51⟩ "x")

/-- A body with directives in all of its blocks. -/
def remarkedBody : Block :=
  let parts := branchingStatements
    ⟨⟨23, 26⟩, [remark, nameStatement]⟩ ⟨⟨27, 30⟩, [nameStatement, remark]⟩
    ⟨⟨50, 60⟩, [remark, .doBlock ⟨50, 51⟩ ⟨⟨50, 55⟩, [remark, nameStatement]⟩]⟩
  ⟨⟨0, 90⟩, [remark, parts.1, remark, remark, parts.2]⟩

/-- The same without a directive, so that its blocks are shorter. -/
def unremarkedBody : Block :=
  let parts := branchingStatements
    ⟨⟨23, 24⟩, [nameStatement]⟩ ⟨⟨27, 28⟩, [nameStatement]⟩
    ⟨⟨50, 52⟩, [.doBlock ⟨50, 51⟩ ⟨⟨50, 51⟩, [nameStatement]⟩]⟩
  ⟨⟨0, 80⟩, [parts.1, parts.2]⟩

theorem transform_of_remarkedBody :
    remarkedBody.undirected = unremarkedBody.undirected ∧
      (∃ built, (transform askingSetting remarkedBody).result = .built built) ∧
      (transform askingSetting remarkedBody).result.SameOffBlocks
        (transform askingSetting unremarkedBody).result ∧
      (transform askingSetting unremarkedBody).journal.diagnostics.map (·.message) =
        ["no default case"] ∧
      (transform askingSetting remarkedBody).journal.diagnostics =
        (transform askingSetting unremarkedBody).journal.diagnostics := by
  have same : remarkedBody.undirected = unremarkedBody.undirected := rfl
  have noReturn : ¬ Somewhere true HasReturn remarkedBody.statements :=
    fun somewhere => (returns_ne_nil_iff _).mpr somewhere rfl
  obtain ⟨result, reports⟩ := transform_of_undirected_eq BuilderCall.versatileType askingSetting rfl
    overlooksArms_askingSetting remarkedBody unremarkedBody noReturn same
  exact ⟨same, ⟨_, rfl⟩, result, rfl, reports⟩

end Transform

end ResultBuilder
