import ResultBuilder.Proofs.Body.Recast
import ResultBuilder.Proofs.Builder.Recorded
import ResultBuilder.Proofs.Synthesis.Asking

/-!
# Transforming a recast body

What becomes of a recast body is what becomes of the body, recast in the same way. The two runs
check the same things in the same order, and so they fail for the same reason; they ask about the
same parts, and so they report the same as long as the collaborators do not tell the recast parts
apart.

* **`Synthesized.recast`**, **`Transform.Result.recast`**: what becomes of a body, recast.
* **`Collaborators.Overlooks`**: collaborators who do not tell recast parts apart.
* **`Mirrors`**: a run and the run on what is recast.
* **`transform_recast`**: recasting commutes with the transform.
-/

namespace ResultBuilder

open Syntax

/-! ### Synthesized expressions -/

/-- Where the origin of a call stands. What joins the values of a block comes from a block. -/
def Syntax.Recast.origin (way : Recast) (capability : Capability) (span : Span) : Span :=
  if capability = .blockJoin then way.blockPlace span else way.place span

mutual

/-- A synthesized expression, recast. -/
def Synthesized.recast (way : Recast) : Synthesized → Synthesized
  | .leaf expr => .leaf (way.expr expr)
  | .call ⟨builder, capability, name, label, args, origin⟩ =>
      .call ⟨builder, capability, name, label, Synthesized.recastAll way args,
        way.origin capability origin⟩
  | .conditional conditions thenValue elseValue =>
      .conditional (conditions.map (·.recast way)) (thenValue.recast way) (elseValue.recast way)
  | .switch subject arms => .switch (way.expr subject) (Arm.recastAll way arms)
  | .nil => .nil

/-- Synthesized expressions, recast. -/
def Synthesized.recastAll (way : Recast) : List Synthesized → List Synthesized
  | [] => []
  | value :: rest => value.recast way :: Synthesized.recastAll way rest

/-- The values for the cases of a `switch`, recast. -/
def Arm.recastAll (way : Recast) : List Arm → List Arm
  | [] => []
  | ⟨label, value⟩ :: rest => ⟨label.recast way, value.recast way⟩ :: Arm.recastAll way rest

end

theorem Synthesized.recastAll_eq_map (way : Recast) (values : List Synthesized) :
    Synthesized.recastAll way values = values.map (·.recast way) := by
  induction values with
  | nil => rfl
  | cons value rest ih => rw [Synthesized.recastAll, ih, List.map_cons]

theorem Arm.recastAll_eq_map (way : Recast) (arms : List Arm) :
    Arm.recastAll way arms =
      arms.map fun arm => ⟨arm.label.recast way, arm.value.recast way⟩ := by
  induction arms with
  | nil => rfl
  | cons arm rest ih =>
      obtain ⟨label, value⟩ := arm
      rw [Arm.recastAll, ih, List.map_cons]

/-- **A way that suits a descriptor**: what is chosen for a capability is meant for it, at least as
far as the way is concerned. -/
def Syntax.Recast.Suits (way : Recast) (descriptor : Descriptor) : Prop :=
  ∀ ⦃capability : Capability⦄ ⦃count : Nat⦄ ⦃operation : Operation⦄,
    descriptor.Chooses capability count operation →
      ∀ span, way.origin operation.capability span = way.origin capability span

/-- What is recorded is meant for the capability that it is chosen for. -/
theorem Syntax.Recast.suits_of_sound (way : Recast) {descriptor : Descriptor}
    (sound : descriptor.Sound) : way.Suits descriptor := by
  intro capability count operation chosen span
  rw [chosen.capability_eq sound]

/-- A way that treats blocks like all else suits all descriptors. -/
theorem Syntax.Recast.suits_of_place_eq {way : Recast} (same : way.blockPlace = way.place)
    (descriptor : Descriptor) : way.Suits descriptor := by
  intro capability count operation _ span
  rw [origin, origin, same, ite_self, ite_self]

namespace Transform

open Journaled

/-- A built part whose expression is recast. -/
def Built.recast (way : Recast) (built : Built) : Built :=
  ⟨built.expr.recast way, built.shape⟩

/-- **What becomes of a body**, recast. -/
def Result.recast (way : Recast) : Result → Result
  | .built part => .built (part.recast way)
  | .verbatim body => .verbatim (body.recast way)
  | .failed error => .failed (error.recast way)

/-! ### What is built -/

section Built

variable (setting : Setting) (way : Recast)

theorem join_recast (operation : Operation) (parts : List Built) (origin : Span) :
    join setting operation (parts.map (·.recast way)) (way.origin operation.capability origin) =
      (join setting operation parts origin).recast way := by
  simp only [join, Built.recast, call, Synthesized.recast, Synthesized.recastAll_eq_map,
    List.map_map, Function.comp_def]

variable {setting} {way} (suits : way.Suits setting.descriptor)
include suits

/-- The values of a recast block are joined. -/
theorem join_recast_of_blockJoin? {operation : Operation} {count : Nat}
    (found : setting.descriptor.blockJoin? count = some operation) (parts : List Built)
    (span : Span) :
    join setting operation (parts.map (·.recast way)) (way.blockPlace span) =
      (join setting operation parts span).recast way := by
  rw [← join_recast, suits (Descriptor.chooses_of_blockJoin? found)]
  rfl

/-- A recast value is wrapped. -/
theorem wrap_recast {capability : Capability} {operation : Operation} {count : Nat}
    (chosen : setting.descriptor.Chooses capability count operation)
    (wraps : capability ≠ .blockJoin) (built : Built) (span : Span) :
    wrap setting operation (built.recast way) (way.place span) =
      (wrap setting operation built span).recast way := by
  have place : way.origin operation.capability span = way.place span := by
    rw [suits chosen, Recast.origin, if_neg wraps]
  rw [wrap, wrap, ← place]
  exact join_recast setting way operation [built] span

theorem doWrapped_recast (span : Span) (built : Built) :
    doWrapped setting (way.place span) (built.recast way) =
      (doWrapped setting span built).recast way := by
  unfold doWrapped
  cases found : setting.descriptor.doWrap with
  | none => rfl
  | some operation => exact wrap_recast suits (.doWrap found) nofun built span

theorem wrapAlong_recast {operations : Operation × Operation}
    (found : setting.descriptor.either? = some operations) (span : Span) (path : List Branch)
    (built : Built) :
    wrapAlong setting operations (way.place span) path (built.recast way) =
      (wrapAlong setting operations span path built).recast way := by
  obtain ⟨ofFirst, ofSecond⟩ := Descriptor.chooses_of_either? found
  induction path with
  | nil => rfl
  | cons branch rest ih =>
      cases branch with
      | first =>
          rw [wrapAlong_cons_first, wrapAlong_cons_first, ih, wrap_recast suits ofFirst nofun]
      | second =>
          rw [wrapAlong_cons_second, wrapAlong_cons_second, ih, wrap_recast suits ofSecond nofun]

theorem optional_recast {operation : Operation}
    (found : setting.descriptor.optionalWrap = some operation) (conditions : List Condition)
    (built : Built) (span : Span) :
    optional setting operation (conditions.map (·.recast way)) (built.recast way)
        (way.place span) =
      (optional setting operation conditions built span).recast way := by
  have place : way.origin operation.capability span = way.place span := by
    rw [suits (.optionalWrap found)]
    rfl
  simp only [optional, Built.recast, call, Synthesized.recast, Synthesized.recastAll, place]

theorem alternatives_recast {operations : Operation × Operation}
    (found : setting.descriptor.either? = some operations) (conditions : List Condition)
    (thenBuilt elseBuilt : Built) (span : Span) :
    alternatives setting operations (conditions.map (·.recast way)) (thenBuilt.recast way)
        (elseBuilt.recast way) (way.place span) =
      (alternatives setting operations conditions thenBuilt elseBuilt span).recast way := by
  obtain ⟨ofFirst, ofSecond⟩ := Descriptor.chooses_of_either? found
  rw [alternatives, alternatives, wrap_recast suits ofFirst nofun,
    wrap_recast suits ofSecond nofun]
  rfl

theorem wrapCases_recast {operations : Operation × Operation}
    (found : setting.descriptor.either? = some operations) (cases : List SwitchCase)
    (arms : List Built) :
    wrapCases setting (some operations) (SwitchCase.recastAll way cases)
        (arms.map (·.recast way)) =
      (wrapCases setting (some operations) cases arms).map (·.recast way) := by
  rw [wrapCases, wrapCases, SwitchCase.recastAll_eq_map, List.length_map, List.zip_map,
    List.zip_map_left, List.map_map, List.map_map]
  refine List.map_congr_left ?_
  rintro ⟨⟨switchCase, value⟩, path⟩ -
  exact wrapAlong_recast suits found switchCase.span path value

omit suits in
theorem chooseCase_recast (subject : Expr) (cases : List SwitchCase) (arms : List Built) :
    chooseCase (way.expr subject) (SwitchCase.recastAll way cases) (arms.map (·.recast way)) =
      (chooseCase subject cases arms).recast way := by
  rw [chooseCase, chooseCase, SwitchCase.recastAll_eq_map, List.foldl_map, Built.recast,
    Synthesized.recast, Arm.recastAll_eq_map, List.zip_map, List.map_map, List.map_map]
  rfl

end Built

end Transform

/-! ### What is reported -/

/-- **A view of diagnostics** that takes no notice of what is remarked on the way. -/
def Diagnostic.IsView (view : Diagnostic → Diagnostic) : Prop :=
  ∀ {left right : Diagnostic} (note : Note), view left = view right →
    view (left.withNote note) = view (right.withNote note)

/-- All that a diagnostic says is a view of it. -/
theorem Diagnostic.isView_id : Diagnostic.IsView id :=
  fun note same => congrArg (·.withNote note) same

/-- **Collaborators who do not tell recast parts apart**, as far as a view of their answers goes. -/
structure Collaborators.Overlooks (services : Collaborators) (way : Recast)
    (view : Diagnostic → Diagnostic) : Prop where
  exhaustive (context : BodyContext) (node : Switch) :
    (services.checkExhaustive context (node.recast way)).map view =
      (services.checkExhaustive context node).map view
  condition (context : BodyContext) (node : Condition) :
    (services.checkCondition context (node.recast way)).map view =
      (services.checkCondition context node).map view
  expression (context : BodyContext) (node : Expr) :
    (services.checkExpression context (way.expr node)).map view =
      (services.checkExpression context node).map view
  captures (context : BodyContext) (node : Expr) :
    (services.checkCaptures context (way.expr node)).map view =
      (services.checkCaptures context node).map view
  typeOf (context : BodyContext) (node : Expr) :
    services.typeOf context (way.expr node) = services.typeOf context node

namespace Transform

/-- **Journals with the same diagnostics** in a view. -/
def SameDiagnostics (view : Diagnostic → Diagnostic) (one other : Journal) : Prop :=
  other.diagnostics.map view = one.diagnostics.map view

theorem isStepwise_sameDiagnostics (view : Diagnostic → Diagnostic) :
    IsStepwise (SameDiagnostics view) where
  nil := rfl
  append ofFront ofBack := by
    rw [SameDiagnostics] at ofFront ofBack ⊢
    rw [Journal.diagnostics_append, Journal.diagnostics_append, List.map_append, List.map_append,
      ofFront, ofBack]

/-- Questions whose answers are the same in a view. -/
theorem sameDiagnostics_relay {view : Diagnostic → Diagnostic} (isView : Diagnostic.IsView view)
    (setting : Setting) (one other : Question) {answer otherAnswer : List Diagnostic}
    (same : otherAnswer.map view = answer.map view) :
    SameDiagnostics view (relay setting one answer) (relay setting other otherAnswer) := by
  rw [SameDiagnostics, diagnostics_relay, diagnostics_relay, List.map_map, List.map_map]
  induction answer generalizing otherAnswer with
  | nil =>
      rw [List.map_eq_nil_iff.mp same]
  | cons diagnostic rest ih =>
      obtain ⟨otherDiagnostic, otherRest, rfl, sameDiagnostic, sameRest⟩ :=
        List.map_eq_cons_iff.mp same
      rw [List.map_cons, List.map_cons, ih sameRest]
      exact congrArg (· :: _) (isView _ sameDiagnostic)

end Transform

/-! ### Runs -/

namespace Journaled

variable {ε δ α β γ : Type}

/-- A step whose failure is told in another way. -/
def mapError (change : ε → δ) (step : Journaled ε α) : Journaled δ α :=
  ⟨step.journal, step.outcome.mapError change⟩

theorem mapError_bind (change : ε → δ) (first : Journaled ε α) (next : α → Journaled ε β) :
    (first >>= next).mapError change =
      first.mapError change >>= fun value => (next value).mapError change := by
  obtain ⟨journal, _ | value⟩ := first <;> rfl

/-- A result that is passed on as it is. -/
theorem bind_pure (step : Journaled ε α) : (step >>= fun value => Pure.pure value) = step := by
  obtain ⟨journal, _ | value⟩ := step
  · rfl
  · show Journaled.mk (journal ++ []) _ = _
    rw [List.append_nil]
    rfl

/-- A changed result that is gone on with. -/
theorem map_bind (step : Journaled ε α) (change : α → β) (next : β → Journaled ε γ) :
    (change <$> step >>= next) = step >>= fun value => next (change value) := by
  obtain ⟨journal, _ | value⟩ := step
  · rfl
  · show Journaled.mk ((journal ++ []) ++ (next (change value)).journal) _ = _
    rw [List.append_nil]
    rfl

end Journaled

namespace Transform

open Journaled

section Mirrors

variable {α β γ δ : Type} (way : Recast) (view : Diagnostic → Diagnostic)

/-- **A run that mirrors another**: they end alike up to the recasting of an error, and they report
the same in a view. -/
def Mirrors (same : α → β → Prop) (first : Step α) (second : Step β) : Prop :=
  Coupled (SameDiagnostics view) same (first.mapError (·.recast way)) second

variable {way view}

namespace Mirrors

theorem pure {same : α → β → Prop} {value : α} {result : β} (related : same value result) :
    Mirrors way view same (Pure.pure value) (Pure.pure result) :=
  Coupled.pure (isStepwise_sameDiagnostics view) related

/-- Outcomes without a journal, of which the one is the other with its error recast. -/
theorem ofExcept (outcome : Except TransformError α) :
    Mirrors way view (fun left right => right = left ∧ outcome = .ok left)
      (Journaled.ofExcept outcome) (Journaled.ofExcept (outcome.mapError (·.recast way))) := by
  refine ⟨?_, rfl⟩
  cases outcome with
  | error error => exact .error _
  | ok value => exact .ok ⟨rfl, rfl⟩

theorem write {first second : Journal} (related : SameDiagnostics view first second) :
    Mirrors way view Eq (Journaled.write first) (Journaled.write second) :=
  Coupled.write related

/-- **Runs that go on mirroring each other mirror each other.** -/
theorem bind {same : α → β → Prop} {alsoSame : γ → δ → Prop} {first : Step α} {second : Step β}
    {next : α → Step γ} {follow : β → Step δ} (mirrors : Mirrors way view same first second)
    (goesOn : ∀ value result, same value result →
      Mirrors way view alsoSame (next value) (follow result)) :
    Mirrors way view alsoSame (first >>= next) (second >>= follow) := by
  rw [Mirrors, mapError_bind]
  exact Coupled.bind (isStepwise_sameDiagnostics view) mirrors goesOn

theorem map {same : α → β → Prop} {alsoSame : γ → δ → Prop} {first : Step α} {second : Step β}
    {change : α → γ} {follow : β → δ} (mirrors : Mirrors way view same first second)
    (kept : ∀ value result, same value result → alsoSame (change value) (follow result)) :
    Mirrors way view alsoSame (change <$> first) (follow <$> second) :=
  mirrors.bind fun value result related => .pure (kept value result related)

/-- What is written without a diagnostic makes no difference to the one. -/
theorem silently {same : α → β → Prop} {first : Step α} {second : Step β} {journal : Journal}
    (silent : journal.diagnostics = []) (mirrors : Mirrors way view same first second) :
    Mirrors way view same (Journaled.write journal >>= fun _ => first) second := by
  refine ⟨mirrors.outcome, ?_⟩
  show SameDiagnostics view (journal ++ first.journal) second.journal
  rw [SameDiagnostics, Journal.diagnostics_append, silent]
  exact mirrors.journal

/-- What is written without a diagnostic makes no difference to the other. -/
theorem alsoSilently {same : α → β → Prop} {first : Step α} {second : Step β} {journal : Journal}
    (silent : journal.diagnostics = []) (mirrors : Mirrors way view same first second) :
    Mirrors way view same first (Journaled.write journal >>= fun _ => second) := by
  refine ⟨mirrors.outcome, ?_⟩
  show SameDiagnostics view first.journal (journal ++ second.journal)
  rw [SameDiagnostics, Journal.diagnostics_append, silent]
  exact mirrors.journal

end Mirrors

end Mirrors

/-! ### Parts of a body -/

section Parts

variable {setting : Setting} {way : Recast} {view : Diagnostic → Diagnostic}
variable (isView : Diagnostic.IsView view) (overlooks : setting.services.Overlooks way view)
variable (suits : way.Suits setting.descriptor)

section Checks

include isView overlooks

theorem sameDiagnostics_leafChecks (expr : Expr) :
    SameDiagnostics view (leafChecks setting expr) (leafChecks setting (way.expr expr)) := by
  refine (isStepwise_sameDiagnostics view).append ?_ ?_
  · split
    · exact sameDiagnostics_relay isView setting _ _ (overlooks.expression _ _)
    · rfl
  · split
    · exact sameDiagnostics_relay isView setting _ _ (overlooks.captures _ _)
    · rfl

theorem sameDiagnostics_conditionChecks (conditions : List Condition) :
    SameDiagnostics view (conditions.flatMap (conditionChecks setting))
      ((conditions.map (·.recast way)).flatMap (conditionChecks setting)) := by
  rw [List.flatMap_map]
  refine (isStepwise_sameDiagnostics view).flatMap conditions fun condition _ => ?_
  rw [conditionChecks, conditionChecks, condition.expr_recast]
  exact (isStepwise_sameDiagnostics view).append
    (sameDiagnostics_relay isView setting _ _ (overlooks.condition _ _))
    (sameDiagnostics_leafChecks isView overlooks _)

theorem sameDiagnostics_switchChecks (node : Switch) :
    SameDiagnostics view (switchChecks setting node) (switchChecks setting (node.recast way)) := by
  have subject : (node.recast way).subject = way.expr node.subject := by
    cases node
    rfl
  rw [switchChecks, switchChecks, subject]
  exact (isStepwise_sameDiagnostics view).append
    (sameDiagnostics_relay isView setting _ _ (overlooks.exhaustive _ _))
    (sameDiagnostics_leafChecks isView overlooks _)

theorem mirrors_leaf (expr : Expr) :
    Mirrors way view (fun left right => right = left.recast way) (leaf setting expr)
      (leaf setting (way.expr expr)) := by
  refine .bind (.write (sameDiagnostics_leafChecks isView overlooks expr)) fun _ _ _ => ?_
  refine .bind (.write rfl) fun _ _ _ => .pure ?_
  rw [overlooks.typeOf]
  rfl

end Checks

/-- A single statement is checked alone. -/
theorem checkAll_singleton (setting : Setting) (statement : Statement) :
    checkAll setting [statement] = check setting statement := by
  rw [checkAll, checkAll]
  cases check setting statement <;> rfl

/-- An `if` as the only statement of a block has one value. -/
theorem components_conditional (setting : Setting) (node : Conditional) :
    components setting [.conditional node] =
      Journaled.write (statementEvent setting (.conditional node)) >>= fun _ =>
        conditional setting node >>= fun built => Pure.pure [built] := by
  rw [components, component, components, map_bind]
  rfl

include isView overlooks suits
-- in a mutual block a hypothesis may only be needed through the other theorems
set_option linter.unusedSectionVars false

mutual

/-- **A recast block is transformed like the block.** -/
theorem mirrors_block : ∀ body : Block,
    Mirrors way view (fun left right => right = left.recast way) (block setting body)
      (block setting (body.recast way))
  | ⟨span, statements⟩ => by
      rw [Block.recast, block, block, checkAll_recast, componentSpans_recast, blockJoin_recast]
      refine .bind (.ofExcept _) fun _ _ _ => .bind (.ofExcept _) ?_
      rintro operation _ ⟨rfl, found⟩
      refine .bind (mirrors_components statements) ?_
      rintro parts _ rfl
      exact .pure (join_recast_of_blockJoin? suits (blockJoin_eq_ok_iff.mp found) parts span)

/-- Recast statements are transformed like the statements. -/
theorem mirrors_components : ∀ statements : List Statement,
    Mirrors way view (fun left right => right = left.map (·.recast way))
      (components setting statements) (components setting (Statement.recastAll way statements))
  | [] => by
      rw [Statement.recastAll, components]
      exact .pure rfl
  | statement :: rest => by
      have ofRest := mirrors_components rest
      rw [Statement.recastAll, components]
      split
      · next drops =>
          -- a directive has no value, so that the other statements are all there is
          obtain ⟨node, rfl⟩ := Recast.exists_of_drops drops
          rw [component]
          refine .silently rfl ?_
          have alone : (Pure.pure none >>= fun first : Option Built =>
              components setting rest >>= fun others => Pure.pure (first.toList ++ others)) =
                components setting rest :=
            bind_pure (components setting rest)
          rw [alone]
          exact ofRest
      · rw [components]
        refine .bind (.write rfl) fun _ _ _ => .bind (mirrors_component statement) ?_
        rintro first _ rfl
        refine .bind ofRest ?_
        rintro others _ rfl
        refine .pure ?_
        rw [List.map_append, Option.toList_map]

/-- A recast statement is transformed like the statement. -/
theorem mirrors_component : ∀ statement : Statement,
    Mirrors way view (fun left right => right = left.map (·.recast way))
      (component setting statement) (component setting (statement.recast way))
  | .expression expr | .returning _ _ (some expr) => by
      simp only [Statement.recast, Option.map_some, component]
      refine .map (mirrors_leaf isView overlooks expr) ?_
      rintro built _ rfl
      rfl
  | .conditional node => by
      rw [Statement.recast, component, component]
      refine .map (mirrors_conditional node) ?_
      rintro built _ rfl
      rfl
  | .switch node => by
      rw [Statement.recast, component, component]
      refine .map (mirrors_switch node) ?_
      rintro built _ rfl
      rfl
  | .doBlock span body => by
      rw [Statement.recast, component, component]
      refine .bind (mirrors_block body) ?_
      rintro built _ rfl
      exact .pure (congrArg some (doWrapped_recast suits span built))
  | .returning _ _ none | .directive _ | .declaration _ | .loop _ | .fallthrough _
  | .jump _ _ => by
      simp only [Statement.recast, Option.map_none, component]
      exact .pure rfl

/-- A recast `if` is transformed like the `if`. -/
theorem mirrors_conditional : ∀ node : Conditional,
    Mirrors way view (fun left right => right = left.recast way) (conditional setting node)
      (conditional setting (node.recast way))
  | ⟨span, conditions, thenBlock, none⟩ => by
      rw [Conditional.recast, conditional, conditional, optionalWrap_recast]
      refine .bind (.write (sameDiagnostics_conditionChecks isView overlooks conditions))
        fun _ _ _ => .bind (mirrors_block thenBlock) ?_
      rintro built _ rfl
      refine .bind (.ofExcept _) ?_
      rintro operation _ ⟨rfl, found⟩
      exact .pure (optional_recast suits (optionalWrap_eq_ok_iff.mp found) conditions built span)
  | ⟨span, conditions, thenBlock, some otherwise⟩ => by
      rw [Conditional.recast, conditional, conditional, either_recast]
      refine .bind (.write (sameDiagnostics_conditionChecks isView overlooks conditions))
        fun _ _ _ => .bind (mirrors_block thenBlock) ?_
      rintro thenBuilt _ rfl
      refine .bind (.ofExcept _) ?_
      rintro operations _ ⟨rfl, found⟩
      rw [alternative]
      refine .bind (mirrors_alternative otherwise) ?_
      rintro elseBuilt _ rfl
      exact .pure
        (alternatives_recast suits (either_eq_ok_iff.mp found) conditions thenBuilt elseBuilt span)

/-- **What is done otherwise is transformed like the block** that it is recast as. A chained `if`
is checked, joined and transformed in the same order as the only statement of a block. -/
theorem mirrors_alternative : ∀ otherwise : Syntax.Alternative,
    Mirrors way view (fun left right => right = left.recast way) (alternative setting otherwise)
      (block setting (otherwise.recast way))
  | .block node => by
      rw [Syntax.Alternative.recast, alternative]
      exact mirrors_block node
  | .chained node => by
      have checked : checkAll setting [.conditional (node.recast way)] =
          (check setting (.conditional node)).mapError (·.recast way) := by
        rw [checkAll_singleton]
        exact check_recast way setting (.conditional node)
      have places : componentSpans [.conditional (node.recast way)] =
          [node.span].map way.place := by
        have single : componentSpans [.conditional node] = [node.span] := by
          obtain ⟨span, conditions, thenBlock, _ | otherwise⟩ := node <;> rfl
        rw [← single, ← componentSpans_recast]
        rfl
      rw [Syntax.Alternative.recast, alternative, block, checked, places, blockJoin_recast,
        components_conditional]
      refine .bind (.ofExcept _) fun _ _ _ => .bind (.ofExcept _) ?_
      rintro operation _ ⟨rfl, found⟩
      have single : Mirrors way view (fun left right => right = [left.recast way])
          (conditional setting node)
          (conditional setting (node.recast way) >>= fun built => Pure.pure [built]) := by
        rw [← bind_pure (conditional setting node)]
        exact .bind (mirrors_conditional node) fun _ _ same => .pure (congrArg ([·]) same)
      refine .bind (.alsoSilently rfl single) ?_
      rintro built _ rfl
      exact .pure
        (join_recast_of_blockJoin? suits (blockJoin_eq_ok_iff.mp found) [built] node.span)

/-- A recast `switch` is transformed like the `switch`. -/
theorem mirrors_switch : ∀ node : Switch,
    Mirrors way view (fun left right => right = left.recast way) (switch setting node)
      (switch setting (node.recast way))
  | ⟨span, subject, cases⟩ => by
      have checks := sameDiagnostics_switchChecks isView overlooks ⟨span, subject, cases⟩
      rw [Switch.recast] at checks
      rw [Switch.recast, switch, switch, either_recast]
      refine .bind (.write checks) fun _ _ _ => .bind (mirrors_caseBodies cases) ?_
      rintro arms _ rfl
      rw [List.length_map]
      split
      · refine .bind (.ofExcept _) ?_
        rintro operations _ ⟨rfl, found⟩
        refine .pure ?_
        rw [wrapCases_recast suits (either_eq_ok_iff.mp found), chooseCase_recast]
      · exact .pure (chooseCase_recast subject cases arms)

/-- The bodies of recast cases are transformed like those of the cases. -/
theorem mirrors_caseBodies : ∀ cases : List SwitchCase,
    Mirrors way view (fun left right => right = left.map (·.recast way))
      (caseBodies setting cases) (caseBodies setting (SwitchCase.recastAll way cases))
  | [] => by
      rw [SwitchCase.recastAll, caseBodies]
      exact .pure rfl
  | ⟨_, _, body⟩ :: rest => by
      rw [SwitchCase.recastAll, caseBodies, caseBodies]
      refine .bind (mirrors_block body) ?_
      rintro first _ rfl
      refine .bind (mirrors_caseBodies rest) ?_
      rintro others _ rfl
      exact .pure rfl

end

/-- A recast body fails for the same rejected statement, and otherwise is transformed like the
body. -/
theorem mirrors_wholeBody (body : Block) :
    Mirrors way view (fun left right => right = left.recast way) (wholeBody setting body)
      (wholeBody setting (body.recast way)) := by
  rw [wholeBody, wholeBody, Block.rejection?_recast]
  cases body.rejection? with
  | none => exact mirrors_block isView overlooks suits body
  | some rejection =>
      refine ⟨?_, rfl⟩
      show Alike _ (.error ((rejected setting rejection).recast way))
        (.error (rejected setting (rejection.recast way)))
      rw [rejected_recast]
      exact .error _

end Parts

/-! ### Bodies -/

/-- A recast body is disabled when the body is. Directives may only be left out of a body without
returns: next to a sole return they would tell whether it is the only statement. -/
theorem isDisabled_recast {way : Recast} {body : Block}
    (harmless : way.keepsDirectives = true ∨ body.returns = []) :
    IsDisabled (body.recast way) ↔ IsDisabled body := by
  rw [IsDisabled, IsDisabled, Block.returns_recast, ne_eq, List.map_eq_nil_iff]
  rcases harmless with keeps | noReturns
  · rw [Block.isSoleReturn_recast keeps]
  · exact iff_of_false (fun disables => disables.1 noReturns) fun disables => disables.1 noReturns

/-- A body that is not left as it is reports what comes up on the way. -/
theorem diagnostics_of_not_isDisabled {setting : Setting} {body : Block}
    (enables : ¬ IsDisabled body) :
    (transform setting body).journal.diagnostics =
      (wholeBody setting body).journal.diagnostics := by
  unfold transform
  rw [if_neg (by simpa [IsDisabled] using enables)]
  dsimp only
  cases (wholeBody setting body).outcome with
  | ok built => rfl
  | error error =>
      rw [Journal.diagnostics_append]
      exact List.append_nil _

/-- **Recasting commutes with the transform.** What becomes of a recast body is what becomes of the
body, recast. Unless the body is left as it is, the same is reported in a view in which
collaborators do not tell the recast parts apart. -/
theorem transform_recast {setting : Setting} {way : Recast} {view : Diagnostic → Diagnostic}
    (isView : Diagnostic.IsView view) (overlooks : setting.services.Overlooks way view)
    (suits : way.Suits setting.descriptor) {body : Block}
    (harmless : way.keepsDirectives = true ∨ body.returns = []) :
    (transform setting (body.recast way)).result =
        (transform setting body).result.recast way ∧
      (¬ IsDisabled body → SameDiagnostics view (transform setting body).journal
        (transform setting (body.recast way)).journal) := by
  by_cases disables : IsDisabled body
  · rw [transform_of_isDisabled disables,
      transform_of_isDisabled ((isDisabled_recast harmless).mpr disables)]
    exact ⟨rfl, fun enables => absurd disables enables⟩
  · have stillEnables : ¬ IsDisabled (body.recast way) :=
      fun disabled => disables ((isDisabled_recast harmless).mp disabled)
    obtain ⟨ends, reports⟩ := mirrors_wholeBody isView overlooks suits body
    constructor
    · rw [result_of_not_isDisabled disables, result_of_not_isDisabled stillEnables]
      change Alike _ ((wholeBody setting body).outcome.mapError _) _ at ends
      generalize (wholeBody setting body).outcome = first at ends
      generalize (wholeBody setting (body.recast way)).outcome = second at ends
      cases first with
      | error error =>
          cases ends
          rfl
      | ok built =>
          cases ends with
          | ok related =>
              subst related
              rfl
    · intro _
      rw [SameDiagnostics, diagnostics_of_not_isDisabled disables,
        diagnostics_of_not_isDisabled stillEnables]
      exact reports

end Transform

end ResultBuilder
