import ResultBuilder.Proofs.Host.Revised
import ResultBuilder.Proofs.Synthesis.Calls
import ResultBuilder.Proofs.Synthesis.Asking

/-!
# Closures are opaque to the body around them

The statements of a closure take no part in how the body around the closure is transformed: they can
be a builder body of their own, and what is wrong with them is found there. Transforming a body after
its closures are revised comes to the same as revising the closures in what becomes of the body.

* **`Synthesized.revise`**, **`Transform.Result.revise`**: closures revised in what becomes of a body.
* **`coupled_block`** and its companions: parts of a body, with and without revised closures.
* **`transform_revise`**: revising closures commutes with the transform.
* **`transform_of_sealed_eq`**: bodies that differ inside of closures alone become the same.
-/

namespace ResultBuilder

open Syntax

/-! ### Synthesized expressions -/

mutual

/-- A synthesized expression whose leaves, conditions and subjects are revised. -/
def Synthesized.revise (revision : Revision) : Synthesized → Synthesized
  | .leaf expr => .leaf (expr.revise revision)
  | .call ⟨builder, capability, name, label, args, origin⟩ =>
      .call ⟨builder, capability, name, label, Synthesized.reviseAll revision args, origin⟩
  | .conditional conditions thenValue elseValue =>
      .conditional (Condition.reviseAll revision conditions) (thenValue.revise revision)
        (elseValue.revise revision)
  | .switch subject arms => .switch (subject.revise revision) (Arm.reviseAll revision arms)
  | .nil => .nil

/-- Synthesized expressions, revised. -/
def Synthesized.reviseAll (revision : Revision) : List Synthesized → List Synthesized
  | [] => []
  | value :: rest => value.revise revision :: Synthesized.reviseAll revision rest

/-- The values for the cases of a `switch`, revised. -/
def Arm.reviseAll (revision : Revision) : List Arm → List Arm
  | [] => []
  | ⟨label, value⟩ :: rest => ⟨label, value.revise revision⟩ :: Arm.reviseAll revision rest

end

theorem Synthesized.reviseAll_eq_map (revision : Revision) (values : List Synthesized) :
    Synthesized.reviseAll revision values = values.map (·.revise revision) := by
  induction values with
  | nil => rfl
  | cons value rest ih => rw [Synthesized.reviseAll, ih, List.map_cons]

theorem Arm.reviseAll_eq_map (revision : Revision) (arms : List Arm) :
    Arm.reviseAll revision arms = arms.map fun arm => ⟨arm.label, arm.value.revise revision⟩ := by
  induction arms with
  | nil => rfl
  | cons arm rest ih =>
      obtain ⟨label, value⟩ := arm
      rw [Arm.reviseAll, ih, List.map_cons]

namespace Transform

/-- A built part whose expression is revised. -/
def Built.revise (revision : Revision) (built : Built) : Built :=
  ⟨built.expr.revise revision, built.shape⟩

/-- **What becomes of a body**, with its closures revised. -/
def Result.revise (revision : Revision) : Result → Result
  | .built part => .built (part.revise revision)
  | .verbatim body => .verbatim (body.revise revision)
  | .failed error => .failed error

/-! ### What is built -/

section Built

variable (setting : Setting) (revision : Revision)

theorem join_revise (operation : Operation) (parts : List Built) (origin : Span) :
    join setting operation (parts.map (·.revise revision)) origin =
      (join setting operation parts origin).revise revision := by
  simp only [join, Built.revise, call, Synthesized.revise, Synthesized.reviseAll_eq_map,
    List.map_map, Function.comp_def]

theorem wrap_revise (operation : Operation) (built : Built) (origin : Span) :
    wrap setting operation (built.revise revision) origin =
      (wrap setting operation built origin).revise revision :=
  join_revise setting revision operation [built] origin

theorem doWrapped_revise (span : Span) (built : Built) :
    doWrapped setting span (built.revise revision) =
      (doWrapped setting span built).revise revision := by
  unfold doWrapped
  cases setting.descriptor.doWrap with
  | none => rfl
  | some operation => exact wrap_revise setting revision operation built span

theorem wrapAlong_revise (operations : Operation × Operation) (origin : Span) (path : List Branch)
    (built : Built) :
    wrapAlong setting operations origin path (built.revise revision) =
      (wrapAlong setting operations origin path built).revise revision := by
  induction path with
  | nil => rfl
  | cons branch rest ih =>
      cases branch with
      | first => rw [wrapAlong_cons_first, wrapAlong_cons_first, ih, wrap_revise]
      | second => rw [wrapAlong_cons_second, wrapAlong_cons_second, ih, wrap_revise]

theorem optional_revise (operation : Operation) (conditions : List Condition) (built : Built)
    (origin : Span) :
    optional setting operation (conditions.map (·.revise revision)) (built.revise revision) origin =
      (optional setting operation conditions built origin).revise revision := by
  simp only [optional, Built.revise, call, Synthesized.revise, Synthesized.reviseAll,
    Condition.reviseAll_eq_map]

theorem alternatives_revise (operations : Operation × Operation) (conditions : List Condition)
    (thenBuilt elseBuilt : Built) (origin : Span) :
    alternatives setting operations (conditions.map (·.revise revision)) (thenBuilt.revise revision)
        (elseBuilt.revise revision) origin =
      (alternatives setting operations conditions thenBuilt elseBuilt origin).revise revision := by
  rw [alternatives, alternatives, wrap_revise, wrap_revise, ← Condition.reviseAll_eq_map]
  show _ = Built.mk (Synthesized.revise revision (.conditional _ _ _)) _
  rw [Synthesized.revise]
  rfl

variable {revision} (ofClosures : revision.OfClosures)
include ofClosures

theorem wrapCases_revise (operations : Operation × Operation) (cases : List SwitchCase)
    (arms : List Built) :
    wrapCases setting (some operations) (cases.map (·.revise revision))
        (arms.map (·.revise revision)) =
      (wrapCases setting (some operations) cases arms).map (·.revise revision) := by
  rw [wrapCases, wrapCases, List.length_map, List.zip_map, List.zip_map_left, List.map_map,
    List.map_map]
  refine List.map_congr_left ?_
  rintro ⟨⟨⟨span, label, body⟩, value⟩, path⟩ -
  show wrapAlong setting operations ((SwitchCase.mk span label body).revise revision).span path
    (value.revise revision) = _
  rw [SwitchCase.revise_of_closures ofClosures, wrapAlong_revise]
  rfl

theorem chooseCase_revise (subject : Expr) (cases : List SwitchCase) (arms : List Built) :
    chooseCase (subject.revise revision) (cases.map (·.revise revision))
        (arms.map (·.revise revision)) =
      (chooseCase subject cases arms).revise revision := by
  rw [chooseCase, chooseCase, List.foldl_map, Built.revise, Synthesized.revise,
    Arm.reviseAll_eq_map, List.zip_map, List.map_map, List.map_map]
  congr 2
  refine List.map_congr_left ?_
  rintro ⟨⟨span, label, body⟩, value⟩ -
  show Arm.mk ((SwitchCase.mk span label body).revise revision).label _ = _
  rw [SwitchCase.revise_of_closures ofClosures]
  rfl

end Built

/-! ### What is written -/

/-- **Journals with the same reports** and events. The questions in them may be about different
trees. -/
structure SameReports (one other : Journal) : Prop where
  diagnostics_eq : other.diagnostics = one.diagnostics
  events_eq : other.events = one.events

theorem isStepwise_sameReports : IsStepwise SameReports where
  nil := ⟨rfl, rfl⟩
  append ofFront ofBack := by
    constructor
    · rw [Journal.diagnostics_append, Journal.diagnostics_append, ofFront.diagnostics_eq,
        ofBack.diagnostics_eq]
    · rw [Journal.events_append, Journal.events_append, ofFront.events_eq, ofBack.events_eq]

theorem SameReports.refl (journal : Journal) : SameReports journal journal :=
  ⟨rfl, rfl⟩

/-- Different questions with the same answer. -/
theorem sameReports_relay {setting : Setting} (one other : Question) (answer : List Diagnostic) :
    SameReports (relay setting one answer) (relay setting other answer) :=
  ⟨rfl, rfl⟩

/-! ### Parts of a body -/

section Parts

variable {setting : Setting} (overlooks : setting.services.OverlooksClosures)
variable {revision : Revision} (ofClosures : revision.OfClosures)
include overlooks ofClosures
-- in a mutual block a hypothesis may only be needed through the other theorems
set_option linter.unusedSectionVars false

theorem sameReports_leafChecks (expr : Expr) :
    SameReports (leafChecks setting expr) (leafChecks setting (expr.revise revision)) := by
  rw [leafChecks, leafChecks, overlooks.expression ofClosures, overlooks.captures ofClosures]
  refine isStepwise_sameReports.append ?_ ?_
  · split
    · exact sameReports_relay _ _ _
    · exact .refl []
  · split
    · exact sameReports_relay _ _ _
    · exact .refl []

theorem sameReports_conditionChecks (conditions : List Condition) :
    SameReports (conditions.flatMap (conditionChecks setting))
      ((conditions.map (·.revise revision)).flatMap (conditionChecks setting)) := by
  rw [List.flatMap_map]
  refine isStepwise_sameReports.flatMap conditions fun condition _ => ?_
  have expr : (condition.revise revision).expr = condition.expr.revise revision := by
    cases condition <;> rfl
  rw [conditionChecks, conditionChecks, overlooks.condition ofClosures, expr]
  exact isStepwise_sameReports.append (sameReports_relay _ _ _)
    (sameReports_leafChecks overlooks ofClosures _)

theorem sameReports_switchChecks (node : Switch) :
    SameReports (switchChecks setting node) (switchChecks setting (node.revise revision)) := by
  have subject : (node.revise revision).subject = node.subject.revise revision := by
    cases node
    rfl
  rw [switchChecks, switchChecks, overlooks.exhaustive ofClosures, subject]
  exact isStepwise_sameReports.append (sameReports_relay _ _ _)
    (sameReports_leafChecks overlooks ofClosures _)

theorem coupled_leaf (expr : Expr) :
    Coupled SameReports (fun left right => right = left.revise revision) (leaf setting expr)
      (leaf setting (expr.revise revision)) := by
  refine .bind isStepwise_sameReports
    (.write (sameReports_leafChecks overlooks ofClosures expr)) fun _ _ _ => ?_
  refine .bind isStepwise_sameReports (.write ⟨rfl, rfl⟩) fun _ _ _ => ?_
  refine .pure isStepwise_sameReports ?_
  rw [overlooks.typeOf ofClosures]
  rfl

mutual

/-- **A block with revised closures is transformed as before**, up to the closures. -/
theorem coupled_block : ∀ body : Block,
    Coupled SameReports (fun left right => right = left.revise revision) (block setting body)
      (block setting (body.revise revision))
  | ⟨span, statements⟩ => by
      rw [Block.revise, Statement.reviseAll_eq_map, block, block, checkAll_revise ofClosures,
        componentSpans_revise ofClosures]
      refine .bind isStepwise_sameReports (.ofExcept isStepwise_sameReports _) fun _ _ _ => ?_
      refine .bind isStepwise_sameReports (.ofExcept isStepwise_sameReports _) ?_
      rintro operation _ rfl
      refine .bind isStepwise_sameReports (coupled_components statements) ?_
      rintro parts _ rfl
      exact .pure isStepwise_sameReports (join_revise setting revision operation parts span)

/-- Statements with revised closures are transformed as before. -/
theorem coupled_components : ∀ statements : List Statement,
    Coupled SameReports (fun left right => right = left.map (·.revise revision))
      (components setting statements) (components setting (statements.map (·.revise revision)))
  | [] => by
      rw [List.map_nil, components]
      exact .pure isStepwise_sameReports rfl
  | statement :: rest => by
      have event : SameReports (statementEvent setting statement)
          (statementEvent setting (statement.revise revision)) := by
        rw [statementEvent, statementEvent, (form_revise ofClosures statement).1]
        exact .refl _
      rw [List.map_cons, components, components]
      refine .bind isStepwise_sameReports (.write event) fun _ _ _ => ?_
      refine .bind isStepwise_sameReports (coupled_component statement) ?_
      rintro first _ rfl
      refine .bind isStepwise_sameReports (coupled_components rest) ?_
      rintro others _ rfl
      refine .pure isStepwise_sameReports ?_
      rw [List.map_append, Option.toList_map]

/-- A statement with revised closures is transformed as before. -/
theorem coupled_component : ∀ statement : Statement,
    Coupled SameReports (fun left right => right = left.map (·.revise revision))
      (component setting statement) (component setting (statement.revise revision))
  | .expression expr | .returning _ _ (some expr) => by
      rw [Statement.revise, component]
      refine .map isStepwise_sameReports (coupled_leaf overlooks ofClosures expr) ?_
      rintro built _ rfl
      rfl
  | .conditional node => by
      rw [Statement.revise, component, component]
      refine .map isStepwise_sameReports (coupled_conditional node) ?_
      rintro built _ rfl
      rfl
  | .switch node => by
      rw [Statement.revise, component, component]
      refine .map isStepwise_sameReports (coupled_switch node) ?_
      rintro built _ rfl
      rfl
  | .doBlock span body => by
      rw [Statement.revise, component, component]
      refine .bind isStepwise_sameReports (coupled_block body) ?_
      rintro built _ rfl
      exact .pure isStepwise_sameReports
        (congrArg some (doWrapped_revise setting revision span built))
  | .returning _ _ none | .directive _ | .declaration _ | .loop _ | .fallthrough _
  | .jump _ _ => by
      simp only [Statement.revise, Expr.reviseOption, component]
      exact .pure isStepwise_sameReports rfl

/-- An `if` with revised closures is transformed as before. -/
theorem coupled_conditional : ∀ node : Conditional,
    Coupled SameReports (fun left right => right = left.revise revision)
      (conditional setting node) (conditional setting (node.revise revision))
  | ⟨span, conditions, thenBlock, none⟩ => by
      rw [Conditional.revise, Alternative.reviseOption, Condition.reviseAll_eq_map, conditional,
        conditional]
      refine .bind isStepwise_sameReports
        (.write (sameReports_conditionChecks overlooks ofClosures conditions)) fun _ _ _ => ?_
      refine .bind isStepwise_sameReports (coupled_block thenBlock) ?_
      rintro built _ rfl
      refine .bind isStepwise_sameReports (.ofExcept isStepwise_sameReports _) ?_
      rintro operation _ rfl
      exact .pure isStepwise_sameReports
        (optional_revise setting revision operation conditions built span)
  | ⟨span, conditions, thenBlock, some otherwise⟩ => by
      rw [Conditional.revise, Alternative.reviseOption, Condition.reviseAll_eq_map, conditional,
        conditional]
      refine .bind isStepwise_sameReports
        (.write (sameReports_conditionChecks overlooks ofClosures conditions)) fun _ _ _ => ?_
      refine .bind isStepwise_sameReports (coupled_block thenBlock) ?_
      rintro thenBuilt _ rfl
      refine .bind isStepwise_sameReports (.ofExcept isStepwise_sameReports _) ?_
      rintro operations _ rfl
      refine .bind isStepwise_sameReports (coupled_alternative otherwise) ?_
      rintro elseBuilt _ rfl
      exact .pure isStepwise_sameReports
        (alternatives_revise setting revision operations conditions thenBuilt elseBuilt span)

/-- What is done otherwise, with revised closures, is transformed as before. -/
theorem coupled_alternative : ∀ otherwise : Syntax.Alternative,
    Coupled SameReports (fun left right => right = left.revise revision)
      (alternative setting otherwise) (alternative setting (otherwise.revise revision))
  | .block node => by
      rw [Syntax.Alternative.revise, alternative, alternative]
      exact coupled_block node
  | .chained node => by
      have place : (node.revise revision).span = node.span := by
        cases node
        rfl
      have checked := (form_revise ofClosures (.conditional node)).2.2 setting
      rw [Statement.revise] at checked
      rw [Syntax.Alternative.revise, alternative, alternative, checked, place]
      refine .bind isStepwise_sameReports (.ofExcept isStepwise_sameReports _) fun _ _ _ => ?_
      refine .bind isStepwise_sameReports (.ofExcept isStepwise_sameReports _) ?_
      rintro operation _ rfl
      refine .bind isStepwise_sameReports (coupled_conditional node) ?_
      rintro built _ rfl
      exact .pure isStepwise_sameReports (join_revise setting revision operation [built] node.span)

/-- A `switch` with revised closures is transformed as before. -/
theorem coupled_switch : ∀ node : Switch,
    Coupled SameReports (fun left right => right = left.revise revision) (switch setting node)
      (switch setting (node.revise revision))
  | ⟨span, subject, cases⟩ => by
      have checks := sameReports_switchChecks overlooks ofClosures ⟨span, subject, cases⟩
      rw [Switch.revise, SwitchCase.reviseAll_eq_map] at checks
      rw [Switch.revise, SwitchCase.reviseAll_eq_map, switch, switch]
      refine .bind isStepwise_sameReports (.write checks) fun _ _ _ => ?_
      refine .bind isStepwise_sameReports (coupled_caseBodies cases) ?_
      rintro arms _ rfl
      rw [List.length_map]
      split
      · refine .bind isStepwise_sameReports (.ofExcept isStepwise_sameReports _) ?_
        rintro operations _ rfl
        refine .pure isStepwise_sameReports ?_
        rw [wrapCases_revise setting ofClosures, chooseCase_revise ofClosures]
      · exact .pure isStepwise_sameReports (chooseCase_revise ofClosures subject cases arms)

/-- The bodies of cases with revised closures are transformed as before. -/
theorem coupled_caseBodies : ∀ cases : List SwitchCase,
    Coupled SameReports (fun left right => right = left.map (·.revise revision))
      (caseBodies setting cases) (caseBodies setting (cases.map (·.revise revision)))
  | [] => by
      rw [List.map_nil, caseBodies]
      exact .pure isStepwise_sameReports rfl
  | ⟨span, label, body⟩ :: rest => by
      rw [List.map_cons, SwitchCase.revise_of_closures ofClosures, caseBodies, caseBodies]
      refine .bind isStepwise_sameReports (coupled_block body) ?_
      rintro first _ rfl
      refine .bind isStepwise_sameReports (coupled_caseBodies rest) ?_
      rintro others _ rfl
      exact .pure isStepwise_sameReports rfl

end

end Parts

/-! ### Bodies -/

/-- **Revising closures commutes with the transform.** Whatever is made of the closures in a body, the
same becomes of the body, with the closures revised, and the same is reported. -/
theorem transform_revise {setting : Setting} (overlooks : setting.services.OverlooksClosures)
    {revision : Revision} (ofClosures : revision.OfClosures) (body : Block) :
    (transform setting (body.revise revision)).result =
        (transform setting body).result.revise revision ∧
      SameReports (transform setting body).journal
        (transform setting (body.revise revision)).journal := by
  have whole : Coupled SameReports (fun left right => right = left.revise revision)
      (wholeBody setting body) (wholeBody setting (body.revise revision)) := by
    rw [wholeBody, wholeBody, body.rejection?_revise ofClosures]
    cases body.rejection? with
    | some rejection => exact ⟨.error _, .refl []⟩
    | none => exact coupled_block overlooks ofClosures body
  unfold transform
  rw [body.returns_revise ofClosures, body.isSoleReturn_revise]
  dsimp only
  split
  · exact ⟨rfl, .refl _⟩
  · obtain ⟨ends, reports⟩ := whole
    generalize (wholeBody setting body).outcome = first at ends
    generalize (wholeBody setting (body.revise revision)).outcome = second at ends
    cases ends with
    | ok related =>
        subst related
        exact ⟨rfl, reports⟩
    | error error => exact ⟨rfl, isStepwise_sameReports.append reports (.refl _)⟩

end Transform

/-! ### Sealing -/

namespace Syntax

/-- **Sealing closures**: the statements of closures are taken out. What is left of a closure is its
place, its parameters and the place of its body. -/
def Revision.sealing : Revision where
  closure node := { node with body := { node.body with statements := [] } }

theorem Revision.ofClosures_sealing : Revision.sealing.OfClosures where
  span _ := rfl
  switchCase _ := rfl

/-- A block whose closures are sealed. -/
def Block.sealed (block : Block) : Block :=
  block.revise .sealing

end Syntax

/-- A synthesized expression whose closures are sealed. -/
def Synthesized.sealed (value : Synthesized) : Synthesized :=
  value.revise .sealing

open Transform

/-- **The same becomes of a body** apart from the statements of closures. -/
inductive Transform.Result.SameOutside : Result → Result → Prop where
  /-- The same is synthesized around closures, with the same shape. -/
  | built {left right : Built} (expr_eq : left.expr.sealed = right.expr.sealed)
      (shape_eq : left.shape = right.shape) : SameOutside (.built left) (.built right)
  /-- The bodies are left as they are, which are the same around closures. -/
  | verbatim {left right : Block} (sealed_eq : left.sealed = right.sealed) :
      SameOutside (.verbatim left) (.verbatim right)
  /-- The same error occurs. -/
  | failed (error : TransformError) : SameOutside (.failed error) (.failed error)

/-- Results that are equal once they are sealed are the same outside of closures. -/
theorem Transform.Result.sameOutside_of_revise_eq {left right : Result}
    (same : left.revise .sealing = right.revise .sealing) : left.SameOutside right := by
  cases left with
  | built left =>
      cases right with
      | built right =>
          obtain ⟨expr_eq, shape_eq⟩ := Built.mk.inj (Result.built.inj same)
          exact .built expr_eq shape_eq
      | verbatim | failed => cases same
  | verbatim left =>
      cases right with
      | verbatim right => exact .verbatim (Result.verbatim.inj same)
      | built | failed => cases same
  | failed error =>
      cases right with
      | failed other =>
          cases same
          exact .failed error
      | built | verbatim => cases same

/-- **Closures are opaque to the body around them.** For every host, builder, context and
configuration, two bodies that are the same apart from the statements of their closures become the
same: both are transformed, to expressions of the same shape that differ inside of closures alone,
or both are left as they are, or both fail with the same error. The same diagnostics are reported on
the way, in the same order. -/
theorem transform_of_sealed_eq (host : Host) (descriptor : Descriptor) (context : BodyContext)
    (config : Config) {one other : Block} (same : one.sealed = other.sealed) :
    (transform ⟨descriptor, host.collaborators, context, config⟩ one).result.SameOutside
        (transform ⟨descriptor, host.collaborators, context, config⟩ other).result ∧
      (transform ⟨descriptor, host.collaborators, context, config⟩ one).journal.diagnostics =
        (transform ⟨descriptor, host.collaborators, context, config⟩ other).journal.diagnostics := by
  let setting : Setting := ⟨descriptor, host.collaborators, context, config⟩
  have overlooks : setting.services.OverlooksClosures := host.overlooksClosures_collaborators
  obtain ⟨ofOne, reportsOne⟩ := transform_revise overlooks Revision.ofClosures_sealing one
  obtain ⟨ofOther, reportsOther⟩ := transform_revise overlooks Revision.ofClosures_sealing other
  -- both bodies are sealed to the same one, whose transform both are compared with
  rw [Block.sealed, Block.sealed] at same
  rw [same] at ofOne reportsOne
  exact ⟨Result.sameOutside_of_revise_eq (ofOne.symm.trans ofOther),
    reportsOne.diagnostics_eq.symm.trans reportsOther.diagnostics_eq⟩

/-! ### A closure with something wrong -/

/-- A body that gives a closure with some statements to a function. -/
def sealingBody (statements : List Statement) : Block :=
  ⟨⟨0, 20⟩, [.expression (.call ⟨2, 18⟩ (.ident ⟨2, 3⟩ "f") [] (some
    ⟨⟨4, 18⟩, [], ⟨⟨4, 18⟩, statements⟩⟩))]⟩

/-- A closure that returns, and one that uses a generic type without arguments: both are bodies of
their own, and neither a body around them nor its reports tell them apart. -/
theorem transform_of_returning_closure :
    let host : Host := { types := [{ BuilderCall.versatileType with
      generics := [⟨⟨0, 1⟩, ⟨⟨0, 1⟩, "T"⟩, none⟩] }] }
    let one := sealingBody [.returning ⟨6, 16⟩ ⟨6, 12⟩ (some (.ident ⟨13, 14⟩ "x"))]
    let other := sealingBody [.expression (.ident ⟨6, 7⟩ "B")]
    let setting : Setting := { BuilderCall.versatileSetting with services := host.collaborators }
    one.sealed = other.sealed ∧
      (transform setting one).result.SameOutside (transform setting other).result ∧
      (transform setting one).journal.diagnostics = (transform setting other).journal.diagnostics ∧
      host.checkExpression setting.context (.ident ⟨6, 7⟩ "B") ≠ [] := by
  intro host one other setting
  have same : one.sealed = other.sealed := rfl
  obtain ⟨results, reports⟩ := transform_of_sealed_eq host BuilderCall.versatileSetting.descriptor
    BuilderCall.versatileSetting.context BuilderCall.versatileSetting.config same
  exact ⟨same, results, reports, nofun⟩

end ResultBuilder
