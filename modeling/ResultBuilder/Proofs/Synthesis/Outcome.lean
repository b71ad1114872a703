import ResultBuilder.Synthesis.Transform

/-!
# What a successful transform has done

For each of the functions that transform a part of a body, one equivalence that says when it
succeeds and with what. The journal takes no part in that: `outcome_bind_eq_ok_iff` looks at
outcomes only. Proofs about transformed bodies start from these equivalences and do not unfold the
functions again.

* **Single operations**: `optionalWrap_eq_ok_iff`, `either_eq_ok_iff`, `blockJoin_eq_ok_iff` and
  `checkAll_eq_ok_iff`.
* **Parts of a body**: `block_eq_ok_iff`, `components_cons_eq_ok_iff`, `conditional_eq_ok_iff`,
  `conditional_else_eq_ok_iff`, `alternative_chained_eq_ok_iff`, `switch_eq_ok_iff`,
  `caseBodies_cons_eq_ok_iff` and `component_doBlock_eq_ok_iff`.
* **Bodies**: `transform_eq_built_iff`.
-/

namespace ResultBuilder

open Syntax

namespace Journaled

variable {ε α β : Type}

/-- A step followed by another succeeds when both do, the second on what the first gives. -/
theorem outcome_bind_eq_ok_iff {first : Journaled ε α} {next : α → Journaled ε β} {result : β} :
    (first >>= next).outcome = .ok result ↔
      ∃ value, first.outcome = .ok value ∧ (next value).outcome = .ok result := by
  rw [outcome_bind]
  cases first.outcome with
  | error error => simp [Bind.bind, Except.bind]
  | ok value => simp [Bind.bind, Except.bind]

/-- A step whose result is changed succeeds when the step does. -/
theorem outcome_map_eq_ok_iff {step : Journaled ε α} {change : α → β} {result : β} :
    (change <$> step).outcome = .ok result ↔
      ∃ value, step.outcome = .ok value ∧ change value = result := by
  show (step >>= fun value => Pure.pure (change value)).outcome = .ok result ↔ _
  rw [outcome_bind_eq_ok_iff]
  simp

/-- Writing entries never fails, so that what follows decides. -/
theorem outcome_write_bind (journal : Journal) (next : Unit → Journaled ε β) :
    (write journal >>= next).outcome = (next ()).outcome := by
  rw [outcome_bind, outcome_write]
  rfl

end Journaled

namespace Transform

open Journaled

variable {setting : Setting} {span : Span} {built : Built}

/-! ### Single operations -/

/-- The wrapper of a missing value is the one that the builder has. -/
theorem optionalWrap_eq_ok_iff {operation : Operation} :
    optionalWrap setting span = .ok operation ↔
      setting.descriptor.optionalWrap = some operation := by
  unfold optionalWrap
  cases setting.descriptor.optionalWrap <;> simp

/-- The wrappers of two alternatives are those that the builder has. -/
theorem either_eq_ok_iff {operations : Operation × Operation} :
    either setting span = .ok operations ↔ setting.descriptor.either? = some operations := by
  unfold either
  cases setting.descriptor.either? with
  | some found => simp
  | none => cases setting.descriptor.has .eitherFirst <;> simp

/-- The operation that joins a block is the one that the builder has for so many values. -/
theorem blockJoin_eq_ok_iff {components : List Span} {operation : Operation} :
    blockJoin setting components span = .ok operation ↔
      setting.descriptor.blockJoin? components.length = some operation := by
  unfold blockJoin
  cases setting.descriptor.blockJoin? components.length <;> simp

/-- Statements pass the check when each of them does. -/
theorem checkAll_eq_ok_iff {statements : List Statement} :
    checkAll setting statements = .ok () ↔
      ∀ statement ∈ statements, check setting statement = .ok () := by
  induction statements with
  | nil => simp [checkAll]
  | cons statement rest inductionHypothesis =>
      rw [List.forall_mem_cons, ← inductionHypothesis, checkAll]
      cases check setting statement <;> simp [Bind.bind, Except.bind]

/-- A statement that passes the check is not rejected. -/
theorem form_ne_rejected_of_check {statement : Statement} {rejection : Rejection}
    (passed : check setting statement = .ok ()) : statement.form ≠ .rejected rejection := by
  intro form
  rw [check, form] at passed
  cases passed

/-! ### Wrapping along a path -/

@[simp] theorem wrapAlong_cons_first (operations : Operation × Operation) (path : List Branch)
    (built : Built) :
    wrapAlong setting operations span (.first :: path) built =
      wrap setting operations.1 (wrapAlong setting operations span path built) span := rfl

@[simp] theorem wrapAlong_cons_second (operations : Operation × Operation) (path : List Branch)
    (built : Built) :
    wrapAlong setting operations span (.second :: path) built =
      wrap setting operations.2 (wrapAlong setting operations span path built) span := rfl

/-- Wrapping leaves as many values as there are cases. -/
theorem length_wrapCases {operations : Operation × Operation} {cases : List SwitchCase}
    {arms : List Built} (sameLength : arms.length = cases.length) :
    (wrapCases setting (some operations) cases arms).length = arms.length := by
  rw [wrapCases, List.length_map, List.length_zip, List.length_zip, length_eitherPaths,
    sameLength, Nat.min_self, Nat.min_self]

/-! ### Parts of a body -/

/-- Transforming an expression always succeeds. -/
theorem outcome_leaf (expr : Expr) :
    (leaf setting expr).outcome =
      .ok ⟨.leaf expr, setting.services.typeOf setting.context expr⟩ := by
  rw [leaf, outcome_write_bind, outcome_write_bind, outcome_pure]

/-- **A block succeeds** when its statements pass the check, the builder can join as many values
as the block has, and its statements succeed. -/
theorem block_eq_ok_iff {statements : List Statement} :
    (block setting ⟨span, statements⟩).outcome = .ok built ↔
      checkAll setting statements = .ok () ∧
        ∃ operation,
          setting.descriptor.blockJoin? (componentSpans statements).length = some operation ∧
          ∃ parts, (components setting statements).outcome = .ok parts ∧
            join setting operation parts span = built := by
  rw [block]
  simp only [outcome_bind_eq_ok_iff, outcome_ofExcept, outcome_pure, blockJoin_eq_ok_iff,
    Except.ok.injEq]
  exact ⟨fun ⟨_, checked, rest⟩ => ⟨checked, rest⟩, fun ⟨checked, rest⟩ => ⟨(), checked, rest⟩⟩

@[simp] theorem outcome_components_nil : (components setting []).outcome = .ok [] := by
  rw [components, outcome_pure]

/-- **Statements succeed** when each does; those without a value add nothing. -/
theorem components_cons_eq_ok_iff {statement : Statement} {rest : List Statement}
    {parts : List Built} :
    (components setting (statement :: rest)).outcome = .ok parts ↔
      ∃ first, (component setting statement).outcome = .ok first ∧
        ∃ others, (components setting rest).outcome = .ok others ∧
          first.toList ++ others = parts := by
  rw [components, outcome_write_bind]
  simp only [outcome_bind_eq_ok_iff, outcome_pure, Except.ok.injEq]

/-- **A `do` block succeeds** when the block does. -/
theorem component_doBlock_eq_ok_iff {body : Block} {result : Option Built} :
    (component setting (.doBlock span body)).outcome = .ok result ↔
      ∃ inner, (block setting body).outcome = .ok inner ∧
        some (doWrapped setting span inner) = result := by
  rw [component]
  simp only [outcome_bind_eq_ok_iff, outcome_pure, Except.ok.injEq]

/-- Those statements have a value whose form says so. -/
theorem isSome_of_component {statement : Statement} {first : Option Built}
    (checked : check setting statement = .ok ())
    (succeeded : (component setting statement).outcome = .ok first) :
    first.isSome = statement.form.isComponent := by
  cases statement with
  | returning _ _ value =>
      cases value with
      | none =>
          rw [component, outcome_pure, Except.ok.injEq] at succeeded
          rw [← succeeded]
          rfl
      | some expr =>
          rw [component, outcome_map_eq_ok_iff] at succeeded
          obtain ⟨_, _, rfl⟩ := succeeded
          rfl
  | expression _ =>
      rw [component, outcome_map_eq_ok_iff] at succeeded
      obtain ⟨_, _, rfl⟩ := succeeded
      rfl
  | doBlock _ _ =>
      obtain ⟨_, _, rfl⟩ := component_doBlock_eq_ok_iff.mp succeeded
      rfl
  | conditional node =>
      rw [component, outcome_map_eq_ok_iff] at succeeded
      obtain ⟨_, _, rfl⟩ := succeeded
      rw [Statement.form, Conditional.form]
      cases node.otherwise <;> rfl
  | switch node =>
      rw [component, outcome_map_eq_ok_iff] at succeeded
      obtain ⟨_, _, rfl⟩ := succeeded
      -- a `fallthrough` in the `switch` would have made its form a rejected one
      cases found : node.fallthrough? with
      | none => simp [Statement.form, found, StatementForm.isComponent]
      | some place =>
          have form : (Statement.switch node).form = .rejected ⟨.fallthrough, place⟩ := by
            simp [Statement.form, found]
          exact absurd form (form_ne_rejected_of_check checked)
  | directive _ | declaration _ | loop _ | fallthrough _ | jump _ _ =>
      rw [component, outcome_pure, Except.ok.injEq] at succeeded
      rw [← succeeded]
      rfl

/-- A block has as many values as it has statements whose form says that they have one. -/
theorem length_of_components {statements : List Statement} {parts : List Built}
    (checked : checkAll setting statements = .ok ())
    (succeeded : (components setting statements).outcome = .ok parts) :
    parts.length = (componentSpans statements).length := by
  rw [checkAll_eq_ok_iff] at checked
  induction statements generalizing parts with
  | nil =>
      rw [outcome_components_nil, Except.ok.injEq] at succeeded
      rw [← succeeded]
      rfl
  | cons statement rest inductionHypothesis =>
      obtain ⟨ofFirst, ofRest⟩ := List.forall_mem_cons.mp checked
      obtain ⟨first, ranFirst, others, ranRest, rfl⟩ := components_cons_eq_ok_iff.mp succeeded
      have lengthRest := inductionHypothesis ofRest ranRest
      have isSome := isSome_of_component ofFirst ranFirst
      rw [List.length_append, lengthRest, componentSpans, componentSpans, List.length_map,
        List.length_map, List.filter_cons, ← isSome]
      cases first <;> simp [Nat.add_comm]

/-- **An `if` without `else` succeeds** when its block does and the builder can wrap a missing
value. -/
theorem conditional_eq_ok_iff {conditions : List Condition} {thenBlock : Block} :
    (conditional setting ⟨span, conditions, thenBlock, none⟩).outcome = .ok built ↔
      ∃ inner, (block setting thenBlock).outcome = .ok inner ∧
        ∃ operation, setting.descriptor.optionalWrap = some operation ∧
          optional setting operation conditions inner span = built := by
  rw [conditional, outcome_write_bind]
  simp only [outcome_bind_eq_ok_iff, outcome_ofExcept, outcome_pure, optionalWrap_eq_ok_iff,
    Except.ok.injEq]

/-- **An `if` with `else` succeeds** when both branches do and the builder can wrap both
alternatives. -/
theorem conditional_else_eq_ok_iff {conditions : List Condition} {thenBlock : Block}
    {otherwise : Syntax.Alternative} :
    (conditional setting ⟨span, conditions, thenBlock, some otherwise⟩).outcome = .ok built ↔
      ∃ first, (block setting thenBlock).outcome = .ok first ∧
        ∃ operations, setting.descriptor.either? = some operations ∧
          ∃ second, (alternative setting otherwise).outcome = .ok second ∧
            alternatives setting operations conditions first second span = built := by
  rw [conditional, outcome_write_bind]
  simp only [outcome_bind_eq_ok_iff, outcome_ofExcept, outcome_pure, either_eq_ok_iff,
    Except.ok.injEq]

/-- **A chained `if` succeeds** as the only statement of a block would. -/
theorem alternative_chained_eq_ok_iff {node : Conditional} :
    (alternative setting (.chained node)).outcome = .ok built ↔
      check setting (.conditional node) = .ok () ∧
        ∃ operation, setting.descriptor.blockJoin? 1 = some operation ∧
          ∃ inner, (conditional setting node).outcome = .ok inner ∧
            join setting operation [inner] node.span = built := by
  rw [alternative]
  simp only [outcome_bind_eq_ok_iff, outcome_ofExcept, outcome_pure, blockJoin_eq_ok_iff,
    Except.ok.injEq, List.length_singleton]
  exact ⟨fun ⟨_, checked, rest⟩ => ⟨checked, rest⟩, fun ⟨checked, rest⟩ => ⟨(), checked, rest⟩⟩

/-- **A `switch` succeeds** when its cases do and, with more than one case, the builder can wrap
both alternatives. -/
theorem switch_eq_ok_iff {subject : Expr} {cases : List SwitchCase} :
    (switch setting ⟨span, subject, cases⟩).outcome = .ok built ↔
      ∃ arms, (caseBodies setting cases).outcome = .ok arms ∧
        (1 < arms.length ∧
            (∃ operations, setting.descriptor.either? = some operations ∧
              chooseCase subject cases (wrapCases setting (some operations) cases arms) = built) ∨
          ¬ 1 < arms.length ∧ chooseCase subject cases arms = built) := by
  rw [switch, outcome_write_bind, outcome_bind_eq_ok_iff]
  refine exists_congr fun arms => and_congr_right fun _ => ?_
  by_cases several : 1 < arms.length
  · rw [if_pos several]
    simp only [outcome_bind_eq_ok_iff, outcome_ofExcept, outcome_pure, either_eq_ok_iff,
      Except.ok.injEq, several, not_true_eq_false, false_and, or_false, true_and]
  · rw [if_neg several]
    simp only [outcome_pure, Except.ok.injEq, several, not_false_eq_true, false_and, false_or,
      true_and]

@[simp] theorem outcome_caseBodies_nil : (caseBodies setting []).outcome = .ok [] := by
  rw [caseBodies, outcome_pure]

/-- **Cases succeed** when the block of each does. -/
theorem caseBodies_cons_eq_ok_iff {label : CaseLabel} {body : Block} {rest : List SwitchCase}
    {arms : List Built} :
    (caseBodies setting (⟨span, label, body⟩ :: rest)).outcome = .ok arms ↔
      ∃ first, (block setting body).outcome = .ok first ∧
        ∃ others, (caseBodies setting rest).outcome = .ok others ∧ first :: others = arms := by
  rw [caseBodies]
  simp only [outcome_bind_eq_ok_iff, outcome_pure, Except.ok.injEq]

/-- Every case has a value. -/
theorem length_of_caseBodies {cases : List SwitchCase} {arms : List Built}
    (succeeded : (caseBodies setting cases).outcome = .ok arms) :
    arms.length = cases.length := by
  induction cases generalizing arms with
  | nil =>
      rw [outcome_caseBodies_nil, Except.ok.injEq] at succeeded
      rw [← succeeded]
      rfl
  | cons switchCase rest inductionHypothesis =>
      obtain ⟨_, _, _⟩ := switchCase
      obtain ⟨_, _, others, ofRest, rfl⟩ := caseBodies_cons_eq_ok_iff.mp succeeded
      rw [List.length_cons, List.length_cons, inductionHypothesis ofRest]

/-! ### Bodies -/

/-- A body is left as it is when it has returns and is not a single one with a value. -/
def IsDisabled (body : Block) : Prop :=
  body.returns ≠ [] ∧ body.isSoleReturn = false

/-- A disabled body is left as it is. -/
theorem transform_of_isDisabled {body : Block} (disables : IsDisabled body) :
    transform setting body = ⟨.verbatim body, disabled setting body.returns⟩ := by
  unfold transform
  rw [if_pos (by simpa [IsDisabled] using disables)]

/-- Any other body gives what is made of it as a whole. -/
theorem result_of_not_isDisabled {body : Block} (enables : ¬ IsDisabled body) :
    (transform setting body).result =
      match (wholeBody setting body).outcome with
      | .ok built => .built built
      | .error error => .failed error := by
  unfold transform
  rw [if_neg (by simpa [IsDisabled] using enables)]
  dsimp only
  cases (wholeBody setting body).outcome <;> rfl

/-- A body with a rejected statement fails because of it. -/
theorem result_of_rejection {body : Block} {rejection : Rejection} (enables : ¬ IsDisabled body)
    (found : body.rejection? = some rejection) :
    (transform setting body).result = .failed (rejected setting rejection) := by
  rw [result_of_not_isDisabled enables, wholeBody, found]
  rfl

/-- A body without rejected statements gives what its block gives. -/
theorem result_of_block {body : Block} (enables : ¬ IsDisabled body)
    (unrejected : body.rejection? = none) :
    (transform setting body).result =
      match (block setting body).outcome with
      | .ok built => .built built
      | .error error => .failed error := by
  rw [result_of_not_isDisabled enables, wholeBody, unrejected]

/-- **A body is transformed** when its returns do not matter, none of its statements is rejected
and its block succeeds. -/
theorem transform_eq_built_iff {body : Block} :
    (transform setting body).result = .built built ↔
      ¬ IsDisabled body ∧ body.rejection? = none ∧ (block setting body).outcome = .ok built := by
  by_cases disables : IsDisabled body
  · rw [transform_of_isDisabled disables]
    exact iff_of_false nofun fun transformed => transformed.1 disables
  rw [and_iff_right disables]
  cases found : body.rejection? with
  | some rejection =>
      rw [result_of_rejection disables found]
      exact iff_of_false nofun nofun
  | none =>
      rw [result_of_block disables found]
      cases (block setting body).outcome <;> simp

end Transform

end ResultBuilder
