import ResultBuilder.Proofs.Body.Nesting
import ResultBuilder.Proofs.Synthesis.Outcome

/-!
# What becomes of a body

Which of its four results the transform of a body has, told from the statements of the body and
the operations of the builder alone.

* **`IsDisabledByReturn`**: there is a `return` that is not the whole body.
* **`HasRejection`** somewhere in the body: there is a statement that cannot become a value.
* **`FallsShort`** somewhere in the body: there is a block for which the builder lacks something.
* **`Settles`**: an outcome is an error exactly when something is lacking. Each function that
  transforms a part of a body settles what is lacking for that part, `settles_block` for blocks.
* **`transform_verdict`**: the result, by the first of the three that applies.
-/

namespace ResultBuilder

open Syntax

/-- A body is disabled by its returns: there is one, in loops as well, and it is not the whole body
together with its value. -/
def Syntax.Block.IsDisabledByReturn (body : Block) : Prop :=
  Somewhere true HasReturn body.statements ∧
    ∀ span keyword value, body.statements ≠ [.returning span keyword (some value)]

/-- The rejected statement that an error is about. The other errors are about something that the
builder lacks: a capability, or a way to join as many values as a block has. -/
def TransformError.rejection? : TransformError → Option Rejection
  | .declaration _ _ span => some ⟨.declaration, span⟩
  | .controlFlow _ _ statement span => some ⟨statement, span⟩
  | .missingCapability _ _ _ _ | .extraArgument _ _ _ _ | .missingArgument _ _ _
  | .noBlockOverload _ _ _ _ => none

namespace Descriptor

/-- The builder cannot wrap both alternatives. -/
def LacksEither (descriptor : Descriptor) : Prop :=
  descriptor.eitherFirst = none ∨ descriptor.eitherSecond = none

/-- The builder cannot join so many values. -/
def CannotJoin (descriptor : Descriptor) (count : Nat) : Prop :=
  (∀ operation ∈ descriptor.fixedBlocks, operation.arity ≠ count) ∧
    descriptor.variadicBlock = none

/-- The builder lacks an operation that a statement asks for, apart from the blocks in it. -/
def Lacks (descriptor : Descriptor) : Statement → Prop
  | .conditional ⟨_, _, _, none⟩ => descriptor.optionalWrap = none
  | .conditional ⟨_, _, _, some _⟩ => descriptor.LacksEither
  | .switch node => 2 ≤ node.cases.length ∧ descriptor.LacksEither
  | _ => False

/-- The builder lacks an operation that a block asks for, apart from the blocks in it. -/
def FallsShort (descriptor : Descriptor) (statements : List Statement) : Prop :=
  Among descriptor.Lacks statements ∨
    descriptor.CannotJoin (statements.countP (·.form.isComponent))

end Descriptor

namespace Transform

open Journaled

/-- **An outcome settles whether something is lacking**: it is an error exactly when that is so, and
the error is not about a rejected statement. -/
def Settles {α : Type} (outcome : Except TransformError α) (lacking : Prop) : Prop :=
  match outcome with
  | .ok _ => ¬ lacking
  | .error error => error.rejection? = none ∧ lacking

section Settles

variable {α β : Type} {outcome : Except TransformError α} {lacking alsoLacking : Prop}

theorem Settles.congr (settles : Settles outcome lacking) (same : lacking ↔ alsoLacking) :
    Settles outcome alsoLacking := by
  rwa [← propext same]

theorem settles_ok (value : α) : Settles (.ok value) False :=
  not_false

theorem settles_pure (value : α) : Settles (Pure.pure value : Step α).outcome False :=
  not_false

/-- Two things done one after the other fail when something is lacking for either. -/
theorem Settles.bind {next : α → Except TransformError β} (first : Settles outcome lacking)
    (second : ∀ value, outcome = .ok value → Settles (next value) alsoLacking) :
    Settles (outcome >>= next) (lacking ∨ alsoLacking) := by
  cases outcome with
  | error error => exact ⟨first.1, .inl first.2⟩
  | ok value => exact (second value rfl).congr (or_iff_right first).symm

/-- Two steps, one after the other, fail when something is lacking for either. -/
theorem Settles.step {first : Step α} {next : α → Step β} (one : Settles first.outcome lacking)
    (other : ∀ value, first.outcome = .ok value → Settles (next value).outcome alsoLacking) :
    Settles (first >>= next).outcome (lacking ∨ alsoLacking) := by
  rw [outcome_bind]
  exact one.bind other

theorem Settles.map (settles : Settles outcome lacking) (change : α → β) :
    Settles (change <$> outcome) lacking := by
  cases outcome <;> exact settles

/-- A step that is followed by one that cannot fail. -/
theorem Settles.last {first : Step α} {next : α → Step β} (one : Settles first.outcome lacking)
    (other : ∀ value, Settles (next value).outcome False) :
    Settles (first >>= next).outcome lacking :=
  (one.step fun value _ => other value).congr (or_iff_left not_false)

theorem Settles.mapStep {step : Step α} (settles : Settles step.outcome lacking)
    (change : α → β) : Settles (change <$> step).outcome lacking :=
  settles.last fun value => settles_pure (change value)

/-- What is done under a condition only fails when the condition holds and something is lacking. -/
theorem Settles.ite {condition : Prop} [Decidable condition] {one other : Except TransformError α}
    (holds : Settles one lacking) (fails : Settles other False) :
    Settles (if condition then one else other) (condition ∧ lacking) := by
  by_cases decided : condition
  · rw [if_pos decided]
    exact holds.congr (and_iff_right decided).symm
  · rw [if_neg decided]
    exact fails.congr (iff_of_false not_false fun both => decided both.1)

end Settles

variable {setting : Setting} {span : Span}

/-! ### Single operations -/

/-- The wrapper of a missing value is lacking or found. -/
theorem settles_optionalWrap :
    Settles (optionalWrap setting span) (setting.descriptor.optionalWrap = none) := by
  unfold optionalWrap
  cases setting.descriptor.optionalWrap with
  | some operation => exact nofun
  | none => exact ⟨rfl, rfl⟩

/-- The wrappers of two alternatives are found together, whichever of them an error is about. -/
theorem settles_either : Settles (either setting span) setting.descriptor.LacksEither := by
  unfold either Descriptor.either? Descriptor.LacksEither
  cases setting.descriptor.eitherFirst with
  | none =>
      simp only [true_or]
      split <;> exact ⟨rfl, trivial⟩
  | some first =>
      cases setting.descriptor.eitherSecond with
      | none =>
          simp only [reduceCtorEq, or_true]
          split <;> exact ⟨rfl, trivial⟩
      | some second => simp [Settles]

/-- An error about the number of values is not about a rejected statement. -/
theorem rejection?_arityError (components : List Span) :
    (arityError setting components span).rejection? = none := by
  unfold arityError
  dsimp only
  cases setting.descriptor.blockArities.head? <;>
    cases setting.descriptor.blockArities.getLast? <;> dsimp only <;> repeat' split
  all_goals rfl

/-- A builder joins so many values unless it cannot. -/
theorem blockJoin?_eq_none_iff {descriptor : Descriptor} {count : Nat} :
    descriptor.blockJoin? count = none ↔ descriptor.CannotJoin count := by
  rw [Descriptor.blockJoin?, Descriptor.CannotJoin, Option.orElse_eq_orElse, Option.orElse_eq_or,
    Option.or_eq_none_iff, Descriptor.fixedBlock?, List.find?_eq_none]
  simp only [beq_iff_eq, ne_eq]

/-- A way to join so many values is lacking or found. -/
theorem settles_blockJoin {components : List Span} :
    Settles (blockJoin setting components span)
      (setting.descriptor.CannotJoin components.length) := by
  rw [← propext blockJoin?_eq_none_iff, blockJoin]
  cases setting.descriptor.blockJoin? components.length with
  | some operation => exact nofun
  | none => exact ⟨rejection?_arityError components, rfl⟩

/-! ### Checks -/

/-- A statement in which nothing is rejected has no rejected form. -/
theorem form_ne_rejected {statement : Statement} (unrejected : statement.rejection? = none)
    (rejection : Rejection) : statement.form ≠ .rejected rejection := by
  intro form
  cases statement with
  | conditional node =>
      rw [Statement.form, Conditional.form] at form
      split at form <;> cases form
  | switch node =>
      obtain ⟨_, _, _⟩ := node
      rw [Statement.rejection?] at unrejected
      split at unrejected
      · cases unrejected
      · rename_i direct
        rw [Statement.form, direct] at form
        cases form
  | declaration _ | loop _ | fallthrough _ | jump _ _ => cases unrejected
  | expression _ | doBlock _ _ | returning _ _ _ | directive _ => cases form

/-- **The check of a statement fails when the builder lacks what the statement itself asks for.** -/
theorem settles_check {statement : Statement} (unrejected : statement.rejection? = none) :
    Settles (check setting statement) (setting.descriptor.Lacks statement) := by
  have form := form_ne_rejected unrejected
  cases statement with
  | conditional node =>
      obtain ⟨_, _, _, otherwise⟩ := node
      cases otherwise with
      | none => exact settles_optionalWrap.map _
      | some _ => exact settles_either.map _
  | switch node =>
      -- a `fallthrough` in a case would have been found as a rejected statement
      rw [check]
      cases direct : node.fallthrough? with
      | some place => exact absurd (by rw [Statement.form, direct]) (form ⟨.fallthrough, place⟩)
      | none =>
          simp only [Statement.form, direct]
          exact .ite (settles_either.map _) (settles_ok ())
  | declaration _ | loop _ | fallthrough _ | jump _ _ => cases unrejected
  | expression _ | doBlock _ _ | returning _ _ _ | directive _ => exact settles_ok ()

theorem firstRejection?_cons_eq_none_iff {statement : Statement} {rest : List Statement} :
    Statement.firstRejection? (statement :: rest) = none ↔
      statement.rejection? = none ∧ Statement.firstRejection? rest = none := by
  rw [Statement.firstRejection?, Option.orElse_eq_orElse, Option.orElse_eq_or,
    Option.or_eq_none_iff]

/-- The checks of statements fail when the builder lacks what one of them asks for. -/
theorem settles_checkAll {statements : List Statement}
    (unrejected : Statement.firstRejection? statements = none) :
    Settles (checkAll setting statements) (Among setting.descriptor.Lacks statements) := by
  induction statements with
  | nil => exact fun ⟨_, listed, _⟩ => nomatch listed
  | cons statement rest inductionHypothesis =>
      obtain ⟨ofFirst, ofRest⟩ := firstRejection?_cons_eq_none_iff.mp unrejected
      rw [checkAll]
      refine ((settles_check ofFirst).bind fun _ _ => inductionHypothesis ofRest).congr ?_
      rw [Among, Among]
      simp only [List.mem_cons, exists_eq_or_imp]

/-! ### Parts of a body -/

/-- Something is lacking somewhere within the blocks that are transformed. -/
abbrev ShortSomewhere (setting : Setting) : List Statement → Prop :=
  Somewhere false setting.descriptor.FallsShort

/-- Something is lacking for a statement, be it for itself or for the blocks in it. -/
abbrev ShortFor (setting : Setting) (statement : Statement) : Prop :=
  setting.descriptor.Lacks statement ∨ statement.Inside false setting.descriptor.FallsShort

/-- What is lacking for a block: something for one of its statements, or a way to join them. -/
theorem shortSomewhere_iff {statements : List Statement} :
    ShortSomewhere setting statements ↔
      Among setting.descriptor.Lacks statements ∨
        setting.descriptor.CannotJoin (componentSpans statements).length ∨
          Among (ShortFor setting) statements := by
  rw [ShortSomewhere, somewhere_iff, Descriptor.FallsShort, componentSpans, List.length_map,
    ← List.countP_eq_length_filter, Among, Among]
  constructor
  · rintro ((lacks | cannotJoin) | ⟨statement, listed, inside⟩)
    · exact .inl lacks
    · exact .inr (.inl cannotJoin)
    · exact .inr (.inr ⟨statement, listed, .inr inside⟩)
  · rintro (lacks | cannotJoin | ⟨statement, listed, lacks | inside⟩)
    · exact .inl (.inl lacks)
    · exact .inl (.inr cannotJoin)
    · exact .inl (.inl ⟨statement, listed, lacks⟩)
    · exact .inr ⟨statement, listed, inside⟩

/-- What is lacking for the only statement of a block, which has a value. -/
theorem shortSomewhere_conditional {node : Conditional} :
    ShortSomewhere setting [.conditional node] ↔
      setting.descriptor.Lacks (.conditional node) ∨
        setting.descriptor.CannotJoin 1 ∨ ShortFor setting (.conditional node) := by
  have counted : (componentSpans [.conditional node]).length = 1 := by
    obtain ⟨_, _, _, otherwise⟩ := node
    cases otherwise <;> rfl
  rw [shortSomewhere_iff, counted, Among, Among]
  simp only [List.mem_singleton, exists_eq_left]

mutual

/-- **A block succeeds unless the builder lacks something** for a block within it. -/
theorem settles_block : ∀ {body : Block}, body.rejection? = none →
    Settles (block setting body).outcome (ShortSomewhere setting body.statements)
  | ⟨span, statements⟩, unrejected => by
      rw [Block.rejection?] at unrejected
      rw [block]
      -- what the checks have found may turn up again below, which makes no difference
      exact Settles.congr (.step (settles_checkAll unrejected) fun _ _ =>
        .step settles_blockJoin fun _ _ =>
          .last (settles_components unrejected) fun _ => settles_pure _) shortSomewhere_iff.symm

/-- Statements succeed unless the builder lacks something for one of them. -/
theorem settles_components : ∀ {statements : List Statement},
    Statement.firstRejection? statements = none →
      Settles (components setting statements).outcome (Among (ShortFor setting) statements)
  | [], _ => by
      rw [components]
      exact fun ⟨_, listed, _⟩ => nomatch listed
  | statement :: rest, unrejected => by
      obtain ⟨ofFirst, ofRest⟩ := firstRejection?_cons_eq_none_iff.mp unrejected
      rw [components, outcome_write_bind]
      refine Settles.congr (.step (settles_component ofFirst) fun _ _ =>
        .last (settles_components ofRest) fun _ => settles_pure _) ?_
      rw [Among, Among]
      simp only [List.mem_cons, exists_eq_or_imp]

/-- A statement succeeds unless the builder lacks something for it. -/
theorem settles_component : ∀ {statement : Statement}, statement.rejection? = none →
    Settles (component setting statement).outcome (ShortFor setting statement)
  | .expression expr, _ | .returning _ _ (some expr), _ => by
      rw [component]
      refine Settles.mapStep ?_ some
      rw [outcome_leaf]
      exact not_or.mpr ⟨not_false, not_inside_of_opens_none (by nofun)⟩
  | .returning _ _ none, _ | .directive _, _ => by
      rw [component]
      exact not_or.mpr ⟨not_false, not_inside_of_opens_none (by nofun)⟩
  | .conditional _, unrejected => by
      rw [Statement.rejection?] at unrejected
      rw [component]
      exact (settles_conditional unrejected).mapStep some
  | .switch _, unrejected => by
      rw [component]
      exact (settles_switch unrejected).mapStep some
  | .doBlock _ _, unrejected => by
      -- the wrapper of a `do` block is never missed
      rw [Statement.rejection?] at unrejected
      rw [component, ShortFor, inside_doBlock]
      refine Settles.congr (.last (settles_block unrejected) fun _ => settles_pure _) ?_
      exact (or_iff_right not_false).symm

/-- An `if` succeeds unless the builder lacks something for it. -/
theorem settles_conditional : ∀ {node : Conditional}, node.rejection? = none →
    Settles (conditional setting node).outcome (ShortFor setting (.conditional node))
  | ⟨_, _, _, none⟩, unrejected => by
      rw [Conditional.rejection?] at unrejected
      rw [conditional, outcome_write_bind]
      refine Settles.congr (.step (settles_block unrejected) fun _ _ =>
        .last settles_optionalWrap fun _ => settles_pure _) ?_
      rw [ShortFor, inside_conditional]
      exact or_comm
  | ⟨_, _, _, some _⟩, unrejected => by
      rw [Conditional.rejection?, Option.orElse_eq_orElse, Option.orElse_eq_or,
        Option.or_eq_none_iff] at unrejected
      rw [conditional, outcome_write_bind]
      refine Settles.congr (.step (settles_block unrejected.1) fun _ _ =>
        .step settles_either fun _ _ =>
          .last (settles_alternative unrejected.2) fun _ => settles_pure _) ?_
      rw [ShortFor, inside_conditional_else]
      exact or_left_comm

/-- What is done otherwise succeeds unless the builder lacks something for its statements. -/
theorem settles_alternative : ∀ {otherwise : Syntax.Alternative}, otherwise.rejection? = none →
    Settles (alternative setting otherwise).outcome (ShortSomewhere setting otherwise.statements)
  | .block _, unrejected => by
      rw [Alternative.rejection?] at unrejected
      rw [alternative]
      exact settles_block unrejected
  | .chained node, unrejected => by
      rw [Alternative.rejection?] at unrejected
      rw [alternative]
      refine Settles.congr (.step (settles_check ?_) fun _ _ =>
        .step settles_blockJoin fun _ _ =>
          .last (settles_conditional unrejected) fun _ => settles_pure _)
        shortSomewhere_conditional.symm
      rw [Statement.rejection?, unrejected]

/-- A `switch` succeeds unless the builder lacks something for it. -/
theorem settles_switch : ∀ {node : Switch}, (Statement.switch node).rejection? = none →
    Settles (switch setting node).outcome (ShortFor setting (.switch node))
  | ⟨span, subject, cases⟩, unrejected => by
      rw [Statement.rejection?] at unrejected
      split at unrejected
      · cases unrejected
      · rw [switch, outcome_write_bind, ShortFor, inside_switch]
        refine (Settles.step (settles_caseBodies unrejected) fun arms succeeded => ?_).congr or_comm
        -- the wrappers are asked for by the number of values, which is that of the cases
        rw [Descriptor.Lacks, ← length_of_caseBodies succeeded, apply_ite Journaled.outcome]
        exact .ite (settles_either.last fun _ => settles_pure _) (settles_pure _)

/-- Cases succeed unless the builder lacks something for the block of one of them. -/
theorem settles_caseBodies : ∀ {cases : List SwitchCase}, SwitchCase.rejection? cases = none →
    Settles (caseBodies setting cases).outcome
      (∃ switchCase ∈ cases, ShortSomewhere setting switchCase.body.statements)
  | [], _ => by
      rw [caseBodies]
      exact fun ⟨_, listed, _⟩ => nomatch listed
  | ⟨_, _, _⟩ :: _, unrejected => by
      rw [SwitchCase.rejection?, Option.orElse_eq_orElse, Option.orElse_eq_or,
        Option.or_eq_none_iff] at unrejected
      rw [caseBodies]
      refine Settles.congr (.step (settles_block unrejected.1) fun _ _ =>
        .last (settles_caseBodies unrejected.2) fun _ => settles_pure _) ?_
      simp only [List.mem_cons, exists_eq_or_imp]

end

/-! ### Bodies -/

/-- The test for bodies that are disabled is right. -/
theorem isDisabled_iff {body : Block} : IsDisabled body ↔ body.IsDisabledByReturn := by
  rw [IsDisabled, returns_ne_nil_iff, Block.IsDisabledByReturn]
  refine and_congr_right fun _ => ?_
  unfold Block.isSoleReturn
  split
  · rename_i span keyword value sole
    exact iff_of_false Bool.noConfusion fun others => others span keyword value sole
  · rename_i others
    exact iff_of_true rfl others

/-- The error for a rejected statement is about that statement. -/
theorem rejection?_rejected (rejection : Rejection) :
    (rejected setting rejection).rejection? = some rejection := by
  obtain ⟨kind, span⟩ := rejection
  cases kind <;> rfl

/-- A body that is left as it is has one diagnostic. -/
theorem diagnostics_disabled (returns : List ReturnSite) :
    Journal.diagnostics (disabled setting returns) =
      [ReturnWarning.diagnostic
        ⟨setting.descriptor.builder, returns, setting.context.builderAttribute⟩] :=
  rfl

end Transform

open Transform

/-- **What becomes of a body.** A body that is disabled by its returns is left as it is, with one
warning. Otherwise, a body with a rejected statement fails because of such a statement. Otherwise, a
body in which the builder falls short of a block fails for want of something. Any other body is
transformed. -/
theorem transform_verdict (setting : Setting) (body : Block) :
    (((transform setting body).result = .verbatim body ∧
        ∃ warning, (transform setting body).journal.diagnostics = [warning] ∧
          warning.severity = .warning ∧ warning.code = 204) ↔
      body.IsDisabledByReturn) ∧
    ((∃ error rejection, (transform setting body).result = .failed error ∧
        error.rejection? = some rejection ∧
        Somewhere false (HasRejection rejection) body.statements) ↔
      ¬ body.IsDisabledByReturn ∧
        ∃ rejection, Somewhere false (HasRejection rejection) body.statements) ∧
    ((∃ error, (transform setting body).result = .failed error ∧ error.rejection? = none) ↔
      ¬ body.IsDisabledByReturn ∧
        (¬ ∃ rejection, Somewhere false (HasRejection rejection) body.statements) ∧
        Somewhere false setting.descriptor.FallsShort body.statements) ∧
    ((∃ built, (transform setting body).result = .built built) ↔
      ¬ body.IsDisabledByReturn ∧
        (¬ ∃ rejection, Somewhere false (HasRejection rejection) body.statements) ∧
        ¬ Somewhere false setting.descriptor.FallsShort body.statements) := by
  -- the returns decide first, then the rejected statements, then what the builder has
  by_cases disables : body.IsDisabledByReturn
  · rw [transform_of_isDisabled (isDisabled_iff.mpr disables), diagnostics_disabled]
    simp [disables, ReturnWarning.diagnostic, DiagnosticCode.number]
  have enables : ¬ IsDisabled body := mt isDisabled_iff.mp disables
  have searched := finds_rejection body
  cases found : body.rejection? with
  | some rejection =>
      rw [found] at searched
      have listed : Somewhere false (HasRejection rejection) body.statements := searched
      have rejects : ∃ rejection, Somewhere false (HasRejection rejection) body.statements :=
        ⟨rejection, listed⟩
      rw [result_of_rejection enables found]
      simpa [disables, rejects, rejection?_rejected] using listed
  | none =>
      rw [found] at searched
      have unrejected : ¬ ∃ rejection, Somewhere false (HasRejection rejection) body.statements :=
        not_exists.mpr searched
      have settles : Settles (block setting body).outcome
          (Somewhere false setting.descriptor.FallsShort body.statements) := settles_block found
      rw [result_of_block enables found]
      cases outcome : (block setting body).outcome with
      | ok built =>
          rw [outcome] at settles
          have joined : ¬ Somewhere false setting.descriptor.FallsShort body.statements := settles
          simp [disables, unrejected, joined]
      | error error =>
          rw [outcome] at settles
          obtain ⟨ofShortfall, short⟩ := settles
          simp [disables, unrejected, ofShortfall, short]

end ResultBuilder
