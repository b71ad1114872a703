import ResultBuilder.Proofs.Body.Found
import ResultBuilder.Proofs.Diagnostic.About
import ResultBuilder.Proofs.Synthesis.Asking

/-!
# What a transform reports

A transform of a body of a program reports what its collaborators answer and why it stops. All of
it is about the program when the answers are: it points at statements of the body, at the builder
and at the attribute that names it.

* **`TransformError.IsUsable`**, **`ReturnSite.IsUsable`**: errors and returns with usable places.
* **`Setting.IsAbout`**: a setting whose collaborators answer about a program.
* **`Reports`**: a computation whose diagnostics and whose error are about a program.
* **`reports_block`** and its companions: every part of a transform is such a computation.
* **`isAbout_transform`**: the whole of a transform.
-/

namespace ResultBuilder

open Syntax

variable {source : List Char} {program : Program}

/-! ### Errors -/

/-- **An error with usable places**: that of the reason and that of the builder. -/
structure TransformError.IsUsable (source : List Char) (error : TransformError) : Prop where
  place : error.span.IsUsable source
  builder : error.builder.span.IsUsable source

theorem TransformError.IsUsable.isAbout_diagnostic {error : TransformError}
    (usable : error.IsUsable source) : error.diagnostic.IsAbout source program := by
  have one (message : String) : ∀ label ∈ [Label.primary message error.span],
      label.span.IsUsable source :=
    List.forall_mem_singleton.mpr usable.place
  have both (message : String) :
      ∀ label ∈ [Label.primary message error.span, error.builder.declaredHere],
        label.span.IsUsable source :=
    List.forall_mem_cons.mpr ⟨usable.place, List.forall_mem_singleton.mpr usable.builder⟩
  refine Diagnostic.IsUsable.isAbout error.code ⟨?_, ?_⟩ rfl ?_
  · cases error with
    | extraArgument | missingArgument => exact one _
    | declaration | controlFlow | missingCapability | noBlockOverload => exact both _
  · cases error <;> exact List.forall_mem_nil _
  · cases error <;> exact nofun

/-! ### Returns -/

/-- **A return with usable places**, its value after its keyword. -/
structure ReturnSite.IsUsable (source : List Char) (site : ReturnSite) : Prop where
  keyword : site.keyword.IsUsable source
  value : ∀ value ∈ site.value, value.IsUsable source ∧ site.keyword.start ≤ value.start

namespace ReturnSite

variable {site : ReturnSite}

/-- The whole of a return is a usable place. -/
theorem IsUsable.span (usable : site.IsUsable source) : site.span.IsUsable source := by
  obtain ⟨keyword, value⟩ := site
  cases value with
  | none => exact usable.keyword
  | some value => exact usable.keyword.merge (usable.value value rfl).1

/-- A return is turned into its value at a usable place. -/
theorem IsUsable.removal (usable : site.IsUsable source) :
    (ReturnWarning.removal site).span.IsUsable source := by
  obtain ⟨keyword, value⟩ := site
  cases value with
  | none => exact usable.keyword
  | some value =>
      obtain ⟨place, ordered⟩ := usable.value value rfl
      exact usable.keyword.before place ordered

/-- **The returns of a body** have usable places. -/
theorem isUsable_of_mem_returns {body : Block} (sound : program.IsSound source)
    (inside : (Node.block body).WithinProgram program) (listed : site ∈ body.returns) :
    site.IsUsable source := by
  obtain ⟨span, keyword, value, within, rfl⟩ := exists_return_of_mem listed
  have isReturn := inside.within within
  refine ⟨(isReturn.child List.mem_cons_self).isUsable sound, fun place isValue => ?_⟩
  cases value with
  | none => cases isValue
  | some expr =>
      cases isValue
      have isChild : Node.expression expr ∈
          (Node.statement (.returning span keyword (some expr))).children :=
        List.mem_cons_of_mem _ (List.mem_singleton_self _)
      refine ⟨(isReturn.child isChild).isUsable sound, ?_⟩
      have follows : keyword.stop ≤ expr.span.start :=
        List.rel_of_pairwise_cons (sound _ isReturn).placed.apart (List.mem_singleton_self _)
      have ordered : keyword.start ≤ keyword.stop :=
        ((isReturn.child List.mem_cons_self).isUsable sound).ordered
      exact ordered.trans follows

end ReturnSite

/-- **The warning about returns** is about the program when the returns and the attribute are. -/
theorem ReturnWarning.isAbout_diagnostic {warning : ReturnWarning}
    (sites : ∀ site ∈ warning.returns, site.IsUsable source)
    (marked : ∀ mark ∈ warning.builderAttribute, mark.IsUsable source) :
    warning.diagnostic.IsAbout source program := by
  have place : warning.span.IsUsable source := by
    obtain ⟨builder, returns, mark⟩ := warning
    cases returns with
    | nil => exact Span.isUsable_point ⟨[], source, rfl, rfl⟩
    | cons first rest => exact (sites first List.mem_cons_self).span
  have ofReturns : (FixIt.mk "remove 'return' statements to apply the function builder" warning.span
      (warning.returns.map removal)).IsUsable source :=
    ⟨place, List.forall_mem_map.mpr fun site listed => (sites site listed).removal⟩
  refine Diagnostic.IsUsable.isAbout .returnDisablesTransform
    ⟨List.forall_mem_singleton.mpr place, ?_⟩ rfl nofun
  obtain ⟨builder, returns, mark⟩ := warning
  cases mark with
  | none => exact List.forall_mem_singleton.mpr ofReturns
  | some mark =>
      have usable := marked mark rfl
      exact List.forall_mem_cons.mpr
        ⟨FixIt.isUsable_of_edit usable usable, List.forall_mem_singleton.mpr ofReturns⟩

/-! ### Settings -/

/-- **A question about a part of a program** within a body. -/
inductive Question.IsAbout (program : Program) (context : BodyContext) : Question → Prop where
  | exhaustive {node : Switch} (inside : (Node.statement (.switch node)).WithinProgram program) :
      IsAbout program context (.exhaustive context node)
  | condition {node : Condition} (inside : (Node.condition node).WithinProgram program) :
      IsAbout program context (.condition context node)
  | expression {node : Expr} (inside : (Node.expression node).WithinProgram program) :
      IsAbout program context (.expression context node)
  | captures {node : Expr} (inside : (Node.expression node).WithinProgram program) :
      IsAbout program context (.captures context node)

namespace Transform

/-- **A setting about a program**: its builder and its attribute have usable places, and questions
about parts of the program are answered by diagnostics about it. -/
structure Setting.IsAbout (source : List Char) (program : Program) (setting : Setting) : Prop where
  builder : setting.descriptor.builder.span.IsUsable source
  marked : ∀ mark ∈ setting.context.builderAttribute, mark.IsUsable source
  answers : ∀ question, question.IsAbout program setting.context →
    ∀ diagnostic ∈ setting.services.answer question, diagnostic.IsAbout source program

/-! ### Journals -/

/-- A journal whose diagnostics are about a program. -/
def Journal.IsAbout (source : List Char) (program : Program) (journal : Journal) : Prop :=
  ∀ diagnostic ∈ journal.diagnostics, diagnostic.IsAbout source program

theorem Journal.isAbout_nil : Journal.IsAbout source program [] :=
  List.forall_mem_nil _

theorem Journal.IsAbout.append {front back : Journal} (first : Journal.IsAbout source program front)
    (second : Journal.IsAbout source program back) :
    Journal.IsAbout source program (front ++ back) := by
  rw [Journal.IsAbout, Journal.diagnostics_append]
  exact List.forall_mem_append.mpr ⟨first, second⟩

theorem Journal.isAbout_flatMap {α : Type} {items : List α} {write : α → Journal}
    (each : ∀ item ∈ items, Journal.IsAbout source program (write item)) :
    Journal.IsAbout source program (items.flatMap write) := by
  induction items with
  | nil => exact isAbout_nil
  | cons first rest ih =>
      rw [List.forall_mem_cons] at each
      exact each.1.append (ih each.2)

/-! ### Computations -/

/-- Why something fails, if it fails, has usable places. -/
def Refuses {α : Type} (source : List Char) (outcome : Except TransformError α) : Prop :=
  ∀ error, outcome = .error error → error.IsUsable source

/-- **A computation whose diagnostics and whose error are about a program.** -/
structure Reports {α : Type} (source : List Char) (program : Program) (step : Step α) : Prop where
  journal : Journal.IsAbout source program step.journal
  outcome : Refuses source step.outcome

section Reports

variable {α β : Type}

theorem refuses_ok (value : α) : Refuses source (.ok value) :=
  fun _ => nofun

theorem refuses_error {error : TransformError} (usable : error.IsUsable source) :
    Refuses source (.error error : Except TransformError α) := by
  rintro _ ⟨⟩
  exact usable

theorem Refuses.map {outcome : Except TransformError α} (refuses : Refuses source outcome)
    (change : α → β) : Refuses source (change <$> outcome) := by
  cases outcome with
  | ok value => exact refuses_ok _
  | error error => exact refuses_error (refuses error rfl)

theorem Refuses.bind {first : Except TransformError α} {next : α → Except TransformError β}
    (ofFirst : Refuses source first) (ofNext : ∀ value, Refuses source (next value)) :
    Refuses source (first >>= next) := by
  cases first with
  | ok value => exact ofNext value
  | error error => exact refuses_error (ofFirst error rfl)

theorem Reports.pure (value : α) : Reports source program (Pure.pure value : Step α) :=
  ⟨Journal.isAbout_nil, refuses_ok value⟩

theorem Reports.write {journal : Journal} (about : Journal.IsAbout source program journal) :
    Reports source program (Journaled.write journal : Step Unit) :=
  ⟨about, refuses_ok ()⟩

theorem Reports.ofExcept {outcome : Except TransformError α} (refuses : Refuses source outcome) :
    Reports source program (Journaled.ofExcept outcome) :=
  ⟨Journal.isAbout_nil, refuses⟩

/-- **One computation after another.** -/
theorem Reports.bind {first : Step α} {next : α → Step β} (ofFirst : Reports source program first)
    (ofNext : ∀ value, Reports source program (next value)) :
    Reports source program (first >>= next) := by
  refine ⟨?_, ?_⟩
  · cases ends : first.outcome with
    | ok value =>
        rw [Journaled.journal_bind_of_ok next ends]
        exact ofFirst.journal.append (ofNext value).journal
    | error error =>
        rw [Journaled.journal_bind_of_error next ends]
        exact ofFirst.journal
  · rw [Journaled.outcome_bind]
    exact ofFirst.outcome.bind fun value => (ofNext value).outcome

theorem Reports.map {step : Step α} (reports : Reports source program step) (change : α → β) :
    Reports source program (change <$> step) :=
  reports.bind fun _ => .pure _

end Reports

/-! ### Checks and questions -/

section Checks

variable {setting : Setting} (about : setting.IsAbout source program)
  (sound : program.IsSound source)

include about

theorem isUsable_rejected {rejection : Rejection} (place : rejection.span.IsUsable source) :
    (rejected setting rejection).IsUsable source := by
  unfold rejected
  split <;> exact ⟨place, about.builder⟩

theorem refuses_optionalWrap {span : Span} (place : span.IsUsable source) :
    Refuses source (optionalWrap setting span) := by
  unfold optionalWrap
  split
  · exact refuses_ok _
  · exact refuses_error ⟨place, about.builder⟩

theorem refuses_either {span : Span} (place : span.IsUsable source) :
    Refuses source (either setting span) := by
  unfold either
  split
  · exact refuses_ok _
  · split <;> exact refuses_error ⟨place, about.builder⟩

/-- A block that cannot be joined is reported at the block or at one of its values. -/
theorem isUsable_arityError {components : List Span} {span : Span} (place : span.IsUsable source)
    (places : ∀ component ∈ components, component.IsUsable source) :
    (arityError setting components span).IsUsable source := by
  have atValue (index : Nat) : (components[index]?.getD span).IsUsable source := by
    cases found : components[index]? with
    | none => exact place
    | some component => exact places component (List.mem_of_getElem? found)
  unfold arityError
  dsimp only
  split
  · split
    · exact ⟨atValue _, about.builder⟩
    · split
      · split <;> exact ⟨place, about.builder⟩
      · exact ⟨place, about.builder⟩
  · split
    · split <;> exact ⟨place, about.builder⟩
    · exact ⟨place, about.builder⟩

theorem refuses_blockJoin {components : List Span} {span : Span} (place : span.IsUsable source)
    (places : ∀ component ∈ components, component.IsUsable source) :
    Refuses source (blockJoin setting components span) := by
  unfold blockJoin
  split
  · exact refuses_ok _
  · exact refuses_error (isUsable_arityError about place places)

include sound

/-- **The check of a statement** fails at the statement or at one in it. -/
theorem refuses_check {statement : Statement}
    (inside : (Node.statement statement).WithinProgram program) :
    Refuses source (check setting statement) := by
  have place : statement.span.IsUsable source := inside.isUsable sound
  unfold check
  split
  case h_1 rejection form =>
    obtain ⟨part, within, same⟩ := exists_rejected_of_form form
    exact refuses_error (isUsable_rejected about (same ▸ (inside.within within).isUsable sound))
  case h_2 => exact (refuses_optionalWrap about place).map _
  case h_3 => exact (refuses_either about place).map _
  case h_4 =>
    split
    · exact (refuses_either about place).map _
    · exact refuses_ok _
  all_goals exact refuses_ok _

theorem refuses_checkAll {statements : List Statement}
    (inside : ∀ statement ∈ statements, (Node.statement statement).WithinProgram program) :
    Refuses source (checkAll setting statements) := by
  induction statements with
  | nil => exact refuses_ok _
  | cons statement rest ih =>
      rw [List.forall_mem_cons] at inside
      exact (refuses_check about sound inside.1).bind fun _ => ih inside.2

omit sound

/-- **Answers are passed on.** -/
theorem isAbout_relay {question : Question} (asked : question.IsAbout program setting.context) :
    Journal.IsAbout source program
      (relay setting question (setting.services.answer question)) := by
  intro diagnostic reported
  obtain ⟨entry, listed, isReported⟩ := List.mem_filterMap.mp reported
  rcases List.mem_cons.mp listed with rfl | listed
  · cases isReported
  · obtain ⟨answer, answered, rfl⟩ := List.mem_map.mp listed
    cases isReported
    exact (about.answers question asked answer answered).withNote _

theorem isAbout_leafChecks {expr : Expr}
    (inside : (Node.expression expr).WithinProgram program) :
    Journal.IsAbout source program (leafChecks setting expr) := by
  refine .append ?_ ?_
  · split
    · exact isAbout_relay about (.expression inside)
    · exact Journal.isAbout_nil
  · split
    · exact isAbout_relay about (.captures inside)
    · exact Journal.isAbout_nil

theorem isAbout_conditionChecks {condition : Condition}
    (inside : (Node.condition condition).WithinProgram program) :
    Journal.IsAbout source program (conditionChecks setting condition) := by
  refine .append (isAbout_relay about (.condition inside)) (isAbout_leafChecks about ?_)
  cases condition with
  | expression expr => exact inside.child (List.mem_singleton_self _)
  | binding span isMutable bound value =>
      exact inside.child (List.mem_cons_of_mem _ (List.mem_singleton_self _))

theorem isAbout_switchChecks {node : Switch}
    (inside : (Node.statement (.switch node)).WithinProgram program) :
    Journal.IsAbout source program (switchChecks setting node) :=
  .append (isAbout_relay about (.exhaustive inside))
    (isAbout_leafChecks about (inside.child List.mem_cons_self))

theorem reports_leaf {expr : Expr} (inside : (Node.expression expr).WithinProgram program) :
    Reports source program (leaf setting expr) :=
  .bind (.write (isAbout_leafChecks about inside)) fun _ =>
    .bind (.write (List.forall_mem_nil _)) fun _ => .pure _

end Checks

/-! ### Parts of a body -/

section Parts

variable {setting : Setting}

mutual

/-- **A block** of a program. -/
theorem reports_block (about : setting.IsAbout source program)
    (sound : program.IsSound source) : ∀ {body : Block}, (Node.block body).WithinProgram program →
    Reports source program (block setting body)
  | ⟨span, statements⟩, inside => by
      have each : ∀ statement ∈ statements,
          (Node.statement statement).WithinProgram program :=
        fun _ listed => inside.child (List.mem_map_of_mem listed)
      have places : ∀ component ∈ componentSpans statements, component.IsUsable source :=
        List.forall_mem_map.mpr fun statement listed =>
          (each statement (List.mem_filter.mp listed).1).isUsable sound
      rw [block]
      refine .bind (.ofExcept (refuses_checkAll about sound each)) fun _ => ?_
      refine .bind (.ofExcept (refuses_blockJoin about (inside.isUsable sound) places)) fun _ => ?_
      exact .bind (reports_components about sound each) fun _ => .pure _

theorem reports_components (about : setting.IsAbout source program)
    (sound : program.IsSound source) : ∀ {statements : List Statement},
    (∀ statement ∈ statements, (Node.statement statement).WithinProgram program) →
      Reports source program (components setting statements)
  | [], _ => .pure _
  | statement :: rest, inside => by
      rw [List.forall_mem_cons] at inside
      rw [components]
      refine .bind (.write (List.forall_mem_nil _)) fun _ => ?_
      refine .bind (reports_component about sound inside.1) fun _ => ?_
      exact .bind (reports_components about sound inside.2) fun _ => .pure _

/-- **A statement** of a program. -/
theorem reports_component (about : setting.IsAbout source program)
    (sound : program.IsSound source) : ∀ {statement : Statement},
    (Node.statement statement).WithinProgram program →
      Reports source program (component setting statement)
  | .expression _, inside => by
      rw [component]
      exact (reports_leaf about (inside.child (List.mem_singleton_self _))).map _
  | .returning _ _ (some _), inside => by
      rw [component]
      exact (reports_leaf about (inside.child (List.mem_cons_of_mem _
        (List.mem_singleton_self _)))).map _
  | .conditional _, inside => by
      rw [component]
      exact (reports_conditional about sound inside).map _
  | .switch _, inside => by
      rw [component]
      exact (reports_switch about sound inside).map _
  | .doBlock _ _, inside => by
      rw [component]
      exact .bind (reports_block about sound (inside.child (List.mem_singleton_self _)))
        fun _ => .pure _
  | .returning _ _ none, _ | .directive _, _ | .declaration _, _ | .loop _, _
  | .fallthrough _, _ | .jump _ _, _ => by
      rw [component]
      exact .pure _

theorem reports_conditional (about : setting.IsAbout source program)
    (sound : program.IsSound source) : ∀ {node : Conditional},
    (Node.statement (.conditional node)).WithinProgram program →
      Reports source program (conditional setting node)
  | ⟨_, _, thenBlock, none⟩, inside => by
      rw [conditional]
      refine .bind (.write (Journal.isAbout_flatMap fun _ listed => isAbout_conditionChecks about
        (inside.child (List.mem_append_left _ (List.mem_map_of_mem listed))))) fun _ => ?_
      refine .bind (reports_block about sound (inside.child (List.mem_append_right _
        List.mem_cons_self))) fun _ => ?_
      exact .bind (.ofExcept (refuses_optionalWrap about (inside.isUsable sound))) fun _ => .pure _
  | ⟨_, _, thenBlock, some otherwise⟩, inside => by
      rw [conditional]
      refine .bind (.write (Journal.isAbout_flatMap fun _ listed => isAbout_conditionChecks about
        (inside.child (List.mem_append_left _ (List.mem_map_of_mem listed))))) fun _ => ?_
      refine .bind (reports_block about sound (inside.child (List.mem_append_right _
        List.mem_cons_self))) fun _ => ?_
      refine .bind (.ofExcept (refuses_either about (inside.isUsable sound))) fun _ => ?_
      exact .bind (reports_alternative about sound (inside.child (List.mem_append_right _
        (List.mem_cons_of_mem _ (List.mem_singleton_self _))))) fun _ => .pure _

theorem reports_alternative (about : setting.IsAbout source program)
    (sound : program.IsSound source) : ∀ {otherwise : Syntax.Alternative},
    (Node.ofAlternative otherwise).WithinProgram program →
      Reports source program (alternative setting otherwise)
  | .block _, inside => by
      rw [alternative]
      exact reports_block about sound inside
  | .chained node, inside => by
      have place : node.span.IsUsable source := inside.isUsable sound
      rw [alternative]
      refine .bind (.ofExcept (refuses_check about sound inside)) fun _ => ?_
      refine .bind (.ofExcept (refuses_blockJoin about place
        (List.forall_mem_singleton.mpr place))) fun _ => ?_
      exact .bind (reports_conditional about sound inside) fun _ => .pure _

theorem reports_switch (about : setting.IsAbout source program)
    (sound : program.IsSound source) : ∀ {node : Switch},
    (Node.statement (.switch node)).WithinProgram program →
      Reports source program (switch setting node)
  | ⟨span, subject, cases⟩, inside => by
      rw [switch]
      refine .bind (.write (isAbout_switchChecks about inside)) fun _ => ?_
      refine .bind (reports_caseBodies about sound fun _ listed =>
        inside.child (List.mem_cons_of_mem _ (List.mem_map_of_mem listed))) fun _ => ?_
      split
      · exact .bind (.ofExcept (refuses_either about (inside.isUsable sound))) fun _ => .pure _
      · exact .pure _

theorem reports_caseBodies (about : setting.IsAbout source program)
    (sound : program.IsSound source) : ∀ {cases : List SwitchCase},
    (∀ switchCase ∈ cases, (Node.switchCase switchCase).WithinProgram program) →
      Reports source program (caseBodies setting cases)
  | [], _ => .pure _
  | ⟨_, _, body⟩ :: rest, inside => by
      rw [List.forall_mem_cons] at inside
      rw [caseBodies]
      refine .bind (reports_block about sound (inside.1.child (List.mem_append_right _
        (List.mem_singleton_self _)))) fun _ => ?_
      exact .bind (reports_caseBodies about sound inside.2) fun _ => .pure _

end

/-- A body whose returns do not matter. -/
theorem reports_wholeBody {body : Block} (about : setting.IsAbout source program)
    (sound : program.IsSound source) (inside : (Node.block body).WithinProgram program) :
    Reports source program (wholeBody setting body) := by
  unfold wholeBody
  split
  next rejection found =>
    obtain ⟨part, within, same⟩ := exists_rejected found
    exact .ofExcept (refuses_error (isUsable_rejected about
      (same ▸ (inside.within within).isUsable sound)))
  next => exact reports_block about sound inside

end Parts

/-! ### Bodies -/

/-- **What becomes of a body of a program**: the diagnostics and the error are about the program. -/
structure Transformed.IsAbout (source : List Char) (program : Program) (outcome : Transformed) :
    Prop where
  journal : Journal.IsAbout source program outcome.journal
  failed : ∀ error, outcome.result = .failed error → error.IsUsable source

end Transform

open Transform

/-- **A transform of a body of a program reports about the program.** -/
theorem isAbout_transform {setting : Setting} {body : Block}
    (about : setting.IsAbout source program) (sound : program.IsSound source)
    (inside : (Node.block body).WithinProgram program) :
    (transform setting body).IsAbout source program := by
  unfold transform
  dsimp only
  split
  · refine ⟨List.forall_mem_singleton.mpr (ReturnWarning.isAbout_diagnostic ?_ about.marked),
      fun _ => nofun⟩
    exact fun site listed => ReturnSite.isUsable_of_mem_returns sound inside listed
  · have reports := reports_wholeBody about sound inside
    split
    next built ends => exact ⟨reports.journal, fun _ => nofun⟩
    next error ends =>
      refine ⟨reports.journal.append (List.forall_mem_nil _), ?_⟩
      rintro _ ⟨⟩
      exact reports.outcome error ends

end ResultBuilder
