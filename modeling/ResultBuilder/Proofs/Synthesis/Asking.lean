import ResultBuilder.Proofs.Synthesis.Outcome

/-!
# Whoever is asked

A transform asks its collaborators on the way, between steps that may fail. What they answer decides
neither whether the transform succeeds nor what it builds: two runs with different collaborators go
through the same steps, ask the same questions and end alike. The answers only end up in shapes and
in diagnostics that are passed on.

* **`InStep`**: two computations that end alike and write the same script, each with its own answers.
* **`inStep_block`** and its companions: every part of a transform, run with different collaborators.
* **`notices_transform`**: what a transform reports is answers and warnings about returns.
* **`transform_asking`**: the whole of a transform.
* **`Coupled`**, **`Coupled.bind`**: computations that end alike and write what is related, whatever
  the runs differ in.
-/

namespace ResultBuilder

open Syntax

namespace Collaborators

/-- The diagnostics with which a question is answered. A question for a shape or for an overload is
not answered by diagnostics. -/
def answer (services : Collaborators) : Question → List Diagnostic
  | .exhaustive context node => services.checkExhaustive context node
  | .condition context node => services.checkCondition context node
  | .expression context node => services.checkExpression context node
  | .captures context node => services.checkCaptures context node
  | .type _ _ | .overload _ _ => []

/-- Collaborators who know the same shapes but never find anything wrong. -/
def silenced (services : Collaborators) : Collaborators where
  checkExhaustive _ _ := []
  checkCondition _ _ := []
  checkExpression _ _ := []
  checkCaptures _ _ := []
  typeOf := services.typeOf
  resolveOverload := services.resolveOverload

/-- Those who never find anything wrong answer nothing. -/
theorem answer_silenced (services : Collaborators) (question : Question) :
    services.silenced.answer question = [] := by
  cases question <;> rfl

end Collaborators

namespace Journaled

variable {ε α β : Type}

/-- A step that fails is followed by nothing. -/
theorem journal_bind_of_error {first : Journaled ε α} {error : ε} (next : α → Journaled ε β)
    (failed : first.outcome = .error error) : (first >>= next).journal = first.journal := by
  show (Journaled.bind first next).journal = _
  simp [Journaled.bind, failed]

end Journaled

namespace Transform

open Journaled

/-- The same setting with others to ask. -/
def Setting.asking (setting : Setting) (services : Collaborators) : Setting :=
  { setting with services }

/-! ### Scripts -/

/-- What a journal becomes of an entry: the answer follows a question. -/
def Setting.answeredEntry (setting : Setting) : Entry → Journal
  | .asked question => relay setting question (setting.services.answer question)
  | entry => [entry]

/-- **A script with its answers**: after every question the diagnostics that answer it, each with the
remark where it comes from. -/
def Setting.answered (setting : Setting) (script : Journal) : Journal :=
  script.flatMap setting.answeredEntry

section Scripts

variable {setting : Setting}

theorem answered_append (front back : Journal) :
    setting.answered (front ++ back) = setting.answered front ++ setting.answered back :=
  List.flatMap_append

/-- Those who never find anything wrong leave a script as it is. -/
theorem answered_silenced (services : Collaborators) (script : Journal) :
    (setting.asking services.silenced).answered script = script := by
  induction script with
  | nil => rfl
  | cons entry rest inductionHypothesis =>
      have single : (setting.asking services.silenced).answeredEntry entry = [entry] := by
        cases entry with
        | asked question =>
            show relay _ question (services.silenced.answer question) = _
            rw [services.answer_silenced]
            rfl
        | reported _ | happened _ => rfl
      rw [Setting.answered, List.flatMap_cons, single, ← Setting.answered, inductionHypothesis]
      rfl

/-- The questions about an expression that becomes a value or decides between values. -/
def leafQuestions (setting : Setting) (expr : Expr) : Journal :=
  (if setting.config.checkSyntacticUses then [.asked (.expression setting.context expr)] else []) ++
    (if setting.config.checkCaptures then [.asked (.captures setting.context expr)] else [])

/-- The questions about a condition. -/
def conditionQuestions (setting : Setting) (condition : Condition) : Journal :=
  .asked (.condition setting.context condition) :: leafQuestions setting condition.expr

/-- The questions about a `switch`. -/
def switchQuestions (setting : Setting) (node : Switch) : Journal :=
  .asked (.exhaustive setting.context node) :: leafQuestions setting node.subject

/-- A single question with its answer. -/
theorem answered_asked (question : Question) :
    setting.answered [.asked question] =
      relay setting question (setting.services.answer question) :=
  List.append_nil _

theorem answered_leafQuestions (expr : Expr) :
    setting.answered (leafQuestions setting expr) = leafChecks setting expr := by
  rw [leafQuestions, leafChecks, answered_append]
  congr 1
  · split
    · exact answered_asked _
    · rfl
  · split
    · exact answered_asked _
    · rfl

theorem answered_conditionQuestions (condition : Condition) :
    setting.answered (conditionQuestions setting condition) = conditionChecks setting condition := by
  rw [conditionQuestions, ← List.singleton_append, answered_append, answered_leafQuestions,
    answered_asked]
  rfl

theorem answered_allConditionQuestions (conditions : List Condition) :
    setting.answered (conditions.flatMap (conditionQuestions setting)) =
      conditions.flatMap (conditionChecks setting) := by
  rw [Setting.answered, List.flatMap_assoc]
  exact congrArg (fun checks => conditions.flatMap checks) (funext answered_conditionQuestions)

/-! Questions report nothing themselves. -/

theorem diagnostics_leafQuestions (expr : Expr) : (leafQuestions setting expr).diagnostics = [] := by
  rw [leafQuestions, Journal.diagnostics_append]
  split <;> split <;> rfl

theorem diagnostics_conditionQuestions (condition : Condition) :
    (conditionQuestions setting condition).diagnostics = [] :=
  diagnostics_leafQuestions condition.expr

theorem diagnostics_allConditionQuestions (conditions : List Condition) :
    Journal.diagnostics (conditions.flatMap (conditionQuestions setting)) = [] := by
  induction conditions with
  | nil => rfl
  | cons condition rest inductionHypothesis =>
      rw [List.flatMap_cons, Journal.diagnostics_append, inductionHypothesis,
        diagnostics_conditionQuestions, List.append_nil]

theorem answered_switchQuestions (node : Switch) :
    setting.answered (switchQuestions setting node) = switchChecks setting node := by
  rw [switchQuestions, ← List.singleton_append, answered_append, answered_leafQuestions,
    answered_asked]
  rfl

end Scripts

/-! ### Two runs -/

variable {α β γ δ : Type}

/-- **Two outcomes that are alike**: two results that are related or twice the same error. -/
inductive Alike (same : α → β → Prop) :
    Except TransformError α → Except TransformError β → Prop where
  | ok {value : α} {other : β} (related : same value other) : Alike same (.ok value) (.ok other)
  | error (error : TransformError) : Alike same (.error error) (.error error)

/-- **Two computations in step**, for two collaborators: they end alike, and they write the same
script with the answers of the one and of the other. They report nothing of their own. -/
structure InStep (setting : Setting) (one other : Collaborators) (same : α → β → Prop)
    (first : Step α) (second : Step β) : Prop where
  /-- They end alike. -/
  outcome : Alike same first.outcome second.outcome
  /-- They write the same script. -/
  journal : ∃ script : Journal, script.diagnostics = [] ∧
    first.journal = (setting.asking one).answered script ∧
      second.journal = (setting.asking other).answered script

section InStep

variable {setting : Setting} {one other : Collaborators}

theorem InStep.pure {same : α → β → Prop} {value : α} {result : β} (related : same value result) :
    InStep setting one other same (Pure.pure value) (Pure.pure result) :=
  ⟨.ok related, [], rfl, rfl, rfl⟩

/-- Both write a script. -/
theorem InStep.write (script : Journal) {first second : Journal}
    (silent : script.diagnostics = [])
    (ofOne : (setting.asking one).answered script = first)
    (ofOther : (setting.asking other).answered script = second) :
    InStep setting one other Eq (Journaled.write first) (Journaled.write second) :=
  ⟨.ok rfl, script, silent, ofOne.symm, ofOther.symm⟩

/-- Both do something in which nobody is asked. -/
theorem InStep.ofExcept (outcome : Except TransformError α) :
    InStep setting one other Eq (Journaled.ofExcept outcome) (Journaled.ofExcept outcome) := by
  refine ⟨?_, [], rfl, rfl, rfl⟩
  show Alike Eq outcome outcome
  cases outcome with
  | error error => exact .error error
  | ok value => exact .ok rfl

/-- **Computations that go on in step stay in step.** -/
theorem InStep.bind {same : α → β → Prop} {alsoSame : γ → δ → Prop} {first : Step α}
    {second : Step β} {next : α → Step γ} {follow : β → Step δ}
    (inStep : InStep setting one other same first second)
    (goesOn : ∀ value result, same value result →
      InStep setting one other alsoSame (next value) (follow result)) :
    InStep setting one other alsoSame (first >>= next) (second >>= follow) := by
  obtain ⟨ends, script, silent, ofFirst, ofSecond⟩ := inStep
  generalize endsFirst : first.outcome = firstOutcome at ends
  generalize endsSecond : second.outcome = secondOutcome at ends
  cases ends with
  | error error =>
      refine ⟨?_, script, silent, ?_, ?_⟩
      · rw [outcome_bind, outcome_bind, endsFirst, endsSecond]
        exact .error error
      · rw [journal_bind_of_error next endsFirst, ofFirst]
      · rw [journal_bind_of_error follow endsSecond, ofSecond]
  | @ok value result related =>
      obtain ⟨rest, more, further, ofNext, ofFollow⟩ := goesOn value result related
      refine ⟨?_, script ++ more, ?_, ?_, ?_⟩
      · rw [outcome_bind, outcome_bind, endsFirst, endsSecond]
        exact rest
      · rw [Journal.diagnostics_append, silent, further, List.append_nil]
      · rw [journal_bind_of_ok next endsFirst, ofFirst, ofNext, answered_append]
      · rw [journal_bind_of_ok follow endsSecond, ofSecond, ofFollow, answered_append]

/-- Results that are changed by what keeps them related. -/
theorem InStep.map {same : α → β → Prop} {alsoSame : γ → δ → Prop} {first : Step α}
    {second : Step β} {change : α → γ} {follow : β → δ}
    (inStep : InStep setting one other same first second)
    (kept : ∀ value result, same value result → alsoSame (change value) (follow result)) :
    InStep setting one other alsoSame (change <$> first) (follow <$> second) :=
  inStep.bind fun value result related => .pure (kept value result related)

end InStep

/-! ### What is built in two runs -/

/-- **Parts that are built alike**: their expressions are the same, and where the collaborators know
the same shapes, so are the parts. -/
structure Built.Matches (one other : Collaborators) (left right : Built) : Prop where
  /-- The same is synthesized. -/
  expr_eq : left.expr = right.expr
  /-- The shapes are as the collaborators know them. -/
  eq : one.typeOf = other.typeOf → left = right

/-- Several parts that are built alike. -/
structure AllMatch (one other : Collaborators) (left right : List Built) : Prop where
  /-- The same is synthesized. -/
  exprs_eq : left.map (·.expr) = right.map (·.expr)
  /-- The shapes are as the collaborators know them. -/
  eq : one.typeOf = other.typeOf → left = right

section Matches

variable {one other : Collaborators} {left right : Built} {lefts rights : List Built}

theorem AllMatch.length_eq (allMatch : AllMatch one other lefts rights) :
    lefts.length = rights.length := by
  simpa using congrArg List.length allMatch.exprs_eq

theorem AllMatch.cons (first : left.Matches one other right)
    (rest : AllMatch one other lefts rights) :
    AllMatch one other (left :: lefts) (right :: rights) where
  exprs_eq := by rw [List.map_cons, List.map_cons, first.expr_eq, rest.exprs_eq]
  eq agree := by rw [first.eq agree, rest.eq agree]

/-- A single part. -/
theorem Built.Matches.single (matching : left.Matches one other right) :
    AllMatch one other [left] [right] :=
  .cons matching ⟨rfl, fun _ => rfl⟩

variable (setting : Setting)

/-- Parts that are joined by the same operation. -/
theorem AllMatch.join (allMatch : AllMatch one other lefts rights) (operation : Operation)
    (origin : Span) :
    (join setting operation lefts origin).Matches one other
      (join setting operation rights origin) where
  expr_eq := by rw [Transform.join, Transform.join, allMatch.exprs_eq]
  eq agree := by rw [allMatch.eq agree]

theorem Built.Matches.wrap (matching : left.Matches one other right) (operation : Operation)
    (origin : Span) :
    (wrap setting operation left origin).Matches one other (wrap setting operation right origin) :=
  matching.single.join setting operation origin

theorem Built.Matches.doWrapped (matching : left.Matches one other right) (origin : Span) :
    (doWrapped setting origin left).Matches one other (doWrapped setting origin right) := by
  unfold Transform.doWrapped
  cases setting.descriptor.doWrap with
  | none => exact matching
  | some operation => exact matching.wrap setting operation origin

theorem Built.Matches.optional (matching : left.Matches one other right) (operation : Operation)
    (conditions : List Condition) (origin : Span) :
    (optional setting operation conditions left origin).Matches one other
      (optional setting operation conditions right origin) where
  expr_eq := by rw [Transform.optional, Transform.optional, matching.expr_eq]
  eq agree := by rw [matching.eq agree]

theorem Built.Matches.alternatives {thenLeft thenRight : Built}
    (first : thenLeft.Matches one other thenRight) (second : left.Matches one other right)
    (operations : Operation × Operation) (conditions : List Condition) (origin : Span) :
    (alternatives setting operations conditions thenLeft left origin).Matches one other
      (alternatives setting operations conditions thenRight right origin) where
  expr_eq := by
    show Synthesized.conditional _ _ _ = Synthesized.conditional _ _ _
    rw [(first.wrap setting operations.1 origin).expr_eq,
      (second.wrap setting operations.2 origin).expr_eq]
  eq agree := by rw [first.eq agree, second.eq agree]

/-- Wrapping along a path looks at nothing but the expression to synthesize another. -/
theorem expr_wrapAlong (operations : Operation × Operation) (origin : Span) (path : List Branch)
    (same : left.expr = right.expr) :
    (wrapAlong setting operations origin path left).expr =
      (wrapAlong setting operations origin path right).expr := by
  induction path with
  | nil => exact same
  | cons branch rest inductionHypothesis =>
      cases branch with
      | first | second =>
          show Synthesized.call _ = Synthesized.call _
          simp only [List.map_cons, List.map_nil]
          rw [← wrapAlong, ← wrapAlong, inductionHypothesis]

/-- What is synthesized for cases that are wrapped, from what is synthesized for the cases. -/
theorem exprs_wrapCases (operations : Operation × Operation) (cases : List SwitchCase)
    (arms : List Built) :
    (wrapCases setting (some operations) cases arms).map (·.expr) =
      ((cases.zip (arms.map (·.expr))).zip
        (eitherPaths arms.length setting.config.eitherEncoding)).map fun ((switchCase, expr), path) =>
          (wrapAlong setting operations switchCase.span path ⟨expr, .hole⟩).expr := by
  rw [wrapCases, List.zip_map_right, List.zip_map_left, List.map_map, List.map_map]
  exact List.map_congr_left fun entry _ => expr_wrapAlong setting operations _ _ rfl

theorem AllMatch.wrapCases (allMatch : AllMatch one other lefts rights)
    (operations : Operation × Operation) (cases : List SwitchCase) :
    AllMatch one other (wrapCases setting (some operations) cases lefts)
      (wrapCases setting (some operations) cases rights) where
  exprs_eq := by
    rw [exprs_wrapCases, exprs_wrapCases, allMatch.exprs_eq, allMatch.length_eq]
  eq agree := by rw [allMatch.eq agree]

theorem AllMatch.chooseCase (allMatch : AllMatch one other lefts rights) (subject : Expr)
    (cases : List SwitchCase) :
    (chooseCase subject cases lefts).Matches one other (chooseCase subject cases rights) where
  expr_eq := by
    have arms : ∀ built : List Built,
        (cases.zip built).map (fun arm => (⟨arm.1.label, arm.2.expr⟩ : Arm)) =
          (cases.zip (built.map (·.expr))).map fun arm => ⟨arm.1.label, arm.2⟩ := by
      intro built
      rw [List.zip_map_right, List.map_map]
      rfl
    show Synthesized.switch subject _ = Synthesized.switch subject _
    rw [arms, arms, allMatch.exprs_eq]
  eq agree := by rw [allMatch.eq agree]

end Matches

/-! ### Parts of a body -/

/-- Statements have a value in both runs or in neither. -/
abbrev OptionMatches (one other : Collaborators) (left right : Option Built) : Prop :=
  AllMatch one other left.toList right.toList

section Parts

variable (setting : Setting) (one other : Collaborators)

theorem checkAll_asking (services : Collaborators) (statements : List Statement) :
    checkAll (setting.asking services) statements = checkAll setting statements := by
  induction statements with
  | nil => rfl
  | cons statement rest inductionHypothesis =>
      rw [checkAll, checkAll, inductionHypothesis]
      rfl

/-- An expression is transformed in step. -/
theorem inStep_leaf (expr : Expr) :
    InStep setting one other (Built.Matches one other) (leaf (setting.asking one) expr)
      (leaf (setting.asking other) expr) := by
  refine .bind (.write (leafQuestions setting expr) (diagnostics_leafQuestions expr)
    (answered_leafQuestions expr) (answered_leafQuestions expr)) fun _ _ _ => ?_
  refine .bind (.write [.asked (.type setting.context expr)] rfl rfl rfl) fun _ _ _ => ?_
  exact .pure ⟨rfl, fun agree => by simp only [Setting.asking, agree]⟩

mutual

/-- **A block is transformed in step**, whoever is asked. -/
theorem inStep_block : ∀ body : Block,
    InStep setting one other (Built.Matches one other) (block (setting.asking one) body)
      (block (setting.asking other) body)
  | ⟨span, statements⟩ => by
      rw [block, block, checkAll_asking, checkAll_asking]
      refine .bind (.ofExcept _) fun _ _ _ => ?_
      refine .bind (.ofExcept (blockJoin setting (componentSpans statements) span)) ?_
      rintro operation _ rfl
      refine .bind (inStep_components statements) fun lefts rights allMatch => ?_
      exact .pure (allMatch.join setting operation span)

/-- Statements are transformed in step. -/
theorem inStep_components : ∀ statements : List Statement,
    InStep setting one other (AllMatch one other) (components (setting.asking one) statements)
      (components (setting.asking other) statements)
  | [] => by
      rw [components, components]
      exact .pure ⟨rfl, fun _ => rfl⟩
  | statement :: rest => by
      rw [components, components]
      refine .bind (.write (statementEvent setting statement) rfl rfl rfl) fun _ _ _ => ?_
      refine .bind (inStep_component statement) fun left right ofFirst => ?_
      refine .bind (inStep_components rest) fun lefts rights ofRest => .pure ?_
      exact ⟨by rw [List.map_append, List.map_append, ofFirst.exprs_eq, ofRest.exprs_eq],
        fun agree => by rw [ofFirst.eq agree, ofRest.eq agree]⟩

/-- A statement is transformed in step. -/
theorem inStep_component : ∀ statement : Statement,
    InStep setting one other (OptionMatches one other) (component (setting.asking one) statement)
      (component (setting.asking other) statement)
  | .expression expr | .returning _ _ (some expr) => by
      rw [component, component]
      exact (inStep_leaf setting one other expr).map fun _ _ matching => matching.single
  | .conditional node => by
      rw [component, component]
      exact (inStep_conditional node).map fun _ _ matching => matching.single
  | .switch node => by
      rw [component, component]
      exact (inStep_switch node).map fun _ _ matching => matching.single
  | .doBlock span body => by
      rw [component, component]
      refine .bind (inStep_block body) fun left right matching => .pure ?_
      exact (matching.doWrapped setting span).single
  | .returning _ _ none | .directive _ | .declaration _ | .loop _ | .fallthrough _
  | .jump _ _ => by
      rw [component, component]
      exact .pure ⟨rfl, fun _ => rfl⟩

/-- An `if` is transformed in step. -/
theorem inStep_conditional : ∀ node : Conditional,
    InStep setting one other (Built.Matches one other) (conditional (setting.asking one) node)
      (conditional (setting.asking other) node)
  | ⟨span, conditions, thenBlock, none⟩ => by
      rw [conditional, conditional]
      refine .bind (.write (conditions.flatMap (conditionQuestions setting))
        (diagnostics_allConditionQuestions conditions) (answered_allConditionQuestions conditions)
        (answered_allConditionQuestions conditions)) fun _ _ _ => ?_
      refine .bind (inStep_block thenBlock) fun left right matching => ?_
      refine .bind (.ofExcept (optionalWrap setting span)) ?_
      rintro operation _ rfl
      exact .pure (matching.optional setting operation conditions span)
  | ⟨span, conditions, thenBlock, some otherwise⟩ => by
      rw [conditional, conditional]
      refine .bind (.write (conditions.flatMap (conditionQuestions setting))
        (diagnostics_allConditionQuestions conditions) (answered_allConditionQuestions conditions)
        (answered_allConditionQuestions conditions)) fun _ _ _ => ?_
      refine .bind (inStep_block thenBlock) fun thenLeft thenRight ofThen => ?_
      refine .bind (.ofExcept (either setting span)) ?_
      rintro operations _ rfl
      refine .bind (inStep_alternative otherwise) fun left right ofElse => .pure ?_
      exact ofThen.alternatives setting ofElse operations conditions span

/-- What is done otherwise is transformed in step. -/
theorem inStep_alternative : ∀ otherwise : Syntax.Alternative,
    InStep setting one other (Built.Matches one other)
      (alternative (setting.asking one) otherwise) (alternative (setting.asking other) otherwise)
  | .block node => by
      rw [alternative, alternative]
      exact inStep_block node
  | .chained node => by
      rw [alternative, alternative]
      refine .bind (.ofExcept (check setting (.conditional node))) fun _ _ _ => ?_
      refine .bind (.ofExcept (blockJoin setting [node.span] node.span)) ?_
      rintro operation _ rfl
      refine .bind (inStep_conditional node) fun left right matching => .pure ?_
      exact matching.single.join setting operation node.span

/-- A `switch` is transformed in step. -/
theorem inStep_switch : ∀ node : Switch,
    InStep setting one other (Built.Matches one other) (switch (setting.asking one) node)
      (switch (setting.asking other) node)
  | ⟨span, subject, cases⟩ => by
      rw [switch, switch]
      refine .bind (.write (switchQuestions setting ⟨span, subject, cases⟩)
        (diagnostics_leafQuestions subject) (answered_switchQuestions _)
        (answered_switchQuestions _)) fun _ _ _ => ?_
      refine .bind (inStep_caseBodies cases) fun lefts rights allMatch => ?_
      -- both runs have as many values, so that they agree on whether to wrap them
      rw [allMatch.length_eq]
      split
      · refine .bind (.ofExcept (either setting span)) ?_
        rintro operations _ rfl
        exact .pure ((allMatch.wrapCases setting operations cases).chooseCase
          subject cases)
      · exact .pure (allMatch.chooseCase subject cases)

/-- The bodies of cases are transformed in step. -/
theorem inStep_caseBodies : ∀ cases : List SwitchCase,
    InStep setting one other (AllMatch one other) (caseBodies (setting.asking one) cases)
      (caseBodies (setting.asking other) cases)
  | [] => by
      rw [caseBodies, caseBodies]
      exact .pure ⟨rfl, fun _ => rfl⟩
  | ⟨_, _, body⟩ :: rest => by
      rw [caseBodies, caseBodies]
      refine .bind (inStep_block body) fun left right ofFirst => ?_
      refine .bind (inStep_caseBodies rest) fun lefts rights ofRest => ?_
      exact .pure (.cons ofFirst ofRest)

end

/-- A body whose returns do not matter is transformed in step. -/
theorem inStep_wholeBody (body : Block) :
    InStep setting one other (Built.Matches one other) (wholeBody (setting.asking one) body)
      (wholeBody (setting.asking other) body) := by
  unfold wholeBody
  cases body.rejection? with
  | some rejection => exact ⟨.error (rejected setting rejection), [], rfl, rfl, rfl⟩
  | none => exact inStep_block setting one other body

end Parts

/-! ### Bodies -/

/-- **The same becomes of a body**, apart from shapes. -/
inductive Result.SameRewrite : Result → Result → Prop where
  /-- The same is synthesized. -/
  | built {left right : Built} (expr_eq : left.expr = right.expr) :
      SameRewrite (.built left) (.built right)
  /-- The same block is left as it is. -/
  | verbatim (block : Block) : SameRewrite (.verbatim block) (.verbatim block)
  /-- The same error occurs. -/
  | failed (error : TransformError) : SameRewrite (.failed error) (.failed error)

/-- **A run and another with other collaborators**: the same becomes of the body, with the same
shapes where the collaborators know the same, and the journals are one script with two sets of
answers. -/
structure Transformed.InStep (setting : Setting) (one other : Collaborators)
    (first second : Transformed) : Prop where
  /-- The same becomes of the body. -/
  sameRewrite : first.result.SameRewrite second.result
  /-- The results are the same where the collaborators know the same shapes. -/
  result_eq : one.typeOf = other.typeOf → first.result = second.result
  /-- The journals are one script. -/
  journal : ∃ script, first.journal = (setting.asking one).answered script ∧
    second.journal = (setting.asking other).answered script

/-- A body is transformed in step, whoever is asked. -/
theorem inStep_transform (setting : Setting) (one other : Collaborators) (body : Block) :
    Transformed.InStep setting one other (transform (setting.asking one) body)
      (transform (setting.asking other) body) := by
  unfold transform
  dsimp only
  split
  · exact ⟨.verbatim body, fun _ => rfl, disabled setting body.returns, rfl, rfl⟩
  · obtain ⟨ends, script, -, ofOne, ofOther⟩ := inStep_wholeBody setting one other body
    generalize (wholeBody (setting.asking one) body).outcome = first at ends
    generalize (wholeBody (setting.asking other) body).outcome = second at ends
    cases ends with
    | ok matching =>
        exact ⟨.built matching.expr_eq, fun agree => congrArg Result.built (matching.eq agree),
          script, ofOne, ofOther⟩
    | error error =>
        refine ⟨.failed error, fun _ => rfl, script ++ failure setting error, ?_, ?_⟩
        · rw [answered_append, ofOne]
          rfl
        · rw [answered_append, ofOther]
          rfl

end Transform

open Transform

/-! ### Notices -/

/-- **A notice**: what a transform reports on the way, which is no reason to fail. -/
inductive Collaborators.Notices (services : Collaborators) : Diagnostic → Prop where
  /-- An answer is passed on. -/
  | relayed {question : Question} {answer : Diagnostic} (note : Note)
      (answered : answer ∈ services.answer question) : Notices services (answer.withNote note)
  /-- The body is left as it is. -/
  | returns (warning : ReturnWarning) : Notices services warning.diagnostic

/-- A script that reports nothing becomes notices with its answers. -/
theorem notices_answered {setting : Setting} {script : Journal} (silent : script.diagnostics = [])
    {diagnostic : Diagnostic} (reported : diagnostic ∈ (setting.answered script).diagnostics) :
    setting.services.Notices diagnostic := by
  rw [Setting.answered, Journal.diagnostics, List.mem_filterMap] at reported
  obtain ⟨entry, listed, reports⟩ := reported
  obtain ⟨origin, ofScript, listed⟩ := List.mem_flatMap.mp listed
  cases origin with
  | reported own =>
      have : own ∈ script.diagnostics := List.mem_filterMap.mpr ⟨_, ofScript, rfl⟩
      rw [silent] at this
      cases this
  | happened event =>
      obtain rfl := List.mem_singleton.mp listed
      cases reports
  | asked question =>
      rcases List.mem_cons.mp listed with rfl | listed
      · cases reports
      · obtain ⟨answer, answered, rfl⟩ := List.mem_map.mp listed
        cases reports
        exact .relayed _ answered

/-- **A transform reports notices only.** Why it fails is left to the error. -/
theorem notices_transform (setting : Setting) (body : Block) :
    ∀ diagnostic ∈ (transform setting body).journal.diagnostics,
      setting.services.Notices diagnostic := by
  intro diagnostic reported
  unfold transform at reported
  dsimp only at reported
  split at reported
  · obtain rfl := List.mem_singleton.mp reported
    exact .returns _
  · obtain ⟨-, script, silent, ofOne, -⟩ :=
      inStep_wholeBody setting setting.services setting.services body
    have written : (wholeBody setting body).journal = setting.answered script := ofOne
    split at reported
    · rw [written] at reported
      exact notices_answered silent reported
    · rw [Journal.diagnostics_append, written] at reported
      exact notices_answered silent ((List.mem_append.mp reported).resolve_right nofun)

/-- **Collaborators cannot influence a rewrite.** For any two collaborators, the same becomes of a
body: the same expression is synthesized, the same block is left as it is or the same error occurs.
The runs write the same journal as far as nothing is found wrong: they ask the same questions, in
the same order, and report the same of their own. What is found wrong, however severe, changes
neither the result nor the rest of the journal, in which it just follows the question it answers. -/
theorem transform_asking (descriptor : Descriptor) (context : BodyContext) (config : Config)
    (one other : Collaborators) (body : Block) :
    (transform ⟨descriptor, one, context, config⟩ body).result.SameRewrite
        (transform ⟨descriptor, other, context, config⟩ body).result ∧
      (transform ⟨descriptor, one.silenced, context, config⟩ body).journal =
        (transform ⟨descriptor, other.silenced, context, config⟩ body).journal ∧
      (transform ⟨descriptor, one, context, config⟩ body).result =
        (transform ⟨descriptor, one.silenced, context, config⟩ body).result ∧
      (transform ⟨descriptor, one, context, config⟩ body).journal =
        Setting.answered ⟨descriptor, one, context, config⟩
          (transform ⟨descriptor, one.silenced, context, config⟩ body).journal := by
  let setting : Setting := ⟨descriptor, one, context, config⟩
  have between := inStep_transform setting one other body
  obtain ⟨_, _, script, ofOne, ofOther⟩ :=
    inStep_transform setting one.silenced other.silenced body
  have silently := inStep_transform setting one one.silenced body
  obtain ⟨answers, withAnswers, without⟩ := silently.journal
  rw [answered_silenced] at ofOne ofOther without
  refine ⟨between.sameRewrite, ofOne.trans ofOther.symm, silently.result_eq rfl, ?_⟩
  exact withAnswers.trans (congrArg _ without.symm)

end ResultBuilder

/-!
### Coupled computations

A relation between journals that holds between what is written step by step is enough to follow two
runs through a whole transform, with one law for each way to make up computations.
-/

namespace ResultBuilder.Transform

open Journaled

variable {α β γ δ : Type}

/-- A question reports its answer with a remark. -/
theorem diagnostics_relay (setting : Setting) (question : Question) (answer : List Diagnostic) :
    (relay setting question answer).diagnostics = answer.map (·.withNote (relayNote setting)) := by
  induction answer with
  | nil => rfl
  | cons diagnostic rest ih => exact congrArg (diagnostic.withNote (relayNote setting) :: ·) ih

/-- **A relation that holds step by step** between two journals. -/
structure IsStepwise (written : Journal → Journal → Prop) : Prop where
  nil : written [] []
  append {front back frontOther backOther : Journal} (ofFront : written front frontOther)
    (ofBack : written back backOther) : written (front ++ back) (frontOther ++ backOther)

/-- Relations between the parts that are written one by one hold between the whole. -/
theorem IsStepwise.flatMap {written : Journal → Journal → Prop} (stepwise : IsStepwise written)
    {first second : α → Journal} (items : List α)
    (each : ∀ item ∈ items, written (first item) (second item)) :
    written (items.flatMap first) (items.flatMap second) := by
  induction items with
  | nil => exact stepwise.nil
  | cons item rest ih =>
      obtain ⟨here, later⟩ := List.forall_mem_cons.mp each
      rw [List.flatMap_cons, List.flatMap_cons]
      exact stepwise.append here (ih later)

/-- **Coupled computations**: they end alike, and what they write is related. -/
structure Coupled (written : Journal → Journal → Prop) (same : α → β → Prop) (first : Step α)
    (second : Step β) : Prop where
  /-- They end alike. -/
  outcome : Alike same first.outcome second.outcome
  /-- What they write is related. -/
  journal : written first.journal second.journal

section Coupled

variable {written : Journal → Journal → Prop} (stepwise : IsStepwise written)
include stepwise

theorem Coupled.pure {same : α → β → Prop} {value : α} {result : β} (related : same value result) :
    Coupled written same (Pure.pure value) (Pure.pure result) :=
  ⟨.ok related, stepwise.nil⟩

/-- Both do the same, in which nothing is written. -/
theorem Coupled.ofExcept (outcome : Except TransformError α) :
    Coupled written Eq (Journaled.ofExcept outcome) (Journaled.ofExcept outcome) := by
  refine ⟨?_, stepwise.nil⟩
  show Alike Eq outcome outcome
  cases outcome with
  | error error => exact .error error
  | ok value => exact .ok rfl

/-- **Computations that go on coupled stay coupled.** -/
theorem Coupled.bind {same : α → β → Prop} {alsoSame : γ → δ → Prop} {first : Step α}
    {second : Step β} {next : α → Step γ} {follow : β → Step δ}
    (coupled : Coupled written same first second)
    (goesOn : ∀ value result, same value result →
      Coupled written alsoSame (next value) (follow result)) :
    Coupled written alsoSame (first >>= next) (second >>= follow) := by
  obtain ⟨ends, journals⟩ := coupled
  generalize endsFirst : first.outcome = firstOutcome at ends
  generalize endsSecond : second.outcome = secondOutcome at ends
  cases ends with
  | error error =>
      -- nothing is written after the error
      refine ⟨?_, ?_⟩
      · rw [outcome_bind, outcome_bind, endsFirst, endsSecond]
        exact .error error
      · rw [journal_bind_of_error next endsFirst, journal_bind_of_error follow endsSecond]
        exact journals
  | @ok value result related =>
      obtain ⟨rest, more⟩ := goesOn value result related
      refine ⟨?_, ?_⟩
      · rw [outcome_bind, outcome_bind, endsFirst, endsSecond]
        exact rest
      · rw [journal_bind_of_ok next endsFirst, journal_bind_of_ok follow endsSecond]
        exact stepwise.append journals more

/-- Results that are changed by what keeps them related. -/
theorem Coupled.map {same : α → β → Prop} {alsoSame : γ → δ → Prop} {first : Step α}
    {second : Step β} {change : α → γ} {follow : β → δ}
    (coupled : Coupled written same first second)
    (kept : ∀ value result, same value result → alsoSame (change value) (follow result)) :
    Coupled written alsoSame (change <$> first) (follow <$> second) :=
  coupled.bind stepwise fun value result related => .pure stepwise (kept value result related)

end Coupled

/-- Both write, and what they write is related. -/
theorem Coupled.write {written : Journal → Journal → Prop} {first second : Journal}
    (related : written first second) :
    Coupled written Eq (Journaled.write first) (Journaled.write second) :=
  ⟨.ok rfl, related⟩

end ResultBuilder.Transform
