import ResultBuilder.Proofs.Synthesis.Asking
import ResultBuilder.Proofs.Synthesis.Calls

/-!
# Checks of what is kept

Transforming a body keeps its conditions, the subjects of its `switch` statements and the
expressions that become values. Collaborators are asked about each of them once, in the order of the
source, and what they find wrong is all that is reported about a body that is transformed.

* **`Block.kept`**: the parts of a body that are kept.
* **`Setting.checks`**: the questions about such a part.
* **`Asks`**: a step that, when it succeeds, asks given questions and reports their answers.
* **`checks_of_transform`**: what is asked and reported about a transformed body.
-/

namespace ResultBuilder

open Syntax Transform Journaled

/-! ### What is kept -/

/-- A part of a body that is kept when the body is transformed. -/
inductive KeptPart where
  | condition (node : Condition)
  /-- The subject and the labels of the cases. -/
  | switch (node : Switch)
  /-- An expression that becomes a value. -/
  | expression (node : Expr)

mutual

/-- **The parts of a block that are kept**, in the order of the source. -/
def Syntax.Block.kept : Block → List KeptPart
  | ⟨_, statements⟩ => Statement.allKept statements

/-- The parts of statements that are kept. -/
def Syntax.Statement.allKept : List Statement → List KeptPart
  | [] => []
  | statement :: rest => statement.kept ++ Statement.allKept rest

/-- The parts of a statement that are kept. A statement that cannot become a value has none. -/
def Syntax.Statement.kept : Statement → List KeptPart
  | .expression expr | .returning _ _ (some expr) => [.expression expr]
  | .conditional node => node.kept
  | .switch ⟨span, subject, cases⟩ => .switch ⟨span, subject, cases⟩ :: SwitchCase.kept cases
  | .doBlock _ body => body.kept
  | .returning _ _ none | .directive _ | .declaration _ | .loop _ | .fallthrough _ | .jump _ _ => []

/-- The parts of an `if` statement that are kept. -/
def Syntax.Conditional.kept : Conditional → List KeptPart
  | ⟨_, conditions, thenBlock, none⟩ => conditions.map .condition ++ thenBlock.kept
  | ⟨_, conditions, thenBlock, some otherwise⟩ =>
      conditions.map .condition ++ (thenBlock.kept ++ otherwise.kept)

/-- The parts that are kept of what is done otherwise. -/
def Syntax.Alternative.kept : Syntax.Alternative → List KeptPart
  | .block node => node.kept
  | .chained node => node.kept

/-- The parts of the bodies of cases that are kept. -/
def Syntax.SwitchCase.kept : List SwitchCase → List KeptPart
  | [] => []
  | ⟨_, _, body⟩ :: rest => body.kept ++ SwitchCase.kept rest

end

/-! ### What is asked about it -/

/-- Whether a question is answered by diagnostics. -/
def Question.isCheck : Question → Bool
  | .exhaustive _ _ | .condition _ _ | .expression _ _ | .captures _ _ => true
  | .type _ _ | .overload _ _ => false

/-- The questions in a journal that are answered by diagnostics. -/
def Journal.checks (journal : Journal) : List Question :=
  journal.questions.filter (·.isCheck)

@[simp] theorem Journal.checks_append (front back : Journal) :
    checks (front ++ back) = checks front ++ checks back := by
  rw [checks, questions_append, List.filter_append, checks, checks]

namespace Transform

/-- The questions about an expression that is kept. -/
def Setting.expressionChecks (setting : Setting) (expr : Expr) : List Question :=
  (if setting.config.checkSyntacticUses then [.expression setting.context expr] else []) ++
    if setting.config.checkCaptures then [.captures setting.context expr] else []

/-- **The questions about a part that is kept.** -/
def Setting.checks (setting : Setting) : KeptPart → List Question
  | .condition node => .condition setting.context node :: setting.expressionChecks node.expr
  | .switch node => .exhaustive setting.context node :: setting.expressionChecks node.subject
  | .expression node => setting.expressionChecks node

/-- The answers to questions as they are passed on. -/
def Setting.relayed (setting : Setting) (questions : List Question) : List Diagnostic :=
  questions.flatMap fun question =>
    (setting.services.answer question).map (·.withNote (relayNote setting))

/-- **A journal with some questions**: they are asked, and their answers are reported. -/
structure Setting.Records (setting : Setting) (asked : List Question) (journal : Journal) :
    Prop where
  checks : journal.checks = asked
  diagnostics : journal.diagnostics = setting.relayed asked

variable {setting : Setting}

theorem Setting.Records.nil : setting.Records [] [] :=
  ⟨rfl, rfl⟩

theorem Setting.Records.append {asked more : List Question} {front back : Journal}
    (first : setting.Records asked front) (second : setting.Records more back) :
    setting.Records (asked ++ more) (front ++ back) where
  checks := by rw [Journal.checks_append, first.checks, second.checks]
  diagnostics := by
    rw [Journal.diagnostics_append, first.diagnostics, second.diagnostics, Setting.relayed,
      Setting.relayed, Setting.relayed, List.flatMap_append]

/-- Reports about which nobody was asked. -/
theorem checks_reported (diagnostics : List Diagnostic) :
    Journal.checks (diagnostics.map .reported) = [] ∧
      Journal.diagnostics (diagnostics.map .reported) = diagnostics := by
  induction diagnostics with
  | nil => exact ⟨rfl, rfl⟩
  | cons diagnostic rest ih => exact ⟨ih.1, congrArg (diagnostic :: ·) ih.2⟩

/-- A question that is asked and answered. -/
theorem records_relay {question : Question} (check : question.isCheck = true) :
    setting.Records [question]
      (relay setting question (setting.services.answer question)) := by
  have reported : relay setting question (setting.services.answer question) =
      [.asked question] ++ (setting.relayed [question]).map .reported := by
    rw [Setting.relayed, List.flatMap_singleton, List.map_map]
    rfl
  obtain ⟨checks, diagnostics⟩ := checks_reported (setting.relayed [question])
  rw [reported]
  constructor
  · rw [Journal.checks_append, checks, List.append_nil]
    show [question].filter (·.isCheck) = [question]
    rw [List.filter_cons_of_pos check, List.filter_nil]
  · rw [Journal.diagnostics_append, diagnostics]
    rfl

theorem records_leafChecks (expr : Expr) :
    setting.Records (setting.expressionChecks expr) (leafChecks setting expr) := by
  refine .append ?_ ?_
  · split
    · exact records_relay rfl
    · exact .nil
  · split
    · exact records_relay rfl
    · exact .nil

theorem records_conditionChecks (node : Condition) :
    setting.Records (setting.checks (.condition node)) (conditionChecks setting node) :=
  .append (records_relay rfl) (records_leafChecks node.expr)

theorem records_allConditionChecks (conditions : List Condition) :
    setting.Records ((conditions.map KeptPart.condition).flatMap setting.checks)
      (conditions.flatMap (conditionChecks setting)) := by
  induction conditions with
  | nil => exact .nil
  | cons condition rest ih => exact .append (records_conditionChecks condition) ih

theorem records_switchChecks (node : Switch) :
    setting.Records (setting.checks (.switch node)) (switchChecks setting node) :=
  .append (records_relay rfl) (records_leafChecks node.subject)

/-! ### Steps -/

/-- **A step that asks about some parts**: when it succeeds, it has asked the questions about them,
and reported the answers. -/
def Asks {α : Type} (setting : Setting) (parts : List KeptPart) (step : Step α) : Prop :=
  ∀ value, step.outcome = .ok value →
    setting.Records (parts.flatMap setting.checks) step.journal

namespace Asks

variable {α β : Type} {parts others : List KeptPart}

theorem pure (value : α) : Asks setting [] (Pure.pure value : Step α) :=
  fun _ _ => .nil

/-- Nobody is asked by what has no journal. -/
theorem ofExcept (outcome : Except TransformError α) :
    Asks setting [] (Journaled.ofExcept outcome) :=
  fun _ _ => .nil

theorem write {journal : Journal}
    (records : setting.Records (parts.flatMap setting.checks) journal) :
    Asks setting parts (Journaled.write journal) :=
  fun _ _ => records

/-- Steps one after the other ask about the parts of both. -/
theorem bind {first : Step α} {next : α → Step β} (asks : Asks setting parts first)
    (goesOn : ∀ value, Asks setting others (next value)) :
    Asks setting (parts ++ others) (first >>= next) := by
  intro result succeeded
  obtain ⟨value, ranFirst, ranNext⟩ := outcome_bind_eq_ok_iff.mp succeeded
  rw [journal_bind_of_ok next ranFirst, List.flatMap_append]
  exact (asks value ranFirst).append (goesOn value result ranNext)

/-- A step that asks about nothing comes first. -/
theorem silent {first : Step α} {next : α → Step β} (asks : Asks setting [] first)
    (goesOn : ∀ value, Asks setting parts (next value)) : Asks setting parts (first >>= next) :=
  asks.bind goesOn

/-- A step that asks about nothing comes last. -/
theorem ended {first : Step α} {next : α → Step β} (asks : Asks setting parts first)
    (goesOn : ∀ value, Asks setting [] (next value)) : Asks setting parts (first >>= next) := by
  rw [← List.append_nil parts]
  exact asks.bind goesOn

/-- Nothing is asked to change a result. -/
theorem map {first : Step α} (asks : Asks setting parts first) (change : α → β) :
    Asks setting parts (first >>= fun value => Pure.pure (change value)) :=
  asks.ended fun value => pure (change value)

end Asks

/-- An expression that becomes a value is asked about. Its shape is no check. -/
theorem asks_leaf (expr : Expr) : Asks setting [.expression expr] (leaf setting expr) := by
  have records : setting.Records ([KeptPart.expression expr].flatMap setting.checks)
      (leafChecks setting expr) := by
    rw [List.flatMap_singleton]
    exact records_leafChecks expr
  exact .bind (.write records) fun _ =>
    .silent (.write ⟨rfl, rfl⟩) fun _ => .pure _

mutual

/-- **A block asks about what is kept of it.** -/
theorem asks_block : ∀ body : Block, Asks setting body.kept (block setting body)
  | ⟨span, statements⟩ => by
      rw [block, Block.kept]
      refine .silent (.ofExcept _) fun _ => .silent (.ofExcept _) fun operation => ?_
      exact (asks_components statements).map fun parts => join setting operation parts span

/-- Statements ask about what is kept of them. -/
theorem asks_components : ∀ statements : List Statement,
    Asks setting (Statement.allKept statements) (components setting statements)
  | [] => by
      rw [components, Statement.allKept]
      exact .pure _
  | statement :: rest => by
      rw [components, Statement.allKept]
      refine .silent (.write ⟨rfl, rfl⟩) fun _ => .bind (asks_component statement) fun first => ?_
      exact (asks_components rest).map fun others => first.toList ++ others

/-- A statement asks about what is kept of it. -/
theorem asks_component : ∀ statement : Statement,
    Asks setting statement.kept (component setting statement)
  | .expression expr | .returning _ _ (some expr) => by
      rw [component, Statement.kept]
      exact (asks_leaf expr).map some
  | .conditional node => by
      rw [component, Statement.kept]
      exact (asks_conditional node).map some
  | .switch ⟨span, subject, cases⟩ => by
      rw [component, Statement.kept]
      exact (asks_switch ⟨span, subject, cases⟩).map some
  | .doBlock span body => by
      rw [component, Statement.kept]
      exact (asks_block body).map fun built => some (doWrapped setting span built)
  | .returning _ _ none | .directive _ | .declaration _ | .loop _ | .fallthrough _ | .jump _ _ => by
      rw [component, Statement.kept]
      exact .pure _

/-- An `if` statement asks about its conditions before what is done. -/
theorem asks_conditional : ∀ node : Conditional,
    Asks setting node.kept (conditional setting node)
  | ⟨span, conditions, thenBlock, none⟩ => by
      rw [conditional, Conditional.kept]
      refine .bind (.write (records_allConditionChecks conditions)) fun _ => ?_
      exact (asks_block thenBlock).ended fun built => .silent (.ofExcept _) fun operation => .pure _
  | ⟨span, conditions, thenBlock, some otherwise⟩ => by
      rw [conditional, Conditional.kept]
      refine .bind (.write (records_allConditionChecks conditions)) fun _ => ?_
      refine .bind (asks_block thenBlock) fun thenBuilt => ?_
      refine .silent (.ofExcept _) fun operations => ?_
      exact (asks_alternative otherwise).map fun elseBuilt =>
        alternatives setting operations conditions thenBuilt elseBuilt span

/-- What is done otherwise asks about what is kept of it. -/
theorem asks_alternative : ∀ otherwise : Syntax.Alternative,
    Asks setting otherwise.kept (alternative setting otherwise)
  | .block node => by
      rw [alternative, Alternative.kept]
      exact asks_block node
  | .chained node => by
      rw [alternative, Alternative.kept]
      refine .silent (.ofExcept _) fun _ => .silent (.ofExcept _) fun operation => ?_
      exact (asks_conditional node).map fun built => join setting operation [built] node.span

/-- A `switch` statement asks about itself before its cases. -/
theorem asks_switch : ∀ node : Switch,
    Asks setting (Statement.switch node).kept (switch setting node)
  | ⟨span, subject, cases⟩ => by
      rw [switch, Statement.kept]
      have records : setting.Records
          ([KeptPart.switch ⟨span, subject, cases⟩].flatMap setting.checks)
          (switchChecks setting ⟨span, subject, cases⟩) := by
        rw [List.flatMap_singleton]
        exact records_switchChecks _
      refine .bind (.write records) fun _ => (asks_caseBodies cases).ended fun built => ?_
      split
      · exact .silent (.ofExcept _) fun operations => .pure _
      · exact .pure _

/-- The bodies of cases ask about what is kept of them. -/
theorem asks_caseBodies : ∀ cases : List SwitchCase,
    Asks setting (SwitchCase.kept cases) (caseBodies setting cases)
  | [] => by
      rw [caseBodies, SwitchCase.kept]
      exact .pure _
  | ⟨_, _, body⟩ :: rest => by
      rw [caseBodies, SwitchCase.kept]
      refine .bind (asks_block body) fun first => ?_
      exact (asks_caseBodies rest).map fun others => first :: others

end

/-! ### Bodies -/

/-- A transformed body has the journal of its block. -/
theorem journal_of_built {body : Block} {built : Built}
    (transformed : (transform setting body).result = .built built) :
    (transform setting body).journal = (block setting body).journal := by
  obtain ⟨enables, unrejected, succeeded⟩ := transform_eq_built_iff.mp transformed
  have whole : wholeBody setting body = block setting body := by rw [wholeBody, unrejected]
  unfold transform
  rw [if_neg (by simpa [IsDisabled] using enables)]
  dsimp only
  rw [whole, succeeded]

/-- **Everything that is kept is checked once.** When a body is transformed, the collaborators have
been asked about each part that is kept, in the order of the source, and about nothing else: about a
condition itself and then about its expression, about the cases of a `switch` and then about its
subject, and about each expression that becomes a value. What is reported are their answers in that
order, each with one remark at its end that names the kind of the body and the builder. -/
theorem checks_of_transform (setting : Setting) (body : Block) (built : Built)
    (transformed : (transform setting body).result = .built built) :
    (transform setting body).journal.checks = body.kept.flatMap setting.checks ∧
      (transform setting body).journal.diagnostics =
        ((body.kept.flatMap setting.checks).flatMap setting.services.answer).map fun answer =>
          { answer with notes := answer.notes ++
              [.basic ("in " ++ setting.context.kind.text ++ " transformed by function builder '" ++
                setting.descriptor.builder.name ++ "'")] } := by
  obtain ⟨_, _, succeeded⟩ := transform_eq_built_iff.mp transformed
  obtain ⟨checks, diagnostics⟩ := asks_block body built succeeded
  rw [journal_of_built transformed]
  refine ⟨checks, diagnostics.trans ?_⟩
  rw [Setting.relayed, List.map_flatMap]
  rfl

/-- A setting whose collaborators find something wrong with everything, and tell what they were
asked about. -/
def fussySetting : Setting :=
  { BuilderCall.versatileSetting with
    services := { Collaborators.permissive with
      checkExhaustive _ _ := [⟨.error, 1, "cases", [], []⟩]
      checkCondition _ node := [⟨.warning, 2, "condition " ++ node.text, [], [.basic "seen"]⟩]
      checkExpression _ node := [⟨.error, 3, "use of " ++ node.text, [], []⟩]
      checkCaptures _ node := [⟨.error, 4, "captures of " ++ node.text, [], []⟩] } }

/-- An `if` with a chained `if` and a `switch` of three cases, of which one has a `do` block. -/
theorem checks_of_mixedBody :
    ∃ built, (transform fussySetting BuilderCall.mixedBody).result = .built built ∧
      (transform fussySetting BuilderCall.mixedBody).journal.diagnostics.map
          (fun diagnostic => (diagnostic.message, diagnostic.notes.length)) =
        let leaf := [("use of x", 1), ("captures of x", 1)]
        let condition := ("condition x", 2) :: leaf
        condition ++ leaf ++ (condition ++ leaf) ++
          (("cases", 1) :: leaf ++ leaf ++ leaf ++ leaf) := by
  refine ⟨_, rfl, ?_⟩
  rw [(checks_of_transform fussySetting BuilderCall.mixedBody _ rfl).2]
  rfl

end Transform

end ResultBuilder
