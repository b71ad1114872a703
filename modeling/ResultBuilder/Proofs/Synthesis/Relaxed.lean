import ResultBuilder.Proofs.Host.Codes
import ResultBuilder.Proofs.Synthesis.Asking

/-!
# Transforming with fewer checks

A check that is not made decides nothing: its diagnostics are missing, and all else stays as it is.
The encoding of alternatives is only seen in the calls that tell the cases of a `switch` apart, and
for one or two cases both encodings are the same.

* **`Thinned`**: a list from which some items are left out.
* **`Config.Relaxes`**: a configuration with fewer checks, and with any encoding.
* **`Synthesized.IsNarrow`**: an expression in which no `switch` has more than two cases.
* **`relaxed_block`** and its companions: parts of a body, transformed with both configurations.
* **`relaxed_transform`**: the whole of a transform.
-/

namespace ResultBuilder

open Syntax

/-! ### Thinned lists -/

/-- **A thinned list**: some items that may go are left out, all others are items that may stay. -/
inductive Thinned {α : Type} (goes stays : α → Prop) : List α → List α → Prop where
  | nil : Thinned goes stays [] []
  | stay {item : α} {items others : List α} (may : stays item)
      (rest : Thinned goes stays items others) : Thinned goes stays (item :: items) (item :: others)
  | go {item : α} {items others : List α} (may : goes item)
      (rest : Thinned goes stays items others) : Thinned goes stays (item :: items) others

namespace Thinned

variable {α : Type} {goes stays : α → Prop} {items others : List α}

theorem append {moreItems moreOthers : List α} (first : Thinned goes stays items others)
    (second : Thinned goes stays moreItems moreOthers) :
    Thinned goes stays (items ++ moreItems) (others ++ moreOthers) := by
  induction first with
  | nil => exact second
  | stay may _ ih => exact .stay may ih
  | go may _ ih => exact .go may ih

theorem of_stays (all : ∀ item ∈ items, stays item) : Thinned goes stays items items := by
  induction items with
  | nil => exact .nil
  | cons item rest ih =>
      obtain ⟨here, later⟩ := List.forall_mem_cons.mp all
      exact .stay here (ih later)

theorem of_goes (all : ∀ item ∈ items, goes item) : Thinned goes stays items [] := by
  induction items with
  | nil => exact .nil
  | cons item rest ih =>
      obtain ⟨here, later⟩ := List.forall_mem_cons.mp all
      exact .go here (ih later)

/-- Where nothing may go, all is kept. -/
theorem eq_of_never (thinned : Thinned goes stays items others) (never : ∀ item, ¬ goes item) :
    others = items := by
  induction thinned with
  | nil => rfl
  | stay _ _ ih => rw [ih]
  | go may _ _ => exact absurd may (never _)

/-- Where what goes and what stays can be told apart, a thinned list is a filtered one. -/
theorem eq_filter {keep : α → Bool} (thinned : Thinned goes stays items others)
    (ofGoes : ∀ item, goes item → keep item = false)
    (ofStays : ∀ item, stays item → keep item = true) : others = items.filter keep := by
  induction thinned with
  | nil => rfl
  | stay may _ ih => rw [List.filter_cons_of_pos (ofStays _ may), ih]
  | go may _ ih => rw [List.filter_cons_of_neg (Bool.eq_false_iff.mp (ofGoes _ may)), ih]

theorem sublist (thinned : Thinned goes stays items others) : others.Sublist items := by
  induction thinned with
  | nil => exact .slnil
  | stay _ _ ih => exact ih.cons_cons _
  | go _ _ ih => exact ih.cons _

/-- All that cannot go is still there. -/
theorem filter_eq {keep : α → Bool} (thinned : Thinned goes stays items others)
    (ofGoes : ∀ item, goes item → keep item = false) : others.filter keep = items.filter keep := by
  induction thinned with
  | nil => rfl
  | stay _ _ ih => rw [List.filter_cons, List.filter_cons, ih]
  | go may _ ih => rw [List.filter_cons_of_neg (Bool.eq_false_iff.mp (ofGoes _ may)), ih]

end Thinned

/-! ### Configurations -/

namespace Config

/-- **A configuration with fewer checks** than another, and with any encoding. -/
structure Relaxes (other config : Config) : Prop where
  syntacticUses : other.checkSyntacticUses = true → config.checkSyntacticUses = true
  captures : other.checkCaptures = true → config.checkCaptures = true

/-- The diagnostics that are lost with the checks that only one of two configurations makes. -/
def Drops (config other : Config) (diagnostic : Diagnostic) : Prop :=
  config.checkSyntacticUses ≠ other.checkSyntacticUses ∧
      (diagnostic.code = DiagnosticCode.unresolvedGeneric.number ∨
        diagnostic.code = DiagnosticCode.syntacticUse.number) ∨
    config.checkCaptures ≠ other.checkCaptures ∧
      diagnostic.code = DiagnosticCode.implicitSelfCapture.number

/-- The diagnostics that are possible with a configuration: about captures there are some only where
these are checked. -/
def Keeps (other : Config) (diagnostic : Diagnostic) : Prop :=
  other.checkCaptures = true ∨ diagnostic.code ≠ DiagnosticCode.implicitSelfCapture.number

theorem keeps_of_code {other : Config} {diagnostic : Diagnostic}
    (code : diagnostic.code ≠ DiagnosticCode.implicitSelfCapture.number) : other.Keeps diagnostic :=
  .inr code

end Config

/-! ### Narrow expressions -/

/-- **A narrow expression**: every `switch` in it has at most two cases. -/
inductive Synthesized.IsNarrow : Synthesized → Prop
  | leaf (expr : Expr) : IsNarrow (.leaf expr)
  | call {node : BuilderCall} (args : ∀ arg ∈ node.args, IsNarrow arg) : IsNarrow (.call node)
  | conditional {conditions : List Condition} {thenValue elseValue : Synthesized}
      (ofThen : IsNarrow thenValue) (ofElse : IsNarrow elseValue) :
      IsNarrow (.conditional conditions thenValue elseValue)
  | switch {subject : Expr} {arms : List Arm} (few : arms.length ≤ 2)
      (ofArms : ∀ arm ∈ arms, IsNarrow arm.value) : IsNarrow (.switch subject arms)
  | nil : IsNarrow .nil

/-- For at most two cases the encodings are the same. -/
theorem eitherPaths_of_le_two {count : Nat} (few : count ≤ 2) (one other : EitherEncoding) :
    eitherPaths count one = eitherPaths count other := by
  have balanced : balancedPaths count = rightNestedPaths count := by
    match count, few with
    | 0, _ => rw [balancedPaths]; rfl
    | 1, _ => rw [balancedPaths]; rfl
    | 2, _ =>
        have single : balancedPaths 1 = [[]] := by rw [balancedPaths]; rfl
        rw [balancedPaths]
        simp [single, rightNestedPaths]
  cases one <;> cases other <;> simp only [eitherPaths, balanced]

namespace Transform

/-- The same setting with another configuration. -/
def Setting.under (setting : Setting) (config : Config) : Setting :=
  { setting with config }

/-- **Parts that are built the same** if the encoding is the same, or does not matter to the first of
them. -/
def Built.SameIfNarrow (encoded : Prop) (left right : Built) : Prop :=
  encoded ∨ left.expr.IsNarrow → left = right

/-- As many parts, which are the same if the encoding is the same, or does not matter to any of the
first of them. -/
structure AllSameIfNarrow (encoded : Prop) (lefts rights : List Built) : Prop where
  length_eq : lefts.length = rights.length
  eq : (encoded ∨ ∀ left ∈ lefts, left.expr.IsNarrow) → lefts = rights

section Built

variable {setting : Setting} {encoded : Prop} {left right : Built} {lefts rights : List Built}

theorem AllSameIfNarrow.nil : AllSameIfNarrow encoded [] [] :=
  ⟨rfl, fun _ => rfl⟩

theorem AllSameIfNarrow.cons (first : left.SameIfNarrow encoded right)
    (rest : AllSameIfNarrow encoded lefts rights) :
    AllSameIfNarrow encoded (left :: lefts) (right :: rights) where
  length_eq := congrArg (· + 1) rest.length_eq
  eq narrow := by
    rw [List.forall_mem_cons] at narrow
    rw [first (narrow.imp_right (·.1)), rest.eq (narrow.imp_right (·.2))]

theorem AllSameIfNarrow.append {moreLefts moreRights : List Built}
    (front : AllSameIfNarrow encoded lefts rights)
    (back : AllSameIfNarrow encoded moreLefts moreRights) :
    AllSameIfNarrow encoded (lefts ++ moreLefts) (rights ++ moreRights) where
  length_eq := by rw [List.length_append, List.length_append, front.length_eq, back.length_eq]
  eq narrow := by
    rw [List.forall_mem_append] at narrow
    rw [front.eq (narrow.imp_right (·.1)), back.eq (narrow.imp_right (·.2))]

theorem Built.SameIfNarrow.single (same : left.SameIfNarrow encoded right) :
    AllSameIfNarrow encoded [left] [right] :=
  .cons same .nil

/-- A join is narrow when the values are. -/
theorem AllSameIfNarrow.join (same : AllSameIfNarrow encoded lefts rights) (operation : Operation)
    (origin : Span) :
    (join setting operation lefts origin).SameIfNarrow encoded
      (join setting operation rights origin) := by
  intro narrow
  refine congrArg (Transform.join setting operation · origin) (same.eq ?_)
  refine narrow.imp_right fun isNarrow left listed => ?_
  cases isNarrow with
  | call args => exact args _ (List.mem_map_of_mem listed)

theorem Built.SameIfNarrow.wrap (same : left.SameIfNarrow encoded right) (operation : Operation)
    (origin : Span) :
    (wrap setting operation left origin).SameIfNarrow encoded
      (wrap setting operation right origin) :=
  same.single.join operation origin

theorem Built.SameIfNarrow.doWrapped (same : left.SameIfNarrow encoded right) (span : Span) :
    (doWrapped setting span left).SameIfNarrow encoded (doWrapped setting span right) := by
  unfold Transform.doWrapped
  cases setting.descriptor.doWrap with
  | none => exact same
  | some operation => exact same.wrap operation span

theorem Built.SameIfNarrow.optional (same : left.SameIfNarrow encoded right) (operation : Operation)
    (conditions : List Condition) (origin : Span) :
    (optional setting operation conditions left origin).SameIfNarrow encoded
      (optional setting operation conditions right origin) := by
  intro narrow
  refine congrArg (Transform.optional setting operation conditions · origin) (same ?_)
  refine narrow.imp_right fun isNarrow => ?_
  cases isNarrow with
  | conditional ofThen _ =>
      cases ofThen with
      | call args => exact args _ (List.mem_singleton_self _)

theorem Built.SameIfNarrow.alternatives {thenLeft thenRight : Built}
    (first : thenLeft.SameIfNarrow encoded thenRight) (second : left.SameIfNarrow encoded right)
    (operations : Operation × Operation) (conditions : List Condition) (origin : Span) :
    (alternatives setting operations conditions thenLeft left origin).SameIfNarrow encoded
      (alternatives setting operations conditions thenRight right origin) := by
  intro narrow
  have parts : encoded ∨ thenLeft.expr.IsNarrow ∧ left.expr.IsNarrow := by
    refine narrow.imp_right fun isNarrow => ?_
    cases isNarrow with
    | conditional ofThen ofElse =>
        cases ofThen with
        | call thenArgs =>
            cases ofElse with
            | call elseArgs =>
                exact ⟨thenArgs _ (List.mem_singleton_self _),
                  elseArgs _ (List.mem_singleton_self _)⟩
  rw [first (parts.imp_right (·.1)), second (parts.imp_right (·.2))]

theorem isNarrow_of_wrapAlong {operations : Operation × Operation} {origin : Span}
    {path : List Branch} {built : Built}
    (narrow : (wrapAlong setting operations origin path built).expr.IsNarrow) :
    built.expr.IsNarrow := by
  induction path with
  | nil => exact narrow
  | cons branch rest ih =>
      cases branch with
      | first | second =>
          cases narrow with
          | call args => exact ih (args _ (List.mem_singleton_self _))

/-- When wrapped cases are narrow, so are the cases. -/
theorem isNarrow_of_wrapCases {operations : Operation × Operation} {cases : List SwitchCase}
    {arms : List Built} (sameLength : arms.length = cases.length)
    (narrow : ∀ wrapped ∈ wrapCases setting (some operations) cases arms, wrapped.expr.IsNarrow) :
    ∀ arm ∈ arms, arm.expr.IsNarrow := by
  intro arm listed
  -- every value stands beside its case and its path
  have paired : arm ∈ (cases.zip arms).map (·.2) := by
    rw [List.map_snd_zip (Nat.le_of_eq sameLength)]
    exact listed
  obtain ⟨⟨switchCase, arm⟩, inCases, rfl⟩ := List.mem_map.mp paired
  have pathed : (switchCase, arm) ∈
      ((cases.zip arms).zip (eitherPaths arms.length setting.config.eitherEncoding)).map (·.1) := by
    rw [List.map_fst_zip]
    · exact inCases
    · rw [List.length_zip, length_eitherPaths]
      exact Nat.min_le_right _ _
  obtain ⟨⟨_, path⟩, zipped, rfl⟩ := List.mem_map.mp pathed
  exact isNarrow_of_wrapAlong (narrow _ (List.mem_map_of_mem zipped))

/-- A choice between values for cases is narrow when there are at most two, which are narrow. -/
theorem isNarrow_of_chooseCase {subject : Expr} {cases : List SwitchCase} {arms : List Built}
    (sameLength : arms.length = cases.length)
    (narrow : (chooseCase subject cases arms).expr.IsNarrow) :
    arms.length ≤ 2 ∧ ∀ arm ∈ arms, arm.expr.IsNarrow := by
  cases narrow with
  | «switch» few ofArms =>
      rw [List.length_map, List.length_zip, ← sameLength, Nat.min_self] at few
      refine ⟨few, fun arm listed => ?_⟩
      have paired : arm ∈ (cases.zip arms).map (·.2) := by
        rw [List.map_snd_zip (Nat.le_of_eq sameLength)]
        exact listed
      obtain ⟨pair, zipped, rfl⟩ := List.mem_map.mp paired
      exact ofArms _ (List.mem_map_of_mem zipped)

/-- A choice between values that are not wrapped. -/
theorem AllSameIfNarrow.chooseCase (same : AllSameIfNarrow encoded lefts rights) (subject : Expr)
    {cases : List SwitchCase} (sameLength : lefts.length = cases.length) :
    (chooseCase subject cases lefts).SameIfNarrow encoded (chooseCase subject cases rights) := by
  intro narrow
  refine congrArg (Transform.chooseCase subject cases) (same.eq ?_)
  exact narrow.imp_right fun isNarrow => (isNarrow_of_chooseCase sameLength isNarrow).2

/-- **A choice between wrapped values**: the paths are the same for at most two of them. -/
theorem AllSameIfNarrow.chooseWrapped {other : Config}
    (same : AllSameIfNarrow (setting.config.eitherEncoding = other.eitherEncoding) lefts rights)
    (operations : Operation × Operation) (subject : Expr) {cases : List SwitchCase}
    (sameLength : lefts.length = cases.length) :
    (Transform.chooseCase subject cases (wrapCases setting (some operations) cases lefts)).SameIfNarrow
      (setting.config.eitherEncoding = other.eitherEncoding)
      (Transform.chooseCase subject cases
        (wrapCases (setting.under other) (some operations) cases rights)) := by
  intro narrow
  have wrappedLength : (wrapCases setting (some operations) cases lefts).length = cases.length :=
    (length_wrapCases sameLength).trans sameLength
  have parts : setting.config.eitherEncoding = other.eitherEncoding ∨
      lefts.length ≤ 2 ∧ ∀ left ∈ lefts, left.expr.IsNarrow := by
    refine narrow.imp_right fun isNarrow => ?_
    obtain ⟨few, ofWrapped⟩ := isNarrow_of_chooseCase wrappedLength isNarrow
    rw [length_wrapCases sameLength] at few
    exact ⟨few, isNarrow_of_wrapCases sameLength ofWrapped⟩
  have paths : eitherPaths lefts.length setting.config.eitherEncoding =
      eitherPaths lefts.length other.eitherEncoding := by
    rcases parts with encoded | ⟨few, _⟩
    · rw [encoded]
    · exact eitherPaths_of_le_two few _ _
  obtain rfl := same.eq (parts.imp_right (·.2))
  refine congrArg (Transform.chooseCase subject cases) ?_
  rw [wrapCases, wrapCases, paths]
  rfl

end Built

/-! ### What is written -/

variable {setting : Setting} {other : Config}

/-- **What is reported with fewer checks**: some diagnostics of the other checks are left out. -/
def RelaxedReports (config other : Config) (one another : Journal) : Prop :=
  Thinned (config.Drops other) other.Keeps one.diagnostics another.diagnostics

theorem isStepwise_relaxedReports (config other : Config) :
    IsStepwise (RelaxedReports config other) where
  nil := .nil
  append ofFront ofBack := by
    rw [RelaxedReports, Journal.diagnostics_append, Journal.diagnostics_append]
    exact Thinned.append ofFront ofBack

/-- An answer that is kept. -/
theorem relaxed_relay {config : Config} (question : Question) (answer : List Diagnostic)
    (kept : ∀ diagnostic ∈ answer, other.Keeps diagnostic) :
    RelaxedReports config other (relay setting question answer)
      (relay (setting.under other) question answer) := by
  rw [RelaxedReports, diagnostics_relay, diagnostics_relay]
  refine .of_stays fun diagnostic listed => ?_
  obtain ⟨own, isAnswer, rfl⟩ := List.mem_map.mp listed
  exact kept own isAnswer

/-- An answer to a question that is not asked any more. -/
theorem relaxed_dropped {config : Config} (question : Question) (answer : List Diagnostic)
    (dropped : ∀ diagnostic ∈ answer, config.Drops other diagnostic) :
    RelaxedReports config other (relay setting question answer) [] := by
  rw [RelaxedReports, diagnostics_relay]
  refine .of_goes fun diagnostic listed => ?_
  obtain ⟨own, isAnswer, rfl⟩ := List.mem_map.mp listed
  exact dropped own isAnswer

section Checks

variable (coded : setting.services.IsCoded) (relaxes : other.Relaxes setting.config)
include coded relaxes

theorem relaxed_leafChecks (expr : Expr) :
    RelaxedReports setting.config other (leafChecks setting expr)
      (leafChecks (setting.under other) expr) := by
  have ofUses : RelaxedReports setting.config other
      (if setting.config.checkSyntacticUses then
        relay setting (.expression setting.context expr)
          (setting.services.checkExpression setting.context expr)
      else [])
      (if other.checkSyntacticUses then
        relay (setting.under other) (.expression setting.context expr)
          (setting.services.checkExpression setting.context expr)
      else []) := by
    by_cases checks : other.checkSyntacticUses = true
    · rw [if_pos checks, if_pos (relaxes.syntacticUses checks)]
      refine relaxed_relay _ _ fun diagnostic answered => Config.keeps_of_code ?_
      rcases coded.expression answered with code | code <;> rw [code] <;> decide
    · rw [if_neg checks]
      split
      next checked =>
        exact relaxed_dropped _ _ fun diagnostic answered =>
          .inl ⟨fun same => checks (same ▸ checked), coded.expression answered⟩
      next => exact .nil
  have ofCaptures : RelaxedReports setting.config other
      (if setting.config.checkCaptures then
        relay setting (.captures setting.context expr)
          (setting.services.checkCaptures setting.context expr)
      else [])
      (if other.checkCaptures then
        relay (setting.under other) (.captures setting.context expr)
          (setting.services.checkCaptures setting.context expr)
      else []) := by
    by_cases checks : other.checkCaptures = true
    · rw [if_pos checks, if_pos (relaxes.captures checks)]
      exact relaxed_relay _ _ fun diagnostic _ => .inl checks
    · rw [if_neg checks]
      split
      next checked =>
        exact relaxed_dropped _ _ fun diagnostic answered =>
          .inr ⟨fun same => checks (same ▸ checked), coded.captures answered⟩
      next => exact .nil
  exact (isStepwise_relaxedReports _ _).append ofUses ofCaptures

theorem relaxed_conditionChecks (conditions : List Condition) :
    RelaxedReports setting.config other (conditions.flatMap (conditionChecks setting))
      (conditions.flatMap (conditionChecks (setting.under other))) := by
  refine (isStepwise_relaxedReports _ _).flatMap conditions fun condition _ => ?_
  refine (isStepwise_relaxedReports _ _).append ?_ (relaxed_leafChecks coded relaxes _)
  exact relaxed_relay _ _ fun diagnostic answered =>
    Config.keeps_of_code (coded.condition answered)

theorem relaxed_switchChecks (node : Switch) :
    RelaxedReports setting.config other (switchChecks setting node)
      (switchChecks (setting.under other) node) := by
  refine (isStepwise_relaxedReports _ _).append ?_ (relaxed_leafChecks coded relaxes _)
  exact relaxed_relay _ _ fun diagnostic answered =>
    Config.keeps_of_code (coded.exhaustive answered)

end Checks

theorem checkAll_under (statements : List Statement) :
    checkAll (setting.under other) statements = checkAll setting statements := by
  induction statements with
  | nil => rfl
  | cons statement rest ih =>
      rw [checkAll, checkAll, ih]
      rfl

/-! ### Parts of a body -/

/-- Whether the encoding of a setting is that of another configuration. -/
abbrev Encoded (setting : Setting) (other : Config) : Prop :=
  setting.config.eitherEncoding = other.eitherEncoding

/-- **Steps that end alike** with reports that differ in checks that only the first one makes. -/
abbrev Relaxed {α β : Type} (setting : Setting) (other : Config) (same : α → β → Prop)
    (first : Step α) (second : Step β) : Prop :=
  Coupled (RelaxedReports setting.config other) same first second

section Parts

variable (coded : setting.services.IsCoded) (relaxes : other.Relaxes setting.config)
include coded relaxes
-- in a mutual block a hypothesis may only be needed through the other theorems
set_option linter.unusedSectionVars false

theorem relaxed_leaf (expr : Expr) :
    Relaxed setting other (Built.SameIfNarrow (Encoded setting other)) (leaf setting expr)
      (leaf (setting.under other) expr) := by
  have stepwise := isStepwise_relaxedReports setting.config other
  refine .bind stepwise (.write (relaxed_leafChecks coded relaxes expr)) fun _ _ _ => ?_
  refine .bind stepwise (.write .nil) fun _ _ _ => ?_
  exact .pure stepwise fun _ => rfl

mutual

/-- **A block is transformed the same** with fewer checks. -/
theorem relaxed_block : ∀ body : Block,
    Relaxed setting other (Built.SameIfNarrow (Encoded setting other)) (block setting body)
      (block (setting.under other) body)
  | ⟨span, statements⟩ => by
      have stepwise := isStepwise_relaxedReports setting.config other
      rw [block, block, checkAll_under]
      refine .bind stepwise (.ofExcept stepwise _) fun _ _ _ => ?_
      refine .bind stepwise
        (.ofExcept stepwise (blockJoin setting (componentSpans statements) span)) ?_
      rintro operation _ rfl
      refine .bind stepwise (relaxed_components statements) fun lefts rights same => ?_
      exact .pure stepwise (same.join operation span)

/-- Statements are transformed the same with fewer checks. -/
theorem relaxed_components : ∀ statements : List Statement,
    Relaxed setting other (AllSameIfNarrow (Encoded setting other)) (components setting statements)
      (components (setting.under other) statements)
  | [] => by
      rw [components, components]
      exact .pure (isStepwise_relaxedReports _ _) .nil
  | statement :: rest => by
      have stepwise := isStepwise_relaxedReports setting.config other
      rw [components, components]
      refine .bind stepwise (.write .nil) fun _ _ _ => ?_
      refine .bind stepwise (relaxed_component statement) fun left right first => ?_
      refine .bind stepwise (relaxed_components rest) fun lefts rights others => ?_
      exact .pure stepwise (first.append others)

/-- A statement is transformed the same with fewer checks. -/
theorem relaxed_component : ∀ statement : Statement,
    Relaxed setting other
      (fun left right => AllSameIfNarrow (Encoded setting other) left.toList right.toList)
      (component setting statement) (component (setting.under other) statement)
  | .expression expr | .returning _ _ (some expr) => by
      rw [component, component]
      exact (relaxed_leaf coded relaxes expr).map (isStepwise_relaxedReports _ _)
        fun _ _ same => same.single
  | .conditional node => by
      rw [component, component]
      exact (relaxed_conditional node).map (isStepwise_relaxedReports _ _)
        fun _ _ same => same.single
  | .switch node => by
      rw [component, component]
      exact (relaxed_switch node).map (isStepwise_relaxedReports _ _) fun _ _ same => same.single
  | .doBlock span body => by
      have stepwise := isStepwise_relaxedReports setting.config other
      rw [component, component]
      refine .bind stepwise (relaxed_block body) fun left right same => ?_
      exact .pure stepwise (same.doWrapped span).single
  | .returning _ _ none | .directive _ | .declaration _ | .loop _ | .fallthrough _
  | .jump _ _ => by
      rw [component, component]
      exact .pure (isStepwise_relaxedReports _ _) .nil

/-- An `if` is transformed the same with fewer checks. -/
theorem relaxed_conditional : ∀ node : Conditional,
    Relaxed setting other (Built.SameIfNarrow (Encoded setting other)) (conditional setting node)
      (conditional (setting.under other) node)
  | ⟨span, conditions, thenBlock, none⟩ => by
      have stepwise := isStepwise_relaxedReports setting.config other
      rw [conditional, conditional]
      refine .bind stepwise (.write (relaxed_conditionChecks coded relaxes conditions))
        fun _ _ _ => ?_
      refine .bind stepwise (relaxed_block thenBlock) fun left right same => ?_
      refine .bind stepwise (.ofExcept stepwise (optionalWrap setting span)) ?_
      rintro operation _ rfl
      exact .pure stepwise (same.optional operation conditions span)
  | ⟨span, conditions, thenBlock, some otherwise⟩ => by
      have stepwise := isStepwise_relaxedReports setting.config other
      rw [conditional, conditional]
      refine .bind stepwise (.write (relaxed_conditionChecks coded relaxes conditions))
        fun _ _ _ => ?_
      refine .bind stepwise (relaxed_block thenBlock) fun thenLeft thenRight ofThen => ?_
      refine .bind stepwise (.ofExcept stepwise (either setting span)) ?_
      rintro operations _ rfl
      refine .bind stepwise (relaxed_alternative otherwise) fun left right ofElse => ?_
      exact .pure stepwise (ofThen.alternatives ofElse operations conditions span)

/-- What is done otherwise is transformed the same with fewer checks. -/
theorem relaxed_alternative : ∀ otherwise : Syntax.Alternative,
    Relaxed setting other (Built.SameIfNarrow (Encoded setting other))
      (alternative setting otherwise) (alternative (setting.under other) otherwise)
  | .block node => by
      rw [alternative, alternative]
      exact relaxed_block node
  | .chained node => by
      have stepwise := isStepwise_relaxedReports setting.config other
      rw [alternative, alternative]
      refine .bind stepwise (.ofExcept stepwise (check setting (.conditional node)))
        fun _ _ _ => ?_
      refine .bind stepwise (.ofExcept stepwise (blockJoin setting [node.span] node.span)) ?_
      rintro operation _ rfl
      refine .bind stepwise (relaxed_conditional node) fun left right same => ?_
      exact .pure stepwise (same.single.join operation node.span)

/-- A `switch` is transformed the same with fewer checks. -/
theorem relaxed_switch : ∀ node : Switch,
    Relaxed setting other (Built.SameIfNarrow (Encoded setting other)) (switch setting node)
      (switch (setting.under other) node)
  | ⟨span, subject, cases⟩ => by
      have stepwise := isStepwise_relaxedReports setting.config other
      rw [switch, switch]
      refine .bind stepwise (.write (relaxed_switchChecks coded relaxes ⟨span, subject, cases⟩))
        fun _ _ _ => ?_
      refine .bind stepwise (relaxed_caseBodies cases) fun lefts rights ⟨same, sameLength⟩ => ?_
      -- both runs have as many values, so that they agree on whether to wrap them
      rw [← same.length_eq]
      split
      · refine .bind stepwise (.ofExcept stepwise (either setting span)) ?_
        rintro operations _ rfl
        exact .pure stepwise (same.chooseWrapped operations subject sameLength)
      · exact .pure stepwise (same.chooseCase subject sameLength)

/-- The bodies of cases are transformed the same with fewer checks. -/
theorem relaxed_caseBodies : ∀ cases : List SwitchCase,
    Relaxed setting other
      (fun lefts rights =>
        AllSameIfNarrow (Encoded setting other) lefts rights ∧ lefts.length = cases.length)
      (caseBodies setting cases) (caseBodies (setting.under other) cases)
  | [] => by
      rw [caseBodies, caseBodies]
      exact .pure (isStepwise_relaxedReports _ _) ⟨.nil, rfl⟩
  | ⟨_, _, body⟩ :: rest => by
      have stepwise := isStepwise_relaxedReports setting.config other
      rw [caseBodies, caseBodies]
      refine .bind stepwise (relaxed_block body) fun left right first => ?_
      refine .bind stepwise (relaxed_caseBodies rest) fun lefts rights ⟨others, sameLength⟩ => ?_
      exact .pure stepwise ⟨.cons first others, congrArg (· + 1) sameLength⟩

end

theorem relaxed_wholeBody (body : Block) :
    Relaxed setting other (Built.SameIfNarrow (Encoded setting other)) (wholeBody setting body)
      (wholeBody (setting.under other) body) := by
  unfold wholeBody
  cases body.rejection? with
  | some rejection => exact ⟨.error (rejected setting rejection), .nil⟩
  | none => exact relaxed_block coded relaxes body

end Parts

/-! ### Bodies -/

/-- **The same decision about a body**: it is transformed, to the same if the encoding is the same or
does not matter, or it is left as it is, or the same error occurs. -/
inductive Result.SameDecision (encoded : Prop) : Result → Result → Prop where
  | built {left right : Built} (same : left.SameIfNarrow encoded right) :
      SameDecision encoded (.built left) (.built right)
  | verbatim (block : Block) : SameDecision encoded (.verbatim block) (.verbatim block)
  | failed (error : TransformError) : SameDecision encoded (.failed error) (.failed error)

/-- **What becomes of a body with fewer checks**: the same, and less is reported. -/
structure Transformed.Relaxed (config other : Config) (first second : Transformed) : Prop where
  result : first.result.SameDecision (config.eitherEncoding = other.eitherEncoding) second.result
  reports : RelaxedReports config other first.journal second.journal

/-- **A body is transformed the same with fewer checks.** -/
theorem relaxed_transform (coded : setting.services.IsCoded)
    (relaxes : other.Relaxes setting.config) (body : Block) :
    Transformed.Relaxed setting.config other (transform setting body)
      (transform (setting.under other) body) := by
  unfold transform
  dsimp only
  split
  · refine ⟨.verbatim body, .of_stays fun diagnostic reported => Config.keeps_of_code ?_⟩
    rw [List.mem_singleton.mp reported]
    show DiagnosticCode.returnDisablesTransform.number ≠ DiagnosticCode.implicitSelfCapture.number
    decide
  · obtain ⟨ends, reports⟩ := relaxed_wholeBody coded relaxes body
    generalize (wholeBody setting body).outcome = first at ends
    generalize (wholeBody (setting.under other) body).outcome = second at ends
    cases ends with
    | ok same => exact ⟨.built same, reports⟩
    | error error =>
        exact ⟨.failed error, (isStepwise_relaxedReports _ _).append reports .nil⟩

end Transform

end ResultBuilder
