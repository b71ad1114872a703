import Mathlib.Data.List.Forall2
import ResultBuilder.Proofs.Compile.Outcomes
import ResultBuilder.Proofs.Synthesis.Relaxed

/-!
# Configurations change only what they name

Compiling a source with two configurations, one of which makes fewer checks, visits the same places,
tries the same possibilities for each call and decides for the same one: whether a possibility works
does not depend on checks, and shapes, which may depend on the encoding, are not looked at to choose
between functions. The same bodies are recorded, and the diagnostics are the same but for those of
the checks that are not made.

* **`visits_under`**: the places of a program do not depend on the configuration.
* **`Walk.InStep`**: walks that go on with the same cache and find what is related.
* **`relaxed_transformCall`**: a call with both configurations.
* **`relaxed_findings`**: a whole program.
* **`compile_configured`**: what each setting of a configuration changes about a source.
-/

namespace ResultBuilder

open Syntax Transform

namespace Compile

/-! ### Places -/

/-- The same surroundings with another configuration. -/
def Surroundings.under (config : Config) (around : Surroundings) : Surroundings :=
  { around with config }

/-- The same place with another configuration. -/
def Visit.under (config : Config) : Visit → Visit
  | .directive node => .directive node
  | .function around decl => .function (around.under config) decl
  | .property around marks body => .property (around.under config) marks body
  | .call around callee args trailing => .call (around.under config) callee args trailing

section Places

variable (config : Config)

namespace Visit

mutual

theorem ofBlock_under : ∀ (around : Surroundings) (node : Block),
    ofBlock (around.under config) node = (ofBlock around node).map (·.under config)
  | around, ⟨_, statements⟩ => by
      rw [ofBlock, ofBlock, ← ofStatements_under]
      rfl

/-- **The places in statements** do not depend on the configuration. -/
theorem ofStatements_under : ∀ (around : Surroundings) (statements : List Statement),
    ofStatements (around.under config) statements =
      (ofStatements around statements).map (·.under config)
  | _, [] => rfl
  | around, first :: rest => by
      rw [ofStatements, ofStatements, List.map_append, ofStatement_under, ofStatements_under]

theorem ofStatement_under : ∀ (around : Surroundings) (node : Statement),
    ofStatement (around.under config) node = (ofStatement around node).map (·.under config)
  | around, .expression node => by
      rw [ofStatement, ofStatement, ofExpression_under]
  | around, .conditional node => by
      rw [ofStatement, ofStatement, ofConditional_under]
  | around, .switch ⟨_, subject, cases⟩ => by
      rw [ofStatement, ofStatement, List.map_append, ofExpression_under, ofCases_under]
  | around, .doBlock _ body => by
      rw [ofStatement, ofStatement, ofBlock_under]
  | around, .loop ⟨_, _, header, body⟩ => by
      rw [ofStatement, ofStatement, List.map_append, ofExpression_under, ofBlock_under]
  | around, .returning _ _ (some value) => by
      rw [ofStatement, ofStatement, ofExpression_under]
  | around, .declaration node => by
      rw [ofStatement, ofStatement, ofDeclaration_under]
  | _, .returning _ _ none | _, .fallthrough _ | _, .jump _ _ | _, .directive _ => rfl

theorem ofConditional_under : ∀ (around : Surroundings) (node : Conditional),
    ofConditional (around.under config) node = (ofConditional around node).map (·.under config)
  | around, ⟨_, conditions, thenBlock, none⟩ => by
      rw [ofConditional, ofConditional, List.map_append, ofConditions_under, ofBlock_under]
  | around, ⟨_, conditions, thenBlock, some otherwise⟩ => by
      rw [ofConditional, ofConditional, List.map_append, List.map_append, ofConditions_under,
        ofBlock_under, ofAlternative_under]

theorem ofAlternative_under : ∀ (around : Surroundings) (node : Syntax.Alternative),
    ofAlternative (around.under config) node = (ofAlternative around node).map (·.under config)
  | around, .block node => by
      rw [ofAlternative, ofAlternative, ofBlock_under]
  | around, .chained node => by
      rw [ofAlternative, ofAlternative, ofConditional_under]

theorem ofConditions_under : ∀ (around : Surroundings) (conditions : List Condition),
    ofConditions (around.under config) conditions =
      (ofConditions around conditions).map (·.under config)
  | _, [] => rfl
  | around, .expression node :: rest => by
      rw [ofConditions, ofConditions, List.map_append, ofExpression_under, ofConditions_under]
  | around, .binding _ _ _ value :: rest => by
      rw [ofConditions, ofConditions, List.map_append, ofExpression_under, ofConditions_under]

theorem ofCases_under : ∀ (around : Surroundings) (cases : List SwitchCase),
    ofCases (around.under config) cases = (ofCases around cases).map (·.under config)
  | _, [] => rfl
  | around, ⟨_, _, body⟩ :: rest => by
      rw [ofCases, ofCases, List.map_append, ofBlock_under, ofCases_under]

theorem ofDeclaration_under : ∀ (around : Surroundings) (node : Declaration),
    ofDeclaration (around.under config) node = (ofDeclaration around node).map (·.under config)
  | around, .type ⟨span, marks, kind, name, generics, members⟩ => by
      rw [ofDeclaration, ofDeclaration, ← ofDeclarations_under]
      rfl
  | _, .enum _ => rfl
  | _, .function ⟨_, _, _, _, _, _, _, none⟩ => rfl
  | around, .function ⟨_, _, _, _, generics, params, _, some body⟩ => by
      rw [ofDeclaration, ofDeclaration, List.map_cons, ← ofBlock_under]
      rfl
  | around, .variable ⟨_, marks, _, _, _, value, body⟩ => by
      rw [ofDeclaration, ofDeclaration, List.map_append, ofInitialValue_under, ofProperty_under]

theorem ofInitialValue_under : ∀ (around : Surroundings) (value : Option Expr),
    ofInitialValue (around.under config) value = (ofInitialValue around value).map (·.under config)
  | _, none => rfl
  | around, some value => by
      rw [ofInitialValue, ofInitialValue, ofExpression_under]

theorem ofProperty_under : ∀ (around : Surroundings) (marks : List Attribute)
    (body : Option Block),
    ofProperty (around.under config) marks body = (ofProperty around marks body).map (·.under config)
  | _, _, none => rfl
  | around, marks, some body => by
      rw [ofProperty, ofProperty, List.map_cons, ofBlock_under]
      rfl

theorem ofDeclarations_under : ∀ (around : Surroundings) (declarations : List Declaration),
    ofDeclarations (around.under config) declarations =
      (ofDeclarations around declarations).map (·.under config)
  | _, [] => rfl
  | around, first :: rest => by
      rw [ofDeclarations, ofDeclarations, List.map_append, ofDeclaration_under,
        ofDeclarations_under]

theorem ofExpression_under : ∀ (around : Surroundings) (node : Expr),
    ofExpression (around.under config) node = (ofExpression around node).map (·.under config)
  | around, .call _ callee args none => by
      rw [ofExpression, ofExpression, List.map_cons, List.map_append, ofExpression_under,
        ofArguments_under]
      rfl
  | around, .call _ callee args (some trailing) => by
      rw [ofExpression, ofExpression, List.map_cons, List.map_append, List.map_append,
        ofExpression_under, ofArguments_under, ofClosure_under]
      rfl
  | around, .closure node => by
      rw [ofExpression, ofExpression, ofClosure_under]
  | around, .member _ base _ => by
      rw [ofExpression, ofExpression, ofExpression_under]
  | around, .subscript _ base args => by
      rw [ofExpression, ofExpression, List.map_append, ofExpression_under, ofArguments_under]
  | around, .tuple _ elements => by
      rw [ofExpression, ofExpression, ofArguments_under]
  | around, .array _ elements => by
      rw [ofExpression, ofExpression, ofExpressions_under]
  | around, .paren _ inner | around, .unary _ _ inner | around, .postfixed _ inner _ => by
      rw [ofExpression, ofExpression, ofExpression_under]
  | around, .binary _ left _ right | around, .assign _ left _ right => by
      rw [ofExpression, ofExpression, List.map_append, ofExpression_under around left,
        ofExpression_under around right]
  | around, .ternary _ condition thenValue elseValue => by
      rw [ofExpression, ofExpression, List.map_append, List.map_append,
        ofExpression_under around condition, ofExpression_under around thenValue,
        ofExpression_under around elseValue]
  | _, .literal _ _ | _, .ident _ _ | _, .implicitMember _ _ => rfl

theorem ofExpressions_under : ∀ (around : Surroundings) (expressions : List Expr),
    ofExpressions (around.under config) expressions =
      (ofExpressions around expressions).map (·.under config)
  | _, [] => rfl
  | around, first :: rest => by
      rw [ofExpressions, ofExpressions, List.map_append, ofExpression_under, ofExpressions_under]

theorem ofArguments_under : ∀ (around : Surroundings) (args : List Argument),
    ofArguments (around.under config) args = (ofArguments around args).map (·.under config)
  | _, [] => rfl
  | around, ⟨_, _, value⟩ :: rest => by
      rw [ofArguments, ofArguments, List.map_append, ofExpression_under, ofArguments_under]

theorem ofClosure_under : ∀ (around : Surroundings) (node : Closure),
    ofClosure (around.under config) node = (ofClosure around node).map (·.under config)
  | around, ⟨_, params, body⟩ => by
      rw [ofClosure, ofClosure, ← ofBlock_under]
      rfl

end

end Visit

/-- **The places of a program do not depend on the configuration.** -/
theorem visits_under (services : Collaborators) (one : Config) (program : Program) :
    visits services config program = (visits services one program).map (·.under config) :=
  Visit.ofStatements_under config (.ofProgram services one program) program.statements

end Places

end Compile

/-! ### What is found -/

/-- **The same decision about a body**, as it is recorded. -/
inductive Expansion.SameDecision (encoded : Prop) : Expansion → Expansion → Prop where
  | built {left right : Built} (same : left.SameIfNarrow encoded right) :
      SameDecision encoded (.built left) (.built right)
  | verbatim (body : Block) : SameDecision encoded (.verbatim body) (.verbatim body)

/-- **The same body is recorded**, of the same kind, for the same builder and at the same place, and
with the same decision. -/
structure TransformedBody.SameDecision (encoded : Prop) (one other : TransformedBody) : Prop where
  kind_eq : one.kind = other.kind
  builder_eq : one.builder = other.builder
  span_eq : one.span = other.span
  expansion : one.expansion.SameDecision encoded other.expansion

/-- **What is found with fewer checks**: the same bodies, and some diagnostics of the checks that are
not made are left out. -/
structure Findings.Relaxed (config other : Config) (one another : Findings) : Prop where
  diagnostics : Thinned (config.Drops other) other.Keeps one.diagnostics another.diagnostics
  bodies : List.Forall₂ (TransformedBody.SameDecision (config.eitherEncoding = other.eitherEncoding))
    one.bodies another.bodies

/-- **Walks in step**: with the same cache they give what is related, find what is related and leave
the same cache. -/
def Walk.InStep {α β : Type} (config other : Config) (same : α → β → Prop) (first : Walk α)
    (second : Walk β) : Prop :=
  ∀ cache, same (first cache).value (second cache).value ∧
    (first cache).findings.Relaxed config other (second cache).findings ∧
      (first cache).cache = (second cache).cache

section Walks

variable {α β γ δ : Type} {config other : Config}

theorem Findings.Relaxed.empty : Findings.Relaxed config other {} {} :=
  ⟨.nil, .nil⟩

theorem Findings.Relaxed.append {one another more further : Findings}
    (first : one.Relaxed config other another) (second : more.Relaxed config other further) :
    (one ++ more).Relaxed config other (another ++ further) :=
  ⟨first.diagnostics.append second.diagnostics, List.rel_append first.bodies second.bodies⟩

theorem Walk.InStep.pure {same : α → β → Prop} {value : α} {result : β}
    (related : same value result) :
    Walk.InStep config other same (Pure.pure value) (Pure.pure result) :=
  fun _ => ⟨related, .empty, rfl⟩

theorem Walk.InStep.found {one another : Findings} (relaxed : one.Relaxed config other another) :
    Walk.InStep config other (fun _ _ => True) (Walk.found one) (Walk.found another) :=
  fun _ => ⟨trivial, relaxed, rfl⟩

/-- Questions and events are not compared. -/
theorem Walk.InStep.note (one another : Journal) :
    Walk.InStep config other (fun _ _ => True) (Walk.note one) (Walk.note another) :=
  .found ⟨.nil, .nil⟩

theorem Walk.InStep.report {diagnostic : Diagnostic} (kept : other.Keeps diagnostic) :
    Walk.InStep config other (fun _ _ => True) (Walk.report [diagnostic])
      (Walk.report [diagnostic]) :=
  .found ⟨.stay kept .nil, .nil⟩

theorem Walk.InStep.resolve (decl : TypeDecl) :
    Walk.InStep config other Eq (Walk.resolve decl) (Walk.resolve decl) :=
  fun _ => ⟨rfl, ⟨.nil, .nil⟩, rfl⟩

/-- **Walks that go on in step stay in step.** -/
theorem Walk.InStep.bind {same : α → β → Prop} {alsoSame : γ → δ → Prop} {first : Walk α}
    {second : Walk β} {next : α → Walk γ} {follow : β → Walk δ}
    (inStep : Walk.InStep config other same first second)
    (goesOn : ∀ value result, same value result →
      Walk.InStep config other alsoSame (next value) (follow result)) :
    Walk.InStep config other alsoSame (first >>= next) (second >>= follow) := by
  intro cache
  obtain ⟨related, found, cached⟩ := inStep cache
  obtain ⟨ends, more, left⟩ := goesOn _ _ related (second cache).cache
  show alsoSame (next (first cache).value (first cache).cache).value _ ∧
    Findings.Relaxed config other (_ ++ (next (first cache).value (first cache).cache).findings) _ ∧
      (next (first cache).value (first cache).cache).cache = _
  rw [cached]
  exact ⟨ends, found.append more, left⟩

end Walks

namespace Compile

variable {around : Surroundings} {other : Config}

/-! ### Bodies -/

/-- **Two attempts at a body**: the builder is invalid, or less is reported of the body. -/
inductive SameAttempt (config other : Config) :
    Except Diagnostic Transformed → Except Diagnostic Transformed → Prop where
  | invalid {diagnostic : Diagnostic} (kept : other.Keeps diagnostic) :
      SameAttempt config other (.error diagnostic) (.error diagnostic)
  | transformed {first second : Transformed} (relaxed : first.Relaxed config other second) :
      SameAttempt config other (.ok first) (.ok second)

theorem keeps_of_transformError (error : TransformError) : other.Keeps error.diagnostic := by
  refine Config.keeps_of_code ?_
  show error.code.number ≠ DiagnosticCode.implicitSelfCapture.number
  cases error <;> simp [TransformError.code, DiagnosticCode.number]

/-- The same body is recorded, or the same error is reported. -/
theorem relaxed_commit {config : Config} {first second : Transformed}
    (relaxed : first.Relaxed config other second) (kind : BodyKind) (builder : TypeDecl)
    (span : Span) :
    (commit kind builder span first).Relaxed config other (commit kind builder span second) := by
  obtain ⟨decided, reports⟩ := relaxed
  unfold commit
  generalize first.result = left at decided
  generalize second.result = right at decided
  cases decided with
  | built same => exact ⟨reports, .cons ⟨rfl, rfl, rfl, .built same⟩ .nil⟩
  | verbatim block => exact ⟨reports, .cons ⟨rfl, rfl, rfl, .verbatim block⟩ .nil⟩
  | failed error => exact ⟨Thinned.append reports (.stay (keeps_of_transformError error) .nil), .nil⟩

section Attempts

variable (coded : around.services.IsCoded) (relaxes : other.Relaxes around.config)
include coded relaxes

/-- A body is attempted with both configurations. -/
theorem inStep_attempt (builder : TypeDecl) (body : Block) (context : BodyContext) :
    Walk.InStep around.config other (SameAttempt around.config other)
      (attempt around builder body context) (attempt (around.under other) builder body context) := by
  refine .bind (.resolve builder) ?_
  rintro resolution _ rfl
  cases resolution with
  | error error =>
      refine .pure (.invalid (Config.keeps_of_code ?_))
      show DiagnosticCode.builderDescriptorInvalid.number ≠
        DiagnosticCode.implicitSelfCapture.number
      decide
  | ok descriptor =>
      refine .bind (.note _ _) fun _ _ _ => .pure (.transformed ?_)
      exact @relaxed_transform ⟨descriptor, around.services, context, around.config⟩ other coded
        relaxes body

theorem inStep_applyAttribute (marks : List Attribute) (kind : BodyKind) (body : Block) :
    Walk.InStep around.config other (fun _ _ => True) (applyAttribute around marks kind body)
      (applyAttribute (around.under other) marks kind body) := by
  have scopes : (around.under other).scopes = around.scopes := rfl
  unfold applyAttribute
  rw [scopes]
  cases around.scopes.builderAttribute? marks with
  | none => exact .pure trivial
  | some found =>
      refine .bind (inStep_attempt coded relaxes found.2 body _) fun one another same => ?_
      cases same with
      | invalid kept => exact .report kept
      | transformed relaxed => exact .found (relaxed_commit relaxed _ _ _)

/-! ### Trials -/

theorem inStep_tryClosures (closures : List BuilderClosure) :
    Walk.InStep around.config other
      (fun one another => List.Forall₂ (Transformed.Relaxed around.config other) one.1 another.1 ∧
        one.2 = another.2 ∧ ∀ diagnostic ∈ one.2, other.Keeps diagnostic)
      (tryClosures around closures) (tryClosures (around.under other) closures) := by
  induction closures with
  | nil => exact .pure ⟨.nil, rfl, nofun⟩
  | cons given rest ih =>
      rw [tryClosures, tryClosures]
      refine .bind (inStep_attempt coded relaxes _ _ _) fun one another same => ?_
      cases same with
      | invalid kept =>
          refine .pure ⟨.nil, rfl, fun diagnostic isInvalid => ?_⟩
          obtain rfl := Option.some.inj isInvalid
          exact kept
      | transformed relaxed =>
          refine .bind ih ?_
          rintro ⟨outcomes, invalid⟩ ⟨others, alsoInvalid⟩ ⟨each, same, kept⟩
          exact .pure ⟨.cons relaxed each, same, kept⟩

/-- **Two trials of one possibility**: the closures are the same, and less is reported of them. -/
structure TrialRelaxed (config other : Config) (one another : Trial) : Prop where
  binding_eq : one.binding = another.binding
  outcomes : List.Forall₂ (Transformed.Relaxed config other) one.outcomes another.outcomes
  invalid_eq : one.invalid = another.invalid
  kept : ∀ diagnostic ∈ one.invalid, other.Keeps diagnostic

theorem inStep_tryAll (possible : List CallBinding) :
    Walk.InStep around.config other (List.Forall₂ (TrialRelaxed around.config other))
      (tryAll around possible) (tryAll (around.under other) possible) := by
  induction possible with
  | nil => exact .pure .nil
  | cons binding rest ih =>
      rw [tryAll, tryAll]
      refine .bind (inStep_tryClosures coded relaxes _) ?_
      rintro ⟨outcomes, invalid⟩ ⟨others, _⟩ ⟨each, rfl, kept⟩
      refine .bind ih fun trials more same => ?_
      exact .pure (.cons ⟨rfl, each, rfl, kept⟩ same)

end Attempts

/-- A trial that works does so without a check, and the other way around. -/
theorem TrialRelaxed.isViable_eq {config : Config} {one another : Trial}
    (relaxed : TrialRelaxed config other one another) : one.isViable = another.isViable := by
  have passed : one.outcomes.all (fun outcome => !Trial.isFailed outcome.result) =
      another.outcomes.all fun outcome => !Trial.isFailed outcome.result := by
    have outcomes := relaxed.outcomes
    generalize one.outcomes = left at outcomes
    generalize another.outcomes = right at outcomes
    induction outcomes with
    | nil => rfl
    | @cons first second _ _ here _ ih =>
        have same : Trial.isFailed first.result = Trial.isFailed second.result := by
          obtain ⟨decided, _⟩ := here
          generalize first.result = left at decided
          generalize second.result = right at decided
          cases decided <;> rfl
        rw [List.all_cons, List.all_cons, same, ih]
  rw [Trial.isViable, Trial.isViable, relaxed.invalid_eq, passed]

/-- **A trial that is meant finds the same bodies** with fewer checks. -/
theorem relaxed_commitTrial {config : Config} {one another : Trial}
    (relaxed : TrialRelaxed config other one another) :
    (commitTrial one).Relaxed config other (commitTrial another) := by
  have invalid : Findings.Relaxed config other { diagnostics := another.invalid.toList }
      { diagnostics := another.invalid.toList } := by
    refine ⟨.of_stays fun diagnostic listed => relaxed.kept diagnostic ?_, .nil⟩
    rw [relaxed.invalid_eq]
    exact Option.mem_toList.mp listed
  have outcomes := relaxed.outcomes
  unfold commitTrial
  rw [relaxed.binding_eq, relaxed.invalid_eq]
  generalize another.binding.closures = closures
  generalize one.outcomes = left at outcomes
  generalize another.outcomes = right at outcomes
  induction outcomes generalizing closures with
  | nil =>
      rw [List.zip_nil_right]
      exact invalid
  | cons here _ ih =>
      cases closures with
      | nil => exact invalid
      | cons given rest => exact (relaxed_commit here _ _ _).append (ih rest)

end Compile

/-! ### Decisions -/

namespace Selection

/-- What a decision depends on: the places of the viable trials and the possibilities that they
tried. -/
def tried (entry : Nat × Trial) : Nat × CallBinding :=
  (entry.1, entry.2.binding)

/-- Trials of the same possibilities, the same of which work, are viable at the same places. -/
theorem map_tried_viable {one other : List Trial}
    (same : one.map (fun trial => (trial.binding, trial.isViable)) =
      other.map fun trial => (trial.binding, trial.isViable)) :
    (viable one).map tried = (viable other).map tried := by
  have keyed (trials : List Trial) : (viable trials).map tried =
      (((List.range (trials.map fun trial => (trial.binding, trial.isViable)).length).zip
        (trials.map fun trial => (trial.binding, trial.isViable))).filter (·.2.2)).map
          fun entry => (entry.1, entry.2.1) := by
    rw [List.length_map, List.zip_map_right, List.filter_map, List.map_map]
    rfl
  rw [keyed, keyed, same]

/-- The builders of viable trials agree or not, the collaborator answers the same, and an index that
the collaborator chooses means the same place. -/
theorem ofSeveral_eq_of_tried {services : Collaborators} (coded : services.IsCoded)
    (site : OverloadSite) {first second : Nat × Trial} {rest more : List (Nat × Trial)}
    (same : (first :: rest).map tried = (second :: more).map tried) :
    (if buildersAgree first rest then (Selection.commit first.1, ([] : List Question))
      else
        let candidates := (first :: rest).map (·.2.candidate)
        let selection := match services.resolveOverload site candidates with
          | .ok chosen => .commit (((first :: rest)[chosen]?).getD first).1
          | .error diagnostic => .ambiguous diagnostic
        (selection, [.overload site candidates])).1 =
      (if buildersAgree second more then (Selection.commit second.1, ([] : List Question))
      else
        let candidates := (second :: more).map (·.2.candidate)
        let selection := match services.resolveOverload site candidates with
          | .ok chosen => .commit (((second :: more)[chosen]?).getD second).1
          | .error diagnostic => .ambiguous diagnostic
        (selection, [.overload site candidates])).1 := by
  obtain ⟨sameFirst, sameRest⟩ := List.cons.inj same
  have index : first.1 = second.1 :=
    congrArg (fun entry : Nat × CallBinding => entry.1) sameFirst
  have agree : buildersAgree first rest = buildersAgree second more := by
    have keyed (entry : Nat × Trial) (rest : List (Nat × Trial)) : buildersAgree entry rest =
        (rest.map tried).all fun other => other.2.builders == (tried entry).2.builders := by
      rw [List.all_map]
      rfl
    rw [keyed, keyed, sameFirst, sameRest]
  have answer : services.resolveOverload site ((first :: rest).map (·.2.candidate)) =
      services.resolveOverload site ((second :: more).map (·.2.candidate)) := by
    have keyed (entries : List (Nat × Trial)) :
        (entries.map (·.2.candidate)).map (fun candidate => { candidate with shapes := [] }) =
          (entries.map tried).map fun entry =>
            ⟨entry.2.function.fullName, entry.2.function.name.span, entry.2.builders, []⟩ := by
      rw [List.map_map, List.map_map]
      rfl
    refine coded.shapeless ?_
    rw [keyed, keyed, same]
  have chosen (place : Nat) : (((first :: rest)[place]?).getD first).1 =
      (((second :: more)[place]?).getD second).1 := by
    have keyed (entries : List (Nat × Trial)) (entry : Nat × Trial) :
        ((entries[place]?).getD entry).1 =
          (((entries.map tried)[place]?).getD (tried entry)).1 := by
      rw [List.getElem?_map, Option.getD_map]
      rfl
    rw [keyed, keyed, same, sameFirst]
  rw [agree]
  split
  · exact congrArg Selection.commit index
  · dsimp only
    rw [answer]
    split
    · exact congrArg Selection.commit (chosen _)
    · rfl

/-- **A decision depends on no shape and no report** of what was tried. -/
theorem ofTrials_eq_of_tried {services : Collaborators} (coded : services.IsCoded)
    (site : OverloadSite) {one other : List Trial}
    (same : (viable one).map tried = (viable other).map tried) :
    (ofTrials services site one).1 = (ofTrials services site other).1 := by
  unfold ofTrials
  generalize viable one = left at same
  generalize viable other = right at same
  cases left with
  | nil =>
      cases right with
      | nil => rfl
      | cons => cases same
  | cons first rest =>
      cases right with
      | nil => cases same
      | cons second more =>
          obtain ⟨sameFirst, sameRest⟩ := List.cons.inj same
          have index : first.1 = second.1 :=
            congrArg (fun entry : Nat × CallBinding => entry.1) sameFirst
          cases rest with
          | nil =>
              cases more with
              | nil => exact congrArg Selection.commit index
              | cons => cases sameRest
          | cons next others =>
              cases more with
              | nil => cases sameRest
              | cons following further =>
                  exact ofSeveral_eq_of_tried coded site same

end Selection

namespace Compile

variable {around : Surroundings} {other : Config}

/-! ### Calls -/

/-- Items at one index of two lists whose items are related one by one. -/
theorem getElem?_forall₂ {α β : Type} {related : α → β → Prop} {items : List α} {others : List β}
    (same : List.Forall₂ related items others) (index : Nat) :
    items[index]? = none ∧ others[index]? = none ∨
      ∃ item another, items[index]? = some item ∧ others[index]? = some another ∧
        related item another := by
  induction same generalizing index with
  | nil => exact .inl ⟨rfl, rfl⟩
  | cons here _ ih =>
      cases index with
      | zero => exact .inr ⟨_, _, rfl, rfl, here⟩
      | succ index => exact ih index

section Calls

variable (coded : around.services.IsCoded) (relaxes : other.Relaxes around.config)
include coded relaxes

omit relaxes in
/-- **The same possibility is meant** with fewer checks, and finds the same bodies. -/
theorem relaxed_decided {trials others : List Trial}
    (same : List.Forall₂ (TrialRelaxed around.config other) trials others) (site : OverloadSite) :
    Walk.InStep around.config other (fun _ _ => True) (decided around site trials)
      (decided (around.under other) site others) := by
  have choice : (Selection.ofTrials around.services site trials).1 =
      (Selection.ofTrials around.services site others).1 := by
    refine Selection.ofTrials_eq_of_tried coded site (Selection.map_tried_viable ?_)
    induction same with
    | nil => rfl
    | cons here _ ih => rw [List.map_cons, List.map_cons, here.binding_eq, here.isViable_eq, ih]
  have undecided := @exists_undecided around.services site others
  have asksSame : (around.under other).services = around.services := rfl
  unfold decided
  rw [asksSame]
  generalize Selection.ofTrials around.services site trials = one at choice ⊢
  generalize Selection.ofTrials around.services site others = another at choice undecided ⊢
  obtain ⟨selection, questions⟩ := one
  obtain ⟨_, otherQuestions⟩ := another
  obtain rfl : selection = _ := choice
  refine .bind (.note _ _) fun _ _ _ => ?_
  cases selection with
  | commit index =>
      rcases getElem?_forall₂ same index with
        ⟨none, alsoNone⟩ | ⟨trial, another, isTrial, isOther, relaxed⟩
      · simp only [none, alsoNone]
        exact .pure trivial
      · simp only [isTrial, isOther]
        exact .found (relaxed_commitTrial relaxed)
  | ambiguous diagnostic =>
      obtain ⟨place, candidates, refused⟩ := undecided rfl
      refine .bind (.note _ _) fun _ _ _ => .report (Config.keeps_of_code (coded.overload refused))

/-- **A call finds the same bodies with fewer checks.** -/
theorem relaxed_transformCall (callee : Expr) (args : List Argument) (trailing : Option Closure) :
    Walk.InStep around.config other (fun _ _ => True) (transformCall around callee args trailing)
      (transformCall (around.under other) callee args trailing) := by
  have possible : bindings (around.under other) callee args trailing =
      bindings around callee args trailing := rfl
  unfold transformCall
  rw [possible]
  split
  · exact .pure trivial
  · refine .bind (inStep_tryAll coded relaxes _) fun trials others same => ?_
    refine .bind (.note _ _) fun _ _ _ => ?_
    exact relaxed_decided coded same _

end Calls

/-! ### Programs -/

theorem relaxed_walk {visit : Visit} {services : Collaborators} {config : Config}
    (coded : services.IsCoded) (relaxes : other.Relaxes config)
    (asked : visit.Holds fun around => around.services = services ∧ around.config = config) :
    Walk.InStep config other (fun _ _ => True) visit.walk (visit.under other).walk := by
  cases visit with
  | directive node =>
      refine .report (Config.keeps_of_code ?_)
      cases node with
      | mk span kind message messageSpan =>
          cases kind <;> simp [directiveDiagnostic, DiagnosticCode.number]
  | function around decl =>
      obtain ⟨rfl, rfl⟩ := asked
      unfold Visit.walk Visit.under
      dsimp only
      split
      · exact .pure trivial
      · exact @inStep_applyAttribute (around.inFunction decl.generics decl.params) other coded
          relaxes _ _ _
  | property around marks body =>
      obtain ⟨rfl, rfl⟩ := asked
      exact inStep_applyAttribute coded relaxes _ _ _
  | call around callee args trailing =>
      obtain ⟨rfl, rfl⟩ := asked
      exact relaxed_transformCall coded relaxes _ _ _

theorem relaxed_walkAll {places : List Visit} {services : Collaborators} {config : Config}
    (coded : services.IsCoded) (relaxes : other.Relaxes config)
    (asked : ∀ visit ∈ places,
      visit.Holds fun around => around.services = services ∧ around.config = config) :
    Walk.InStep config other (fun _ _ => True) (walkAll places)
      (walkAll (places.map (·.under other))) := by
  induction places with
  | nil => exact .pure trivial
  | cons visit rest ih =>
      obtain ⟨here, later⟩ := List.forall_mem_cons.mp asked
      rw [List.map_cons, walkAll, walkAll]
      exact .bind (relaxed_walk coded relaxes here) fun _ _ _ => ih later

/-- **A program with fewer checks**: the same bodies are recorded, and some diagnostics of the checks
that are not made are left out. -/
theorem relaxed_findings {services : Collaborators} {config : Config} (coded : services.IsCoded)
    (relaxes : other.Relaxes config) (program : Program) (cache : DescriptorCache) :
    (programWith services config program cache).findings.Relaxed config other
      (programWith services other program cache).findings := by
  obtain ⟨diagnostics, bodies⟩ := found_programWith services config program cache
  obtain ⟨otherDiagnostics, otherBodies⟩ := found_programWith services other program cache
  have asked : ∀ visit ∈ visits services config program,
      visit.Holds fun around => around.services = services ∧ around.config = config :=
    fun visit listed => asked_of_mem_visits listed
  have walked := relaxed_walkAll coded relaxes asked cache
  rw [← visits_under] at walked
  obtain ⟨_, found, _⟩ := walked
  refine ⟨?_, ?_⟩
  · rw [diagnostics, otherDiagnostics]
    exact found.diagnostics
  · rw [bodies, otherBodies]
    exact found.bodies

end Compile

/-! ### Sources -/

open Compile

/-- **The bodies that are recorded** when a source is compiled, whether or not an error is reported.
Of a source that cannot be read there are none. -/
def recordedBodies (config : Config) (source : String) : List TransformedBody :=
  match parse source with
  | .error _ => []
  | .ok program =>
      (programWith (Host.ofProgram program).collaborators config program {}).findings.bodies

/-- What comes of a source without errors are the recorded bodies. -/
theorem bodies_of_compile {config : Config} {source : String} {compilation : Compilation}
    (compiled : (compile config source).1 = .ok compilation) :
    compilation.bodies = recordedBodies config source := by
  unfold compile at compiled
  unfold recordedBodies
  cases parsed : parse source with
  | error error =>
      rw [parsed] at compiled
      cases compiled
  | ok program =>
      rw [parsed] at compiled
      have recorded := (diagnostics_programWith (Host.ofProgram program).collaborators config program
        {}).2 compilation compiled
      exact recorded.trans
        (found_programWith (Host.ofProgram program).collaborators config program {}).2.symm

/-- The diagnostics of a source are those that are found. -/
theorem diagnostics_compile (config : Config) (source : String) :
    (compile config source).1.diagnostics =
      match parse source with
      | .error error => [error.diagnostic]
      | .ok program =>
          (programWith (Host.ofProgram program).collaborators config program {}).findings.diagnostics := by
  unfold compile
  cases parse source with
  | error error => rfl
  | ok program =>
      exact (diagnostics_programWith (Host.ofProgram program).collaborators config program {}).1.trans
        (found_programWith (Host.ofProgram program).collaborators config program {}).1.symm

/-- **A source with fewer checks.** -/
theorem relaxed_compile {config other : Config} (relaxes : other.Relaxes config) (source : String) :
    Thinned (config.Drops other) other.Keeps (compile config source).1.diagnostics
        (compile other source).1.diagnostics ∧
      List.Forall₂ (TransformedBody.SameDecision (config.eitherEncoding = other.eitherEncoding))
        (recordedBodies config source) (recordedBodies other source) := by
  rw [diagnostics_compile, diagnostics_compile]
  unfold recordedBodies
  cases parse source with
  | error error =>
      have kept : other.Keeps error.diagnostic := by
        refine Config.keeps_of_code ?_
        show error.code ≠ DiagnosticCode.implicitSelfCapture.number
        cases error <;> simp [SyntaxError.code, DiagnosticCode.number]
      exact ⟨.stay kept .nil, .nil⟩
  | ok program =>
      obtain ⟨diagnostics, bodies⟩ :=
        relaxed_findings (Host.isCoded_collaborators (Host.ofProgram program)) relaxes program {}
      exact ⟨diagnostics, bodies⟩

/-- With the same encoding, bodies about which the same is decided are the same. -/
theorem eq_of_sameDecision {encoded : Prop} (holds : encoded) {bodies others : List TransformedBody}
    (same : List.Forall₂ (TransformedBody.SameDecision encoded) bodies others) :
    others = bodies := by
  induction same with
  | nil => rfl
  | @cons body other _ _ here _ ih =>
      obtain ⟨kind, builder, span, expansion⟩ := body
      obtain ⟨otherKind, otherBuilder, otherSpan, otherExpansion⟩ := other
      obtain ⟨rfl, rfl, rfl, expanded⟩ := here
      rw [ih]
      cases expanded with
      | built same => rw [same (.inl holds)]
      | verbatim => rfl

/-- **A configuration changes only what it names**, for every source.

Another encoding of alternatives changes no diagnostic, and the same bodies are recorded, of the same
kinds, at the same places, for the same builders, each transformed with both encodings or left as it
is with both; one that is transformed to an expression in which no `switch` has more than two cases
is transformed to the same, with the same shape. The first of the two is looked at for that, so that
the two encodings can be exchanged.

Without the check of captures the same bodies are recorded with the same expansions, and all
diagnostics but those about captures are the same, in the same order.

Without the check of how expressions are used the same bodies are recorded with the same expansions,
and no diagnostics are lost but some about generic parameters that are not known and about improper
uses. -/
theorem compile_configured (source : String) (config : Config) :
    (∀ encoding,
      (compile (config.withEncoding encoding) source).1.diagnostics =
          (compile config source).1.diagnostics ∧
        List.Forall₂ (TransformedBody.SameDecision (config.eitherEncoding = encoding))
          (recordedBodies config source)
          (recordedBodies (config.withEncoding encoding) source)) ∧
    (recordedBodies config.withoutCaptures source = recordedBodies config source ∧
      (compile config.withoutCaptures source).1.diagnostics =
        (compile config source).1.diagnostics.filter
          (·.code != DiagnosticCode.implicitSelfCapture.number)) ∧
    recordedBodies config.withoutSyntacticUses source = recordedBodies config source ∧
      (compile config.withoutSyntacticUses source).1.diagnostics.Sublist
        (compile config source).1.diagnostics ∧
      (compile config.withoutSyntacticUses source).1.diagnostics.filter
          (fun diagnostic => diagnostic.code != DiagnosticCode.unresolvedGeneric.number &&
            diagnostic.code != DiagnosticCode.syntacticUse.number) =
        (compile config source).1.diagnostics.filter
          (fun diagnostic => diagnostic.code != DiagnosticCode.unresolvedGeneric.number &&
            diagnostic.code != DiagnosticCode.syntacticUse.number) := by
  refine ⟨fun encoding => ?_, ?_, ?_⟩
  · have relaxes : (config.withEncoding encoding).Relaxes config := ⟨id, id⟩
    obtain ⟨thinned, bodies⟩ := relaxed_compile relaxes source
    -- both configurations make the same checks, so that nothing can be lost
    have never (diagnostic : Diagnostic) :
        ¬ config.Drops (config.withEncoding encoding) diagnostic := by
      rintro (⟨differ, _⟩ | ⟨differ, _⟩) <;> exact differ rfl
    exact ⟨thinned.eq_of_never never, bodies⟩
  · have relaxes : config.withoutCaptures.Relaxes config := ⟨id, nofun⟩
    obtain ⟨thinned, bodies⟩ := relaxed_compile relaxes source
    refine ⟨eq_of_sameDecision rfl bodies, thinned.eq_filter ?_ ?_⟩
    · rintro diagnostic (⟨differ, _⟩ | ⟨_, code⟩)
      · exact absurd rfl differ
      · simp [code]
    · rintro diagnostic (checks | code)
      · cases checks
      · simpa using code
  · have relaxes : config.withoutSyntacticUses.Relaxes config := ⟨nofun, id⟩
    obtain ⟨thinned, bodies⟩ := relaxed_compile relaxes source
    refine ⟨eq_of_sameDecision rfl bodies, thinned.sublist, thinned.filter_eq ?_⟩
    rintro diagnostic (⟨_, code | code⟩ | ⟨differ, _⟩)
    · simp [code]
    · simp [code]
    · exact absurd rfl differ

end ResultBuilder
