import ResultBuilder.Proofs.Synthesis.Outcome

/-!
# The value of a transformed body

Once leaf expressions, the missing value and the operations of a builder are given a meaning, a
synthesized expression has a value, and so has a body that is read directly: a block joins the
values of its statements, an `if` wraps the value of the branch that its conditions pick, and a
`switch` wraps the value of the chosen case along the path of the case. Transforming a body keeps
this value: `value_of_transform`.

* **`Interpretation Value`**: the meanings, in any carrier of values.
* **`Interpretation.eval`**: the value of a synthesized expression.
* **`Interpretation.blockValue?`**: the value of a block as it is read directly. There is none where
  the builder lacks an operation or a statement can never become a value.
-/

namespace ResultBuilder

open Syntax Transform Journaled

universe u

/-- **What the parts of a synthesized expression mean.** Conditions and cases are told apart by
how they are written, places included. -/
structure Interpretation (Value : Type u) where
  /-- The values of the expressions of a body. -/
  leaf : Expr → Value
  /-- The missing value. -/
  missing : Value
  /-- What an operation makes of its arguments. -/
  operation : Capability → String → Option String → List Value → Value
  /-- Whether all of some conditions hold. -/
  holds : List Condition → Bool
  /-- Which of the cases of a `switch` is taken. -/
  chosen : Expr → List CaseLabel → Nat
  /-- The value of a `switch` that has no case at the chosen place. -/
  unmatched : Value

namespace Interpretation

variable {Value : Type u} (I : Interpretation Value)

/-- What an operation of a builder makes of its arguments. -/
def call (operation : Operation) (args : List Value) : Value :=
  I.operation operation.capability operation.name operation.label args

/-- The value of a `switch`, given those of its cases. -/
def choose (subject : Expr) (labels : List CaseLabel) (values : List Value) : Value :=
  (values[I.chosen subject labels]?).getD I.unmatched

/-! ### Synthesized expressions -/

mutual

/-- The value of a synthesized expression. -/
def eval : Synthesized → Value
  | .leaf expr => I.leaf expr
  | .call ⟨_, capability, name, label, args, _⟩ =>
      I.operation capability name label (evalAll args)
  | .conditional conditions thenValue elseValue =>
      if I.holds conditions then eval thenValue else eval elseValue
  | .switch subject arms => I.choose subject (arms.map (·.label)) (evalArms arms)
  | .nil => I.missing

/-- The values of synthesized expressions. -/
def evalAll : List Synthesized → List Value
  | [] => []
  | value :: rest => eval value :: evalAll rest

/-- The values for the cases of a `switch`. -/
def evalArms : List Arm → List Value
  | [] => []
  | ⟨_, value⟩ :: rest => eval value :: evalArms rest

end

theorem evalAll_eq_map (values : List Synthesized) : I.evalAll values = values.map I.eval := by
  induction values with
  | nil => rfl
  | cons value rest inductionHypothesis => rw [evalAll, inductionHypothesis, List.map_cons]

theorem evalArms_eq_map (arms : List Arm) :
    I.evalArms arms = arms.map fun arm => I.eval arm.value := by
  induction arms with
  | nil => rfl
  | cons arm rest inductionHypothesis =>
      obtain ⟨label, value⟩ := arm
      rw [evalArms, inductionHypothesis, List.map_cons]

/-- The value of a transformed part of a body. -/
def value (built : Built) : Value :=
  I.eval built.expr

/-! ### Bodies read directly -/

section Reading

variable (descriptor : Descriptor) (encoding : EitherEncoding)

/-- The values of a block joined by the operation for so many values. -/
def joined? (values : List Value) : Option Value :=
  (descriptor.blockJoin? values.length).map fun operation => I.call operation values

/-- A value wrapped along a path of alternatives, the outermost of which comes first. -/
def wrappedAlong? (value : Value) : List Branch → Option Value
  | [] => some value
  | branch :: rest =>
      descriptor.either?.bind fun operations =>
        (wrappedAlong? value rest).map fun inner =>
          match branch with
          | .first => I.call operations.1 [inner]
          | .second => I.call operations.2 [inner]

/-- The value of a `do` block, which is wrapped where the builder has an operation for it. -/
def doValue (inner : Value) : Value :=
  match descriptor.doWrap with
  | some operation => I.call operation [inner]
  | none => inner

/-- The value of a `switch`, given those of its cases: that of the chosen case, wrapped along the
path of the case. -/
def switchValue? (subject : Expr) (labels : List CaseLabel) (values : List (Option Value)) :
    Option Value :=
  let index := I.chosen subject labels
  match values[index]?, (eitherPaths values.length encoding)[index]? with
  | some value?, some path => value?.bind fun value => I.wrappedAlong? descriptor value path
  | _, _ => some I.unmatched

mutual

/-- **The value of a block**: those of its statements in their order, joined. -/
def blockValue? : Block → Option Value
  | ⟨_, statements⟩ => (valuesOf? statements).bind (I.joined? descriptor)

/-- The values of statements, in their order. -/
def valuesOf? : List Statement → Option (List Value)
  | [] => some []
  | statement :: rest =>
      (contribution? statement).bind fun first => (valuesOf? rest).map fun others => first ++ others

/-- What a statement adds to the values of its block: one value, or none for a directive. A
statement that can never become a value has no meaning. -/
def contribution? : Statement → Option (List Value)
  | .expression expr | .returning _ _ (some expr) => some [I.leaf expr]
  | .directive _ | .returning _ _ none => some []
  | .conditional node => (conditionalValue? node).map ([·])
  | .switch ⟨_, subject, cases⟩ =>
      (I.switchValue? descriptor encoding subject (cases.map (·.label)) (caseValues cases)).map
        ([·])
  | .doBlock _ body => (blockValue? body).map fun inner => [I.doValue descriptor inner]
  | .declaration _ | .loop _ | .fallthrough _ | .jump _ _ => none

/-- The value of an `if` statement: that of the branch that its conditions pick, wrapped as a value
that may be missing or as one of two alternatives. -/
def conditionalValue? : Conditional → Option Value
  | ⟨_, conditions, thenBlock, none⟩ =>
      descriptor.optionalWrap.bind fun operation =>
        if I.holds conditions then
          (blockValue? thenBlock).map fun inner => I.call operation [inner]
        else some (I.call operation [I.missing])
  | ⟨_, conditions, thenBlock, some otherwise⟩ =>
      descriptor.either?.bind fun operations =>
        if I.holds conditions then
          (blockValue? thenBlock).map fun inner => I.call operations.1 [inner]
        else (alternativeValue? otherwise).map fun inner => I.call operations.2 [inner]

/-- The value of what is done otherwise. A chained `if` is the only statement of a block of its
own. -/
def alternativeValue? : Syntax.Alternative → Option Value
  | .block node => blockValue? node
  | .chained node => (conditionalValue? node).bind fun value => I.joined? descriptor [value]

/-- The values of the blocks of cases. -/
def caseValues : List SwitchCase → List (Option Value)
  | [] => []
  | ⟨_, _, body⟩ :: rest => blockValue? body :: caseValues rest

end

end Reading

/-! ### Values of what is built -/

section Building

variable {setting : Setting} {operations : Operation × Operation}

/-- Joined values are the arguments of the operation. -/
theorem value_join (operation : Operation) (parts : List Built) (origin : Span) :
    I.value (join setting operation parts origin) = I.call operation (parts.map I.value) := by
  rw [value, join, Transform.call, eval, evalAll_eq_map, List.map_map]
  rfl

/-- A wrapped value is the argument of the wrapper. -/
theorem value_wrap (operation : Operation) (built : Built) (origin : Span) :
    I.value (wrap setting operation built origin) = I.call operation [I.value built] :=
  I.value_join operation [built] origin

/-- The value of a `do` block is wrapped where the builder can. -/
theorem value_doWrapped (origin : Span) (built : Built) :
    I.value (doWrapped setting origin built) = I.doValue setting.descriptor (I.value built) := by
  rw [doWrapped, doValue]
  cases setting.descriptor.doWrap with
  | none => rfl
  | some operation => exact I.value_wrap operation built origin

/-- The value of an `if` without `else` is wrapped whether or not its conditions hold. -/
theorem value_optional (operation : Operation) (conditions : List Condition) (built : Built)
    (origin : Span) :
    I.value (optional setting operation conditions built origin) =
      if I.holds conditions then I.call operation [I.value built]
      else I.call operation [I.missing] := by
  rw [value, Transform.optional, eval]
  rfl

/-- The value of an `if` with `else` is that of a branch, wrapped as the alternative it is. -/
theorem value_alternatives (conditions : List Condition) (first second : Built) (origin : Span) :
    I.value (alternatives setting operations conditions first second origin) =
      if I.holds conditions then I.call operations.1 [I.value first]
      else I.call operations.2 [I.value second] := by
  rw [value, alternatives, eval, ← value, ← value, value_wrap, value_wrap]

/-- Wrapping along a path commutes with taking values. -/
theorem wrappedAlong?_value (either : setting.descriptor.either? = some operations)
    (origin : Span) (path : List Branch) (built : Built) :
    I.wrappedAlong? setting.descriptor (I.value built) path =
      some (I.value (wrapAlong setting operations origin path built)) := by
  induction path with
  | nil => rfl
  | cons branch rest inductionHypothesis =>
      rw [wrappedAlong?, either, Option.bind_some, inductionHypothesis, Option.map_some]
      cases branch with
      | first => rw [wrapAlong_cons_first, value_wrap]
      | second => rw [wrapAlong_cons_second, value_wrap]

/-- The value of a `switch` is chosen among the values of its cases. -/
theorem value_chooseCase {cases : List SwitchCase} {arms : List Built} (subject : Expr)
    (sameLength : arms.length = cases.length) :
    I.value (chooseCase subject cases arms) =
      I.choose subject (cases.map (·.label)) (arms.map I.value) := by
  rw [value, chooseCase, eval, evalArms_eq_map, List.map_map, List.map_map]
  show I.choose subject ((cases.zip arms).map (SwitchCase.label ∘ Prod.fst))
    ((cases.zip arms).map (I.value ∘ Prod.snd)) = _
  rw [← List.map_map, ← List.map_map, List.map_fst_zip (Nat.le_of_eq sameLength.symm),
    List.map_snd_zip (Nat.le_of_eq sameLength)]

/-- The case at a place is wrapped along the path at that place. -/
theorem getElem?_wrapCases {cases : List SwitchCase} {arms : List Built} {index : Nat}
    {switchCase : SwitchCase} {arm : Built} {path : List Branch}
    (atCase : cases[index]? = some switchCase) (atArm : arms[index]? = some arm)
    (atPath : (eitherPaths arms.length setting.config.eitherEncoding)[index]? = some path) :
    (wrapCases setting (some operations) cases arms)[index]? =
      some (wrapAlong setting operations switchCase.span path arm) := by
  rw [wrapCases, List.getElem?_map]
  have zipped : ((cases.zip arms).zip
      (eitherPaths arms.length setting.config.eitherEncoding))[index]? =
        some ((switchCase, arm), path) := by
    rw [List.getElem?_zip_eq_some, List.getElem?_zip_eq_some]
    exact ⟨⟨atCase, atArm⟩, atPath⟩
  rw [zipped]
  rfl

/-- A single case needs no alternatives. -/
theorem eitherPaths_of_le_one {count : Nat} (few : count ≤ 1) (encoding : EitherEncoding) :
    eitherPaths count encoding = List.replicate count [] := by
  cases encoding with
  | balanced => rw [eitherPaths, balancedPaths, if_pos few]
  | rightNested =>
      rcases Nat.le_one_iff_eq_zero_or_eq_one.mp few with rfl | rfl <;> rfl

/-- The value of a `switch` with several cases is chosen among the wrapped values. -/
theorem switchValue?_of_wrapCases {cases : List SwitchCase} {arms : List Built} (subject : Expr)
    (labels : List CaseLabel) (either : setting.descriptor.either? = some operations)
    (sameLength : arms.length = cases.length) :
    I.switchValue? setting.descriptor setting.config.eitherEncoding subject labels
        (arms.map fun arm => some (I.value arm)) =
      some (I.choose subject labels
        ((wrapCases setting (some operations) cases arms).map I.value)) := by
  rw [switchValue?, choose, List.length_map, List.getElem?_map, List.getElem?_map]
  by_cases inside : I.chosen subject labels < arms.length
  · have atArm := List.getElem?_eq_getElem inside
    have atCase := List.getElem?_eq_getElem (sameLength ▸ inside)
    have atPath := List.getElem?_eq_getElem (l := eitherPaths arms.length
      setting.config.eitherEncoding) (by rw [length_eitherPaths]; exact inside)
    rw [getElem?_wrapCases atCase atArm atPath, atArm, atPath]
    exact I.wrappedAlong?_value either _ _ _
  · have noArm := List.getElem?_eq_none (Nat.le_of_not_lt inside)
    have noWrapped : (wrapCases setting (some operations) cases arms)[I.chosen subject labels]? =
        none :=
      List.getElem?_eq_none (by rw [length_wrapCases sameLength]; exact Nat.le_of_not_lt inside)
    rw [noArm, noWrapped]
    rfl

/-- The value of a `switch` with at most one case is that of the case. -/
theorem switchValue?_of_le_one {arms : List Built} (subject : Expr) (labels : List CaseLabel)
    (few : arms.length ≤ 1) :
    I.switchValue? setting.descriptor setting.config.eitherEncoding subject labels
        (arms.map fun arm => some (I.value arm)) =
      some (I.choose subject labels (arms.map I.value)) := by
  rw [switchValue?, choose, List.length_map, List.getElem?_map, List.getElem?_map,
    eitherPaths_of_le_one few]
  by_cases inside : I.chosen subject labels < arms.length
  · rw [List.getElem?_eq_getElem inside, List.getElem?_replicate_of_lt inside]
    rfl
  · rw [List.getElem?_eq_none (Nat.le_of_not_lt inside)]
    rfl

end Building

/-! ### Transforming keeps the value -/

section Preservation

variable {setting : Setting}

mutual

/-- A transformed block has the value of the block. -/
theorem blockValue?_of_block : ∀ {body : Block} {built : Built},
    (block setting body).outcome = .ok built →
      I.blockValue? setting.descriptor setting.config.eitherEncoding body = some (I.value built)
  | ⟨_, statements⟩, built, succeeded => by
      obtain ⟨checked, operation, found, parts, ran, rfl⟩ := block_eq_ok_iff.mp succeeded
      have values := valuesOf?_of_components (checkAll_eq_ok_iff.mp checked) ran
      have count := length_of_components checked ran
      rw [blockValue?, values, Option.bind_some, joined?, List.length_map, count, found,
        value_join]
      rfl

/-- The values of transformed statements are those of the statements. -/
theorem valuesOf?_of_components : ∀ {statements : List Statement} {parts : List Built},
    (∀ statement ∈ statements, check setting statement = .ok ()) →
    (components setting statements).outcome = .ok parts →
      I.valuesOf? setting.descriptor setting.config.eitherEncoding statements =
        some (parts.map I.value)
  | [], parts, _, succeeded => by
      rw [outcome_components_nil, Except.ok.injEq] at succeeded
      rw [← succeeded]
      rfl
  | statement :: rest, parts, checked, succeeded => by
      obtain ⟨first, ranFirst, others, ranRest, rfl⟩ := components_cons_eq_ok_iff.mp succeeded
      obtain ⟨ofFirst, ofRest⟩ := List.forall_mem_cons.mp checked
      rw [valuesOf?, contribution?_of_component ofFirst ranFirst,
        valuesOf?_of_components ofRest ranRest, List.map_append]
      rfl

/-- A transformed statement adds the values that the statement adds. -/
theorem contribution?_of_component : ∀ {statement : Statement} {first : Option Built},
    check setting statement = .ok () →
    (component setting statement).outcome = .ok first →
      I.contribution? setting.descriptor setting.config.eitherEncoding statement =
        some (first.toList.map I.value)
  | .expression expr, first, _, succeeded | .returning _ _ (some expr), first, _, succeeded => by
      rw [component, outcome_map_eq_ok_iff] at succeeded
      obtain ⟨inner, ran, rfl⟩ := succeeded
      rw [outcome_leaf, Except.ok.injEq] at ran
      rw [← ran]
      rfl
  | .directive _, first, _, succeeded | .returning _ _ none, first, _, succeeded => by
      rw [component, outcome_pure, Except.ok.injEq] at succeeded
      rw [← succeeded]
      rfl
  | .conditional node, first, _, succeeded => by
      rw [component, outcome_map_eq_ok_iff] at succeeded
      obtain ⟨inner, ran, rfl⟩ := succeeded
      rw [contribution?, conditionalValue?_of_conditional ran]
      rfl
  | .switch ⟨span, subject, cases⟩, first, _, succeeded => by
      rw [component, outcome_map_eq_ok_iff] at succeeded
      obtain ⟨inner, ran, rfl⟩ := succeeded
      obtain ⟨arms, ranCases, built⟩ := switch_eq_ok_iff.mp ran
      have sameLength := length_of_caseBodies ranCases
      rw [contribution?, caseValues_of_caseBodies ranCases]
      rcases built with ⟨_, operations, either, rfl⟩ | ⟨few, rfl⟩
      · rw [I.switchValue?_of_wrapCases subject _ either sameLength]
        have wrapped : (wrapCases setting (some operations) cases arms).length = cases.length :=
          (length_wrapCases sameLength).trans sameLength
        rw [← I.value_chooseCase subject wrapped]
        rfl
      · rw [I.switchValue?_of_le_one subject _ (Nat.le_of_not_lt few),
          ← I.value_chooseCase subject sameLength]
        rfl
  | .doBlock span body, first, _, succeeded => by
      obtain ⟨inner, ran, rfl⟩ := component_doBlock_eq_ok_iff.mp succeeded
      rw [contribution?, blockValue?_of_block ran, Option.map_some, ← I.value_doWrapped span]
      rfl
  | .declaration _, _, checked, _ | .loop _, _, checked, _ | .fallthrough _, _, checked, _
  | .jump _ _, _, checked, _ =>
      absurd rfl (form_ne_rejected_of_check checked)

/-- A transformed `if` statement has the value of the statement. -/
theorem conditionalValue?_of_conditional : ∀ {node : Conditional} {built : Built},
    (conditional setting node).outcome = .ok built →
      I.conditionalValue? setting.descriptor setting.config.eitherEncoding node =
        some (I.value built)
  | ⟨_, conditions, thenBlock, none⟩, built, succeeded => by
      obtain ⟨inner, ran, operation, found, rfl⟩ := conditional_eq_ok_iff.mp succeeded
      rw [conditionalValue?, found, Option.bind_some, blockValue?_of_block ran, value_optional]
      cases I.holds conditions <;> rfl
  | ⟨_, conditions, thenBlock, some otherwise⟩, built, succeeded => by
      obtain ⟨first, ranFirst, operations, found, second, ranSecond, rfl⟩ :=
        conditional_else_eq_ok_iff.mp succeeded
      rw [conditionalValue?, found, Option.bind_some, blockValue?_of_block ranFirst,
        alternativeValue?_of_alternative ranSecond, value_alternatives]
      cases I.holds conditions <;> rfl

/-- What is done otherwise, transformed, has the value of what is done. -/
theorem alternativeValue?_of_alternative : ∀ {otherwise : Syntax.Alternative} {built : Built},
    (alternative setting otherwise).outcome = .ok built →
      I.alternativeValue? setting.descriptor setting.config.eitherEncoding otherwise =
        some (I.value built)
  | .block node, built, succeeded => by
      rw [alternative] at succeeded
      rw [alternativeValue?, blockValue?_of_block succeeded]
  | .chained node, built, succeeded => by
      obtain ⟨_, operation, found, inner, ran, rfl⟩ := alternative_chained_eq_ok_iff.mp succeeded
      rw [alternativeValue?, conditionalValue?_of_conditional ran, Option.bind_some, joined?,
        List.length_singleton, found, value_join]
      rfl

/-- The values of transformed cases are those of the cases. -/
theorem caseValues_of_caseBodies : ∀ {cases : List SwitchCase} {arms : List Built},
    (caseBodies setting cases).outcome = .ok arms →
      I.caseValues setting.descriptor setting.config.eitherEncoding cases =
        arms.map fun arm => some (I.value arm)
  | [], arms, succeeded => by
      rw [outcome_caseBodies_nil, Except.ok.injEq] at succeeded
      rw [← succeeded]
      rfl
  | ⟨_, _, body⟩ :: rest, arms, succeeded => by
      obtain ⟨first, ranFirst, others, ranRest, rfl⟩ := caseBodies_cons_eq_ok_iff.mp succeeded
      rw [caseValues, blockValue?_of_block ranFirst, caseValues_of_caseBodies ranRest,
        List.map_cons]

end

end Preservation

end Interpretation

/-- **Transforming a body keeps its value.** Whatever leaf expressions, the missing value and the
operations mean, however conditions and cases are decided: when a body is transformed, the
synthesized expression has the value of the body as it is read directly. -/
theorem value_of_transform {Value : Type u} (I : Interpretation Value) (setting : Setting)
    (body : Block) (built : Built) (transformed : (transform setting body).result = .built built) :
    I.blockValue? setting.descriptor setting.config.eitherEncoding body =
      some (I.eval built.expr) := by
  obtain ⟨_, _, succeeded⟩ := transform_eq_built_iff.mp transformed
  exact I.blockValue?_of_block succeeded

/-! ### A body with every kind of value -/

namespace Interpretation

/-- A builder that joins any number of values and has all of the wrappers. -/
def completeBuilder : Descriptor where
  builder := ⟨"B", .structType, ⟨0, 1⟩⟩
  variadicBlock := some ⟨.blockJoin, "buildBlock", [.hole], true, [], .hole, ⟨2, 3⟩⟩
  optionalWrap := some ⟨.optionalWrap, "buildOptional", [.hole], false, [], .hole, ⟨3, 4⟩⟩
  eitherFirst := some ⟨.eitherFirst, "buildEither", [.hole], false, [], .hole, ⟨4, 5⟩⟩
  eitherSecond := some ⟨.eitherSecond, "buildEither", [.hole], false, [], .hole, ⟨5, 6⟩⟩
  doWrap := some ⟨.doWrap, "buildDo", [.hole], false, [], .hole, ⟨6, 7⟩⟩

/-- The setting of a closure for that builder, which nests the cases of a `switch` to the right. -/
def completeSetting : Setting where
  descriptor := completeBuilder
  services := .permissive
  context := { kind := .closure, span := ⟨0, 90⟩ }
  config := { eitherEncoding := .rightNested }

/-- A name at a place. -/
def nameAt (start : Nat) : Expr :=
  .ident ⟨start, start + 1⟩ "x"

/-- A block of a name at a place. -/
def blockAt (start : Nat) : Block :=
  ⟨⟨start, start + 1⟩, [.expression (nameAt start)]⟩

/-- A body with every kind of statement that can become a value, and a directive. -/
def branchingBody : Block :=
  ⟨⟨0, 90⟩, [
    .directive ⟨⟨1, 9⟩, .warning, "", ⟨2, 8⟩⟩,
    .expression (nameAt 10),
    .conditional ⟨⟨20, 29⟩, [.expression (nameAt 20)], blockAt 21,
      some (.chained ⟨⟨22, 29⟩, [.expression (nameAt 22)], blockAt 23, none⟩)⟩,
    .switch ⟨⟨30, 39⟩, nameAt 30, [
      ⟨⟨31, 32⟩, .default, blockAt 31⟩,
      ⟨⟨33, 34⟩, .default, blockAt 33⟩,
      ⟨⟨35, 36⟩, .default, blockAt 35⟩]⟩,
    .doBlock ⟨40, 49⟩ (blockAt 41)]⟩

/-- Values that list the operations and the places of names from the outside to the inside. Only
conditions at the place 22 hold, and the second case of a `switch` is chosen. -/
def outline : Interpretation (List Nat) where
  leaf expr := [expr.span.start]
  missing := [0]
  operation capability _ _ args :=
    (match capability with
      | .blockJoin => 101
      | .optionalWrap => 102
      | .eitherFirst => 103
      | .eitherSecond => 104
      | .doWrap => 105) :: args.flatten
  holds conditions := conditions.any (·.span.start == 22)
  chosen _ _ := 1
  unmatched := []

theorem value_of_branchingBody :
    ∃ built, (transform completeSetting branchingBody).result = .built built ∧
      outline.blockValue? completeBuilder .rightNested branchingBody =
        some (outline.eval built.expr) ∧
      outline.eval built.expr =
        [101, 10, 104, 101, 102, 101, 23, 104, 103, 101, 33, 105, 101, 41] := by
  refine ⟨_, rfl, ?_⟩
  exact ⟨value_of_transform outline completeSetting branchingBody _ rfl, rfl⟩

end Interpretation

end ResultBuilder
