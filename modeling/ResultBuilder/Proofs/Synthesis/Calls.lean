import ResultBuilder.Proofs.Builder.Recorded
import ResultBuilder.Proofs.Synthesis.Outcome

/-!
# The calls of a transformed body

Every call that a transform makes is one of an operation that the descriptor of the builder records,
on arguments that this operation takes. The shape of the call is computed by applying the operation
to the shapes of the arguments, and every one of them meets a template.

* **`Synthesized.WellFormed`**: a synthesized expression and its shape, built up from such calls.
* **`wellFormed_of_block`** and its companions: what a transform builds is well formed.
* **`BuilderCall.Applies`**, **`applies_of_wellFormed`**: what this says about a single call.
* **`applies_of_transform`**: every call in a transformed body applies an operation of the builder.
-/

namespace ResultBuilder

open Syntax Transform Journaled

/-! ### Well-formed expressions -/

mutual

/-- **A well-formed synthesized expression** with its shape. Nothing is said about the shapes of
leaves, which are not computed, nor about that of the missing value. -/
inductive Synthesized.WellFormed (descriptor : Descriptor) : Synthesized → Shape → Prop
  | leaf (expr : Expr) (shape : Shape) : WellFormed descriptor (.leaf expr) shape
  | nil (shape : Shape) : WellFormed descriptor .nil shape
  /-- A call of the operation that the descriptor has for so many arguments. Its shape is that of
  the operation, applied without passing an argument over. -/
  | call {node : BuilderCall} {operation : Operation} {shapes : List Shape} {shape : Shape}
      (builder_eq : node.builder = descriptor.builder.name)
      (chosen : descriptor.Chooses node.capability node.args.length operation)
      (name_eq : node.name = operation.name) (label_eq : node.label = operation.label)
      (args : Synthesized.AllWellFormed descriptor node.args shapes)
      (applied : operation.applyEach? shapes = some shape) :
      WellFormed descriptor (.call node) shape
  /-- A choice between two values has the shape of both or merges their shapes. -/
  | conditional {conditions : List Condition} {thenValue elseValue : Synthesized}
      {first second shape : Shape} (ofThen : WellFormed descriptor thenValue first)
      (ofElse : WellFormed descriptor elseValue second)
      (merged : shape = first ∧ shape = second ∨ shape = first.unify second) :
      WellFormed descriptor (.conditional conditions thenValue elseValue) shape
  /-- A choice between several values merges their shapes. -/
  | switch {subject : Expr} {arms : List Arm} {shapes : List Shape}
      (ofArms : Synthesized.AllWellFormed descriptor (arms.map (·.value)) shapes) :
      WellFormed descriptor (.switch subject arms) (shapes.foldl Shape.unify .hole)

/-- Well-formed synthesized expressions with their shapes, one by one. -/
inductive Synthesized.AllWellFormed (descriptor : Descriptor) :
    List Synthesized → List Shape → Prop
  | nil : AllWellFormed descriptor [] []
  | cons {value : Synthesized} {shape : Shape} {values : List Synthesized} {shapes : List Shape}
      (first : Synthesized.WellFormed descriptor value shape)
      (rest : AllWellFormed descriptor values shapes) :
      AllWellFormed descriptor (value :: values) (shape :: shapes)

end

namespace Synthesized

variable {descriptor : Descriptor}

/-- There is one shape for each expression. -/
theorem AllWellFormed.length_eq {values : List Synthesized} {shapes : List Shape}
    (wellFormed : AllWellFormed descriptor values shapes) : shapes.length = values.length := by
  induction values generalizing shapes with
  | nil =>
      cases wellFormed
      rfl
  | cons value rest inductionHypothesis =>
      cases wellFormed with
      | cons _ ofRest => rw [List.length_cons, List.length_cons, inductionHypothesis ofRest]

end Synthesized

/-! ### What is built -/

namespace Transform

/-- A built part is well formed when its expression is, with its shape. -/
abbrev Built.WellFormed (descriptor : Descriptor) (built : Built) : Prop :=
  built.expr.WellFormed descriptor built.shape

variable {setting : Setting}

/-- Built parts that are well formed each are well formed together. -/
theorem allWellFormed_map {parts : List Built}
    (wellFormed : ∀ part ∈ parts, part.WellFormed setting.descriptor) :
    Synthesized.AllWellFormed setting.descriptor (parts.map (·.expr)) (parts.map (·.shape)) := by
  induction parts with
  | nil => exact .nil
  | cons part rest inductionHypothesis =>
      obtain ⟨ofFirst, ofRest⟩ := List.forall_mem_cons.mp wellFormed
      exact .cons ofFirst (inductionHypothesis ofRest)

/-- **A join is well formed** when its operation is the one for so many values. -/
theorem wellFormed_join (sound : setting.descriptor.Sound) {capability : Capability}
    {operation : Operation} {parts : List Built} (origin : Span)
    (chosen : setting.descriptor.Chooses capability parts.length operation)
    (wellFormed : ∀ part ∈ parts, part.WellFormed setting.descriptor) :
    (join setting operation parts origin).WellFormed setting.descriptor := by
  have ofOperation : setting.descriptor.Chooses operation.capability
      (parts.map (·.expr)).length operation := by
    rw [chosen.capability_eq sound, List.length_map]
    exact chosen
  have applied : operation.applyEach? (parts.map (·.shape)) =
      some (operation.apply (parts.map (·.shape))) :=
    chosen.applyEach?_eq sound (List.length_map _)
  exact .call rfl ofOperation rfl rfl (allWellFormed_map wellFormed) applied

/-- A wrapped value is well formed when its wrapper is one of the builder. -/
theorem wellFormed_wrap (sound : setting.descriptor.Sound) {capability : Capability}
    {operation : Operation} {built : Built} (origin : Span)
    (chosen : setting.descriptor.Chooses capability 1 operation)
    (wellFormed : built.WellFormed setting.descriptor) :
    (wrap setting operation built origin).WellFormed setting.descriptor :=
  wellFormed_join sound origin chosen (by simpa using wellFormed)

/-- The value of a `do` block is well formed, wrapped or not. -/
theorem wellFormed_doWrapped (sound : setting.descriptor.Sound) {built : Built} (origin : Span)
    (wellFormed : built.WellFormed setting.descriptor) :
    (doWrapped setting origin built).WellFormed setting.descriptor := by
  unfold doWrapped
  cases found : setting.descriptor.doWrap with
  | none => exact wellFormed
  | some operation => exact wellFormed_wrap sound origin (.doWrap found) wellFormed

/-- A value wrapped along a path is well formed. -/
theorem wellFormed_wrapAlong (sound : setting.descriptor.Sound)
    {operations : Operation × Operation} (found : setting.descriptor.either? = some operations)
    {built : Built} (origin : Span) (wellFormed : built.WellFormed setting.descriptor)
    (path : List Branch) :
    (wrapAlong setting operations origin path built).WellFormed setting.descriptor := by
  obtain ⟨ofFirst, ofSecond⟩ := Descriptor.chooses_of_either? found
  induction path with
  | nil => exact wellFormed
  | cons branch rest inductionHypothesis =>
      cases branch with
      | first =>
          rw [wrapAlong_cons_first]
          exact wellFormed_wrap sound origin ofFirst inductionHypothesis
      | second =>
          rw [wrapAlong_cons_second]
          exact wellFormed_wrap sound origin ofSecond inductionHypothesis

/-- A value that may be missing is well formed: both of its calls have the shape of the wrapper. -/
theorem wellFormed_optional (sound : setting.descriptor.Sound) {operation : Operation}
    (found : setting.descriptor.optionalWrap = some operation) (conditions : List Condition)
    {built : Built} (origin : Span) (wellFormed : built.WellFormed setting.descriptor) :
    (Transform.optional setting operation conditions built origin).WellFormed
      setting.descriptor := by
  have chosen := Descriptor.Chooses.optionalWrap found
  -- the missing value is given the shape of the value that it stands in for
  have missing : Built.WellFormed setting.descriptor ⟨.nil, built.shape⟩ := .nil built.shape
  exact .conditional (wellFormed_wrap sound origin chosen wellFormed)
    (wellFormed_wrap sound origin chosen missing) (.inl ⟨rfl, rfl⟩)

/-- A choice between two alternatives is well formed. -/
theorem wellFormed_alternatives (sound : setting.descriptor.Sound)
    {operations : Operation × Operation} (found : setting.descriptor.either? = some operations)
    (conditions : List Condition) {first second : Built} (origin : Span)
    (ofFirst : first.WellFormed setting.descriptor)
    (ofSecond : second.WellFormed setting.descriptor) :
    (alternatives setting operations conditions first second origin).WellFormed
      setting.descriptor := by
  obtain ⟨chosenFirst, chosenSecond⟩ := Descriptor.chooses_of_either? found
  exact .conditional (wellFormed_wrap sound origin chosenFirst ofFirst)
    (wellFormed_wrap sound origin chosenSecond ofSecond) (.inr rfl)

/-- Cases wrapped along their paths are well formed. -/
theorem wellFormed_wrapCases (sound : setting.descriptor.Sound)
    {operations : Operation × Operation} (found : setting.descriptor.either? = some operations)
    (cases : List SwitchCase) {arms : List Built}
    (wellFormed : ∀ arm ∈ arms, arm.WellFormed setting.descriptor) :
    ∀ arm ∈ wrapCases setting (some operations) cases arms,
      arm.WellFormed setting.descriptor := by
  intro arm listed
  unfold wrapCases at listed
  obtain ⟨⟨⟨switchCase, value⟩, path⟩, zipped, rfl⟩ := List.mem_map.mp listed
  have ofValue : value ∈ arms := (List.of_mem_zip (List.of_mem_zip zipped).1).2
  exact wellFormed_wrapAlong sound found switchCase.span (wellFormed value ofValue) path

/-- A choice between the values of cases is well formed when there is a value for each case. -/
theorem wellFormed_chooseCase {cases : List SwitchCase} {arms : List Built} (subject : Expr)
    (sameLength : arms.length = cases.length)
    (wellFormed : ∀ arm ∈ arms, arm.WellFormed setting.descriptor) :
    (chooseCase subject cases arms).WellFormed setting.descriptor := by
  have values : ((cases.zip arms).map fun arm =>
      (⟨arm.1.label, arm.2.expr⟩ : Arm)).map (·.value) = arms.map (·.expr) := by
    rw [List.map_map]
    show (cases.zip arms).map (Built.expr ∘ Prod.snd) = _
    rw [← List.map_map, List.map_snd_zip (Nat.le_of_eq sameLength)]
  have merged : arms.foldl (fun shape value => shape.unify value.shape) .hole =
      (arms.map (·.shape)).foldl Shape.unify .hole := by
    rw [List.foldl_map]
  unfold chooseCase
  rw [Built.WellFormed, merged]
  refine .switch ?_
  rw [values]
  exact allWellFormed_map wellFormed

/-! ### What a transform builds -/

section Parts

variable (sound : setting.descriptor.Sound)
include sound
-- in a mutual block a hypothesis may only be needed through the other theorems
set_option linter.unusedSectionVars false

mutual

/-- **A transformed block is well formed.** -/
theorem wellFormed_of_block : ∀ {body : Block} {built : Built},
    (block setting body).outcome = .ok built → built.WellFormed setting.descriptor
  | ⟨_, statements⟩, built, succeeded => by
      obtain ⟨checked, operation, found, parts, ran, rfl⟩ := block_eq_ok_iff.mp succeeded
      -- the operation was looked for before the values were there; their number is the same
      have count := length_of_components checked ran
      have chosen : setting.descriptor.Chooses .blockJoin parts.length operation :=
        Descriptor.chooses_of_blockJoin? (count ▸ found)
      exact wellFormed_join sound _ chosen (wellFormed_of_components ran)

/-- The values of transformed statements are well formed. -/
theorem wellFormed_of_components : ∀ {statements : List Statement} {parts : List Built},
    (components setting statements).outcome = .ok parts →
      ∀ part ∈ parts, part.WellFormed setting.descriptor
  | [], parts, succeeded => by
      rw [outcome_components_nil, Except.ok.injEq] at succeeded
      rw [← succeeded]
      exact nofun
  | statement :: rest, parts, succeeded => by
      obtain ⟨first, ranFirst, others, ranRest, rfl⟩ := components_cons_eq_ok_iff.mp succeeded
      intro part listed
      rcases List.mem_append.mp listed with ofFirst | ofRest
      · exact wellFormed_of_component ranFirst part (Option.mem_toList.mp ofFirst)
      · exact wellFormed_of_components ranRest part ofRest

/-- The value of a transformed statement is well formed. -/
theorem wellFormed_of_component : ∀ {statement : Statement} {first : Option Built},
    (component setting statement).outcome = .ok first →
      ∀ part, first = some part → part.WellFormed setting.descriptor
  | .expression expr, first, succeeded, part, isPart
  | .returning _ _ (some expr), first, succeeded, part, isPart => by
      rw [component, outcome_map_eq_ok_iff] at succeeded
      obtain ⟨inner, ran, rfl⟩ := succeeded
      rw [outcome_leaf, Except.ok.injEq] at ran
      obtain rfl := Option.some.inj isPart
      rw [← ran]
      exact .leaf _ _
  | .conditional node, first, succeeded, part, isPart => by
      rw [component, outcome_map_eq_ok_iff] at succeeded
      obtain ⟨inner, ran, rfl⟩ := succeeded
      obtain rfl := Option.some.inj isPart
      exact wellFormed_of_conditional ran
  | .switch ⟨span, subject, cases⟩, first, succeeded, part, isPart => by
      rw [component, outcome_map_eq_ok_iff] at succeeded
      obtain ⟨inner, ran, rfl⟩ := succeeded
      obtain rfl := Option.some.inj isPart
      obtain ⟨arms, ranCases, built⟩ := switch_eq_ok_iff.mp ran
      have sameLength := length_of_caseBodies ranCases
      have ofArms := wellFormed_of_caseBodies ranCases
      rcases built with ⟨_, operations, either, rfl⟩ | ⟨_, rfl⟩
      · have wrapped : (wrapCases setting (some operations) cases arms).length = cases.length :=
          (length_wrapCases sameLength).trans sameLength
        exact wellFormed_chooseCase subject wrapped (wellFormed_wrapCases sound either cases ofArms)
      · exact wellFormed_chooseCase subject sameLength ofArms
  | .doBlock span body, first, succeeded, part, isPart => by
      obtain ⟨inner, ran, rfl⟩ := component_doBlock_eq_ok_iff.mp succeeded
      obtain rfl := Option.some.inj isPart
      exact wellFormed_doWrapped sound span (wellFormed_of_block ran)
  | .directive _, first, succeeded, part, isPart
  | .returning _ _ none, first, succeeded, part, isPart
  | .declaration _, first, succeeded, part, isPart | .loop _, first, succeeded, part, isPart
  | .fallthrough _, first, succeeded, part, isPart | .jump _ _, first, succeeded, part, isPart => by
      rw [component, outcome_pure, Except.ok.injEq] at succeeded
      rw [← succeeded] at isPart
      cases isPart

/-- A transformed `if` statement is well formed. -/
theorem wellFormed_of_conditional : ∀ {node : Conditional} {built : Built},
    (conditional setting node).outcome = .ok built → built.WellFormed setting.descriptor
  | ⟨_, conditions, thenBlock, none⟩, built, succeeded => by
      obtain ⟨inner, ran, operation, found, rfl⟩ := conditional_eq_ok_iff.mp succeeded
      exact wellFormed_optional sound found conditions _ (wellFormed_of_block ran)
  | ⟨_, conditions, thenBlock, some otherwise⟩, built, succeeded => by
      obtain ⟨first, ranFirst, operations, found, second, ranSecond, rfl⟩ :=
        conditional_else_eq_ok_iff.mp succeeded
      exact wellFormed_alternatives sound found conditions _ (wellFormed_of_block ranFirst)
        (wellFormed_of_alternative ranSecond)

/-- What is done otherwise, transformed, is well formed. -/
theorem wellFormed_of_alternative : ∀ {otherwise : Syntax.Alternative} {built : Built},
    (alternative setting otherwise).outcome = .ok built → built.WellFormed setting.descriptor
  | .block node, built, succeeded => by
      rw [alternative] at succeeded
      exact wellFormed_of_block succeeded
  | .chained node, built, succeeded => by
      obtain ⟨_, operation, found, inner, ran, rfl⟩ := alternative_chained_eq_ok_iff.mp succeeded
      have chosen : setting.descriptor.Chooses .blockJoin [inner].length operation :=
        Descriptor.chooses_of_blockJoin? found
      exact wellFormed_join sound _ chosen (by simpa using wellFormed_of_conditional ran)

/-- The values of transformed cases are well formed. -/
theorem wellFormed_of_caseBodies : ∀ {cases : List SwitchCase} {arms : List Built},
    (caseBodies setting cases).outcome = .ok arms →
      ∀ arm ∈ arms, arm.WellFormed setting.descriptor
  | [], arms, succeeded => by
      rw [outcome_caseBodies_nil, Except.ok.injEq] at succeeded
      rw [← succeeded]
      exact nofun
  | ⟨_, _, body⟩ :: rest, arms, succeeded => by
      obtain ⟨first, ranFirst, others, ranRest, rfl⟩ := caseBodies_cons_eq_ok_iff.mp succeeded
      exact List.forall_mem_cons.mpr
        ⟨wellFormed_of_block ranFirst, wellFormed_of_caseBodies ranRest⟩

end

end Parts

end Transform

/-! ### Single calls -/

/-- **A call that applies an operation** of a builder. -/
structure BuilderCall.Applies (descriptor : Descriptor) (call : BuilderCall)
    (operation : Operation) : Prop where
  /-- The call is one of the builder. -/
  builder_eq : call.builder = descriptor.builder.name
  /-- The operation is the one that the descriptor records for so many arguments: a join for just
  that number if there is one, and else the join for any number. -/
  chosen : descriptor.Chooses call.capability call.args.length operation
  /-- The operation is meant for the capability of the call. -/
  capability_eq : operation.capability = call.capability
  /-- The call names the operation. -/
  name_eq : call.name = operation.name
  /-- The operation accepts as many arguments. -/
  accepts : operation.accepts call.args.length = true
  /-- Whatever does not join values has exactly one argument. -/
  single : call.capability ≠ .blockJoin → call.args.length = 1
  /-- Exactly the first of two alternatives is labelled so. -/
  label_first_iff : call.label = some "first" ↔ call.capability = .eitherFirst
  /-- Exactly the second of two alternatives is labelled so. -/
  label_second_iff : call.label = some "second" ↔ call.capability = .eitherSecond
  /-- All other calls have no label. -/
  label_none_iff : call.label = none ↔
    call.capability ≠ .eitherFirst ∧ call.capability ≠ .eitherSecond
  /-- Every argument has a template among the parameters. -/
  templates : ∀ position < call.args.length, (operation.template? position).isSome
  /-- Applying the operation to the shapes of the arguments passes none of them over. -/
  applied : ∀ shapes : List Shape, shapes.length = call.args.length →
    operation.applyEach? shapes = some (operation.apply shapes)

namespace Synthesized

variable {descriptor : Descriptor} (sound : descriptor.Sound)
include sound
set_option linter.unusedSectionVars false

/-- A well-formed call applies the operation that it was built for. -/
theorem applies_of_chosen {node : BuilderCall} {operation : Operation}
    (builder_eq : node.builder = descriptor.builder.name)
    (chosen : descriptor.Chooses node.capability node.args.length operation)
    (name_eq : node.name = operation.name) (label_eq : node.label = operation.label) :
    node.Applies descriptor operation := by
  obtain ⟨accepts, templates⟩ := chosen.accepts sound
  have capability_eq := chosen.capability_eq sound
  have label : node.label = node.capability.label := by
    rw [label_eq, Operation.label, capability_eq]
  exact {
    builder_eq, chosen, capability_eq, name_eq, accepts, templates
    single := chosen.count_eq_one
    label_first_iff := by
      rw [label]
      cases node.capability <;> decide
    label_second_iff := by
      rw [label]
      cases node.capability <;> decide
    label_none_iff := by
      rw [label]
      cases node.capability <;> decide
    applied := fun _ sameLength => chosen.applyEach?_eq sound sameLength }

mutual

/-- **Every call in a well-formed expression applies an operation.** -/
theorem applies_of_wellFormed : ∀ {value : Synthesized} {shape : Shape},
    value.WellFormed descriptor shape →
      ∀ call ∈ value.calls, ∃ operation, call.Applies descriptor operation
  | .leaf _, _, _ | .nil, _, _ => by
      intro call listed
      rw [calls] at listed
      cases listed
  | .call ⟨builder, capability, name, label, args, origin⟩, _, .call builder_eq chosen name_eq
      label_eq ofArgs _ => by
      intro call listed
      rw [calls] at listed
      rcases List.mem_cons.mp listed with rfl | inside
      · exact ⟨_, applies_of_chosen sound builder_eq chosen name_eq label_eq⟩
      · exact applies_of_allWellFormed ofArgs call inside
  | .conditional _ thenValue elseValue, _, .conditional ofThen ofElse _ => by
      intro call listed
      rw [calls] at listed
      rcases List.mem_append.mp listed with inThen | inElse
      · exact applies_of_wellFormed ofThen call inThen
      · exact applies_of_wellFormed ofElse call inElse
  | .switch _ arms, _, .switch ofArms => by
      intro call listed
      rw [calls] at listed
      exact applies_of_arms ofArms call listed

/-- Every call in well-formed expressions applies an operation. -/
theorem applies_of_allWellFormed : ∀ {values : List Synthesized} {shapes : List Shape},
    AllWellFormed descriptor values shapes →
      ∀ call ∈ allCalls values, ∃ operation, call.Applies descriptor operation
  | [], _, _ => by
      intro call listed
      rw [allCalls] at listed
      cases listed
  | value :: rest, _, .cons ofFirst ofRest => by
      intro call listed
      rw [allCalls] at listed
      rcases List.mem_append.mp listed with inFirst | inRest
      · exact applies_of_wellFormed ofFirst call inFirst
      · exact applies_of_allWellFormed ofRest call inRest

/-- Every call in the well-formed values for cases applies an operation. -/
theorem applies_of_arms : ∀ {arms : List Arm} {shapes : List Shape},
    AllWellFormed descriptor (arms.map (·.value)) shapes →
      ∀ call ∈ Arm.allCalls arms, ∃ operation, call.Applies descriptor operation
  | [], _, _ => by
      intro call listed
      rw [Arm.allCalls] at listed
      cases listed
  | ⟨_, value⟩ :: rest, _, .cons ofFirst ofRest => by
      intro call listed
      rw [Arm.allCalls] at listed
      rcases List.mem_append.mp listed with inFirst | inRest
      · exact applies_of_wellFormed ofFirst call inFirst
      · exact applies_of_arms ofRest call inRest

end

end Synthesized

/-! ### Bodies -/

/-- **Every call in a transformed body applies an operation of the builder.** For every builder that
resolves and every body that is transformed, the synthesized expression is well formed with its
shape, and each call in it is one of a recorded operation on arguments that this operation takes,
labelled as its capability says, with a template for each argument. -/
theorem applies_of_transform {decl : TypeDecl} {setting : Setting} {body : Block} {built : Built}
    (resolved : Descriptor.resolve decl = .ok setting.descriptor)
    (transformed : (transform setting body).result = .built built) :
    built.expr.WellFormed setting.descriptor built.shape ∧
      ∀ call ∈ built.expr.calls, ∃ operation, call.Applies setting.descriptor operation := by
  have sound := Descriptor.sound_of_resolve resolved
  obtain ⟨_, _, succeeded⟩ := transform_eq_built_iff.mp transformed
  have wellFormed := wellFormed_of_block sound succeeded
  exact ⟨wellFormed, Synthesized.applies_of_wellFormed sound wellFormed⟩

/-! ### A builder with every operation -/

namespace BuilderCall

/-- A static function of a builder for parameters with given labels, each of the type `T`. -/
def operationDecl (name : String) (labels : List (Option String)) (isVariadic : Bool) :
    FunctionDecl where
  span := ⟨0, 1⟩
  attributes := []
  isStatic := true
  name := ⟨⟨0, 1⟩, name⟩
  generics := []
  params := labels.map fun label =>
    ⟨⟨0, 1⟩, [], label.map (⟨⟨0, 1⟩, ·⟩), ⟨⟨0, 1⟩, "value"⟩, .named ⟨0, 1⟩ "T" [], isVariadic⟩
  result := some (.named ⟨0, 1⟩ "T" [])
  body := none

/-- A builder that joins two values by a function of their own and all other numbers of values by
another, and that has every wrapper. -/
def versatileType : TypeDecl where
  span := ⟨0, 1⟩
  attributes := [⟨⟨0, 1⟩, "resultBuilder"⟩]
  kind := .structType
  name := ⟨⟨0, 1⟩, "B"⟩
  generics := []
  members := [
    .function (operationDecl "buildBlock" [none] true),
    .function (operationDecl "buildBlock" [none, none] false),
    .function (operationDecl "buildIf" [none] false),
    .function (operationDecl "buildEither" [some "first"] false),
    .function (operationDecl "buildEither" [some "second"] false),
    .function (operationDecl "buildDo" [none] false)]

/-- A setting for that builder. -/
def versatileSetting : Setting where
  descriptor := Descriptor.recordAll { builder := .ofDecl versatileType } versatileType.functions
  services := .permissive
  context := { kind := .closure, span := ⟨0, 90⟩ }
  config := { eitherEncoding := .rightNested }

/-- A block of a name. -/
def nameBlock : Block :=
  ⟨⟨0, 1⟩, [.expression (.ident ⟨0, 1⟩ "x")]⟩

/-- A body of a directive and two statements with a value: an `if` with a chained `if`, and a
`switch` of three cases with a `do` block in one of them. -/
def mixedBody : Block :=
  ⟨⟨0, 90⟩, [
    .directive ⟨⟨1, 9⟩, .warning, "", ⟨2, 8⟩⟩,
    .conditional ⟨⟨20, 29⟩, [.expression (.ident ⟨20, 21⟩ "x")], nameBlock,
      some (.chained ⟨⟨22, 29⟩, [.expression (.ident ⟨22, 23⟩ "x")], nameBlock, none⟩)⟩,
    .switch ⟨⟨30, 39⟩, .ident ⟨30, 31⟩ "x", [
      ⟨⟨31, 32⟩, .default, nameBlock⟩,
      ⟨⟨33, 34⟩, .default, ⟨⟨33, 34⟩, [.doBlock ⟨33, 34⟩ nameBlock]⟩⟩,
      ⟨⟨35, 36⟩, .default, nameBlock⟩]⟩]⟩

theorem applies_of_mixedBody :
    Descriptor.resolve versatileType = .ok versatileSetting.descriptor ∧
      ∃ built, (transform versatileSetting mixedBody).result = .built built ∧
        (built.expr.WellFormed versatileSetting.descriptor built.shape ∧
          ∀ call ∈ built.expr.calls,
            ∃ operation, call.Applies versatileSetting.descriptor operation) ∧
        built.expr.calls.map (fun call => (call.capability, call.args.length)) =
          [(.blockJoin, 2), (.eitherFirst, 1), (.blockJoin, 1), (.eitherSecond, 1), (.blockJoin, 1),
            (.optionalWrap, 1), (.blockJoin, 1), (.optionalWrap, 1),
            (.eitherFirst, 1), (.blockJoin, 1),
            (.eitherSecond, 1), (.eitherFirst, 1), (.blockJoin, 1), (.doWrap, 1), (.blockJoin, 1),
            (.eitherSecond, 1), (.eitherSecond, 1), (.blockJoin, 1)] := by
  have resolved : Descriptor.resolve versatileType = .ok versatileSetting.descriptor := rfl
  refine ⟨resolved, _, rfl, ?_, ?_⟩
  · exact applies_of_transform resolved
      (show (transform versatileSetting mixedBody).result = _ from rfl)
  · rfl

end BuilderCall

end ResultBuilder
