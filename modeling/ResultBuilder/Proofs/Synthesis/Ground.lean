import ResultBuilder.Proofs.Shape.Ground
import ResultBuilder.Proofs.Synthesis.Outcome

/-!
# Shapes of what is built

The shape of a transformed body is made of the shapes of its leaves in two ways: operations of the
builder are applied to them, and those of alternatives are merged. What both ways keep, and what holds
of a hole, the least that can be known of a value, holds of the shape of the whole body when it holds
of the leaves.

* **`Transform.Setting.Keeps`**: a property of shapes that a transform keeps.
* **`Transform.Setting.Keeps.of_block`** and its companions: it holds of all that is built.
* **`Transform.Setting.keeps_isGround`**: a transform brings in no generic parameters.
-/

namespace ResultBuilder

open Syntax Transform Journaled

namespace Transform

/-- **A property of shapes that a transform keeps**: it holds of leaves, and applying operations and
merging alternatives keep it. -/
structure Setting.Keeps (setting : Setting) (P : Shape → Prop) : Prop where
  leaf : ∀ expr, P (setting.services.typeOf setting.context expr)
  apply : ∀ (operation : Operation) {args : List Shape}, (∀ arg ∈ args, P arg) →
    P (operation.apply args)
  unify : ∀ {left right : Shape}, P left → P right → P (left.unify right)
  hole : P .hole

namespace Setting.Keeps

variable {setting : Setting} {P : Shape → Prop} (keeps : setting.Keeps P)
include keeps

/-! ### Single steps -/

theorem join (operation : Operation) {parts : List Built} (origin : Span)
    (holds : ∀ part ∈ parts, P part.shape) :
    P (Transform.join setting operation parts origin).shape :=
  keeps.apply operation (List.forall_mem_map.mpr holds)

theorem wrap (operation : Operation) {built : Built} (origin : Span) (holds : P built.shape) :
    P (Transform.wrap setting operation built origin).shape :=
  keeps.join operation origin (List.forall_mem_singleton.mpr holds)

theorem doWrapped {built : Built} (origin : Span) (holds : P built.shape) :
    P (Transform.doWrapped setting origin built).shape := by
  unfold Transform.doWrapped
  cases setting.descriptor.doWrap with
  | none => exact holds
  | some operation => exact keeps.wrap operation origin holds

theorem wrapAlong (operations : Operation × Operation) {built : Built} (origin : Span)
    (holds : P built.shape) (path : List Branch) :
    P (Transform.wrapAlong setting operations origin path built).shape := by
  induction path with
  | nil => exact holds
  | cons branch rest ih =>
      cases branch with
      | first => exact keeps.wrap operations.1 origin ih
      | second => exact keeps.wrap operations.2 origin ih

theorem wrapCases (operations : Operation × Operation) (cases : List SwitchCase)
    {arms : List Built} (holds : ∀ arm ∈ arms, P arm.shape) :
    ∀ arm ∈ Transform.wrapCases setting (some operations) cases arms, P arm.shape := by
  intro arm listed
  obtain ⟨⟨⟨switchCase, value⟩, path⟩, zipped, rfl⟩ := List.mem_map.mp listed
  have ofValue : value ∈ arms := (List.of_mem_zip (List.of_mem_zip zipped).1).2
  exact keeps.wrapAlong operations switchCase.span (holds value ofValue) path

/-- The shapes of cases are merged one after the other. -/
theorem chooseCase (subject : Expr) (cases : List SwitchCase) {arms : List Built}
    (holds : ∀ arm ∈ arms, P arm.shape) : P (Transform.chooseCase subject cases arms).shape := by
  suffices merged : ∀ shape, P shape →
      P (arms.foldl (fun shape value => shape.unify value.shape) shape) from merged .hole keeps.hole
  induction arms with
  | nil => exact fun _ ofShape => ofShape
  | cons arm rest ih =>
      obtain ⟨first, others⟩ := List.forall_mem_cons.mp holds
      exact fun _ ofShape => ih others _ (keeps.unify ofShape first)

/-! ### Parts of a body -/

-- in a mutual block a hypothesis may only be needed through the other theorems
set_option linter.unusedSectionVars false

mutual

/-- **What is kept holds of the shape of a transformed block.** -/
theorem of_block : ∀ {body : Block} {built : Built},
    (block setting body).outcome = .ok built → P built.shape
  | ⟨span, statements⟩, built, succeeded => by
      obtain ⟨-, operation, -, parts, ran, rfl⟩ := block_eq_ok_iff.mp succeeded
      exact keeps.join operation span (of_components ran)

/-- What is kept holds of the shapes of transformed statements. -/
theorem of_components : ∀ {statements : List Statement} {parts : List Built},
    (components setting statements).outcome = .ok parts → ∀ part ∈ parts, P part.shape
  | [], parts, succeeded => by
      rw [outcome_components_nil, Except.ok.injEq] at succeeded
      rw [← succeeded]
      exact nofun
  | statement :: rest, parts, succeeded => by
      obtain ⟨first, ranFirst, others, ranRest, rfl⟩ := components_cons_eq_ok_iff.mp succeeded
      intro part listed
      rcases List.mem_append.mp listed with ofFirst | ofRest
      · exact of_component ranFirst part (Option.mem_toList.mp ofFirst)
      · exact of_components ranRest part ofRest

/-- What is kept holds of the shape of a transformed statement. -/
theorem of_component : ∀ {statement : Statement} {first : Option Built},
    (component setting statement).outcome = .ok first → ∀ part, first = some part → P part.shape
  | .expression expr, first, succeeded, part, isPart
  | .returning _ _ (some expr), first, succeeded, part, isPart => by
      rw [component, outcome_map_eq_ok_iff] at succeeded
      obtain ⟨inner, ran, rfl⟩ := succeeded
      rw [outcome_leaf, Except.ok.injEq] at ran
      obtain rfl := Option.some.inj isPart
      rw [← ran]
      exact keeps.leaf expr
  | .conditional node, first, succeeded, part, isPart => by
      rw [component, outcome_map_eq_ok_iff] at succeeded
      obtain ⟨inner, ran, rfl⟩ := succeeded
      obtain rfl := Option.some.inj isPart
      exact of_conditional ran
  | .switch ⟨span, subject, cases⟩, first, succeeded, part, isPart => by
      rw [component, outcome_map_eq_ok_iff] at succeeded
      obtain ⟨inner, ran, rfl⟩ := succeeded
      obtain rfl := Option.some.inj isPart
      obtain ⟨arms, ranCases, ⟨-, operations, -, rfl⟩ | ⟨-, rfl⟩⟩ := switch_eq_ok_iff.mp ran
      · exact keeps.chooseCase subject cases
          (keeps.wrapCases operations cases (of_caseBodies ranCases))
      · exact keeps.chooseCase subject cases (of_caseBodies ranCases)
  | .doBlock span body, first, succeeded, part, isPart => by
      obtain ⟨inner, ran, rfl⟩ := component_doBlock_eq_ok_iff.mp succeeded
      obtain rfl := Option.some.inj isPart
      exact keeps.doWrapped span (of_block ran)
  | .directive _, first, succeeded, part, isPart
  | .returning _ _ none, first, succeeded, part, isPart
  | .declaration _, first, succeeded, part, isPart | .loop _, first, succeeded, part, isPart
  | .fallthrough _, first, succeeded, part, isPart | .jump _ _, first, succeeded, part, isPart => by
      rw [component, outcome_pure, Except.ok.injEq] at succeeded
      rw [← succeeded] at isPart
      cases isPart

/-- What is kept holds of the shape of a transformed `if` statement. -/
theorem of_conditional : ∀ {node : Conditional} {built : Built},
    (conditional setting node).outcome = .ok built → P built.shape
  | ⟨span, conditions, thenBlock, none⟩, built, succeeded => by
      obtain ⟨inner, ran, operation, -, rfl⟩ := conditional_eq_ok_iff.mp succeeded
      exact keeps.wrap operation span (of_block ran)
  | ⟨span, conditions, thenBlock, some otherwise⟩, built, succeeded => by
      obtain ⟨first, ranFirst, operations, -, second, ranSecond, rfl⟩ :=
        conditional_else_eq_ok_iff.mp succeeded
      exact keeps.unify (keeps.wrap operations.1 span (of_block ranFirst))
        (keeps.wrap operations.2 span (of_alternative ranSecond))

/-- What is kept holds of the shape of what is done otherwise. -/
theorem of_alternative : ∀ {otherwise : Syntax.Alternative} {built : Built},
    (alternative setting otherwise).outcome = .ok built → P built.shape
  | .block node, built, succeeded => by
      rw [alternative] at succeeded
      exact of_block succeeded
  | .chained node, built, succeeded => by
      obtain ⟨-, operation, -, inner, ran, rfl⟩ := alternative_chained_eq_ok_iff.mp succeeded
      exact keeps.wrap operation node.span (of_conditional ran)

/-- What is kept holds of the shapes of transformed cases. -/
theorem of_caseBodies : ∀ {cases : List SwitchCase} {arms : List Built},
    (caseBodies setting cases).outcome = .ok arms → ∀ arm ∈ arms, P arm.shape
  | [], arms, succeeded => by
      rw [outcome_caseBodies_nil, Except.ok.injEq] at succeeded
      rw [← succeeded]
      exact nofun
  | ⟨_, _, body⟩ :: rest, arms, succeeded => by
      obtain ⟨first, ranFirst, others, ranRest, rfl⟩ := caseBodies_cons_eq_ok_iff.mp succeeded
      exact List.forall_mem_cons.mpr ⟨of_block ranFirst, of_caseBodies ranRest⟩

end

/-! ### Bodies -/

/-- **What is kept holds of the shape of a transformed body.** -/
theorem of_transform {body : Block} {built : Built}
    (transformed : (transform setting body).result = .built built) : P built.shape :=
  keeps.of_block (transform_eq_built_iff.mp transformed).2.2

end Setting.Keeps

/-- **A transform brings in no generic parameters** of the signatures that it works with. -/
theorem Setting.keeps_isGround {setting : Setting}
    (ground : ∀ context expr, (setting.services.typeOf context expr).IsGround) :
    setting.Keeps Shape.IsGround where
  leaf := ground setting.context
  apply operation := operation.isGround_apply
  unify := Shape.IsGround.unify
  hole := Shape.isGround_hole

end Transform

end ResultBuilder
