import ResultBuilder.Proofs.Syntax.Reading.Statement
import ResultBuilder.Proofs.Synthesis.Calls

/-!
# Where the calls of a transformed body come from

A call keeps the span that it was made for: a join that of its block, a wrapper that of a whole `if`
statement or of one case. The calls of a transformed body are nested as these places are, so that
whoever reads an origin finds the code of all arguments inside it.

* **`Span.LiesIn`**: a span inside another.
* **`Synthesized.NestsIn`**: a synthesized expression whose origins are nested inside a span.
* **`nestsIn_of_block`** and its companions: what a transform builds from placed nodes is nested.
* **`nested_of_transform`**: the calls of every body of a parsed source are nested.
-/

namespace ResultBuilder

open Syntax Transform Journaled

/-! ### Spans -/

/-- **A span inside another**, or the whole of it. -/
structure Span.LiesIn (inner outer : Span) : Prop where
  starts : outer.start ≤ inner.start
  ordered : inner.start ≤ inner.stop
  stops : inner.stop ≤ outer.stop

theorem Span.LiesIn.trans {inner middle outer : Span} (first : inner.LiesIn middle)
    (second : middle.LiesIn outer) : inner.LiesIn outer where
  starts := second.starts.trans first.starts
  ordered := first.ordered
  stops := first.stops.trans second.stops

/-- A child of a placed node lies inside it. -/
theorem Syntax.Node.liesIn_of_child {source : List Char} {node child : Node}
    (placed : node.Everywhere (·.IsPlaced source)) (isChild : child ∈ node.children) :
    child.span.LiesIn node.span where
  starts := (placed.here.inside child isChild).1
  ordered := (placed.child isChild).here.ordered
  stops := (placed.here.inside child isChild).2

/-- A placed node lies inside itself. -/
theorem Syntax.Node.liesIn_self {source : List Char} {node : Node}
    (placed : node.Everywhere (·.IsPlaced source)) : node.span.LiesIn node.span where
  starts := le_refl _
  ordered := placed.here.ordered
  stops := le_refl _

/-! ### Arguments -/

/-- **A value that is given** where an expression stands: the expression itself, or one that the
conditions and cases of the body choose. -/
inductive Synthesized.Gives : Synthesized → Synthesized → Prop
  | self (value : Synthesized) : Gives value value
  | thenValue {conditions : List Condition} {thenValue elseValue value : Synthesized}
      (given : Gives thenValue value) : Gives (.conditional conditions thenValue elseValue) value
  | elseValue {conditions : List Condition} {thenValue elseValue value : Synthesized}
      (given : Gives elseValue value) : Gives (.conditional conditions thenValue elseValue) value
  | arm {subject : Expr} {arms : List Arm} {arm : Arm} {value : Synthesized} (listed : arm ∈ arms)
      (given : Gives arm.value value) : Gives (.switch subject arms) value

/-- **What a call takes** as an argument, directly or through conditions and cases. It is the
nearest call around that. -/
def BuilderCall.Takes (call : BuilderCall) (value : Synthesized) : Prop :=
  ∃ arg ∈ call.args, arg.Gives value

/-! ### Nesting -/

namespace Synthesized

/-- **An expression whose origins are nested** inside a span: its calls lie inside the span and what
they are called on is nested inside them. -/
inductive NestsIn : Span → Synthesized → Prop
  | leaf {outer : Span} {expr : Expr} (lies : expr.span.LiesIn outer) : NestsIn outer (.leaf expr)
  | call {outer : Span} {node : BuilderCall} (lies : node.origin.LiesIn outer)
      (args : ∀ arg ∈ node.args, NestsIn node.origin arg) : NestsIn outer (.call node)
  | conditional {outer : Span} {conditions : List Condition} {thenValue elseValue : Synthesized}
      (ofThen : NestsIn outer thenValue) (ofElse : NestsIn outer elseValue) :
      NestsIn outer (.conditional conditions thenValue elseValue)
  | switch {outer : Span} {subject : Expr} {arms : List Arm}
      (ofArms : ∀ arm ∈ arms, NestsIn outer arm.value) : NestsIn outer (.switch subject arms)
  | nil (outer : Span) : NestsIn outer .nil

/-- What is nested inside a span is nested inside all that the span lies in. -/
theorem NestsIn.mono {inner outer : Span} {value : Synthesized} (nests : value.NestsIn inner)
    (lies : inner.LiesIn outer) : value.NestsIn outer := by
  induction nests with
  | leaf within => exact .leaf (within.trans lies)
  | call within args => exact .call (within.trans lies) args
  | conditional ofThen ofElse ihThen ihElse => exact .conditional (ihThen lies) (ihElse lies)
  | switch ofArms ih => exact .switch fun arm listed => ih arm listed lies
  | nil => exact .nil outer

/-- A value that is given by a nested expression is nested as well. -/
theorem NestsIn.of_gives {outer : Span} {value given : Synthesized} (gives : value.Gives given)
    (nests : value.NestsIn outer) : given.NestsIn outer := by
  induction gives with
  | self => exact nests
  | thenValue _ ih =>
      cases nests with
      | conditional ofThen _ => exact ih ofThen
  | elseValue _ ih =>
      cases nests with
      | conditional _ ofElse => exact ih ofElse
  | arm listed _ ih =>
      cases nests with
      | «switch» ofArms => exact ih (ofArms _ listed)

theorem mem_allCalls {call : BuilderCall} {values : List Synthesized} :
    call ∈ allCalls values ↔ ∃ value ∈ values, call ∈ value.calls := by
  induction values with
  | nil => simp [allCalls]
  | cons value rest ih => simp [allCalls, ih]

theorem mem_allCalls_arms {call : BuilderCall} {arms : List Arm} :
    call ∈ Arm.allCalls arms ↔ ∃ arm ∈ arms, call ∈ arm.value.calls := by
  induction arms with
  | nil => simp [Arm.allCalls]
  | cons arm rest ih =>
      obtain ⟨label, value⟩ := arm
      simp [Arm.allCalls, ih]

/-- **The calls of a nested expression are nested**: each is called on what is nested inside it. -/
theorem NestsIn.args {outer : Span} {value : Synthesized} (nests : value.NestsIn outer) :
    ∀ call ∈ value.calls, ∀ arg ∈ call.args, arg.NestsIn call.origin := by
  induction nests with
  | leaf | nil =>
      intro call listed
      rw [calls] at listed
      cases listed
  | @call outer node lies ofArgs ih =>
      obtain ⟨builder, capability, name, label, args, origin⟩ := node
      intro call listed
      rw [calls] at listed
      rcases List.mem_cons.mp listed with rfl | inside
      · exact ofArgs
      · obtain ⟨arg, isArg, ofArg⟩ := mem_allCalls.mp inside
        exact ih arg isArg call ofArg
  | conditional ofThen ofElse ihThen ihElse =>
      intro call listed
      rw [calls] at listed
      rcases List.mem_append.mp listed with inThen | inElse
      · exact ihThen call inThen
      · exact ihElse call inElse
  | «switch» ofArms ih =>
      intro call listed
      rw [calls] at listed
      obtain ⟨arm, isArm, ofArm⟩ := mem_allCalls_arms.mp listed
      exact ih arm isArm call ofArm

end Synthesized

/-! ### What is built -/

namespace Transform

variable {setting : Setting}

/-- A call that joins nested values is nested where it was made for. -/
theorem nestsIn_join {operation : Operation} {parts : List Built} {origin outer : Span}
    (lies : origin.LiesIn outer) (nests : ∀ part ∈ parts, part.expr.NestsIn origin) :
    (join setting operation parts origin).expr.NestsIn outer := by
  refine .call lies fun arg listed => ?_
  obtain ⟨part, isPart, rfl⟩ := List.mem_map.mp listed
  exact nests part isPart

theorem nestsIn_wrap {operation : Operation} {built : Built} {origin outer : Span}
    (lies : origin.LiesIn outer) (nests : built.expr.NestsIn origin) :
    (wrap setting operation built origin).expr.NestsIn outer :=
  nestsIn_join lies (by simpa using nests)

theorem nestsIn_doWrapped {built : Built} {span : Span} (lies : span.LiesIn span)
    (nests : built.expr.NestsIn span) : (doWrapped setting span built).expr.NestsIn span := by
  unfold doWrapped
  cases setting.descriptor.doWrap with
  | none => exact nests
  | some operation => exact nestsIn_wrap lies nests

/-- All calls along a path are made for the same place, inside which they nest. -/
theorem nestsIn_wrapAlong {operations : Operation × Operation} {built : Built} {span : Span}
    (lies : span.LiesIn span) (nests : built.expr.NestsIn span) (path : List Branch) :
    (wrapAlong setting operations span path built).expr.NestsIn span := by
  induction path with
  | nil => exact nests
  | cons branch rest ih =>
      cases branch with
      | first =>
          rw [wrapAlong_cons_first]
          exact nestsIn_wrap lies ih
      | second =>
          rw [wrapAlong_cons_second]
          exact nestsIn_wrap lies ih

/-- A choice between values for cases is nested inside a span that the values are nested in. -/
theorem nestsIn_chooseCase {subject : Expr} {cases : List SwitchCase} {arms : List Built}
    {outer : Span} (nests : ∀ paired ∈ cases.zip arms, paired.2.expr.NestsIn outer) :
    (chooseCase subject cases arms).expr.NestsIn outer := by
  refine .switch fun arm listed => ?_
  obtain ⟨paired, zipped, rfl⟩ := List.mem_map.mp listed
  exact nests paired zipped

/-- Wrapped cases are nested inside a span when each value is nested inside its case and each case
lies inside the span. -/
theorem nestsIn_wrapCases {operations : Operation × Operation} {cases : List SwitchCase}
    {arms : List Built} {outer : Span}
    (lies : ∀ switchCase ∈ cases, switchCase.span.LiesIn outer)
    (nests : ∀ paired ∈ cases.zip arms, paired.2.expr.NestsIn paired.1.span) :
    ∀ arm ∈ wrapCases setting (some operations) cases arms, arm.expr.NestsIn outer := by
  intro arm listed
  obtain ⟨⟨⟨switchCase, value⟩, path⟩, zipped, rfl⟩ := List.mem_map.mp listed
  have paired : (switchCase, value) ∈ cases.zip arms := (List.of_mem_zip zipped).1
  have liesCase := lies switchCase (List.of_mem_zip paired).1
  have self : switchCase.span.LiesIn switchCase.span := ⟨le_refl _, liesCase.ordered, le_refl _⟩
  exact (nestsIn_wrapAlong self (nests _ paired) path).mono liesCase

/-! ### What a transform builds -/

variable {source : List Char}

mutual

/-- **A transformed block is a call for the place of the block**, on what is nested inside it. -/
theorem nestsIn_of_block : ∀ {body : Block} {built : Built},
    (Node.block body).Everywhere (·.IsPlaced source) →
    (block setting body).outcome = .ok built →
      ∃ call, built.expr = .call call ∧ call.origin = body.span ∧
        built.expr.NestsIn body.span
  | ⟨span, statements⟩, built, placed, succeeded => by
      obtain ⟨_, operation, _, parts, ran, rfl⟩ := block_eq_ok_iff.mp succeeded
      have children : ∀ statement ∈ statements,
          Node.statement statement ∈ (Node.block ⟨span, statements⟩).children :=
        fun statement listed => List.mem_map_of_mem listed
      have nests := nestsIn_of_components
        (fun statement listed => placed.child (children statement listed)) ran
      refine ⟨_, rfl, rfl, nestsIn_join (Node.liesIn_self placed) fun part listed => ?_⟩
      obtain ⟨statement, isStatement, ofStatement⟩ := nests part listed
      exact ofStatement.mono (Node.liesIn_of_child placed (children statement isStatement))

/-- The values of transformed statements are nested inside the statements. -/
theorem nestsIn_of_components : ∀ {statements : List Statement} {parts : List Built},
    (∀ statement ∈ statements, (Node.statement statement).Everywhere (·.IsPlaced source)) →
    (components setting statements).outcome = .ok parts →
      ∀ part ∈ parts, ∃ statement ∈ statements, part.expr.NestsIn statement.span
  | [], parts, _, succeeded => by
      rw [outcome_components_nil, Except.ok.injEq] at succeeded
      rw [← succeeded]
      exact nofun
  | statement :: rest, parts, placed, succeeded => by
      obtain ⟨first, ranFirst, others, ranRest, rfl⟩ := components_cons_eq_ok_iff.mp succeeded
      obtain ⟨placedFirst, placedRest⟩ := List.forall_mem_cons.mp placed
      intro part listed
      rcases List.mem_append.mp listed with ofFirst | ofRest
      · exact ⟨statement, List.mem_cons_self,
          nestsIn_of_component placedFirst ranFirst part (Option.mem_toList.mp ofFirst)⟩
      · obtain ⟨other, isOther, nests⟩ := nestsIn_of_components placedRest ranRest part ofRest
        exact ⟨other, List.mem_cons_of_mem _ isOther, nests⟩

/-- The value of a transformed statement is nested inside the statement. -/
theorem nestsIn_of_component : ∀ {statement : Statement} {first : Option Built},
    (Node.statement statement).Everywhere (·.IsPlaced source) →
    (component setting statement).outcome = .ok first →
      ∀ part, first = some part → part.expr.NestsIn statement.span
  | .expression expr, first, placed, succeeded, part, isPart => by
      rw [component, outcome_map_eq_ok_iff] at succeeded
      obtain ⟨inner, ran, rfl⟩ := succeeded
      rw [outcome_leaf, Except.ok.injEq] at ran
      obtain rfl := Option.some.inj isPart
      rw [← ran]
      have isChild : Node.expression expr ∈ (Node.statement (.expression expr)).children :=
        List.mem_cons_self
      exact .leaf (Node.liesIn_of_child placed isChild)
  | .returning span keyword (some expr), first, placed, succeeded, part, isPart => by
      rw [component, outcome_map_eq_ok_iff] at succeeded
      obtain ⟨inner, ran, rfl⟩ := succeeded
      rw [outcome_leaf, Except.ok.injEq] at ran
      obtain rfl := Option.some.inj isPart
      rw [← ran]
      have isChild : Node.expression expr ∈
          (Node.statement (.returning span keyword (some expr))).children :=
        List.mem_cons_of_mem _ List.mem_cons_self
      exact .leaf (Node.liesIn_of_child placed isChild)
  | .conditional node, first, placed, succeeded, part, isPart => by
      rw [component, outcome_map_eq_ok_iff] at succeeded
      obtain ⟨inner, ran, rfl⟩ := succeeded
      obtain rfl := Option.some.inj isPart
      exact nestsIn_of_conditional placed ran
  | .switch ⟨span, subject, cases⟩, first, placed, succeeded, part, isPart => by
      rw [component, outcome_map_eq_ok_iff] at succeeded
      obtain ⟨inner, ran, rfl⟩ := succeeded
      obtain rfl := Option.some.inj isPart
      obtain ⟨arms, ranCases, built⟩ := switch_eq_ok_iff.mp ran
      have children : ∀ switchCase ∈ cases, Node.switchCase switchCase ∈
          (Node.statement (.switch ⟨span, subject, cases⟩)).children :=
        fun switchCase listed => List.mem_cons_of_mem _ (List.mem_map_of_mem listed)
      have lies : ∀ switchCase ∈ cases, switchCase.span.LiesIn span :=
        fun switchCase listed => Node.liesIn_of_child placed (children switchCase listed)
      have nests := nestsIn_of_caseBodies
        (fun switchCase listed => placed.child (children switchCase listed)) ranCases
      rcases built with ⟨_, operations, _, rfl⟩ | ⟨_, rfl⟩
      · have wrapped : ∀ arm ∈ wrapCases setting (some operations) cases arms,
            arm.expr.NestsIn span := nestsIn_wrapCases lies nests
        exact nestsIn_chooseCase fun paired zipped => wrapped _ (List.of_mem_zip zipped).2
      · exact nestsIn_chooseCase fun paired zipped =>
          (nests paired zipped).mono (lies _ (List.of_mem_zip zipped).1)
  | .doBlock span body, first, placed, succeeded, part, isPart => by
      obtain ⟨inner, ran, rfl⟩ := component_doBlock_eq_ok_iff.mp succeeded
      obtain rfl := Option.some.inj isPart
      have isChild : Node.block body ∈ (Node.statement (.doBlock span body)).children :=
        List.mem_cons_self
      obtain ⟨_, _, _, nests⟩ := nestsIn_of_block (placed.child isChild) ran
      exact nestsIn_doWrapped (Node.liesIn_self placed)
        (nests.mono (Node.liesIn_of_child placed isChild))
  | .directive _, first, _, succeeded, part, isPart
  | .returning _ _ none, first, _, succeeded, part, isPart
  | .declaration _, first, _, succeeded, part, isPart | .loop _, first, _, succeeded, part, isPart
  | .fallthrough _, first, _, succeeded, part, isPart
  | .jump _ _, first, _, succeeded, part, isPart => by
      rw [component, outcome_pure, Except.ok.injEq] at succeeded
      rw [← succeeded] at isPart
      cases isPart

/-- A transformed `if` statement is nested inside the statement. -/
theorem nestsIn_of_conditional : ∀ {node : Conditional} {built : Built},
    (Node.statement (.conditional node)).Everywhere (·.IsPlaced source) →
    (conditional setting node).outcome = .ok built → built.expr.NestsIn node.span
  | ⟨span, conditions, thenBlock, none⟩, built, placed, succeeded => by
      obtain ⟨inner, ran, operation, _, rfl⟩ := conditional_eq_ok_iff.mp succeeded
      have isChild : Node.block thenBlock ∈
          (Node.statement (.conditional ⟨span, conditions, thenBlock, none⟩)).children :=
        List.mem_append_right _ List.mem_cons_self
      obtain ⟨_, _, _, nests⟩ := nestsIn_of_block (placed.child isChild) ran
      have self := Node.liesIn_self placed
      have missing : Built.expr ⟨.nil, inner.shape⟩ |>.NestsIn span := .nil span
      exact .conditional
        (nestsIn_wrap self (nests.mono (Node.liesIn_of_child placed isChild)))
        (nestsIn_wrap self missing)
  | ⟨span, conditions, thenBlock, some otherwise⟩, built, placed, succeeded => by
      obtain ⟨first, ranFirst, operations, _, second, ranSecond, rfl⟩ :=
        conditional_else_eq_ok_iff.mp succeeded
      have isThen : Node.block thenBlock ∈
          (Node.statement (.conditional ⟨span, conditions, thenBlock, some otherwise⟩)).children :=
        List.mem_append_right _ List.mem_cons_self
      have isElse : Node.ofAlternative otherwise ∈
          (Node.statement (.conditional ⟨span, conditions, thenBlock, some otherwise⟩)).children :=
        List.mem_append_right _ (List.mem_cons_of_mem _ List.mem_cons_self)
      obtain ⟨_, _, _, nestsThen⟩ := nestsIn_of_block (placed.child isThen) ranFirst
      have nestsElse := nestsIn_of_alternative (placed.child isElse) ranSecond
      have self := Node.liesIn_self placed
      exact .conditional
        (nestsIn_wrap self (nestsThen.mono (Node.liesIn_of_child placed isThen)))
        (nestsIn_wrap self (nestsElse.mono (Node.liesIn_of_child placed isElse)))

/-- What is done otherwise, transformed, is nested where it stands. -/
theorem nestsIn_of_alternative : ∀ {otherwise : Syntax.Alternative} {built : Built},
    (Node.ofAlternative otherwise).Everywhere (·.IsPlaced source) →
    (alternative setting otherwise).outcome = .ok built →
      built.expr.NestsIn (Node.ofAlternative otherwise).span
  | .block node, built, placed, succeeded => by
      rw [alternative] at succeeded
      obtain ⟨_, _, _, nests⟩ := nestsIn_of_block placed succeeded
      exact nests
  | .chained node, built, placed, succeeded => by
      obtain ⟨_, operation, _, inner, ran, rfl⟩ := alternative_chained_eq_ok_iff.mp succeeded
      have nests := nestsIn_of_conditional placed ran
      exact nestsIn_join (Node.liesIn_self placed) (by simpa using nests)

/-- The values of transformed cases are nested inside the cases. -/
theorem nestsIn_of_caseBodies : ∀ {cases : List SwitchCase} {arms : List Built},
    (∀ switchCase ∈ cases, (Node.switchCase switchCase).Everywhere (·.IsPlaced source)) →
    (caseBodies setting cases).outcome = .ok arms →
      ∀ paired ∈ cases.zip arms, paired.2.expr.NestsIn paired.1.span
  | [], arms, _, _ => nofun
  | ⟨span, label, body⟩ :: rest, arms, placed, succeeded => by
      obtain ⟨first, ranFirst, others, ranRest, rfl⟩ := caseBodies_cons_eq_ok_iff.mp succeeded
      obtain ⟨placedFirst, placedRest⟩ := List.forall_mem_cons.mp placed
      have isChild : Node.block body ∈ (Node.switchCase ⟨span, label, body⟩).children :=
        List.mem_append_right _ List.mem_cons_self
      obtain ⟨_, _, _, nests⟩ := nestsIn_of_block (placedFirst.child isChild) ranFirst
      rw [List.zip_cons_cons]
      exact List.forall_mem_cons.mpr ⟨nests.mono (Node.liesIn_of_child placedFirst isChild),
        nestsIn_of_caseBodies placedRest ranRest⟩

end

end Transform

/-! ### Bodies -/

/-- **The calls of a transformed body are nested as its places are.** Whatever body of a parsed
source is transformed, in whatever setting, it becomes a call for the place of the body. A call that
another one takes as an argument, directly or through conditions and cases, was made for a place
inside the place of that one, and so does an expression of the body lie inside the place of the call
that takes it. -/
theorem nested_of_transform {source : String} {program : Program} {setting : Setting}
    {body : Block} {built : Built} (parsed : parse source = .ok program)
    (within : (Node.block body).WithinProgram program)
    (transformed : (transform setting body).result = .built built) :
    ∃ root : BuilderCall, built.expr = .call root ∧ root.origin = body.span ∧
      ∀ call ∈ built.expr.calls,
        (∀ inner, call.Takes (.call inner) → inner.origin.LiesIn call.origin) ∧
        ∀ expr, call.Takes (.leaf expr) → expr.span.LiesIn call.origin := by
  obtain ⟨statement, listed, inStatement⟩ := within
  have placed : (Node.block body).Everywhere (·.IsPlaced source.toList) :=
    fun node inside => (isPlaced_of_parse parsed).1 node ⟨statement, listed, inside.trans inStatement⟩
  obtain ⟨_, _, succeeded⟩ := transform_eq_built_iff.mp transformed
  obtain ⟨root, isCall, origin, nests⟩ := nestsIn_of_block placed succeeded
  refine ⟨root, isCall, origin, fun call isListed => ?_⟩
  have ofArgs := nests.args call isListed
  constructor
  · rintro inner ⟨arg, isArg, gives⟩
    cases (ofArgs arg isArg).of_gives gives with
    | call lies _ => exact lies
  · rintro expr ⟨arg, isArg, gives⟩
    cases (ofArgs arg isArg).of_gives gives with
    | leaf lies => exact lies

/-- A closure of one `if` statement with a chained one. -/
def chainedClosure : Closure :=
  ⟨⟨2, 32⟩, [], ⟨⟨2, 32⟩, [.conditional ⟨⟨4, 30⟩, [.expression (.ident ⟨7, 8⟩ "a")],
    ⟨⟨9, 14⟩, [.expression (.ident ⟨11, 12⟩ "b")]⟩,
    some (.chained ⟨⟨20, 30⟩, [.expression (.ident ⟨23, 24⟩ "c")],
      ⟨⟨25, 30⟩, [.expression (.ident ⟨27, 28⟩ "d")]⟩, none⟩)⟩]⟩⟩

/-- A call that the closure is given to. -/
def chainedProgram : Program :=
  ⟨[.expression (.call ⟨0, 32⟩ (.ident ⟨0, 1⟩ "f") [] (some chainedClosure))]⟩

/-- The join of a chained `if` was made for the place of that `if` alone, and lies inside the
alternative of the first one. -/
theorem nested_of_chainedClosure :
    parse "f \x7b if a \x7b b \x7d else if c \x7b d \x7d \x7d" = .ok chainedProgram ∧
      (Node.block chainedClosure.body).WithinProgram chainedProgram ∧
      ∃ built,
        (transform BuilderCall.versatileSetting chainedClosure.body).result = .built built ∧
        (∃ root : BuilderCall, built.expr = .call root ∧ root.origin = chainedClosure.body.span ∧
          ∀ call ∈ built.expr.calls,
            (∀ inner, call.Takes (.call inner) → inner.origin.LiesIn call.origin) ∧
            ∀ expr, call.Takes (.leaf expr) → expr.span.LiesIn call.origin) ∧
        built.expr.calls.map (·.origin) =
          [⟨2, 32⟩, ⟨4, 30⟩, ⟨9, 14⟩, ⟨4, 30⟩, ⟨20, 30⟩, ⟨20, 30⟩, ⟨25, 30⟩, ⟨20, 30⟩] := by
  have cut : tokenize "f \x7b if a \x7b b \x7d else if c \x7b d \x7d \x7d" = .ok [
      ⟨.identifier, ⟨0, 1⟩, "f", false⟩, ⟨.symbol .braceOpen, ⟨2, 3⟩, "\x7b", false⟩,
      ⟨.keyword .if_, ⟨4, 6⟩, "if", false⟩, ⟨.identifier, ⟨7, 8⟩, "a", false⟩,
      ⟨.symbol .braceOpen, ⟨9, 10⟩, "\x7b", false⟩, ⟨.identifier, ⟨11, 12⟩, "b", false⟩,
      ⟨.symbol .braceClose, ⟨13, 14⟩, "\x7d", false⟩, ⟨.keyword .else_, ⟨15, 19⟩, "else", false⟩,
      ⟨.keyword .if_, ⟨20, 22⟩, "if", false⟩, ⟨.identifier, ⟨23, 24⟩, "c", false⟩,
      ⟨.symbol .braceOpen, ⟨25, 26⟩, "\x7b", false⟩, ⟨.identifier, ⟨27, 28⟩, "d", false⟩,
      ⟨.symbol .braceClose, ⟨29, 30⟩, "\x7d", false⟩,
      ⟨.symbol .braceClose, ⟨31, 32⟩, "\x7d", false⟩, ⟨.endOfFile, ⟨32, 32⟩, "", false⟩] := by
    decide +kernel
  have parsed : parse "f \x7b if a \x7b b \x7d else if c \x7b d \x7d \x7d" = .ok chainedProgram :=
    parse_of_ofTokens cut rfl
  have within : (Node.block chainedClosure.body).WithinProgram chainedProgram :=
    ⟨_, List.mem_singleton_self _, .child (List.mem_singleton_self _)
      (.child (List.mem_cons_of_mem _ (List.mem_singleton_self _))
        (.child (List.mem_singleton_self _) (.self _)))⟩
  refine ⟨parsed, within, _, rfl, ?_, rfl⟩
  exact nested_of_transform parsed within
    (show (transform BuilderCall.versatileSetting chainedClosure.body).result = _ from rfl)

end ResultBuilder
