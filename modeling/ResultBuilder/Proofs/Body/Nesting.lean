import Mathlib.Data.List.Forall2
import Mathlib.Logic.Basic
import ResultBuilder.Body.Form

/-!
# Blocks within blocks

Which statements belong to a body: those of its block and of the blocks that its statements open,
at any depth, but not those of closures and declarations. Returns are looked for in loops as well;
what the builder has to join is not.

* **`Statement.Opens loops`**: the blocks that a statement opens, those of loops only if asked for.
* **`Nested loops`**: the blocks within a block, itself included.
* **`Somewhere loops P`**: some block within a block has a property.
* **Returns**: `listsReturns` says that a body's list of returns has each of them and no other,
  `returns_ne_nil_iff` when there are any.
* **Rejections**: `finds_rejection` says that the search for a rejected statement finds one of the
  body if there is one.
-/

namespace ResultBuilder

open Syntax

/-- The statements of what is done otherwise. A chained `if` is the only statement of a block of
its own. -/
def Syntax.Alternative.statements : Syntax.Alternative → List Statement
  | .block node => node.statements
  | .chained node => [.conditional node]

/-- **The blocks that a statement opens.** -/
inductive Syntax.Statement.Opens (loops : Bool) : Statement → List Statement → Prop where
  | thenBlock (node : Conditional) : Opens loops (.conditional node) node.thenBlock.statements
  | otherwise {node : Conditional} {alternative : Syntax.Alternative}
      (present : node.otherwise = some alternative) :
      Opens loops (.conditional node) alternative.statements
  | arm {node : Switch} {switchCase : SwitchCase} (listed : switchCase ∈ node.cases) :
      Opens loops (.switch node) switchCase.body.statements
  | doBlock (span : Span) (body : Block) : Opens loops (.doBlock span body) body.statements
  | loopBody (node : Loop) (counted : loops = true) :
      Opens loops (.loop node) node.body.statements

/-- **The blocks within a block**, itself included. -/
inductive Nested (loops : Bool) : List Statement → List Statement → Prop where
  | here (statements : List Statement) : Nested loops statements statements
  | inside {statements inner found : List Statement} {statement : Statement}
      (listed : statement ∈ statements) (opened : statement.Opens loops inner)
      (nested : Nested loops inner found) : Nested loops statements found

/-- Some block within a block has a property. -/
def Somewhere (loops : Bool) (P : List Statement → Prop) (statements : List Statement) : Prop :=
  ∃ found, Nested loops statements found ∧ P found

/-- Some block within the blocks that a statement opens has a property. -/
def Syntax.Statement.Inside (loops : Bool) (P : List Statement → Prop) (statement : Statement) :
    Prop :=
  ∃ inner, statement.Opens loops inner ∧ Somewhere loops P inner

variable {loops : Bool} {P : List Statement → Prop}

/-- A property holds somewhere within a block when it holds of the block or somewhere inside one of
its statements. -/
theorem somewhere_iff {statements : List Statement} :
    Somewhere loops P statements ↔
      P statements ∨ ∃ statement ∈ statements, statement.Inside loops P := by
  constructor
  · rintro ⟨found, nested, holds⟩
    cases nested with
    | here => exact .inl holds
    | inside listed opened nested => exact .inr ⟨_, listed, _, opened, found, nested, holds⟩
  · rintro (holds | ⟨statement, listed, inner, opened, found, nested, holds⟩)
    · exact ⟨statements, .here statements, holds⟩
    · exact ⟨found, .inside listed opened nested, holds⟩

/-! ### What is inside of a statement -/

theorem inside_conditional {span : Span} {conditions : List Condition} {thenBlock : Block} :
    (Statement.conditional ⟨span, conditions, thenBlock, none⟩).Inside loops P ↔
      Somewhere loops P thenBlock.statements := by
  constructor
  · rintro ⟨inner, opened, somewhere⟩
    cases opened with
    | thenBlock => exact somewhere
    | otherwise present => cases present
  · intro somewhere
    exact ⟨_, .thenBlock _, somewhere⟩

theorem inside_conditional_else {span : Span} {conditions : List Condition} {thenBlock : Block}
    {otherwise : Syntax.Alternative} :
    (Statement.conditional ⟨span, conditions, thenBlock, some otherwise⟩).Inside loops P ↔
      Somewhere loops P thenBlock.statements ∨ Somewhere loops P otherwise.statements := by
  constructor
  · rintro ⟨inner, opened, somewhere⟩
    cases opened with
    | thenBlock => exact .inl somewhere
    | otherwise present =>
        cases present
        exact .inr somewhere
  · rintro (somewhere | somewhere)
    · exact ⟨_, .thenBlock _, somewhere⟩
    · exact ⟨_, .otherwise rfl, somewhere⟩

theorem inside_switch {node : Switch} :
    (Statement.switch node).Inside loops P ↔
      ∃ switchCase ∈ node.cases, Somewhere loops P switchCase.body.statements := by
  constructor
  · rintro ⟨inner, opened, somewhere⟩
    cases opened with
    | arm listed => exact ⟨_, listed, somewhere⟩
  · rintro ⟨switchCase, listed, somewhere⟩
    exact ⟨_, .arm listed, somewhere⟩

theorem inside_doBlock {span : Span} {body : Block} :
    (Statement.doBlock span body).Inside loops P ↔ Somewhere loops P body.statements := by
  constructor
  · rintro ⟨inner, opened, somewhere⟩
    cases opened
    exact somewhere
  · intro somewhere
    exact ⟨_, .doBlock _ _, somewhere⟩

theorem inside_loop {node : Loop} :
    (Statement.loop node).Inside loops P ↔
      loops = true ∧ Somewhere loops P node.body.statements := by
  constructor
  · rintro ⟨inner, opened, somewhere⟩
    cases opened with
    | loopBody _ counted => exact ⟨counted, somewhere⟩
  · rintro ⟨counted, somewhere⟩
    exact ⟨_, .loopBody _ counted, somewhere⟩

/-- Nothing is inside of a statement that opens no block. -/
theorem not_inside_of_opens_none {statement : Statement}
    (opensNone : ∀ inner, ¬ statement.Opens loops inner) : ¬ statement.Inside loops P :=
  fun ⟨inner, opened, _⟩ => opensNone inner opened

/-! ### Properties of statements -/

/-- One of some statements has a property. -/
def Among (property : Statement → Prop) (statements : List Statement) : Prop :=
  ∃ statement ∈ statements, property statement

variable {property : Statement → Prop}

/-- A statement with a property is somewhere within a block when one of its statements has the
property or has such a statement inside. -/
theorem somewhere_among_iff {statements : List Statement} :
    Somewhere loops (Among property) statements ↔
      ∃ statement ∈ statements,
        property statement ∨ statement.Inside loops (Among property) := by
  rw [somewhere_iff, Among]
  simp only [and_or_left, exists_or]

theorem not_somewhere_among_nil : ¬ Somewhere loops (Among property) [] := by
  rw [somewhere_among_iff]
  rintro ⟨statement, listed, _⟩
  cases listed

theorem somewhere_among_cons {statement : Statement} {rest : List Statement} :
    Somewhere loops (Among property) (statement :: rest) ↔
      (property statement ∨ statement.Inside loops (Among property)) ∨
        Somewhere loops (Among property) rest := by
  rw [somewhere_among_iff, somewhere_among_iff]
  simp only [List.mem_cons, exists_eq_or_imp]

/-! ### Returns -/

/-- Whether a statement is a `return`. -/
def Syntax.Statement.isReturn : Statement → Bool
  | .returning _ _ _ => true
  | _ => false

/-- One of some statements is a `return`. -/
abbrev HasReturn : List Statement → Prop :=
  Among fun statement => statement.isReturn = true

/-- **A return as it is listed**: with the places of its keyword and of its value. -/
def Syntax.Statement.ReturnsAt (site : ReturnSite) : Statement → Prop
  | .returning _ keyword value => site = ⟨keyword, value.map (·.span)⟩
  | _ => False

/-- **A list of the returns** among some statements: it has an entry for each of them, and no other. -/
def ListsReturns (sites : List ReturnSite) (counted : Statement → Prop) : Prop :=
  ∃ found, List.Forall₂ (fun site statement => statement.ReturnsAt site) sites found ∧
    ∀ statement, statement ∈ found ↔ statement.isReturn = true ∧ counted statement

namespace ListsReturns

variable {sites others : List ReturnSite} {counted alsoCounted : Statement → Prop}

theorem congr (lists : ListsReturns sites counted)
    (same : ∀ part, part.isReturn = true → (counted part ↔ alsoCounted part)) :
    ListsReturns sites alsoCounted := by
  obtain ⟨found, matched, listed⟩ := lists
  exact ⟨found, matched, fun part => (listed part).trans (and_congr_right (same part))⟩

theorem none (uncounted : ∀ part, part.isReturn = true → ¬ counted part) :
    ListsReturns [] counted :=
  ⟨[], .nil, fun part => iff_of_false List.not_mem_nil fun both => uncounted part both.1 both.2⟩

theorem append (first : ListsReturns sites counted) (second : ListsReturns others alsoCounted) :
    ListsReturns (sites ++ others) fun part => counted part ∨ alsoCounted part := by
  obtain ⟨found, matched, listed⟩ := first
  obtain ⟨further, alsoMatched, alsoListed⟩ := second
  refine ⟨found ++ further, List.rel_append matched alsoMatched, fun part => ?_⟩
  rw [List.mem_append, listed, alsoListed, and_or_left]

/-- A statement that is no `return` has those inside of it. -/
theorem ofInside {statement : Statement} (noReturn : statement.isReturn = false)
    (lists : ListsReturns sites fun part => statement.Inside true (Among (· = part))) :
    ListsReturns sites fun part =>
      statement = part ∨ statement.Inside true (Among (· = part)) := by
  refine lists.congr fun part isReturn => (or_iff_right ?_).symm
  rintro rfl
  rw [noReturn] at isReturn
  cases isReturn

end ListsReturns

mutual

theorem listsReturns_of_statement : ∀ statement : Statement,
    ListsReturns statement.returns fun part =>
      statement = part ∨ statement.Inside true (Among (· = part))
  | .returning span keyword value => by
      refine ⟨[.returning span keyword value], .cons rfl .nil, fun part => ?_⟩
      have noInside : ¬ (Statement.returning span keyword value).Inside true (Among (· = part)) :=
        not_inside_of_opens_none (by nofun)
      constructor
      · intro member
        rw [List.mem_singleton.mp member]
        exact ⟨rfl, .inl rfl⟩
      · rintro ⟨-, rfl | inside⟩
        · exact List.mem_singleton_self _
        · exact absurd inside noInside
  | .conditional node => (listsReturns_of_conditional node).ofInside rfl
  | .switch ⟨_, _, cases⟩ => by
      refine ((listsReturns_of_cases cases).congr fun part _ => ?_).ofInside rfl
      rw [inside_switch]
  | .doBlock _ body => ((listsReturns body).congr fun _ _ => inside_doBlock.symm).ofInside rfl
  | .loop ⟨_, _, _, body⟩ => by
      refine ((listsReturns body).congr fun part _ => ?_).ofInside rfl
      rw [inside_loop, and_iff_right rfl]
  | .expression _ | .fallthrough _ | .jump _ _ | .directive _ | .declaration _ =>
      .ofInside rfl (.none fun _ _ => not_inside_of_opens_none (by nofun))

theorem listsReturns_of_statements : ∀ statements : List Statement,
    ListsReturns (Statement.allReturns statements) fun part =>
      Somewhere true (Among (· = part)) statements
  | [] => .none fun _ _ => not_somewhere_among_nil
  | statement :: rest => by
      refine ((listsReturns_of_statement statement).append
        (listsReturns_of_statements rest)).congr fun part _ => ?_
      rw [somewhere_among_cons]

/-- **The list of returns misses none**, in loops as well, and has each of them once. -/
theorem listsReturns : ∀ body : Block,
    ListsReturns body.returns fun part => Somewhere true (Among (· = part)) body.statements
  | ⟨_, statements⟩ => listsReturns_of_statements statements

theorem listsReturns_of_conditional : ∀ node : Conditional,
    ListsReturns node.returns fun part =>
      (Statement.conditional node).Inside true (Among (· = part))
  | ⟨_, _, thenBlock, none⟩ => (listsReturns thenBlock).congr fun _ _ => inside_conditional.symm
  | ⟨_, _, thenBlock, some otherwise⟩ =>
      ((listsReturns thenBlock).append (listsReturns_of_alternative otherwise)).congr
        fun _ _ => inside_conditional_else.symm

theorem listsReturns_of_alternative : ∀ otherwise : Syntax.Alternative,
    ListsReturns otherwise.returns fun part =>
      Somewhere true (Among (· = part)) otherwise.statements
  | .block node => listsReturns node
  | .chained node => by
      refine ((listsReturns_of_conditional node).ofInside rfl).congr fun part _ => ?_
      rw [Alternative.statements, somewhere_among_cons, or_iff_left not_somewhere_among_nil]

theorem listsReturns_of_cases : ∀ cases : List SwitchCase,
    ListsReturns (SwitchCase.returns cases) fun part =>
      ∃ switchCase ∈ cases, Somewhere true (Among (· = part)) switchCase.body.statements
  | [] => .none fun _ _ => nofun
  | ⟨_, _, body⟩ :: rest => by
      refine ((listsReturns body).append (listsReturns_of_cases rest)).congr fun part _ => ?_
      simp

end

/-- There are returns in the list exactly where there is one in the body. -/
theorem returns_ne_nil_iff (body : Block) :
    body.returns ≠ [] ↔ Somewhere true HasReturn body.statements := by
  obtain ⟨found, matched, listed⟩ := listsReturns body
  have nonempty : body.returns ≠ [] ↔ ∃ part, part ∈ found := by
    rw [ne_eq, ← List.length_eq_zero_iff, matched.length_eq, List.length_eq_zero_iff,
      List.eq_nil_iff_forall_not_mem, not_forall_not]
  simp only [nonempty, listed, Somewhere, Among]
  constructor
  · rintro ⟨part, isReturn, statements, nested, statement, member, rfl⟩
    exact ⟨statements, nested, statement, member, isReturn⟩
  · rintro ⟨statements, nested, statement, member, isReturn⟩
    exact ⟨statement, isReturn, statements, nested, statement, member, rfl⟩

/-! ### Searching -/

/-- A search for something with a property finds it if there is any. -/
def Finds {α : Type} (found : Option α) (wanted : α → Prop) : Prop :=
  match found with
  | some value => wanted value
  | none => ∀ value, ¬ wanted value

section Finds

variable {α : Type} {found other : Option α} {wanted alsoWanted : α → Prop}

theorem Finds.congr (finds : Finds found wanted)
    (same : ∀ value, wanted value ↔ alsoWanted value) : Finds found alsoWanted := by
  rwa [← funext fun value => propext (same value)]

/-- Two searches, the second where the first finds nothing, find what either is for. -/
theorem Finds.orElse (first : Finds found wanted) (second : Finds other alsoWanted) :
    Finds (found <|> other) fun value => wanted value ∨ alsoWanted value := by
  cases found with
  | some value => exact .inl first
  | none =>
      cases other with
      | some value => exact .inr second
      | none => exact fun value => not_or.mpr ⟨first value, second value⟩

end Finds

/-! ### Rejections -/

/-- What a statement is that can never become part of a value; `none` if it is none of those. -/
def Syntax.Statement.rejectionKind? : Statement → Option RejectionKind
  | .declaration _ => some .declaration
  | .loop _ => some .loop
  | .fallthrough _ => some .fallthrough
  | .jump _ _ => some .jump
  | .expression _ | .conditional _ | .switch _ | .doBlock _ _ | .returning _ _ _
  | .directive _ => none

/-- A statement is rejected, as recorded. -/
def Syntax.Statement.IsRejectedAs (rejection : Rejection) (statement : Statement) : Prop :=
  statement.rejectionKind? = some rejection.kind ∧ statement.span = rejection.span

/-- One of some statements is rejected, as recorded. -/
abbrev HasRejection (rejection : Rejection) : List Statement → Prop :=
  Among (Statement.IsRejectedAs rejection)

/-- A statement that is none of those that can never become part of a value is not rejected. -/
theorem not_isRejectedAs {statement : Statement} {rejection : Rejection}
    (harmless : statement.rejectionKind? = none) : ¬ statement.IsRejectedAs rejection := by
  rintro ⟨kind, _⟩
  rw [harmless] at kind
  cases kind

/-- What is found in the cases of a `switch` as a `fallthrough` is one. -/
theorem exists_fallthrough_of_eq_some {node : Switch} {span : Span}
    (found : node.fallthrough? = some span) :
    ∃ switchCase ∈ node.cases, Statement.fallthrough span ∈ switchCase.body.statements := by
  obtain ⟨statement, listed, isFallthrough⟩ := List.exists_of_findSome?_eq_some found
  obtain ⟨switchCase, ofNode, ofCase⟩ := List.mem_flatMap.mp listed
  split at isFallthrough
  · cases isFallthrough
    exact ⟨switchCase, ofNode, ofCase⟩
  · cases isFallthrough

mutual

theorem finds_rejection_of_statement : ∀ statement : Statement,
    Finds statement.rejection? fun rejection =>
      statement.IsRejectedAs rejection ∨ statement.Inside false (HasRejection rejection)
  | .conditional node => by
      rw [Statement.rejection?]
      exact (finds_rejection_of_conditional node).congr fun rejection =>
        (or_iff_right (not_isRejectedAs rfl)).symm
  | .switch ⟨span, subject, cases⟩ => by
      rw [Statement.rejection?]
      -- a `fallthrough` directly in a case is looked for before anything else in the cases
      cases direct : (Switch.mk span subject cases).fallthrough? with
      | some place =>
          obtain ⟨switchCase, ofNode, ofCase⟩ := exists_fallthrough_of_eq_some direct
          exact .inr ⟨_, .arm ofNode, _, .here _, _, ofCase, rfl, rfl⟩
      | none =>
          refine (finds_rejection_of_cases cases).congr fun rejection => ?_
          rw [inside_switch, or_iff_right (not_isRejectedAs rfl)]
  | .doBlock _ body => by
      rw [Statement.rejection?]
      exact (finds_rejection body).congr fun rejection =>
        inside_doBlock.symm.trans (or_iff_right (not_isRejectedAs rfl)).symm
  | .declaration _ | .loop _ | .fallthrough _ | .jump _ _ => .inl ⟨rfl, rfl⟩
  | .expression _ | .returning _ _ _ | .directive _ => fun _ =>
      not_or.mpr ⟨not_isRejectedAs rfl, not_inside_of_opens_none (by nofun)⟩

theorem finds_rejection_of_statements : ∀ statements : List Statement,
    Finds (Statement.firstRejection? statements) fun rejection =>
      Somewhere false (HasRejection rejection) statements
  | [] => fun _ => not_somewhere_among_nil
  | statement :: rest => by
      rw [Statement.firstRejection?]
      exact ((finds_rejection_of_statement statement).orElse
        (finds_rejection_of_statements rest)).congr fun _ => somewhere_among_cons.symm

/-- **The search for a rejected statement finds one of the body** if there is one. -/
theorem finds_rejection : ∀ body : Block,
    Finds body.rejection? fun rejection =>
      Somewhere false (HasRejection rejection) body.statements
  | ⟨_, statements⟩ => by
      rw [Block.rejection?]
      exact finds_rejection_of_statements statements

theorem finds_rejection_of_conditional : ∀ node : Conditional,
    Finds node.rejection? fun rejection =>
      (Statement.conditional node).Inside false (HasRejection rejection)
  | ⟨_, _, thenBlock, none⟩ => by
      rw [Conditional.rejection?]
      exact (finds_rejection thenBlock).congr fun _ => inside_conditional.symm
  | ⟨_, _, thenBlock, some otherwise⟩ => by
      rw [Conditional.rejection?]
      exact ((finds_rejection thenBlock).orElse
        (finds_rejection_of_alternative otherwise)).congr fun _ => inside_conditional_else.symm

theorem finds_rejection_of_alternative : ∀ otherwise : Syntax.Alternative,
    Finds otherwise.rejection? fun rejection =>
      Somewhere false (HasRejection rejection) otherwise.statements
  | .block node => by
      rw [Alternative.rejection?, Alternative.statements]
      exact finds_rejection node
  | .chained node => by
      rw [Alternative.rejection?, Alternative.statements]
      refine (finds_rejection_of_conditional node).congr fun rejection => ?_
      rw [somewhere_among_cons, or_iff_left not_somewhere_among_nil,
        or_iff_right (not_isRejectedAs rfl)]

theorem finds_rejection_of_cases : ∀ cases : List SwitchCase,
    Finds (SwitchCase.rejection? cases) fun rejection =>
      ∃ switchCase ∈ cases, Somewhere false (HasRejection rejection) switchCase.body.statements
  | [] => by
      rintro rejection ⟨_, listed, _⟩
      cases listed
  | ⟨_, _, body⟩ :: rest => by
      rw [SwitchCase.rejection?]
      refine ((finds_rejection body).orElse (finds_rejection_of_cases rest)).congr fun _ => ?_
      simp only [List.mem_cons, exists_eq_or_imp]

end

end ResultBuilder
