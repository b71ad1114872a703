import ResultBuilder.Proofs.Syntax.Bare
import ResultBuilder.Proofs.Syntax.Returns.Without
import ResultBuilder.Proofs.Syntax.Yields

/-!
# Counting returns

Returns that are listed are counted twice: in a tree, and among the tokens that are left. What a
parser reads holds no more of them than it takes keywords, so that where a program holds all of
them, each keyword is that of one of the returns, and none is in a part of the source that leaves
nothing in the tree, such as a pattern or a `where` clause. A keyword counts only where a statement
may start, and a return only where it does not follow a declaration that ends with its signature.

* **`Token.isSiteOf`**, **`Cursor.left`**: the keywords that count and how many of them are left.
* **`Node.tally`**: how many of the returns are in a tree.
* **`Cursor.Counted`**: all keywords that are left count.
-/

namespace ResultBuilder.Syntax

/-- Whether a statement may start right behind a token of a kind, on the same line. -/
def TokenKind.opensStatement : TokenKind → Bool
  | .symbol .braceOpen | .symbol .semicolon | .symbol .colon | .keyword .in_ => true
  | _ => false

variable (sites : List ReturnSite)

/-! ### Keywords among tokens -/

/-- Whether a token is the keyword of a return that is listed. -/
def Token.isReturnOf (token : Token) : Bool :=
  token.kind == .keyword .return_ && sites.any (·.keyword == token.span)

/-- **Whether a token counts**, given whether a statement may start there and the token after it: it
is the keyword of a return that is listed, and the value of that comes next. -/
def Token.isSiteOf (opens : Bool) (token : Token) (next : Option Token) : Bool :=
  opens && token.kind == .keyword .return_ && sites.any fun site =>
    site.keyword == token.span && site.value.all fun place => next.all fun other =>
      other.span.start == place.start && other.kind != .keyword .return_

/-- How many tokens count, given whether a statement may start with the first of them. -/
def ReturnSite.left : Bool → List Token → Nat
  | _, [] => 0
  | opens, token :: rest =>
      (if token.isSiteOf sites (opens || token.newlineBefore) rest.head? then 1 else 0) +
        ReturnSite.left token.kind.opensStatement rest

/-- Whether all tokens count that are keywords of returns that are listed, given whether a statement
may start with the first of them. -/
def ReturnSite.AllCount : Bool → List Token → Prop
  | _, [] => True
  | opens, token :: rest =>
      (token.isReturnOf sites = true →
        token.isSiteOf sites (opens || token.newlineBefore) rest.head? = true) ∧
        ReturnSite.AllCount token.kind.opensStatement rest

section Tokens

variable {sites} {opens : Bool} {token : Token} {next : Option Token} {tokens : List Token}

theorem Token.isReturnOf_of_isSiteOf (isSite : token.isSiteOf sites opens next = true) :
    opens = true ∧ token.isReturnOf sites = true := by
  simp only [isSiteOf, Bool.and_eq_true, List.any_eq_true] at isSite
  obtain ⟨⟨opens, isReturn⟩, site, listed, same, -⟩ := isSite
  exact ⟨opens, by simpa [isReturnOf, beq_iff_eq.mp isReturn] using
    ⟨site, listed, beq_iff_eq.mp same⟩⟩

theorem Token.kind_of_isReturnOf (isReturn : token.isReturnOf sites = true) :
    token.kind = .keyword .return_ :=
  beq_iff_eq.mp (Bool.and_eq_true_iff.mp isReturn).1

theorem Token.isReturnOf_of_kind (other : token.kind ≠ .keyword .return_) :
    token.isReturnOf sites = false :=
  Bool.eq_false_iff.mpr fun isReturn => other (kind_of_isReturnOf isReturn)

/-- A token counts all the more where a statement may start. -/
theorem Token.isSiteOf_mono (isSite : token.isSiteOf sites opens next = true) :
    token.isSiteOf sites true next = true := by
  rwa [(isReturnOf_of_isSiteOf isSite).1] at isSite

namespace ReturnSite

theorem left_cons_of_kind {rest : List Token} (other : token.kind ≠ .keyword .return_) :
    left sites opens (token :: rest) = left sites token.kind.opensStatement rest := by
  rw [left, if_neg, Nat.zero_add]
  exact fun isSite => other (Token.kind_of_isReturnOf (Token.isReturnOf_of_isSiteOf isSite).2)

theorem left_le {more : Bool} (implies : opens = true → more = true) :
    left sites opens tokens ≤ left sites more tokens := by
  cases tokens with
  | nil => exact Nat.le_refl _
  | cons token rest =>
      refine Nat.add_le_add_right ?_ _
      split
      · next isSite =>
          have starts := (Token.isReturnOf_of_isSiteOf isSite).1
          rw [starts] at isSite
          rw [if_pos]
          rcases Bool.or_eq_true_iff.mp starts with opens | newline
          · rwa [implies opens]
          · rwa [newline, Bool.or_true]
      · exact Nat.zero_le _

theorem left_cons_le {rest : List Token} :
    left sites false rest ≤ left sites opens (token :: rest) :=
  (left_le (fun no => absurd no Bool.false_ne_true)).trans (Nat.le_add_left _ _)

/-- There are no more keywords behind some tokens than with them. -/
theorem left_drop_le (count : Nat) :
    left sites false (tokens.drop count) ≤ left sites opens tokens := by
  induction count generalizing opens tokens with
  | zero => exact left_le nofun
  | succ count ih =>
      cases tokens with
      | nil => exact Nat.le_refl _
      | cons token rest => exact (@ih false rest).trans left_cons_le

/-- **Where no fewer keywords are left behind some tokens**, none of these is one. -/
theorem isReturnOf_of_left_drop {count : Nat} (all : AllCount sites opens tokens)
    (same : left sites false (tokens.drop count) = left sites opens tokens) :
    ∀ token ∈ tokens.take count, token.isReturnOf sites = false := by
  induction count generalizing opens tokens with
  | zero => exact List.forall_mem_nil _
  | succ count ih =>
      cases tokens with
      | nil => exact List.forall_mem_nil _
      | cons token rest =>
          have fewer := @left_drop_le sites token.kind.opensStatement rest count
          rw [List.drop_succ_cons, left] at same
          have others := ih all.2 (by omega)
          refine List.forall_mem_cons.mpr ⟨Bool.eq_false_iff.mpr fun isReturn => ?_, others⟩
          -- a keyword would be one more than are left behind it
          rw [if_pos (all.1 isReturn)] at same
          omega

/-- All tokens count behind some of them when as many are left as with them. -/
theorem AllCount.drop {count : Nat} (all : AllCount sites opens tokens)
    (same : left sites false (tokens.drop count) = left sites opens tokens) :
    AllCount sites false (tokens.drop count) := by
  induction count generalizing opens tokens with
  | zero =>
      cases tokens with
      | nil => trivial
      | cons token rest =>
          -- only the first token may count less where no statement may start
          refine ⟨fun isReturn => ?_, all.2⟩
          have isSite := all.1 isReturn
          rw [List.drop_zero, left, left, if_pos isSite] at same
          by_contra notSite
          rw [if_neg notSite] at same
          omega
  | succ count ih =>
      cases tokens with
      | nil => trivial
      | cons token rest =>
          have fewer := @left_drop_le sites token.kind.opensStatement rest count
          rw [List.drop_succ_cons, left] at same
          exact ih all.2 (by omega)

end ReturnSite

end Tokens

namespace Cursor

/-- **How many keywords that count are left**, given whether a statement may start here. -/
def left (opens : Bool) (c : Cursor) : Nat :=
  ReturnSite.left sites opens c.rest

/-- **All keywords that are left count**, given whether a statement may start here. -/
def Counted (opens : Bool) (c : Cursor) : Prop :=
  ReturnSite.AllCount sites opens c.rest

variable {sites} {opens more : Bool} {c : Cursor}

theorem left_le (implies : opens = true → more = true) : c.left sites opens ≤ c.left sites more :=
  ReturnSite.left_le implies

/-- Where as many keywords are left whether or not a statement may start, all count either way. -/
theorem Counted.weaken (counted : c.Counted sites more)
    (same : c.left sites opens = c.left sites more) : c.Counted sites opens := by
  cases opens with
  | false => exact @ReturnSite.AllCount.drop sites more c.rest 0 counted same
  | true =>
      cases more with
      | true => exact counted
      | false =>
          unfold Counted at *
          cases rest : c.rest with
          | nil => trivial
          | cons token tokens =>
              rw [rest] at counted
              exact ⟨fun isReturn => Token.isSiteOf_mono (counted.1 isReturn), counted.2⟩

/-- Taking a token leaves what is behind it. -/
theorem rest_eq_cons (notEnd : c.next.kind ≠ .endOfFile) : c.rest = c.next :: c.advance.rest := by
  have goesOn : ¬ (c.next.kind == .endOfFile) = true := by rwa [beq_iff_eq]
  rw [advance, if_neg goesOn, skip_rest]
  unfold next at *
  cases rest : c.rest with
  | nil => rw [rest] at notEnd; exact absurd rfl notEnd
  | cons token tokens => rfl

/-- Behind a token that is kept there are as many keywords left. -/
theorem left_advance_of_kept (notEnd : c.next.kind ≠ .endOfFile)
    (kept : c.next.isReturnOf sites = false) :
    c.left sites opens = c.advance.left sites c.next.kind.opensStatement := by
  rw [left, rest_eq_cons notEnd, ReturnSite.left, if_neg, Nat.zero_add]
  · rfl
  · exact fun isSite => Bool.eq_false_iff.mp kept (Token.isReturnOf_of_isSiteOf isSite).2

theorem left_advance (notEnd : c.next.kind ≠ .endOfFile) (other : c.next.kind ≠ .keyword .return_) :
    c.left sites opens = c.advance.left sites c.next.kind.opensStatement :=
  left_advance_of_kept notEnd (Token.isReturnOf_of_kind other)

theorem Counted.advance (counted : c.Counted sites opens) (notEnd : c.next.kind ≠ .endOfFile) :
    c.advance.Counted sites c.next.kind.opensStatement := by
  rw [Counted, rest_eq_cons notEnd] at counted
  exact counted.2

theorem left_advance_le : c.advance.left sites false ≤ c.left sites opens := by
  unfold Cursor.advance
  split
  · exact left_le nofun
  · exact ReturnSite.left_drop_le 1

/-- Nothing but a return counts only where a statement may start. -/
theorem left_eq (other : c.next.kind ≠ .keyword .return_) :
    c.left sites opens = c.left sites more := by
  unfold left next at *
  cases rest : c.rest with
  | nil => rfl
  | cons token tokens =>
      rw [rest] at other
      have noReturn : token.kind ≠ .keyword .return_ := other
      rw [ReturnSite.left_cons_of_kind noReturn, ReturnSite.left_cons_of_kind noReturn]

/-- A statement may start on a new line. -/
theorem left_eq_of_newline (starts : c.next.newlineBefore = true) :
    c.left sites opens = c.left sites more := by
  unfold left next at *
  cases rest : c.rest with
  | nil => rfl
  | cons token tokens =>
      rw [rest] at starts
      rw [ReturnSite.left, ReturnSite.left, show token.newlineBefore = true from starts,
        Bool.or_true, Bool.or_true]

/-- **The keyword of a return that is listed is taken.** -/
theorem left_advance_lt {value : Option Span} (isReturn : c.next.kind = .keyword .return_)
    (listed : ⟨c.next.span, value⟩ ∈ sites)
    (follows : ∀ place ∈ value, c.advance.next.span.start = place.start ∧
      c.advance.next.kind ≠ .keyword .return_) :
    c.advance.left sites false + 1 ≤ c.left sites true := by
  have isSite : c.next.isSiteOf sites (true || c.next.newlineBefore) c.advance.rest.head? =
      true := by
    simp only [Token.isSiteOf, Bool.true_or, Bool.true_and, Bool.and_eq_true, beq_iff_eq, isReturn,
      List.any_eq_true, true_and]
    refine ⟨_, listed, rfl, (Option.all_eq_true _ _).mpr fun place isPlace =>
      (Option.all_eq_true _ _).mpr fun other isNext => ?_⟩
    have same : c.advance.next = other := by
      rw [next, List.headD_eq_head?_getD, isNext]
      rfl
    obtain ⟨starts, noReturn⟩ := follows place isPlace
    rw [same] at starts noReturn
    simp [starts, noReturn]
  rw [left, left, rest_eq_cons (c := c) (by rw [isReturn]; decide), ReturnSite.left,
    if_pos isSite, isReturn, Nat.add_comm]
  exact Nat.le_refl _

/-- The keyword of a return that counts is taken. -/
theorem Counted.left_advance (counted : c.Counted sites opens)
    (isReturn : c.next.isReturnOf sites = true) :
    c.left sites opens = c.advance.left sites false + 1 := by
  have kind := Token.kind_of_isReturnOf isReturn
  have cut := rest_eq_cons (c := c) (by rw [kind]; exact nofun)
  rw [Counted, cut] at counted
  rw [left, cut, ReturnSite.left, if_pos (counted.1 isReturn), kind, Nat.add_comm]
  rfl

end Cursor

/-! ### Returns in trees -/

/-- Whether a statement is one of the returns that are listed. -/
def Statement.isSiteOf : Statement → Bool
  | .returning _ keyword value => ⟨keyword, value.map (·.span)⟩ ∈ sites
  | _ => false

/-- How many of some statements count, given whether a declaration that ends with its signature is
before them. -/
def Statement.countReturns : Bool → List Statement → Nat
  | _, [] => 0
  | behind, statement :: rest =>
      (if !behind && statement.isSiteOf sites then 1 else 0) +
        Statement.countReturns statement.endsWithSignature rest

/-- How many of the returns that are listed are directly in a node. -/
def Node.countReturns : Node → Nat
  | .block node => Statement.countReturns sites false node.statements
  | _ => 0

/-- **How many of the returns that are listed are in a node.** -/
def Node.tally (node : Node) : Nat :=
  node.countReturns sites +
    node.children.attach.foldr (fun child others => child.1.tally + others) 0
termination_by sizeOf node
decreasing_by exact node.smaller_children child.1 child.2

/-- How many of the returns that are listed are in some nodes. -/
def Node.tallies (nodes : List Node) : Nat :=
  nodes.foldr (fun node others => node.tally sites + others) 0

namespace Node

theorem tally_eq (node : Node) :
    node.tally sites = node.countReturns sites + tallies sites node.children := by
  rw [tally, tallies,
    ← List.foldr_attach (f := fun node others => tally sites node + others)]

@[simp] theorem tallies_nil : tallies sites [] = 0 := rfl

@[simp] theorem tallies_cons (node : Node) (nodes : List Node) :
    tallies sites (node :: nodes) = node.tally sites + tallies sites nodes := rfl

@[simp] theorem tallies_append (front back : List Node) :
    tallies sites (front ++ back) = tallies sites front + tallies sites back := by
  induction front with
  | nil => exact (Nat.zero_add _).symm
  | cons node rest ih => rw [List.cons_append, tallies_cons, tallies_cons, ih, Nat.add_assoc]

theorem tallies_eq_zero_iff {nodes : List Node} :
    tallies sites nodes = 0 ↔ ∀ node ∈ nodes, node.tally sites = 0 := by
  induction nodes with
  | nil => simp
  | cons node rest ih => simp [ih]

/-- Items without returns. -/
@[simp] theorem tallies_map_eq_zero {α : Type} {wrap : α → Node}
    (none : ∀ item, (wrap item).tally sites = 0) (items : List α) :
    tallies sites (items.map wrap) = 0 := by
  induction items with
  | nil => rfl
  | cons item rest ih => rw [List.map_cons, tallies_cons, none, ih]

@[simp] theorem tally_name (node : Name) : (Node.name node).tally sites = 0 := by
  rw [tally_eq]; rfl

@[simp] theorem tally_mark (span : Span) : (Node.mark span).tally sites = 0 := by
  rw [tally_eq]; rfl

@[simp] theorem tally_attribute (node : Attribute) : (Node.attribute node).tally sites = 0 := by
  rw [tally_eq]; rfl

@[simp] theorem tally_pattern (node : Pattern) : (Node.pattern node).tally sites = 0 := by
  rw [tally_eq]; rfl

@[simp] theorem tally_type (node : DeclaredType) : (Node.type node).tally sites = 0 := by
  induction node using DeclaredType.induction with
  | step type ih =>
      rw [tally_eq, countReturns, Nat.zero_add]
      · refine (tallies_eq_zero_iff sites).mpr fun child member => ?_
        cases type with
        | named span name args | tuple span elements =>
            obtain ⟨part, listed, rfl⟩ := List.mem_map.mp member
            exact ih part member
        | optional span wrapped | someOf span bound =>
            obtain rfl := List.mem_singleton.mp member
            exact ih _ member
        | function span params result =>
            rcases List.mem_append.mp member with isParam | isResult
            · obtain ⟨part, listed, rfl⟩ := List.mem_map.mp isParam
              exact ih part member
            · obtain rfl := List.mem_singleton.mp isResult
              exact ih _ member
      · exact fun _ => nofun

@[simp] theorem tally_generic (node : GenericParam) : (Node.generic node).tally sites = 0 := by
  rw [tally_eq]
  simp [countReturns, children]

@[simp] theorem tally_param (node : Param) : (Node.param node).tally sites = 0 := by
  rw [tally_eq]
  simp only [countReturns, children, ofParam]
  split <;> simp
  split <;> simp

@[simp] theorem tally_enumCase (node : EnumCase) : (Node.enumCase node).tally sites = 0 := by
  rw [tally_eq]
  simp [countReturns, children]

@[simp] theorem tally_expression (node : Expr) :
    (Node.expression node).tally sites = tallies sites (ofExpr node) := by
  rw [tally_eq]
  exact Nat.zero_add _

@[simp] theorem tally_argument (node : Argument) :
    (Node.argument node).tally sites = tallies sites (ofExpr node.value) := by
  rw [tally_eq]
  simp [countReturns, children]

@[simp] theorem tally_block (node : Block) :
    (Node.block node).tally sites = Statement.countReturns sites false node.statements +
      tallies sites (node.statements.map .statement) :=
  tally_eq sites _

@[simp] theorem tally_closure (node : Closure) :
    (Node.closure node).tally sites = (Node.block node.body).tally sites := by
  rw [tally_eq]
  simp [countReturns, children]

@[simp] theorem tally_condition (node : Condition) :
    (Node.condition node).tally sites = tallies sites (ofCondition node) := by
  rw [tally_eq]
  exact Nat.zero_add _

@[simp] theorem tally_switchCase (node : SwitchCase) :
    (Node.switchCase node).tally sites = (Node.block node.body).tally sites := by
  rw [tally_eq]
  cases label : node.label <;> simp [countReturns, children, label, ofLabel]

@[simp] theorem tally_declaration (node : Declaration) :
    (Node.declaration node).tally sites = tallies sites (ofDeclaration node) := by
  rw [tally_eq]
  exact Nat.zero_add _

@[simp] theorem tally_statement (node : Statement) :
    (Node.statement node).tally sites = tallies sites (ofStatement node) := by
  rw [tally_eq]
  exact Nat.zero_add _

end Node

end ResultBuilder.Syntax
