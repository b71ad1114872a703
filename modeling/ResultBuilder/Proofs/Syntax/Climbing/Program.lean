import ResultBuilder.Proofs.Syntax.Climbing.Parsing
import ResultBuilder.Proofs.Syntax.Reading.Statement

/-!
# How expressions are grouped

Every operand in a parsed source binds at least as tightly as the operator it belongs to needs,
unless it is in parentheses. Operands with binary operators between them on one line are parsed as
the one tree that reads like them in which that is so.

* **`Expr.OperandsBind`**: the operands of an expression bind tightly enough.
* **`parse_of_readsRow`**: a source that is a row is parsed as the tree of that row.
* **`operandsBind_and_groupsRows`**: both, for every source.
-/

namespace ResultBuilder.Syntax

variable {c c' : Cursor} {region : Region}

/-! ### Sources that are rows -/

namespace Parser

variable {inner : Inner}

/-- Whether a token of a kind starts an operand. -/
def opensOperand : TokenKind → Bool
  | .integer | .float | .string | .identifier | .keyword .true_ | .keyword .false_ | .keyword .nil_
  | .keyword .self_ | .symbol .underscore | .symbol .dot | .symbol .parenOpen | .symbol .bracketOpen
  | .symbol .braceOpen | .symbol .bang | .symbol .minus => true
  | _ => false

theorem opensOperand_of_yields_unary {operand : Expr}
    (yields : (Parser.unary inner region).Yields c operand c') :
    opensOperand c.next.kind = true := by
  have yields := yields_unary.mp yields
  split at yields
  · next op isOp =>
      unfold unaryOp? at isOp
      split at isOp
      · next isNext => rw [isNext]; rfl
      · next isNext => rw [isNext]; rfl
      · cases isOp
  · obtain ⟨operand, middle, read, -⟩ := yields
    have read := yields_primary.mp read
    dsimp only at read
    split at read
    case h_14 => exact read.elim
    all_goals next isNext => rw [isNext]; rfl

/-- A statement that starts like an operand is an expression. -/
theorem yields_statement_of_opensOperand {expr : Expr} (opens : opensOperand c.next.kind = true)
    (yields : (Parser.expression inner .statement).Yields c expr c') :
    (Parser.statement inner).Yields c (.expression expr) c' := by
  rw [yields_statement]
  dsimp only
  split
  case h_20 => exact ⟨expr, yields, rfl⟩
  all_goals next isNext => rw [isNext] at opens; cases opens

/-- A row in front of the end of the file is an expression. -/
theorem yields_expression_of_binary {expr : Expr}
    (yields : (Parser.binary inner region 1).Yields c expr c') (isEnd : c'.next.kind = .endOfFile) :
    (Parser.expression inner region).Yields c expr c' := by
  refine yields_expression.mpr ⟨expr, c', yields_ternary.mpr ⟨expr, c', yields, ?_⟩, ?_⟩
  · rw [if_pos (.inl (by rw [isEnd]; exact nofun))]
    exact ⟨rfl, rfl⟩
  · rw [if_neg fun isSign => by rw [isEnd] at isSign; cases isSign.1]
    exact ⟨rfl, rfl⟩

end Parser

/-- **A source that is a row is parsed as the tree of that row.** -/
theorem parse_of_readsRow {source : String} {tokens : List Token} {row : Row}
    (cut : tokenize source = .ok tokens)
    (reads : (Cursor.atStart source.toList tokens).ReadsRow .statement row c')
    (isEnd : c'.next.kind = .endOfFile) :
    ∃ tree : Expr, tree.IsTreeOf row ∧ parse source = .ok ⟨[.expression tree]⟩ := by
  have sound := Cursor.IsSound.of_tokenize cut
  obtain ⟨tree, isTree, whole⟩ := reads.exists_tree sound le_rfl
  refine ⟨tree, isTree, parse_eq_ok_iff.mpr ⟨tokens, cut, c', ?_⟩⟩
  change ((Parser.innerOfDepth tokens.length).binary .statement 1).Yields _ tree c' at whole
  obtain ⟨depth, some⟩ := Nat.exists_eq_succ_of_ne_zero sound.length_pos.ne'
  change tokens.length = depth + 1 at some
  rw [some] at whole ⊢
  have opens : Parser.opensOperand (Cursor.atStart source.toList tokens).next.kind = true := by
    obtain ⟨first, middle, read, -⟩ := Parser.yields_binary.mp whole
    exact Parser.opensOperand_of_yields_unary read
  have statement := Parser.yields_statement_of_opensOperand opens
    (Parser.yields_expression_of_binary whole isEnd)
  have start :
      (Cursor.atStart source.toList tokens).pastSemicolons = .atStart source.toList tokens :=
    Cursor.pastSemicolons_eq fun isSign => by rw [isSign] at opens; cases opens
  have stop : c'.pastSemicolons = c' := Cursor.pastSemicolons_eq (by rw [isEnd]; exact nofun)
  have ends : Parser.endStatement.Yields c' () c' := by
    rw [Parser.yields_endStatement, isEnd, if_neg nofun]
    exact ⟨Bool.or_true _, rfl⟩
  refine Parser.yields_sequence.mpr ?_
  rw [start, if_neg fun stops => ?_]
  · refine ⟨_, c', statement, (), c', ends, [], ?_, rfl⟩
    cases depth with
    | zero => exact Parser.yields_pure.mpr ⟨rfl, rfl⟩
    | succ depth =>
        rw [Parser.yields_sequence, stop, isEnd]
        exact ⟨rfl, rfl⟩
  · rw [Bool.or_false, beq_iff_eq] at stops
    rw [stops] at opens
    cases opens

/-! ### Operands -/

namespace Expr

/-- Whether an expression is a conditional one or an assignment, which bind less tightly than every
binary operator. -/
def isLoosest : Expr → Bool
  | .ternary _ _ _ _ | .assign _ _ _ _ => true
  | _ => false

/-- Whether an expression binds less tightly than an operator in front of an operand. -/
def isLoose : Expr → Bool
  | .binary _ _ _ _ => true
  | expr => expr.isLoosest

/-- Whether an expression binds less tightly than what goes on an operand. -/
def isOpen : Expr → Bool
  | .unary _ _ _ => true
  | expr => expr.isLoose

/-- **Operands that bind tightly enough**: the left one of a binary operator is no operation of
lower precedence and the right one none of lower or equal precedence; what an operator stands in
front of is no binary operation, conditional expression or assignment, and what something goes on is
no operation with an operator in front either; a condition is no conditional expression or
assignment. An expression in parentheses is none of these. -/
def OperandsBind : Expr → Prop
  | .binary _ left op right => left.BindsAt op.precedence ∧ right.BindsAt (op.precedence + 1)
  | .unary _ _ operand => operand.isLoose = false
  | .postfixed _ operand _ | .member _ operand _ | .call _ operand _ _ | .subscript _ operand _ =>
      operand.isOpen = false
  | .ternary _ condition _ _ => condition.isLoosest = false
  | _ => True

variable {expr : Expr} {least : Nat}

theorem bindsAt_of_rank (tight : least + 1 ≤ expr.rank) : expr.BindsAt least := by
  cases expr with
  | binary span left op right => exact Nat.le_of_succ_le_succ tight
  | _ => trivial

theorem isLoosest_of_rank (tight : 2 ≤ expr.rank) : expr.isLoosest = false := by
  cases expr with
  | ternary | assign => simp [rank] at tight
  | _ => rfl

theorem isLoose_of_rank (tight : 8 ≤ expr.rank) : expr.isLoose = false := by
  cases expr with
  | binary span left op right =>
      have small := op.precedence_le
      simp only [rank] at tight
      omega
  | ternary | assign => simp [rank] at tight
  | _ => rfl

theorem isOpen_of_rank (tight : expr.rank = 9) : expr.isOpen = false := by
  have loose := isLoose_of_rank (tight ▸ by decide : 8 ≤ expr.rank)
  cases expr with
  | unary => cases tight
  | _ => exact loose

/-- **The operands of a legible expression bind tightly enough.** -/
theorem IsLegible.operandsBind (legible : expr.IsLegible) : expr.OperandsBind := by
  cases expr with
  | binary => exact ⟨bindsAt_of_rank legible.1, bindsAt_of_rank legible.2⟩
  | unary => exact isLoose_of_rank legible
  | postfixed | member => exact isOpen_of_rank legible.1
  | call | subscript => exact isOpen_of_rank legible
  | ternary => exact isLoosest_of_rank legible.1
  | _ => trivial

end Expr

/-! ### Sources -/

/-- **How expressions are grouped.** In a source that is cut into tokens:

* the operands of all expressions that it is parsed as bind tightly enough;
* from every place in it, operands with binary operators between them on one line are parsed as the
  one grouped tree that reads as they do, and nothing but such trees is parsed there;
* if the source is such a row, that tree is all that it is parsed as.

The tree of operators of the same precedence is grouped to the left. -/
theorem operandsBind_and_groupsRows {source : String} {tokens : List Token}
    (cut : tokenize source = .ok tokens) :
    (∀ program, parse source = .ok program →
      ∀ expr : Expr, (Node.expression expr).WithinProgram program → expr.OperandsBind) ∧
    (∀ c, (Cursor.atStart source.toList tokens).Reaches c →
      ∀ region depth, c.rest.length ≤ depth → c.GroupsRows region depth) ∧
    (∀ row c', (Cursor.atStart source.toList tokens).ReadsRow .statement row c' →
      c'.next.kind = .endOfFile →
        ∃ tree : Expr, tree.IsTreeOf row ∧ parse source = .ok ⟨[.expression tree]⟩) ∧
    ∀ row level, (∀ next ∈ row.rest, next.1.precedence = level) → ∀ tree : Expr, tree.IsTreeOf row →
      tree = row.rest.foldl (fun tree next =>
        .binary ⟨tree.span.start, next.2.span.stop⟩ tree next.1 next.2) row.first := by
  have sound := Cursor.IsSound.of_tokenize cut
  refine ⟨fun program parsed expr within => ?_, fun c reaches region depth enough => ?_,
    fun row c' reads isEnd => parse_of_readsRow cut reads isEnd,
    fun row level equal tree isTree => ?_⟩
  · exact ((Program.isSound_of_parse parsed).1 _ within).legible.operandsBind
  · exact (sound.of_reaches reaches).groupsRows enough
  · obtain ⟨grouped, rfl, -⟩ := isTree
    rw [← Row.tree_of_equal tree.isOperand_inOrder equal, grouped.tree_inOrder]

/-- The tokens of a difference of three terms, the last of which is a product. -/
def differenceTokens : List Token :=
  [⟨.identifier, ⟨0, 1⟩, "a", false⟩, ⟨.symbol .minus, ⟨2, 3⟩, "-", false⟩,
    ⟨.identifier, ⟨4, 5⟩, "b", false⟩, ⟨.symbol .minus, ⟨6, 7⟩, "-", false⟩,
    ⟨.identifier, ⟨8, 9⟩, "c", false⟩, ⟨.symbol .star, ⟨10, 11⟩, "*", false⟩,
    ⟨.identifier, ⟨12, 13⟩, "d", false⟩, ⟨.endOfFile, ⟨13, 13⟩, "", false⟩]

/-- The row that they make up. -/
def differenceRow : Row :=
  ⟨.ident ⟨0, 1⟩ "a", [(.subtract, .ident ⟨4, 5⟩ "b"), (.subtract, .ident ⟨8, 9⟩ "c"),
    (.multiply, .ident ⟨12, 13⟩ "d")]⟩

/-- The tree of that row. -/
def differenceTree : Expr :=
  .binary ⟨0, 13⟩
    (.binary ⟨0, 5⟩ (.ident ⟨0, 1⟩ "a") .subtract (.ident ⟨4, 5⟩ "b")) .subtract
    (.binary ⟨8, 13⟩ (.ident ⟨8, 9⟩ "c") .multiply (.ident ⟨12, 13⟩ "d"))

/-- A source that is a row is parsed as the tree of that row, the operands of which bind tightly
enough. -/
theorem parse_difference :
    tokenize "a - b - c * d" = .ok differenceTokens ∧
      parse "a - b - c * d" = .ok ⟨[.expression differenceTree]⟩ ∧
      differenceTree.OperandsBind ∧ differenceTree.IsTreeOf differenceRow ∧
      (Cursor.atStart "a - b - c * d".toList differenceTokens).GroupsRows .statement 8 := by
  have cut : tokenize "a - b - c * d" = .ok differenceTokens := by decide +kernel
  obtain ⟨bind, groups, whole, -⟩ := operandsBind_and_groupsRows cut
  let start : Cursor := .atStart "a - b - c * d".toList differenceTokens
  have first : start.ReadsOperand .statement (.ident ⟨0, 1⟩ "a") (start.skip 1) := rfl
  have second : (start.skip 2).ReadsOperand .statement (.ident ⟨4, 5⟩ "b") (start.skip 3) := rfl
  have third : (start.skip 4).ReadsOperand .statement (.ident ⟨8, 9⟩ "c") (start.skip 5) := rfl
  have fourth : (start.skip 6).ReadsOperand .statement (.ident ⟨12, 13⟩ "d") (start.skip 7) := rfl
  have reads : start.ReadsRow .statement differenceRow (start.skip 7) :=
    ⟨⟨_, first, .next rfl rfl second (.next rfl rfl third (.next rfl rfl fourth (.done _)))⟩, nofun⟩
  obtain ⟨tree, isTree, parsed⟩ := whole differenceRow (start.skip 7) reads rfl
  have grouped : differenceTree.IsGrouped := by
    refine ⟨rfl, ⟨⟨rfl, ⟨trivial, trivial⟩, trivial, trivial⟩, ?_⟩,
      ⟨rfl, ⟨trivial, trivial⟩, trivial, trivial⟩, ?_⟩
    · exact Nat.le_refl 5
    · exact Nat.le_refl 6
  obtain rfl := isTree.2.2 differenceTree grouped rfl
  exact ⟨cut, parsed, bind _ parsed _ ⟨_, .head _, .child (.head _) (.self _)⟩, isTree,
    groups _ (Cursor.IsSound.of_tokenize cut).reaches_self _ _ (Nat.le_refl 8)⟩

/-- **A condition may be an operation**: that binds more tightly than the conditional operator. -/
theorem exists_loose_condition :
    ∃ program span condition thenValue elseValue,
      parse "a < b ? c : d" = .ok program ∧
        (Node.expression (.ternary span condition thenValue elseValue)).WithinProgram program ∧
        condition.isLoose = true := by
  have cut : tokenize "a < b ? c : d" = .ok
      [⟨.identifier, ⟨0, 1⟩, "a", false⟩, ⟨.symbol .less, ⟨2, 3⟩, "<", false⟩,
        ⟨.identifier, ⟨4, 5⟩, "b", false⟩, ⟨.symbol .question, ⟨6, 7⟩, "?", false⟩,
        ⟨.identifier, ⟨8, 9⟩, "c", false⟩, ⟨.symbol .colon, ⟨10, 11⟩, ":", false⟩,
        ⟨.identifier, ⟨12, 13⟩, "d", false⟩, ⟨.endOfFile, ⟨13, 13⟩, "", false⟩] := by
    decide +kernel
  have parsed : parse "a < b ? c : d" = .ok ⟨[.expression (.ternary ⟨0, 13⟩
      (.binary ⟨0, 5⟩ (.ident ⟨0, 1⟩ "a") .less (.ident ⟨4, 5⟩ "b"))
      (.ident ⟨8, 9⟩ "c") (.ident ⟨12, 13⟩ "d"))]⟩ := parse_of_ofTokens cut rfl
  exact ⟨_, _, _, _, _, parsed, ⟨_, .head _, .child (.head _) (.self _)⟩, rfl⟩

end ResultBuilder.Syntax
