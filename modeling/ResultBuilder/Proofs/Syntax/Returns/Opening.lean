import ResultBuilder.Proofs.Syntax.Printing.Block

/-!
# How constructs start

What is known of a construct from the tokens that it starts with: an expression starts where its
span does, and a name is the whole of it when a token comes next that no expression goes on with.

* **`Parser.opens_expression`**, **`Parser.opens_type`**: the tokens that constructs start with.
* **`Parser.goesOn_statement`**: tokens that no statement starts with.
* **`Parser.halts_expression`**: names before tokens that end them.
-/

namespace ResultBuilder.Syntax

/-! ### Kinds of tokens -/

/-- Whether an expression starts with a token. -/
def opensExpr (kind : TokenKind) : Bool :=
  startsExpr 0 kind || kind == .float

/-- Whether a token goes on with what is before it, so that no statement starts with it and none
ends there on the same line. -/
def goesOn : TokenKind → Bool
  | .keyword .else_ | .keyword .in_ | .symbol .comma | .symbol .colon | .symbol .attachedQuestion
  | .symbol .attachedBang => true
  | _ => false

/-- Whether an expression that is a name ends before a token. -/
def haltsName : TokenKind → Bool
  | .keyword .return_ | .keyword .in_ | .symbol .comma => true
  | _ => false

theorem goesOn_of_opensExpr {kind : TokenKind} (opens : opensExpr kind = true) :
    goesOn kind = false := by
  unfold goesOn
  split <;> first | rfl | exact absurd opens (by decide)

theorem ne_return_of_opensExpr {kind : TokenKind} (opens : opensExpr kind = true) :
    kind ≠ .keyword .return_ := by
  rintro rfl
  exact absurd opens (by decide)

namespace Parser

variable {inner : Inner} {region : Region} {c c' : Cursor} {expr : Expr}

/-! ### Expressions -/

theorem span_closure {closure : Closure} (yields : (Parser.closure inner).Yields c closure c') :
    c.next.kind = .symbol .braceOpen ∧ closure.span.start = c.next.span.start := by
  obtain ⟨isBrace, params, middle, -, body, last, -, -, -, rfl⟩ := yields_closure.mp yields
  exact ⟨isBrace, rfl⟩

theorem opens_primary (yields : (primary inner).Yields c expr c') :
    opensExpr c.next.kind = true ∧ expr.span.start = c.next.span.start := by
  have yields := yields_primary.mp yields
  dsimp only at yields
  split at yields
  case h_1 isNext =>
    obtain ⟨-, -, rfl⟩ := yields
    exact ⟨by rw [isNext]; rfl, rfl⟩
  case h_10 isNext =>
    obtain ⟨-, -, rfl⟩ := yields
    exact ⟨by rw [isNext]; rfl, rfl⟩
  case h_11 isNext =>
    obtain ⟨elements, last, -, -, rfl⟩ := yields
    refine ⟨by rw [isNext]; rfl, ?_⟩
    unfold parenthesized
    split <;> rfl
  case h_12 isNext =>
    obtain ⟨elements, last, -, -, rfl⟩ := yields
    exact ⟨by rw [isNext]; rfl, rfl⟩
  case h_13 isNext =>
    obtain ⟨closure, read, rfl⟩ := yields
    exact ⟨by rw [isNext]; rfl, (span_closure read).2⟩
  case h_14 => exact yields.elim
  all_goals
    next isNext =>
      obtain ⟨-, rfl⟩ := yields
      exact ⟨by rw [isNext]; rfl, rfl⟩

/-- What goes on an operand starts where the operand does. -/
theorem span_postfixStep {start : Nat} {operand longer : Expr}
    (yields : (postfixStep inner region start operand).Yields c (some longer) c') :
    longer.span.start = start := by
  have yields := yields_postfixStep.mp yields
  split at yields
  case h_1 =>
    split at yields
    · cases yields.1
    · obtain ⟨args, middle, -, trailing, last, -, -, same⟩ := yields
      obtain rfl := Option.some.inj same
      rfl
  case h_2 | h_3 | h_4 =>
    split at yields
    · cases yields.1
    · obtain ⟨part, last, -, -, same⟩ := yields
      obtain rfl := Option.some.inj same
      rfl
  case h_5 | h_6 =>
    obtain rfl := Option.some.inj yields.2
    rfl
  case h_7 => cases yields.1

theorem span_postfixChain {start : Nat} {operand : Expr} {bound : Nat}
    (starts : operand.span.start = start)
    (yields : (postfixChain inner region start operand bound).Yields c expr c') :
    expr.span.start = start := by
  induction bound generalizing c operand with
  | zero =>
      obtain ⟨rfl, -⟩ := yields_pure.mp yields
      exact starts
  | succ bound ih =>
      obtain ⟨longer, middle, step, rest⟩ := yields_postfixChain.mp yields
      cases longer with
      | none =>
          obtain ⟨rfl, -⟩ := rest
          exact starts
      | some longer => exact ih (span_postfixStep step) rest

theorem opens_unary (yields : (Parser.unary inner region).Yields c expr c') :
    opensExpr c.next.kind = true ∧ expr.span.start = c.next.span.start := by
  have yields := yields_unary.mp yields
  split at yields
  · next op isOp =>
      obtain ⟨operand, last, -, -, rfl⟩ := yields
      exact ⟨by simp [opensExpr, startsExpr, isOp], rfl⟩
  · obtain ⟨operand, middle, read, chain⟩ := yields
    obtain ⟨opens, starts⟩ := opens_primary read
    exact ⟨opens, span_postfixChain starts chain⟩

theorem span_binaryChain {start least : Nat} {left : Expr} {bound : Nat}
    (starts : left.span.start = start)
    (yields : (binaryChain inner region start least left bound).Yields c expr c') :
    expr.span.start = start := by
  induction bound generalizing c left with
  | zero =>
      obtain ⟨rfl, -⟩ := yields_pure.mp yields
      exact starts
  | succ bound ih =>
      have yields := yields_binaryChain.mp yields
      split at yields
      · obtain ⟨rfl, -⟩ := yields
        exact starts
      · split at yields
        · obtain ⟨rfl, -⟩ := yields
          exact starts
        · obtain ⟨right, middle, -, rest⟩ := yields
          exact ih rfl rest

theorem opens_binary {least : Nat} (yields : (Parser.binary inner region least).Yields c expr c') :
    opensExpr c.next.kind = true ∧ expr.span.start = c.next.span.start := by
  obtain ⟨left, middle, read, chain⟩ := yields_binary.mp yields
  obtain ⟨opens, starts⟩ := opens_unary read
  exact ⟨opens, span_binaryChain starts chain⟩

theorem opens_ternary (yields : (Parser.ternary inner region).Yields c expr c') :
    opensExpr c.next.kind = true ∧ expr.span.start = c.next.span.start := by
  obtain ⟨condition, middle, read, rest⟩ := yields_ternary.mp yields
  have opens := opens_binary read
  split at rest
  · obtain ⟨rfl, -⟩ := rest
    exact opens
  · obtain ⟨thenValue, colon, -, -, elseValue, last, -, -, rfl⟩ := rest
    exact ⟨opens.1, rfl⟩

/-- **An expression starts where its span does**, with one of some tokens. -/
theorem opens_expression (yields : (Parser.expression inner region).Yields c expr c') :
    opensExpr c.next.kind = true ∧ expr.span.start = c.next.span.start := by
  obtain ⟨target, middle, read, rest⟩ := yields_expression.mp yields
  have opens := opens_ternary read
  split at rest
  · obtain ⟨value, last, -, -, rfl⟩ := rest
    exact ⟨opens.1, rfl⟩
  · obtain ⟨rfl, -⟩ := rest
    exact opens

/-! ### Names that end -/

/-- Nothing goes on an operand before a token at which names end. -/
theorem halts_postfixChain {start : Nat} {operand : Expr} {bound : Nat}
    (halts : haltsName c.next.kind = true)
    (yields : (postfixChain inner region start operand bound).Yields c expr c') : c' = c := by
  cases bound with
  | zero => exact (yields_pure.mp yields).2
  | succ bound =>
      obtain ⟨longer, middle, step, rest⟩ := yields_postfixChain.mp yields
      have step := yields_postfixStep.mp step
      split at step
      case h_7 =>
        obtain ⟨rfl, rfl⟩ := step
        exact rest.2
      all_goals
        next isNext =>
          rw [isNext] at halts
          cases halts

theorem halts_binaryChain {start least : Nat} {left : Expr} {bound : Nat}
    (halts : haltsName c.next.kind = true)
    (yields : (binaryChain inner region start least left bound).Yields c expr c') : c' = c := by
  cases bound with
  | zero => exact (yields_pure.mp yields).2
  | succ bound =>
      have none : binaryOp? c.next.kind = none := by
        unfold haltsName at halts
        split at halts
        case h_4 => cases halts
        all_goals
          next isNext =>
            rw [isNext]
            rfl
      have yields := yields_binaryChain.mp yields
      rw [none] at yields
      exact yields.2

/-- **A name is an expression of its own** before a token at which names end. -/
theorem halts_expression (isName : namesParam c.next.kind = true)
    (halts : haltsName c.advance.next.kind = true)
    (yields : (Parser.expression inner region).Yields c expr c') : c' = c.advance := by
  obtain ⟨target, assigned, readTarget, rest⟩ := yields_expression.mp yields
  obtain ⟨condition, tested, readTest, choice⟩ := yields_ternary.mp readTarget
  obtain ⟨left, middle, readLeft, chain⟩ := yields_binary.mp readTest
  have isKind : c.next.kind = .identifier ∨ c.next.kind = .symbol .underscore := by
    simpa [namesParam] using isName
  have unary := yields_unary.mp readLeft
  have noOp : unaryOp? c.next.kind = none := by rcases isKind with kind | kind <;> rw [kind] <;> rfl
  rw [noOp] at unary
  obtain ⟨operand, taken, read, marks⟩ := unary
  have read := yields_primary.mp read
  obtain rfl : taken = c.advance := by
    rcases isKind with kind | kind <;> rw [kind] at read <;> exact read.1
  obtain rfl := halts_postfixChain halts marks
  obtain rfl := halts_binaryChain halts chain
  rw [if_pos (.inl fun isNext => by rw [isNext] at halts; cases halts)] at choice
  obtain ⟨-, rfl⟩ := choice
  rw [if_neg fun assigns => by rw [assigns.1] at halts; cases halts] at rest
  exact rest.2

/-! ### Statements -/

/-- A statement that starts like an expression is one. -/
theorem yields_statement_of_opensExpr {statement : Statement}
    (opens : opensExpr c.next.kind = true) :
    (Parser.statement inner).Yields c statement c' ↔ ∃ node,
      (Parser.expression inner .statement).Yields c node c' ∧ statement = .expression node := by
  rw [yields_statement]
  dsimp only
  split
  all_goals first
    | rfl
    | next isNext =>
        rw [isNext] at opens
        exact absurd opens (by decide)

/-- No statement starts with a token that goes on with what is before it. -/
theorem goesOn_statement {statement : Statement}
    (yields : (Parser.statement inner).Yields c statement c') : goesOn c.next.kind = false := by
  by_contra isPart
  have yields := yields_statement.mp yields
  rw [Bool.not_eq_false] at isPart
  dsimp only at yields
  split at yields
  case h_20 =>
    obtain ⟨node, read, -⟩ := yields
    rw [goesOn_of_opensExpr (opens_expression read).1] at isPart
    cases isPart
  all_goals
    next isNext =>
      rw [isNext] at isPart
      cases isPart

/-! ### Types -/

/-- A type starts with a name or a parenthesis. -/
theorem opens_type {type : DeclaredType} (yields : (Parser.type inner).Yields c type c') :
    startsType c.next.kind = true := by
  obtain ⟨base, middle, read, -⟩ := yields_type.mp yields
  have read := yields_unmarkedType.mp read
  dsimp only at read
  split at read
  · next isNext => rw [isNext]; rfl
  · next isNext => rw [isNext]; rfl
  · exact read.elim

end Parser

end ResultBuilder.Syntax
