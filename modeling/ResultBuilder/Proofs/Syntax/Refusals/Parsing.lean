import ResultBuilder.Proofs.Syntax.Refusals.Lexing

/-!
# Where the parser stops

The parser refuses a source at one of its tokens, all of which stand at usable places. A parser is
careful when it keeps to them: what it leaves to read stands at usable places if what it was given
does, and so does its error when it fails. What is put together from careful parsers is careful.

* **`Cursor.IsUsable`**, **`Parser.IsCareful`**: cursors and parsers that keep to usable places.
* **`Parser.Inner.IsCareful`**, **`Parser.isCareful_innerOfDepth`**: the parsers of every depth.
* **`isUsable_of_parse`**: a source is refused at a place in it.
-/

namespace ResultBuilder.Syntax

variable {source : List Char}

/-- **A cursor among usable places**: the tokens that are left and where the last one ended. -/
structure Cursor.IsUsable (source : List Char) (c : Cursor) : Prop where
  tokens : ∀ token ∈ c.rest, token.span.IsUsable source
  lastEnd : OnBoundary source c.lastEnd

namespace Cursor.IsUsable

variable {c : Cursor}

theorem next (usable : c.IsUsable source) : c.next.span.IsUsable source := by
  unfold Cursor.next
  cases left : c.rest with
  | nil => exact Span.isUsable_point usable.lastEnd
  | cons token rest => exact usable.tokens token (left ▸ List.mem_cons_self)

theorem skip (usable : c.IsUsable source) (count : Nat) : (c.skip count).IsUsable source where
  tokens token member := usable.tokens token (List.mem_of_mem_drop member)
  lastEnd := by
    unfold Cursor.skip
    cases isLast : (c.rest.take count).getLast? with
    | none => exact usable.lastEnd
    | some token =>
        exact (usable.tokens token (List.mem_of_mem_take (List.mem_of_getLast? isLast))).stops

theorem advance (usable : c.IsUsable source) : c.advance.IsUsable source := by
  unfold Cursor.advance
  split
  · exact usable
  · exact usable.skip 1

end Cursor.IsUsable

namespace Parser

variable {α β : Type} {c c' : Cursor}

/-- **A careful parser** keeps to usable places, and may know something about what it yields. -/
structure IsCareful (source : List Char) (parser : Parser α)
    (knows : α → Prop := fun _ => True) : Prop where
  /-- What is left is at usable places. -/
  leaves : ∀ ⦃c : Cursor⦄, c.IsUsable source → ∀ ⦃value : α⦄ ⦃c' : Cursor⦄,
    parser.Yields c value c' → c'.IsUsable source ∧ knows value
  /-- What is refused is at a usable place. -/
  refuses : ∀ ⦃c : Cursor⦄, c.IsUsable source → ∀ ⦃error : SyntaxError⦄,
    parser c = .error error → error.span.IsUsable source

namespace IsCareful

variable {knows : α → Prop} {learns : β → Prop} {first parser : Parser α}
  {next : α → Parser β}

/-! ### Putting parsers together -/

/-- **One careful parser after the other.** -/
theorem bind (careful : first.IsCareful source knows)
    (after : ∀ value, knows value → (next value).IsCareful source learns) :
    (first >>= next).IsCareful source learns where
  leaves c usable result c' yields := by
    obtain ⟨value, middle, read, more⟩ := yields_bind.mp yields
    obtain ⟨left, known⟩ := careful.leaves usable read
    exact (after value known).leaves left more
  refuses c usable error failed := by
    change (do
      let (value, middle) ← first c
      next value middle : Except SyntaxError _) = _ at failed
    cases read : first c with
    | error other =>
        rw [read] at failed
        cases failed
        exact careful.refuses usable read
    | ok outcome =>
        obtain ⟨left, known⟩ := careful.leaves usable read
        rw [read] at failed
        exact (after _ known).refuses left failed

/-- One careful parser after another of which nothing is known. -/
theorem andThen (careful : first.IsCareful source knows)
    (after : ∀ value, (next value).IsCareful source learns) :
    (first >>= next).IsCareful source learns :=
  careful.bind fun value _ => after value

theorem pure {value : α} (known : knows value) :
    (Pure.pure value : Parser α).IsCareful source knows where
  leaves _ usable _ _ yields := by
    obtain ⟨rfl, rfl⟩ := yields_pure.mp yields
    exact ⟨usable, known⟩
  refuses _ _ _ failed := by cases failed

/-- A result of which nothing is to be known. -/
theorem done {value : α} : (Pure.pure value : Parser α).IsCareful source :=
  .pure trivial

/-- A refusal at a usable place. -/
theorem throw {error : SyntaxError} (usable : error.span.IsUsable source) :
    (throw error : Parser α).IsCareful source where
  leaves _ _ _ _ yields := (not_yields_throw yields).elim
  refuses _ _ _ failed := by
    cases failed
    exact usable

/-- What is known need not be. -/
theorem forget (careful : parser.IsCareful source knows) : parser.IsCareful source where
  leaves _ usable _ _ yields := ⟨(careful.leaves usable yields).1, trivial⟩
  refuses := careful.refuses

theorem map (careful : parser.IsCareful source knows) (f : α → β) :
    (f <$> parser).IsCareful source := by
  rw [← bind_pure_comp]
  exact careful.bind fun _ _ => .pure trivial

theorem ite {condition : Prop} [Decidable condition] {yes no : Parser α}
    (holds : condition → yes.IsCareful source knows)
    (fails : ¬ condition → no.IsCareful source knows) :
    (if condition then yes else no).IsCareful source knows := by
  split
  · exact holds ‹_›
  · exact fails ‹_›

end IsCareful

/-! ### Looking and taking -/

theorem isCareful_get : (get : Parser Cursor).IsCareful source (·.IsUsable source) where
  leaves _ usable _ _ yields := by
    obtain ⟨rfl, rfl⟩ := yields_get.mp yields
    exact ⟨usable, usable⟩
  refuses _ _ _ failed := by cases failed

theorem isCareful_set {place : Cursor} (usable : place.IsUsable source) :
    (set place : Parser PUnit).IsCareful source where
  leaves _ _ _ _ yields := by
    rw [yields_set.mp yields]
    exact ⟨usable, trivial⟩
  refuses _ _ _ failed := by cases failed

theorem isCareful_peek : peek.IsCareful source (·.span.IsUsable source) :=
  isCareful_get.bind fun _ usable => .pure usable.next

theorem isCareful_isAt (kind : TokenKind) : (isAt kind).IsCareful source :=
  isCareful_peek.andThen fun _ => .done

theorem isCareful_isAtSymbol (sign : Symbol) : (isAtSymbol sign).IsCareful source :=
  isCareful_isAt _

theorem isCareful_onNewLine (region : Region) : (onNewLine region).IsCareful source :=
  isCareful_peek.andThen fun _ => .done

theorem isCareful_here : here.IsCareful source :=
  isCareful_peek.andThen fun _ => .done

theorem isCareful_spanFrom (start : Nat) : (spanFrom start).IsCareful source :=
  isCareful_get.andThen fun _ => .done

/-- Something that is made from the span up to here. -/
theorem isCareful_spanned (start : Nat) (make : Span → α) :
    (spanFrom start >>= fun span => Pure.pure (make span)).IsCareful source :=
  (isCareful_spanFrom start).andThen fun _ => .done

theorem isCareful_take : take.IsCareful source (·.span.IsUsable source) :=
  isCareful_get.bind fun _ usable =>
    (isCareful_set usable.advance).andThen fun _ => .pure usable.next

theorem isCareful_takeMany (count : Nat) : (takeMany count).IsCareful source :=
  isCareful_get.bind fun _ usable => (isCareful_set (usable.skip count)).andThen fun _ => .done

theorem isCareful_eat (kind : TokenKind) : (eat kind).IsCareful source :=
  (isCareful_isAt kind).andThen fun _ =>
    .ite (fun _ => isCareful_take.andThen fun _ => .done) fun _ => .done

theorem isCareful_eatSymbol (sign : Symbol) : (eatSymbol sign).IsCareful source :=
  isCareful_eat _

/-- **A token that is not expected is refused where it stands.** -/
theorem isCareful_unexpected (expected : String) :
    (unexpected expected : Parser α).IsCareful source :=
  isCareful_peek.bind fun _ usable => .throw usable

theorem isCareful_expect (kind : TokenKind) : (expect kind).IsCareful source :=
  (isCareful_isAt kind).andThen fun _ =>
    .ite (fun _ => isCareful_take.forget) fun _ => isCareful_unexpected _

theorem isCareful_expectSymbol (sign : Symbol) : (expectSymbol sign).IsCareful source :=
  isCareful_expect _

theorem isCareful_expectKeyword (word : Keyword) : (expectKeyword word).IsCareful source :=
  isCareful_expect _

theorem isCareful_identifier : identifier.IsCareful source :=
  (isCareful_isAt _).andThen fun _ =>
    .ite (fun _ => isCareful_take.andThen fun _ => .done) fun _ => isCareful_unexpected _

theorem isCareful_nameOrUnderscore : nameOrUnderscore.IsCareful source :=
  (isCareful_isAt _).andThen fun _ =>
    .ite (fun _ => isCareful_take.andThen fun _ => .done) fun _ => isCareful_identifier

/-! ### Lists -/

section Lists

variable {item : Parser α}

theorem isCareful_separated (careful : item.IsCareful source) (bound : Nat) :
    (separated item bound).IsCareful source := by
  induction bound with
  | zero => exact .done
  | succ bound ih =>
      exact careful.andThen fun _ => (isCareful_eatSymbol _).andThen fun _ =>
        .ite (fun _ => ih.andThen fun _ => .done) fun _ => .done

theorem isCareful_itemsUntil (careful : item.IsCareful source) (close : Symbol) (bound : Nat) :
    (itemsUntil close item bound).IsCareful source := by
  induction bound with
  | zero => exact .done
  | succ bound ih =>
      exact (isCareful_isAtSymbol _).andThen fun _ => .ite (fun _ => .done) fun _ =>
        careful.andThen fun _ => (isCareful_eatSymbol _).andThen fun _ =>
          .ite (fun _ => ih.andThen fun _ => .done) fun _ => .done

theorem isCareful_closedBy (careful : item.IsCareful source) (close : Symbol) (bound : Nat) :
    (closedBy close item bound).IsCareful source :=
  (isCareful_itemsUntil careful close bound).andThen fun _ =>
    (isCareful_expectSymbol close).andThen fun _ => .done

theorem isCareful_repeatedUntil (careful : item.IsCareful source) (close : Symbol) (bound : Nat) :
    (repeatedUntil close item bound).IsCareful source := by
  induction bound with
  | zero => exact .done
  | succ bound ih =>
      exact (isCareful_isAtSymbol _).andThen fun _ => .ite (fun _ => .done) fun _ =>
        careful.andThen fun _ => ih.andThen fun _ => .done

theorem isCareful_skipSemicolons : skipSemicolons.IsCareful source :=
  isCareful_get.andThen fun _ => (isCareful_takeMany _).andThen fun _ => .done

/-- **A statement that goes on** is refused where it does. -/
theorem isCareful_endStatement : endStatement.IsCareful source :=
  (isCareful_eatSymbol _).andThen fun _ => .ite (fun _ => .done) fun _ =>
    isCareful_peek.bind fun _ usable => .ite (fun _ => .done) fun _ => .throw usable

theorem isCareful_sequence (careful : item.IsCareful source) (stops : TokenKind → Bool)
    (bound : Nat) : (sequence stops item bound).IsCareful source := by
  induction bound with
  | zero => exact .done
  | succ bound ih =>
      exact isCareful_skipSemicolons.andThen fun _ => isCareful_peek.andThen fun _ =>
        .ite (fun _ => .done) fun _ => careful.andThen fun _ =>
          isCareful_endStatement.andThen fun _ => ih.andThen fun _ => .done

end Lists

/-- **The parsers of what is further in are careful.** -/
structure Inner.IsCareful (source : List Char) (inner : Inner) : Prop where
  type : inner.type.IsCareful source
  expression : ∀ region, (inner.expression region).IsCareful source
  ternary : ∀ region, (inner.ternary region).IsCareful source
  binary : ∀ region least, (inner.binary region least).IsCareful source
  unary : ∀ region, (inner.unary region).IsCareful source
  statement : inner.statement.IsCareful source
  declaration : inner.declaration.IsCareful source
  conditional : inner.conditional.IsCareful source

variable {inner : Inner}

theorem isCareful_statements (careful : inner.IsCareful source) (stops : TokenKind → Bool) :
    (statements inner stops).IsCareful source :=
  isCareful_sequence careful.statement _ _

theorem isCareful_block (careful : inner.IsCareful source) : (block inner).IsCareful source :=
  (isCareful_expectSymbol _).andThen fun _ => (isCareful_statements careful _).andThen fun _ =>
    (isCareful_expectSymbol _).andThen fun _ => isCareful_spanned _ _

/-! ### Types -/

theorem isCareful_attributes (bound : Nat) : (attributes bound).IsCareful source := by
  induction bound with
  | zero => exact .done
  | succ bound ih =>
      exact (isCareful_isAtSymbol _).andThen fun _ =>
        .ite (fun _ => isCareful_take.andThen fun _ => isCareful_identifier.andThen fun _ =>
            (isCareful_spanFrom _).andThen fun _ => ih.andThen fun _ => .done)
          fun _ => .done

theorem isCareful_typeList (careful : inner.IsCareful source) :
    (typeList inner).IsCareful source := by
  refine (isCareful_expectSymbol _).andThen fun _ => isCareful_closedBy ?_ _ _
  have rest : (attributes inner.bound >>= fun _ => inner.type).IsCareful source :=
    (isCareful_attributes _).andThen fun _ => careful.type
  exact isCareful_get.andThen fun _ =>
    .ite (fun _ => (isCareful_takeMany _).andThen fun _ => rest) fun _ => rest

theorem isCareful_unmarkedType (careful : inner.IsCareful source) :
    (unmarkedType inner).IsCareful source := by
  refine isCareful_here.andThen fun start => isCareful_peek.andThen fun token => ?_
  split
  · exact isCareful_take.andThen fun _ => .ite (fun _ => careful.type.andThen fun _ => .done)
      fun _ => isCareful_get.andThen fun _ => (isCareful_takeMany _).andThen fun _ =>
        (isCareful_eatSymbol _).andThen fun _ =>
          .ite (fun _ => (isCareful_separated careful.type _).andThen fun _ =>
            (isCareful_expectSymbol _).andThen fun _ => .done) fun _ => .done
  · refine (isCareful_typeList careful).andThen fun elements => (isCareful_eatSymbol _).andThen
      fun _ => .ite (fun _ => careful.type.andThen fun _ => .done) fun _ => ?_
    split <;> exact .done
  · exact isCareful_unexpected _

theorem isCareful_type (careful : inner.IsCareful source) : (type inner).IsCareful source :=
  isCareful_here.andThen fun _ => (isCareful_unmarkedType careful).andThen fun _ =>
    (isCareful_spanFrom _).andThen fun _ => isCareful_get.andThen fun _ =>
      (isCareful_takeMany _).andThen fun _ => .done

/-! ### Expressions -/

theorem isCareful_closureParams : closureParams.IsCareful source := by
  refine isCareful_get.andThen fun cursor => ?_
  split
  · exact .done
  · exact (isCareful_takeMany _).andThen fun _ => .done

theorem isCareful_closure (careful : inner.IsCareful source) : (closure inner).IsCareful source :=
  (isCareful_expectSymbol _).andThen fun _ => isCareful_closureParams.andThen fun _ =>
    (isCareful_statements careful _).andThen fun _ => (isCareful_expectSymbol _).andThen fun _ =>
      isCareful_spanned _ _

theorem isCareful_trailingClosure? (careful : inner.IsCareful source) (region : Region) :
    (trailingClosure? inner region).IsCareful source :=
  (isCareful_isAtSymbol _).andThen fun _ => (isCareful_onNewLine _).andThen fun _ =>
    .ite (fun _ => (isCareful_closure careful).andThen fun _ => .done) fun _ => .done

theorem isCareful_argument (careful : inner.IsCareful source) : (argument inner).IsCareful source :=
  isCareful_here.andThen fun _ => isCareful_get.andThen fun _ =>
    .ite (fun _ => isCareful_identifier.andThen fun _ => isCareful_take.andThen fun _ =>
        (careful.expression _).andThen fun _ => isCareful_spanned _ _)
      fun _ => (careful.expression _).andThen fun _ => isCareful_spanned _ _

theorem isCareful_arguments (careful : inner.IsCareful source) (opening closing : Symbol) :
    (arguments inner opening closing).IsCareful source :=
  (isCareful_expectSymbol _).andThen fun _ => isCareful_closedBy (isCareful_argument careful) _ _

/-- **A number that is too large** is refused where it stands. -/
theorem isCareful_primary (careful : inner.IsCareful source) :
    (primary inner).IsCareful source := by
  refine isCareful_here.andThen fun start => isCareful_peek.bind fun token usable => ?_
  -- a token that is an operand by itself
  have single {make : Span → Expr} :
      (take >>= fun _ => spanFrom start >>= fun span => Pure.pure (make span)).IsCareful source :=
    isCareful_take.andThen fun _ => isCareful_spanned _ _
  split
  case h_1 =>
    exact isCareful_take.andThen fun _ =>
      .ite (fun _ => isCareful_spanned _ _) fun _ => .throw usable
  case h_10 => exact isCareful_take.andThen fun _ => isCareful_identifier.andThen fun _ =>
    isCareful_spanned _ _
  case h_11 =>
    refine (isCareful_arguments careful _ _).andThen fun elements => ?_
    split <;> exact isCareful_spanned _ _
  case h_12 => exact (isCareful_arguments careful _ _).andThen fun _ => isCareful_spanned _ _
  case h_13 => exact (isCareful_closure careful).andThen fun _ => .done
  case h_14 => exact isCareful_unexpected _
  all_goals exact single

theorem isCareful_memberName : memberName.IsCareful source := by
  refine isCareful_peek.andThen fun token => ?_
  split
  · exact isCareful_take.andThen fun _ => .done
  · exact isCareful_take.andThen fun _ => .done
  · exact isCareful_take.andThen fun _ => .done
  · exact isCareful_unexpected _

theorem isCareful_postfixStep (careful : inner.IsCareful source) (region : Region) (start : Nat)
    (operand : Expr) : (postfixStep inner region start operand).IsCareful source := by
  refine (isCareful_onNewLine _).andThen fun breaks => isCareful_peek.andThen fun token => ?_
  split
  · exact .ite (fun _ => .done) fun _ => (isCareful_arguments careful _ _).andThen fun _ =>
      (isCareful_trailingClosure? careful _).andThen fun _ => isCareful_spanned _ _
  · exact .ite (fun _ => .done) fun _ => (isCareful_trailingClosure? careful _).andThen fun _ =>
      isCareful_spanned _ _
  · exact .ite (fun _ => .done) fun _ => (isCareful_arguments careful _ _).andThen fun _ =>
      isCareful_spanned _ _
  · exact .ite (fun _ => .done) fun _ => isCareful_take.andThen fun _ =>
      isCareful_memberName.andThen fun _ => isCareful_spanned _ _
  · exact isCareful_take.andThen fun _ => isCareful_spanned _ _
  · exact isCareful_take.andThen fun _ => isCareful_spanned _ _
  · exact .done

theorem isCareful_postfixChain (careful : inner.IsCareful source) (region : Region) (start : Nat)
    (operand : Expr) (bound : Nat) :
    (postfixChain inner region start operand bound).IsCareful source := by
  induction bound generalizing operand with
  | zero => exact .done
  | succ bound ih =>
      refine (isCareful_postfixStep careful _ _ _).andThen fun longer => ?_
      split
      · exact .done
      · exact ih _

theorem isCareful_unary (careful : inner.IsCareful source) (region : Region) :
    (unary inner region).IsCareful source := by
  refine isCareful_here.andThen fun start => isCareful_peek.andThen fun token => ?_
  dsimp only
  split
  · exact isCareful_take.andThen fun _ => (careful.unary _).andThen fun _ => isCareful_spanned _ _
  · exact (isCareful_primary careful).andThen fun _ => isCareful_postfixChain careful _ _ _ _

theorem isCareful_binaryChain (careful : inner.IsCareful source) (region : Region)
    (start least : Nat) (left : Expr) (bound : Nat) :
    (binaryChain inner region start least left bound).IsCareful source := by
  induction bound generalizing left with
  | zero => exact .done
  | succ bound ih =>
      refine isCareful_peek.andThen fun token => ?_
      split
      · exact .done
      · exact (isCareful_onNewLine _).andThen fun _ => .ite (fun _ => .done) fun _ =>
          isCareful_take.andThen fun _ => (careful.binary _ _).andThen fun _ =>
            (isCareful_spanFrom _).andThen fun _ => ih _

theorem isCareful_binary (careful : inner.IsCareful source) (region : Region) (least : Nat) :
    (binary inner region least).IsCareful source :=
  isCareful_here.andThen fun _ => (isCareful_unary careful _).andThen fun _ =>
    isCareful_binaryChain careful _ _ _ _ _

theorem isCareful_ternary (careful : inner.IsCareful source) (region : Region) :
    (ternary inner region).IsCareful source :=
  isCareful_here.andThen fun _ => (isCareful_binary careful _ _).andThen fun _ =>
    (isCareful_isAtSymbol _).andThen fun _ => (isCareful_onNewLine _).andThen fun _ =>
      .ite (fun _ => .done) fun _ => isCareful_take.andThen fun _ =>
        (careful.ternary _).andThen fun _ => (isCareful_expectSymbol _).andThen fun _ =>
          (careful.ternary _).andThen fun _ => isCareful_spanned _ _

theorem isCareful_expression (careful : inner.IsCareful source) (region : Region) :
    (expression inner region).IsCareful source :=
  isCareful_here.andThen fun _ => (isCareful_ternary careful _).andThen fun _ =>
    (isCareful_isAtSymbol _).andThen fun _ => (isCareful_onNewLine _).andThen fun _ =>
      .ite (fun _ => isCareful_take.andThen fun _ => (careful.expression _).andThen fun _ =>
        isCareful_spanned _ _) fun _ => .done

/-! ### Patterns -/

theorem isCareful_pattern (stops : TokenKind → Bool) : (pattern stops).IsCareful source := by
  refine isCareful_get.andThen fun cursor => ?_
  dsimp only
  split
  · exact (isCareful_takeMany _).andThen fun _ => .done
  · exact isCareful_unexpected _

/-! ### Declarations -/

theorem isCareful_generics (careful : inner.IsCareful source) :
    (generics inner).IsCareful source := by
  refine (isCareful_eatSymbol _).andThen fun _ => .ite (fun _ => isCareful_closedBy ?_ _ _)
    fun _ => .done
  exact isCareful_here.andThen fun _ => isCareful_identifier.andThen fun _ =>
    (isCareful_eatSymbol _).andThen fun _ =>
      .ite (fun _ => (careful.type.map _).andThen fun _ => isCareful_spanned _ _)
        fun _ => IsCareful.done.andThen fun _ => isCareful_spanned _ _

theorem isCareful_conformances (careful : inner.IsCareful source) :
    (conformances inner).IsCareful source :=
  (isCareful_eatSymbol _).andThen fun _ =>
    .ite (fun _ => (isCareful_separated careful.type _).andThen fun _ => .done) fun _ => .done

theorem isCareful_skipWhereClause : skipWhereClause.IsCareful source :=
  isCareful_get.andThen fun _ =>
    .ite (fun _ => (isCareful_takeMany _).andThen fun _ => .done) fun _ => .done

theorem isCareful_param (careful : inner.IsCareful source) : (param inner).IsCareful source := by
  refine isCareful_here.andThen fun start => (isCareful_attributes _).andThen fun before =>
    isCareful_nameOrUnderscore.andThen fun first => (isCareful_isAt _).andThen fun _ =>
      (isCareful_isAtSymbol _).andThen fun _ => ?_
  extract_lets named typed
  -- what follows the names, whether there are one or two
  have rest (name : Name) : (typed name).IsCareful source :=
    (isCareful_expectSymbol _).andThen fun _ => (isCareful_attributes _).andThen fun _ =>
      careful.type.andThen fun _ => (isCareful_eatSymbol _).andThen fun _ =>
        (isCareful_eatSymbol _).andThen fun _ =>
          .ite (fun _ => (careful.expression _).andThen fun _ => isCareful_spanned _ _)
            fun _ => isCareful_spanned _ _
  exact .ite (fun _ => isCareful_nameOrUnderscore.andThen rest) fun _ => IsCareful.done.andThen rest

theorem isCareful_functionDecl (careful : inner.IsCareful source) (start : Nat)
    (marks : List Attribute) (isStatic : Bool) :
    (functionDecl inner start marks isStatic).IsCareful source := by
  refine (isCareful_eat _).andThen fun _ => isCareful_identifier.andThen fun name =>
    (isCareful_generics careful).andThen fun generics => (isCareful_expectSymbol _).andThen fun _ =>
      (isCareful_closedBy (isCareful_param careful) _ _).andThen fun params =>
        (isCareful_eatSymbol _).andThen fun _ => ?_
  extract_lets bodied
  have rest (result : Option DeclaredType) : (bodied result).IsCareful source :=
    isCareful_skipWhereClause.andThen fun _ => (isCareful_isAtSymbol _).andThen fun _ =>
      .ite (fun _ => ((isCareful_block careful).map _).andThen fun _ => isCareful_spanned _ _)
        fun _ => IsCareful.done.andThen fun _ => isCareful_spanned _ _
  exact .ite (fun _ => (careful.type.map _).andThen rest) fun _ => IsCareful.done.andThen rest

theorem isCareful_variableDecl (careful : inner.IsCareful source) (start : Nat)
    (marks : List Attribute) : (variableDecl inner start marks).IsCareful source := by
  refine isCareful_take.andThen fun keyword => isCareful_nameOrUnderscore.andThen fun name =>
    (isCareful_eatSymbol _).andThen fun _ => ?_
  extract_lets valued
  have rest (type : Option DeclaredType) : (valued type).IsCareful source := by
    refine (isCareful_eatSymbol _).andThen fun _ => ?_
    extract_lets bodied
    have rest (value : Option Expr) : (bodied value).IsCareful source :=
      (isCareful_isAtSymbol _).andThen fun _ => (isCareful_onNewLine _).andThen fun _ =>
        .ite (fun _ => ((isCareful_block careful).map _).andThen fun _ => isCareful_spanned _ _)
          fun _ => IsCareful.done.andThen fun _ => isCareful_spanned _ _
    exact .ite (fun _ => ((isCareful_expression careful _).map _).andThen rest)
      fun _ => IsCareful.done.andThen rest
  exact .ite (fun _ => (careful.type.map _).andThen rest) fun _ => IsCareful.done.andThen rest

theorem isCareful_enumCase (careful : inner.IsCareful source) :
    (enumCase inner).IsCareful source :=
  isCareful_here.andThen fun _ => isCareful_identifier.andThen fun _ =>
    (isCareful_isAtSymbol _).andThen fun _ =>
      .ite (fun _ => (isCareful_typeList careful).andThen fun _ => isCareful_spanned _ _)
        fun _ => IsCareful.done.andThen fun _ => isCareful_spanned _ _

theorem isCareful_enumDecl (careful : inner.IsCareful source) (start : Nat) :
    (enumDecl inner start).IsCareful source :=
  (isCareful_expectKeyword _).andThen fun _ => isCareful_identifier.andThen fun _ =>
    (isCareful_generics careful).andThen fun _ => (isCareful_conformances careful).andThen fun _ =>
      (isCareful_expectSymbol _).andThen fun _ =>
        (isCareful_sequence ((isCareful_expectKeyword _).andThen fun _ =>
          isCareful_separated (isCareful_enumCase careful) _) _ _).andThen fun _ =>
            (isCareful_expectSymbol _).andThen fun _ => isCareful_spanned _ _

theorem isCareful_typeDecl (careful : inner.IsCareful source) (start : Nat)
    (marks : List Attribute) : (typeDecl inner start marks).IsCareful source :=
  isCareful_take.andThen fun _ => isCareful_identifier.andThen fun _ =>
    (isCareful_generics careful).andThen fun _ => (isCareful_conformances careful).andThen fun _ =>
      isCareful_skipWhereClause.andThen fun _ => (isCareful_expectSymbol _).andThen fun _ =>
        (isCareful_sequence careful.declaration _ _).andThen fun _ =>
          (isCareful_expectSymbol _).andThen fun _ => isCareful_spanned _ _

theorem isCareful_declaration (careful : inner.IsCareful source) :
    (declaration inner).IsCareful source := by
  refine isCareful_here.andThen fun start => (isCareful_attributes _).andThen fun marks =>
    (isCareful_eat _).andThen fun isStatic => isCareful_peek.andThen fun token => ?_
  have function := isCareful_functionDecl careful start marks isStatic
  split
  · exact (isCareful_typeDecl careful _ _).andThen fun _ => .done
  · exact (isCareful_typeDecl careful _ _).andThen fun _ => .done
  · exact (isCareful_enumDecl careful _).andThen fun _ => .done
  · exact function.andThen fun _ => .done
  · exact .ite (fun _ => function.andThen fun _ => .done) fun _ => isCareful_unexpected _
  · exact (isCareful_variableDecl careful _ _).andThen fun _ => .done
  · exact (isCareful_variableDecl careful _ _).andThen fun _ => .done
  · exact isCareful_unexpected _

/-! ### Statements -/

theorem isCareful_condition (careful : inner.IsCareful source) :
    (condition inner).IsCareful source := by
  refine isCareful_here.andThen fun start => isCareful_peek.andThen fun token => ?_
  have binding (isMutable : Bool) : IsCareful source (do
      let _ ← take
      let bound ← pattern (· == .symbol .assign)
      let _ ← expectSymbol .assign
      let value ← expression inner .header
      return Condition.binding (← spanFrom start) isMutable bound value) :=
    isCareful_take.andThen fun _ => (isCareful_pattern _).andThen fun _ =>
      (isCareful_expectSymbol _).andThen fun _ => (isCareful_expression careful _).andThen fun _ =>
        isCareful_spanned _ _
  split
  · exact binding _
  · exact binding _
  · exact (isCareful_expression careful _).andThen fun _ => .done

theorem isCareful_conditional (careful : inner.IsCareful source) :
    (conditional inner).IsCareful source := by
  refine (isCareful_expectKeyword _).andThen fun start =>
    (isCareful_separated (isCareful_condition careful) _).andThen fun conditions =>
      (isCareful_block careful).andThen fun thenBlock => (isCareful_eat _).andThen fun _ => ?_
  extract_lets ended
  have rest (otherwise : Option Alternative) : (ended otherwise).IsCareful source :=
    isCareful_spanned _ _
  exact .ite (fun _ => (isCareful_isAt _).andThen fun _ =>
      .ite (fun _ => ((careful.conditional.map _).map _).andThen rest)
        fun _ => (((isCareful_block careful).map _).map _).andThen rest)
    fun _ => IsCareful.done.andThen rest

theorem isCareful_caseLabel (inner : Inner) : (caseLabel inner).IsCareful source := by
  refine isCareful_peek.andThen fun token => ?_
  split
  · exact isCareful_take.andThen fun _ =>
      (isCareful_separated (isCareful_pattern _) _).andThen fun _ => .done
  · exact isCareful_take.andThen fun _ => .done
  · exact isCareful_unexpected _

theorem isCareful_switchCase (careful : inner.IsCareful source) :
    (switchCase inner).IsCareful source :=
  isCareful_here.andThen fun _ => (isCareful_caseLabel inner).andThen fun _ =>
    (isCareful_expectSymbol _).andThen fun _ => (isCareful_statements careful _).andThen fun _ =>
      isCareful_spanned _ _

theorem isCareful_switch (careful : inner.IsCareful source) : (switch inner).IsCareful source :=
  (isCareful_expectKeyword _).andThen fun _ => (isCareful_expression careful _).andThen fun _ =>
    (isCareful_expectSymbol _).andThen fun _ =>
      (isCareful_repeatedUntil (isCareful_switchCase careful) _ _).andThen fun _ =>
        (isCareful_expectSymbol _).andThen fun _ => isCareful_spanned _ _

theorem isCareful_loop (careful : inner.IsCareful source) : (loop inner).IsCareful source := by
  have header := isCareful_expression careful .header
  have body := isCareful_block careful
  refine isCareful_take.andThen fun keyword => ?_
  dsimp only
  split
  · exact (isCareful_pattern _).andThen fun _ => (isCareful_expectKeyword _).andThen fun _ =>
      header.andThen fun _ => body.andThen fun _ => isCareful_spanned _ _
  · exact header.andThen fun _ => body.andThen fun _ => isCareful_spanned _ _
  · exact body.andThen fun _ => (isCareful_expectKeyword _).andThen fun _ =>
      header.andThen fun _ => isCareful_spanned _ _

theorem isCareful_returning (careful : inner.IsCareful source) :
    (returning inner).IsCareful source := by
  refine (isCareful_expectKeyword _).andThen fun keyword => isCareful_peek.andThen fun token => ?_
  extract_lets ends
  exact .ite (fun _ => IsCareful.done.andThen fun _ => isCareful_spanned _ _)
    fun _ => ((isCareful_expression careful _).map _).andThen fun _ => isCareful_spanned _ _

/-- **A directive other than the known ones** is refused where it stands. -/
theorem isCareful_directive : directive.IsCareful source := by
  refine isCareful_take.bind fun token usable => ?_
  extract_lets named
  have rest (kind : DirectiveKind) : (named kind).IsCareful source :=
    (isCareful_expectSymbol _).andThen fun _ => (isCareful_expect _).andThen fun _ =>
      (isCareful_expectSymbol _).andThen fun _ => isCareful_spanned _ _
  split
  · exact IsCareful.done.andThen rest
  · exact IsCareful.done.andThen rest
  · exact (IsCareful.throw usable).andThen rest

theorem isCareful_statement (careful : inner.IsCareful source) :
    (statement inner).IsCareful source := by
  refine isCareful_here.andThen fun start => isCareful_peek.andThen fun token => ?_
  split
  case h_9 => exact (isCareful_conditional careful).andThen fun _ => .done
  case h_10 => exact (isCareful_switch careful).andThen fun _ => .done
  case h_11 => exact isCareful_take.andThen fun _ => (isCareful_block careful).andThen fun _ =>
    isCareful_spanned _ _
  case h_12 | h_13 | h_14 => exact (isCareful_loop careful).andThen fun _ => .done
  case h_15 => exact isCareful_returning careful
  case h_16 | h_17 | h_18 => exact isCareful_take.andThen fun _ => isCareful_spanned _ _
  case h_19 => exact isCareful_directive.andThen fun _ => .done
  case h_20 => exact (isCareful_expression careful _).andThen fun _ => .done
  all_goals exact (isCareful_declaration careful).andThen fun _ => .done

/-! ### All depths -/

/-- **The parsers of every depth are careful.** -/
theorem isCareful_innerOfDepth (source : List Char) (depth : Nat) :
    (innerOfDepth depth).IsCareful source := by
  induction depth with
  | zero =>
      exact
        { type := isCareful_unexpected _
          expression := fun _ => isCareful_unexpected _
          ternary := fun _ => isCareful_unexpected _
          binary := fun _ _ => isCareful_unexpected _
          unary := fun _ => isCareful_unexpected _
          statement := isCareful_unexpected _
          declaration := isCareful_unexpected _
          conditional := isCareful_unexpected _ }
  | succ depth ih =>
      -- the bound on lists has no part in where anything stands
      have careful : Inner.IsCareful source { innerOfDepth depth with bound := depth + 1 } :=
        { ih with }
      exact
        { type := isCareful_type careful
          expression := isCareful_expression careful
          ternary := isCareful_ternary careful
          binary := isCareful_binary careful
          unary := isCareful_unary careful
          statement := isCareful_statement careful
          declaration := isCareful_declaration careful
          conditional := isCareful_conditional careful }

end Parser

/-- A parser that is run fails as it does. -/
theorem Parser.run_eq_error {α : Type} {parser : Parser α} {c : Cursor} {error : SyntaxError}
    (failed : parser.run' c = .error error) : parser c = .error error := by
  change Prod.fst <$> parser c = .error error at failed
  exact Lexer.map_eq_error.mp failed

/-- The next token stands at a usable place. -/
theorem Cursor.IsSound.isUsable_next {c : Cursor} (sound : c.IsSound) :
    c.next.span.IsUsable c.source := by
  obtain ⟨-, ordered, -, starts, stops⟩ := sound.next_place
  exact Span.isUsable_of_boundaries ordered starts stops

/-- **The tokens of a source stand at usable places.** -/
theorem Cursor.IsSound.isUsable {c : Cursor} (sound : c.IsSound) : c.IsUsable c.source where
  tokens token member := by
    obtain ⟨afterOperand, pieces, final, faces⟩ := sound
    induction pieces generalizing c afterOperand with
    | nil =>
        rw [faces.rest] at member
        rw [List.mem_singleton.mp member, ← faces.next_nil]
        exact IsSound.isUsable_next ⟨_, _, _, faces⟩
    | cons piece pieces ih =>
        have rest := faces.rest
        rw [rest] at member
        rcases List.mem_cons.mp member with rfl | later
        · rw [← faces.next_cons]
          exact IsSound.isUsable_next ⟨_, _, _, faces⟩
        · show token.span.IsUsable (c.skip 1).source
          refine ih ?_ _ faces.skip_one
          rw [Cursor.skip_rest, rest]
          exact later
  lastEnd := sound.next_place.2.2.1

/-- **A source that cannot be read is refused at a place in it.** -/
theorem isUsable_of_parse {source : String} {error : SyntaxError}
    (failed : parse source = .error error) : error.span.IsUsable source.toList := by
  unfold parse at failed
  cases cut : tokenize source with
  | error other =>
      rw [cut] at failed
      cases failed
      exact @Lexer.isUsable_of_tokens _ _ _ [] _ _ cut rfl
  | ok tokens =>
      rw [cut] at failed
      have careful := Parser.isCareful_innerOfDepth source.toList tokens.length
      exact ((Parser.isCareful_statements careful _).map _).refuses
        (Cursor.IsSound.of_tokenize cut).isUsable (Parser.run_eq_error failed)

/-- **A syntax error is reported at usable places**, where it is and where it suggests to insert
something. -/
theorem SyntaxError.isUsable_diagnostic {error : SyntaxError}
    (usable : error.span.IsUsable source) : error.diagnostic.IsUsable source where
  labels := List.forall_mem_singleton.mpr usable
  fixIts := by
    cases error with
    | expectedStatementEnd span =>
        refine List.forall_mem_singleton.mpr ⟨usable.pointStart, ?_⟩
        exact List.forall_mem_singleton.mpr usable.pointStart
    | _ => exact List.forall_mem_nil _

end ResultBuilder.Syntax
