import ResultBuilder.Proofs.Syntax.Lines.Nesting
import ResultBuilder.Proofs.Syntax.Reading.Statement

/-!
# Line breaks in parentheses and brackets

A parser asks for line breaks only directly between braces and at the top, where they are the same in
tokens that differ in grouped line breaks. So it makes the same steps in both and yields the same,
unless it falls behind its delimiters, from where it does not come to the end of the file.

* **`Parser.InStep`**, **`InStep.bind`**: parsers that make the same steps.
* **`Parser.Inner.InStep`**, **`Parser.inStep_innerOfDepth`**: the parsers of every depth.
* **`Program.ofTokens_relined`**: grouped line breaks do not change what is read.
-/

namespace ResultBuilder.Syntax

open Cursor (Together Behind)

/-- Whether the line breaks that a region asks for are outside of groups. -/
def Region.Suits (awaited : List Symbol) (region : Region) : Prop :=
  region.breaksLines = true → isGrouped awaited = false

theorem Region.suits_delimited (awaited : List Symbol) : Region.delimited.Suits awaited :=
  nofun

namespace Parser

variable {α β : Type} {knows : Cursor → Prop} {awaited middle after : List Symbol}

/-- **A parser in step**: at cursors that read together it yields alike and leaves cursors that read
together, or falls behind; where it has fallen behind it stays behind. It takes what closes the
delimiters that are awaited before, up to those that are awaited after it. The cursor may be known
to have a property. -/
structure InStep (knows : Cursor → Prop) (awaited after : List Symbol) (parser : Parser α)
    (alike : α → α → Prop := Eq) : Prop where
  together : ∀ ⦃c d : Cursor⦄, Together awaited c d → knows c → ∀ ⦃value : α⦄ ⦃c' : Cursor⦄,
    parser.Yields c value c' → c'.Behind after ∨
      ∃ other d', parser.Yields d other d' ∧ alike value other ∧ Together after c' d'
  behind : ∀ ⦃c : Cursor⦄, c.Behind awaited → knows c → ∀ ⦃value : α⦄ ⦃c' : Cursor⦄,
    parser.Yields c value c' → c'.Behind after

/-- Any cursor. -/
abbrev anywhere : Cursor → Prop := fun _ => True

/-- Tokens that are alike but for line breaks. -/
def AlikeTokens (token other : Token) : Prop :=
  other.unlined = token.unlined

namespace InStep

variable {alike : α → α → Prop} {learned : α → Cursor → Prop} {first parser : Parser α}
  {next : α → Parser β}

/-! ### Putting parsers together -/

/-- **One parser in step after another.** -/
theorem bind (inStep : InStep knows awaited middle first alike)
    (learns : ∀ c value c', knows c → first.Yields c value c' → learned value c')
    (same : ∀ value other, alike value other → next other = next value)
    (rest : ∀ value, InStep (learned value) middle after (next value)) :
    InStep knows awaited after (first >>= next) where
  together c d together known result c' yields := by
    obtain ⟨value, c₁, read, more⟩ := yields_bind.mp yields
    have learnt := learns _ _ _ known read
    rcases inStep.together together known read with behind | ⟨other, d₁, readOther, alike, onward⟩
    · exact .inl ((rest value).behind behind learnt more)
    · rcases (rest value).together onward learnt more with behind | ⟨_, d', moreOther, rfl, ends⟩
      · exact .inl behind
      · refine .inr ⟨_, d', yields_bind.mpr ⟨other, d₁, readOther, ?_⟩, rfl, ends⟩
        rwa [same value other alike]
  behind c behind known result c' yields := by
    obtain ⟨value, c₁, read, more⟩ := yields_bind.mp yields
    exact (rest value).behind (inStep.behind behind known read) (learns _ _ _ known read) more

/-- One parser after another of which nothing is known. -/
theorem andThen (inStep : InStep knows awaited middle first)
    (rest : ∀ value, InStep anywhere middle after (next value)) :
    InStep knows awaited after (first >>= next) :=
  inStep.bind (fun _ _ _ _ _ => trivial) (fun _ _ same => by rw [same]) rest

/-- A parser that does not depend on the line break in front of the token before it. -/
theorem andThenToken {first : Parser Token} {next : Token → Parser β}
    (inStep : InStep knows awaited middle first AlikeTokens)
    (same : ∀ token, next token.unlined = next token)
    (rest : ∀ value, InStep anywhere middle after (next value)) :
    InStep knows awaited after (first >>= next) :=
  inStep.bind (fun _ _ _ _ _ => trivial)
    (fun value other alike => by rw [← same other, ← same value, alike]) rest

theorem pure {value : α} : InStep knows awaited awaited (Pure.pure value : Parser α) where
  together c d together _ result c' yields := by
    obtain ⟨rfl, rfl⟩ := yields_pure.mp yields
    exact .inr ⟨_, d, yields_pure.mpr ⟨rfl, rfl⟩, rfl, together⟩
  behind c behind _ result c' yields := by
    obtain ⟨rfl, rfl⟩ := yields_pure.mp yields
    exact behind

/-- A parser that fails everywhere. -/
theorem ofFails (fails : ∀ c value c', ¬ parser.Yields c value c') :
    InStep knows awaited after parser where
  together _ _ _ _ _ _ yields := (fails _ _ _ yields).elim
  behind _ _ _ _ _ yields := (fails _ _ _ yields).elim

theorem throw {error : SyntaxError} : InStep knows awaited after (throw error : Parser α) :=
  ofFails fun _ _ _ => not_yields_throw

/-- What is known need not be. -/
theorem weaken {weaker : Cursor → Prop} (inStep : InStep weaker awaited after parser alike)
    (implies : ∀ c, knows c → weaker c) : InStep knows awaited after parser alike where
  together _ _ together known := inStep.together together (implies _ known)
  behind _ behind known := inStep.behind behind (implies _ known)

theorem always (inStep : InStep anywhere awaited after parser alike) :
    InStep knows awaited after parser alike :=
  inStep.weaken fun _ _ => trivial

theorem map (inStep : InStep knows awaited after parser) (f : α → β) :
    InStep knows awaited after (f <$> parser) := by
  rw [← bind_pure_comp]
  exact inStep.andThen fun _ => .pure

theorem ite {condition : Prop} [Decidable condition] {yes no : Parser α}
    (holds : condition → InStep knows awaited after yes)
    (fails : ¬ condition → InStep knows awaited after no) :
    InStep knows awaited after (if condition then yes else no) := by
  split
  · exact holds ‹_›
  · exact fails ‹_›

end InStep

/-! ### Looking and taking -/

theorem inStep_peek : InStep knows awaited awaited peek AlikeTokens where
  together c d together _ token c' yields := by
    obtain ⟨rfl, rfl⟩ := yields_peek.mp yields
    exact .inr ⟨_, d, yields_peek.mpr ⟨rfl, rfl⟩, together.next_unlined, together⟩
  behind c behind _ token c' yields := by
    obtain ⟨rfl, rfl⟩ := yields_peek.mp yields
    exact behind

/-- A parser that looks at the next token, but not at the line break in front of it. -/
theorem InStep.peek {next : Token → Parser β} (same : ∀ token, next token.unlined = next token)
    (rest : ∀ token, InStep (fun c => c.next.kind = token.kind) awaited after (next token)) :
    InStep knows awaited after (peek >>= next) :=
  inStep_peek.bind (fun c token c' _ yields => by
      obtain ⟨rfl, rfl⟩ := yields_peek.mp yields
      rfl)
    (fun value other alike => by rw [← same other, ← same value, alike]) rest

/-- Outside of groups the next token is the same, with the line break in front of it. -/
theorem inStep_peek_outside (outside : isGrouped awaited = false) :
    InStep knows awaited awaited peek where
  together c d together _ token c' yields := by
    obtain ⟨rfl, rfl⟩ := yields_peek.mp yields
    refine .inr ⟨_, d, yields_peek.mpr ⟨rfl, rfl⟩, ?_, together⟩
    exact (Token.eq_of_unlined together.next_unlined (together.newlineBefore_next outside)).symm
  behind c behind known token c' yields := inStep_peek.behind behind known yields

/-- A parser that asks for the kind of the next token. -/
theorem InStep.isAt {kind : TokenKind} {next : Bool → Parser β}
    (rest : ∀ answer,
      InStep (fun c => (c.next.kind == kind) = answer) awaited after (next answer)) :
    InStep knows awaited after (isAt kind >>= next) := by
  have inStep : InStep knows awaited awaited (Parser.isAt kind) :=
    inStep_peek.andThenToken (fun _ => rfl) fun _ => .pure
  refine inStep.bind (fun c answer c' _ yields => ?_) (fun _ _ same => by rw [same]) rest
  obtain ⟨rfl, rfl⟩ := yields_isAt.mp yields
  rfl

theorem InStep.isAtSymbol {sign : Symbol} {next : Bool → Parser β}
    (rest : ∀ answer,
      InStep (fun c => (c.next.kind == .symbol sign) = answer) awaited after (next answer)) :
    InStep knows awaited after (isAtSymbol sign >>= next) :=
  .isAt rest

/-- A parser that asks where the next token starts. -/
theorem InStep.here {next : Nat → Parser β}
    (rest : ∀ start, InStep knows awaited after (next start)) :
    InStep knows awaited after (here >>= next) := by
  have inStep : InStep knows awaited awaited Parser.here :=
    inStep_peek.andThenToken (fun _ => rfl) fun _ => .pure
  refine inStep.bind (fun c start c' known yields => ?_) (fun _ _ same => by rw [same]) rest
  obtain ⟨rfl, rfl⟩ := yields_here.mp yields
  exact known

/-- A parser that asks for a line break where that is outside of groups. -/
theorem InStep.onNewLine {region : Region} (suits : region.Suits awaited) {next : Bool → Parser β}
    (rest : ∀ breaks, InStep knows awaited after (next breaks)) :
    InStep knows awaited after (onNewLine region >>= next) := by
  have inStep : InStep knows awaited awaited (Parser.onNewLine region) := by
    cases breaks : region.breaksLines with
    | true => exact (inStep_peek_outside (suits breaks)).andThen fun _ => .pure
    | false =>
        refine inStep_peek.andThenToken (fun token => ?_) fun _ => .pure
        rw [breaks, Bool.false_and, Bool.false_and]
  refine inStep.bind (fun c answer c' known yields => ?_) (fun _ _ same => by rw [same]) rest
  obtain ⟨rfl, rfl⟩ := yields_onNewLine.mp yields
  exact known

theorem inStep_spanFrom (start : Nat) : InStep knows awaited awaited (spanFrom start) where
  together c d together _ span c' yields := by
    obtain ⟨rfl, rfl⟩ := yields_spanFrom.mp yields
    exact .inr ⟨_, d, yields_spanFrom.mpr ⟨rfl, rfl⟩,
      by rw [Cursor.spanFrom, Cursor.spanFrom, together.lastEnd], together⟩
  behind c behind _ span c' yields := by
    obtain ⟨rfl, rfl⟩ := yields_spanFrom.mp yields
    exact behind

/-- Something that is made from the span up to here. -/
theorem inStep_spanned (start : Nat) (make : Span → α) :
    InStep knows awaited awaited (spanFrom start >>= fun span => Pure.pure (make span)) :=
  (inStep_spanFrom start).andThen fun _ => .pure

/-- The next token is taken; behind it the closing signs are awaited that it nests. -/
theorem inStep_take (nests : ∀ c, knows c → c.next.kind.nest awaited = after) :
    InStep knows awaited after take AlikeTokens where
  together c d together known token c' yields := by
    obtain ⟨rfl, rfl⟩ := yields_take.mp yields
    refine .inr ⟨_, _, yields_take.mpr ⟨rfl, rfl⟩, together.next_unlined, ?_⟩
    exact nests c known ▸ together.advance
  behind c behind known token c' yields := by
    obtain ⟨rfl, rfl⟩ := yields_take.mp yields
    exact nests c known ▸ behind.advance

/-- A token that is no delimiter is taken. -/
theorem inStep_takePlain (plain : ∀ c, knows c → c.next.kind.isPlain = true) :
    InStep knows awaited awaited take AlikeTokens :=
  inStep_take fun c known => TokenKind.nest_of_isPlain (plain c known)

/-- A token of a kind that was found to be next, and that is no delimiter, is taken. -/
theorem inStep_takeAt {kind : TokenKind} {answer : Bool} (found : answer = true)
    (plain : kind.isPlain = true) :
    InStep (fun c => (c.next.kind == kind) = answer) awaited awaited take AlikeTokens :=
  inStep_takePlain fun c isNext => by
    rw [found, beq_iff_eq] at isNext
    rwa [isNext]

/-- A token of a kind that is no delimiter is taken. -/
theorem inStep_takeKind {kind : TokenKind} (plain : kind.isPlain = true) :
    InStep (fun c => c.next.kind = kind) awaited awaited take AlikeTokens :=
  inStep_takePlain fun c isNext => by rwa [isNext]

theorem inStep_eat {kind : TokenKind} (plain : kind.isPlain = true) :
    InStep knows awaited awaited (eat kind) :=
  .isAt fun _ => .ite
    (fun found => (inStep_takeAt found plain).andThenToken (fun _ => rfl) fun _ => .pure)
    fun _ => .pure

theorem inStep_eatSymbol {sign : Symbol} (plain : (TokenKind.symbol sign).isPlain = true) :
    InStep knows awaited awaited (eatSymbol sign) :=
  inStep_eat plain

theorem inStep_unexpected {expected : String} :
    InStep knows awaited after (unexpected expected : Parser α) :=
  .ofFails fun _ _ _ => not_yields_unexpected

/-- What is expected is taken. -/
theorem inStep_expect (kind : TokenKind) :
    InStep knows awaited (kind.nest awaited) (expect kind) AlikeTokens where
  together c d together _ token c' yields := by
    obtain ⟨isNext, rfl, rfl⟩ := yields_expect.mp yields
    refine .inr ⟨_, _, yields_expect.mpr ⟨together.kind_next.trans isNext, rfl, rfl⟩,
      together.next_unlined, ?_⟩
    exact isNext ▸ together.advance
  behind c behind _ token c' yields := by
    obtain ⟨isNext, rfl, rfl⟩ := yields_expect.mp yields
    exact isNext ▸ behind.advance

theorem inStep_expectSymbol (sign : Symbol) :
    InStep knows awaited ((TokenKind.symbol sign).nest awaited) (expectSymbol sign) AlikeTokens :=
  inStep_expect (.symbol sign)

theorem inStep_expectKeyword (word : Keyword) :
    InStep knows awaited awaited (expectKeyword word) AlikeTokens :=
  inStep_expect (.keyword word)

/-- A name is taken. -/
theorem inStep_identifier : InStep knows awaited awaited identifier :=
  .isAt fun _ => .ite
    (fun found => (inStep_takeAt found rfl).andThenToken (fun _ => rfl) fun _ => .pure)
    fun _ => inStep_unexpected

theorem inStep_nameOrUnderscore : InStep knows awaited awaited nameOrUnderscore :=
  .isAtSymbol fun _ => .ite
    (fun found => (inStep_takeAt found rfl).andThenToken (fun _ => rfl) fun _ => .pure)
    fun _ => inStep_identifier

/-- A parser that looks at all that is left, but not at line breaks. -/
theorem InStep.get {next : Cursor → Parser β} (same : ∀ c, next c.unlined = next c)
    (rest : ∀ c, knows c → InStep (fun here => here = c) awaited after (next c)) :
    InStep knows awaited after (get >>= next) where
  together c d together known result c' yields := by
    have ofNext := yields_get_bind.mp yields
    rcases (rest c known).together together rfl ofNext with behind | ⟨other, d', ofOther, alike, ends⟩
    · exact .inl behind
    · refine .inr ⟨other, d', yields_get_bind.mpr ?_, alike, ends⟩
      rwa [← same d, together.unlined_eq, same c]
  behind c behind known _ _ yields := (rest c known).behind behind rfl (yields_get_bind.mp yields)

/-- Tokens that are no delimiters are taken. -/
theorem InStep.takeMany {count : Nat} {next : List Token → Parser β}
    (plain : ∀ c, knows c → ∀ token ∈ c.rest.take count, token.kind.isPlain = true)
    (same : ∀ tokens, next (tokens.map Token.unlined) = next tokens)
    (rest : ∀ tokens, InStep anywhere awaited after (next tokens)) :
    InStep knows awaited after (takeMany count >>= next) where
  together c d together known result c' yields := by
    obtain ⟨tokens, middle, taken, more⟩ := yields_bind.mp yields
    obtain ⟨rfl, rfl⟩ := yields_takeMany.mp taken
    have onward := together.skip count
    rw [nestAll_of_isPlain (plain c known)] at onward
    rcases (rest _).together onward trivial more with behind | ⟨other, d', ofOther, alike, ends⟩
    · exact .inl behind
    · refine .inr ⟨other, d', yields_bind.mpr ⟨_, _, yields_takeMany.mpr ⟨rfl, rfl⟩, ?_⟩, alike,
        ends⟩
      have taken : (d.rest.take count).map Token.unlined = (c.rest.take count).map Token.unlined := by
        rw [List.map_take, List.map_take, together.relined.map_unlined]
      rwa [← same, taken, same]
  behind c behind known result c' yields := by
    obtain ⟨tokens, middle, taken, more⟩ := yields_bind.mp yields
    obtain ⟨rfl, rfl⟩ := yields_takeMany.mp taken
    exact (rest _).behind (behind.skip (plain c known)) trivial more

section Fronts

variable {chooses : Token → Bool}

/-- How many tokens in front have a property does not depend on line breaks. -/
theorem length_takeWhile_unlined (same : ∀ token, chooses token.unlined = chooses token)
    (tokens : List Token) : ((tokens.map Token.unlined).takeWhile chooses).length =
      (tokens.takeWhile chooses).length := by
  rw [List.takeWhile_map, List.length_map]
  exact congrArg (fun chooses => (tokens.takeWhile chooses).length) (funext same)

/-- The tokens in front that have a property are no delimiters when it excludes these. -/
theorem plain_takeWhile (excludes : ∀ token, chooses token = true → token.kind.isPlain = true)
    {c : Cursor} (here : Cursor) (isHere : here = c) :
    ∀ token ∈ here.rest.take (c.rest.takeWhile chooses).length, token.kind.isPlain = true := by
  subst isHere
  rw [← List.prefix_iff_eq_take.mp (List.takeWhile_prefix chooses)]
  exact fun token taken => excludes token (List.all_eq_true.mp List.all_takeWhile token taken)

/-- The next two tokens are no delimiters when they are of other kinds. -/
theorem plain_take_two {c : Cursor} (first : c.next.kind.isPlain = true)
    (second : c.second.kind.isPlain = true) :
    ∀ token ∈ c.rest.take 2, token.kind.isPlain = true := by
  unfold Cursor.next at first
  unfold Cursor.second at second
  match left : c.rest with
  | [] => exact List.forall_mem_nil _
  | [token] =>
      rw [left] at first
      exact List.forall_mem_singleton.mpr first
  | token :: other :: rest =>
      rw [left] at first second
      exact List.forall_mem_cons.mpr ⟨first, List.forall_mem_singleton.mpr second⟩

theorem dottedNames_map_unlined (tokens : List Token) :
    dottedNames (tokens.map Token.unlined) = (dottedNames tokens).map Token.unlined := by
  fun_induction dottedNames tokens with
  | case1 dot name rest isPart ih | case2 dot name rest isPart => simp_all [dottedNames]
  | case3 tokens short =>
      match tokens with
      | [] | [_] => rfl
      | dot :: name :: rest => exact absurd rfl (short dot name rest)

/-- Names with dots between them are no delimiters. -/
theorem plain_dottedNames (tokens : List Token) :
    ∀ token ∈ tokens.take (2 * (dottedNames tokens).length), token.kind.isPlain = true := by
  fun_induction dottedNames tokens with
  | case1 dot name rest isPart ih =>
      obtain ⟨isDot, isName⟩ := Bool.and_eq_true_iff.mp isPart
      rw [List.length_cons, Nat.mul_succ, List.take_succ_cons, List.take_succ_cons]
      refine List.forall_mem_cons.mpr ⟨?_, List.forall_mem_cons.mpr ⟨?_, ih⟩⟩
      · rw [beq_iff_eq.mp isDot]
        rfl
      · rw [beq_iff_eq.mp isName]
        rfl
  | case2 | case3 => exact List.forall_mem_nil _

theorem closureNames_map_unlined (tokens : List Token) :
    closureNames (tokens.map Token.unlined) =
      (closureNames tokens).map fun names => names.map Token.unlined := by
  fun_induction closureNames tokens with
  | case1 | case3 | case4 => simp_all [closureNames]
  | case2 name next rest isParam isComma ih =>
      simp_all [closureNames]
      rfl
  | case5 tokens short =>
      rcases tokens with _ | ⟨name, _ | ⟨next, rest⟩⟩
      · rfl
      · rfl
      · exact absurd rfl (short name next rest)

/-- The parameters of a closure are no delimiters. -/
theorem plain_closureNames {tokens names : List Token} (found : closureNames tokens = some names) :
    ∀ token ∈ tokens.take (2 * names.length), token.kind.isPlain = true := by
  -- a parameter and the comma or the keyword behind it
  have both {name next : Token} {rest : List Token} {count : Nat}
      (isParam : (name.kind == .identifier || name.kind == .symbol .underscore) = true)
      (isPlain : next.kind.isPlain = true)
      (others : ∀ token ∈ rest.take (2 * count), token.kind.isPlain = true) :
      ∀ token ∈ (name :: next :: rest).take (2 * (count + 1)), token.kind.isPlain = true := by
    rw [Nat.mul_succ, List.take_succ_cons, List.take_succ_cons]
    refine List.forall_mem_cons.mpr ⟨?_, List.forall_mem_cons.mpr ⟨isPlain, others⟩⟩
    rw [Bool.or_eq_true, beq_iff_eq, beq_iff_eq] at isParam
    obtain isParam | isParam := isParam <;> rw [isParam] <;> rfl
  fun_induction closureNames tokens generalizing names with
  | case1 name next rest isParam isIn =>
      cases found
      exact both isParam (isIn ▸ rfl) (List.forall_mem_nil _)
  | case2 name next rest isParam isComma ih =>
      obtain ⟨others, isRest, rfl⟩ := Option.map_eq_some_iff.mp found
      exact both isParam (isComma ▸ rfl) (ih isRest)
  | case3 | case4 | case5 => cases found

end Fronts

/-! ### Lists -/

section Lists

variable {item : Parser α}

theorem inStep_separated (inStep : InStep anywhere awaited awaited item) (bound : Nat) :
    InStep knows awaited awaited (separated item bound) := by
  induction bound generalizing knows with
  | zero => exact .pure
  | succ bound ih =>
      exact inStep.always.andThen fun _ =>
        (inStep_eatSymbol rfl).andThen fun _ =>
          .ite (fun _ => ih.andThen fun _ => .pure) fun _ => .pure

theorem inStep_itemsUntil (inStep : InStep anywhere awaited awaited item) (close : Symbol)
    (bound : Nat) : InStep knows awaited awaited (itemsUntil close item bound) := by
  induction bound generalizing knows with
  | zero => exact .pure
  | succ bound ih =>
      exact .isAtSymbol fun _ => .ite (fun _ => .pure) fun _ =>
        inStep.always.andThen fun _ => (inStep_eatSymbol rfl).andThen fun _ =>
          .ite (fun _ => ih.andThen fun _ => .pure) fun _ => .pure

/-- Behind the closing sign the delimiters around it are left. -/
theorem inStep_closedBy (inStep : InStep anywhere awaited awaited item) (close : Symbol)
    (bound : Nat) : InStep knows awaited ((TokenKind.symbol close).nest awaited)
      (closedBy close item bound) :=
  (inStep_itemsUntil inStep close bound).andThen fun _ =>
    (inStep_expectSymbol close).andThenToken (fun _ => rfl) fun _ => .pure

theorem inStep_repeatedUntil (inStep : InStep anywhere awaited awaited item) (close : Symbol)
    (bound : Nat) : InStep knows awaited awaited (repeatedUntil close item bound) := by
  induction bound generalizing knows with
  | zero => exact .pure
  | succ bound ih =>
      exact .isAtSymbol fun _ => .ite (fun _ => .pure) fun _ =>
        inStep.always.andThen fun _ => ih.andThen fun _ => .pure

theorem inStep_skipSemicolons : InStep knows awaited awaited skipSemicolons := by
  refine .get (fun c => ?_) fun c _ => .takeMany (plain_takeWhile fun token isSemicolon => ?_)
    (fun _ => rfl) fun _ => .pure
  · exact congrArg (fun count => takeMany count >>= fun _ => Pure.pure ())
      (length_takeWhile_unlined (fun _ => rfl) c.rest)
  · rw [beq_iff_eq.mp isSemicolon]
    rfl

/-- **Statements end alike**: outside of groups the line breaks that end them are the same. -/
theorem inStep_endStatement (outside : isGrouped awaited = false) :
    InStep knows awaited awaited endStatement :=
  (inStep_eatSymbol rfl).andThen fun _ => .ite (fun _ => .pure) fun _ =>
    (inStep_peek_outside outside).andThen fun _ => .ite (fun _ => .pure) fun _ => .throw

theorem inStep_sequence (outside : isGrouped awaited = false)
    (inStep : InStep anywhere awaited awaited item) (stops : TokenKind → Bool) (bound : Nat) :
    InStep knows awaited awaited (sequence stops item bound) := by
  induction bound generalizing knows with
  | zero => exact .pure
  | succ bound ih =>
      exact inStep_skipSemicolons.andThen fun _ => .peek (fun _ => rfl) fun _ =>
        .ite (fun _ => .pure) fun _ => inStep.always.andThen fun _ =>
          (inStep_endStatement outside).andThen fun _ => ih.andThen fun _ => .pure

end Lists

/-- **The parsers of what is further in are in step.** Expressions ask for line breaks as their region
does, statements and declarations for all. -/
structure Inner.InStep (inner : Inner) : Prop where
  type : ∀ knows awaited, Parser.InStep knows awaited awaited inner.type
  expression : ∀ {region awaited}, region.Suits awaited →
    ∀ knows, Parser.InStep knows awaited awaited (inner.expression region)
  ternary : ∀ {region awaited}, region.Suits awaited →
    ∀ knows, Parser.InStep knows awaited awaited (inner.ternary region)
  binary : ∀ {region awaited}, region.Suits awaited →
    ∀ least knows, Parser.InStep knows awaited awaited (inner.binary region least)
  unary : ∀ {region awaited}, region.Suits awaited →
    ∀ knows, Parser.InStep knows awaited awaited (inner.unary region)
  statement : ∀ {awaited}, isGrouped awaited = false →
    ∀ knows, Parser.InStep knows awaited awaited inner.statement
  declaration : ∀ {awaited}, isGrouped awaited = false →
    ∀ knows, Parser.InStep knows awaited awaited inner.declaration
  conditional : ∀ {awaited}, isGrouped awaited = false →
    ∀ knows, Parser.InStep knows awaited awaited inner.conditional

variable {inner : Inner} (inStep : inner.InStep)

include inStep

theorem inStep_statements (outside : isGrouped awaited = false) (stops : TokenKind → Bool) :
    InStep knows awaited awaited (statements inner stops) :=
  inStep_sequence outside (inStep.statement outside _) _ _

/-- Between the braces of a block the line breaks are those of the statements in it. -/
theorem inStep_block : InStep knows awaited awaited (block inner) :=
  (inStep_expectSymbol .braceOpen).andThenToken (fun _ => rfl) fun _ =>
    (inStep_statements inStep rfl _).andThen fun _ =>
      (inStep_expectSymbol .braceClose).andThenToken (fun _ => rfl) fun _ => inStep_spanned _ _

/-! ### Types -/

omit inStep in
theorem inStep_attributes (bound : Nat) : InStep knows awaited awaited (attributes bound) := by
  induction bound generalizing knows with
  | zero => exact .pure
  | succ bound ih =>
      exact .isAtSymbol fun _ => .ite
        (fun found => (inStep_takeAt found rfl).andThenToken (fun _ => rfl) fun _ =>
          inStep_identifier.andThen fun _ => (inStep_spanFrom _).andThen fun _ =>
            ih.andThen fun _ => .pure)
        fun _ => .pure

theorem inStep_typeList : InStep knows awaited awaited (typeList inner) := by
  refine (inStep_expectSymbol .parenOpen).andThenToken (fun _ => rfl) fun _ =>
    inStep_closedBy ?_ .parenClose _
  have rest : InStep anywhere (.parenClose :: awaited) (.parenClose :: awaited)
      (attributes inner.bound >>= fun _ => inner.type) :=
    (inStep_attributes _).andThen fun _ => inStep.type _ _
  refine .get (fun c => ?_) fun c _ => .ite
    (fun labelled => .takeMany (fun here isHere token taken => ?_) (fun _ => rfl) fun _ => rest)
    fun _ => rest.always
  · simp only [Cursor.next_unlined, Cursor.second_unlined]
    rfl
  · subst isHere
    rw [Bool.and_eq_true, Bool.or_eq_true, beq_iff_eq, beq_iff_eq, beq_iff_eq] at labelled
    obtain ⟨isName | isName, isColon⟩ := labelled
    · exact plain_take_two (isName ▸ rfl) (isColon ▸ rfl) token taken
    · exact plain_take_two (isName ▸ rfl) (isColon ▸ rfl) token taken

theorem inStep_unmarkedType : InStep knows awaited awaited (unmarkedType inner) := by
  refine .here fun start => .peek (fun _ => rfl) fun token => ?_
  split
  case h_1 isName =>
    refine (inStep_takeKind (isName ▸ rfl)).andThenToken (fun _ => rfl) fun _ => .ite
      (fun _ => (inStep.type _ _).andThen fun _ => .pure) fun _ => .get (fun c => ?_) fun c _ =>
        .takeMany (fun here isHere token taken => ?_) (fun _ => rfl) fun _ =>
          (inStep_eatSymbol rfl).andThen fun _ => .ite
            (fun _ => (inStep_separated (inStep.type _ _) _).andThen fun _ =>
              (inStep_expectSymbol .greater).andThenToken (fun _ => rfl) fun _ => .pure)
            fun _ => .pure
    · simp only [Cursor.rest_unlined, dottedNames_map_unlined, List.length_map, List.map_map]
      rfl
    · subst isHere
      exact plain_dottedNames _ token taken
  case h_2 =>
    refine (inStep_typeList inStep).andThen fun elements => (inStep_eatSymbol rfl).andThen
      fun _ => .ite (fun _ => (inStep.type _ _).andThen fun _ => .pure) fun _ => ?_
    split <;> exact .pure
  case h_3 => exact inStep_unexpected

theorem inStep_type : InStep knows awaited awaited (type inner) := by
  refine .here fun _ => (inStep_unmarkedType inStep).andThen fun _ =>
    (inStep_spanFrom _).andThen fun _ => .get (fun c => ?_) fun c _ =>
      .takeMany (plain_takeWhile fun token isMark => ?_) (fun tokens => ?_) fun _ => .pure
  · rw [Cursor.rest_unlined, @length_takeWhile_unlined marksOptional fun _ => rfl]
  · simp only [marksOptional, Bool.or_eq_true, beq_iff_eq] at isMark
    obtain isMark | isMark := isMark <;> rw [isMark] <;> rfl
  · simp only [markedOptional, List.foldl_map]
    rfl

/-! ### Expressions -/

omit inStep in
theorem inStep_closureParams : InStep knows awaited awaited closureParams := by
  refine .get (fun c => ?_) fun c _ => ?_
  · rw [Cursor.rest_unlined, closureNames_map_unlined]
    cases closureNames c.rest with
    | none => rfl
    | some names =>
        simp only [Option.map_some, List.length_map, List.map_map]
        rfl
  · split
    · exact .pure
    · next names found =>
        refine .takeMany (fun here isHere token taken => ?_) (fun _ => rfl) fun _ => .pure
        subst isHere
        exact plain_closureNames found token taken

theorem inStep_closure : InStep knows awaited awaited (closure inner) :=
  (inStep_expectSymbol .braceOpen).andThenToken (fun _ => rfl) fun _ =>
    inStep_closureParams.andThen fun _ => (inStep_statements inStep rfl _).andThen fun _ =>
      (inStep_expectSymbol .braceClose).andThenToken (fun _ => rfl) fun _ => inStep_spanned _ _

theorem inStep_trailingClosure? {region : Region} (suits : region.Suits awaited) :
    InStep knows awaited awaited (trailingClosure? inner region) :=
  .isAtSymbol fun _ => .onNewLine suits fun _ => .ite
    (fun _ => (inStep_closure inStep).andThen fun _ => .pure) fun _ => .pure

theorem inStep_argument : InStep knows awaited awaited (argument inner) := by
  have value := inStep.expression (Region.suits_delimited awaited) anywhere
  refine .here fun _ => .get (fun c => ?_) fun c _ => .ite (fun labelled => ?_)
    fun _ => value.always.andThen fun _ => inStep_spanned _ _
  · simp only [Cursor.next_unlined, Cursor.second_unlined]
    rfl
  · -- behind the label comes the colon
    refine inStep_identifier.bind (fun here name c' isHere yields => ?_)
      (fun _ _ same => by rw [same]) fun name =>
        (inStep_takeKind (rfl : (TokenKind.symbol .colon).isPlain = true)).andThenToken
          (fun _ => rfl) fun _ => value.andThen fun _ => inStep_spanned _ _
    subst isHere
    obtain ⟨isName, -, rfl⟩ := yields_identifier.mp yields
    rw [Bool.and_eq_true, beq_iff_eq, beq_iff_eq] at labelled
    rw [Cursor.next_advance (isName ▸ nofun) (by rw [isName, labelled.2]; nofun), labelled.2]

/-- **Behind arguments** the delimiters around them are left. -/
theorem inStep_arguments {opening closing : Symbol}
    (closes : (TokenKind.symbol closing).nest ((TokenKind.symbol opening).nest awaited) = awaited) :
    InStep knows awaited awaited (arguments inner opening closing) := by
  have items : InStep anywhere ((TokenKind.symbol opening).nest awaited)
      ((TokenKind.symbol closing).nest ((TokenKind.symbol opening).nest awaited))
      (closedBy closing (argument inner) inner.bound) :=
    inStep_closedBy (inStep_argument inStep) closing inner.bound
  rw [closes] at items
  exact (inStep_expectSymbol opening).andThenToken (fun _ => rfl) fun _ => items

theorem inStep_primary : InStep knows awaited awaited (primary inner) := by
  refine .here fun start => .peek (fun _ => rfl) fun token => ?_
  -- a token that is an operand by itself
  have single {kind : TokenKind} (isPlain : kind.isPlain = true) (make : Span → Expr) :
      InStep (fun c => c.next.kind = kind) awaited awaited
        (take >>= fun _ => spanFrom start >>= fun span => Pure.pure (make span)) :=
    (inStep_takeKind isPlain).andThenToken (fun _ => rfl) fun _ => inStep_spanned _ _
  split
  case h_1 isNext =>
    exact (inStep_takeKind (isNext ▸ rfl)).andThenToken (fun _ => rfl) fun _ => 
      .ite (fun _ => inStep_spanned _ _) fun _ => .throw
  case h_10 isNext =>
    exact (inStep_takeKind (isNext ▸ rfl)).andThenToken (fun _ => rfl) fun _ =>
      inStep_identifier.andThen fun _ => inStep_spanned _ _
  case h_11 =>
    refine (inStep_arguments inStep rfl).andThen fun elements => ?_
    split <;> exact inStep_spanned _ _
  case h_12 => exact (inStep_arguments inStep rfl).andThen fun _ => inStep_spanned _ _
  case h_13 => exact (inStep_closure inStep).andThen fun _ => .pure
  case h_14 => exact inStep_unexpected
  all_goals
    next isNext => exact single (isNext ▸ rfl) _

omit inStep in
theorem inStep_memberName : InStep knows awaited awaited memberName := by
  refine .peek (fun _ => rfl) fun token => ?_
  split
  case h_4 => exact inStep_unexpected
  all_goals
    next isNext =>
      exact (inStep_takeKind (isNext ▸ rfl)).andThenToken (fun _ => rfl) fun _ => .pure

theorem inStep_postfixStep {region : Region} (suits : region.Suits awaited) (start : Nat)
    (operand : Expr) : InStep knows awaited awaited (postfixStep inner region start operand) := by
  refine .onNewLine suits fun breaks => .peek (fun _ => rfl) fun token => ?_
  split
  case h_1 =>
    exact .ite (fun _ => .pure) fun _ => (inStep_arguments inStep rfl).andThen fun _ =>
      (inStep_trailingClosure? inStep suits).andThen fun _ => inStep_spanned _ _
  case h_2 =>
    exact .ite (fun _ => .pure) fun _ => (inStep_trailingClosure? inStep suits).andThen fun _ =>
      inStep_spanned _ _
  case h_3 =>
    exact .ite (fun _ => .pure) fun _ => (inStep_arguments inStep rfl).andThen fun _ =>
      inStep_spanned _ _
  case h_4 isNext =>
    exact .ite (fun _ => .pure) fun _ =>
      (inStep_takeKind (isNext ▸ rfl)).andThenToken (fun _ => rfl) fun _ =>
        inStep_memberName.andThen fun _ => inStep_spanned _ _
  case h_5 isNext | h_6 isNext =>
    exact (inStep_takeKind (isNext ▸ rfl)).andThenToken (fun _ => rfl) fun _ => inStep_spanned _ _
  case h_7 => exact .pure

theorem inStep_postfixChain {region : Region} (suits : region.Suits awaited) (start : Nat)
    (operand : Expr) (bound : Nat) :
    InStep knows awaited awaited (postfixChain inner region start operand bound) := by
  induction bound generalizing operand knows with
  | zero => exact .pure
  | succ bound ih =>
      refine (inStep_postfixStep inStep suits _ _).andThen fun longer => ?_
      split
      · exact .pure
      · exact ih _

omit inStep in
theorem isPlain_of_unaryOp? {kind : TokenKind} {op : UnaryOp} (isOp : unaryOp? kind = some op) :
    kind.isPlain = true := by
  unfold unaryOp? at isOp
  split at isOp <;> first | rfl | cases isOp

theorem inStep_unary {region : Region} (suits : region.Suits awaited) :
    InStep knows awaited awaited (unary inner region) := by
  refine .here fun start => .peek (fun _ => rfl) fun token => ?_
  dsimp only
  split
  case h_1 op isOp =>
    exact (inStep_takeKind (isPlain_of_unaryOp? isOp)).andThenToken (fun _ => rfl) fun _ =>
      (inStep.unary suits _).andThen fun _ => inStep_spanned _ _
  case h_2 =>
    exact (inStep_primary inStep).andThen fun _ => inStep_postfixChain inStep suits _ _ _

omit inStep in
theorem isPlain_of_binaryOp? {kind : TokenKind} {op : BinaryOp} (isOp : binaryOp? kind = some op) :
    kind.isPlain = true := by
  unfold binaryOp? at isOp
  split at isOp <;> first | rfl | cases isOp

theorem inStep_binaryChain {region : Region} (suits : region.Suits awaited) (start least : Nat)
    (left : Expr) (bound : Nat) :
    InStep knows awaited awaited (binaryChain inner region start least left bound) := by
  induction bound generalizing left knows with
  | zero => exact .pure
  | succ bound ih =>
      refine .peek (fun _ => rfl) fun token => ?_
      split
      case h_1 => exact .pure
      case h_2 op isOp =>
        exact .onNewLine suits fun _ => .ite (fun _ => .pure) fun _ =>
          (inStep_takeKind (isPlain_of_binaryOp? isOp)).andThenToken (fun _ => rfl) fun _ =>
            (inStep.binary suits _ _).andThen fun _ => (inStep_spanFrom _).andThen fun _ => ih _

theorem inStep_binary {region : Region} (suits : region.Suits awaited) (least : Nat) :
    InStep knows awaited awaited (binary inner region least) :=
  .here fun _ => (inStep_unary inStep suits).andThen fun _ => inStep_binaryChain inStep suits _ _ _ _

theorem inStep_ternary {region : Region} (suits : region.Suits awaited) :
    InStep knows awaited awaited (ternary inner region) :=
  .here fun _ => (inStep_binary inStep suits _).andThen fun _ => .isAtSymbol fun isNext =>
    .onNewLine suits fun _ => .ite (fun _ => .pure) fun goesOn =>
      (inStep_takeAt (by simp at goesOn; exact goesOn.1) rfl).andThenToken (fun _ => rfl) fun _ =>
        (inStep.ternary suits _).andThen fun _ =>
          (inStep_expectSymbol .colon).andThenToken (fun _ => rfl) fun _ =>
            (inStep.ternary suits _).andThen fun _ => inStep_spanned _ _

theorem inStep_expression {region : Region} (suits : region.Suits awaited) :
    InStep knows awaited awaited (expression inner region) :=
  .here fun _ => (inStep_ternary inStep suits).andThen fun _ => .isAtSymbol fun _ =>
    .onNewLine suits fun _ => .ite
      (fun goesOn => (inStep_takeAt (Bool.and_eq_true_iff.mp goesOn).1 rfl).andThenToken
        (fun _ => rfl) fun _ => (inStep.expression suits _).andThen fun _ => inStep_spanned _ _)
      fun _ => .pure

/-! ### Patterns -/

omit inStep in
/-- **A pattern is taken alike**: what is known of it does not depend on line breaks. It is the one
construct that can fall behind, when it takes a closing brace that it has not opened. -/
theorem inStep_pattern (stops : TokenKind → Bool) :
    InStep knows awaited awaited (pattern stops) where
  together c d together _ found c' yields := by
    obtain ⟨first, last, isFirst, isLast, rfl, rfl⟩ := yields_pattern.mp yields
    have unlined := @Together.map_unlined_patternTokens _ _ _ stops together
    have further := @Together.skip_pattern _ _ _ stops together
    refine further.imp_right fun onward => ?_
    have length := congrArg List.length unlined
    have starts := congrArg List.head? unlined
    have ends := congrArg List.getLast? unlined
    have bare : (patternTokens stops 0 d.rest).map Token.bare =
        (patternTokens stops 0 c.rest).map Token.bare := by
      have same := congrArg (List.map Token.bare) unlined
      rwa [List.map_map, List.map_map] at same
    rw [List.length_map, List.length_map] at length
    rw [List.head?_map, List.head?_map, isFirst] at starts
    rw [List.getLast?_map, List.getLast?_map, isLast] at ends
    obtain ⟨otherFirst, isOtherFirst, sameFirst⟩ := Option.map_eq_some_iff.mp starts
    obtain ⟨otherLast, isOtherLast, sameLast⟩ := Option.map_eq_some_iff.mp ends
    have start : otherFirst.span = first.span := by
      rw [← otherFirst.span_unlined, sameFirst, first.span_unlined]
    have stop : otherLast.span = last.span := by
      rw [← otherLast.span_unlined, sameLast, last.span_unlined]
    -- the name, the wildcard and what may fail to match depend neither on places nor on line breaks
    have same {γ : Type} (f : List Token → γ)
        (reads : ∀ tokens, f (tokens.map Token.bare) = f tokens) :
        f (patternTokens stops 0 c.rest) = f (patternTokens stops 0 d.rest) := by
      rw [← reads, ← bare, reads]
    refine ⟨_, d.skip (patternTokens stops 0 c.rest).length, yields_pattern.mpr
      ⟨otherFirst, otherLast, isOtherFirst, isOtherLast, by rw [length], rfl⟩, ?_, onward⟩
    rw [start, stop, together.source, same _ namedCase_map_bare, same _ isWildcard_map_bare,
      same _ isRefutable_map_bare]
  behind c behind _ found c' yields := by
    obtain ⟨first, last, -, -, rfl, -⟩ := yields_pattern.mp yields
    exact behind.skip_pattern

/-! ### Declarations -/

theorem inStep_generics : InStep knows awaited awaited (generics inner) := by
  refine (inStep_eatSymbol rfl).andThen fun _ => .ite (fun _ => inStep_closedBy ?_ .greater _)
    fun _ => .pure
  exact .here fun _ => inStep_identifier.andThen fun _ => (inStep_eatSymbol rfl).andThen fun _ =>
    .ite (fun _ => ((inStep.type _ _).map _).andThen fun _ => inStep_spanned _ _)
      fun _ => InStep.pure.andThen fun _ => inStep_spanned _ _

theorem inStep_conformances : InStep knows awaited awaited (conformances inner) :=
  (inStep_eatSymbol rfl).andThen fun _ => .ite
    (fun _ => (inStep_separated (inStep.type _ _) _).andThen fun _ => .pure) fun _ => .pure

omit inStep in
/-- Where no name starts a `where` clause, none is taken. -/
theorem inStep_skipWhereClause : InStep knows awaited awaited skipWhereClause where
  together c d together _ _ c' yields := by
    obtain rfl := (yields_skipWhereClause.mp yields).trans (if_neg together.awaits.noWhere_next)
    exact .inr ⟨_, d, yields_skipWhereClause.mpr (if_neg together.symm.awaits.noWhere_next).symm,
      rfl, together⟩
  behind c behind _ _ c' yields := by
    obtain ⟨fewer, awaits, less⟩ := behind
    obtain rfl := (yields_skipWhereClause.mp yields).trans (if_neg awaits.noWhere_next)
    exact ⟨fewer, awaits, less⟩

theorem inStep_param : InStep knows (.parenClose :: awaited) (.parenClose :: awaited)
    (param inner) := by
  refine .here fun start => (inStep_attributes _).andThen fun before =>
    inStep_nameOrUnderscore.andThen fun first => .isAt fun _ => .isAtSymbol fun _ => ?_
  extract_lets named typed
  -- what follows the names, whether there are one or two
  have rest {knows : Cursor → Prop} (name : Name) :
      InStep knows (.parenClose :: awaited) (.parenClose :: awaited) (typed name) :=
    (inStep_expectSymbol .colon).andThenToken (fun _ => rfl) fun _ =>
      (inStep_attributes _).andThen fun _ => (inStep.type _ _).andThen fun _ =>
        (inStep_eatSymbol rfl).andThen fun _ => (inStep_eatSymbol rfl).andThen fun _ => .ite
          (fun _ => (inStep.expression (Region.suits_delimited _) _).andThen fun _ =>
            inStep_spanned _ _)
          fun _ => inStep_spanned _ _
  exact .ite (fun _ => inStep_nameOrUnderscore.andThen rest) fun _ => InStep.pure.andThen rest

theorem inStep_functionDecl (start : Nat) (marks : List Attribute) (isStatic : Bool) :
    InStep knows awaited awaited (functionDecl inner start marks isStatic) := by
  refine (inStep_eat rfl).andThen fun _ => inStep_identifier.andThen fun name =>
    (inStep_generics inStep).andThen fun generics =>
      (inStep_expectSymbol .parenOpen).andThenToken (fun _ => rfl) fun _ =>
        (inStep_closedBy (inStep_param inStep) .parenClose _).andThen fun params =>
          (inStep_eatSymbol rfl).andThen fun _ => ?_
  extract_lets bodied
  have rest (result : Option DeclaredType) : InStep anywhere awaited awaited (bodied result) :=
    inStep_skipWhereClause.andThen fun _ => .isAtSymbol fun _ => .ite
      (fun _ => ((inStep_block inStep).map _).andThen fun _ => inStep_spanned _ _)
      fun _ => InStep.pure.andThen fun _ => inStep_spanned _ _
  exact .ite (fun _ => ((inStep.type _ _).map _).andThen rest) fun _ => InStep.pure.andThen rest

/-- The body of a property opens on its line, which is not inside parentheses or brackets. -/
theorem inStep_variableDecl (outside : isGrouped awaited = false) (start : Nat)
    (marks : List Attribute) (plain : ∀ c, knows c → c.next.kind.isPlain = true) :
    InStep knows awaited awaited (variableDecl inner start marks) := by
  refine (inStep_takePlain plain).andThenToken (fun _ => rfl) fun keyword =>
    inStep_nameOrUnderscore.andThen fun name => (inStep_eatSymbol rfl).andThen fun _ => ?_
  extract_lets valued
  have rest (type : Option DeclaredType) : InStep anywhere awaited awaited (valued type) := by
    refine (inStep_eatSymbol rfl).andThen fun _ => ?_
    extract_lets bodied
    have rest (value : Option Expr) : InStep anywhere awaited awaited (bodied value) :=
      .isAtSymbol fun _ => .onNewLine (fun _ => outside) fun _ => .ite
        (fun _ => ((inStep_block inStep).map _).andThen fun _ => inStep_spanned _ _)
        fun _ => InStep.pure.andThen fun _ => inStep_spanned _ _
    exact .ite (fun _ => ((inStep_expression inStep fun _ => outside).map _).andThen rest)
      fun _ => InStep.pure.andThen rest
  exact .ite (fun _ => ((inStep.type _ _).map _).andThen rest) fun _ => InStep.pure.andThen rest

theorem inStep_enumCase : InStep knows awaited awaited (enumCase inner) :=
  .here fun _ => inStep_identifier.andThen fun _ => .isAtSymbol fun _ => .ite
    (fun _ => (inStep_typeList inStep).andThen fun _ => inStep_spanned _ _)
    fun _ => InStep.pure.andThen fun _ => inStep_spanned _ _

theorem inStep_enumDecl (start : Nat) : InStep knows awaited awaited (enumDecl inner start) :=
  (inStep_expectKeyword _).andThenToken (fun _ => rfl) fun _ => inStep_identifier.andThen fun _ =>
    (inStep_generics inStep).andThen fun _ => (inStep_conformances inStep).andThen fun _ =>
      (inStep_expectSymbol .braceOpen).andThenToken (fun _ => rfl) fun _ =>
        (inStep_sequence rfl ((inStep_expectKeyword _).andThenToken (fun _ => rfl) fun _ =>
          inStep_separated (inStep_enumCase inStep) _) _ _).andThen fun _ =>
            (inStep_expectSymbol .braceClose).andThenToken (fun _ => rfl) fun _ =>
              inStep_spanned _ _

theorem inStep_typeDecl (start : Nat) (marks : List Attribute)
    (plain : ∀ c, knows c → c.next.kind.isPlain = true) :
    InStep knows awaited awaited (typeDecl inner start marks) :=
  (inStep_takePlain plain).andThenToken (fun _ => rfl) fun _ => inStep_identifier.andThen fun _ =>
    (inStep_generics inStep).andThen fun _ => (inStep_conformances inStep).andThen fun _ =>
      inStep_skipWhereClause.andThen fun _ =>
        (inStep_expectSymbol .braceOpen).andThenToken (fun _ => rfl) fun _ =>
          (inStep_sequence rfl (inStep.declaration rfl _) _ _).andThen fun _ =>
            (inStep_expectSymbol .braceClose).andThenToken (fun _ => rfl) fun _ =>
              inStep_spanned _ _

theorem inStep_declaration (outside : isGrouped awaited = false) :
    InStep knows awaited awaited (declaration inner) := by
  refine .here fun start => (inStep_attributes _).andThen fun marks =>
    (inStep_eat rfl).andThen fun isStatic => .peek (fun _ => rfl) fun token => ?_
  have function : InStep (fun c => c.next.kind = token.kind) awaited awaited
      (functionDecl inner start marks isStatic) := inStep_functionDecl inStep _ _ _
  have plain (isPlain : token.kind.isPlain = true) (c : Cursor)
      (isNext : c.next.kind = token.kind) : c.next.kind.isPlain = true := by
    rwa [isNext]
  split
  case h_1 isNext | h_2 isNext =>
    exact (inStep_typeDecl inStep _ _ (plain (isNext ▸ rfl))).andThen fun _ => .pure
  case h_3 => exact (inStep_enumDecl inStep _).andThen fun _ => .pure
  case h_4 => exact function.andThen fun _ => .pure
  case h_5 => exact .ite (fun _ => function.andThen fun _ => .pure) fun _ => inStep_unexpected
  case h_6 isNext | h_7 isNext =>
    exact (inStep_variableDecl inStep outside _ _ (plain (isNext ▸ rfl))).andThen fun _ => .pure
  case h_8 => exact inStep_unexpected

/-! ### Statements -/

/-- The keywords at which statements are told apart are no delimiters. -/
theorem inStep_condition (outside : isGrouped awaited = false) :
    InStep knows awaited awaited (condition inner) := by
  have value {knows : Cursor → Prop} : InStep knows awaited awaited (expression inner .header) :=
    inStep_expression inStep fun _ => outside
  refine .here fun start => .peek (fun _ => rfl) fun token => ?_
  have binding {kind : TokenKind} (isPlain : kind.isPlain = true) (isMutable : Bool) :
      InStep (fun c => c.next.kind = kind) awaited awaited (do
        let _ ← take
        let bound ← pattern (· == .symbol .assign)
        let _ ← expectSymbol .assign
        let value ← expression inner .header
        return Condition.binding (← spanFrom start) isMutable bound value) :=
    (inStep_takeKind isPlain).andThenToken (fun _ => rfl) fun _ =>
      (inStep_pattern _).andThen fun _ =>
        (inStep_expectSymbol .assign).andThenToken (fun _ => rfl) fun _ =>
          value.andThen fun _ => inStep_spanned _ _
  split
  case h_1 isNext | h_2 isNext => exact binding (isNext ▸ rfl) _
  case h_3 => exact value.andThen fun _ => .pure

theorem inStep_conditional (outside : isGrouped awaited = false) :
    InStep knows awaited awaited (conditional inner) := by
  refine (inStep_expectKeyword _).andThenToken (fun _ => rfl) fun keyword =>
    (inStep_separated (inStep_condition inStep outside) _).andThen fun conditions =>
      (inStep_block inStep).andThen fun thenBlock => (inStep_eat rfl).andThen fun _ => ?_
  extract_lets ended
  have rest (otherwise : Option Alternative) : InStep anywhere awaited awaited (ended otherwise) :=
    inStep_spanned _ _
  exact .ite
    (fun _ => .isAt fun _ => .ite
      (fun _ => (((inStep.conditional outside _).map _).map _).andThen rest)
      fun _ => (((inStep_block inStep).map _).map _).andThen rest)
    fun _ => InStep.pure.andThen rest

omit inStep in
theorem inStep_caseLabel (inner : Inner) : InStep knows awaited awaited (caseLabel inner) := by
  refine .peek (fun _ => rfl) fun token => ?_
  split
  case h_1 isNext =>
    exact (inStep_takeKind (isNext ▸ rfl)).andThenToken (fun _ => rfl) fun _ =>
      (inStep_separated (inStep_pattern _) _).andThen fun _ => .pure
  case h_2 isNext =>
    exact (inStep_takeKind (isNext ▸ rfl)).andThenToken (fun _ => rfl) fun _ => .pure
  case h_3 => exact inStep_unexpected

theorem inStep_switchCase (outside : isGrouped awaited = false) :
    InStep knows awaited awaited (switchCase inner) :=
  .here fun _ => (inStep_caseLabel inner).andThen fun _ =>
    (inStep_expectSymbol .colon).andThenToken (fun _ => rfl) fun _ =>
      (inStep_statements inStep outside _).andThen fun _ => inStep_spanned _ _

theorem inStep_switch (outside : isGrouped awaited = false) :
    InStep knows awaited awaited (switch inner) :=
  (inStep_expectKeyword _).andThenToken (fun _ => rfl) fun _ =>
    (inStep_expression inStep fun _ => outside).andThen fun _ =>
      (inStep_expectSymbol .braceOpen).andThenToken (fun _ => rfl) fun _ =>
        (inStep_repeatedUntil (inStep_switchCase inStep rfl) _ _).andThen fun _ =>
          (inStep_expectSymbol .braceClose).andThenToken (fun _ => rfl) fun _ => inStep_spanned _ _

theorem inStep_loop (outside : isGrouped awaited = false)
    (plain : ∀ c, knows c → c.next.kind.isPlain = true) :
    InStep knows awaited awaited (loop inner) := by
  have header {knows : Cursor → Prop} : InStep knows awaited awaited (expression inner .header) :=
    inStep_expression inStep fun _ => outside
  have body {knows : Cursor → Prop} : InStep knows awaited awaited (block inner) :=
    inStep_block inStep
  refine (inStep_takePlain plain).andThenToken (fun _ => rfl) fun keyword => ?_
  dsimp only
  split
  · exact (inStep_pattern _).andThen fun _ =>
      (inStep_expectKeyword _).andThenToken (fun _ => rfl) fun _ =>
        header.andThen fun _ => body.andThen fun _ => inStep_spanned _ _
  · exact header.andThen fun _ => body.andThen fun _ => inStep_spanned _ _
  · exact body.andThen fun _ => (inStep_expectKeyword _).andThenToken (fun _ => rfl) fun _ =>
      header.andThen fun _ => inStep_spanned _ _

/-- **A value is returned alike**: outside of groups the line break that separates it from the keyword
is the same. -/
theorem inStep_returning (outside : isGrouped awaited = false) :
    InStep knows awaited awaited (returning inner) := by
  refine (inStep_expectKeyword _).andThenToken (fun _ => rfl) fun keyword =>
    (inStep_peek_outside outside).andThen fun token => ?_
  extract_lets ends
  exact .ite (fun _ => InStep.pure.andThen fun _ => inStep_spanned _ _)
    fun _ => ((inStep_expression inStep fun _ => outside).map _).andThen fun _ => inStep_spanned _ _

omit inStep in
theorem inStep_directive (plain : ∀ c, knows c → c.next.kind.isPlain = true) :
    InStep knows awaited awaited directive := by
  refine (inStep_takePlain plain).andThenToken (fun _ => rfl) fun token => ?_
  extract_lets named
  have rest (kind : DirectiveKind) : InStep anywhere awaited awaited (named kind) :=
    (inStep_expectSymbol .parenOpen).andThenToken (fun _ => rfl) fun _ =>
      (inStep_expect .string).andThenToken (fun _ => rfl) fun _ =>
        (inStep_expectSymbol .parenClose).andThenToken (fun _ => rfl) fun _ => inStep_spanned _ _
  split
  · exact InStep.pure.andThen rest
  · exact InStep.pure.andThen rest
  · exact InStep.throw.andThen rest

theorem inStep_statement (outside : isGrouped awaited = false) :
    InStep knows awaited awaited (statement inner) := by
  refine .here fun start => .peek (fun _ => rfl) fun token => ?_
  have plain (isPlain : token.kind.isPlain = true) (c : Cursor)
      (isNext : c.next.kind = token.kind) : c.next.kind.isPlain = true := by
    rwa [isNext]
  split
  case h_9 => exact (inStep_conditional inStep outside).andThen fun _ => .pure
  case h_10 => exact (inStep_switch inStep outside).andThen fun _ => .pure
  case h_11 isNext =>
    exact (inStep_takePlain (plain (isNext ▸ rfl))).andThenToken (fun _ => rfl) fun _ =>
      (inStep_block inStep).andThen fun _ => inStep_spanned _ _
  case h_12 isNext | h_13 isNext | h_14 isNext =>
    exact (inStep_loop inStep outside (plain (isNext ▸ rfl))).andThen fun _ => .pure
  case h_15 => exact inStep_returning inStep outside
  case h_16 isNext | h_17 isNext | h_18 isNext =>
    exact (inStep_takePlain (plain (isNext ▸ rfl))).andThenToken (fun _ => rfl) fun _ =>
      inStep_spanned _ _
  case h_19 isNext => exact (inStep_directive (plain (isNext ▸ rfl))).andThen fun _ => .pure
  case h_20 => exact (inStep_expression inStep fun _ => outside).andThen fun _ => .pure
  all_goals exact (inStep_declaration inStep outside).andThen fun _ => .pure

/-! ### All depths -/

omit inStep in
/-- **The parsers of every depth are in step.** -/
theorem inStep_innerOfDepth (depth : Nat) : (innerOfDepth depth).InStep := by
  induction depth with
  | zero =>
      exact
        { type := fun _ _ => inStep_unexpected
          expression := fun _ _ => inStep_unexpected
          ternary := fun _ _ => inStep_unexpected
          binary := fun _ _ _ => inStep_unexpected
          unary := fun _ _ => inStep_unexpected
          statement := fun _ _ => inStep_unexpected
          declaration := fun _ _ => inStep_unexpected
          conditional := fun _ _ => inStep_unexpected }
  | succ depth ih =>
      -- the bound on lists is the same for both
      have inStep : Inner.InStep { innerOfDepth depth with bound := depth + 1 } := { ih with }
      exact
        { type := fun _ _ => inStep_type inStep
          expression := fun suits _ => inStep_expression inStep suits
          ternary := fun suits _ => inStep_ternary inStep suits
          binary := fun suits _ _ => inStep_binary inStep suits _
          unary := fun suits _ => inStep_unary inStep suits
          statement := fun outside _ => inStep_statement inStep outside
          declaration := fun outside _ => inStep_declaration inStep outside
          conditional := fun outside _ => inStep_conditional inStep outside }

omit inStep in
theorem inStep_program (depth : Nat) : InStep anywhere [] [] (program (innerOfDepth depth)) :=
  (inStep_statements (inStep_innerOfDepth depth) rfl _).map _

end Parser

/-! ### Programs -/

/-- What is read from tokens is read from tokens that differ in grouped line breaks. -/
theorem Program.ofTokens_of_relined {source : List Char} {tokens others : List Token}
    (nested : IsNested [] tokens) (noWhere : HasNoWhere tokens) (relined : Relined [] tokens others)
    {program : Program} (read : Program.ofTokens source tokens = .ok program) :
    Program.ofTokens source others = .ok program := by
  have length : others.length = tokens.length := by
    have same := congrArg List.length relined.map_unlined
    rwa [List.length_map, List.length_map] at same
  have together : Together [] (.atStart source tokens) (.atStart source others) :=
    ⟨⟨nested, noWhere⟩, rfl, rfl, relined⟩
  rw [Program.ofTokens, Parser.run_eq_ok_iff] at read ⊢
  obtain ⟨c', yields⟩ := read
  rw [length]
  -- outside of all delimiters no parser has fallen behind
  rcases (Parser.inStep_program _).together together trivial yields with
    behind | ⟨_, d', yieldsOther, rfl, -⟩
  · exact absurd behind Cursor.not_behind_nil
  · exact ⟨d', yieldsOther⟩

/-- **Line breaks in parentheses and brackets do not matter**: nested tokens without a `where` make
up a program exactly if tokens that differ in grouped line breaks make up that same program, with all
places in it. -/
theorem Program.ofTokens_relined {source : List Char} {tokens others : List Token}
    (nested : IsNested [] tokens) (noWhere : HasNoWhere tokens) (relined : Relined [] tokens others)
    (program : Program) :
    Program.ofTokens source tokens = .ok program ↔ Program.ofTokens source others = .ok program :=
  ⟨Program.ofTokens_of_relined nested noWhere relined,
    Program.ofTokens_of_relined (relined.isNested nested)
      (noWhere.of_map_unlined relined.map_unlined) relined.symm⟩

/-- The tokens of a call with a line break, or none, between its parentheses. -/
def callTokens (newlineBefore : Bool) : List Token :=
  [⟨.identifier, ⟨0, 1⟩, "f", false⟩, ⟨.symbol .parenOpen, ⟨1, 2⟩, "(", false⟩,
    ⟨.identifier, ⟨3, 4⟩, "a", newlineBefore⟩, ⟨.symbol .parenClose, ⟨4, 5⟩, ")", false⟩,
    ⟨.endOfFile, ⟨5, 5⟩, "", false⟩]

/-- The call that they make up. -/
def callProgram : Program :=
  ⟨[.expression (.call ⟨0, 5⟩ (.ident ⟨0, 1⟩ "f") [⟨⟨3, 4⟩, none, .ident ⟨3, 4⟩ "a"⟩] none)]⟩

/-- A call with a line break in it is the same call without it. -/
theorem Program.ofTokens_relined_callTokens :
    tokenize "f(\na)" = .ok (callTokens true) ∧
      (IsNested [] (callTokens true) ∧ HasNoWhere (callTokens true) ∧
        Relined [] (callTokens true) (callTokens false)) ∧
      Program.ofTokens "f(\na)".toList (callTokens false) = .ok callProgram := by
  have nested : IsNested [] (callTokens true) :=
    ⟨trivial, trivial, trivial, rfl, rfl, rfl⟩
  have noWhere : HasNoWhere (callTokens true) := by
    unfold HasNoWhere
    decide
  have relined : Relined [] (callTokens true) (callTokens false) :=
    ⟨⟨rfl, fun _ => rfl⟩, ⟨rfl, fun _ => rfl⟩, ⟨rfl, nofun⟩, ⟨rfl, fun _ => rfl⟩,
      ⟨rfl, fun _ => rfl⟩, trivial⟩
  exact ⟨by decide +kernel, ⟨nested, noWhere, relined⟩,
    (Program.ofTokens_relined nested noWhere relined callProgram).mp rfl⟩

end ResultBuilder.Syntax
