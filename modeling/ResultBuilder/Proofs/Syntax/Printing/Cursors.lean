import ResultBuilder.Proofs.Syntax.Printing.Pieces

/-!
# Reading printed pieces

What a parser finds in pieces that are all that is left of a source. A parser recovers a value from
pieces when it reads them all and the value it makes of them is the wanted one, apart from spans.

Main statements: `Parser.Recovers.separated` and `Parser.Recovers.itemsUntil`.
-/

namespace ResultBuilder.Syntax

open Lexer (Piece render tokensFrom Listed Enclosed)

namespace Cursor

/-- **A cursor sees pieces** when they are all that is left to read. -/
def Sees (c : Cursor) (pieces : List Piece) : Prop :=
  ∃ afterOperand, c.Faces afterOperand pieces []

/-- The kind of token that pieces start with. -/
def headKind : List Piece → TokenKind
  | [] => .endOfFile
  | piece :: _ => piece.lexeme.kind

@[simp] theorem headKind_nil : headKind [] = .endOfFile := rfl

@[simp] theorem headKind_cons (piece : Piece) (pieces : List Piece) :
    headKind (piece :: pieces) = piece.lexeme.kind := rfl

namespace Sees

variable {c : Cursor} {piece : Piece} {pieces front back : List Piece} {gap : Nat}
  {lexeme : Lexer.Lexeme}

theorem kind (sees : c.Sees pieces) : c.next.kind = headKind pieces := by
  obtain ⟨afterOperand, faces⟩ := sees
  cases pieces with
  | nil => rw [faces.next_nil]; rfl
  | cons piece pieces => rw [faces.next_cons]; rfl

theorem text (sees : c.Sees (piece :: pieces)) : c.next.text = piece.lexeme.text := by
  obtain ⟨afterOperand, faces⟩ := sees
  rw [faces.next_cons]
  rfl

/-- No line break is printed. -/
theorem newlineBefore (sees : c.Sees (.spaced gap lexeme :: pieces)) :
    c.next.newlineBefore = false := by
  obtain ⟨afterOperand, faces⟩ := sees
  rw [faces.next_cons]
  simp [Piece.token, Piece.spaced]

theorem advance (sees : c.Sees (piece :: pieces)) : c.advance.Sees pieces := by
  obtain ⟨afterOperand, faces⟩ := sees
  rw [faces.advance_cons]
  exact ⟨_, faces.skip_one⟩

theorem skip (sees : c.Sees (front ++ back)) : (c.skip front.length).Sees back := by
  obtain ⟨afterOperand, faces⟩ := sees
  exact ⟨_, faces.skip⟩

theorem second (sees : c.Sees (piece :: pieces)) : c.second.kind = headKind pieces := by
  obtain ⟨afterOperand, faces⟩ := sees
  rw [Cursor.second, faces.rest]
  cases pieces <;> rfl

theorem rest (sees : c.Sees pieces) : c.rest = tokensFrom [] c.lastEnd pieces := by
  obtain ⟨afterOperand, faces⟩ := sees
  exact faces.rest

/-- A run of tokens of some kinds ends where the pieces of these kinds end. -/
theorem length_takeWhile {kinds : TokenKind → Bool} (sees : c.Sees (front ++ back))
    (inside : ∀ piece ∈ front, kinds piece.lexeme.kind = true)
    (stops : kinds (headKind back) = false) :
    (c.rest.takeWhile fun token => kinds token.kind).length = front.length := by
  rw [sees.rest]
  clear sees
  generalize c.lastEnd = offset
  induction front generalizing offset with
  | nil =>
      cases back <;> refine congrArg List.length (List.takeWhile_cons_of_neg ?_) <;>
        exact Bool.eq_false_iff.mp stops
  | cons piece front ih =>
      obtain ⟨isInside, others⟩ := List.forall_mem_cons.mp inside
      show (List.takeWhile _ (_ :: tokensFrom [] _ (front ++ back))).length = _
      rw [List.takeWhile_cons_of_pos, List.length_cons, ih others, List.length_cons]
      exact isInside

end Sees

end Cursor

/-- **A printed text is cut into its pieces**, which the parser sees from its start. -/
theorem Lexer.Printed.exists_tokens {kinds : TokenKind → Bool} {text : String} {pieces : List Piece}
    (printed : Lexer.Printed kinds 0 text pieces) :
    ∃ tokens, tokenize text = .ok tokens ∧ tokens.length = pieces.length + 1 ∧
      (Cursor.atStart text.toList tokens).Sees pieces := by
  have whole : text.toList = render pieces ++ [] := by
    rw [printed.text, List.append_nil]
    rfl
  have lexes := printed.lexes (absurd · Bool.false_ne_true) Lexer.loose_nil
  refine ⟨_, Lexer.tokenize_eq_ok_iff.mpr ⟨pieces, [], whole, fun _ => rfl, lexes, rfl⟩,
    Lexer.length_tokensFrom _ _ _, false, rfl, ⟨[], whole, rfl⟩, lexes⟩

open Cursor (headKind)

/-- A printed text starts with one of its kinds. -/
theorem Lexer.Printed.headKind_append {kinds : TokenKind → Bool} {gap : Nat} {text : String}
    {pieces : List Piece} (printed : Lexer.Printed kinds gap text pieces) (more : List Piece) :
    kinds (headKind (pieces ++ more)) = true := by
  obtain ⟨lexeme, rest, rfl, starts, -⟩ := printed.opens
  exact starts

namespace Parser

/-- What the parsers for one level more than a depth are made of. -/
def innerBelow (depth : Nat) : Inner :=
  { innerOfDepth depth with bound := depth + 1 }

/-- **A parser recovers** a result from pieces before others: it reads them, and leaves the others,
with a value that is the result when what the result leaves out is left out of it. -/
def Recovers {α β : Type} (parser : Parser α) (erase : α → β) (pieces more : List Piece)
    (result : β) : Prop :=
  ∀ c : Cursor, c.Sees (pieces ++ more) →
    ∃ value c', parser.Yields c value c' ∧ c'.Sees more ∧ erase value = result

/-- **What items are recovered by**: whatever follows that items end at, when there are no more
pieces than the fuel allows. -/
def RecoversItems {α β γ : Type} (parser : Parser α) (erase : α → β) (fuel : Nat)
    (ends : TokenKind → Prop) (prints : Nat → γ → List Piece → Prop) (want : γ → β) : Prop :=
  ∀ {gap item pieces} (more : List Piece), prints gap item pieces →
    pieces.length + more.length ≤ fuel → ends (headKind more) →
    parser.Recovers erase pieces more (want item)

variable {α β γ : Type} {parser : Parser α} {erase : α → β} {fuel bound gap : Nat}
  {ends : TokenKind → Prop} {prints : Nat → γ → List Piece → Prop} {want : γ → β}
  {items : List γ} {pieces more : List Piece}

namespace RecoversItems

/-- The first item of a list is recovered before the sign after it. -/
theorem first {sign : Symbol} {item : γ} {others : List Piece}
    (recovers : parser.RecoversItems erase fuel ends prints want) (first : prints gap item pieces)
    (few : (pieces ++ .sign 0 sign :: others).length + more.length ≤ fuel)
    (goesOn : ends (.symbol sign)) {c : Cursor}
    (sees : c.Sees (pieces ++ .sign 0 sign :: others ++ more)) :
    ∃ value middle, parser.Yields c value middle ∧ middle.next.kind = .symbol sign ∧
      middle.advance.Sees (others ++ more) ∧ erase value = want item := by
  simp only [List.length_append, List.length_cons] at few
  rw [List.append_assoc] at sees
  have enough : pieces.length + (.sign 0 sign :: others ++ more).length ≤ fuel := by
    simp only [List.length_append, List.length_cons]
    omega
  obtain ⟨value, middle, yields, sees', same⟩ := recovers _ first enough goesOn c sees
  exact ⟨value, middle, yields, sees'.kind, sees'.advance, same⟩

/-- Items with commas between them are recovered when single ones are. -/
theorem separated (recovers : parser.RecoversItems erase fuel ends prints want)
    (listed : Listed .comma prints gap items pieces) (few : pieces.length + more.length ≤ fuel)
    (comma : ends (.symbol .comma)) (stops : ends (headKind more))
    (last : headKind more ≠ .symbol .comma) (enough : items.length ≤ bound) :
    (Parser.separated parser bound).Recovers (List.map erase) pieces more (items.map want) := by
  induction listed generalizing bound with
  | single only =>
      intro c sees
      obtain ⟨bound, rfl⟩ := Nat.exists_eq_succ_of_ne_zero (Nat.ne_of_gt enough)
      obtain ⟨value, c', yields, sees', same⟩ := recovers more only few stops c sees
      refine ⟨[value], c', yields_separated.mpr ⟨value, c', yields, ?_⟩, sees', ?_⟩
      · rw [if_neg (by rwa [sees'.kind])]
        exact ⟨rfl, rfl⟩
      · rw [List.map_singleton, same, List.map_singleton]
  | cons first rest ih =>
      intro c sees
      obtain ⟨value, middle, yields, isComma, sees', same⟩ := recovers.first first few comma sees
      simp only [List.length_append, List.length_cons] at few enough
      obtain ⟨bound, rfl⟩ := Nat.exists_eq_succ_of_ne_zero (Nat.ne_of_gt (Nat.zero_lt_of_lt enough))
      obtain ⟨values, c', yields', sees'', others⟩ :=
        @ih bound (by omega) (by omega) middle.advance sees'
      refine ⟨value :: values, c', yields_separated.mpr ⟨value, middle, yields, ?_⟩, sees'', ?_⟩
      · rw [if_pos isComma]
        exact ⟨values, yields', rfl⟩
      · rw [List.map_cons, same, others, List.map_cons]

/-- Items with commas between them and a closing sign after them are recovered when single ones are
and do not start with the sign. -/
theorem itemsUntil {close : Symbol} (recovers : parser.RecoversItems erase fuel ends prints want)
    (opens : ∀ {gap item pieces}, prints gap item pieces →
      ∀ others, headKind (pieces ++ others) ≠ .symbol close)
    (listed : Listed .comma prints gap items pieces) (few : pieces.length + more.length ≤ fuel)
    (comma : ends (.symbol .comma)) (stops : ends (headKind more))
    (last : headKind more ≠ .symbol .comma) (enough : items.length ≤ bound) :
    (Parser.itemsUntil close parser bound).Recovers (List.map erase) pieces more
      (items.map want) := by
  induction listed generalizing bound with
  | single only =>
      intro c sees
      obtain ⟨bound, rfl⟩ := Nat.exists_eq_succ_of_ne_zero (Nat.ne_of_gt enough)
      obtain ⟨value, c', yields, sees', same⟩ := recovers more only few stops c sees
      refine ⟨[value], c', yields_itemsUntil.mpr ?_, sees', ?_⟩
      · rw [if_neg (by rw [sees.kind]; exact opens only _)]
        refine ⟨value, c', yields, ?_⟩
        rw [if_neg (by rwa [sees'.kind])]
        exact ⟨rfl, rfl⟩
      · rw [List.map_singleton, same, List.map_singleton]
  | cons first rest ih =>
      intro c sees
      obtain ⟨value, middle, yields, isComma, sees', same⟩ := recovers.first first few comma sees
      simp only [List.length_append, List.length_cons] at few enough
      obtain ⟨bound, rfl⟩ := Nat.exists_eq_succ_of_ne_zero (Nat.ne_of_gt (Nat.zero_lt_of_lt enough))
      obtain ⟨values, c', yields', sees'', others⟩ :=
        @ih bound (by omega) (by omega) middle.advance sees'
      refine ⟨value :: values, c', yields_itemsUntil.mpr ?_, sees'', ?_⟩
      · rw [if_neg (by rw [sees.kind, List.append_assoc]; exact opens first _)]
        refine ⟨value, middle, yields, ?_⟩
        rw [if_pos isComma]
        exact ⟨values, yields', rfl⟩
      · rw [List.map_cons, same, others, List.map_cons]

/-- The items between brackets are recovered, with the closing bracket, when single ones are. -/
theorem enclosed {opening closing : Symbol}
    (recovers : parser.RecoversItems erase fuel ends prints want)
    (opens : ∀ {gap item pieces}, prints gap item pieces →
      ∀ others, headKind (pieces ++ others) ≠ .symbol closing)
    (enclosed : Enclosed opening closing prints gap items pieces)
    (few : pieces.length + more.length ≤ fuel + 1) (comma : ends (.symbol .comma))
    (closes : ends (.symbol closing)) (notComma : closing ≠ .comma) (enough : fuel ≤ bound)
    {c : Cursor} (sees : c.Sees (pieces ++ more)) :
    c.next.kind = .symbol opening ∧ ∃ values c',
      (Parser.closedBy closing parser bound).Yields c.advance values c' ∧ c'.Sees more ∧
        values.map erase = items.map want := by
  obtain ⟨inside, rfl, filled⟩ := enclosed
  refine ⟨sees.kind, ?_⟩
  have sees := sees.advance
  simp only [List.append_eq, List.append_assoc] at sees
  simp only [List.length_cons, List.length_append, List.length_nil] at few
  have recovered : (Parser.itemsUntil closing parser bound).Recovers (List.map erase) inside
      (.sign 0 closing :: more) (items.map want) := by
    rcases filled with ⟨rfl, rfl⟩ | listed
    · intro c sees
      refine ⟨[], c, ?_, sees, rfl⟩
      cases bound with
      | zero => rfl
      | succ bound =>
          have isClosing : c.next.kind = .symbol closing := sees.kind
          rw [yields_itemsUntil, if_pos isClosing]
          exact ⟨rfl, rfl⟩
    · have := listed.length_le
      refine recovers.itemsUntil opens listed ?_ comma closes ?_ (by omega)
      · simp only [List.length_cons]
        omega
      · intro same
        exact notComma (TokenKind.symbol.inj same)
  obtain ⟨values, last, yields, sees', same⟩ := recovered c.advance sees
  exact ⟨values, last.advance, yields_closedBy.mpr ⟨last, yields, sees'.kind, rfl⟩, sees'.advance,
    same⟩

end RecoversItems

end Parser

end ResultBuilder.Syntax
