import Mathlib.Order.Nat
import ResultBuilder.Proofs.Syntax.Layout

/-!
# Tokens tile a source

The tokens of a source lie in it one after the other, and what is not taken by a token is white space
or belongs to a comment. The scanners are not mentioned in that: a gap is described by its own
grammar, `Trivia`, and the text of a token by what it takes of the source, `Spells`.

* **`trivia_of_skips`**: gaps follow their grammar.
* **`Opens.spells`**: the text of a lexeme.
* **`TilesFrom`**, **`tilesFrom_tokensFrom`**: tokens that tile a source from an offset on.
* **`tiling_of_tokenize`**: the tokens of a source tile it.
-/

namespace ResultBuilder.Syntax

open Source (utf8Length sliceBytes)
open Lexer (Piece render tokensFrom endToken Lexes Opens Skips GapState gap)

/-! ### Gaps -/

/-- **White space and complete comments.** A comment with two slashes ends with its line, or with the
source where a gap stands at its end. A comment with a star ends with the first star and slash. -/
inductive Trivia (atEnd : Bool) : List Char → Prop where
  | nil : Trivia atEnd []
  | blank {c : Char} {rest : List Char} (isBlank : Text.isBlank c = true) (more : Trivia atEnd rest) :
      Trivia atEnd (c :: rest)
  | lineComment {body rest : List Char} (oneLine : '\n' ∉ body) (more : Trivia atEnd rest) :
      Trivia atEnd ('/' :: '/' :: (body ++ '\n' :: rest))
  | lastComment {body : List Char} (isLast : atEnd = true) (oneLine : '\n' ∉ body) :
      Trivia atEnd ('/' :: '/' :: body)
  | blockComment {body rest : List Char} (closedOnce : ¬ ['*', '/'] <:+: body)
      (more : Trivia atEnd rest) : Trivia atEnd ('/' :: '*' :: (body ++ '*' :: '/' :: rest))

/-- What is left of a gap when a scanner is in a given state. -/
def GapRest (atEnd : Bool) : GapState → List Char → Prop
  | .blank, skipped => Trivia atEnd skipped
  | .lineComment, skipped => Trivia atEnd ('/' :: '/' :: skipped)
  | .blockComment _, skipped => Trivia atEnd ('/' :: '*' :: skipped)

/-- One more character within the line of a comment. -/
theorem Trivia.cons_lineComment {atEnd : Bool} {c : Char} {skipped : List Char} (stays : c ≠ '\n')
    (trivia : Trivia atEnd ('/' :: '/' :: skipped)) : Trivia atEnd ('/' :: '/' :: c :: skipped) := by
  generalize front : '/' :: '/' :: skipped = text at trivia
  cases trivia with
  | nil => cases front
  | blank isBlank more =>
      obtain ⟨rfl, -⟩ := List.cons.inj front
      exact absurd isBlank (by decide)
  | @lineComment body rest oneLine more =>
      obtain rfl : skipped = body ++ '\n' :: rest := by simpa using front
      exact @Trivia.lineComment _ (c :: body) _ (by simp [oneLine, stays.symm]) more
  | @lastComment body isLast oneLine =>
      obtain rfl : skipped = body := by simpa using front
      exact .lastComment isLast (by simp [oneLine, stays.symm])
  | blockComment closedOnce more =>
      exact absurd (List.cons.inj (List.cons.inj front).2).1 (by decide)

/-- One more character within a comment that has to be closed. -/
theorem Trivia.cons_blockComment {atEnd : Bool} {c : Char} {skipped : List Char}
    (stays : ¬ ['*', '/'] <+: c :: skipped)
    (trivia : Trivia atEnd ('/' :: '*' :: skipped)) : Trivia atEnd ('/' :: '*' :: c :: skipped) := by
  generalize front : '/' :: '*' :: skipped = text at trivia
  cases trivia with
  | nil => cases front
  | blank isBlank more =>
      obtain ⟨rfl, -⟩ := List.cons.inj front
      exact absurd isBlank (by decide)
  | lineComment oneLine more | lastComment isLast oneLine =>
      exact absurd (List.cons.inj (List.cons.inj front).2).1 (by decide)
  | @blockComment body rest closedOnce more =>
      obtain rfl : skipped = body ++ '*' :: '/' :: rest := by simpa using front
      refine @Trivia.blockComment _ (c :: body) _ (fun inside => ?_) more
      rcases List.infix_cons_iff.mp inside with isPrefix | later
      · -- the comment would be closed where the character stands
        refine stays (isPrefix.trans ?_)
        rw [← List.cons_append]
        exact List.prefix_append _ _
      · exact closedOnce later

/-- **A scanner stays within the grammar**: what it takes belongs to a gap, and the gap is at the end
of the source unless something is left. -/
theorem gapRest_of_gap {state : GapState} {offset : Nat} {text skipped : List Char}
    (scanned : gap state offset text = .ok skipped) :
    ∃ rest, text = skipped ++ rest ∧ GapRest rest.isEmpty state skipped := by
  fun_induction gap state offset text generalizing skipped with
  | case1 offset rest ih | case2 offset rest ih =>
      obtain ⟨inside, found, rfl⟩ := Lexer.map_eq_ok.mp scanned
      obtain ⟨tail, rfl, trivia⟩ := ih found
      exact ⟨tail, rfl, trivia⟩
  | case3 offset c rest noLine noBlock isBlank ih =>
      obtain ⟨inside, found, rfl⟩ := Lexer.map_eq_ok.mp scanned
      obtain ⟨tail, rfl, trivia⟩ := ih found
      exact ⟨tail, rfl, .blank isBlank trivia⟩
  | case4 offset c rest noLine noBlock notBlank =>
      cases scanned
      exact ⟨c :: rest, rfl, .nil⟩
  | case5 offset rest ih =>
      obtain ⟨inside, found, rfl⟩ := Lexer.map_eq_ok.mp scanned
      obtain ⟨tail, rfl, trivia⟩ := ih found
      exact ⟨tail, rfl, @Trivia.lineComment _ [] _ List.not_mem_nil trivia⟩
  | case6 offset c rest noBreak ih =>
      obtain ⟨inside, found, rfl⟩ := Lexer.map_eq_ok.mp scanned
      obtain ⟨tail, rfl, trivia⟩ := ih found
      exact ⟨tail, rfl, .cons_lineComment noBreak trivia⟩
  | case7 start offset rest ih =>
      obtain ⟨inside, found, rfl⟩ := Lexer.map_eq_ok.mp scanned
      obtain ⟨tail, rfl, trivia⟩ := ih found
      exact ⟨tail, rfl, @Trivia.blockComment _ [] _ (by decide) trivia⟩
  | case8 start offset c rest notEnd ih =>
      obtain ⟨inside, found, rfl⟩ := Lexer.map_eq_ok.mp scanned
      obtain ⟨tail, rfl, trivia⟩ := ih found
      refine ⟨tail, rfl, .cons_blockComment ?_ trivia⟩
      rintro ⟨more, same⟩
      obtain ⟨rfl, closes⟩ := List.cons.inj same
      exact notEnd (more ++ tail) rfl (by rw [← closes]; rfl)
  | case9 start offset => cases scanned
  | case10 state offset notBlock =>
      cases scanned
      refine ⟨[], rfl, ?_⟩
      cases state with
      | blank => exact .nil
      | lineComment => exact .lastComment rfl List.not_mem_nil
      | blockComment start => exact absurd rfl (notBlock start)

/-- **Gaps follow their grammar.** -/
theorem trivia_of_skips {skipped : List Char} (rest : List Char) (skips : Skips (skipped ++ rest) skipped) :
    Trivia rest.isEmpty skipped := by
  obtain ⟨tail, cut, trivia⟩ := gapRest_of_gap (skips 0)
  obtain rfl := List.append_cancel_left cut
  exact trivia

/-! ### Texts of tokens -/

/-- **What a token of a kind has as its text**, given what it takes of the source: a string without
its quotes, a directive without its sign, a number without underscores, and anything else as it
is. -/
def Spells : TokenKind → List Char → List Char → Prop
  | .string, slice, text => slice = '"' :: (text ++ ['"'])
  | .directive, slice, text => slice = '#' :: text
  | .integer, slice, text | .float, slice, text => text = slice.filter (· != '_')
  | .identifier, slice, text | .keyword _, slice, text | .symbol _, slice, text
  | .endOfFile, slice, text => text = slice

/-- A word is spelled as it is, whatever it is. -/
theorem spells_wordKind (word : String) (characters : List Char) :
    Spells (Lexer.wordKind word) characters characters := by
  unfold Lexer.wordKind
  split
  · rfl
  · cases Keyword.ofSpelling? word <;> rfl

/-- **The text of a lexeme.** -/
theorem Lexer.Opens.spells {attached : Bool} {text : List Char} {found : Lexer.Lexeme}
    (opens : Opens attached text found) :
    Spells found.kind found.characters found.text.toList := by
  cases opens with
  | word starts =>
      rw [Lexer.word, String.toList_ofList]
      exact spells_wordKind _ _
  | @number first rest noName digit =>
      by_cases point : Lexer.GoesOnAsFloat ((first :: rest).dropWhile Lexer.continuesNumber)
      · obtain ⟨next, more, point, isDigit⟩ := point
        rw [Lexer.number_of_float point isDigit]
        exact String.toList_ofList
      · rw [Lexer.number_of_integer point]
        exact String.toList_ofList
  | string closed => simp [Spells]
  | directive named => simp [Spells]
  | sign noName noDigit noQuote noDirective read =>
      obtain ⟨sign, after, rfl, -⟩ := Lexer.symbol?_eq_some read
      rfl

/-! ### Tiles -/

/-- A part of a text between the offsets at which it starts and ends. -/
theorem sliceBytes_append (front middle back : List Char) :
    sliceBytes (utf8Length front) (utf8Length (front ++ middle)) (front ++ (middle ++ back)) =
      middle := by
  rw [sliceBytes, Source.dropBytes_utf8Length_append, Source.utf8Length_append,
    Nat.add_sub_cancel_left, Source.takeBytes_utf8Length_append]

/-- **A token in its place** in a source, where the token before it ends at an offset. -/
structure Token.IsTile (source : List Char) (offset : Nat) (token : Token) : Prop where
  /-- The token starts behind the one before. -/
  le_start : offset ≤ token.span.start
  /-- It starts at a boundary of characters. -/
  start : OnBoundary source token.span.start
  /-- It ends at a boundary of characters. -/
  stop : OnBoundary source token.span.stop
  /-- Only the end of the file takes nothing of the source. -/
  nonempty : token.kind ≠ .endOfFile → token.span.start < token.span.stop
  /-- The end of the file is the end of the source. -/
  atEnd : token.kind = .endOfFile → token.span = .point (utf8Length source)
  /-- Between the tokens are white space and complete comments. -/
  trivia : Trivia (token.kind == .endOfFile) (sliceBytes offset token.span.start source)
  /-- The token knows whether there is a line break in between. -/
  newlineBefore : token.newlineBefore = true ↔ '\n' ∈ sliceBytes offset token.span.start source
  /-- The text of the token is what it takes of the source. -/
  text : Spells token.kind (sliceBytes token.span.start token.span.stop source) token.text.toList

/-- **Tokens that tile a source** from an offset on, up to the end of the file. -/
inductive TilesFrom (source : List Char) : Nat → List Token → Prop where
  | last {offset : Nat} {token : Token} (isEnd : token.kind = .endOfFile)
      (isTile : token.IsTile source offset) : TilesFrom source offset [token]
  | cons {offset : Nat} {token : Token} {rest : List Token} (notEnd : token.kind ≠ .endOfFile)
      (isTile : token.IsTile source offset) (more : TilesFrom source token.span.stop rest) :
      TilesFrom source offset (token :: rest)

/-- A lexeme with the gap in front of it is a tile. -/
theorem isTile_token (front : List Char) {after : List Char} {attached : Bool} {piece : Piece}
    (skips : Skips (piece.gap ++ (piece.lexeme.characters ++ after)) piece.gap)
    (opens : Opens attached (piece.lexeme.characters ++ after) piece.lexeme) :
    (piece.token (utf8Length front)).IsTile (front ++ (piece.characters ++ after))
      (utf8Length front) := by
  have whole : front ++ (piece.characters ++ after) =
      (front ++ piece.gap) ++ (piece.lexeme.characters ++ after) := by
    simp [Piece.characters]
  have beforeGap : utf8Length front + utf8Length piece.gap = utf8Length (front ++ piece.gap) := by
    rw [Source.utf8Length_append]
  have beforeAfter : utf8Length front + utf8Length piece.characters =
      utf8Length ((front ++ piece.gap) ++ piece.lexeme.characters) := by
    rw [Piece.characters, List.append_assoc, Source.utf8Length_append, Source.utf8Length_append,
      Source.utf8Length_append]
  have inGap : sliceBytes (utf8Length front) (utf8Length front + utf8Length piece.gap)
      (front ++ (piece.characters ++ after)) = piece.gap := by
    rw [beforeGap, Piece.characters, List.append_assoc]
    exact sliceBytes_append _ _ _
  have inLexeme : sliceBytes (utf8Length front + utf8Length piece.gap)
      (utf8Length front + utf8Length piece.characters) (front ++ (piece.characters ++ after)) =
        piece.lexeme.characters := by
    rw [beforeGap, beforeAfter, whole]
    exact sliceBytes_append _ _ _
  have taken : 0 < utf8Length piece.lexeme.characters :=
    Nat.pos_of_ne_zero (mt Lexer.utf8Length_eq_zero.mp opens.ne_nil)
  exact {
    le_start := Nat.le_add_right _ _
    start := ⟨front ++ piece.gap, _, whole, beforeGap.symm⟩
    stop := ⟨(front ++ piece.gap) ++ piece.lexeme.characters, after,
      by rw [whole, List.append_assoc (front ++ piece.gap)], beforeAfter.symm⟩
    nonempty := fun _ => by
      show utf8Length front + utf8Length piece.gap < utf8Length front + utf8Length piece.characters
      rw [Piece.characters, Source.utf8Length_append]
      omega
    atEnd := fun isEnd => absurd isEnd opens.kind_ne_endOfFile
    trivia := by
      have trivia := trivia_of_skips _ skips
      obtain ⟨c, tail, same⟩ := List.exists_cons_of_ne_nil opens.ne_nil
      rw [same] at trivia
      show Trivia (piece.lexeme.kind == .endOfFile) (sliceBytes _ (_ + _) _)
      rw [inGap, beq_eq_false_iff_ne.mpr opens.kind_ne_endOfFile]
      exact trivia
    newlineBefore := by
      show piece.gap.contains '\n' = true ↔ '\n' ∈ sliceBytes _ (_ + _) _
      rw [inGap, List.contains_iff_mem]
    text := by
      show Spells piece.lexeme.kind (sliceBytes (_ + _) (_ + _) _) piece.lexeme.text.toList
      rw [inLexeme]
      exact opens.spells }

/-- The end of the file behind the last gap is a tile. -/
theorem isTile_endToken {front final : List Char} (skips : Skips final final) :
    (endToken final (utf8Length front)).IsTile (front ++ final) (utf8Length front) := by
  have atEnd : utf8Length front + utf8Length final = utf8Length (front ++ final) := by
    rw [Source.utf8Length_append]
  have inGap : sliceBytes (utf8Length front) (utf8Length front + utf8Length final)
      (front ++ final) = final := by
    rw [atEnd]
    simpa using sliceBytes_append front final []
  have boundary : OnBoundary (front ++ final) (utf8Length front + utf8Length final) :=
    ⟨front ++ final, [], (List.append_nil _).symm, atEnd.symm⟩
  exact {
    le_start := Nat.le_add_right _ _
    start := boundary
    stop := boundary
    nonempty := fun notEnd => absurd rfl notEnd
    atEnd := fun _ => congrArg Span.point atEnd
    trivia := by
      show Trivia true (sliceBytes _ (_ + _) _)
      rw [inGap]
      exact trivia_of_skips [] (by rwa [List.append_nil])
    newlineBefore := by
      show final.contains '\n' = true ↔ '\n' ∈ sliceBytes _ (_ + _) _
      rw [inGap, List.contains_iff_mem]
    text := by
      show [] = sliceBytes (_ + _) (_ + _) _
      rw [atEnd]
      simpa using (sliceBytes_append (front ++ final) [] []).symm }

/-- **The tokens of pieces tile** the source from where the pieces start. -/
theorem tilesFrom_tokensFrom (front : List Char) {final : List Char} {pieces : List Piece}
    {afterOperand : Bool} (lexes : Lexes afterOperand pieces final) (skips : Skips final final) :
    TilesFrom (front ++ (render pieces ++ final)) (utf8Length front)
      (tokensFrom final (utf8Length front) pieces) := by
  induction pieces generalizing front afterOperand with
  | nil => exact .last rfl (isTile_endToken skips)
  | cons piece pieces ih =>
      obtain ⟨skipsGap, opens, rest⟩ := lexes
      have isTile := isTile_token front skipsGap opens
      have more := ih (front ++ piece.characters) rest
      have whole : front ++ (render (piece :: pieces) ++ final) =
          front ++ (piece.characters ++ (render pieces ++ final)) := by
        simp [Piece.characters]
      rw [Source.utf8Length_append, List.append_assoc] at more
      rw [whole]
      exact .cons opens.kind_ne_endOfFile isTile more

/-! ### Tilings -/

/-- Where tokens end: behind the last of them, and at the start of the source without any. -/
def endOf (tokens : List Token) : Nat :=
  (tokens.getLast?.map (·.span.stop)).getD 0

/-- **A source and the tokens that tile it.** -/
structure Tiling (source : String) (tokens : List Token) : Prop where
  /-- The last token is the only end of the file, and it is at the end of the source. -/
  endsOnce : ∃ front last, tokens = front ++ [last] ∧ last.kind = .endOfFile ∧
    last.span = .point (utf8Length source.toList) ∧ ∀ token ∈ front, token.kind ≠ .endOfFile
  /-- Earlier tokens start earlier, and end before later ones start. -/
  ordered : tokens.Pairwise fun earlier later =>
    earlier.span.start < later.span.start ∧ earlier.span.stop ≤ later.span.start
  /-- Each token is in its place behind those before it. -/
  tiles : ∀ front token back, tokens = front ++ token :: back →
    token.IsTile source.toList (endOf front)

variable {source : List Char} {offset : Nat} {tokens : List Token}

/-- Tokens end once. -/
theorem TilesFrom.endsOnce (tiles : TilesFrom source offset tokens) :
    ∃ front last, tokens = front ++ [last] ∧ last.kind = .endOfFile ∧
      last.span = .point (utf8Length source) ∧ ∀ token ∈ front, token.kind ≠ .endOfFile := by
  induction tiles with
  | @last offset token isEnd isTile =>
      exact ⟨[], token, rfl, isEnd, isTile.atEnd isEnd, List.forall_mem_nil _⟩
  | @cons offset token rest notEnd isTile more ih =>
      obtain ⟨front, last, rfl, isEnd, place, others⟩ := ih
      exact ⟨token :: front, last, rfl, isEnd, place, List.forall_mem_cons.mpr ⟨notEnd, others⟩⟩

/-- Tokens that tile a source from an offset on start behind it. -/
theorem TilesFrom.le_start (tiles : TilesFrom source offset tokens) :
    ∀ token ∈ tokens, offset ≤ token.span.start := by
  induction tiles with
  | last isEnd isTile => exact List.forall_mem_singleton.mpr isTile.le_start
  | cons notEnd isTile more ih =>
      have past := isTile.nonempty notEnd
      refine List.forall_mem_cons.mpr ⟨isTile.le_start, fun token listed => ?_⟩
      have := isTile.le_start
      have := ih token listed
      omega

/-- Tokens that tile a source are in order. -/
theorem TilesFrom.ordered (tiles : TilesFrom source offset tokens) :
    tokens.Pairwise fun earlier later =>
      earlier.span.start < later.span.start ∧ earlier.span.stop ≤ later.span.start := by
  induction tiles with
  | last isEnd isTile => exact List.pairwise_singleton _ _
  | cons notEnd isTile more ih =>
      have past := isTile.nonempty notEnd
      refine List.pairwise_cons.mpr ⟨fun token listed => ?_, ih⟩
      have behind := more.le_start token listed
      exact ⟨by omega, behind⟩

/-- Each of the tokens that tile a source is in its place. -/
theorem TilesFrom.isTile (tiles : TilesFrom source offset tokens) {front back : List Token}
    {token : Token} (split : tokens = front ++ token :: back) :
    token.IsTile source ((front.getLast?.map (·.span.stop)).getD offset) := by
  induction tiles generalizing front with
  | last isEnd isTile =>
      cases front with
      | nil =>
          obtain ⟨rfl, -⟩ := List.cons.inj split
          exact isTile
      | cons first rest =>
          obtain ⟨-, none⟩ := List.cons.inj split
          exact absurd none.symm (by simp)
  | @cons offset first rest notEnd isTile more ih =>
      cases front with
      | nil =>
          obtain ⟨rfl, -⟩ := List.cons.inj split
          exact isTile
      | cons second others =>
          obtain ⟨rfl, behind⟩ := List.cons.inj split
          have later := ih behind
          cases others with
          | nil => exact later
          | cons third others =>
              rw [List.getLast?_cons_cons]
              obtain ⟨last, found⟩ := List.getLast?_isSome.mpr (List.cons_ne_nil third others)
                |> Option.isSome_iff_exists.mp
              rw [found] at later ⊢
              exact later

/-- **The tokens of a source tile it.** They lie between characters of the source, one behind the
other, and only the end of the file, which comes last and once, takes nothing. Between two of them,
and before the first, are white space and complete comments only, and a token knows whether there is
a line break. The text of a token is what it takes of the source, without the quotes of a string, the
sign of a directive and the underscores of a number. -/
theorem tiling_of_tokenize {source : String} {tokens : List Token}
    (cut : tokenize source = .ok tokens) : Tiling source tokens := by
  obtain ⟨pieces, final, whole, skips, lexes, rfl⟩ := Lexer.tokenize_eq_ok_iff.mp cut
  have tiles : TilesFrom source.toList 0 (tokensFrom final 0 pieces) := by
    rw [whole]
    exact tilesFrom_tokensFrom [] lexes skips
  exact ⟨tiles.endsOnce, tiles.ordered, fun front token back split => tiles.isTile split⟩

/-- A source with comments of both kinds, letters of two and signs of three bytes, an interpolation
and a number with underscores. -/
def commentedSource : String :=
  "é! // ∅\n/* ** */#warn \"\\(\"a\")\" 1_0.5_"

/-- The tokens of that source. -/
def commentedTokens : List Token := [
  ⟨.identifier, ⟨0, 2⟩, "é", false⟩,
  ⟨.symbol .attachedBang, ⟨2, 3⟩, "!", false⟩,
  ⟨.directive, ⟨19, 24⟩, "warn", true⟩,
  ⟨.string, ⟨25, 33⟩, "\\(\"a\")", false⟩,
  ⟨.float, ⟨34, 40⟩, "10.5", false⟩,
  ⟨.endOfFile, ⟨40, 40⟩, "", false⟩]

theorem tiling_commentedSource :
    tokenize commentedSource = .ok commentedTokens ∧ Tiling commentedSource commentedTokens := by
  have cut : tokenize commentedSource = .ok commentedTokens := by decide +kernel
  exact ⟨cut, tiling_of_tokenize cut⟩

end ResultBuilder.Syntax
