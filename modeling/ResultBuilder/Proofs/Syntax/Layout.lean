import ResultBuilder.Proofs.Syntax.Pieces
import ResultBuilder.Proofs.Syntax.Yields

/-!
# Cursors in a source

A cursor of a parser stands between two pieces of the source: its tokens are those of the pieces
that are left, and the offset where the last token ended is where they start.

Main statements: `Cursor.Faces.skip` (a parser moves from piece to piece),
`Cursor.IsSound.of_tokenize` and the places of the next token, `Cursor.IsSound.next_place`.
-/

namespace ResultBuilder.Syntax

open Source (utf8Length)
open Lexer (Piece render tokensFrom endToken Lexes endsOperand Opens)

/-! ### Boundaries -/

/-- **A boundary** of a text is an offset between two of its characters, or at an end of it. -/
def OnBoundary (text : List Char) (offset : Nat) : Prop :=
  ∃ front back, text = front ++ back ∧ utf8Length front = offset

/-- A boundary does not lie behind the text. -/
theorem OnBoundary.le {text : List Char} {offset : Nat} (boundary : OnBoundary text offset) :
    offset ≤ utf8Length text := by
  obtain ⟨front, back, rfl, rfl⟩ := boundary
  rw [Source.utf8Length_append]
  exact Nat.le_add_right _ _

/-! ### Kinds of lexemes -/

/-- No lexeme is the end of the file. -/
theorem Lexer.Opens.kind_ne_endOfFile {attached : Bool} {text : List Char} {found : Lexer.Lexeme}
    (opens : Opens attached text found) : found.kind ≠ .endOfFile := by
  cases opens with
  | word starts =>
      simp only [Lexer.word, Lexer.wordKind]
      split
      · rintro ⟨⟩
      · split <;> rintro ⟨⟩
  | @number first rest noName digit =>
      by_cases point : Lexer.GoesOnAsFloat ((first :: rest).dropWhile Lexer.continuesNumber)
      · obtain ⟨next, more, point, isDigit⟩ := point
        rw [Lexer.number_of_float point isDigit]
        rintro ⟨⟩
      · rw [Lexer.number_of_integer point]
        rintro ⟨⟩
  | string closed => rintro ⟨⟩
  | directive named => rintro ⟨⟩
  | sign noName noDigit noQuote noDirective read =>
      obtain ⟨sign, after, rfl, -⟩ := Lexer.symbol?_eq_some read
      rintro ⟨⟩

namespace Cursor

/-! ### What a cursor faces -/

/-- **A cursor faces pieces** when they are what it has left to read, in the source and as tokens,
and are cut right behind something that does or does not end an operand. -/
structure Faces (c : Cursor) (afterOperand : Bool) (pieces : List Piece) (final : List Char) :
    Prop where
  /-- The tokens that are left. -/
  rest : c.rest = tokensFrom final c.lastEnd pieces
  /-- The text that is left, behind what was read. -/
  source : ∃ front, c.source = front ++ (render pieces ++ final) ∧ utf8Length front = c.lastEnd
  /-- The pieces are those that the lexer finds. -/
  lexes : Lexes afterOperand pieces final

variable {c c' : Cursor} {afterOperand : Bool} {piece : Piece} {pieces : List Piece}
  {final : List Char}

theorem Faces.next_cons (faces : c.Faces afterOperand (piece :: pieces) final) :
    c.next = piece.token c.lastEnd := by
  rw [next, faces.rest]
  rfl

theorem Faces.next_nil (faces : c.Faces afterOperand [] final) :
    c.next = endToken final c.lastEnd := by
  rw [next, faces.rest]
  rfl

theorem Faces.length_rest (faces : c.Faces afterOperand pieces final) :
    c.rest.length = pieces.length + 1 := by
  rw [faces.rest, Lexer.length_tokensFrom]

theorem Faces.lastEnd_skip_one (faces : c.Faces afterOperand (piece :: pieces) final) :
    (c.skip 1).lastEnd = c.lastEnd + utf8Length piece.characters := by
  simp [Cursor.skip, faces.rest, tokensFrom, Piece.token]

/-- Behind the first piece the others are faced. -/
theorem Faces.skip_one (faces : c.Faces afterOperand (piece :: pieces) final) :
    (c.skip 1).Faces piece.lexeme.kind.endsOperand pieces final := by
  have moved := faces.lastEnd_skip_one
  obtain ⟨front, cut, length⟩ := faces.source
  refine ⟨?_, ⟨front ++ piece.characters, ?_, ?_⟩, faces.lexes.2.2⟩
  · rw [moved, skip_rest, faces.rest]
    rfl
  · show c.source = _
    simp [cut, Piece.characters]
  · rw [moved, Source.utf8Length_append, length]

theorem skip_zero (c : Cursor) : c.skip 0 = c := by
  simp [skip]

/-- Two moves make one. -/
theorem skip_skip (c : Cursor) (first second : Nat) :
    (c.skip first).skip second = c.skip (first + second) := by
  unfold skip
  simp only [List.drop_drop, Cursor.mk.injEq, true_and, List.take_add, List.getLast?_append]
  cases ((c.rest.drop first).take second).getLast? <;> simp

theorem Faces.advance_cons (faces : c.Faces afterOperand (piece :: pieces) final) :
    c.advance = c.skip 1 := by
  have notEnd : ¬ (c.next.kind == .endOfFile) = true := by
    rw [faces.next_cons, beq_iff_eq]
    exact faces.lexes.2.1.kind_ne_endOfFile
  rw [advance, if_neg notEnd]

theorem Faces.advance_nil (faces : c.Faces afterOperand [] final) : c.advance = c := by
  rw [advance, faces.next_nil]
  rfl

/-- **A parser moves from piece to piece.** -/
theorem Faces.skip {front : List Piece} (faces : c.Faces afterOperand (front ++ pieces) final) :
    (c.skip front.length).Faces (endsOperand afterOperand front) pieces final := by
  induction front generalizing c afterOperand with
  | nil => rwa [List.length_nil, skip_zero]
  | cons piece front ih =>
      have moved := ih faces.skip_one
      rwa [skip_skip, Nat.add_comm] at moved

/-- The last token read ends where the pieces that were read end. -/
theorem Faces.lastEnd_skip {front : List Piece}
    (faces : c.Faces afterOperand (front ++ pieces) final) :
    (c.skip front.length).lastEnd = c.lastEnd + utf8Length (render front) := by
  induction front generalizing c afterOperand with
  | nil => rw [List.length_nil, skip_zero]; rfl
  | cons piece front ih =>
      have moved := ih faces.skip_one
      rw [skip_skip, Nat.add_comm, faces.lastEnd_skip_one] at moved
      rw [List.length_cons, moved, Lexer.render_cons]
      simp only [Piece.characters, Source.utf8Length_append]
      omega

/-! ### Sound cursors -/

/-- **A sound cursor** stands in a source that was cut into pieces. -/
def IsSound (c : Cursor) : Prop :=
  ∃ afterOperand pieces final, c.Faces afterOperand pieces final

/-- The cursor before the first token of a source is sound. -/
theorem IsSound.of_tokenize {source : String} {tokens : List Token}
    (cut : tokenize source = .ok tokens) : (atStart source.toList tokens).IsSound := by
  obtain ⟨pieces, final, same, -, lexes, rfl⟩ := Lexer.tokenize_eq_ok_iff.mp cut
  exact ⟨false, pieces, final, rfl, ⟨[], same, rfl⟩, lexes⟩

/-- **A cursor reaches another** when that is some tokens further on, before the end of the file. -/
def Reaches (c c' : Cursor) : Prop :=
  ∃ count < c.rest.length, c' = c.skip count

theorem IsSound.length_pos (sound : c.IsSound) : 0 < c.rest.length := by
  obtain ⟨afterOperand, pieces, final, faces⟩ := sound
  rw [faces.length_rest]
  exact Nat.succ_pos _

theorem IsSound.reaches_self (sound : c.IsSound) : c.Reaches c :=
  ⟨0, sound.length_pos, c.skip_zero.symm⟩

theorem Reaches.length_le (reaches : c.Reaches c') : c'.rest.length ≤ c.rest.length := by
  obtain ⟨count, -, rfl⟩ := reaches
  rw [skip_rest, List.length_drop]
  exact Nat.sub_le _ _

theorem Reaches.source_eq (reaches : c.Reaches c') : c'.source = c.source := by
  obtain ⟨count, -, rfl⟩ := reaches
  rfl

theorem Reaches.trans {c'' : Cursor} (first : c.Reaches c') (second : c'.Reaches c'') :
    c.Reaches c'' := by
  obtain ⟨count, less, rfl⟩ := first
  obtain ⟨more, fewer, rfl⟩ := second
  rw [skip_rest, List.length_drop] at fewer
  exact ⟨count + more, by omega, skip_skip c count more⟩

/-- What is reached is some pieces further on. -/
theorem Faces.of_reaches (faces : c.Faces afterOperand pieces final) (reaches : c.Reaches c') :
    ∃ front back, pieces = front ++ back ∧ c' = c.skip front.length := by
  obtain ⟨count, less, rfl⟩ := reaches
  rw [faces.length_rest] at less
  refine ⟨pieces.take count, pieces.drop count, (List.take_append_drop count pieces).symm, ?_⟩
  rw [List.length_take, Nat.min_eq_left (by omega)]

/-- What is reached from a sound cursor is sound. -/
theorem IsSound.of_reaches (sound : c.IsSound) (reaches : c.Reaches c') : c'.IsSound := by
  obtain ⟨afterOperand, pieces, final, faces⟩ := sound
  obtain ⟨front, back, rfl, rfl⟩ := faces.of_reaches reaches
  exact ⟨_, _, _, faces.skip⟩

theorem IsSound.reaches_advance (sound : c.IsSound) : c.Reaches c.advance := by
  obtain ⟨afterOperand, pieces, final, faces⟩ := sound
  cases pieces with
  | nil =>
      rw [faces.advance_nil]
      exact IsSound.reaches_self ⟨_, _, _, faces⟩
  | cons piece pieces =>
      refine ⟨1, ?_, faces.advance_cons⟩
      rw [faces.length_rest, List.length_cons]
      omega

/-- Taking a token other than the end of the file leaves fewer. -/
theorem IsSound.length_advance (sound : c.IsSound) (notEnd : c.next.kind ≠ .endOfFile) :
    c.advance.rest.length < c.rest.length := by
  obtain ⟨afterOperand, pieces, final, faces⟩ := sound
  cases pieces with
  | nil => exact absurd (by rw [faces.next_nil]; rfl) notEnd
  | cons piece pieces =>
      rw [faces.advance_cons, faces.skip_one.length_rest, faces.length_rest]
      exact Nat.lt_succ_self _

/-! ### Places -/

/-- **The next token stands behind what was read**, at boundaries of the source. -/
theorem IsSound.next_place (sound : c.IsSound) :
    c.lastEnd ≤ c.next.span.start ∧ c.next.span.start ≤ c.next.span.stop ∧
      OnBoundary c.source c.lastEnd ∧ OnBoundary c.source c.next.span.start ∧
      OnBoundary c.source c.next.span.stop := by
  obtain ⟨afterOperand, pieces, final, faces⟩ := sound
  obtain ⟨front, cut, length⟩ := faces.source
  have here : OnBoundary c.source c.lastEnd := ⟨front, _, cut, length⟩
  cases pieces with
  | nil =>
      have atEnd : OnBoundary c.source (c.lastEnd + utf8Length final) :=
        ⟨front ++ final, [], by simp [cut], by rw [Source.utf8Length_append, length]⟩
      rw [faces.next_nil]
      exact ⟨Nat.le_add_right _ _, Nat.le_refl _, here, atEnd, atEnd⟩
  | cons piece pieces =>
      have starts : OnBoundary c.source (c.lastEnd + utf8Length piece.gap) :=
        ⟨front ++ piece.gap, _, by rw [cut, Lexer.render_cons]; simp only [List.append_assoc]; rfl,
          by rw [Source.utf8Length_append, length]⟩
      have stops : OnBoundary c.source (c.lastEnd + utf8Length piece.characters) :=
        ⟨front ++ piece.characters, render pieces ++ final, by simp [cut, Piece.characters],
          by rw [Source.utf8Length_append, length]⟩
      rw [faces.next_cons]
      refine ⟨Nat.le_add_right _ _, ?_, here, starts, stops⟩
      simp only [Piece.token, Piece.characters, Source.utf8Length_append]
      omega

/-- Tokens other than the end of the file take some of the source. -/
theorem IsSound.start_lt_stop (sound : c.IsSound) (notEnd : c.next.kind ≠ .endOfFile) :
    c.next.span.start < c.next.span.stop := by
  obtain ⟨afterOperand, pieces, final, faces⟩ := sound
  cases pieces with
  | nil => exact absurd (by rw [faces.next_nil]; rfl) notEnd
  | cons piece pieces =>
      have some := mt Lexer.utf8Length_eq_zero.mp faces.lexes.2.1.ne_nil
      rw [faces.next_cons]
      simp only [Piece.token, Piece.characters, Source.utf8Length_append]
      omega

/-- What is read moves the place on, past the next token when any is read. -/
theorem IsSound.le_lastEnd (sound : c.IsSound) (reaches : c.Reaches c') :
    c.lastEnd ≤ c'.lastEnd ∧
      (c'.rest.length < c.rest.length → c.next.span.stop ≤ c'.lastEnd) := by
  obtain ⟨afterOperand, pieces, final, faces⟩ := sound
  obtain ⟨front, back, rfl, rfl⟩ := faces.of_reaches reaches
  rw [faces.lastEnd_skip]
  refine ⟨Nat.le_add_right _ _, fun fewer => ?_⟩
  cases front with
  | nil => exact absurd fewer (by simp [skip_zero])
  | cons piece front =>
      rw [List.cons_append] at faces
      rw [faces.next_cons, Lexer.render_cons]
      simp only [Piece.token, Piece.characters, Source.utf8Length_append]
      omega

/-- What is read takes some of the source. -/
theorem IsSound.start_lt_lastEnd (sound : c.IsSound) (reaches : c.Reaches c')
    (fewer : c'.rest.length < c.rest.length) : c.next.span.start < c'.lastEnd := by
  refine Nat.lt_of_lt_of_le (sound.start_lt_stop fun isEnd => ?_)
    ((sound.le_lastEnd reaches).2 fewer)
  obtain ⟨afterOperand, pieces, final, faces⟩ := sound
  obtain ⟨front, back, rfl, rfl⟩ := faces.of_reaches reaches
  cases front with
  | nil => exact absurd fewer (by simp [skip_zero])
  | cons piece front =>
      rw [List.cons_append] at faces
      rw [faces.next_cons] at isEnd
      exact faces.lexes.2.1.kind_ne_endOfFile isEnd

end Cursor

end ResultBuilder.Syntax
