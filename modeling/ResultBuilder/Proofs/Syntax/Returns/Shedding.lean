import ResultBuilder.Proofs.Syntax.Reading.Pattern
import ResultBuilder.Proofs.Syntax.Returns.Counting
import ResultBuilder.Proofs.Syntax.Returns.Opening

/-!
# Tokens without some returns

A source from which keywords of returns are removed has the pieces that are left, in their order.
What stood between the pieces around a keyword is put together in front of the piece behind it; of
that only matters whether there is a line break.

* **`Shed`**: pieces and those that are left of them.
* **`Cursor.Follows`**: a cursor in a source, and the one at the same place in what is left of it.
-/

namespace ResultBuilder.Syntax

open Source (utf8Length)
open Lexer (Piece Lexeme render tokensFrom endToken Lexes)

variable (sites : List ReturnSite)

/-- **Pieces of which some are shed**, from an offset on, and what is left of them, with the gaps
behind the last pieces. If returns were shed right before, it is known whether a line break is
before them. -/
inductive Shed (final other : List Char) : Nat → Option Bool → List Piece → List Piece → Prop
  | done {offset : Nat} {pending : Option Bool} (same : pending = none → other = final)
      (breaks : pending = some true → '\n' ∈ other) : Shed final other offset pending [] []
  | shed {offset : Nat} {pending : Option Bool} {piece : Piece} {pieces others : List Piece}
      (isReturn : (piece.token offset).isReturnOf sites = true)
      (more : Shed final other (offset + utf8Length piece.characters)
        (some (pending.getD (piece.gap.contains '\n'))) pieces others) :
      Shed final other offset pending (piece :: pieces) others
  | keep {offset : Nat} {pending : Option Bool} {gap newGap : List Char} {lexeme : Lexeme}
      {pieces others : List Piece}
      (kept : ((⟨gap, lexeme⟩ : Piece).token offset).isReturnOf sites = false)
      (same : pending = none → newGap = gap) (breaks : pending = some true → '\n' ∈ newGap)
      (more : Shed final other (offset + utf8Length (gap ++ lexeme.characters)) none pieces
        others) :
      Shed final other offset pending (⟨gap, lexeme⟩ :: pieces) (⟨newGap, lexeme⟩ :: others)

variable {sites}

/-- Pieces that are kept where nothing was shed right before stay as they are. -/
theorem Shed.append {final other : List Char} {offset : Nat} {front back others : List Piece}
    (shed : Shed sites final other offset none (front ++ back) others)
    (kept : ∀ token ∈ (tokensFrom final offset (front ++ back)).take front.length,
      token.isReturnOf sites = false) :
    ∃ back', others = front ++ back' ∧
      Shed sites final other (offset + utf8Length (render front)) none back back' := by
  induction front generalizing offset others with
  | nil => exact ⟨others, rfl, shed⟩
  | cons piece front ih =>
      rw [List.cons_append, tokensFrom, List.length_cons, List.take_succ_cons,
        List.forall_mem_cons] at kept
      cases shed with
      | shed isReturn => rw [kept.1] at isReturn; cases isReturn
      | @keep _ _ gap _ lexeme _ _ _ same _ more =>
          obtain rfl := same rfl
          obtain ⟨back', rfl, rest⟩ := ih more kept.2
          refine ⟨back', rfl, ?_⟩
          rw [Lexer.render_cons, ← List.append_assoc, Source.utf8Length_append, ← Nat.add_assoc]
          exact rest

variable (sites)

namespace Cursor

/-- **A cursor in a source and one in what is left of it** when returns are shed: what the one has
left to read is what is left for the other. Right behind returns that were shed, the other may see
another line break. -/
def Follows (fresh : Bool) (c d : Cursor) : Prop :=
  ∃ afterOperand pieces final afterOther others other pending,
    c.Faces afterOperand pieces final ∧ d.Faces afterOther others other ∧
      Shed sites final other c.lastEnd pending pieces others ∧ (fresh = false → pending = none)

/-- The kind of the first token that is left when returns are shed. -/
def keptKind (c : Cursor) : TokenKind :=
  ((c.rest.find? fun token => !token.isReturnOf sites).map (·.kind)).getD .endOfFile

variable {sites} {fresh : Bool} {c d : Cursor}

theorem keptKind_eq (kept : c.next.isReturnOf sites = false) : c.keptKind sites = c.next.kind := by
  unfold keptKind next at *
  cases rest : c.rest with
  | nil => rfl
  | cons token tokens =>
      rw [rest] at kept
      rw [List.find?_cons_of_pos (by simpa using kept)]
      rfl

theorem notEnd_of_isReturnOf (isReturn : c.next.isReturnOf sites = true) :
    c.next.kind ≠ .endOfFile := by
  rw [Token.kind_of_isReturnOf isReturn]
  exact nofun

theorem keptKind_advance (isReturn : c.next.isReturnOf sites = true) :
    c.keptKind sites = c.advance.keptKind sites := by
  rw [keptKind, rest_eq_cons (notEnd_of_isReturnOf isReturn),
    List.find?_cons_of_neg (by simpa using isReturn)]
  rfl

namespace Follows

theorem sound (follows : c.Follows sites fresh d) : c.IsSound := by
  obtain ⟨_, _, _, _, _, _, _, faces, -⟩ := follows
  exact ⟨_, _, _, faces⟩

theorem sound' (follows : c.Follows sites fresh d) : d.IsSound := by
  obtain ⟨_, _, _, _, _, _, _, -, faces, -⟩ := follows
  exact ⟨_, _, _, faces⟩

theorem weaken {more : Bool} (follows : c.Follows sites fresh d)
    (implies : fresh = true → more = true) : c.Follows sites more d := by
  obtain ⟨_, _, _, _, _, _, _, faces, faces', shed, settled⟩ := follows
  refine ⟨_, _, _, _, _, _, _, faces, faces', shed, fun notMore => settled ?_⟩
  cases fresh with
  | false => rfl
  | true => rw [implies rfl] at notMore; cases notMore

/-! ### The next token -/

/-- **A token that is kept** is next for both. -/
theorem bare_next (follows : c.Follows sites fresh d) (kept : c.next.isReturnOf sites = false) :
    d.next.bare = c.next.bare := by
  obtain ⟨_, _, _, _, _, _, _, faces, faces', shed, -⟩ := follows
  cases shed with
  | done => rw [faces.next_nil, faces'.next_nil]; rfl
  | shed isReturn => rw [faces.next_cons, isReturn] at kept; cases kept
  | keep => rw [faces.next_cons, faces'.next_cons]; rfl

theorem kind_next (follows : c.Follows sites fresh d) (kept : c.next.isReturnOf sites = false) :
    d.next.kind = c.next.kind := by
  rw [← Token.kind_bare, follows.bare_next kept, Token.kind_bare]

theorem text_next (follows : c.Follows sites fresh d) (kept : c.next.isReturnOf sites = false) :
    d.next.text = c.next.text := by
  rw [← Token.text_bare, follows.bare_next kept, Token.text_bare]

theorem newlineBefore_next (follows : c.Follows sites false d)
    (kept : c.next.isReturnOf sites = false) : d.next.newlineBefore = c.next.newlineBefore := by
  obtain ⟨_, _, _, _, _, _, _, faces, faces', shed, settled⟩ := follows
  cases shed with
  | done same => rw [faces.next_nil, faces'.next_nil, same (settled rfl)]; rfl
  | shed isReturn => rw [faces.next_cons, isReturn] at kept; cases kept
  | keep _ same => rw [faces.next_cons, faces'.next_cons, same (settled rfl)]; rfl

/-- Behind a token that is kept both have the same left to read. -/
theorem advance (follows : c.Follows sites fresh d) (kept : c.next.isReturnOf sites = false)
    (notEnd : c.next.kind ≠ .endOfFile) : c.advance.Follows sites false d.advance := by
  obtain ⟨_, _, _, _, _, _, _, faces, faces', shed, -⟩ := follows
  cases shed with
  | done => rw [faces.next_nil] at notEnd; exact absurd rfl notEnd
  | shed isReturn => rw [faces.next_cons, isReturn] at kept; cases kept
  | keep _ _ _ more =>
      rw [faces.advance_cons, faces'.advance_cons]
      refine ⟨_, _, _, _, _, _, none, faces.skip_one, faces'.skip_one, ?_, fun _ => rfl⟩
      rw [faces.lastEnd_skip_one]
      exact more

/-- Behind a return that is shed the other has read nothing. -/
theorem shed (follows : c.Follows sites fresh d) (isReturn : c.next.isReturnOf sites = true) :
    c.advance.Follows sites true d := by
  obtain ⟨_, _, _, _, _, _, _, faces, faces', shed, -⟩ := follows
  cases shed with
  | done => rw [faces.next_nil] at isReturn; cases isReturn
  | keep kept => rw [faces.next_cons, kept] at isReturn; cases isReturn
  | shed _ more =>
      rw [faces.advance_cons]
      rw [← faces.lastEnd_skip_one] at more
      exact ⟨_, _, _, _, _, _, _, faces.skip_one, faces', more, fun no => absurd no (by decide)⟩

/-- What the other sees next is the first token that is kept. -/
theorem kind_kept (follows : c.Follows sites fresh d) : d.next.kind = c.keptKind sites := by
  -- past each return that is shed the other cursor stays where it is
  induction size : c.rest.length using Nat.strongRecOn generalizing c fresh with
  | ind _ ih =>
      cases isReturn : c.next.isReturnOf sites with
      | false => rw [keptKind_eq isReturn, follows.kind_next isReturn]
      | true =>
          rw [keptKind_advance isReturn]
          refine ih _ ?_ (follows.shed isReturn) rfl
          rw [← size]
          exact follows.sound.length_advance (notEnd_of_isReturnOf isReturn)

end Follows

/-- A line break before returns that were shed is before the first piece that is left. -/
theorem newlineBefore_of_shed {final other : List Char} {offset : Nat} {pieces others : List Piece}
    {afterOperand : Bool} (shed : Shed sites final other offset (some true) pieces others)
    (faces : d.Faces afterOperand others other) : d.next.newlineBefore = true := by
  -- the break is passed on from return to return
  generalize isPending : some true = pending at shed
  induction shed with
  | done _ breaks =>
      rw [faces.next_nil]
      exact List.contains_iff_mem.mpr (breaks isPending.symm)
  | shed _ _ ih => exact ih faces (by rw [← isPending]; rfl)
  | keep _ _ breaks =>
      rw [faces.next_cons]
      exact List.contains_iff_mem.mpr (breaks isPending.symm)

/-- **A line break is seen by both**, also in front of a return that is shed. -/
theorem Follows.breaks (follows : c.Follows sites false d) (newline : c.next.newlineBefore = true) :
    d.next.newlineBefore = true := by
  cases isReturn : c.next.isReturnOf sites with
  | false => rwa [follows.newlineBefore_next isReturn]
  | true =>
      obtain ⟨_, _, _, _, _, _, _, faces, faces', shed, settled⟩ := follows
      cases settled rfl
      cases shed with
      | done => rw [faces.next_nil] at isReturn; cases isReturn
      | keep kept => rw [faces.next_cons, kept] at isReturn; cases isReturn
      | @shed _ _ piece _ _ _ more =>
          rw [faces.next_cons] at newline
          rw [show (none : Option Bool).getD (piece.gap.contains '\n') = true from newline] at more
          exact newlineBefore_of_shed more faces'

/-! ### Runs of tokens -/

/-- **A run of tokens that are kept** is taken by both, with the same text. -/
theorem Follows.skip {count : Nat} (follows : c.Follows sites false d)
    (less : count < c.rest.length)
    (kept : ∀ token ∈ c.rest.take count, token.isReturnOf sites = false) :
    (c.skip count).Follows sites false (d.skip count) ∧ count < d.rest.length ∧
      (d.rest.take count).map Token.bare = (c.rest.take count).map Token.bare ∧
      (0 < count → Source.sliceBytes d.next.span.start (d.skip count).lastEnd d.source =
        Source.sliceBytes c.next.span.start (c.skip count).lastEnd c.source) := by
  obtain ⟨_, pieces, _, _, _, _, _, faces, faces', shed, settled⟩ := follows
  cases settled rfl
  rw [faces.length_rest] at less
  obtain ⟨front, back, rfl, rfl⟩ : ∃ front back, pieces = front ++ back ∧ front.length = count :=
    ⟨pieces.take count, pieces.drop count, (List.take_append_drop count pieces).symm,
      List.length_take.trans (Nat.min_eq_left (Nat.le_of_lt_succ less))⟩
  rw [faces.rest] at kept
  obtain ⟨back', rfl, more⟩ := shed.append kept
  refine ⟨⟨_, _, _, _, _, _, none, faces.skip, faces'.skip, ?_, fun _ => rfl⟩, ?_, ?_,
    fun some => ?_⟩
  · rw [faces.lastEnd_skip]
    exact more
  · rw [faces'.length_rest, List.length_append]
    omega
  · rw [faces.rest, faces'.rest, Lexer.map_bare_take_tokensFrom, Lexer.map_bare_take_tokensFrom]
  · cases front with
    | nil => exact absurd some (Nat.lt_irrefl _)
    | cons piece front =>
        rw [List.length_cons, Parser.sliceBytes_of_faces faces, Parser.sliceBytes_of_faces faces']

end Cursor

end ResultBuilder.Syntax
