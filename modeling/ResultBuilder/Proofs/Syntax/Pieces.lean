import ResultBuilder.Proofs.Syntax.Lexemes

/-!
# Sources as pieces

A source that can be cut into tokens is a list of pieces, each a gap and the lexeme after it, and a
last gap. `Lexes` says that pieces are cut where the lexer cuts them, given what follows.

Main statements: `tokenize_eq_ok_iff` (the tokens of a source are those of its pieces) and
`Lexes.replace` (what follows a space has no part in how the pieces before it are cut).
-/

namespace ResultBuilder.Syntax.Lexer

open Source (utf8Length)

/-- A lexeme with the gap in front of it. -/
structure Piece where
  /-- What stands between the lexeme before and this one. -/
  gap : List Char
  /-- The lexeme. -/
  lexeme : Lexeme

namespace Piece

/-- What a piece takes of a source. -/
def characters (piece : Piece) : List Char :=
  piece.gap ++ piece.lexeme.characters

/-- The token of a piece that starts at an offset. -/
def token (offset : Nat) (piece : Piece) : Token where
  kind := piece.lexeme.kind
  span := ⟨offset + utf8Length piece.gap, offset + utf8Length piece.characters⟩
  text := piece.lexeme.text
  newlineBefore := piece.gap.contains '\n'

end Piece

/-- The text of pieces. -/
def render (pieces : List Piece) : List Char :=
  pieces.flatMap Piece.characters

@[simp] theorem render_nil : render [] = [] := rfl

@[simp] theorem render_cons (piece : Piece) (pieces : List Piece) :
    render (piece :: pieces) = piece.gap ++ (piece.lexeme.characters ++ render pieces) := by
  simp [render, Piece.characters]

@[simp] theorem render_append (front back : List Piece) :
    render (front ++ back) = render front ++ render back :=
  List.flatMap_append

/-- The end of a file whose last gap starts at an offset. -/
def endToken (final : List Char) (offset : Nat) : Token :=
  ⟨.endOfFile, .point (offset + utf8Length final), "", final.contains '\n'⟩

/-- The tokens of pieces that start at an offset and are followed by a last gap. -/
def tokensFrom (final : List Char) : Nat → List Piece → List Token
  | offset, [] => [endToken final offset]
  | offset, piece :: pieces =>
      piece.token offset :: tokensFrom final (offset + utf8Length piece.characters) pieces

@[simp] theorem length_tokensFrom (final : List Char) (offset : Nat) (pieces : List Piece) :
    (tokensFrom final offset pieces).length = pieces.length + 1 := by
  induction pieces generalizing offset with
  | nil => rfl
  | cons piece pieces ih => simp [tokensFrom, ih]

/-- **Pieces are cut as the lexer cuts them**, after something that does or does not end an operand
and before a text. -/
def Lexes : Bool → List Piece → List Char → Prop
  | _, [], _ => True
  | afterOperand, piece :: pieces, following =>
      let text := piece.lexeme.characters ++ (render pieces ++ following)
      Skips (piece.gap ++ text) piece.gap ∧
        Opens (afterOperand && piece.gap.isEmpty) text piece.lexeme ∧
        Lexes piece.lexeme.kind.endsOperand pieces following

/-- Whether what pieces end with ends an operand, given the same of what stands before them. -/
def endsOperand : Bool → List Piece → Bool
  | afterOperand, [] => afterOperand
  | _, piece :: pieces => endsOperand piece.lexeme.kind.endsOperand pieces

@[simp] theorem endsOperand_append (afterOperand : Bool) (front back : List Piece) :
    endsOperand afterOperand (front ++ back) = endsOperand (endsOperand afterOperand front) back := by
  induction front generalizing afterOperand with
  | nil => rfl
  | cons piece front ih => exact ih _

/-- Two rows of pieces are cut right when each is. -/
theorem lexes_append {afterOperand : Bool} {front back : List Piece} {following : List Char} :
    Lexes afterOperand (front ++ back) following ↔
      Lexes afterOperand front (render back ++ following) ∧
        Lexes (endsOperand afterOperand front) back following := by
  induction front generalizing afterOperand with
  | nil => simp [Lexes, endsOperand]
  | cons piece front ih =>
      simp only [List.cons_append, Lexes, ih, endsOperand, render_append, List.append_assoc,
        and_assoc]

/-- **Another text after the pieces** leaves their cut as it is when it is milder. -/
theorem Lexes.replace {afterOperand : Bool} {pieces : List Piece} {following other : List Char}
    (lexes : Lexes afterOperand pieces following) (milder : Milder other following) :
    Lexes afterOperand pieces other := by
  induction pieces generalizing afterOperand with
  | nil => trivial
  | cons piece pieces ih =>
      obtain ⟨skips, opens, rest⟩ := lexes
      have after := milder.append_left (render pieces)
      refine ⟨?_, opens.replace after, ih rest⟩
      have whole := after.append_left piece.lexeme.characters
      obtain ⟨c, tail, same⟩ := List.exists_cons_of_ne_nil opens.ne_nil
      rw [same, List.cons_append] at skips whole ⊢
      have settled := skips.settled (List.cons_ne_nil _ _)
      exact skips.replace (List.cons_ne_nil _ _) (settled.nil_of_milder whole)

/-! ### The tokens of a source -/

/-- Only the empty gap has no bytes. -/
theorem utf8Length_eq_zero {text : List Char} : utf8Length text = 0 ↔ text = [] := by
  cases text with
  | nil => simp [utf8Length]
  | cons c rest =>
      have := c.utf8Size_pos
      simp only [utf8Length, reduceCtorEq, iff_false]
      omega

/-- Something is attached to the token before it when that ends an operand and no gap is between
them. -/
theorem attachedTo_eq {previous : Option Token} {offset : Nat} {skipped : List Char}
    (adjacent : ∀ token ∈ previous, token.span.stop = offset) :
    attachedTo previous (offset + utf8Length skipped) =
      (previous.any (·.kind.endsOperand) && skipped.isEmpty) := by
  cases previous with
  | none => rfl
  | some token =>
      have stop := adjacent token rfl
      have noGap : (token.span.stop == offset + utf8Length skipped) = skipped.isEmpty := by
        rw [stop, Bool.eq_iff_iff, beq_iff_eq, List.isEmpty_iff, ← utf8Length_eq_zero]
        omega
      simp only [attachedTo, Option.any_some, noGap, Bool.and_comm]

theorem tokens_zero (offset : Nat) (previous : Option Token) (text : List Char) :
    tokens 0 offset previous text = (do
      let skipped ← gap .blank offset text
      .ok [endToken skipped offset]) := rfl

theorem tokens_succ (fuel offset : Nat) (previous : Option Token) (text : List Char) :
    tokens (fuel + 1) offset previous text = (do
      let skipped ← gap .blank offset text
      let start := offset + utf8Length skipped
      match text.drop skipped.length with
      | first :: rest =>
          let found ← lexeme (attachedTo previous start) start first rest
          let stop := start + utf8Length found.characters
          let token : Token := ⟨found.kind, ⟨start, stop⟩, found.text, skipped.contains '\n'⟩
          (token :: ·) <$> tokens fuel stop (some token)
            ((first :: rest).drop found.characters.length)
      | [] => .ok [endToken skipped offset]) := by
  -- the definition looks at its fuel only after the gap, where no equation of it starts
  delta tokens
  show Except.bind (gap .blank offset text) _ = Except.bind (gap .blank offset text) _
  congr 1
  funext skipped
  generalize text.drop skipped.length = rest
  cases rest <;> rfl

/-- A text that is a gap has no tokens but its end. -/
theorem tokens_of_gap {fuel offset : Nat} {previous : Option Token} {final : List Char}
    (skips : Skips final final) :
    tokens fuel offset previous final = .ok [endToken final offset] := by
  cases fuel with
  | zero => rw [tokens_zero, skips offset]; rfl
  | succ fuel =>
      rw [tokens_succ, skips offset]
      simp only [bind, Except.bind, List.drop_length]

/-- A text that starts with a gap and a lexeme has the token of the lexeme and those of the rest. -/
theorem tokens_of_piece {fuel offset : Nat} {previous : Option Token} {piece : Piece}
    {after : List Char} {found : List Token}
    (adjacent : ∀ token ∈ previous, token.span.stop = offset)
    (skips : Skips (piece.gap ++ (piece.lexeme.characters ++ after)) piece.gap)
    (opens : Opens (previous.any (·.kind.endsOperand) && piece.gap.isEmpty)
      (piece.lexeme.characters ++ after) piece.lexeme) :
    tokens (fuel + 1) offset previous (piece.gap ++ (piece.lexeme.characters ++ after)) = .ok found ↔
      ∃ rest, tokens fuel (offset + utf8Length piece.characters) (some (piece.token offset)) after =
        .ok rest ∧ piece.token offset :: rest = found := by
  obtain ⟨first, tail, same⟩ := List.exists_cons_of_ne_nil opens.ne_nil
  have stop : offset + utf8Length piece.gap + utf8Length piece.lexeme.characters =
      offset + utf8Length piece.characters := by
    rw [Piece.characters, Source.utf8Length_append, Nat.add_assoc]
  have scanned : lexeme (attachedTo previous (offset + utf8Length piece.gap))
      (offset + utf8Length piece.gap) first (tail ++ after) = .ok piece.lexeme := by
    rw [lexeme_eq_ok_iff, attachedTo_eq adjacent, ← List.cons_append, ← same]
    exact opens
  have dropped : (first :: (tail ++ after)).drop piece.lexeme.characters.length = after := by
    rw [← List.cons_append, ← same, List.drop_left]
  rw [tokens_succ, skips offset]
  simp only [bind, Except.bind, List.drop_left]
  rw [same, List.cons_append]
  simp only [scanned, dropped, stop]
  exact map_eq_ok

/-- **The tokens of a text** are those of its pieces. -/
theorem tokens_eq_ok_iff {fuel offset : Nat} {previous : Option Token} {text : List Char}
    {found : List Token} (enough : text.length ≤ fuel)
    (adjacent : ∀ token ∈ previous, token.span.stop = offset) :
    tokens fuel offset previous text = .ok found ↔
      ∃ pieces final, text = render pieces ++ final ∧ Skips final final ∧
        Lexes (previous.any (·.kind.endsOperand)) pieces final ∧
        found = tokensFrom final offset pieces := by
  -- each token takes a character, so that the fuel is never used up before the text is
  constructor
  · intro scanned
    induction fuel generalizing offset previous text found with
    | zero =>
        obtain rfl := List.eq_nil_of_length_eq_zero (Nat.le_zero.mp enough)
        rw [tokens_of_gap fun _ => rfl] at scanned
        cases scanned
        exact ⟨[], [], rfl, fun _ => rfl, trivial, rfl⟩
    | succ fuel ih =>
        cases scan : gap .blank offset text with
        | error failure =>
            rw [tokens_succ, scan] at scanned
            cases scanned
        | ok skipped =>
            have skips := skips_of_gap_eq_ok scan
            obtain ⟨rest, rfl, -⟩ := gap_parts scan
            cases rest with
            | nil =>
                rw [List.append_nil] at skips scanned ⊢
                rw [tokens_of_gap skips] at scanned
                cases scanned
                exact ⟨[], skipped, rfl, skips, trivial, rfl⟩
            | cons first tail =>
                cases read : lexeme (attachedTo previous (offset + utf8Length skipped))
                    (offset + utf8Length skipped) first tail with
                | error failure =>
                    rw [tokens_succ, scan] at scanned
                    simp only [bind, Except.bind, List.drop_left, read] at scanned
                    cases scanned
                | ok lexeme =>
                    have opens := lexeme_eq_ok_iff.mp read
                    rw [attachedTo_eq adjacent] at opens
                    obtain ⟨after, cut, -⟩ := opens.parts.2
                    rw [cut] at skips opens scanned enough ⊢
                    have taken := List.length_pos_iff.mpr opens.ne_nil
                    have step := (@tokens_of_piece _ _ _ ⟨skipped, lexeme⟩ _ _ adjacent skips
                      opens).mp scanned
                    obtain ⟨others, scannedRest, rfl⟩ := step
                    simp only [List.length_append] at enough
                    obtain ⟨pieces, final, rfl, ends, lexes, rfl⟩ := ih (by omega)
                      (by rintro token ⟨⟩; rfl) scannedRest
                    exact ⟨⟨skipped, lexeme⟩ :: pieces, final, by simp, ends,
                      ⟨skips, opens, lexes⟩, rfl⟩
  · rintro ⟨pieces, final, rfl, ends, lexes, rfl⟩
    induction pieces generalizing fuel offset previous with
    | nil => exact tokens_of_gap ends
    | cons piece pieces ih =>
        obtain ⟨skips, opens, rest⟩ := lexes
        have taken := List.length_pos_iff.mpr opens.ne_nil
        rw [render_cons, List.append_assoc, List.append_assoc] at enough ⊢
        simp only [List.length_append] at enough
        obtain ⟨fuel, rfl⟩ : ∃ less, fuel = less + 1 := ⟨fuel - 1, by omega⟩
        have shorter : (render pieces ++ final).length ≤ fuel := by
          simp only [List.length_append]
          omega
        have next : ∀ token ∈ some (piece.token offset),
            token.span.stop = offset + utf8Length piece.characters := by
          rintro token ⟨⟩
          rfl
        have others := ih next shorter rest
        exact (tokens_of_piece adjacent skips opens).mpr ⟨_, others, rfl⟩

/-- **The tokens of a source** are those of its pieces. -/
theorem tokenize_eq_ok_iff {source : String} {found : List Token} :
    tokenize source = .ok found ↔
      ∃ pieces final, source.toList = render pieces ++ final ∧ Skips final final ∧
        Lexes false pieces final ∧ found = tokensFrom final 0 pieces :=
  tokens_eq_ok_iff (Nat.le_refl _) (fun _ absent => nomatch absent)

end ResultBuilder.Syntax.Lexer
