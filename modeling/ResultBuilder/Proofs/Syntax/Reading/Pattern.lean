import ResultBuilder.Proofs.Syntax.Reading.Steps

/-!
# Patterns that are read

Where a pattern stops and what is known of it depend on the kinds and texts of its tokens alone, so
that its text can be read back at another place.

Main statements: `Parser.reads_pattern` and `Parser.isLegible_of_yields_pattern`.
-/

namespace ResultBuilder.Syntax

open Source (utf8Length)
open Lexer (Piece render tokensFrom Lexes)
open Cursor (Reads Passes)

/-! ### Tokens without their places -/

@[simp] theorem Token.kind_bare (token : Token) : token.bare.kind = token.kind := rfl

@[simp] theorem Token.text_bare (token : Token) : token.bare.text = token.text := rfl

/-- Without their places the tokens of pieces are those of their lexemes. -/
theorem Lexer.map_bare_take_tokensFrom {final : List Char} {offset : Nat} (front back : List Piece) :
    ((tokensFrom final offset (front ++ back)).take front.length).map Token.bare =
      front.map Piece.bareToken := by
  induction front generalizing offset with
  | nil => rfl
  | cons piece front ih =>
      simp only [List.cons_append, tokensFrom, List.length_cons, List.take_succ_cons,
        List.map_cons, ih]
      rfl

namespace Parser

variable {stops : TokenKind → Bool} {depth : Nat}

/-! ### Where a pattern stops -/

/-- In how many open groups a pattern goes on after a token of a kind, if it does not stop there. -/
def groupsAfter (stops : TokenKind → Bool) (depth : Nat) (kind : TokenKind) : Option Nat :=
  if kind = .endOfFile then none
  else if opensGroup kind && !(depth == 0 && stops kind) then some (depth + 1)
  else if depth = 0 then
    if kind == .symbol .braceOpen || stops kind || closesGroup kind then none else some 0
  else some (if closesGroup kind then depth - 1 else depth)

theorem patternTokens_cons (token : Token) (rest : List Token) :
    patternTokens stops depth (token :: rest) =
      match groupsAfter stops depth token.kind with
      | none => []
      | some after => token :: patternTokens stops after rest := by
  rw [patternTokens.eq_def]
  unfold groupsAfter
  by_cases isEnd : token.kind = .endOfFile
  · simp [isEnd]
  · by_cases opens : (opensGroup token.kind && !(depth == 0 && stops token.kind)) = true
    · simp only [isEnd, opens, beq_iff_eq, if_true, if_false]
    · simp only [isEnd, opens, beq_iff_eq, if_false]
      cases depth with
      | zero =>
          by_cases stop : (token.kind == .symbol .braceOpen || stops token.kind ||
              closesGroup token.kind) = true
          · simp only [stop, if_true, Bool.false_eq_true, if_false]
          · simp only [stop, if_true, if_false, Bool.false_eq_true]
      | succ outer => simp

/-- A pattern is a run of the tokens that come next, without the end of the file. -/
theorem patternTokens_isFront (tokens : List Token) :
    patternTokens stops depth tokens <+: tokens ∧
      ∀ token ∈ patternTokens stops depth tokens, token.kind ≠ .endOfFile := by
  induction tokens generalizing depth with
  | nil =>
      rw [patternTokens]
      exact ⟨ List.nil_prefix, List.forall_mem_nil _⟩
  | cons token rest ih =>
      rw [patternTokens_cons]
      split
      · exact ⟨ List.nil_prefix, List.forall_mem_nil _⟩
      · next after goesOn =>
          refine ⟨List.cons_prefix_cons.mpr ⟨rfl, ih.1⟩, List.forall_mem_cons.mpr ⟨?_, ih.2⟩⟩
          rintro isEnd
          simp [groupsAfter, isEnd] at goesOn

theorem patternTokens_map_bare (tokens : List Token) :
    patternTokens stops depth (tokens.map Token.bare) =
      (patternTokens stops depth tokens).map Token.bare := by
  induction tokens generalizing depth with
  | nil => rw [List.map_nil, patternTokens, List.map_nil]
  | cons token rest ih =>
      rw [List.map_cons, patternTokens_cons, patternTokens_cons, Token.kind_bare]
      split
      · rfl
      · rw [ih, List.map_cons]

/-- Where a pattern stops before the end of the file, it stops at each of its stops. -/
theorem groupsAfter_stop {stop other : TokenKind} (notEnd : stop ≠ .endOfFile)
    (isOther : stops other = true) (stopped : groupsAfter stops depth stop = none) : groupsAfter stops depth other = none := by
  have outside : depth = 0 := by
    by_contra inside
    simp only [groupsAfter, notEnd, inside, if_false] at stopped
    split at stopped <;> cases stopped
  simp [groupsAfter, outside, isOther]

/-- **A pattern stops at a token for its kind**, whatever comes after that. -/
theorem patternTokens_append {tokens more others : List Token} {token other : Token}
    (stops' : ∀ depth, groupsAfter stops depth token.kind = none →
      groupsAfter stops depth other.kind = none)
    (stopped : patternTokens stops depth (tokens ++ token :: more) = tokens) :
    patternTokens stops depth (tokens ++ other :: others) = tokens := by
  induction tokens generalizing depth with
  | nil =>
      rw [List.nil_append, patternTokens_cons] at stopped ⊢
      cases after : groupsAfter stops depth token.kind with
      | none => rw [stops' depth after]
      | some groups => simp [after] at stopped
  | cons first tokens ih =>
      rw [List.cons_append, patternTokens_cons] at stopped ⊢
      cases after : groupsAfter stops depth first.kind with
      | none => simp [after] at stopped
      | some groups =>
          simp only [after, List.cons.injEq, true_and] at stopped ⊢
          exact ih stopped

/-! ### What is known of a pattern -/

theorem namedCase_map_bare (tokens : List Token) :
    namedCase (tokens.map Token.bare) = namedCase tokens := by
  match tokens with
  | [] | [_] | _ :: _ :: _ => rfl

theorem isWildcard_map_bare (tokens : List Token) :
    isWildcard (tokens.map Token.bare) = isWildcard tokens := by
  match tokens with
  | [] | [_] | _ :: _ :: _ => rfl

theorem payloadParts_map_bare (part tokens : List Token) :
    payloadParts depth (part.map Token.bare) (tokens.map Token.bare) =
      (payloadParts depth part tokens).map (·.map Token.bare) := by
  induction tokens generalizing depth part with
  | nil => simp [payloadParts]
  | cons token rest ih =>
      have afterComma := @ih 0 []
      have longer (inside : Nat) := @ih inside (token :: part)
      rw [List.map_nil] at afterComma
      simp only [List.map_cons] at longer
      simp only [List.map_cons, payloadParts, Token.kind_bare, longer, afterComma]
      split
      · rw [List.map_cons, List.map_reverse]
      · rfl

theorem partMatchesAll_map_bare (part : List Token) :
    partMatchesAll (part.map Token.bare) = partMatchesAll part := by
  match part with
  | [] | [_] | [_, _] | _ :: _ :: _ :: _ => rfl

theorem payloadIsRefutable_map_bare (payload : List Token) :
    payloadIsRefutable (payload.map Token.bare) = payloadIsRefutable payload := by
  have parts := @payloadParts_map_bare 0 [] payload
  rw [List.map_nil] at parts
  rw [payloadIsRefutable, payloadIsRefutable, parts, List.all_map]
  congr 2
  funext part
  exact partMatchesAll_map_bare part

theorem isRefutable_map_bare (tokens : List Token) :
    isRefutable (tokens.map Token.bare) = isRefutable tokens := by
  unfold isRefutable
  rw [namedCase_map_bare, isWildcard_map_bare]
  match tokens with
  | [] | [_] => rfl
  | [_, _] => cases namedCase _ <;> rfl
  | dot :: name :: opening :: more =>
      simp only [List.map_cons]
      cases namedCase (dot :: name :: opening :: more) with
      | none => rfl
      | some found =>
          simp only [List.getLast?_map, ← List.map_dropLast, payloadIsRefutable_map_bare]
          cases more.getLast? <;> rfl

/-- A payload in parentheses is looked at part by part. -/
theorem isRefutable_payload {dot word opening closing : Token} {inside : List Token} {name : String}
    (named : namedCase (dot :: word :: opening :: (inside ++ [closing])) = some name)
    (opens : opening.kind = .symbol .parenOpen) (closes : closing.kind = .symbol .parenClose) :
    isRefutable (dot :: word :: opening :: (inside ++ [closing])) = payloadIsRefutable inside := by
  simp [isRefutable, named, opens, closes]

/-! ### Reading patterns -/

variable {c c' : Cursor} {pattern : Pattern}

/-- The end of the file is not among the tokens of a pattern, so that there are more tokens left. -/
theorem length_patternTokens (sound : c.IsSound) :
    (patternTokens stops depth c.rest).length < c.rest.length := by
  obtain ⟨before, noEnd⟩ := @patternTokens_isFront stops depth c.rest
  refine Nat.lt_of_le_of_ne before.length_le fun same => ?_
  obtain ⟨token, member, isEnd⟩ := sound.exists_endOfFile
  rw [← before.eq_of_length same] at member
  exact noEnd token member isEnd

/-- The tokens of a pattern start with the next token and end where the place is after them. -/
theorem span_patternTokens {first last : Token} (sound : c.IsSound)
    (isFirst : (patternTokens stops 0 c.rest).head? = some first)
    (isLast : (patternTokens stops 0 c.rest).getLast? = some last) :
    c.Reads [] (c.skip (patternTokens stops 0 c.rest).length) ∧ c.next = first ∧
      (c.skip (patternTokens stops 0 c.rest).length).lastEnd = last.span.stop := by
  obtain ⟨before, -⟩ := @patternTokens_isFront stops 0 c.rest
  have some : 0 < (patternTokens stops 0 c.rest).length :=
    List.length_pos_of_mem (List.mem_of_mem_head? isFirst)
  refine ⟨.of_reaches sound ⟨_, length_patternTokens sound, rfl⟩ ?_, ?_, ?_⟩
  · have := sound.length_pos
    rw [Cursor.skip_rest, List.length_drop]
    omega
  · obtain ⟨more, rest⟩ := before
    rw [Cursor.next, ← rest, List.headD_eq_head?_getD, List.head?_append, isFirst]
    rfl
  · rw [Cursor.skip, ← List.prefix_iff_eq_take.mp before, isLast]
    rfl

/-- **Patterns are read** as nodes. -/
theorem reads_pattern (sound : c.IsSound) (yields : (Parser.pattern stops).Yields c pattern c') :
    c.Reads [.pattern pattern] c' := by
  obtain ⟨first, last, isFirst, isLast, rfl, rfl⟩ := yields_pattern.mp yields
  obtain ⟨reads, start, stop⟩ := span_patternTokens sound isFirst isLast
  refine reads.close rfl rfl ?_ trivial trivial
  rw [Cursor.spanFrom, Nat.max_eq_left reads.spread.le, stop, start]
  rfl

/-- A slice of a source from the first lexeme of pieces to their end leaves out the first gap. -/
theorem sliceBytes_of_faces {piece : Piece} {front back : List Piece} {final : List Char}
    {afterOperand : Bool} (faces : c.Faces afterOperand (piece :: front ++ back) final) :
    Source.sliceBytes c.next.span.start (c.skip (front.length + 1)).lastEnd c.source =
      piece.lexeme.characters ++ render front := by
  obtain ⟨read, cut, length⟩ := faces.source
  have whole : c.source = (read ++ piece.gap) ++ ((piece.lexeme.characters ++ render front) ++
      (render back ++ final)) := by
    simp [cut]
  have start : c.next.span.start = utf8Length (read ++ piece.gap) := by
    rw [List.cons_append] at faces
    rw [faces.next_cons, Source.utf8Length_append, length]
    rfl
  have stop : (c.skip (front.length + 1)).lastEnd =
      utf8Length (read ++ piece.gap) + utf8Length (piece.lexeme.characters ++ render front) := by
    rw [← List.length_cons, faces.lastEnd_skip, Lexer.render_cons]
    simp only [Source.utf8Length_append, length]
    omega
  rw [Source.sliceBytes, start, stop, whole, Source.dropBytes_utf8Length_append,
    Nat.add_sub_cancel_left, Source.takeBytes_utf8Length_append]

/-- The tokens of a pattern are read as it again before each of its stops. -/
theorem patternTokens_stop
    (less : (patternTokens stops 0 c.rest).length < c.rest.length)
    (notEnd : (c.skip (patternTokens stops 0 c.rest).length).next.kind ≠ .endOfFile)
    {stop : TokenKind} (isOther : stops stop = true) :
    patternTokens stops 0
        ((patternTokens stops 0 c.rest).map Token.bare ++ [⟨stop, .point 0, "", false⟩]) =
      (patternTokens stops 0 c.rest).map Token.bare := by
  obtain ⟨more, rest⟩ := (@patternTokens_isFront stops 0 c.rest).1
  have again := @patternTokens_map_bare stops 0 c.rest
  generalize patternTokens stops 0 c.rest = tokens at less notEnd rest again ⊢
  rw [Cursor.next, Cursor.skip_rest, ← rest, List.drop_left] at notEnd
  rw [← rest, List.map_append] at again
  cases more with
  | nil => exact absurd less (by rw [← rest, List.append_nil]; exact lt_irrefl _)
  | cons token more =>
      refine @patternTokens_append stops 0 _ _ [] token.bare _ (fun _ stopped => ?_) again
      exact groupsAfter_stop notEnd isOther stopped

/-- **Patterns that are read are legible** when nothing that ends an operand is before them and
the file does not end behind them. -/
theorem isLegible_of_yields_pattern {pieces : List Piece} {final : List Char}
    (faces : c.Faces false pieces final)
    (yields : (Parser.pattern stops).Yields c pattern c') (notEnd : c'.next.kind ≠ .endOfFile) :
    pattern.IsLegible stops := by
  obtain ⟨first, last, isFirst, isLast, rfl, rfl⟩ := yields_pattern.mp yields
  have sound : c.IsSound := ⟨_, _, _, faces⟩
  obtain ⟨before, -⟩ := @patternTokens_isFront stops 0 c.rest
  have less := @length_patternTokens stops 0 c sound
  have ends {stop : TokenKind} := @patternTokens_stop stops c less notEnd stop
  obtain ⟨-, start, place⟩ := span_patternTokens sound isFirst isLast
  have taken := List.prefix_iff_eq_take.mp before
  rw [faces.length_rest] at less
  obtain ⟨front, back, rfl, length⟩ : ∃ front back, pieces = front ++ back ∧
      front.length = (patternTokens stops 0 c.rest).length :=
    ⟨pieces.take _, pieces.drop _, (List.take_append_drop _ pieces).symm,
      List.length_take.trans (Nat.min_eq_left (Nat.le_of_lt_succ less))⟩
  have bare : (patternTokens stops 0 c.rest).map Token.bare = front.map Piece.bareToken := by
    rw [taken, ← length, faces.rest]
    exact Lexer.map_bare_take_tokensFrom front back
  cases front with
  | nil => simp [List.length_eq_zero_iff.mp length.symm] at isFirst
  | cons piece front =>
      have text := sliceBytes_of_faces faces
      rw [start, ← List.length_cons, length, place] at text
      obtain ⟨skips, opens, rest⟩ := (Lexer.lexes_append.mp faces.lexes).1.replace
        (Lexer.milder_blank [] _)
      have settled := skips.settled (List.append_ne_nil_of_left_ne_nil opens.ne_nil _)
      refine ⟨⟨[], piece.lexeme⟩ :: front, by rw [text]; rfl, ⟨_, rfl, rfl⟩,
        ⟨settled, opens, rest⟩, ?_⟩
      show (∀ stop, stops stop = true → patternTokens _ 0
        ((piece :: front).map Piece.bareToken ++ _) = (piece :: front).map Piece.bareToken) ∧ _ = namedCase ((piece :: front).map Piece.bareToken) ∧
        _ = isWildcard ((piece :: front).map Piece.bareToken) ∧
        _ = isRefutable ((piece :: front).map Piece.bareToken)
      rw [← bare]
      exact ⟨fun stop isStop => ends isStop, (namedCase_map_bare _).symm,
        (isWildcard_map_bare _).symm, (isRefutable_map_bare _).symm⟩

end Parser

end ResultBuilder.Syntax
