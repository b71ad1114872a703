import ResultBuilder.Proofs.Syntax.Printing.Block
import ResultBuilder.Proofs.Syntax.Reading.Pattern

/-!
# Statements that are printed and read back
-/

namespace ResultBuilder.Syntax

open Lexer (Piece Lexeme render Lexes Loose Printed Listed Enclosed endsOperand)
open Cursor (headKind)

/-! ### Patterns -/

/-- **A pattern is printed as pieces** before stops when these make up its text after a space and
are read back. -/
structure Pattern.Prints (stops : TokenKind → Bool) (pattern : Pattern) (pieces : List Piece) :
    Prop where
  text : render pieces = ' ' :: pattern.text.toList
  lexes : ∀ c ∈ Lexer.separators, ∀ following, Lexes false pieces (c :: following)
  recovers : ∀ ⦃more : List Piece⦄, stops (headKind more) = true →
    (Parser.pattern stops).Recovers Pattern.bare pieces more pattern.bare

namespace Pattern

variable {stops : TokenKind → Bool} {pattern : Pattern} {pieces more : List Piece}

/-- **The tokens of a pattern are found** before its stops. -/
theorem patternTokens_of_sees {stop : TokenKind}
    (stopped : Parser.patternTokens stops 0
      (pieces.map Piece.bareToken ++ [⟨stop, .point 0, "", false⟩]) = pieces.map Piece.bareToken)
    {c : Cursor} (sees : c.Sees (pieces ++ more)) (isStop : headKind more = stop) :
    (Parser.patternTokens stops 0 c.rest).map Token.bare = pieces.map Piece.bareToken := by
  have bare := @Lexer.map_bare_take_tokensFrom [] c.lastEnd pieces more
  have after := sees.skip.rest
  rw [← sees.rest] at bare
  rw [Cursor.skip_rest] at after
  obtain ⟨token, others, split, kind⟩ : ∃ token others, c.rest.drop pieces.length = token :: others ∧
      token.kind = stop := by
    rw [after]
    cases more with
    | nil => exact ⟨_, _, rfl, isStop⟩
    | cons piece more => exact ⟨_, _, rfl, isStop⟩
  rw [← Parser.patternTokens_map_bare]
  conv_lhs => rw [← List.take_append_drop pieces.length c.rest, split, List.map_append, bare, List.map_cons]
  exact Parser.patternTokens_append (fun _ => kind ▸ id) stopped

/-- **Pieces are read back as a pattern** before what it stops at. -/
theorem recovers_of_stopped {stop : TokenKind} {piece : Piece} {front : List Piece}
    (stopped : Parser.patternTokens stops 0
      ((piece :: front).map Piece.bareToken ++ [⟨stop, .point 0, "", false⟩]) =
        (piece :: front).map Piece.bareToken)
    (isStop : headKind more = stop) :
    (Parser.pattern stops).Recovers Pattern.bare (piece :: front) more {
      span := .point 0
      text := String.ofList (piece.lexeme.characters ++ render front)
      caseName := Parser.namedCase ((piece :: front).map Piece.bareToken)
      isWildcard := Parser.isWildcard ((piece :: front).map Piece.bareToken)
      isRefutable := Parser.isRefutable ((piece :: front).map Piece.bareToken) } := by
  intro c sees
  obtain ⟨afterOperand, faces⟩ := id sees
  have found := patternTokens_of_sees stopped sees isStop
  have sound : c.IsSound := ⟨_, _, _, faces⟩
  have skipped := sees.skip
  have length := congrArg List.length found
  have spans := @Parser.span_patternTokens stops c
  have sameName := Parser.namedCase_map_bare (Parser.patternTokens stops 0 c.rest)
  have sameWildcard := Parser.isWildcard_map_bare (Parser.patternTokens stops 0 c.rest)
  have sameRefutable := Parser.isRefutable_map_bare (Parser.patternTokens stops 0 c.rest)
  have yields {pattern} := @Parser.yields_pattern c (c.skip (front.length + 1)) stops pattern
  generalize Parser.patternTokens stops 0 c.rest = tokens at *
  rw [List.length_map, List.length_map, List.length_cons] at length
  have nonempty : tokens ≠ [] := by
    rintro rfl
    cases length
  have isFirst := List.head?_eq_some_head nonempty
  have isLast := List.getLast?_eq_some_getLast nonempty
  obtain ⟨-, start, ends⟩ := spans sound isFirst isLast
  have slice := Parser.sliceBytes_of_faces faces
  rw [length] at ends
  rw [start, ends] at slice
  rw [found] at sameName sameWildcard sameRefutable
  refine ⟨_, _, yields.mpr ⟨_, _, isFirst, isLast, by rw [length], rfl⟩, skipped, ?_⟩
  rw [Pattern.bare, slice, sameName, sameWildcard, sameRefutable]

/-- **A legible pattern is printed as pieces.** -/
theorem IsLegible.exists_prints (legible : pattern.IsLegible stops) :
    ∃ pieces, pattern.Prints stops pieces := by
  obtain ⟨pieces, text, ⟨piece, isFirst, noGap⟩, lexes, stopped, caseName, isWildcard, isRefutable⟩ :=
    legible
  obtain ⟨rest, rfl⟩ := List.head?_eq_some_iff.mp isFirst
  obtain ⟨gap, lexeme⟩ := piece
  obtain rfl : gap = [] := noGap
  refine ⟨⟨[' '], lexeme⟩ :: rest, by simp [text], fun c separates following => ?_,
    fun more isStop => ?_⟩
  · obtain ⟨skips, opens, others⟩ := lexes.replace (Lexer.milder_separator separates following _)
    exact ⟨skips.space, opens, others⟩
  · have recovered := @recovers_of_stopped stops more _ ⟨[' '], lexeme⟩ rest (stopped _ isStop) rfl
    rwa [Pattern.bare, text, caseName, isWildcard, isRefutable]

end Pattern

/-- A word with a pattern and a text after it. -/
theorem Lexer.Printed.afterPattern {kinds stops : TokenKind → Bool} {kind : TokenKind} {gap : Nat}
    {word text : String} {pattern : Pattern} {pieces more : List Piece} (isWord : IsWord kind word)
    (noOperand : kind.endsOperand = false) (starts : kinds kind = true)
    (prints : pattern.Prints stops pieces) (rendered : render more = ' ' :: text.toList)
    (lexes : ∀ {afterOperand following}, Loose following → Lexes afterOperand more following) :
    Printed kinds gap (word ++ " " ++ pattern.text ++ " " ++ text)
      (.word gap word :: (pieces ++ more)) := by
  refine ⟨?_, ⟨_, _, rfl, starts_word isWord starts⟩,
    @fun _ following _ loose => ?_⟩
  · rw [render_cons, render_append, prints.text, rendered]
    simp [Piece.word, Piece.spaced]
  · have spaced : render (pieces ++ more) ++ following =
        ' ' :: (pattern.text.toList ++ (render more ++ following)) := by
      rw [render_append, prints.text, List.append_assoc, List.cons_append]
    rw [lexes_word isWord, noOperand]
    · refine lexes_append.mpr ⟨?_, lexes loose⟩
      rw [rendered]
      exact prints.lexes ' ' (by decide) _
    · rw [spaced]
      rintro c ⟨⟩
      decide

/-! ### Conditions -/

/-- Whether a printed condition ends at a token. -/
def endsCondition : TokenKind → Bool
  | .symbol .comma | .symbol .braceOpen => true
  | _ => false

theorem stops_of_endsCondition {kind : TokenKind} (ends : endsCondition kind = true) :
    Parser.Stops .header 0 kind := by
  unfold endsCondition at ends
  split at ends <;> first | contradiction | exact nofun

/-- **A condition is printed as pieces** when these make up its text and are read back. -/
structure Condition.Prints (gap : Nat) (condition : Condition) (pieces : List Piece) : Prop where
  printed : Printed (fun _ => true) gap condition.text pieces
  recovers : ∀ ⦃depth : Nat⦄ ⦃more : List Piece⦄, pieces.length + more.length ≤ depth + 1 →
    endsCondition (headKind more) = true →
    (Parser.condition (Parser.innerBelow depth)).Recovers (Condition.rebuild .plain) pieces more
      condition.reread

namespace Condition.Prints

variable {gap : Nat} {value : Expr} {front pieces : List Piece}

/-- An expression in front of braces. -/
theorem expression (prints : Expr.Prints gap value pieces) (fits : value.FitsHeader) :
    Condition.Prints gap (.expression value) pieces where
  printed := prints.printed.mono fun _ _ => rfl
  recovers := by
    intro depth more few ends c sees
    obtain ⟨found, c', yields, sees', same⟩ :=
      prints.whole few (.inr fits) (stops_of_endsCondition ends) c sees
    refine ⟨.expression found, c', Parser.yields_condition.mpr ?_, sees',
      congrArg Condition.expression same⟩
    have starts := startsExpr_mono (Nat.zero_le _) (prints.headKind_append more)
    rw [← sees.kind] at starts
    split
    · next isLet => exact absurd starts (by rw [isLet]; decide)
    · next isVar => exact absurd starts (by rw [isVar]; decide)
    · exact ⟨found, yields, rfl⟩

/-- The keyword of a binding. -/
def keyword (isMutable : Bool) : Keyword :=
  if isMutable then .var_ else .let_

/-- A binding with its value in front of braces. -/
theorem binding {pattern : Pattern} (bound : pattern.Prints (· == .symbol .assign) front)
    (prints : Expr.Prints 1 value pieces) (fits : value.FitsHeader) (span : Span)
    (isMutable : Bool) :
    Condition.Prints gap (.binding span isMutable pattern value)
      (.word gap (keyword isMutable).spelling :: (front ++ .sign 1 .assign :: pieces)) where
  printed := by
    have text : (Condition.binding span isMutable pattern value).text =
        (keyword isMutable).spelling ++ " " ++ pattern.text ++ " " ++ ("= " ++ value.text) := by
      cases isMutable <;> simp [Condition.text, keyword, Keyword.spelling, ← String.toList_inj]
    rw [text]
    refine .afterPattern (isWord_spelling _) ?_ rfl bound ?_ fun loose => ?_
    · cases isMutable <;> rfl
    · simp [prints.printed.text, Piece.sign, Piece.spaced, Symbol.spelling]
    · refine (@Lexer.lexes_sign _ 1 _ _ .assign (by decide) ?_
        (prints.printed.apart (.inl Nat.one_pos))).mpr ?_
      · rw [show ((1 : Nat) == 0) = false from rfl, Bool.and_false]
        rfl
      · exact prints.printed.lexes (fun _ => Nat.one_pos) loose
  recovers := by
    intro depth more few ends c sees
    simp only [List.length_cons, List.length_append] at few
    have fewValue : pieces.length + more.length ≤ depth + 1 := by omega
    have isKeyword := sees.kind.trans (Lexer.wordKind_of_isWord (isWord_spelling (keyword isMutable)))
    have seesPattern := sees.advance
    simp only [List.append_eq, List.append_assoc] at seesPattern
    obtain ⟨element, middle, readPattern, seesValue, samePattern⟩ := bound.recovers rfl _ seesPattern
    obtain ⟨found, c', yields, sees', same⟩ := prints.whole fewValue (.inr fits)
      (stops_of_endsCondition ends) _ seesValue.advance
    refine ⟨.binding (c'.spanFrom c.next.span.start) isMutable element found, c',
      Parser.yields_condition.mpr ?_, sees', ?_⟩
    · cases isMutable <;> rw [isKeyword] <;>
        exact ⟨element, middle, readPattern, seesValue.kind, found, c', yields, rfl, rfl⟩
    · rw [Condition.rebuild, same, samePattern]
      rfl

end Condition.Prints

/-! ### Conditional statements -/

/-- **An `if` statement is printed as pieces** when these make up its text and are read back. -/
structure Conditional.Prints (gap : Nat) (conditional : Conditional) (pieces : List Piece) : Prop where
  printed : Printed (· == .keyword .if_) gap conditional.text pieces
  recovers : ∀ ⦃depth : Nat⦄ ⦃more : List Piece⦄, pieces.length + more.length ≤ depth + 1 →
    headKind more ≠ .keyword .else_ →
    (Parser.conditional (Parser.innerBelow depth)).Recovers (Conditional.rebuild .plain) pieces more
      conditional.reread

namespace Alternative

/-- The pieces of what is done otherwise. -/
def Prints (gap : Nat) : Alternative → List Piece → Prop
  | .block node => Block.Prints gap node
  | .chained node => Conditional.Prints gap node

/-- The pieces of what may be done otherwise, none when nothing is. -/
def Follows : Option Alternative → List Piece → Prop
  | none, pieces => pieces = []
  | some otherwise, pieces =>
      ∃ inside, otherwise.Prints 1 inside ∧ pieces = .word 1 Keyword.else_.spelling :: inside

variable {gap : Nat} {otherwise : Alternative} {pieces : List Piece}

theorem Prints.printed (prints : otherwise.Prints gap pieces) :
    Printed (fun _ => true) gap otherwise.text pieces := by
  cases otherwise with
  | block node => exact prints.printed.mono fun _ _ => rfl
  | chained node => exact prints.printed.mono fun _ _ => rfl

end Alternative

namespace Conditional

variable {gap depth : Nat} {conditions : List Condition} {thenBlock : Block}
  {otherwise : Option Alternative} {front pieces tail more : List Piece}

/-- The conditions of an `if` statement are read back in front of its braces. -/
theorem recoversItems_condition : (Parser.condition (Parser.innerBelow depth)).RecoversItems
    (Condition.rebuild .plain) (depth + 1) (endsCondition · = true) Condition.Prints
    Condition.reread :=
  fun _ prints few ends => prints.recovers few ends

theorem texts_eq_map (conditions : List Condition) :
    Condition.texts conditions = conditions.map Condition.text := by
  induction conditions with
  | nil => rfl
  | cons condition rest ih => rw [Condition.texts, ih, List.map_cons]

/-- The text of an `if` statement is printed when those of its parts are. -/
theorem printed_of_parts (listed : Listed .comma Condition.Prints 1 conditions front)
    (block : Block.Prints 1 thenBlock pieces) (follows : Alternative.Follows otherwise tail)
    (span : Span) : Printed (· == .keyword .if_) gap
      (Conditional.mk span conditions thenBlock otherwise).text
      (.word gap Keyword.if_.spelling :: (front ++ (pieces ++ tail))) := by
  have keyword : Printed (· == .keyword .if_) gap _ _ := .word (isWord_spelling .if_) rfl
  have header := keyword.append ((listed.printed (fun prints => prints.printed) rfl).append
    block.printed)
  cases otherwise with
  | none =>
      rw [show tail = [] from follows, List.append_nil, text, texts_eq_map]
      simpa [Keyword.spelling, Symbol.spelling, commaSeparated, String.append_assoc] using header
  | some otherwise =>
      obtain ⟨inside, prints, rfl⟩ := follows
      have others : Printed (fun _ => true) 1 _ _ :=
        .append (.word (isWord_spelling .else_) rfl) prints.printed
      convert header.append others using 1
      · simp [text, texts_eq_map, Keyword.spelling, Symbol.spelling, commaSeparated,
          ← String.toList_inj]
      · simp

/-- **What is done otherwise is read back.** -/
theorem recovers_follows (follows : Alternative.Follows otherwise tail)
    (few : tail.length + more.length ≤ depth + 1) (noElse : headKind more ≠ .keyword .else_)
    {c : Cursor} (sees : c.Sees (tail ++ more)) : ∃ found c', c'.Sees more ∧
      found.map (Alternative.rebuild .plain) = otherwise.map Alternative.reread ∧
      (c.next.kind ≠ .keyword .else_ ∧ c' = c ∧ found = none ∨
        c.next.kind = .keyword .else_ ∧
          (c.advance.next.kind ≠ .keyword .if_ ∧ (∃ block,
            (Parser.block (Parser.innerBelow depth)).Yields c.advance block c' ∧
              found = some (.block block)) ∨
          c.advance.next.kind = .keyword .if_ ∧ ∃ chained,
            (Parser.innerBelow depth).conditional.Yields c.advance chained c' ∧
              found = some (.chained chained))) := by
  cases otherwise with
  | none =>
      rw [show tail = [] from follows] at sees
      exact ⟨none, c, sees, rfl, .inl ⟨sees.kind ▸ noElse, rfl, rfl⟩⟩
  | some otherwise =>
      obtain ⟨inside, prints, rfl⟩ := follows
      have isElse := sees.kind.trans (Lexer.wordKind_of_isWord (isWord_spelling .else_))
      have sees := sees.advance
      simp only [List.length_cons] at few
      cases otherwise with
      | block node =>
          have prints : Block.Prints 1 node inside := prints
          obtain ⟨lexeme, rest, opens, isOpening, -⟩ := prints.printed.opens
          have few : inside.length + more.length ≤ depth + 1 := by omega
          obtain ⟨block, c', yields, sees', same⟩ := prints.recovers few _ sees
          refine ⟨some (.block block), c', sees', congrArg (fun node => some (Alternative.block node)) same,
            .inr ⟨isElse, .inl ⟨?_, block, yields, rfl⟩⟩⟩
          rw [sees.kind, opens]
          exact fun isIf => absurd ((beq_iff_eq.mp isOpening).symm.trans isIf) nofun
      | chained node =>
          have prints : Conditional.Prints 1 node inside := prints
          obtain ⟨lexeme, rest, opens, isIf, -⟩ := prints.printed.opens
          obtain ⟨depth, rfl⟩ : ∃ less, depth = less + 1 := by
            rw [opens, List.length_cons] at few
            exact ⟨depth - 1, by omega⟩
          obtain ⟨chained, c', yields, sees', same⟩ := @prints.recovers depth more (by omega) noElse _ sees
          refine ⟨some (.chained chained), c', sees', congrArg (fun node => some (Alternative.chained node)) same,
            .inr ⟨isElse, .inr ⟨?_, chained, yields, rfl⟩⟩⟩
          rw [sees.kind, opens]
          exact beq_iff_eq.mp isIf

/-- **An `if` statement is printed** as its keyword, its conditions, its block and what is done
otherwise. -/
theorem Prints.of_parts (listed : Listed .comma Condition.Prints 1 conditions front)
    (block : Block.Prints 1 thenBlock pieces) (follows : Alternative.Follows otherwise tail)
    (span : Span) : Prints gap ⟨span, conditions, thenBlock, otherwise⟩
      (.word gap Keyword.if_.spelling :: (front ++ (pieces ++ tail))) where
  printed := printed_of_parts listed block follows span
  recovers := by
    intro depth more few noElse c sees
    simp only [List.length_cons, List.length_append] at few
    have isIf := sees.kind.trans (Lexer.wordKind_of_isWord (isWord_spelling .if_))
    have seesConditions := sees.advance
    simp only [List.append_eq, List.append_assoc] at seesConditions
    have opening : headKind (pieces ++ (tail ++ more)) = .symbol .braceOpen := by
      obtain ⟨lexeme, rest, rfl, isOpening, -⟩ := block.printed.opens
      exact beq_iff_eq.mp isOpening
    have fewConditions : front.length + (pieces ++ (tail ++ more)).length ≤ depth + 1 := by
      simp only [List.length_append]
      omega
    have enough : conditions.length ≤ depth + 1 := by
      have := listed.length_le
      omega
    obtain ⟨tests, middle, readTests, seesBlock, sameTests⟩ := recoversItems_condition.separated
      listed fewConditions rfl (by rw [opening]; rfl) (by rw [opening]; exact nofun) enough
      _ seesConditions
    have fewBlock : pieces.length + (tail ++ more).length ≤ depth + 1 := by
      rw [List.length_append]
      omega
    obtain ⟨body, last, readBody, seesTail, sameBody⟩ := block.recovers fewBlock _ seesBlock
    have fewTail : tail.length + more.length ≤ depth + 1 := by omega
    obtain ⟨found, c', sees', same, read⟩ := recovers_follows follows fewTail noElse seesTail
    refine ⟨⟨c'.spanFrom c.next.span.start, tests, body, found⟩, c',
      Parser.yields_conditional.mpr ⟨isIf, tests, middle, readTests, body, last, readBody, ?_⟩,
      sees', ?_⟩
    · rcases read with ⟨noElse, rfl, rfl⟩ | ⟨isElse, ⟨notIf, block, yields, rfl⟩ | ⟨isIf, chained, yields, rfl⟩⟩
      · rw [if_neg noElse]
        exact ⟨rfl, rfl⟩
      · rw [if_pos isElse, if_neg notIf]
        exact ⟨block, c', yields, rfl, rfl⟩
      · rw [if_pos isElse, if_pos isIf]
        exact ⟨chained, c', yields, rfl, rfl⟩
    · rw [Conditional.rebuild, Conditional.reread_mk, Condition.rebuilds_eq_map,
        Alternative.rebuildOption_eq_map, same, sameTests, sameBody]

end Conditional

/-! ### Statements -/

namespace Statement.Prints

variable {gap : Nat} {statement : Statement} {value header : Expr} {body : Block}
  {front pieces : List Piece}

/-- A statement that starts with a keyword. -/
theorem of_keyword {word : Keyword} (isStart : startsStatement (.keyword word) = true)
    (printed : Printed (· == .keyword word) gap statement.text pieces)
    (recovers : ∀ ⦃depth : Nat⦄ ⦃more : List Piece⦄, pieces.length + more.length ≤ depth + 1 →
      endsStatement (headKind more) = true → ∀ c : Cursor, c.Sees (pieces ++ more) →
      c.next.kind = .keyword word →
      ∃ value c', (Parser.statement (Parser.innerBelow depth)).Yields c value c' ∧ c'.Sees more ∧
        value.rebuild .plain = statement.reread) : Prints gap statement pieces where
  printed := printed.mono fun kind same => beq_iff_eq.mp same ▸ isStart
  second := by
    intro names
    have same := printed.headKind_append []
    rw [List.append_nil, beq_iff_eq] at same
    rw [same] at names
    cases names
  recovers depth more few ends c sees :=
    recovers few ends c sees (sees.kind.trans (beq_iff_eq.mp (printed.headKind_append more)))

/-- A statement of one keyword. -/
theorem of_single {word : Keyword} (isStart : startsStatement (.keyword word) = true)
    (spelled : statement.text = word.spelling)
    (reads : ∀ {inner : Parser.Inner} {c : Cursor}, c.next.kind = .keyword word →
      endsStatement c.advance.next.kind = true →
      ∃ value, (Parser.statement inner).Yields c value c.advance ∧
        value.rebuild .plain = statement.reread) :
    Prints gap statement [.word gap word.spelling] := by
  refine of_keyword isStart ?_ fun depth more few ends c sees isWord => ?_
  · rw [spelled]
    exact .word (isWord_spelling word) (beq_self_eq_true _)
  · have after : c.advance.Sees more := sees.advance
    obtain ⟨value, yields, same⟩ := reads isWord (after.kind ▸ ends)
    exact ⟨value, c.advance, yields, after, same⟩

/-- An expression that is read back is read back as a statement. -/
theorem recovers_expression {depth : Nat} {more : List Piece} (whole : value.RecoversWhole pieces)
    (starts : startsExpr 0 (headKind (pieces ++ more)) = true)
    (few : pieces.length + more.length ≤ depth + 1) (ends : endsStatement (headKind more) = true) :
    (Parser.statement (Parser.innerBelow depth)).Recovers (Statement.rebuild .plain) pieces more
      (Statement.expression value).reread := by
  intro c sees
  obtain ⟨found, c', yields, sees', same⟩ :=
    whole few (.inl rfl) (stops_of_endsStatement ends .statement) c sees
  refine ⟨.expression found, c', Parser.yields_statement.mpr ?_, sees', congrArg _ same⟩
  rw [← sees.kind] at starts
  dsimp only
  split
  case h_20 => exact ⟨found, yields, rfl⟩
  all_goals next isOther => exact absurd starts (by rw [isOther]; decide)

/-- An expression as a statement. -/
theorem expression (prints : Expr.Prints gap value pieces) : Prints gap (.expression value) pieces where
  printed := prints.printed.mono fun kind starts => by
    rw [startsStatement, startsExpr_mono (Nat.zero_le _) starts, Bool.true_or]
  second _ := prints.second
  recovers _ more few ends :=
    recovers_expression prints.whole
      (startsExpr_mono (Nat.zero_le _) (prints.headKind_append more)) few ends

/-- An `if` statement. -/
theorem conditional {node : Conditional} (prints : Conditional.Prints gap node pieces) :
    Prints gap (.conditional node) pieces := by
  refine of_keyword rfl prints.printed fun depth more few ends c sees isIf => ?_
  obtain ⟨found, c', yields, sees', same⟩ := prints.recovers few
    (by rintro isElse; rw [isElse] at ends; cases ends) c sees
  refine ⟨.conditional found, c', Parser.yields_statement.mpr ?_, sees', congrArg _ same⟩
  dsimp only
  rw [isIf]
  exact ⟨found, yields, rfl⟩

/-- A statement of a keyword and what is after it. -/
theorem after_keyword {word : Keyword} {kinds : TokenKind → Bool} {text : String}
    (isStart : startsStatement (.keyword word) = true)
    (spelled : statement.text = word.spelling ++ " " ++ text) (printed : Printed kinds 1 text pieces)
    (recovers : ∀ ⦃depth : Nat⦄ ⦃more : List Piece⦄, pieces.length + more.length ≤ depth →
      endsStatement (headKind more) = true → ∀ c : Cursor, c.next.kind = .keyword word →
      c.advance.Sees (pieces ++ more) →
      ∃ value c', (Parser.statement (Parser.innerBelow depth)).Yields c value c' ∧ c'.Sees more ∧
        value.rebuild .plain = statement.reread) :
    Prints gap statement (.word gap word.spelling :: pieces) := by
  refine of_keyword isStart ?_ fun depth more few ends c sees isWord => ?_
  · have keyword : Printed (· == .keyword word) gap _ _ :=
      .word (isWord_spelling word) (beq_self_eq_true _)
    rw [spelled]
    exact keyword.append printed
  · simp only [List.length_cons] at few
    exact recovers (by omega) ends c isWord sees.advance

/-- A block as a statement. -/
theorem doBlock (prints : Block.Prints 1 body pieces) (span : Span) :
    Prints gap (.doBlock span body) (.word gap Keyword.do_.spelling :: pieces) := by
  refine after_keyword (by decide) rfl prints.printed fun depth more few ends c isDo sees => ?_
  obtain ⟨found, c', yields, sees', same⟩ := prints.recovers (Nat.le_succ_of_le few) _ sees
  refine ⟨.doBlock (c'.spanFrom c.next.span.start) found, c', Parser.yields_statement.mpr ?_,
    sees', by rw [rebuild, same]; rfl⟩
  dsimp only
  rw [isDo]
  exact ⟨found, c', yields, rfl, rfl⟩

/-! #### Loops -/

/-- A loop is read where its keyword comes. -/
theorem yields_loop {inner : Parser.Inner} {c c' : Cursor} {node : Loop} {word : Keyword}
    (isWord : c.next.kind = .keyword word) (isLoop : word = .for_ ∨ word = .while_ ∨ word = .repeat_)
    (yields : (Parser.loop inner).Yields c node c') :
    (Parser.statement inner).Yields c (.loop node) c' := by
  refine Parser.yields_statement.mpr ?_
  dsimp only
  rw [isWord]
  rcases isLoop with rfl | rfl | rfl <;> exact ⟨node, yields, rfl⟩

/-- A header with the braces of a body after it. -/
theorem recovers_headed (headed : Expr.Prints 1 header front) (fits : header.FitsHeader)
    (prints : Block.Prints 1 body pieces) {depth : Nat} {more : List Piece}
    (few : (front ++ pieces).length + more.length ≤ depth) {c : Cursor}
    (sees : c.Sees (front ++ pieces ++ more)) : ∃ test opening block c',
      (Parser.expression (Parser.innerBelow depth) .header).Yields c test opening ∧
        (Parser.block (Parser.innerBelow depth)).Yields opening block c' ∧ c'.Sees more ∧
        test.rebuild .plain = header.reread ∧
        block.rebuild .plain = body.reread := by
  have opening : headKind (pieces ++ more) = .symbol .braceOpen :=
    beq_iff_eq.mp (prints.printed.headKind_append more)
  rw [List.append_assoc] at sees
  rw [List.length_append] at few
  have fewHeader : front.length + (pieces ++ more).length ≤ depth + 1 := by
    rw [List.length_append]
    omega
  obtain ⟨test, middle, readTest, seesBody, sameTest⟩ := headed.whole fewHeader (.inr fits)
    (stops_of_endsCondition (by rw [opening]; rfl)) c sees
  have fewBody : pieces.length + more.length ≤ depth + 1 := by omega
  obtain ⟨block, c', readBody, sees', sameBody⟩ := prints.recovers fewBody _ seesBody
  exact ⟨test, middle, block, c', readTest, readBody, sees', sameTest, sameBody⟩

/-- A loop over elements. -/
theorem forIn {pattern : Pattern} {named : List Piece}
    (bound : pattern.Prints (· == .keyword .in_) named) (headed : Expr.Prints 1 header front)
    (fits : header.FitsHeader) (prints : Block.Prints 1 body pieces) (span : Span) :
    Prints gap (.loop ⟨span, .forIn pattern, header, body⟩) (.word gap Keyword.for_.spelling ::
      (named ++ .word 1 Keyword.in_.spelling :: (front ++ pieces))) := by
  have afterIn : Printed (fun _ => true) 1 _ _ :=
    .append (.word (isWord_spelling .in_) rfl) (headed.printed.append prints.printed)
  refine @of_keyword gap _ _ .for_ (by decide) ?_ fun depth more few ends c sees isFor => ?_
  · have text : (Statement.loop ⟨span, .forIn pattern, header, body⟩).text = Keyword.for_.spelling ++
        " " ++ pattern.text ++ " " ++
          (Keyword.in_.spelling ++ " " ++ (header.text ++ " " ++ body.text)) := by
      simp [Statement.text, Loop.text, Keyword.spelling, ← String.toList_inj]
    rw [text]
    exact .afterPattern (isWord_spelling .for_) rfl rfl bound afterIn.text
      (afterIn.lexes fun _ => Nat.one_pos)
  · simp only [List.length_cons, List.length_append] at few
    have fewHeaded : (front ++ pieces).length + more.length ≤ depth := by
      rw [List.length_append]
      omega
    have seesPattern := sees.advance
    simp only [List.append_eq, List.append_assoc] at seesPattern
    have isIn : headKind (.word 1 Keyword.in_.spelling :: (front ++ pieces) ++ more) =
        .keyword .in_ := Lexer.wordKind_of_isWord (isWord_spelling .in_)
    obtain ⟨element, middle, readPattern, seesIn, samePattern⟩ := bound.recovers (beq_iff_eq.mpr isIn) _ seesPattern
    obtain ⟨test, opening, block, c', readTest, readBody, sees', sameTest, sameBody⟩ :=
      recovers_headed headed fits prints fewHeaded (by simpa using seesIn.advance)
    refine ⟨.loop ⟨c'.spanFrom c.next.span.start, .forIn element, test, block⟩, c',
      yields_loop isFor (.inl rfl) (Parser.yields_loop.mpr ?_), sees', ?_⟩
    · rw [isFor]
      exact ⟨element, middle, readPattern, seesIn.kind.trans isIn, test, opening, readTest, block,
        c', readBody, rfl, rfl⟩
    · rw [rebuild, Loop.rebuild, LoopForm.bare, samePattern, sameTest, sameBody]
      rfl

/-- A loop with its test before its body. -/
theorem whileDo (headed : Expr.Prints 1 header front) (fits : header.FitsHeader)
    (prints : Block.Prints 1 body pieces) (span : Span) :
    Prints gap (.loop ⟨span, .whileDo, header, body⟩)
      (.word gap Keyword.while_.spelling :: (front ++ pieces)) := by
  refine after_keyword (by decide) ?_ (headed.printed.append prints.printed)
    fun depth more few ends c isWhile sees => ?_
  · simp [Statement.text, Loop.text, Keyword.spelling, ← String.toList_inj]
  · obtain ⟨test, opening, block, c', readTest, readBody, sees', sameTest, sameBody⟩ :=
      recovers_headed headed fits prints few sees
    refine ⟨.loop ⟨c'.spanFrom c.next.span.start, .whileDo, test, block⟩, c',
      yields_loop isWhile (.inr (.inl rfl)) (Parser.yields_loop.mpr ?_), sees', ?_⟩
    · rw [isWhile]
      exact ⟨test, opening, readTest, block, c', readBody, rfl, rfl⟩
    · rw [rebuild, Loop.rebuild, sameTest, sameBody]
      rfl

/-- A loop with its test after its body. -/
theorem repeatWhile (prints : Block.Prints 1 body pieces) (headed : Expr.Prints 1 header front)
    (fits : header.FitsHeader) (span : Span) :
    Prints gap (.loop ⟨span, .repeatWhile, header, body⟩)
      (.word gap Keyword.repeat_.spelling :: (pieces ++ .word 1 Keyword.while_.spelling :: front)) := by
  have afterWhile : Printed (fun _ => true) 1 _ _ :=
    .append (.word (isWord_spelling .while_) rfl) headed.printed
  refine after_keyword (by decide) ?_ (prints.printed.append afterWhile)
    fun depth more few ends c isRepeat sees => ?_
  · simp [Statement.text, Loop.text, Keyword.spelling, ← String.toList_inj]
  · simp only [List.length_cons, List.length_append] at few
    rw [List.append_assoc] at sees
    have fewBody : pieces.length + (.word 1 Keyword.while_.spelling :: front ++ more).length ≤
        depth + 1 := by
      simp only [List.length_cons, List.length_append]
      omega
    have fewHeader : front.length + more.length ≤ depth + 1 := by omega
    obtain ⟨block, middle, readBody, seesWhile, sameBody⟩ := prints.recovers fewBody _ sees
    obtain ⟨test, c', readTest, sees', sameTest⟩ := headed.whole fewHeader (.inr fits)
      (stops_of_endsStatement ends .header) _ seesWhile.advance
    refine ⟨.loop ⟨c'.spanFrom c.next.span.start, .repeatWhile, test, block⟩, c',
      yields_loop isRepeat (.inr (.inr rfl)) (Parser.yields_loop.mpr ?_), sees', ?_⟩
    · rw [isRepeat]
      exact ⟨block, middle, readBody,
        seesWhile.kind.trans (Lexer.wordKind_of_isWord (isWord_spelling .while_)), test, c',
        readTest, rfl, rfl⟩
    · rw [rebuild, Loop.rebuild, sameTest, sameBody]
      rfl

/-! #### Other statements -/

/-- A return of a value. -/
theorem returning (prints : Expr.Prints 1 value pieces) (span keyword : Span) :
    Prints gap (.returning span keyword (some value))
      (.word gap Keyword.return_.spelling :: pieces) := by
  refine after_keyword (by decide) rfl prints.printed fun depth more few ends c isReturn sees => ?_
  obtain ⟨found, c', yields, sees', same⟩ := prints.whole (Nat.le_succ_of_le few) (.inl rfl)
    (stops_of_endsStatement ends .statement) _ sees
  have goesOn : Parser.endsReturn c.advance.next = false := by
    have starts := startsExpr_mono (Nat.zero_le _) (prints.headKind_append more)
    rw [← sees.kind] at starts
    obtain ⟨lexeme, rest, rfl, -⟩ := prints.printed.opens
    rw [Parser.endsReturn, sees.newlineBefore, Bool.false_or]
    split
    · next ends => exact absurd starts (by rw [ends]; decide)
    · next ends => exact absurd starts (by rw [ends]; decide)
    · next ends => exact absurd starts (by rw [ends]; decide)
    · next ends => exact absurd starts (by rw [ends]; decide)
    · next ends => exact absurd starts (by rw [ends]; decide)
    · rfl
  refine ⟨.returning (c'.spanFrom c.next.span.start) c.next.span (some found), c',
    Parser.yields_statement.mpr ?_, sees', ?_⟩
  · dsimp only
    rw [isReturn]
    refine Parser.yields_returning.mpr ⟨isReturn, ?_⟩
    rw [goesOn]
    exact ⟨found, c', yields, rfl, rfl⟩
  · rw [rebuild, Expr.rebuildOption, same]
    rfl

/-- A return of nothing. -/
theorem returningNothing (span keyword : Span) :
    Prints gap (.returning span keyword none) [.word gap Keyword.return_.spelling] := by
  refine of_single (by decide) rfl fun {inner c} isReturn ends => ?_
  refine ⟨.returning (c.advance.spanFrom c.next.span.start) c.next.span none,
    Parser.yields_statement.mpr ?_, rfl⟩
  dsimp only
  rw [isReturn]
  refine Parser.yields_returning.mpr ⟨isReturn, ?_⟩
  have nothing : Parser.endsReturn c.advance.next = true := by
    unfold endsStatement at ends
    split at ends
    iterate 5 next found => rw [Parser.endsReturn, found, Bool.or_true]
    · cases ends
  rw [nothing]
  exact ⟨rfl, rfl⟩

theorem fallthrough (span : Span) :
    Prints gap (.fallthrough span) [.word gap Keyword.fallthrough_.spelling] := by
  refine of_single (by decide) rfl fun {inner c} isFallthrough _ => ?_
  refine ⟨.fallthrough (c.advance.spanFrom c.next.span.start), Parser.yields_statement.mpr ?_, rfl⟩
  dsimp only
  rw [isFallthrough]
  exact ⟨rfl, rfl⟩

/-- The keyword of a statement that leaves or continues a loop. -/
def jumpKeyword : Jump → Keyword
  | .break => .break_
  | .continue => .continue_

theorem jump (span : Span) (kind : Jump) :
    Prints gap (.jump span kind) [.word gap (jumpKeyword kind).spelling] := by
  cases kind with
  | «break» =>
      refine of_single (by decide) rfl fun {inner c} isBreak _ => ?_
      refine ⟨.jump (c.advance.spanFrom c.next.span.start) .break, Parser.yields_statement.mpr ?_, rfl⟩
      dsimp only
      rw [isBreak]
      exact ⟨rfl, rfl⟩
  | «continue» =>
      refine of_single (by decide) rfl fun {inner c} isContinue _ => ?_
      refine ⟨.jump (c.advance.spanFrom c.next.span.start) .continue, Parser.yields_statement.mpr ?_, rfl⟩
      dsimp only
      rw [isContinue]
      exact ⟨rfl, rfl⟩

/-- A directive, whose message can stand between quotes. -/
theorem directive {node : Directive} (quotable : IsQuotable node.message) :
    Prints gap (.directive node) [.directive gap node.kind.text, .sign 0 .parenOpen,
      .string 0 node.message, .sign 0 .parenClose] where
  printed := by
    have named : node.kind.text ≠ "" ∧ node.kind.text.toList.all Lexer.continuesName = true := by
      cases node.kind <;> decide
    refine ⟨?_, ⟨_, _, rfl, rfl, '#', rfl, by decide⟩, fun _ loose => ?_⟩
    · simp [text, Directive.text, Piece.directive, Piece.sign, Piece.string, Piece.spaced,
        Symbol.spelling]
    · rw [Lexer.lexes_directive named.1 (List.all_eq_true.mp named.2), Lexer.lexes_solid rfl, Lexer.lexes_string quotable,
        Lexer.lexes_solid rfl]
      · trivial
      · rintro c ⟨⟩
        decide
  second _ := .cons rfl
  recovers := by
    intro depth more few ends c sees
    have opened := sees.advance
    have message := opened.advance
    have closed := message.advance
    obtain ⟨found, yields, same⟩ : ∃ found : Directive, Parser.directive.Yields c found
        c.advance.advance.advance.advance ∧ found.bare = node.bare := by
      have kind : Parser.directiveKind? c.next.text = some node.kind := by
        rw [show c.next.text = node.kind.text from sees.text]
        cases node.kind <;> rfl
      refine ⟨_, Parser.yields_directive.mpr ⟨node.kind, kind, opened.kind, message.kind,
        closed.kind, rfl, rfl⟩, ?_⟩
      rw [Directive.bare, Directive.bare,
        show c.advance.advance.next.text = node.message from message.text]
    refine ⟨.directive found, _, Parser.yields_statement.mpr ?_, closed.advance,
      congrArg Statement.directive same⟩
    dsimp only
    rw [show c.next.kind = .directive from sees.kind]
    exact ⟨found, yields, rfl⟩

end Statement.Prints

end ResultBuilder.Syntax
