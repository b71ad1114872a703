import ResultBuilder.Proofs.Syntax.Printing.Statement

/-!
# Patterns with blanks that are read back

A pattern that names a case and has an underscore for each part of its payload cannot fail to match a
value of the case. The parser says so of the text of such a pattern, whatever the number of parts.

* **`parsePattern`**: the pattern of a case that a text is.
* **`parsePattern_caseText`**: what a text with a name and blanks is parsed as.
-/

namespace ResultBuilder.Syntax

open Lexer (Piece render Lexes Loose Printed Listed Enclosed)

/-! ### Parsing patterns -/

/-- The pattern of a case that tokens make up, with nothing after it. -/
def patternOfTokens (source : List Char) (tokens : List Token) : Except SyntaxError Pattern :=
  let whole : Parser Pattern := do
    let pattern ← Parser.pattern endsCasePattern
    let _ ← Parser.expect .endOfFile
    return pattern
  whole.run' (.atStart source tokens)

/-- The pattern of a case that a text is. -/
def parsePattern (text : String) : Except SyntaxError Pattern := do
  patternOfTokens text.toList (← tokenize text)

theorem patternOfTokens_eq_ok_iff {source : List Char} {tokens : List Token} {pattern : Pattern} :
    patternOfTokens source tokens = .ok pattern ↔ ∃ c', (Parser.pattern endsCasePattern).Yields
      (.atStart source tokens) pattern c' ∧ c'.next.kind = .endOfFile := by
  rw [patternOfTokens, Parser.run_eq_ok_iff]
  simp only [Parser.yields_bind, Parser.yields_expect, Parser.yields_pure]
  constructor
  · rintro ⟨_, _, c', read, _, _, ⟨ends, -, -⟩, rfl, -⟩
    exact ⟨c', read, ends⟩
  · rintro ⟨c', read, ends⟩
    exact ⟨_, pattern, c', read, _, _, ⟨ends, rfl, rfl⟩, rfl, rfl⟩

/-! ### Blanks -/

section Blanks

variable {α : Type} {payload : List α} {gap depth : Nat} {pieces inside : List Piece}
  {stops : TokenKind → Bool} {name : String}

/-- **Things are printed as blanks**: as an underscore each. -/
def PrintsBlank (gap : Nat) (_ : α) (pieces : List Piece) : Prop :=
  pieces = [.word gap "_"]

theorem PrintsBlank.printed {item : α} (blank : PrintsBlank gap item pieces) :
    Printed (· == .symbol .underscore) gap "_" pieces := by
  obtain rfl := blank
  exact .word isWord_underscore rfl

/-- **A pattern goes on within its groups** over tokens that open and close none. -/
theorem Parser.patternTokens_inside {tokens rest : List Token}
    (plain : ∀ token ∈ tokens, token.kind ≠ .endOfFile ∧ opensGroup token.kind = false ∧
      closesGroup token.kind = false) :
    patternTokens stops (depth + 1) (tokens ++ rest) =
      tokens ++ patternTokens stops (depth + 1) rest := by
  induction tokens with
  | nil => rfl
  | cons token tokens ih =>
      obtain ⟨⟨notEnd, opensNone, closesNone⟩, others⟩ := List.forall_mem_cons.mp plain
      have goesOn : groupsAfter stops (depth + 1) token.kind = some (depth + 1) := by
        simp [groupsAfter, notEnd, opensNone, closesNone]
      rw [List.cons_append, patternTokens_cons, goesOn, List.cons_append]
      exact congrArg (token :: ·) (ih others)

/-- Blanks and the commas between them open and close no groups. -/
theorem plain_blanks (listed : Listed .comma PrintsBlank gap payload pieces) :
    ∀ token ∈ pieces.map Piece.bareToken, token.kind ≠ .endOfFile ∧
      Parser.opensGroup token.kind = false ∧ Parser.closesGroup token.kind = false := by
  refine List.forall_mem_map.mpr (listed.forall_mem (fun blank => ?_) ⟨nofun, rfl, rfl⟩)
  obtain rfl := blank
  exact List.forall_mem_singleton.mpr ⟨nofun, rfl, rfl⟩

/-- **Each part of a payload of blanks matches every value.** -/
theorem partsMatchAll_blanks (listed : Listed .comma PrintsBlank gap payload pieces) :
    (Parser.payloadParts 0 [] (pieces.map Piece.bareToken)).all Parser.partMatchesAll = true := by
  induction listed with
  | single blank =>
      obtain rfl := blank
      rfl
  | cons blank _ ih =>
      obtain rfl := blank
      exact ih

/-- **The pieces of a pattern with a name and blanks**, which stand in parentheses if there are
any. -/
inductive PrintsCase (name : String) : List α → List Piece → Prop
  | plain : PrintsCase name [] [.sign 0 .dot, .word 0 name]
  | payload {payload : List α} {inside : List Piece}
      (listed : Listed .comma PrintsBlank 0 payload inside) :
      PrintsCase name payload
        (.sign 0 .dot :: .word 0 name :: .sign 0 .parenOpen :: (inside ++ [.sign 0 .parenClose]))

/-- The text of a pattern with a name and blanks. -/
def caseText (name : String) (payload : List α) : String :=
  if payload.isEmpty then "." ++ name
  else "." ++ name ++ "(" ++ String.intercalate ", " (payload.map fun _ => "_") ++ ")"

theorem exists_printsCase (name : String) (payload : List α) :
    ∃ pieces, PrintsCase name payload pieces := by
  cases payload with
  | nil => exact ⟨_, .plain⟩
  | cons first rest =>
      obtain ⟨inside, listed⟩ := @Lexer.exists_listed _ .comma PrintsBlank (first :: rest)
        (fun _ _ _ => ⟨_, rfl⟩) (List.cons_ne_nil _ _) 0
      exact ⟨_, .payload listed⟩

theorem PrintsCase.printed (isName : IsName name) (prints : PrintsCase name payload pieces) :
    Printed (· == .symbol .dot) 0 (caseText name payload) pieces := by
  have starts (others : List Piece) : ∃ lexeme rest,
      (.sign 0 .dot :: others : List Piece) = .spaced 0 lexeme :: rest ∧
        lexeme.Starts (· == .symbol .dot) :=
    ⟨_, _, rfl, rfl, '.', rfl, by decide⟩
  have point {more : List Piece} {afterOperand : Bool} {following : List Char} :
      Lexes afterOperand (.sign 0 .dot :: .word 0 name :: more) following ↔
        Lexes false (.word 0 name :: more) following :=
    Lexer.lexes_sign (by decide) rfl (Lexer.apart_word isName)
  cases prints with
  | plain =>
      refine ⟨by simp [caseText, Piece.sign, Piece.word, Piece.spaced, Symbol.spelling], starts _,
        fun _ loose => point.mpr ?_⟩
      exact (@Lexer.lexes_word _ _ [] _ _ _ isName loose.word).mpr trivial
  | payload listed =>
      have enclosed : Enclosed .parenOpen .parenClose PrintsBlank 0 payload _ :=
        ⟨_, rfl, .inr listed⟩
      have blanks := enclosed.printed PrintsBlank.printed rfl rfl rfl
      have filled : payload.isEmpty = false := by simpa using listed.ne_nil
      refine ⟨?_, starts _, fun _ loose => point.mpr ?_⟩
      · have text := blanks.text
        rw [Lexer.render_cons, Lexer.render_cons, text, caseText, filled]
        simp [Piece.sign, Piece.word, Piece.spaced, Symbol.spelling]
      · refine (Lexer.lexes_word isName (Lexer.loose_solid rfl).word).mpr ?_
        -- the parenthesis is cut the same wherever it stands
        exact (Lexer.lexes_solid rfl).mpr
          ((Lexer.lexes_solid rfl).mp (blanks.lexes (absurd · Bool.false_ne_true) loose))

/-- **The tokens of a pattern with blanks** are all taken as the pattern up to the end of the file,
they name the case and they match each of its values. -/
theorem PrintsCase.tokens (isName : IsName name) (prints : PrintsCase name payload pieces) :
    let tokens := pieces.map Piece.bareToken
    Parser.patternTokens endsCasePattern 0 (tokens ++ [⟨.endOfFile, .point 0, "", false⟩]) = tokens ∧
      Parser.namedCase tokens = some name ∧ Parser.isWildcard tokens = false ∧
      Parser.isRefutable tokens = false := by
  have word : (Piece.word 0 name).bareToken = ⟨.identifier, .point 0, name, false⟩ := by
    rw [Piece.bareToken, show (Piece.word 0 name).lexeme.kind = _ from
      Lexer.wordKind_of_isWord isName]
    rfl
  cases prints with
  | plain =>
      simp only [List.map_cons, List.map_nil, word]
      exact ⟨rfl, rfl, rfl, rfl⟩
  | payload listed =>
      have inside := plain_blanks listed
      have parts := partsMatchAll_blanks listed
      simp only [List.map_cons, List.map_append, List.map_nil, word]
      generalize List.map Piece.bareToken _ = tokens at inside parts
      refine ⟨?_, rfl, rfl, ?_⟩
      · have whole : Parser.patternTokens endsCasePattern 1 (tokens ++ ((Piece.sign 0
            .parenClose).bareToken :: [⟨.endOfFile, .point 0, "", false⟩])) =
              tokens ++ [(Piece.sign 0 .parenClose).bareToken] := by
          rw [Parser.patternTokens_inside inside]
          rfl
        simp only [List.cons_append, List.append_assoc, List.nil_append]
        exact congrArg (_ :: _ :: _ :: ·) whole
      · rw [Parser.isRefutable_payload rfl rfl rfl, Parser.payloadIsRefutable, parts]
        rfl

/-- **A text with a name and blanks is parsed** as a pattern that names the case and cannot fail to
match a value of it, whatever the number of blanks. -/
theorem parsePattern_caseText (isName : IsName name) (payload : List α) :
    ∃ pattern, parsePattern (caseText name payload) = .ok pattern ∧
      pattern.bare = ⟨.point 0, caseText name payload, some name, false, false⟩ := by
  obtain ⟨pieces, prints⟩ := exists_printsCase name payload
  obtain ⟨tokens, cut, -, sees⟩ := (prints.printed isName).exists_tokens
  obtain ⟨stopped, named, notWildcard, notRefutable⟩ := prints.tokens isName
  have rendered : render pieces = (caseText name payload).toList := (prints.printed isName).text
  obtain ⟨lexeme, rest, rfl, -⟩ := (prints.printed isName).opens
  obtain ⟨pattern, c', yields, sees', same⟩ := @Pattern.recovers_of_stopped _ [] _ _ _ stopped rfl
    (.atStart (caseText name payload).toList tokens) (by rwa [List.append_nil])
  refine ⟨pattern, ?_, ?_⟩
  · rw [parsePattern, cut]
    exact patternOfTokens_eq_ok_iff.mpr ⟨c', yields, sees'.kind⟩
  · have text : String.ofList (lexeme.characters ++ render rest) = caseText name payload := by
      rw [Lexer.render_cons] at rendered
      exact (congrArg String.ofList rendered).trans String.ofList_toList
    rw [same, named, notWildcard, notRefutable]
    exact congrArg (Pattern.mk (.point 0) · _ _ _) text

end Blanks

end ResultBuilder.Syntax
