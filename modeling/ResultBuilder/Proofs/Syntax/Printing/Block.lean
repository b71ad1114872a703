import ResultBuilder.Proofs.Syntax.Printing.Expression

/-!
# Statements in a row that are printed and read back

Statements are printed with semicolons between them. Up to a closing brace they make up blocks and,
after the names of parameters, closures. How a single statement is read back is asked of it here.

Main statements: `Statement.recovers_listed`, `Block.Prints.of_closed` and
`Closure.Prints.of_closed`.
-/

namespace ResultBuilder.Syntax

open Lexer (Piece Lexeme render Lexes Loose Printed Listed Enclosed endsOperand tokensFrom)
open Cursor (headKind)

/-! ### Starts and ends -/

/-- Whether a statement that is no expression starts with a token. -/
def startsControl : TokenKind → Bool
  | .keyword .if_ | .keyword .switch_ | .keyword .do_ | .keyword .for_ | .keyword .while_
  | .keyword .repeat_ | .keyword .return_ | .keyword .fallthrough_ | .keyword .break_
  | .keyword .continue_ | .directive => true
  | _ => false

/-- Whether a printed statement starts with a token. -/
def startsStatement (kind : TokenKind) : Bool :=
  startsExpr 0 kind || startsControl kind

/-- Whether a printed statement ends at a token. -/
def endsStatement : TokenKind → Bool
  | .symbol .semicolon | .symbol .braceClose | .endOfFile | .keyword .case_
  | .keyword .default_ => true
  | _ => false

/-- Whether a token can name the parameter of a closure. -/
def namesParam (kind : TokenKind) : Bool :=
  kind == .identifier || kind == .symbol .underscore

theorem separatesNames_of_startsStatement {kind : TokenKind} (starts : startsStatement kind = true) :
    separatesNames kind = false := by
  unfold separatesNames
  split <;> first | rfl | exact absurd starts (by decide)

theorem stops_of_endsStatement {kind : TokenKind} (ends : endsStatement kind = true)
    (region : Region) : Parser.Stops region 0 kind := by
  unfold endsStatement at ends
  split at ends <;> first | contradiction | exact nofun

/-- **A statement is printed as pieces** when these make up its text and are read back. -/
structure Statement.Prints (gap : Nat) (statement : Statement) (pieces : List Piece) : Prop where
  printed : Printed startsStatement gap statement.text pieces
  second : namesParam (headKind pieces) = true → SecondApart pieces
  recovers : ∀ ⦃depth : Nat⦄ ⦃more : List Piece⦄, pieces.length + more.length ≤ depth + 1 →
    endsStatement (headKind more) = true →
    (Parser.statement (Parser.innerBelow depth)).Recovers (Statement.rebuild .plain) pieces more
      statement.reread

/-- No parameters of a closure are found where none is named before what stands after a name. -/
theorem Parser.closureNames_eq_none {c : Cursor}
    (apart : namesParam c.next.kind = true → separatesNames c.second.kind = false) :
    Parser.closureNames c.rest = none := by
  rw [Cursor.next, Cursor.second] at apart
  rcases left : c.rest with _ | ⟨name, _ | ⟨next, rest⟩⟩
  · rfl
  · rfl
  · rw [left] at apart
    rw [Parser.closureNames]
    split
    · next names =>
        have apart := apart names
        split
        · next isIn => exact absurd apart (by rw [isIn]; decide)
        · next isComma => exact absurd apart (by rw [isComma]; decide)
        · rfl
    · rfl

section

variable {name next : Token} {rest : List Token}

theorem Parser.closureNames_in (isParam : namesParam name.kind = true)
    (isIn : next.kind = .keyword .in_) : closureNames (name :: next :: rest) = some [name] := by
  rw [closureNames, isIn]
  exact if_pos isParam

theorem Parser.closureNames_comma (isParam : namesParam name.kind = true)
    (isComma : next.kind = .symbol .comma) :
    closureNames (name :: next :: rest) = (closureNames rest).map (name :: ·) := by
  rw [closureNames, isComma]
  exact if_pos isParam

end

/-! ### Statements in a row -/

namespace Cursor.Sees

variable {c : Cursor} {pieces : List Piece}

/-- Where no semicolon comes next, none are skipped. -/
theorem pastSemicolons (sees : c.Sees pieces) (other : headKind pieces ≠ .symbol .semicolon) :
    c.pastSemicolons = c :=
  Cursor.pastSemicolons_eq (sees.kind ▸ other)

end Cursor.Sees

namespace Statement

variable {gap depth bound : Nat} {statement : Statement} {statements : List Statement}
  {pieces more : List Piece} {stops : TokenKind → Bool}

theorem Prints.length_pos (prints : Prints gap statement pieces) : 0 < pieces.length := by
  obtain ⟨lexeme, rest, rfl, -⟩ := prints.printed.opens
  exact Nat.succ_pos _

theorem Prints.headKind_append (prints : Prints gap statement pieces) (others : List Piece) :
    startsStatement (headKind (pieces ++ others)) = true := by
  obtain ⟨lexeme, rest, rfl, starts, -⟩ := prints.printed.opens
  exact starts

theorem Prints.inner (prints : Prints gap statement pieces)
    (few : pieces.length + more.length ≤ depth) (ends : endsStatement (headKind more) = true) :
    (Parser.innerOfDepth depth).statement.Recovers (Statement.rebuild .plain) pieces more
      statement.reread := by
  have some := prints.length_pos
  obtain ⟨depth, rfl⟩ : ∃ less, depth = less + 1 := ⟨depth - 1, by omega⟩
  exact prints.recovers few ends

/-- Whether statements stop at some kinds of tokens, with which no statement starts or goes on. -/
structure IsStop (stops : TokenKind → Bool) : Prop where
  starts : ∀ kind, startsStatement kind = true → stops kind = false
  notSemicolon : stops (.symbol .semicolon) = false

/-- Where a statement starts there is no semicolon to skip, and statements do not stop. -/
theorem IsStop.goesOn (isStop : IsStop stops) {c : Cursor} (sees : c.Sees more)
    (starts : startsStatement (headKind more) = true) :
    c.pastSemicolons = c ∧ stops c.pastSemicolons.next.kind = false := by
  have past := sees.pastSemicolons fun same => by rw [same] at starts; cases starts
  rw [past, sees.kind]
  exact ⟨rfl, isStop.starts _ starts⟩

/-- No statement is read where they stop. -/
theorem yields_sequence_nil {c : Cursor} {item : Parser Statement} (isStop : IsStop stops)
    (sees : c.Sees more) (last : stops (headKind more) = true) :
    (Parser.sequence stops item bound).Yields c [] c := by
  have other : headKind more ≠ .symbol .semicolon := by
    intro same
    rw [same, isStop.notSemicolon] at last
    cases last
  cases bound with
  | zero => rfl
  | succ bound =>
      rw [Parser.yields_sequence, sees.pastSemicolons other, sees.kind, if_pos last]
      exact ⟨rfl, rfl⟩

/-- A statement of a row is read back, and the row goes on after what ends the statement. -/
theorem Prints.yields_sequence (prints : Prints gap statement pieces) (isStop : IsStop stops)
    (few : pieces.length + more.length ≤ depth) (ends : endsStatement (headKind more) = true)
    {c : Cursor} (sees : c.Sees (pieces ++ more)) :
    ∃ value middle, middle.Sees more ∧ value.rebuild .plain = statement.reread ∧
      ∀ {ended values c'}, Parser.endStatement.Yields middle () ended →
        (Parser.sequence stops (Parser.innerOfDepth depth).statement bound).Yields ended values c' →
        (Parser.sequence stops (Parser.innerOfDepth depth).statement (bound + 1)).Yields c
          (value :: values) c' := by
  obtain ⟨value, middle, yields, sees', same⟩ := prints.inner few ends c sees
  have starts := prints.headKind_append more
  obtain ⟨past, goesOn⟩ := isStop.goesOn sees starts
  exact ⟨value, middle, sees', same, Parser.yields_sequence_cons goesOn (past.symm ▸ yields)⟩

/-- The last statement of a row is read back, and nothing after it. -/
theorem recovers_last {item : Parser Statement} {result : Statement} (isStop : IsStop stops)
    (recovers : item.Recovers (Statement.rebuild .plain) pieces more result)
    (starts : startsStatement (headKind (pieces ++ more)) = true)
    (last : stops (headKind more) = true) (ends : endsStatement (headKind more) = true) :
    (Parser.sequence stops item (bound + 1)).Recovers (List.map (Statement.rebuild .plain)) pieces
      more [result] := by
  intro c sees
  obtain ⟨value, c', yields, sees', same⟩ := recovers c sees
  have noSemicolon : headKind more ≠ .symbol .semicolon := by
    intro same
    rw [same, isStop.notSemicolon] at last
    cases last
  have closes : Parser.closesStatement c'.next.kind = true := by
    rw [sees'.kind]
    unfold endsStatement at ends
    split at ends
    · next found => exact absurd found noSemicolon
    iterate 4 next found => rw [found]; rfl
    · cases ends
  have ending : Parser.endStatement.Yields c' () c' := by
    rw [Parser.yields_endStatement, if_neg (sees'.kind ▸ noSemicolon), closes, Bool.or_true]
    exact ⟨rfl, rfl⟩
  obtain ⟨past, goesOn⟩ := isStop.goesOn sees starts
  exact ⟨[value], c', Parser.yields_sequence_cons goesOn (past.symm ▸ yields) ending
    (yields_sequence_nil isStop sees' last), sees', congrArg (· :: []) same⟩

/-- **Statements in a row are read back** up to where they stop. -/
theorem recovers_listed (isStop : IsStop stops) (listed : Listed .semicolon Prints gap statements pieces)
    (few : pieces.length + more.length ≤ depth) (last : stops (headKind more) = true)
    (ends : endsStatement (headKind more) = true) (enough : statements.length ≤ bound) :
    (Parser.sequence stops (Parser.innerOfDepth depth).statement bound).Recovers
      (List.map (Statement.rebuild .plain)) pieces more
      (statements.map Statement.reread) := by
  induction listed generalizing bound with
  | single only =>
      obtain ⟨bound, rfl⟩ := Nat.exists_eq_succ_of_ne_zero (Nat.ne_of_gt enough)
      exact recovers_last isStop (only.inner few ends) (only.headKind_append more) last ends
  | @cons _ _ _ front back first rest ih =>
      intro c sees
      simp only [List.length_append, List.length_cons] at few enough
      rw [List.append_assoc] at sees
      obtain ⟨bound, rfl⟩ := Nat.exists_eq_succ_of_ne_zero (Nat.ne_of_gt (Nat.zero_lt_of_lt enough))
      have fewFirst : front.length + (.sign 0 .semicolon :: back ++ more).length ≤ depth := by
        simp only [List.length_append, List.length_cons]
        omega
      obtain ⟨value, middle, sees', same, read⟩ := first.yields_sequence isStop fewFirst rfl sees
      have ending : Parser.endStatement.Yields middle () middle.advance := by
        rw [Parser.yields_endStatement,
          if_pos (show middle.next.kind = .symbol .semicolon from sees'.kind)]
      obtain ⟨values, c', yields, sees'', others⟩ :=
        @ih bound (by omega) (by omega) middle.advance sees'.advance
      exact ⟨value :: values, c', read ending yields, sees'', by
        rw [List.map_cons, same, others, List.map_cons]⟩

/-- Where braces are closed no statement starts or goes on. -/
theorem isStop_braceClose :
    IsStop fun kind => kind == .endOfFile || kind == .symbol .braceClose where
  starts kind starts := by
    refine Bool.eq_false_iff.mpr fun stop => ?_
    simp only [Bool.or_eq_true, beq_iff_eq] at stop
    rcases stop with rfl | rfl <;> cases starts
  notSemicolon := rfl

theorem isStop_endOfFile : IsStop fun kind => kind == .endOfFile || false where
  starts kind starts := by
    refine Bool.eq_false_iff.mpr fun stop => ?_
    rw [Bool.or_false, beq_iff_eq] at stop
    rw [stop] at starts
    cases starts
  notSemicolon := rfl

theorem texts_eq_map (statements : List Statement) :
    Statement.texts statements = statements.map text := by
  induction statements with
  | nil => rfl
  | cons statement rest ih => rw [texts, ih, List.map_cons]

/-! ### Statements before a closing brace -/

/-- **Statements before a closing brace**, which stands after a number of spaces where there are
none. -/
def Closed (spaces : Nat) (statements : List Statement) (pieces : List Piece) : Prop :=
  statements = [] ∧ pieces = [.sign spaces .braceClose] ∨
    ∃ inside, Listed .semicolon Prints 1 statements inside ∧
      pieces = inside ++ [.sign 1 .braceClose]

/-- The text of statements before a closing brace. -/
def closedText (spaces : Nat) (statements : List Statement) : String :=
  if statements.isEmpty then String.ofList (List.replicate spaces ' ') ++ "\x7d"
  else " " ++ String.intercalate "; " (Statement.texts statements) ++ " \x7d"

namespace Closed

variable {spaces : Nat}

theorem rendered (closed : Closed spaces statements pieces) :
    render pieces = (closedText spaces statements).toList := by
  rcases closed with ⟨rfl, rfl⟩ | ⟨inside, listed, rfl⟩
  · simp [closedText, Piece.sign, Piece.spaced, Symbol.spelling]
  · have text := (listed.printed (fun prints => prints.printed) rfl).text
    have some : statements.isEmpty = false := by simpa using listed.ne_nil
    rw [Lexer.render_append, text, closedText, some, texts_eq_map]
    simp [Piece.sign, Piece.spaced, Symbol.spelling]

theorem lexes (closed : Closed spaces statements pieces) (following : List Char) :
    Lexes false pieces following := by
  rcases closed with ⟨rfl, rfl⟩ | ⟨inside, listed, rfl⟩
  · exact (@Lexer.lexes_solid false spaces [] following .braceClose rfl).mpr trivial
  · refine Lexer.lexes_append.mpr ⟨(listed.printed (fun prints => prints.printed) rfl).lexes
      (fun after => absurd after Bool.false_ne_true) (Lexer.loose_solid rfl), ?_⟩
    exact (@Lexer.lexes_solid _ 1 [] following .braceClose rfl).mpr trivial

theorem endsOperand_eq (closed : Closed spaces statements pieces) (afterOperand : Bool) :
    endsOperand afterOperand pieces = true := by
  rcases closed with ⟨rfl, rfl⟩ | ⟨inside, listed, rfl⟩
  · rfl
  · rw [Lexer.endsOperand_append]
    rfl

/-- **Statements before a closing brace are read back.** -/
theorem recovers (closed : Closed spaces statements pieces)
    (few : pieces.length + more.length ≤ depth) {c : Cursor} (sees : c.Sees (pieces ++ more)) :
    ∃ values last, (Parser.statements (Parser.innerBelow depth) (· == .symbol .braceClose)).Yields c
        values last ∧ last.next.kind = .symbol .braceClose ∧ last.advance.Sees more ∧
      values.map (Statement.rebuild .plain) = statements.map Statement.reread := by
  rcases closed with ⟨rfl, rfl⟩ | ⟨inside, listed, rfl⟩
  · exact ⟨[], c, yields_sequence_nil isStop_braceClose sees rfl, sees.kind, sees.advance, rfl⟩
  · have enough := listed.length_le
    simp only [List.length_append, List.length_cons, List.length_nil] at few
    rw [List.append_assoc] at sees
    have fewInside : inside.length + (.sign 1 .braceClose :: more).length ≤ depth := by
      simp only [List.length_cons]
      omega
    have enough : statements.length ≤ depth + 1 := by omega
    obtain ⟨values, last, yields, sees', same⟩ :=
      recovers_listed isStop_braceClose listed fewInside rfl rfl enough c sees
    exact ⟨values, last, yields, sees'.kind, sees'.advance, same⟩

/-- The first of statements ends where a semicolon or the closing brace comes. -/
theorem exists_first (closed : Closed spaces statements pieces) :
    pieces = [.sign spaces .braceClose] ∨ ∃ statement front piece back, Prints 1 statement front ∧
      pieces = front ++ piece :: back ∧ separatesNames piece.lexeme.kind = false := by
  rcases closed with ⟨-, rfl⟩ | ⟨inside, listed, rfl⟩
  · exact .inl rfl
  · cases listed with
    | single only => exact .inr ⟨_, _, _, _, only, rfl, rfl⟩
    | cons first rest => exact .inr ⟨_, _, _, _, first, by rw [List.append_assoc]; rfl, rfl⟩

theorem opens (closed : Closed spaces statements pieces) :
    ∃ piece rest, pieces = piece :: rest ∧ separatesNames piece.lexeme.kind = false := by
  rcases closed.exists_first with rfl | ⟨statement, front, piece, back, prints, rfl, -⟩
  · exact ⟨_, _, rfl, rfl⟩
  · obtain ⟨lexeme, rest, rfl, starts, -⟩ := prints.printed.opens
    exact ⟨_, _, rfl, separatesNames_of_startsStatement starts⟩

theorem loose (closed : Closed 2 statements pieces) (following : List Char) :
    Loose (render pieces ++ following) := by
  rcases closed with ⟨-, rfl⟩ | ⟨inside, listed, rfl⟩
  · exact Lexer.loose_solid rfl
  · rw [Lexer.render_append, List.append_assoc]
    exact (listed.printed (fun prints => prints.printed) rfl).loose Nat.one_pos

/-- **No parameters are found** where statements before a closing brace come next. -/
theorem closureNames_eq_none (closed : Closed spaces statements pieces) {c : Cursor}
    (sees : c.Sees (pieces ++ more)) : Parser.closureNames c.rest = none := by
  refine Parser.closureNames_eq_none fun names => ?_
  rcases closed.exists_first with rfl | ⟨statement, front, piece, back, prints, rfl, apart⟩
  · rw [sees.kind] at names
    cases names
  · rw [List.append_assoc] at sees
    obtain ⟨lexeme, rest, rfl, -⟩ := prints.printed.opens
    rw [sees.kind] at names
    rw [sees.second]
    exact (prints.second names).separates apart

end Closed

end Statement

/-! ### Blocks and closures -/

/-- **A block is printed as pieces** when these make up its text and are read back. -/
structure Block.Prints (gap : Nat) (block : Block) (pieces : List Piece) : Prop where
  printed : Printed (· == .symbol .braceOpen) gap block.text pieces
  recovers : ∀ ⦃depth : Nat⦄ ⦃more : List Piece⦄, pieces.length + more.length ≤ depth + 1 →
    (Parser.block (Parser.innerBelow depth)).Recovers (Block.rebuild .plain) pieces more
      block.reread

section Braces

variable {gap depth : Nat} {statements : List Statement} {pieces names front more : List Piece}

/-- A text that starts with an opening brace. -/
theorem Lexer.Printed.braces {text : String} (rendered : render pieces = text.toList)
    (lexes : ∀ {following}, Lexes false pieces following) :
    Printed (· == .symbol .braceOpen) gap ("\x7b" ++ text) (.sign gap .braceOpen :: pieces) where
  text := by simp [rendered, Piece.sign, Piece.spaced, Symbol.spelling]
  opens := ⟨_, _, rfl, rfl, '{', rfl, by decide⟩
  lexes _ _ := (lexes_solid rfl).mpr lexes

/-- Statements between braces. -/
theorem Block.Prints.of_closed (closed : Statement.Closed 0 statements pieces) (span : Span) :
    Block.Prints gap ⟨span, statements⟩ (.sign gap .braceOpen :: pieces) where
  printed := by
    have text : (Block.mk span statements).text = "\x7b" ++ Statement.closedText 0 statements := by
      cases statements <;> simp [Block.text, Statement.closedText, ← String.toList_inj]
    rw [text]
    exact .braces closed.rendered (closed.lexes _)
  recovers := by
    intro depth more few c sees
    obtain ⟨values, last, yields, isClosing, sees', same⟩ := closed.recovers
      (Nat.le_of_succ_le_succ (by simpa [Nat.succ_add] using few)) sees.advance
    refine ⟨⟨last.advance.spanFrom c.next.span.start, values⟩, last.advance,
      Parser.yields_block.mpr ⟨sees.kind, values, last, yields, isClosing, rfl, rfl⟩, sees', ?_⟩
    rw [Block.rebuild, Block.reread_mk, Statement.rebuilds_eq_map, same]

namespace Closure

/-- A parameter of a closure is printed as its name. -/
def ParamPrints (gap : Nat) (param : Name) (pieces : List Piece) : Prop :=
  IsParamName param.text ∧ pieces = [.word gap param.text]

/-- The pieces of parameters up to the keyword `in`, none when there are none. -/
def ParamsPrint (params : List Name) (pieces : List Piece) : Prop :=
  params = [] ∧ pieces = [] ∨
    ∃ names, Listed .comma ParamPrints 1 params names ∧ pieces = names ++ [.word 1 "in"]

/-- The text of parameters. -/
def paramsText (params : List Name) : String :=
  if params.isEmpty then "" else " " ++ commaSeparated (params.map (·.text)) ++ " in"

variable {params : List Name} {param : Name}

theorem ParamPrints.isWord (prints : ParamPrints gap param pieces) :
    ∃ kind, IsWord kind param.text ∧ namesParam kind = true := by
  rcases prints.1 with isName | isUnderscore
  · exact ⟨_, isName, rfl⟩
  · exact ⟨_, isUnderscore ▸ isWord_underscore, rfl⟩

theorem ParamPrints.printed (prints : ParamPrints gap param pieces) :
    Printed namesParam gap param.text pieces := by
  obtain ⟨kind, isWord, names⟩ := prints.isWord
  obtain ⟨-, rfl⟩ := prints
  exact .word isWord names

/-- **The parameters of a closure are found** before the keyword `in`. -/
theorem closureNames_tokensFrom (listed : Listed .comma ParamPrints gap params names)
    (offset : Nat) : ∃ tokens,
      Parser.closureNames (Lexer.tokensFrom [] offset (names ++ .word 1 "in" :: more)) =
        some tokens ∧
      tokens.map (·.text) = params.map (·.text) ∧ 2 * tokens.length = names.length + 1 := by
  induction listed generalizing offset with
  | @single gap param names only =>
      obtain ⟨kind, isWord, isParam⟩ := only.isWord
      obtain ⟨-, rfl⟩ := only
      rw [← Lexer.wordKind_of_isWord isWord] at isParam
      refine ⟨[(Piece.word gap param.text).token offset], ?_, rfl, rfl⟩
      exact Parser.closureNames_in isParam (Lexer.wordKind_of_isWord (isWord_spelling .in_))
  | @cons gap param params names others first rest ih =>
      obtain ⟨kind, isWord, isParam⟩ := first.isWord
      obtain ⟨-, rfl⟩ := first
      rw [← Lexer.wordKind_of_isWord isWord] at isParam
      obtain ⟨tokens, found, texts, length⟩ := ih
        (offset + Source.utf8Length (Piece.word gap param.text).characters +
          Source.utf8Length (Piece.sign 0 .comma).characters)
      refine ⟨(Piece.word gap param.text).token offset :: tokens, ?_, ?_, ?_⟩
      · refine (Parser.closureNames_comma isParam rfl).trans ?_
        exact congrArg (Option.map _) found
      · rw [List.map_cons, texts]
        rfl
      · simp only [List.length_cons, List.length_append, List.length_nil]
        omega

/-- **The parameters of a closure are read back.** -/
theorem recovers_params {spaces : Nat} {closed : List Piece} (prints : ParamsPrint params front)
    (isClosed : Statement.Closed spaces statements closed) :
    Parser.closureParams.Recovers (List.map Name.bare) front (closed ++ more)
      (params.map Name.bare) := by
  intro c sees
  rcases prints with ⟨rfl, rfl⟩ | ⟨names, listed, rfl⟩
  · refine ⟨[], c, Parser.yields_closureParams.mpr ?_, sees, rfl⟩
    rw [isClosed.closureNames_eq_none sees]
    exact ⟨rfl, rfl⟩
  · obtain ⟨tokens, found, texts, length⟩ :=
      @closureNames_tokensFrom _ _ (closed ++ more) _ listed c.lastEnd
    have skipped := sees.skip
    rw [List.length_append, List.length_singleton, ← length] at skipped
    refine ⟨tokens.map fun token => ⟨token.span, token.text⟩, _,
      Parser.yields_closureParams.mpr ?_, skipped, ?_⟩
    · rw [sees.rest, List.append_assoc, List.singleton_append, found]
      exact ⟨rfl, rfl⟩
    · have bare := congrArg (List.map fun text => Name.mk (.point 0) text) texts
      rw [List.map_map, List.map_map] at bare
      rw [List.map_map]
      exact bare

namespace ParamsPrint

variable {closed : List Piece}

theorem rendered (prints : ParamsPrint params front) : render front = (paramsText params).toList := by
  rcases prints with ⟨rfl, rfl⟩ | ⟨names, listed, rfl⟩
  · rfl
  · have text := (listed.printed (fun prints => prints.printed) rfl).text
    have some : params.isEmpty = false := by simpa using listed.ne_nil
    rw [Lexer.render_append, text, paramsText, some, commaSeparated]
    simp [Piece.word, Piece.spaced, Symbol.spelling]

theorem lexes (prints : ParamsPrint params front) (isClosed : Statement.Closed 2 statements closed)
    (following : List Char) : Lexes false (front ++ closed) following := by
  rcases prints with ⟨rfl, rfl⟩ | ⟨names, listed, rfl⟩
  · exact isClosed.lexes following
  · rw [List.append_assoc]
    have keyword := isWord_spelling .in_
    have spaced := isClosed.loose following
    refine Lexer.lexes_append.mpr ⟨(listed.printed (fun prints => prints.printed) rfl).lexes
      (fun after => absurd after Bool.false_ne_true) (Lexer.loose_spaced Nat.one_pos), ?_⟩
    exact (Lexer.lexes_word keyword spaced.word).mpr (isClosed.lexes following)

theorem opens (prints : ParamsPrint params front) (isClosed : Statement.Closed 2 statements closed) :
    ∃ piece rest, front ++ closed = piece :: rest ∧ separatesNames piece.lexeme.kind = false := by
  rcases prints with ⟨rfl, rfl⟩ | ⟨names, listed, rfl⟩
  · exact isClosed.opens
  · obtain ⟨lexeme, rest, rfl, starts, -⟩ := (listed.printed (fun prints => prints.printed) rfl).opens
    refine ⟨_, _, rfl, ?_⟩
    simp only [namesParam, Bool.or_eq_true, beq_iff_eq] at starts
    rcases starts with isName | isUnderscore
    · rw [Piece.spaced, isName]
      rfl
    · rw [Piece.spaced, isUnderscore]
      rfl

end ParamsPrint

/-- **A closure is read back** from its parameters and its statements between braces. -/
theorem recovers_of_closed {spaces : Nat} {closed : List Piece} (prints : ParamsPrint params front)
    (isClosed : Statement.Closed spaces statements closed) (span bodySpan : Span)
    (few : (.sign gap .braceOpen :: (front ++ closed)).length + more.length ≤ depth + 1) :
    (Parser.closure (Parser.innerBelow depth)).Recovers (Closure.rebuild .plain)
      (.sign gap .braceOpen :: (front ++ closed)) more
      (Closure.reread ⟨span, params, ⟨bodySpan, statements⟩⟩) := by
  intro c sees
  simp only [List.length_cons, List.length_append] at few
  have fewClosed : closed.length + more.length ≤ depth := by omega
  have seesParams := sees.advance
  simp only [List.append_eq, List.append_assoc] at seesParams
  obtain ⟨names, middle, yieldsParams, seesBody, sameParams⟩ :=
    recovers_params prints isClosed _ seesParams
  obtain ⟨values, last, yields, isClosing, sees', same⟩ := isClosed.recovers fewClosed seesBody
  refine ⟨⟨last.advance.spanFrom c.next.span.start, names,
      ⟨last.advance.spanFrom c.next.span.start, values⟩⟩, last.advance,
    Parser.yields_closure.mpr ⟨sees.kind, names, middle, yieldsParams, values, last, yields,
      isClosing, rfl, rfl⟩, sees', ?_⟩
  rw [Closure.rebuild, Block.rebuild, Closure.reread_mk, Block.reread_mk,
    Statement.rebuilds_eq_map, same, sameParams]

/-- **A closure is printed** as its parameters and its statements between braces. -/
theorem Prints.of_closed {closed : List Piece} (prints : ParamsPrint params front)
    (isClosed : Statement.Closed 2 statements closed) (span bodySpan : Span) :
    Prints gap ⟨span, params, ⟨bodySpan, statements⟩⟩
      (.sign gap .braceOpen :: (front ++ closed)) where
  printed := by
    have text : (Closure.mk span params ⟨bodySpan, statements⟩).text =
        "\x7b" ++ (paramsText params ++ Statement.closedText 2 statements) := by
      cases params <;> cases statements <;>
        simp [Closure.text, paramsText, Statement.closedText, Statement.texts, ← String.toList_inj]
    rw [text]
    exact .braces (by simp [prints.rendered, isClosed.rendered]) (prints.lexes isClosed _)
  second := by
    obtain ⟨piece, rest, same, apart⟩ := prints.opens isClosed
    rw [same]
    exact .cons apart
  closes _ := by
    show endsOperand _ (front ++ closed) = true
    rw [Lexer.endsOperand_append, isClosed.endsOperand_eq]
  recovers _ _ few := recovers_of_closed prints isClosed span bodySpan few

end Closure

end Braces

end ResultBuilder.Syntax
