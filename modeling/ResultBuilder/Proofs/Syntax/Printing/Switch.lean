import ResultBuilder.Proofs.Syntax.Printing.Statement

/-!
# Switch statements that are printed and read back

The patterns of a case are printed with commas between them, and its statements between braces. The
braces are not read as what they are printed for: the parser finds a closure in them, which is then
the only statement of the case.

Main statements: `SwitchCase.Prints.of_closed` and `Statement.Prints.switch`.
-/

namespace ResultBuilder.Syntax

open Lexer (Piece Lexeme render Lexes Loose Printed Listed endsOperand)
open Cursor (headKind)

/-! ### Labels -/

namespace CaseLabel

/-- A pattern of a case is printed behind a space. -/
def PatternPrints (_ : Nat) : Pattern → List Piece → Prop :=
  Pattern.Prints endsCasePattern

/-- The pieces of what stands before the colon of a case, behind a space. -/
def Prints : CaseLabel → List Piece → Prop
  | .default, pieces => pieces = [.word 1 Keyword.default_.spelling]
  | .patterns listed, pieces => ∃ inside, Listed .comma PatternPrints 1 listed inside ∧
      pieces = .word 1 Keyword.case_.spelling :: inside

variable {gap depth : Nat} {label : CaseLabel} {patterns : List Pattern} {pieces more : List Piece}

theorem rendered_patterns (listed : Listed .comma PatternPrints gap patterns pieces) :
    render pieces = ' ' :: (commaSeparated (patterns.map (·.text))).toList := by
  induction listed with
  | single only =>
      rw [only.text]
      simp [commaSeparated]
  | cons first rest ih =>
      rw [Lexer.render_append, Lexer.render_cons, first.text, ih]
      cases rest <;> simp [commaSeparated, Piece.sign, Piece.spaced, Symbol.spelling]

theorem lexes_patterns (listed : Listed .comma PatternPrints gap patterns pieces)
    (following : List Char) : Lexes false pieces (':' :: following) := by
  induction listed with
  | single only => exact only.lexes ':' (by decide) following
  | cons first rest ih =>
      refine Lexer.lexes_append.mpr ⟨first.lexes ',' (by decide) _, ?_⟩
      exact (Lexer.lexes_solid rfl).mpr ih

/-- The text of a label starts with a space. -/
theorem Prints.rendered (prints : label.Prints pieces) : render pieces = ' ' :: label.text.toList := by
  cases label with
  | default =>
      rw [show pieces = _ from prints]
      simp [text, Piece.word, Piece.spaced, Keyword.spelling]
  | patterns listed =>
      obtain ⟨inside, listed, rfl⟩ := prints
      rw [Lexer.render_cons, rendered_patterns listed]
      simp [text, Piece.word, Piece.spaced, Keyword.spelling]

/-- A label is cut as it is printed before a colon. -/
theorem Prints.lexes (prints : label.Prints pieces) (afterOperand : Bool) (following : List Char) :
    Lexes afterOperand pieces (':' :: following) := by
  cases label with
  | default =>
      rw [show pieces = _ from prints]
      refine (Lexer.lexes_word (isWord_spelling .default_) ?_).mpr trivial
      rintro c ⟨⟩
      decide
  | patterns listed =>
      obtain ⟨inside, listed, rfl⟩ := prints
      refine (Lexer.lexes_word (isWord_spelling .case_) ?_).mpr (lexes_patterns listed following)
      rw [rendered_patterns listed]
      rintro c ⟨⟩
      decide

/-- A label starts where the statements of a case end. -/
theorem Prints.headKind_append (prints : label.Prints pieces) (others : List Piece) :
    headKind (pieces ++ others) = .keyword .case_ ∨
      headKind (pieces ++ others) = .keyword .default_ := by
  cases label with
  | default =>
      rw [show pieces = _ from prints]
      exact .inr (Lexer.wordKind_of_isWord (isWord_spelling .default_))
  | patterns listed =>
      obtain ⟨inside, listed, rfl⟩ := prints
      exact .inl (Lexer.wordKind_of_isWord (isWord_spelling .case_))

/-- **A label is read back** before a colon. -/
theorem Prints.recovers (prints : label.Prints pieces)
    (few : pieces.length + more.length ≤ depth + 1) (isColon : headKind more = .symbol .colon) :
    (Parser.caseLabel (Parser.innerBelow depth)).Recovers CaseLabel.bare pieces more label.bare := by
  intro c sees
  cases label with
  | default =>
      rw [show pieces = _ from prints] at sees
      have isDefault := sees.kind.trans (Lexer.wordKind_of_isWord (isWord_spelling .default_))
      refine ⟨.default, c.advance, Parser.yields_caseLabel.mpr ?_, sees.advance, rfl⟩
      rw [isDefault]
      exact ⟨rfl, rfl⟩
  | patterns patterns =>
      obtain ⟨inside, listed, rfl⟩ := prints
      have isCase := sees.kind.trans (Lexer.wordKind_of_isWord (isWord_spelling .case_))
      simp only [List.length_cons] at few
      have items : (Parser.pattern endsCasePattern).RecoversItems Pattern.bare depth
          (endsCasePattern · = true) PatternPrints Pattern.bare :=
        fun _ prints _ ends => prints.recovers ends
      have fewInside : inside.length + more.length ≤ depth := by omega
      have enough : patterns.length ≤ depth + 1 := by
        have := listed.length_le
        omega
      obtain ⟨found, c', yields, sees', same⟩ := items.separated listed fewInside rfl
        (by rw [isColon]; rfl) (by rw [isColon]; exact nofun) enough c.advance sees.advance
      refine ⟨.patterns found, c', Parser.yields_caseLabel.mpr ?_, sees',
        congrArg CaseLabel.patterns same⟩
      rw [isCase]
      exact ⟨found, yields, rfl⟩

end CaseLabel

/-! ### Cases -/

/-- Where the statements of a case end no statement starts or goes on. -/
theorem Statement.isStop_endsCase :
    Statement.IsStop fun kind => kind == .endOfFile || Parser.endsCase kind where
  starts kind starts := by
    unfold Parser.endsCase
    split
    all_goals first | exact absurd starts (by decide) | skip
    rw [Bool.or_false]
    exact beq_eq_false_iff_ne.mpr fun isEnd => absurd starts (by rw [isEnd]; decide)
  notSemicolon := rfl

/-- **The braces around the statements of a case are read as a closure**, with which nothing goes on
before the next case. -/
theorem Block.recovers_inBraces {depth : Nat} {statements : List Statement}
    {pieces more : List Piece} (closed : Statement.Closed 0 statements pieces) (span : Span)
    (few : (.sign 1 .braceOpen :: pieces).length + more.length ≤ depth)
    (ends : Parser.endsCase (headKind more) = true) :
    (Parser.statements (Parser.innerBelow depth) Parser.endsCase).Recovers
      (List.map (Statement.rebuild .plain)) (.sign 1 .braceOpen :: pieces) more
      (Block.reread ⟨span, statements⟩).inBraces.statements := by
  obtain ⟨depth, rfl⟩ : ∃ less, depth = less + 1 := by
    simp only [List.length_cons] at few
    exact ⟨depth - 1, by omega⟩
  have closure : (Expr.closure ⟨span, [], ⟨span, statements⟩⟩).LeadsOperand
      (.sign 1 .braceOpen :: pieces) := by
    intro depth region start more few _ _
    exact .of_recovers (Expr.Prints.recovers_closure rfl
      (Closure.recovers_of_closed (.inl ⟨rfl, rfl⟩) closed span span few))
  have binary := (closure.unary rfl (List.cons_ne_nil _ _)).binary
  have whole := (binary.ternary (show 2 ≤ 9 by decide)).whole
  have endsToo : endsStatement (headKind more) = true := by
    unfold Parser.endsCase at ends
    split at ends
    iterate 3 next found => rw [found]; rfl
    · cases ends
  exact Statement.recovers_last Statement.isStop_endsCase
    (Statement.Prints.recovers_expression whole rfl few endsToo) rfl
    (by rw [ends, Bool.or_true]) endsToo

/-- **A case is printed as pieces** behind a space when these make up its text and are read back as
a case with nothing but a closure. -/
structure SwitchCase.Prints (switchCase : SwitchCase) (pieces : List Piece) : Prop where
  rendered : render pieces = ' ' :: switchCase.text.toList
  lexes : ∀ afterOperand following, Lexes afterOperand pieces following
  opens : ∀ others, headKind (pieces ++ others) = .keyword .case_ ∨
    headKind (pieces ++ others) = .keyword .default_
  recovers : ∀ ⦃depth : Nat⦄ ⦃more : List Piece⦄, pieces.length + more.length ≤ depth + 1 →
    Parser.endsCase (headKind more) = true →
    (Parser.switchCase (Parser.innerBelow depth)).Recovers (SwitchCase.rebuild .plain) pieces more
      switchCase.reread

/-- A case with a label is printed when its statements are printed before a closing brace. -/
theorem SwitchCase.Prints.of_closed {label : CaseLabel} {statements : List Statement}
    {front pieces : List Piece} (labelled : label.Prints front)
    (closed : Statement.Closed 0 statements pieces) (span bodySpan : Span) :
    SwitchCase.Prints ⟨span, label, ⟨bodySpan, statements⟩⟩
      (front ++ .sign 0 .colon :: .sign 1 .braceOpen :: pieces) where
  rendered := by
    have braces := (@Block.Prints.of_closed 1 _ _ closed bodySpan).printed.text
    rw [Lexer.render_append, labelled.rendered, Lexer.render_cons, braces, text]
    simp [Piece.sign, Piece.spaced, Symbol.spelling]
  lexes afterOperand following := by
    refine Lexer.lexes_append.mpr ⟨labelled.lexes afterOperand _, ?_⟩
    exact (Lexer.lexes_solid rfl).mpr ((Lexer.lexes_solid rfl).mpr (closed.lexes following))
  opens others := by
    rw [List.append_assoc]
    exact labelled.headKind_append _
  recovers := by
    intro depth more few ends c sees
    simp only [List.length_append, List.length_cons] at few
    rw [List.append_assoc] at sees
    have fewLabel : front.length +
        (.sign 0 .colon :: .sign 1 .braceOpen :: pieces ++ more).length ≤ depth + 1 := by
      simp only [List.length_append, List.length_cons]
      omega
    obtain ⟨found, colon, yieldsLabel, atColon, sameLabel⟩ :=
      labelled.recovers fewLabel rfl c sees
    have fewBody : (.sign 1 .braceOpen :: pieces).length + more.length ≤ depth := by
      simp only [List.length_cons]
      omega
    obtain ⟨values, c', yieldsBody, sees', sameBody⟩ :=
      Block.recovers_inBraces closed bodySpan fewBody ends colon.advance atColon.advance
    refine ⟨_, c', Parser.yields_switchCase.mpr ⟨found, colon, yieldsLabel, atColon.kind, values, c',
      yieldsBody, rfl, rfl⟩, sees', ?_⟩
    rw [SwitchCase.rebuild, Block.rebuild, Statement.rebuilds_eq_map, sameLabel, sameBody]
    rfl

/-! ### Cases in a row -/

/-- The pieces of cases one after the other. -/
def SwitchCase.AllPrint : List SwitchCase → List Piece → Prop
  | [], pieces => pieces = []
  | first :: rest, pieces =>
      ∃ front back, first.Prints front ∧ AllPrint rest back ∧ pieces = front ++ back

namespace SwitchCase.AllPrint

variable {depth bound : Nat} {cases : List SwitchCase} {pieces more : List Piece}

theorem rendered (printed : AllPrint cases pieces) :
    render pieces = (String.join (SwitchCase.texts cases)).toList := by
  induction cases generalizing pieces with
  | nil =>
      rw [show pieces = [] from printed]
      rfl
  | cons first rest ih =>
      obtain ⟨front, back, prints, others, rfl⟩ := printed
      rw [Lexer.render_append, prints.rendered, ih others]
      simp [SwitchCase.texts]

theorem lexes (printed : AllPrint cases pieces) (afterOperand : Bool) (following : List Char) :
    Lexes afterOperand pieces following := by
  induction cases generalizing pieces afterOperand with
  | nil =>
      rw [show pieces = [] from printed]
      trivial
  | cons first rest ih =>
      obtain ⟨front, back, prints, others, rfl⟩ := printed
      exact Lexer.lexes_append.mpr ⟨prints.lexes _ _, ih others _⟩

/-- Before a closing brace every case is followed by what ends its statements. -/
theorem ends (printed : AllPrint cases pieces) (closes : headKind more = .symbol .braceClose) :
    Parser.endsCase (headKind (pieces ++ more)) = true := by
  cases cases with
  | nil =>
      rw [show pieces = [] from printed, List.nil_append, closes]
      rfl
  | cons first rest =>
      obtain ⟨front, back, prints, -, rfl⟩ := printed
      rw [List.append_assoc]
      rcases prints.opens (back ++ more) with isCase | isDefault
      · rw [isCase]
        rfl
      · rw [isDefault]
        rfl

/-- **Cases are read back** up to the closing brace. -/
theorem recovers (printed : AllPrint cases pieces) (few : pieces.length + more.length ≤ depth + 1)
    (closes : headKind more = .symbol .braceClose) (enough : pieces.length ≤ bound) :
    (Parser.repeatedUntil .braceClose (Parser.switchCase (Parser.innerBelow depth)) bound).Recovers
      (List.map (SwitchCase.rebuild .plain)) pieces more (cases.map (·.reread)) := by
  induction cases generalizing pieces bound with
  | nil =>
      intro c sees
      rw [show pieces = [] from printed, List.nil_append] at sees
      refine ⟨[], c, ?_, sees, rfl⟩
      cases bound with
      | zero => rfl
      | succ bound =>
          rw [Parser.yields_repeatedUntil, if_pos (sees.kind.trans closes)]
          exact ⟨rfl, rfl⟩
  | cons first rest ih =>
      intro c sees
      obtain ⟨front, back, prints, others, rfl⟩ := printed
      rw [List.length_append] at few enough
      rw [List.append_assoc] at sees
      have opens := prints.opens (back ++ more)
      have some : 0 < front.length := by
        refine List.length_pos_iff.mpr ?_
        rintro rfl
        have := prints.rendered
        cases this
      obtain ⟨bound, rfl⟩ := Nat.exists_eq_succ_of_ne_zero (Nat.ne_of_gt (by omega : 0 < bound))
      have fewFirst : front.length + (back ++ more).length ≤ depth + 1 := by
        rw [List.length_append]
        omega
      obtain ⟨value, middle, yields, sees', same⟩ :=
        prints.recovers fewFirst (others.ends closes) c sees
      have fewRest : back.length + more.length ≤ depth + 1 := by omega
      have enoughRest : back.length ≤ bound := by omega
      obtain ⟨values, c', yields', sees'', sameRest⟩ := ih others fewRest enoughRest middle sees'
      refine ⟨value :: values, c', Parser.yields_repeatedUntil.mpr ?_, sees'', ?_⟩
      · rw [if_neg]
        · exact ⟨value, middle, yields, values, yields', rfl⟩
        · rw [sees.kind]
          rcases opens with isCase | isDefault
          · rw [isCase]
            exact nofun
          · rw [isDefault]
            exact nofun
      · rw [List.map_cons, same, sameRest, List.map_cons]

end SwitchCase.AllPrint

/-! ### Switch statements -/

/-- **A `switch` statement is printed** when its subject and its cases are. -/
theorem Statement.Prints.switch {gap : Nat} {subject : Expr} {cases : List SwitchCase}
    {front pieces : List Piece} (headed : Expr.Prints 1 subject front) (fits : subject.FitsHeader)
    (printed : SwitchCase.AllPrint cases pieces) (span : Span) :
    Statement.Prints gap (.switch ⟨span, subject, cases⟩)
      (.word gap Keyword.switch_.spelling ::
        (front ++ .sign 1 .braceOpen :: (pieces ++ [.sign 1 .braceClose]))) := by
  have braces : Printed (· == .symbol .braceOpen) 1
      ("\x7b" ++ (String.join (SwitchCase.texts cases) ++ " \x7d"))
      (.sign 1 .braceOpen :: (pieces ++ [.sign 1 .braceClose])) := by
    refine .braces ?_ fun {following} => ?_
    · rw [Lexer.render_append, printed.rendered]
      simp [Piece.sign, Piece.spaced, Symbol.spelling]
    · exact Lexer.lexes_append.mpr ⟨printed.lexes false _, (Lexer.lexes_solid rfl).mpr trivial⟩
  refine after_keyword (by decide) ?_ (headed.printed.append braces)
    fun depth more few ends c isSwitch sees => ?_
  · simp [Statement.text, Switch.text, Keyword.spelling, ← String.toList_inj]
  · simp only [List.length_append, List.length_cons, List.length_nil] at few
    rw [List.append_assoc, List.cons_append, List.append_assoc] at sees
    have fewSubject : front.length +
        (.sign 1 .braceOpen :: (pieces ++ ([.sign 1 .braceClose] ++ more))).length ≤ depth + 1 := by
      simp only [List.length_append, List.length_cons, List.length_nil]
      omega
    obtain ⟨found, opening, readSubject, atBrace, sameSubject⟩ := headed.whole fewSubject
      (.inr fits) (stops_of_endsCondition rfl) _ sees
    have fewCases : pieces.length + (Piece.sign 1 .braceClose :: more).length ≤ depth + 1 := by
      rw [List.length_cons]
      omega
    have enough : pieces.length ≤ depth + 1 := by omega
    obtain ⟨values, closing, readCases, atEnd, sameCases⟩ :=
      printed.recovers fewCases rfl enough _ atBrace.advance
    refine ⟨.switch ⟨closing.advance.spanFrom c.next.span.start, found, values⟩, closing.advance,
      Parser.yields_statement.mpr ?_, atEnd.advance, ?_⟩
    · dsimp only
      rw [isSwitch]
      exact ⟨_, Parser.yields_switch.mpr ⟨isSwitch, found, opening, readSubject, atBrace.kind, values,
        closing, readCases, atEnd.kind, rfl, rfl⟩, rfl⟩
    · rw [rebuild, Switch.rebuild, SwitchCase.rebuilds_eq_map, sameSubject, sameCases]
      exact congrArg Statement.switch Switch.reread_mk.symm

end ResultBuilder.Syntax
