import ResultBuilder.Proofs.Syntax.Nodes
import ResultBuilder.Proofs.Syntax.Tiling

/-!
# What parsed nodes are like

Four properties of the nodes of a parsed source. A node is placed when it and its children stand
where they should; it is legible when its parts are words of the language and bind as tightly as the
node needs them to; it is spelled when its braces or its keyword are where its span starts or ends;
it is filled when it takes some of the source.

Main statements: `Cursor.IsSound.isWord_of_mem` and its companions, which say what the texts of the
tokens of a source are like.
-/

namespace ResultBuilder.Syntax

open Lexer (Piece render Lexes Opens startsName continuesName wordKind stringContent)

/-! ### Places -/

/-- **A placed node**: it starts and ends between characters of the source, its children lie inside
it, and those of its row follow each other; a child that is not in the row stands where the node
stands. -/
structure Node.IsPlaced (source : List Char) (node : Node) : Prop where
  starts : OnBoundary source node.span.start
  stops : OnBoundary source node.span.stop
  ordered : node.span.start ≤ node.span.stop
  inside : ∀ child ∈ node.children,
    node.span.start ≤ child.span.start ∧ child.span.stop ≤ node.span.stop
  apart : node.row.Pairwise fun first second => first.span.stop ≤ second.span.start
  shown : ∀ child ∈ node.children, child ∈ node.row ∨ child.span = node.span

/-! ### Words -/

/-- **A word** of a kind: what the lexer reads as a name, a keyword or the underscore. -/
def IsWord (kind : TokenKind) (text : String) : Prop :=
  ∃ first rest, startsName first = true ∧ (∀ c ∈ rest, continuesName c = true) ∧
    text = String.ofList (first :: rest) ∧ wordKind text = kind

/-- **A name**: a word that is no keyword. -/
abbrev IsName (text : String) : Prop :=
  IsWord .identifier text

/-- Whether a text starts with a digit, as the number of an element of a tuple does. -/
def startsWithDigit (text : String) : Bool :=
  text.toList.head?.any Char.isDigit

/-- **A text that can stand between quotes.** -/
def IsQuotable (text : String) : Prop :=
  ∀ other, stringContent (.text 0) (text.toList ++ '"' :: other) = (text.toList, .quote)

/-- The name of a closure parameter. -/
def IsParamName (text : String) : Prop :=
  IsName text ∨ text = "_"

/-! ### Types -/

/-- **A legible type** is named by names with dots between them, the first of which does not mean
that the type is only known by a bound; a tuple does not have one element. -/
def DeclaredType.IsLegible : DeclaredType → Prop
  | .named _ name _ => ∃ first rest, IsName first ∧ first ≠ "some" ∧ (∀ part ∈ rest, IsName part) ∧
      name = String.intercalate "." (first :: rest)
  | .tuple _ elements => elements.length ≠ 1
  | .optional _ _ | .function _ _ _ | .someOf _ _ => True

/-! ### Expressions -/

namespace Expr

/-- **How tightly an expression binds**: an assignment the least, then the conditional operator, the
binary operators by precedence and the operators before an operand. -/
def rank : Expr → Nat
  | .assign _ _ _ _ => 0
  | .ternary _ _ _ _ => 1
  | .binary _ _ op _ => op.precedence + 1
  | .unary _ _ _ => 8
  | .literal _ _ | .ident _ _ | .implicitMember _ _ | .member _ _ _ | .call _ _ _ _
  | .subscript _ _ _ | .tuple _ _ | .paren _ _ | .array _ _ | .closure _ | .postfixed _ _ _ => 9

/-- Whether an expression can stand in front of the braces of a statement: no call in it that is
outside all brackets has a closure after its arguments. -/
def FitsHeader : Expr → Prop
  | .member _ base _ | .subscript _ base _ => base.FitsHeader
  | .call _ callee _ trailing => trailing.isNone ∧ callee.FitsHeader
  | .unary _ _ operand | .postfixed _ operand _ => operand.FitsHeader
  | .binary _ left _ right => left.FitsHeader ∧ right.FitsHeader
  | .ternary _ condition thenValue elseValue =>
      condition.FitsHeader ∧ thenValue.FitsHeader ∧ elseValue.FitsHeader
  | .assign _ target _ value => target.FitsHeader ∧ value.FitsHeader
  | .literal _ _ | .ident _ _ | .implicitMember _ _ | .tuple _ _ | .paren _ _ | .array _ _
  | .closure _ => True

/-- **A legible expression**: its words are words of the language, and its operands bind at least as
tightly as its operator needs. -/
def IsLegible : Expr → Prop
  | .literal _ (.integer value) => value ≤ Parser.greatestInteger
  | .literal _ (.string content) => IsQuotable content
  | .literal _ (.float _) | .literal _ (.boolean _) | .literal _ .nil => True
  | .ident _ name => IsName name ∨ name = "self" ∨ name = "_"
  | .implicitMember _ name => IsName name.text
  | .member _ base name =>
      base.rank = 9 ∧ (IsName name.text ∨ name.text = "self" ∨ startsWithDigit name.text)
  | .call _ callee _ _ => callee.rank = 9
  | .subscript _ base _ => base.rank = 9
  | .tuple _ elements => ∀ span value, elements ≠ [⟨span, none, value⟩]
  | .paren _ _ | .array _ _ | .closure _ => True
  | .unary _ _ operand => 8 ≤ operand.rank
  | .binary _ left op right => op.precedence + 1 ≤ left.rank ∧ op.precedence + 2 ≤ right.rank
  | .ternary _ condition thenValue elseValue =>
      2 ≤ condition.rank ∧ 1 ≤ thenValue.rank ∧ 1 ≤ elseValue.rank
  | .assign _ target _ _ => 1 ≤ target.rank
  | .postfixed _ operand _ => operand.rank = 9 ∧ ∀ span, operand ≠ .ident span "_"

end Expr

/-! ### Patterns -/

/-- A token without its place. -/
def Token.bare (token : Token) : Token :=
  { token with span := .point 0, newlineBefore := false }

/-- The token of a lexeme without its place. -/
def Lexer.Piece.bareToken (piece : Piece) : Token :=
  ⟨piece.lexeme.kind, .point 0, piece.lexeme.text, false⟩

/-- **A legible pattern** before stops: its text is cut into the tokens that what is known of the
pattern was read from, and the parser takes just these as the pattern, whichever stop comes next. -/
def Pattern.IsLegible (stops : TokenKind → Bool) (pattern : Pattern) : Prop :=
  ∃ pieces : List Piece,
    let tokens := pieces.map Piece.bareToken
    pattern.text = String.ofList (render pieces) ∧
      (∃ piece ∈ pieces.head?, piece.gap = []) ∧ Lexes false pieces [' '] ∧
      (∀ stop, stops stop = true →
        Parser.patternTokens stops 0 (tokens ++ [⟨stop, .point 0, "", false⟩]) = tokens) ∧
      pattern.caseName = Parser.namedCase tokens ∧
      pattern.isWildcard = Parser.isWildcard tokens ∧
      pattern.isRefutable = Parser.isRefutable tokens

/-- Whether a token ends a pattern of a case. -/
def endsCasePattern (kind : TokenKind) : Bool :=
  kind == .symbol .colon || kind == .symbol .comma

/-! ### Statements -/

/-- **A legible condition** is one before a brace. -/
def Condition.IsLegible : Condition → Prop
  | .expression node => node.FitsHeader
  | .binding _ _ pattern value => pattern.IsLegible (· == .symbol .assign) ∧ value.FitsHeader

/-- **A legible loop** has a header that does not take the braces of its body. -/
def Loop.IsLegible (loop : Loop) : Prop :=
  loop.header.FitsHeader ∧
    ∀ pattern, loop.form = .forIn pattern → pattern.IsLegible (· == .keyword .in_)

/-- **A legible case** has at least one pattern, unless it is the default. -/
def SwitchCase.IsLegible (switchCase : SwitchCase) : Prop :=
  ∀ patterns, switchCase.label = .patterns patterns →
    patterns ≠ [] ∧ ∀ pattern ∈ patterns, pattern.IsLegible endsCasePattern

/-- **A legible statement** has at least one condition, and braces and quotes that are not mistaken. -/
def Statement.IsLegible : Statement → Prop
  | .conditional node => node.conditions ≠ []
  | .switch node => node.subject.FitsHeader
  | .loop node => node.IsLegible
  | .directive node => IsQuotable node.message
  | .expression _ | .doBlock _ _ | .returning _ _ _ | .fallthrough _ | .jump _ _
  | .declaration _ => True

/-- **A legible node.** The parts of declarations other than types, cases of enums and bodies are left
out: no text is read back that they occur in. -/
def Node.IsLegible : Node → Prop
  | .type node => node.IsLegible
  | .expression node => node.IsLegible
  | .argument node => ∀ label ∈ node.label, IsName label.text
  | .closure node => ∀ param ∈ node.params, IsParamName param.text
  | .condition node => node.IsLegible
  | .statement node => node.IsLegible
  | .switchCase node => node.IsLegible
  | .enumCase node => IsName node.name.text
  | .name _ | .mark _ | .attribute _ | .generic _ | .param _ | .pattern _ | .block _
  | .declaration _ => True

/-! ### Braces and keywords -/

/-- A character stands at an offset of a text. -/
def StandsAt (text : List Char) (c : Char) (offset : Nat) : Prop :=
  ∃ front back, text = front ++ c :: back ∧ Source.utf8Length front = offset

/-- A word is what stands in a place of a text. -/
def StandsIn (text : List Char) (word : String) (place : Span) : Prop :=
  ∃ front back, text = front ++ (word.toList ++ back) ∧ Source.utf8Length front = place.start ∧
    Source.utf8Length (front ++ word.toList) = place.stop

/-- **A spelled node** of a source: a closure starts with the opening brace, a `switch` statement ends
with the closing one, the keyword of a `return` statement is the word, and a variable with a first
value has no braces. Nothing is asked of other nodes, the signs of which no diagnostic is about. -/
def Node.IsSpelled (source : List Char) : Node → Prop
  | .closure node => StandsAt source '{' node.span.start
  | .statement (.switch node) =>
      ∃ offset, node.span.stop = offset + 1 ∧ StandsAt source '}' offset
  | .statement (.returning _ keyword _) => StandsIn source "return" keyword
  | .declaration (.variable node) => node.value = none ∨ node.body = none
  | _ => True

/-- **A node that takes some of the source**. Of nodes other than names, expressions and closures
nothing is asked: the body of a case can be empty. -/
def Node.IsFilled : Node → Prop
  | .name node => node.span.start < node.span.stop
  | .expression node => node.span.start < node.span.stop
  | .closure node => node.span.start < node.span.stop
  | _ => True

/-- **A node as it should be**: placed, legible, spelled and filled. -/
structure Node.IsSound (source : List Char) (node : Node) : Prop where
  placed : node.IsPlaced source
  legible : node.IsLegible
  spelled : node.IsSpelled source
  filled : node.IsFilled

/-- What is within a placed node lies inside it. -/
theorem Node.Within.inside {source : List Char} {inner node : Node} (within : inner.Within node)
    (sound : node.Everywhere (·.IsSound source)) :
    node.span.start ≤ inner.span.start ∧ inner.span.stop ≤ node.span.stop := by
  induction within with
  | self => exact ⟨Nat.le_refl _, Nat.le_refl _⟩
  | child isChild _ ih =>
      obtain ⟨starts, stops⟩ := sound.here.placed.inside _ isChild
      obtain ⟨startsDeeper, stopsDeeper⟩ := ih (sound.child isChild)
      exact ⟨Nat.le_trans starts startsDeeper, Nat.le_trans stopsDeeper stops⟩

/-! ### The texts of tokens -/

/-- The kinds of tokens that are read as words. -/
def TokenKind.isWord : TokenKind → Bool
  | .identifier | .keyword _ | .symbol .underscore => true
  | _ => false

/-- A word is of one of the kinds of words. -/
theorem Lexer.isWord_kind_word (first : Char) (rest : List Char) :
    (Lexer.word first rest).kind.isWord = true := by
  simp only [Lexer.word, wordKind]
  split
  · rfl
  · split <;> rfl

/-- A number is of one of the kinds of numbers. -/
theorem Lexer.kind_number (text : List Char) :
    (Lexer.number text).kind = .integer ∨ (Lexer.number text).kind = .float := by
  by_cases point : GoesOnAsFloat (text.dropWhile continuesNumber)
  · obtain ⟨next, more, point, isDigit⟩ := point
    rw [number_of_float point isDigit]
    exact .inr rfl
  · rw [number_of_integer point]
    exact .inl rfl

namespace Lexer.Opens

variable {attached : Bool} {text : List Char} {found : Lexer.Lexeme}

/-- A name, a keyword or an underscore that is found is a word. -/
theorem isWord (opens : Opens attached text found) (wordlike : found.kind.isWord = true) :
    IsWord found.kind found.text := by
  cases opens with
  | @word first rest starts =>
      exact ⟨first, _, starts, forall_mem_takeWhile rest, rfl, rfl⟩
  | number noName digit =>
      rcases kind_number _ with kind | kind <;> rw [kind] at wordlike <;> cases wordlike
  | string closed => cases wordlike
  | directive named => cases wordlike
  | sign noName noDigit noQuote noDirective read =>
      obtain ⟨sign, isFirst, rfl⟩ := Option.map_eq_some_iff.mp read
      have listed := List.mem_of_find?_eq_some isFirst
      cases sign <;> first | exact absurd listed (by decide) | cases wordlike

/-- The text of a number starts with a digit. -/
theorem startsWithDigit (opens : Opens attached text found) (isNumber : found.kind = .integer) :
    startsWithDigit found.text = true := by
  cases opens with
  | @word first rest starts =>
      have := isWord_kind_word first rest
      rw [isNumber] at this
      cases this
  | @number first rest noName digit =>
      have noUnderscore : first ≠ '_' := by
        rintro rfl
        exact absurd digit (by decide)
      have continues : continuesNumber first = true := by simp [continuesNumber, digit]
      by_cases point : GoesOnAsFloat ((first :: rest).dropWhile continuesNumber)
      · obtain ⟨next, more, point, isDigit⟩ := point
        rw [number_of_float point isDigit] at isNumber
        cases isNumber
      · simp [number_of_integer point, digitsLexeme, Syntax.startsWithDigit,
          List.takeWhile_cons_of_pos continues, noUnderscore, digit]
  | string closed => cases isNumber
  | directive named => cases isNumber
  | sign noName noDigit noQuote noDirective read =>
      obtain ⟨sign, after, rfl, -⟩ := symbol?_eq_some read
      cases isNumber

/-- The text of a string can stand between quotes. -/
theorem isQuotable (opens : Opens attached text found) (isString : found.kind = .string) :
    IsQuotable found.text := by
  cases opens with
  | @word first rest starts =>
      have := isWord_kind_word first rest
      rw [isString] at this
      cases this
  | number noName digit =>
      rcases kind_number _ with kind | kind <;> rw [kind] at isString <;> cases isString
  | string closed =>
      obtain ⟨-, -, again⟩ := stringContent_append closed
      simpa [IsQuotable] using again
  | directive named => cases isString
  | sign noName noDigit noQuote noDirective read =>
      obtain ⟨sign, after, rfl, -⟩ := symbol?_eq_some read
      cases isString

/-- A sign fits where it is found. -/
theorem fits {sign : Symbol} (opens : Opens attached text found) (isSign : found.kind = .symbol sign) :
    sign.fits attached = true := by
  cases opens with
  | @word first rest starts =>
      have := isWord_kind_word first rest
      rw [isSign] at this
      cases sign <;> first | rfl | cases this
  | number noName digit =>
      rcases kind_number _ with kind | kind <;> rw [kind] at isSign <;> cases isSign
  | string closed => cases isSign
  | directive named => cases isSign
  | sign noName noDigit noQuote noDirective read =>
      obtain ⟨sign, after, rfl, fits, -⟩ := symbol?_eq_some read
      cases isSign
      exact fits

/-- A sign takes its spelling. -/
theorem characters_of_symbol {sign : Symbol} (opens : Opens attached text found)
    (isSign : found.kind = .symbol sign) : found.characters = sign.spelling.toList := by
  cases opens with
  | @word first rest starts =>
      -- the only sign that is read as a word is the underscore
      simp only [Lexer.word, wordKind] at isSign ⊢
      split at isSign
      · next same =>
          cases isSign
          rw [← String.toList_ofList (l := first :: _), beq_iff_eq.mp same]
          rfl
      · split at isSign <;> cases isSign
  | number noName digit =>
      rcases kind_number _ with kind | kind <;> rw [kind] at isSign <;> cases isSign
  | string closed => cases isSign
  | directive named => cases isSign
  | sign noName noDigit noQuote noDirective read =>
      obtain ⟨sign, after, rfl, -⟩ := symbol?_eq_some read
      cases isSign
      rfl

end Lexer.Opens

theorem eq_underscore_of_isWord {text : String} (isWord : IsWord (.symbol .underscore) text) :
    text = "_" := by
  obtain ⟨first, rest, -, -, -, kind⟩ := isWord
  unfold wordKind at kind
  split at kind
  · next same => exact beq_iff_eq.mp same
  · split at kind <;> cases kind

theorem eq_spelling_of_isWord {text : String} {word : Keyword} (isWord : IsWord (.keyword word) text) :
    text = word.spelling := by
  obtain ⟨first, rest, -, -, -, kind⟩ := isWord
  unfold wordKind at kind
  split at kind
  · cases kind
  · split at kind
    · next found =>
        cases kind
        exact (Keyword.spelling_of_ofSpelling? found).symm
    · cases kind

/-- What is cut as the lexer cuts it has the lexemes that the lexer finds. -/
theorem Lexer.Lexes.opens_of_mem {afterOperand : Bool} {piece : Piece} {pieces : List Piece}
    {following : List Char} (lexes : Lexes afterOperand pieces following) (member : piece ∈ pieces) :
    ∃ attached text, Opens attached text piece.lexeme := by
  induction pieces generalizing afterOperand with
  | nil => cases member
  | cons first pieces ih =>
      rcases List.mem_cons.mp member with rfl | member
      · exact ⟨_, _, lexes.2.1⟩
      · exact ih lexes.2.2 member

/-- The tokens of pieces are their lexemes and the end of the file. -/
theorem Lexer.eq_of_mem_tokensFrom {final : List Char} {offset : Nat} {pieces : List Piece}
    {token : Token} (member : token ∈ Lexer.tokensFrom final offset pieces) :
    token.kind = .endOfFile ∨
      ∃ piece ∈ pieces, token.kind = piece.lexeme.kind ∧ token.text = piece.lexeme.text := by
  induction pieces generalizing offset with
  | nil => exact .inl (by rw [List.mem_singleton.mp member]; rfl)
  | cons first pieces ih =>
      rcases List.mem_cons.mp member with rfl | member
      · exact .inr ⟨first, List.mem_cons_self, rfl, rfl⟩
      · exact (ih member).imp_right fun ⟨piece, inside, same⟩ =>
          ⟨piece, List.mem_cons_of_mem _ inside, same⟩

namespace Cursor.IsSound

variable {c : Cursor} {token : Token}

/-- A token that is left was found by the lexer. -/
theorem opens_of_mem (sound : c.IsSound) (member : token ∈ c.rest)
    (notEnd : token.kind ≠ .endOfFile) :
    ∃ attached text found, Opens attached text found ∧ token.kind = found.kind ∧
      token.text = found.text := by
  obtain ⟨afterOperand, pieces, final, faces⟩ := sound
  rw [faces.rest] at member
  rcases Lexer.eq_of_mem_tokensFrom member with isEnd | ⟨piece, inside, kind, text⟩
  · exact absurd isEnd notEnd
  · obtain ⟨attached, text', opens⟩ := faces.lexes.opens_of_mem inside
    exact ⟨attached, text', _, opens, kind, text⟩

theorem next_mem (sound : c.IsSound) : c.next ∈ c.rest := by
  have some := sound.length_pos
  unfold next
  cases left : c.rest with
  | nil => simp [left] at some
  | cons first rest => exact List.mem_cons_self

/-- **The words of a source** are words. -/
theorem isWord_of_mem (sound : c.IsSound) (member : token ∈ c.rest)
    (wordlike : token.kind.isWord = true) : IsWord token.kind token.text := by
  obtain ⟨_, _, found, opens, kind, text⟩ := sound.opens_of_mem member
    (fun isEnd => by rw [isEnd] at wordlike; cases wordlike)
  rw [kind, text]
  exact opens.isWord (kind ▸ wordlike)

theorem isName_of_mem (sound : c.IsSound) (member : token ∈ c.rest)
    (isName : token.kind = .identifier) : IsName token.text := by
  have := sound.isWord_of_mem member (by rw [isName]; rfl)
  rwa [isName] at this

theorem isName_next (sound : c.IsSound) (isName : c.next.kind = .identifier) : IsName c.next.text :=
  sound.isName_of_mem sound.next_mem isName

theorem text_of_underscore (sound : c.IsSound) (member : token ∈ c.rest)
    (isUnderscore : token.kind = .symbol .underscore) : token.text = "_" := by
  have := sound.isWord_of_mem member (by rw [isUnderscore]; rfl)
  rw [isUnderscore] at this
  exact eq_underscore_of_isWord this

theorem text_of_keyword {word : Keyword} (sound : c.IsSound) (member : token ∈ c.rest)
    (isKeyword : token.kind = .keyword word) : token.text = word.spelling := by
  have := sound.isWord_of_mem member (by rw [isKeyword]; rfl)
  rw [isKeyword] at this
  exact eq_spelling_of_isWord this

/-- The text of a number starts with a digit. -/
theorem startsWithDigit_next (sound : c.IsSound) (isNumber : c.next.kind = .integer) :
    startsWithDigit c.next.text = true := by
  obtain ⟨_, _, found, opens, kind, text⟩ := sound.opens_of_mem sound.next_mem
    (fun isEnd => by rw [isEnd] at isNumber; cases isNumber)
  rw [text]
  exact opens.startsWithDigit (kind ▸ isNumber)

/-- The text of a string can stand between quotes. -/
theorem isQuotable_next (sound : c.IsSound) (isString : c.next.kind = .string) :
    IsQuotable c.next.text := by
  obtain ⟨_, _, found, opens, kind, text⟩ := sound.opens_of_mem sound.next_mem
    (fun isEnd => by rw [isEnd] at isString; cases isString)
  rw [text]
  exact opens.isQuotable (kind ▸ isString)

/-- A sign of one character stands where its token starts. -/
theorem standsAt_next {sign : Symbol} {character : Char} (sound : c.IsSound)
    (isSign : c.next.kind = .symbol sign) (single : sign.spelling.toList = [character]) :
    StandsAt c.source character c.next.span.start ∧
      c.next.span.stop = c.next.span.start + character.utf8Size := by
  obtain ⟨afterOperand, pieces, final, faces⟩ := sound
  cases pieces with
  | nil =>
      rw [faces.next_nil] at isSign
      cases isSign
  | cons piece pieces =>
      obtain ⟨front, cut, length⟩ := faces.source
      rw [faces.next_cons] at isSign ⊢
      have taken : piece.lexeme.characters = [character] := by
        rw [faces.lexes.2.1.characters_of_symbol isSign, single]
      refine ⟨⟨front ++ piece.gap, render pieces ++ final, ?_, ?_⟩, ?_⟩
      · simp [cut, taken]
      · simp [Piece.token, length]
      · simp [Piece.token, Piece.characters, taken, Source.utf8Length, Nat.add_assoc]

/-- A keyword stands where its token does. -/
theorem standsIn_next {word : Keyword} (sound : c.IsSound)
    (isKeyword : c.next.kind = .keyword word) :
    StandsIn c.source word.spelling c.next.span := by
  have text := sound.text_of_keyword sound.next_mem isKeyword
  obtain ⟨afterOperand, pieces, final, faces⟩ := sound
  cases pieces with
  | nil =>
      rw [faces.next_nil] at isKeyword
      cases isKeyword
  | cons piece pieces =>
      obtain ⟨front, cut, length⟩ := faces.source
      rw [faces.next_cons] at isKeyword text ⊢
      have taken : piece.lexeme.characters = word.spelling.toList := by
        have spells := faces.lexes.2.1.spells
        rw [show piece.lexeme.kind = .keyword word from isKeyword,
          show piece.lexeme.text = word.spelling from text] at spells
        exact spells.symm
      refine ⟨front ++ piece.gap, render pieces ++ final, ?_, ?_, ?_⟩
      · simp [cut, taken]
      · simp [Piece.token, length]
      · simp [Piece.token, Piece.characters, taken, length]

/-- Directly after a token that ends no operand no mark is read as one on an operand. -/
theorem not_attached (sound : c.IsSound) (notEnd : c.next.kind ≠ .endOfFile)
    (noOperand : c.next.kind.endsOperand = false) :
    c.advance.next.kind ≠ .symbol .attachedQuestion ∧
      c.advance.next.kind ≠ .symbol .attachedBang := by
  obtain ⟨afterOperand, pieces, final, faces⟩ := sound
  match pieces with
  | [] => exact absurd (by rw [faces.next_nil]; rfl) notEnd
  | [piece] =>
      rw [faces.advance_cons, faces.skip_one.next_nil]
      exact ⟨nofun, nofun⟩
  | piece :: second :: pieces =>
      have opens := faces.skip_one.lexes.2.1
      rw [faces.next_cons] at noOperand
      rw [show piece.lexeme.kind.endsOperand = false from noOperand, Bool.false_and] at opens
      rw [faces.advance_cons, faces.skip_one.next_cons]
      exact ⟨fun isSign => Bool.false_ne_true (opens.fits isSign),
        fun isSign => Bool.false_ne_true (opens.fits isSign)⟩

end Cursor.IsSound

end ResultBuilder.Syntax
