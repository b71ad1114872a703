import ResultBuilder.Syntax.Name
import ResultBuilder.Syntax.SyntaxError

/-!
# Reading tokens

A parser reads tokens from the front of a list and either goes on with the rest or fails. The end
of the file is never taken away, so that there is always a next token.
-/

namespace ResultBuilder.Syntax

/-- What a parser still has to read. -/
structure Cursor where
  /-- The characters of the whole source. -/
  source : List Char
  /-- The tokens that are left. -/
  rest : List Token
  /-- Where the last token that was taken ends. -/
  lastEnd : Nat
  deriving Repr

namespace Cursor

/-- The cursor before the first token of a source. -/
def atStart (source : List Char) (tokens : List Token) : Cursor :=
  ⟨source, tokens, 0⟩

/-- The end of the file, for a list of tokens that lacks it. -/
def finalToken (cursor : Cursor) : Token :=
  ⟨.endOfFile, .point cursor.lastEnd, "", false⟩

/-- The next token. -/
def next (cursor : Cursor) : Token :=
  cursor.rest.headD cursor.finalToken

/-- The token after the next, which is the end of the file when that is next. -/
def second (cursor : Cursor) : Token :=
  match cursor.rest with
  | _ :: token :: _ => token
  | _ => cursor.next

/-- The cursor after a number of tokens. -/
def skip (cursor : Cursor) (count : Nat) : Cursor :=
  { cursor with
    rest := cursor.rest.drop count
    lastEnd := ((cursor.rest.take count).getLast?.map (·.span.stop)).getD cursor.lastEnd }

/-- The cursor after the next token, unless that is the end of the file. -/
def advance (cursor : Cursor) : Cursor :=
  if cursor.next.kind == .endOfFile then cursor else cursor.skip 1

/-- Skipping only takes tokens from the front. -/
theorem skip_rest (cursor : Cursor) (count : Nat) :
    (cursor.skip count).rest = cursor.rest.drop count := rfl

/-- Reading on never leaves more tokens than before. -/
theorem length_advance_le (cursor : Cursor) :
    cursor.advance.rest.length ≤ cursor.rest.length := by
  unfold advance
  split
  · exact Nat.le_refl _
  · simp [skip]

end Cursor

/-- A parser reads from a cursor and leaves one, or fails. -/
abbrev Parser := StateT Cursor (Except SyntaxError)

namespace Parser

/-- The next token. -/
def peek : Parser Token := do
  return (← get).next

/-- Whether the next token is of a kind. -/
def isAt (kind : TokenKind) : Parser Bool := do
  return (← peek).kind == kind

/-- Whether the next token is a sign. -/
def isAtSymbol (sign : Symbol) : Parser Bool :=
  isAt (.symbol sign)

/-- Takes the next token. -/
def take : Parser Token := do
  let cursor ← get
  set cursor.advance
  return cursor.next

/-- Takes a number of tokens. -/
def takeMany (count : Nat) : Parser (List Token) := do
  let cursor ← get
  set (cursor.skip count)
  return cursor.rest.take count

/-- Takes the next token if it is of a kind, and tells whether it was. -/
def eat (kind : TokenKind) : Parser Bool := do
  if ← isAt kind then
    let _ ← take
    return true
  else
    return false

/-- Takes the next token if it is a sign, and tells whether it was. -/
def eatSymbol (sign : Symbol) : Parser Bool :=
  eat (.symbol sign)

/-- Fails at the next token, which is not what was expected. -/
def unexpected (expected : String) : Parser α := do
  let token ← peek
  throw (.unexpectedToken expected token.kind token.span)

/-- Takes the next token, which has to be of a kind. -/
def expect (kind : TokenKind) : Parser Token := do
  if ← isAt kind then take else unexpected kind.shown

/-- Takes the next token, which has to be a sign. -/
def expectSymbol (sign : Symbol) : Parser Token :=
  expect (.symbol sign)

/-- Takes the next token, which has to be a keyword. -/
def expectKeyword (word : Keyword) : Parser Token :=
  expect (.keyword word)

/-- Takes a name. -/
def identifier : Parser Name := do
  if ← isAt .identifier then
    let token ← take
    return ⟨token.span, token.text⟩
  else
    unexpected "identifier"

/-- Takes a name or an underscore. -/
def nameOrUnderscore : Parser Name := do
  if ← isAtSymbol .underscore then
    let token ← take
    return ⟨token.span, "_"⟩
  else
    identifier

/-- Where the next token starts. -/
def here : Parser Nat := do
  return (← peek).span.start

/-- The span from an offset to the end of the last token taken. -/
def spanFrom (start : Nat) : Parser Span := do
  return ⟨start, max (← get).lastEnd start⟩

end Parser

end ResultBuilder.Syntax
