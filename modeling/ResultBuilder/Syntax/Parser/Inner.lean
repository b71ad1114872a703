import ResultBuilder.Syntax.Parser.Cursor
import ResultBuilder.Syntax.Tree

/-!
# Parsing nested constructs

Constructs of the language contain each other. The parser of a construct is written in terms of the
parsers for what is one level further in, which are collected in an `Inner`. What is further in is
only read after at least one token has been taken, so as many levels as there are tokens are enough;
the same number bounds the length of every list.
-/

namespace ResultBuilder.Syntax

/-- Where an expression stands. This decides whether a line break can end it and whether a brace
after it belongs to it. -/
inductive Region where
  /-- Directly between braces, or at the top. -/
  | statement
  /-- In front of the braces of a statement. -/
  | header
  /-- Between parentheses or brackets. -/
  | delimited
  deriving DecidableEq, Repr

namespace Region

/-- Whether a line break can end an expression. -/
def breaksLines : Region → Bool
  | .statement | .header => true
  | .delimited => false

/-- Whether a brace after an operand opens a closure. -/
def allowsTrailing : Region → Bool
  | .statement | .delimited => true
  | .header => false

end Region

namespace Parser

/-- Whether the next token starts a line in a region where that matters. -/
def onNewLine (region : Region) : Parser Bool := do
  return region.breaksLines && (← peek).newlineBefore

/-- The parsers for what is one level further in, and a bound for the length of lists. -/
structure Inner where
  /-- The number of items that lists have at most. -/
  bound : Nat
  /-- A type. -/
  type : Parser DeclaredType
  /-- An expression. -/
  expression : Region → Parser Expr
  /-- An expression that is no assignment. -/
  ternary : Region → Parser Expr
  /-- Operands with operators that bind at least as tightly as a number says. -/
  binary : Region → Nat → Parser Expr
  /-- An operand with operators before it. -/
  unary : Region → Parser Expr
  /-- A statement. -/
  statement : Parser Statement
  /-- A declaration. -/
  declaration : Parser Declaration
  /-- An `if` statement. -/
  conditional : Parser Conditional

/-- The parsers at the innermost level, where nothing is left to read. -/
def Inner.exhausted : Inner where
  bound := 0
  type := unexpected "type"
  expression := fun _ => unexpected "expression"
  ternary := fun _ => unexpected "expression"
  binary := fun _ _ => unexpected "expression"
  unary := fun _ => unexpected "expression"
  statement := unexpected "expression"
  declaration := unexpected "declaration"
  conditional := unexpected "expression"

/-! ### Lists -/

/-- Items with commas between them, at least one. -/
def separated (item : Parser α) : Nat → Parser (List α)
  | 0 => return []
  | bound + 1 => do
      let first ← item
      if ← eatSymbol .comma then
        return first :: (← separated item bound)
      else
        return [first]

/-- Items with commas between them up to a closing sign, which is not taken. A comma may stand
before the sign. -/
def itemsUntil (close : Symbol) (item : Parser α) : Nat → Parser (List α)
  | 0 => return []
  | bound + 1 => do
      if ← isAtSymbol close then
        return []
      else
        let first ← item
        if ← eatSymbol .comma then
          return first :: (← itemsUntil close item bound)
        else
          return [first]

/-- Items with commas between them and the closing sign after them. -/
def closedBy (close : Symbol) (item : Parser α) (bound : Nat) : Parser (List α) := do
  let items ← itemsUntil close item bound
  let _ ← expectSymbol close
  return items

/-- Items one after the other up to a closing sign, which is not taken. -/
def repeatedUntil (close : Symbol) (item : Parser α) : Nat → Parser (List α)
  | 0 => return []
  | bound + 1 => do
      if ← isAtSymbol close then
        return []
      else
        let first ← item
        return first :: (← repeatedUntil close item bound)

/-- Takes semicolons. -/
def skipSemicolons : Parser Unit := do
  let semicolons := (← get).rest.takeWhile (·.kind == .symbol .semicolon)
  let _ ← takeMany semicolons.length

/-- The end of a statement: a semicolon, a line break, or a token that no statement goes on with. -/
def endStatement : Parser Unit := do
  if ← eatSymbol .semicolon then
    return
  else
    let token ← peek
    let closes := match token.kind with
      | .symbol .braceClose | .endOfFile | .keyword .case_ | .keyword .default_ => true
      | _ => false
    if token.newlineBefore || closes then
      return
    else
      throw (.expectedStatementEnd token.span)

/-- Items that end like statements, up to a token at which the list stops. -/
def sequence (stops : TokenKind → Bool) (item : Parser α) : Nat → Parser (List α)
  | 0 => return []
  | bound + 1 => do
      skipSemicolons
      if stops (← peek).kind then
        return []
      else
        let first ← item
        endStatement
        return first :: (← sequence stops item bound)

/-- Statements up to the end of the file or a token at which the list stops. -/
def statements (inner : Inner) (stops : TokenKind → Bool) : Parser (List Statement) :=
  sequence (fun kind => kind == .endOfFile || stops kind) inner.statement inner.bound

/-- Statements between braces. -/
def block (inner : Inner) : Parser Block := do
  let start := (← expectSymbol .braceOpen).span.start
  let body ← statements inner (· == .symbol .braceClose)
  let _ ← expectSymbol .braceClose
  return ⟨← spanFrom start, body⟩

end Parser

end ResultBuilder.Syntax
