import ResultBuilder.Syntax.Parser.Declaration
import ResultBuilder.Syntax.Parser.Pattern

/-!
# Parsing statements
-/

namespace ResultBuilder.Syntax.Parser

/-- A condition of an `if` statement. -/
def condition (inner : Inner) : Parser Condition := do
  let start ← here
  let token ← peek
  match token.kind with
  | .keyword .let_ | .keyword .var_ =>
      let _ ← take
      let pattern ← pattern (· == .symbol .assign)
      let _ ← expectSymbol .assign
      let value ← expression inner .header
      return .binding (← spanFrom start) (token.kind == .keyword .var_) pattern value
  | _ => return .expression (← expression inner .header)

/-- An `if` statement. -/
def conditional (inner : Inner) : Parser Conditional := do
  let start := (← expectKeyword .if_).span.start
  let conditions ← separated (condition inner) inner.bound
  let thenBlock ← block inner
  let otherwise ← if ← eat (.keyword .else_) then
      if ← isAt (.keyword .if_) then
        some <$> Alternative.chained <$> inner.conditional
      else
        some <$> Alternative.block <$> block inner
    else
      pure none
  return ⟨← spanFrom start, conditions, thenBlock, otherwise⟩

/-- Whether a token ends the statements of a switch case. -/
def endsCase : TokenKind → Bool
  | .keyword .case_ | .keyword .default_ | .symbol .braceClose => true
  | _ => false

/-- What stands before the colon of a switch case. -/
def caseLabel (inner : Inner) : Parser CaseLabel := do
  match (← peek).kind with
  | .keyword .case_ =>
      let _ ← take
      let stops (kind : TokenKind) : Bool := kind == .symbol .colon || kind == .symbol .comma
      return .patterns (← separated (pattern stops) inner.bound)
  | .keyword .default_ =>
      let _ ← take
      return .default
  | _ => unexpected "'case' or 'default'"

/-- The span of the statements of a switch case whose colon ends at an offset. -/
def caseBodySpan (colonEnd : Nat) (body : List Statement) : Span :=
  match body.head?, body.getLast? with
  | some first, some last => first.span.merge last.span
  | _, _ => .point colonEnd

/-- A case of a `switch` statement. -/
def switchCase (inner : Inner) : Parser SwitchCase := do
  let start ← here
  let label ← caseLabel inner
  let colon ← expectSymbol .colon
  let body ← statements inner endsCase
  return ⟨← spanFrom start, label, ⟨caseBodySpan colon.span.stop body, body⟩⟩

/-- A `switch` statement. -/
def switch (inner : Inner) : Parser Switch := do
  let start := (← expectKeyword .switch_).span.start
  let subject ← expression inner .header
  let _ ← expectSymbol .braceOpen
  let cases ← repeatedUntil .braceClose (switchCase inner) inner.bound
  let _ ← expectSymbol .braceClose
  return ⟨← spanFrom start, subject, cases⟩

/-- A loop. -/
def loop (inner : Inner) : Parser Loop := do
  let keyword ← take
  let start := keyword.span.start
  match keyword.kind with
  | .keyword .for_ =>
      let element ← pattern (· == .keyword .in_)
      let _ ← expectKeyword .in_
      let header ← expression inner .header
      let body ← block inner
      return ⟨← spanFrom start, .forIn element, header, body⟩
  | .keyword .while_ =>
      let header ← expression inner .header
      let body ← block inner
      return ⟨← spanFrom start, .whileDo, header, body⟩
  | _ =>
      let body ← block inner
      let _ ← expectKeyword .while_
      let header ← expression inner .header
      return ⟨← spanFrom start, .repeatWhile, header, body⟩

/-- A `return`. Its value starts on the line of the keyword. -/
def returning (inner : Inner) : Parser Statement := do
  let keyword := (← expectKeyword .return_).span
  let token ← peek
  let ends := token.newlineBefore || match token.kind with
    | .symbol .braceClose | .symbol .semicolon | .endOfFile | .keyword .case_
    | .keyword .default_ => true
    | _ => false
  let value ← if ends then pure none else some <$> expression inner .statement
  return .returning (← spanFrom keyword.start) keyword value

/-- A directive with its message. -/
def directive : Parser Directive := do
  let token ← take
  let kind ← match token.text with
    | "warning" => pure DirectiveKind.warning
    | "error" => pure DirectiveKind.error
    | _ => throw (SyntaxError.unknownDirective token.text token.span)
  let _ ← expectSymbol .parenOpen
  let message ← expect .string
  let _ ← expectSymbol .parenClose
  return ⟨← spanFrom token.span.start, kind, message.text, message.span⟩

/-- A statement. -/
def statement (inner : Inner) : Parser Statement := do
  let start ← here
  match (← peek).kind with
  | .symbol .atSign | .keyword .struct_ | .keyword .class_ | .keyword .enum_ | .keyword .func_
  | .keyword .static_ | .keyword .var_ | .keyword .let_ =>
      return .declaration (← declaration inner)
  | .keyword .if_ => return .conditional (← conditional inner)
  | .keyword .switch_ => return .switch (← switch inner)
  | .keyword .do_ =>
      let _ ← take
      let body ← block inner
      return .doBlock (← spanFrom start) body
  | .keyword .for_ | .keyword .while_ | .keyword .repeat_ => return .loop (← loop inner)
  | .keyword .return_ => returning inner
  | .keyword .fallthrough_ =>
      let _ ← take
      return .fallthrough (← spanFrom start)
  | .keyword .break_ =>
      let _ ← take
      return .jump (← spanFrom start) .break
  | .keyword .continue_ =>
      let _ ← take
      return .jump (← spanFrom start) .continue
  | .directive => return .directive (← directive)
  | _ => return .expression (← expression inner .statement)

end ResultBuilder.Syntax.Parser
