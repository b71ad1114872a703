import ResultBuilder.Syntax.Parser.Type

/-!
# Parsing expressions

From the loosest binding to the tightest: assignment, the conditional operator, binary operators by
precedence, operators before an operand, and calls, members and marks after it.
-/

namespace ResultBuilder.Syntax.Parser

/-- The operator that a token stands for between two operands. -/
def binaryOp? : TokenKind → Option BinaryOp
  | .symbol .or => some .or
  | .symbol .and => some .and
  | .symbol .equal => some .equal
  | .symbol .notEqual => some .notEqual
  | .symbol .less => some .less
  | .symbol .greater => some .greater
  | .symbol .lessEqual => some .lessEqual
  | .symbol .greaterEqual => some .greaterEqual
  | .symbol .coalesce => some .coalesce
  | .symbol .plus => some .add
  | .symbol .minus => some .subtract
  | .symbol .star => some .multiply
  | .symbol .slash => some .divide
  | .symbol .percent => some .remainder
  | _ => none

/-! ### Closures and arguments -/

/-- The names before the keyword `in`, when tokens start with a list of closure parameters. -/
def closureNames : List Token → Option (List Token)
  | name :: next :: rest =>
      if name.kind == .identifier || name.kind == .symbol .underscore then
        match next.kind with
        | .keyword .in_ => some [name]
        | .symbol .comma => (name :: ·) <$> closureNames rest
        | _ => none
      else none
  | _ => none

/-- The parameters of a closure, none when its tokens do not start with a list of them. Every name
goes with a comma or the keyword `in`. -/
def closureParams : Parser (List Name) := do
  match closureNames (← get).rest with
  | none => return []
  | some names =>
      let _ ← takeMany (2 * names.length)
      return names.map fun token => ⟨token.span, token.text⟩

/-- Statements between braces, possibly after parameters. -/
def closure (inner : Inner) : Parser Closure := do
  let start := (← expectSymbol .braceOpen).span.start
  let params ← closureParams
  let body ← statements inner (· == .symbol .braceClose)
  let _ ← expectSymbol .braceClose
  let span ← spanFrom start
  return ⟨span, params, ⟨span, body⟩⟩

/-- A closure after an operand, where the region allows it and no line break comes between. -/
def trailingClosure? (inner : Inner) (region : Region) : Parser (Option Closure) := do
  let opens ← isAtSymbol .braceOpen
  let breaks ← onNewLine region
  if opens && region.allowsTrailing && !breaks then
    return some (← closure inner)
  else
    return none

/-- A value, possibly with a label. -/
def argument (inner : Inner) : Parser Argument := do
  let start ← here
  let cursor ← get
  if cursor.next.kind == .identifier && cursor.second.kind == .symbol .colon then
    let label ← identifier
    let _ ← take
    let value ← inner.expression .delimited
    return ⟨← spanFrom start, some label, value⟩
  else
    let value ← inner.expression .delimited
    return ⟨← spanFrom start, none, value⟩

/-- Arguments between an opening and a closing sign. -/
def arguments (inner : Inner) (opening closing : Symbol) : Parser (List Argument) := do
  let _ ← expectSymbol opening
  closedBy closing (argument inner) inner.bound

/-! ### Operands -/

/-- The largest integer that a literal can denote. -/
def greatestInteger : Nat := Nat.pow 2 63 - 1

/-- An operand without operators. -/
def primary (inner : Inner) : Parser Expr := do
  let start ← here
  let token ← peek
  match token.kind with
  | .integer =>
      let _ ← take
      let value := digitsValue token.text.toList
      if value ≤ greatestInteger then
        return .literal (← spanFrom start) (.integer value)
      else
        throw (.invalidLiteral token.text token.span)
  | .float =>
      let _ ← take
      return .literal (← spanFrom start) (.float (.ofText token.text))
  | .string =>
      let _ ← take
      return .literal (← spanFrom start) (.string token.text)
  | .keyword .true_ =>
      let _ ← take
      return .literal (← spanFrom start) (.boolean true)
  | .keyword .false_ =>
      let _ ← take
      return .literal (← spanFrom start) (.boolean false)
  | .keyword .nil_ =>
      let _ ← take
      return .literal (← spanFrom start) .nil
  | .identifier | .keyword .self_ | .symbol .underscore =>
      let _ ← take
      return .ident (← spanFrom start) token.text
  | .symbol .dot =>
      let _ ← take
      let name ← identifier
      return .implicitMember (← spanFrom start) name
  | .symbol .parenOpen =>
      match ← arguments inner .parenOpen .parenClose with
      | [⟨_, none, value⟩] => return .paren (← spanFrom start) value
      | elements => return .tuple (← spanFrom start) elements
  | .symbol .bracketOpen =>
      let elements ← arguments inner .bracketOpen .bracketClose
      return .array (← spanFrom start) (elements.map (·.value))
  | .symbol .braceOpen => return .closure (← closure inner)
  | _ => unexpected "expression"

/-- The name of a member: a name, the keyword `self` or a number. -/
def memberName : Parser Name := do
  let token ← peek
  match token.kind with
  | .identifier | .keyword .self_ | .integer =>
      let _ ← take
      return ⟨token.span, token.text⟩
  | _ => unexpected "member name"

/-- What goes on an operand that starts at an offset, if anything does: a call, a subscript, a
member or a mark. -/
def postfixStep (inner : Inner) (region : Region) (start : Nat) (operand : Expr) :
    Parser (Option Expr) := do
  let breaks ← onNewLine region
  match (← peek).kind with
  | .symbol .parenOpen =>
      if breaks then return none
      let args ← arguments inner .parenOpen .parenClose
      let trailing ← trailingClosure? inner region
      return some (.call (← spanFrom start) operand args trailing)
  | .symbol .braceOpen =>
      if breaks || !region.allowsTrailing then return none
      let trailing ← trailingClosure? inner region
      return some (.call (← spanFrom start) operand [] trailing)
  | .symbol .bracketOpen =>
      if breaks then return none
      let args ← arguments inner .bracketOpen .bracketClose
      return some (.subscript (← spanFrom start) operand args)
  | .symbol .dot =>
      if breaks then return none
      let _ ← take
      let name ← memberName
      return some (.member (← spanFrom start) operand name)
  | .symbol .attachedQuestion =>
      let _ ← take
      return some (.postfixed (← spanFrom start) operand .optional)
  | .symbol .attachedBang =>
      let _ ← take
      return some (.postfixed (← spanFrom start) operand .force)
  | _ => return none

/-- An operand with everything that goes on it. -/
def postfixChain (inner : Inner) (region : Region) (start : Nat) (operand : Expr) :
    Nat → Parser Expr
  | 0 => return operand
  | bound + 1 => do
      match ← postfixStep inner region start operand with
      | none => return operand
      | some longer => postfixChain inner region start longer bound

/-- An operand with the operators before and after it. -/
def unary (inner : Inner) (region : Region) : Parser Expr := do
  let start ← here
  let op? : Option UnaryOp := match (← peek).kind with
    | .symbol .bang => some .not
    | .symbol .minus => some .negate
    | _ => none
  match op? with
  | some op =>
      let _ ← take
      let operand ← inner.unary region
      return .unary (← spanFrom start) op operand
  | none =>
      let operand ← primary inner
      postfixChain inner region start operand inner.bound

/-! ### Operators between operands -/

/-- A left operand that starts at an offset with all operators after it that bind at least as
tightly as a number says. The right operand of an operator takes what binds more tightly. -/
def binaryChain (inner : Inner) (region : Region) (start least : Nat) (left : Expr) :
    Nat → Parser Expr
  | 0 => return left
  | bound + 1 => do
      match binaryOp? (← peek).kind with
      | none => return left
      | some op =>
          if op.precedence < least || (← onNewLine region) then
            return left
          else
            let _ ← take
            let right ← inner.binary region (op.precedence + 1)
            binaryChain inner region start least (.binary (← spanFrom start) left op right) bound

/-- Operands with operators that bind at least as tightly as a number says. -/
def binary (inner : Inner) (region : Region) (least : Nat) : Parser Expr := do
  let start ← here
  let left ← unary inner region
  binaryChain inner region start least left inner.bound

/-- An expression that is no assignment. -/
def ternary (inner : Inner) (region : Region) : Parser Expr := do
  let start ← here
  let condition ← binary inner region 1
  if !(← isAtSymbol .question) || (← onNewLine region) then
    return condition
  else
    let _ ← take
    let thenValue ← inner.ternary region
    let _ ← expectSymbol .colon
    let elseValue ← inner.ternary region
    return .ternary (← spanFrom start) condition thenValue elseValue

/-- An expression. -/
def expression (inner : Inner) (region : Region) : Parser Expr := do
  let start ← here
  let target ← ternary inner region
  if (← isAtSymbol .assign) && !(← onNewLine region) then
    let sign ← take
    let value ← inner.expression region
    return .assign (← spanFrom start) target sign.span value
  else
    return target

end ResultBuilder.Syntax.Parser
