import ResultBuilder.Syntax.Parser.Expression

/-!
# Parsing declarations

The start of a declaration is where its attributes start. Conformances, `where` clauses and default
values are read and dropped.
-/

namespace ResultBuilder.Syntax.Parser

/-- Generic parameters in their brackets, none when there is no bracket. -/
def generics (inner : Inner) : Parser (List GenericParam) := do
  if ← eatSymbol .less then
    closedBy .greater
      (do
        let start ← here
        let name ← identifier
        let bound ← if ← eatSymbol .colon then some <$> inner.type else pure none
        return ⟨← spanFrom start, name, bound⟩)
      inner.bound
  else
    return []

/-- The types that a type declaration conforms to, which play no part later. -/
def conformances (inner : Inner) : Parser Unit := do
  if ← eatSymbol .colon then
    let _ ← separated inner.type inner.bound

/-- Whether a token belongs to a `where` clause that goes on: no brace, no end and no new line. -/
def continuesClause (token : Token) : Bool :=
  match token.kind with
  | .symbol .braceOpen | .symbol .braceClose | .endOfFile => false
  | _ => !token.newlineBefore

/-- Takes a `where` clause. -/
def skipWhereClause : Parser Unit := do
  let cursor ← get
  if cursor.next.kind == .identifier && cursor.next.text == "where" then
    let _ ← takeMany (cursor.rest.takeWhile continuesClause).length

/-- A parameter. A single name is the label too; an underscore is no label. -/
def param (inner : Inner) : Parser Param := do
  let start ← here
  let before ← attributes inner.bound
  let first ← nameOrUnderscore
  let label := if first.text == "_" then none else some first
  let named := (← isAt .identifier) || (← isAtSymbol .underscore)
  let name ← if named then nameOrUnderscore else pure first
  let _ ← expectSymbol .colon
  let after ← attributes inner.bound
  let type ← inner.type
  let isVariadic ← eatSymbol .ellipsis
  if ← eatSymbol .assign then
    let _ ← inner.expression .delimited
  return ⟨← spanFrom start, before ++ after, label, name, type, isVariadic⟩

/-- A function, or an initializer, which has no keyword. -/
def functionDecl (inner : Inner) (start : Nat) (marks : List Attribute) (isStatic : Bool) :
    Parser FunctionDecl := do
  let _ ← eat (.keyword .func_)
  let name ← identifier
  let generics ← generics inner
  let _ ← expectSymbol .parenOpen
  let params ← closedBy .parenClose (param inner) inner.bound
  let result ← if ← eatSymbol .arrow then some <$> inner.type else pure none
  skipWhereClause
  let body ← if ← isAtSymbol .braceOpen then some <$> block inner else pure none
  return ⟨← spanFrom start, marks, isStatic, name, generics, params, result, body⟩

/-- A constant, a variable or a computed property. The body of a property opens on its line. -/
def variableDecl (inner : Inner) (start : Nat) (marks : List Attribute) : Parser VariableDecl := do
  let isMutable := (← take).kind == .keyword .var_
  let name ← nameOrUnderscore
  let type ← if ← eatSymbol .colon then some <$> inner.type else pure none
  let value ← if ← eatSymbol .assign then some <$> expression inner .statement else pure none
  let opens := (← isAtSymbol .braceOpen) && !(← onNewLine .statement)
  let body ← if value.isNone && opens then some <$> block inner else pure none
  return ⟨← spanFrom start, marks, isMutable, name, type, value, body⟩

/-- A case of an enum. -/
def enumCase (inner : Inner) : Parser EnumCase := do
  let start ← here
  let name ← identifier
  let payload ← if ← isAtSymbol .parenOpen then typeList inner else pure []
  return ⟨← spanFrom start, name, payload⟩

/-- An enum. -/
def enumDecl (inner : Inner) (start : Nat) : Parser EnumDecl := do
  let _ ← expectKeyword .enum_
  let name ← identifier
  let _ ← generics inner
  conformances inner
  let _ ← expectSymbol .braceOpen
  let cases ← sequence (· == .symbol .braceClose)
    (do
      let _ ← expectKeyword .case_
      separated (enumCase inner) inner.bound)
    inner.bound
  let _ ← expectSymbol .braceClose
  return ⟨← spanFrom start, name, cases.flatten⟩

/-- A struct or class. -/
def typeDecl (inner : Inner) (start : Nat) (marks : List Attribute) : Parser TypeDecl := do
  let kind : TypeKind := if (← take).kind == .keyword .class_ then .classType else .structType
  let name ← identifier
  let generics ← generics inner
  conformances inner
  skipWhereClause
  let _ ← expectSymbol .braceOpen
  let members ← sequence (· == .symbol .braceClose) inner.declaration inner.bound
  let _ ← expectSymbol .braceClose
  return ⟨← spanFrom start, marks, kind, name, generics, members⟩

/-- A declaration with its attributes. -/
def declaration (inner : Inner) : Parser Declaration := do
  let start ← here
  let marks ← attributes inner.bound
  let isStatic ← eat (.keyword .static_)
  let token ← peek
  match token.kind with
  | .keyword .struct_ | .keyword .class_ => return .type (← typeDecl inner start marks)
  | .keyword .enum_ => return .enum (← enumDecl inner start)
  | .keyword .func_ => return .function (← functionDecl inner start marks isStatic)
  | .identifier =>
      if token.text == "init" then
        return .function (← functionDecl inner start marks isStatic)
      else
        unexpected "declaration"
  | .keyword .var_ | .keyword .let_ => return .variable (← variableDecl inner start marks)
  | _ => unexpected "declaration"

end ResultBuilder.Syntax.Parser
