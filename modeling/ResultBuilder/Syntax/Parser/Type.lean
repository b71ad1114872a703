import ResultBuilder.Syntax.Parser.Inner

/-!
# Parsing types and attributes
-/

namespace ResultBuilder.Syntax.Parser

/-- Attributes, each a sign and a name. -/
def attributes : Nat → Parser (List Attribute)
  | 0 => return []
  | bound + 1 => do
      if ← isAtSymbol .atSign then
        let start := (← take).span.start
        let name ← identifier
        let mark : Attribute := ⟨← spanFrom start, name.text⟩
        return mark :: (← attributes bound)
      else
        return []

/-- The names that follow with a dot before each. -/
def dottedNames : List Token → List Token
  | dot :: name :: rest =>
      if dot.kind == .symbol .dot && name.kind == .identifier then name :: dottedNames rest else []
  | _ => []

/-- Whether a token makes the type before it optional. -/
def marksOptional (token : Token) : Bool :=
  token.kind == .symbol .attachedQuestion || token.kind == .symbol .attachedBang

/-- A type that starts at an offset with marks after it, each of which makes it optional once more.
What a mark applies to spans up to that mark. -/
def markedOptional (start : Nat) (base : DeclaredType) (marks : List Token) : DeclaredType :=
  marks.foldl
    (fun type mark =>
      let span : Span := ⟨start, mark.span.stop⟩
      .optional span (type.relocate span))
    base

/-- The types between parentheses. Labels and attributes of the elements are dropped. -/
def typeList (inner : Inner) : Parser (List DeclaredType) := do
  let _ ← expectSymbol .parenOpen
  closedBy .parenClose
    (do
      let cursor ← get
      let named := cursor.next.kind == .identifier || cursor.next.kind == .symbol .underscore
      if named && cursor.second.kind == .symbol .colon then
        let _ ← takeMany 2
      let _ ← attributes inner.bound
      inner.type)
    inner.bound

/-- A type before the marks that make it optional, its span still to be set. -/
def unmarkedType (inner : Inner) : Parser DeclaredType := do
  let start ← here
  let token ← peek
  match token.kind with
  | .identifier =>
      let _ ← take
      if token.text == "some" then
        return .someOf (.point start) (← inner.type)
      else
        let parts := dottedNames (← get).rest
        let _ ← takeMany (2 * parts.length)
        let name := String.intercalate "." (token.text :: parts.map (·.text))
        if ← eatSymbol .less then
          let args ← separated inner.type inner.bound
          let _ ← expectSymbol .greater
          return .named (.point start) name args
        else
          return .named (.point start) name []
  | .symbol .parenOpen =>
      let elements ← typeList inner
      if ← eatSymbol .arrow then
        return .function (.point start) elements (← inner.type)
      else
        match elements with
        | [element] => return element
        | _ => return .tuple (.point start) elements
  | _ => unexpected "type"

/-- A type. -/
def type (inner : Inner) : Parser DeclaredType := do
  let start ← here
  let base ← unmarkedType inner
  let base := base.relocate (← spanFrom start)
  let marks ← takeMany ((← get).rest.takeWhile marksOptional).length
  return markedOptional start base marks

end ResultBuilder.Syntax.Parser
