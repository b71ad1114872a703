import ResultBuilder.Syntax.Tree

/-!
# Printing syntax trees

The text of a node on one line. Operators stand between spaces and statements are separated by
semicolons. Parentheses are printed where the source has them. The bodies of functions and the
members of types are left out.
-/

namespace ResultBuilder.Syntax

/-- Texts with commas between them. -/
def commaSeparated (texts : List String) : String :=
  String.intercalate ", " texts

/-- The text of a literal. -/
def Literal.text : Literal → String
  | .integer value => toString value
  | .float value => value.shortestText
  | .string content => "\"" ++ content ++ "\""
  | .boolean value => if value then "true" else "false"
  | .nil => "nil"

/-- The text before the colon of a switch case. -/
def CaseLabel.text : CaseLabel → String
  | .default => "default"
  | .patterns listed => "case " ++ commaSeparated (listed.map (·.text))

/-- The text of a statement that leaves or continues a loop. -/
def Jump.text : Jump → String
  | .break => "break"
  | .continue => "continue"

/-- The name of a directive. -/
def DirectiveKind.text : DirectiveKind → String
  | .warning => "warning"
  | .error => "error"

/-- The text of a directive. -/
def Directive.text (directive : Directive) : String :=
  "#" ++ directive.kind.text ++ "(\"" ++ directive.message ++ "\")"

/-- Attributes, each followed by a space. -/
def attributesText (marks : List Attribute) : String :=
  String.join (marks.map fun mark => "@" ++ mark.name ++ " ")

/-- The text of a generic parameter. -/
def GenericParam.text (param : GenericParam) : String :=
  match param.bound with
  | none => param.name.text
  | some bound => param.name.text ++ ": " ++ bound.text

/-- Generic parameters in their brackets, nothing when there are none. -/
def genericsText : List GenericParam → String
  | [] => ""
  | generics => "<" ++ commaSeparated (generics.map (·.text)) ++ ">"

/-- The text of a parameter. -/
def Param.text (param : Param) : String :=
  let names := match param.label with
    | none => "_ " ++ param.name.text
    | some label =>
        if label.text == param.name.text then label.text else label.text ++ " " ++ param.name.text
  attributesText param.attributes ++ names ++ ": " ++ param.type.text ++
    (if param.isVariadic then "..." else "")

/-- The text of an enum, without the payloads of its cases. -/
def EnumDecl.text (decl : EnumDecl) : String :=
  "enum " ++ decl.name.text ++ " \x7b" ++
    String.join (decl.cases.map fun enumCase => " case " ++ enumCase.name.text) ++ " \x7d"

/-- The text of a function, without its body. -/
def FunctionDecl.text (decl : FunctionDecl) : String :=
  attributesText decl.attributes ++ (if decl.isStatic then "static " else "") ++
    "func " ++ decl.name.text ++ genericsText decl.generics ++
    "(" ++ commaSeparated (decl.params.map (·.text)) ++ ")" ++
    (match decl.result with
      | none => ""
      | some result => " -> " ++ result.text)

/-- The text of a struct or class, with the number of its members only. -/
def TypeDecl.text (decl : TypeDecl) : String :=
  attributesText decl.attributes ++ decl.kind.text ++ " " ++ decl.name.text ++
    genericsText decl.generics ++ " \x7b " ++ toString decl.members.length ++ " members \x7d"

mutual

/-- The text of an expression. -/
def Expr.text : Expr → String
  | .literal _ value => value.text
  | .ident _ name => name
  | .implicitMember _ name => "." ++ name.text
  | .member _ base name => base.text ++ "." ++ name.text
  | .call _ callee [] (some trailing) => callee.text ++ " " ++ trailing.text
  | .call _ callee args none => callee.text ++ "(" ++ commaSeparated (Argument.texts args) ++ ")"
  | .call _ callee args (some trailing) =>
      callee.text ++ "(" ++ commaSeparated (Argument.texts args) ++ ") " ++ trailing.text
  | .subscript _ base args => base.text ++ "[" ++ commaSeparated (Argument.texts args) ++ "]"
  | .tuple _ elements => "(" ++ commaSeparated (Argument.texts elements) ++ ")"
  | .paren _ inner => "(" ++ inner.text ++ ")"
  | .array _ elements => "[" ++ commaSeparated (Expr.texts elements) ++ "]"
  | .closure node => node.text
  | .unary _ op operand => op.text ++ operand.text
  | .binary _ left op right => left.text ++ " " ++ op.text ++ " " ++ right.text
  | .ternary _ condition thenValue elseValue =>
      condition.text ++ " ? " ++ thenValue.text ++ " : " ++ elseValue.text
  | .assign _ target _ value => target.text ++ " = " ++ value.text
  | .postfixed _ operand op => operand.text ++ op.text

/-- The texts of expressions. -/
def Expr.texts : List Expr → List String
  | [] => []
  | expr :: rest => expr.text :: Expr.texts rest

/-- The text of an argument. -/
def Argument.text : Argument → String
  | ⟨_, none, value⟩ => value.text
  | ⟨_, some label, value⟩ => label.text ++ ": " ++ value.text

/-- The texts of arguments. -/
def Argument.texts : List Argument → List String
  | [] => []
  | argument :: rest => argument.text :: Argument.texts rest

/-- The text of a closure. -/
def Closure.text : Closure → String
  | ⟨_, params, ⟨_, statements⟩⟩ =>
      "\x7b " ++
        (if params.isEmpty then "" else commaSeparated (params.map (·.text)) ++ " in ") ++
        String.intercalate "; " (Statement.texts statements) ++ " \x7d"

/-- The text of a block. -/
def Block.text : Block → String
  | ⟨_, []⟩ => "\x7b\x7d"
  | ⟨_, statements⟩ => "\x7b " ++ String.intercalate "; " (Statement.texts statements) ++ " \x7d"

/-- The texts of statements. -/
def Statement.texts : List Statement → List String
  | [] => []
  | statement :: rest => statement.text :: Statement.texts rest

/-- The text of a statement. -/
def Statement.text : Statement → String
  | .expression node => node.text
  | .conditional node => node.text
  | .switch node => node.text
  | .doBlock _ body => "do " ++ body.text
  | .loop node => node.text
  | .returning _ _ none => "return"
  | .returning _ _ (some value) => "return " ++ value.text
  | .fallthrough _ => "fallthrough"
  | .jump _ kind => kind.text
  | .directive node => node.text
  | .declaration node => node.text

/-- The text of an `if` statement. -/
def Conditional.text : Conditional → String
  | ⟨_, conditions, thenBlock, none⟩ =>
      "if " ++ commaSeparated (Condition.texts conditions) ++ " " ++ thenBlock.text
  | ⟨_, conditions, thenBlock, some otherwise⟩ =>
      "if " ++ commaSeparated (Condition.texts conditions) ++ " " ++ thenBlock.text ++
        " else " ++ otherwise.text

/-- The text of a condition. -/
def Condition.text : Condition → String
  | .expression node => node.text
  | .binding _ isMutable pattern value =>
      (if isMutable then "var " else "let ") ++ pattern.text ++ " = " ++ value.text

/-- The texts of conditions. -/
def Condition.texts : List Condition → List String
  | [] => []
  | condition :: rest => condition.text :: Condition.texts rest

/-- The text after `else`. -/
def Alternative.text : Alternative → String
  | .block node => node.text
  | .chained node => node.text

/-- The text of a `switch` statement. -/
def Switch.text : Switch → String
  | ⟨_, subject, cases⟩ =>
      "switch " ++ subject.text ++ " \x7b" ++ String.join (SwitchCase.texts cases) ++ " \x7d"

/-- The text of a switch case. -/
def SwitchCase.text : SwitchCase → String
  | ⟨_, label, body⟩ => label.text ++ ": " ++ body.text

/-- The texts of switch cases, each with a space in front. -/
def SwitchCase.texts : List SwitchCase → List String
  | [] => []
  | switchCase :: rest => (" " ++ switchCase.text) :: SwitchCase.texts rest

/-- The text of a loop. -/
def Loop.text : Loop → String
  | ⟨_, .forIn pattern, header, body⟩ =>
      "for " ++ pattern.text ++ " in " ++ header.text ++ " " ++ body.text
  | ⟨_, .whileDo, header, body⟩ => "while " ++ header.text ++ " " ++ body.text
  | ⟨_, .repeatWhile, header, body⟩ => "repeat " ++ body.text ++ " while " ++ header.text

/-- The text of a declaration. -/
def Declaration.text : Declaration → String
  | .variable node => node.text
  | .function node => node.text
  | .type node => node.text
  | .enum node => node.text

/-- The text of a constant, a variable or a computed property. -/
def VariableDecl.text : VariableDecl → String
  | ⟨_, marks, isMutable, name, type, value, body⟩ =>
      attributesText marks ++ (if isMutable then "var " else "let ") ++ name.text ++
        (match type with
          | none => ""
          | some type => ": " ++ type.text) ++
        (match value with
          | none => ""
          | some value => " = " ++ value.text) ++
        (match body with
          | none => ""
          | some body => " " ++ body.text)

end

end ResultBuilder.Syntax
