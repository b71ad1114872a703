import ResultBuilder.Decimal.Shortest
import ResultBuilder.Syntax.DeclaredType
import ResultBuilder.Syntax.Operator

/-!
# Syntax trees

Expressions, statements, blocks and declarations. They refer to each other, since a closure is an
expression that holds statements. Every node carries the span that it was read from.
-/

namespace ResultBuilder.Syntax

/-! ### Parts without expressions -/

/-- A literal value. -/
inductive Literal where
  | integer (value : Nat)
  | float (value : Decimal)
  /-- What is written between the quotes, interpolations included. -/
  | string (content : String)
  | boolean (value : Bool)
  | nil
  deriving DecidableEq, Repr

/-- A pattern of a case or a binding. It is kept as text; only the enum case that it names and
which values it lets through are worked out. -/
structure Pattern where
  /-- Where the pattern is written. -/
  span : Span
  /-- The pattern as it is written. -/
  text : String
  /-- The enum case that it names. -/
  caseName : Option String
  /-- Whether it is the underscore, which matches everything. -/
  isWildcard : Bool
  /-- Whether a value of the named case may fail to match. -/
  isRefutable : Bool
  deriving DecidableEq, Repr

/-- What stands before the colon of a switch case. -/
inductive CaseLabel where
  | patterns (listed : List Pattern)
  | default
  deriving DecidableEq, Repr

/-- Whether a case matches every value. -/
def CaseLabel.isCatchAll : CaseLabel → Bool
  | .default => true
  | .patterns listed => listed.any (·.isWildcard)

/-- The forms of loops; a loop over a sequence has a pattern for its elements. -/
inductive LoopForm where
  | forIn (pattern : Pattern)
  | whileDo
  | repeatWhile
  deriving DecidableEq, Repr

/-- The statements that leave or continue a loop. -/
inductive Jump where
  | break
  | continue
  deriving DecidableEq, Repr

/-- The messages that a source gives to its reader. -/
inductive DirectiveKind where
  | warning
  | error
  deriving DecidableEq, Repr

/-- A message that a source gives to its reader. -/
structure Directive where
  /-- Where the directive is written. -/
  span : Span
  /-- Whether it is a warning or an error. -/
  kind : DirectiveKind
  /-- The message as it is written between the quotes. -/
  message : String
  /-- Where the message is written. -/
  messageSpan : Span
  deriving DecidableEq, Repr

/-- An attribute of a declaration. -/
structure Attribute where
  /-- Where the attribute is written, with its sign. -/
  span : Span
  /-- The name without the sign. -/
  name : String
  deriving DecidableEq, Repr

/-- A generic parameter. -/
structure GenericParam where
  /-- Where the parameter is written, with its bound. -/
  span : Span
  /-- Its name. -/
  name : Name
  /-- The type that it is bound by. -/
  bound : Option DeclaredType
  deriving Repr

/-- A parameter of a function. -/
structure Param where
  /-- Where the parameter is written. -/
  span : Span
  /-- Its attributes, before the name or before the type. -/
  attributes : List Attribute
  /-- How arguments for it are labelled. -/
  label : Option Name
  /-- Its name within the function. -/
  name : Name
  /-- Its type. -/
  type : DeclaredType
  /-- Whether it takes any number of arguments. -/
  isVariadic : Bool
  deriving Repr

/-- Whether a closure given for a parameter may outlive the call. -/
def Param.isEscaping (param : Param) : Bool :=
  param.attributes.any (·.name == "escaping")

/-- A case of an enum with the types of its payload. -/
structure EnumCase where
  /-- Where the case is written. -/
  span : Span
  /-- Its name. -/
  name : Name
  /-- The types of what it carries. -/
  payload : List DeclaredType
  deriving Repr

/-- An enum. -/
structure EnumDecl where
  /-- Where the enum is written. -/
  span : Span
  /-- Its name. -/
  name : Name
  /-- Its cases in order. -/
  cases : List EnumCase
  deriving Repr

/-- The kinds of types with members. -/
inductive TypeKind where
  | structType
  | classType
  deriving DecidableEq, Repr

/-- The keyword of a kind of type. -/
def TypeKind.text : TypeKind → String
  | .structType => "struct"
  | .classType => "class"

/-! ### Expressions, statements and declarations -/

mutual

/-- An expression. -/
inductive Expr where
  | literal (span : Span) (value : Literal)
  /-- A name, the keyword for the enclosing object, or an underscore. -/
  | ident (span : Span) (name : String)
  /-- A member of the type that the context asks for. -/
  | implicitMember (span : Span) (name : Name)
  /-- A member of a value. -/
  | member (span : Span) (base : Expr) (name : Name)
  /-- A call, whose last argument may be a closure after the parentheses. -/
  | call (span : Span) (callee : Expr) (args : List Argument) (trailing : Option Closure)
  | subscript (span : Span) (base : Expr) (args : List Argument)
  /-- Any number of elements between parentheses, except one without a label. -/
  | tuple (span : Span) (elements : List Argument)
  | paren (span : Span) (inner : Expr)
  | array (span : Span) (elements : List Expr)
  | closure (node : Closure)
  | unary (span : Span) (op : UnaryOp) (operand : Expr)
  | binary (span : Span) (left : Expr) (op : BinaryOp) (right : Expr)
  | ternary (span : Span) (condition thenValue elseValue : Expr)
  /-- An assignment, with the span of its sign. -/
  | assign (span : Span) (target : Expr) (sign : Span) (value : Expr)
  | postfixed (span : Span) (operand : Expr) (op : PostfixOp)

/-- An argument of a call, or an element of a tuple. -/
structure Argument where
  /-- Where the argument is written. -/
  span : Span
  /-- Its label. -/
  label : Option Name
  /-- Its value. -/
  value : Expr

/-- A closure; its body has the same span. -/
structure Closure where
  /-- Where the closure is written. -/
  span : Span
  /-- Its parameters. -/
  params : List Name
  /-- Its statements. -/
  body : Block

/-- Statements that belong together. -/
structure Block where
  /-- Where the block is written. -/
  span : Span
  /-- Its statements in order. -/
  statements : List Statement

/-- A statement. -/
inductive Statement where
  | expression (node : Expr)
  | conditional (node : Conditional)
  | switch (node : Switch)
  | doBlock (span : Span) (body : Block)
  | loop (node : Loop)
  /-- A return, with the span of its keyword. -/
  | returning (span : Span) (keyword : Span) (value : Option Expr)
  | fallthrough (span : Span)
  | jump (span : Span) (kind : Jump)
  | directive (node : Directive)
  | declaration (node : Declaration)

/-- An `if` statement. -/
structure Conditional where
  /-- Where the statement is written. -/
  span : Span
  /-- What has to hold, in order. -/
  conditions : List Condition
  /-- What is done when everything holds. -/
  thenBlock : Block
  /-- What is done otherwise. -/
  otherwise : Option Alternative

/-- A condition of an `if` statement. -/
inductive Condition where
  | expression (node : Expr)
  /-- Binds a pattern to a value that may be missing. -/
  | binding (span : Span) (isMutable : Bool) (pattern : Pattern) (value : Expr)

/-- What an `if` statement does when its conditions do not hold. -/
inductive Alternative where
  | block (node : Block)
  | chained (node : Conditional)

/-- A `switch` statement. -/
structure Switch where
  /-- Where the statement is written. -/
  span : Span
  /-- The value that decides. -/
  subject : Expr
  /-- The cases in order. -/
  cases : List SwitchCase

/-- A case of a `switch` statement. The span of its body is that of its statements, or the place
after the colon when there are none. -/
structure SwitchCase where
  /-- Where the case is written. -/
  span : Span
  /-- Which values it is for. -/
  label : CaseLabel
  /-- What is done for them. -/
  body : Block

/-- A loop over a sequence or while a condition holds. -/
structure Loop where
  /-- Where the loop is written. -/
  span : Span
  /-- The form of the loop. -/
  form : LoopForm
  /-- The sequence or the condition. -/
  header : Expr
  /-- What is repeated. -/
  body : Block

/-- A declaration. -/
inductive Declaration where
  | variable (node : VariableDecl)
  | function (node : FunctionDecl)
  | type (node : TypeDecl)
  | enum (node : EnumDecl)

/-- A constant, a variable or a computed property. -/
structure VariableDecl where
  /-- Where the declaration is written. -/
  span : Span
  /-- Its attributes. -/
  attributes : List Attribute
  /-- Whether it can change. -/
  isMutable : Bool
  /-- Its name. -/
  name : Name
  /-- Its type, where it is given. -/
  type : Option DeclaredType
  /-- Its first value. -/
  value : Option Expr
  /-- The body of a computed property. -/
  body : Option Block

/-- A function or an initializer. -/
structure FunctionDecl where
  /-- Where the declaration is written. -/
  span : Span
  /-- Its attributes. -/
  attributes : List Attribute
  /-- Whether it belongs to the type and not to its values. -/
  isStatic : Bool
  /-- Its name. -/
  name : Name
  /-- Its generic parameters. -/
  generics : List GenericParam
  /-- Its parameters. -/
  params : List Param
  /-- The type of its result. -/
  result : Option DeclaredType
  /-- Its body, where it is given. -/
  body : Option Block

/-- A struct or a class. -/
structure TypeDecl where
  /-- Where the declaration is written. -/
  span : Span
  /-- Its attributes. -/
  attributes : List Attribute
  /-- Whether it is a struct or a class. -/
  kind : TypeKind
  /-- Its name. -/
  name : Name
  /-- Its generic parameters. -/
  generics : List GenericParam
  /-- Its members in order. -/
  members : List Declaration

end

/-- A source file as a list of statements. -/
structure Program where
  /-- The statements in order. -/
  statements : List Statement

/-! ### Spans -/

/-- Where an expression is written. -/
def Expr.span : Expr → Span
  | .literal span _ | .ident span _ | .implicitMember span _ | .member span _ _
  | .call span _ _ _ | .subscript span _ _ | .tuple span _ | .paren span _ | .array span _
  | .unary span _ _ | .binary span _ _ _ | .ternary span _ _ _ | .assign span _ _ _
  | .postfixed span _ _ => span
  | .closure node => node.span

/-- Where a declaration is written. -/
def Declaration.span : Declaration → Span
  | .variable node => node.span
  | .function node => node.span
  | .type node => node.span
  | .enum node => node.span

/-- Where a statement is written. -/
def Statement.span : Statement → Span
  | .expression node => node.span
  | .conditional node => node.span
  | .switch node => node.span
  | .doBlock span _ | .returning span _ _ | .fallthrough span | .jump span _ => span
  | .loop node => node.span
  | .directive node => node.span
  | .declaration node => node.span

/-- Where a condition is written. -/
def Condition.span : Condition → Span
  | .expression node => node.span
  | .binding span _ _ _ => span

/-- Where an alternative is written. -/
def Alternative.span : Alternative → Span
  | .block node => node.span
  | .chained node => node.span

/-! ### Views -/

/-- The expression that decides a condition. -/
def Condition.expr : Condition → Expr
  | .expression node => node
  | .binding _ _ _ value => value

/-- Whether a condition binds a value. -/
def Condition.isBinding : Condition → Bool
  | .expression _ => false
  | .binding _ _ _ _ => true

/-- Whether an `if` statement binds a value. -/
def Conditional.binds (conditional : Conditional) : Bool :=
  conditional.conditions.any (·.isBinding)

/-- The name that a call is resolved by: that of the function, or that of the member. -/
def Expr.calleeName? : Expr → Option String
  | .ident _ name => some name
  | .member _ _ name => some name.text
  | _ => none

/-- Whether a type is marked as a result builder. -/
def TypeDecl.isBuilder (decl : TypeDecl) : Bool :=
  decl.attributes.any fun mark =>
    ["resultBuilder", "functionBuilder", "_functionBuilder"].contains mark.name

/-- The functions among the members of a type. -/
def TypeDecl.functions (decl : TypeDecl) : List FunctionDecl :=
  decl.members.filterMap fun
    | .function node => some node
    | _ => none

/-- The variables among the members of a type. -/
def TypeDecl.properties (decl : TypeDecl) : List VariableDecl :=
  decl.members.filterMap fun
    | .variable node => some node
    | _ => none

/-- The name of a function with the labels of its parameters. -/
def FunctionDecl.fullName (decl : FunctionDecl) : String :=
  decl.name.text ++ "(" ++
    String.join (decl.params.map fun param => ((param.label.map (·.text)).getD "_") ++ ":") ++ ")"

/-- The names of the generic parameters of a function. -/
def FunctionDecl.genericNames (decl : FunctionDecl) : List String :=
  decl.generics.map (·.name.text)

/-! ### Kinds -/

/-- What an expression is called. -/
def Expr.kind : Expr → String
  | .literal _ _ => "literal"
  | .ident _ _ => "identifier"
  | .implicitMember _ _ => "implicit member"
  | .member _ _ _ => "member access"
  | .call _ _ _ _ => "function call"
  | .subscript _ _ _ => "subscript"
  | .tuple _ _ => "tuple"
  | .paren _ _ => "parenthesized expression"
  | .array _ _ => "array"
  | .closure _ => "closure"
  | .unary _ _ _ => "unary operation"
  | .binary _ _ _ _ => "operation"
  | .ternary _ _ _ _ => "ternary"
  | .assign _ _ _ _ => "assignment"
  | .postfixed _ _ _ => "postfix operation"

/-- What a statement is called. -/
def Statement.kind : Statement → String
  | .expression _ => "expression"
  | .conditional _ => "if-statement"
  | .switch _ => "switch-statement"
  | .doBlock _ _ => "do-statement"
  | .loop _ => "loop"
  | .returning _ _ _ => "return"
  | .fallthrough _ => "fallthrough"
  | .jump _ _ => "control transfer"
  | .directive _ => "directive"
  | .declaration _ => "declaration"

end ResultBuilder.Syntax
