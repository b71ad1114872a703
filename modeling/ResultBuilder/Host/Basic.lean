import ResultBuilder.Builder.Descriptor

/-!
# The declarations of a program

A host answers questions about the bodies of a program from the declarations in it. It knows the
types, enums and functions at the top, among the members of types, in the bodies of functions and
computed properties, in `do` blocks, and in the branches of `if` statements up to the first chained
one. Of several types, or enums, of one name the first one counts.
-/

namespace ResultBuilder

open Syntax

/-! ### Collecting declarations -/

mutual

/-- The declarations that a statement makes known, in order. -/
def Syntax.Statement.known : Statement → List Declaration
  | .declaration node => node.known
  | .conditional node => node.known
  | .doBlock _ body => body.known
  | .expression _ | .switch _ | .loop _ | .returning _ _ _ | .fallthrough _ | .jump _ _
  | .directive _ => []

/-- The declarations that statements make known. -/
def Syntax.Statement.allKnown : List Statement → List Declaration
  | [] => []
  | statement :: rest => statement.known ++ Statement.allKnown rest

/-- The declarations that a block makes known. -/
def Syntax.Block.known : Block → List Declaration
  | ⟨_, statements⟩ => Statement.allKnown statements

/-- The declarations that the branches of an `if` statement make known, chained ones left out. -/
def Syntax.Conditional.known : Conditional → List Declaration
  | ⟨_, _, thenBlock, some (.block node)⟩ => thenBlock.known ++ node.known
  | ⟨_, _, thenBlock, none⟩ | ⟨_, _, thenBlock, some (.chained _)⟩ => thenBlock.known

/-- A declaration with those that it contains. -/
def Syntax.Declaration.known : Declaration → List Declaration
  | .type ⟨span, marks, kind, name, generics, members⟩ =>
      .type ⟨span, marks, kind, name, generics, members⟩ :: Declaration.allKnown members
  | .enum node => [.enum node]
  | .function ⟨span, marks, isStatic, name, generics, params, result, none⟩ =>
      [.function ⟨span, marks, isStatic, name, generics, params, result, none⟩]
  | .function ⟨span, marks, isStatic, name, generics, params, result, some body⟩ =>
      .function ⟨span, marks, isStatic, name, generics, params, result, some body⟩ :: body.known
  | .variable ⟨_, _, _, _, _, _, none⟩ => []
  | .variable ⟨_, _, _, _, _, _, some body⟩ => body.known

/-- Declarations with those that they contain. -/
def Syntax.Declaration.allKnown : List Declaration → List Declaration
  | [] => []
  | declaration :: rest => declaration.known ++ Declaration.allKnown rest

end

/-! ### The host -/

/-- The declarations that questions are answered from, in the order of the program. -/
structure Host where
  /-- The structs and classes. -/
  types : List TypeDecl := []
  /-- The enums. -/
  enums : List EnumDecl := []
  /-- The functions, methods and initializers. -/
  functions : List FunctionDecl := []

namespace Host

/-- The host for some declarations. -/
def ofDeclarations (declarations : List Declaration) : Host where
  types := declarations.filterMap fun
    | .type node => some node
    | _ => none
  enums := declarations.filterMap fun
    | .enum node => some node
    | _ => none
  functions := declarations.filterMap fun
    | .function node => some node
    | _ => none

/-- The host for a program. -/
def ofProgram (program : Program) : Host :=
  ofDeclarations (Statement.allKnown program.statements)

/-- The first struct or class of a name. -/
def type? (host : Host) (name : String) : Option TypeDecl :=
  host.types.find? (·.name.text == name)

/-- The first enum of a name. -/
def enum? (host : Host) (name : String) : Option EnumDecl :=
  host.enums.find? (·.name.text == name)

/-- Whether a name is that of a type. -/
def isType (host : Host) (name : String) : Bool :=
  (host.type? name).isSome || (host.enum? name).isSome

/-- The shape of the declared result of a function, its generic parameters unknown. -/
def resultShape (function : FunctionDecl) : Shape :=
  match function.result with
  | none => .unit
  | some result => (Shape.ofType function.genericNames result).substitute []

/-- The shape of the result that all functions of a name have in common. -/
def functionResult? (host : Host) (name : String) : Option Shape :=
  match (host.functions.filter (·.name.text == name)).map resultShape with
  | [] => none
  | first :: rest => if rest.all (· == first) then some first else none

/-- The initializers of a type. -/
def initializers (decl : TypeDecl) : List FunctionDecl :=
  decl.functions.filter (·.name.text == "init")

/-- The shape of the result of the last static function of a name in a type. -/
def staticResult? (decl : TypeDecl) (name : String) : Option Shape :=
  (decl.functions.filter fun function =>
    function.isStatic && function.name.text == name && name != "init").getLast?.map resultShape

end Host

end ResultBuilder
