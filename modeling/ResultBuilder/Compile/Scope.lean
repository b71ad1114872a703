import ResultBuilder.Body.Context
import ResultBuilder.Builder.Descriptor

/-!
# Scopes

The types and functions that can be named at a place of a program. Of several types of one name in
a scope the first one counts, and inner scopes hide outer ones. All functions of one name in a scope
count.
-/

namespace ResultBuilder

open Syntax

/-- What is declared in a block or among the members of a type. -/
structure Scope where
  /-- The structs and classes. -/
  types : List TypeDecl := []
  /-- The functions. -/
  functions : List FunctionDecl := []

namespace Scope

/-- The scope of declarations. -/
def ofDeclarations (declarations : List Declaration) : Scope where
  types := declarations.filterMap fun
    | .type node => some node
    | _ => none
  functions := declarations.filterMap fun
    | .function node => some node
    | _ => none

/-- The scope of statements. -/
def ofStatements (statements : List Statement) : Scope :=
  ofDeclarations (statements.filterMap fun
    | .declaration node => some node
    | _ => none)

/-- The type of a name in a scope. -/
def type? (scope : Scope) (name : String) : Option TypeDecl :=
  scope.types.find? (·.name.text == name)

/-- The functions of a name in a scope. -/
def named (scope : Scope) (name : String) : List FunctionDecl :=
  scope.functions.filter (·.name.text == name)

end Scope

/-- The scopes around a place, inner ones first. -/
abbrev Scopes := List Scope

namespace Scopes

/-- The type that a name means. -/
def type? (scopes : Scopes) (name : String) : Option TypeDecl :=
  scopes.findSome? (·.type? name)

/-- The builder that a name means. A type that is no builder hides builders further out. -/
def builder? (scopes : Scopes) (name : String) : Option TypeDecl :=
  (scopes.type? name).filter (·.isBuilder)

/-- The first attribute that names a builder, and the builder. -/
def builderAttribute? (scopes : Scopes) (marks : List Attribute) : Option (Span × TypeDecl) :=
  marks.findSome? fun mark => (scopes.builder? mark.name).map fun builder => (mark.span, builder)

/-- The functions of a name in the innermost scope that has any. -/
def functions? (scopes : Scopes) (name : String) : Option (List FunctionDecl) :=
  scopes.findSome? fun scope =>
    match scope.named name with
    | [] => none
    | found => some found

/-- The functions of a name among the members of the type that another name means. -/
def members (scopes : Scopes) (typeName name : String) : List FunctionDecl :=
  match scopes.type? typeName with
  | none => []
  | some decl => decl.functions.filter (·.name.text == name)

/-- The functions that a callee can mean: functions of its name, the initializers of a type of its
name, or the functions of a member's name in a type. -/
def candidates (scopes : Scopes) : Expr → List FunctionDecl
  | .ident _ name => (scopes.functions? name).getD (scopes.members name "init")
  | .member _ (.ident _ typeName) name => scopes.members typeName name.text
  | _ => []

end Scopes

end ResultBuilder
