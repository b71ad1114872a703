import ResultBuilder.Diagnostic.Basic
import ResultBuilder.Shape.Binding
import ResultBuilder.Syntax.Printer

/-!
# Capabilities and operations

A builder type offers capabilities through static functions of certain names. An operation is such
a function with the shapes of its signature. `Operation.candidate` tells for a function whether it
is an operation and, where its name says so but its signature does not fit, why it is passed over.
-/

namespace ResultBuilder

open Syntax

/-- What a builder can do for a body. -/
inductive Capability where
  /-- Joins the values of a block. -/
  | blockJoin
  /-- Wraps a value that may be missing. -/
  | optionalWrap
  /-- Wraps the first of two alternatives. -/
  | eitherFirst
  /-- Wraps the second of two alternatives. -/
  | eitherSecond
  /-- Wraps the value of a `do` block. -/
  | doWrap
  deriving DecidableEq, Repr

namespace Capability

/-- All capabilities, in order. -/
def all : List Capability :=
  [.blockJoin, .optionalWrap, .eitherFirst, .eitherSecond, .doWrap]

/-- The capability that a function of a name with given parameter labels is meant for. -/
def ofOperation? (name : String) (labels : List (Option String)) : Option Capability :=
  match name with
  | "buildBlock" => some .blockJoin
  | "buildIf" | "buildOptional" => some .optionalWrap
  | "buildDo" => some .doWrap
  | "buildEither" =>
      match labels with
      | [some "first"] => some .eitherFirst
      | [some "second"] => some .eitherSecond
      | _ => none
  | _ => none

/-- The name of a capability. -/
def text : Capability → String
  | .blockJoin => "blockJoin"
  | .optionalWrap => "optionalWrap"
  | .eitherFirst => "eitherFirst"
  | .eitherSecond => "eitherSecond"
  | .doWrap => "doWrap"

/-- The name of a capability as a constant, which events show. -/
def constantName : Capability → String
  | .blockJoin => "BlockJoin"
  | .optionalWrap => "OptionalWrap"
  | .eitherFirst => "EitherFirst"
  | .eitherSecond => "EitherSecond"
  | .doWrap => "DoWrap"

/-- The function that a builder declares to have a capability. -/
def operationName : Capability → String
  | .blockJoin => "buildBlock"
  | .optionalWrap => "buildIf"
  | .eitherFirst => "buildEither(first:)"
  | .eitherSecond => "buildEither(second:)"
  | .doWrap => "buildDo"

/-- The label of the argument of an operation. -/
def label : Capability → Option String
  | .eitherFirst => some "first"
  | .eitherSecond => some "second"
  | .blockJoin | .optionalWrap | .doWrap => none

end Capability

/-- A function by which a builder offers a capability. -/
structure Operation where
  /-- The capability. -/
  capability : Capability
  /-- The name of the function. -/
  name : String
  /-- The shapes of its parameters. -/
  params : List Shape
  /-- Whether its only parameter takes any number of arguments. -/
  isVariadic : Bool
  /-- Its generic parameters. -/
  generics : List String
  /-- The shape of its result. -/
  result : Shape
  /-- Where its name is written. -/
  span : Span
  deriving DecidableEq, Repr

namespace Operation

/-- The number of parameters. -/
def arity (operation : Operation) : Nat :=
  operation.params.length

/-- The label of the argument. -/
def label (operation : Operation) : Option String :=
  operation.capability.label

/-- Whether the operation takes a number of arguments. -/
def accepts (operation : Operation) (count : Nat) : Bool :=
  operation.isVariadic || operation.arity == count

/-- The template for the argument at a position. A variadic parameter serves for all of them. -/
def template? (operation : Operation) (index : Nat) : Option Shape :=
  if operation.isVariadic then operation.params.head? else operation.params[index]?

/-- What the parameters of the operation stand for, given the shapes of arguments from a position
on. -/
def bindFrom (operation : Operation) (index : Nat) (args : List Shape) (bindings : Bindings) :
    Bindings :=
  match args with
  | [] => bindings
  | arg :: rest =>
      operation.bindFrom (index + 1) rest
        (match operation.template? index with
          | some template => template.bind arg bindings
          | none => bindings)

/-- The shape of the result for arguments of given shapes. -/
def apply (operation : Operation) (args : List Shape) : Shape :=
  operation.result.substitute (operation.bindFrom 0 args [])

/-- A function as an operation for a capability. A function without a declared result returns the
type without content. -/
def ofFunction (capability : Capability) (function : FunctionDecl) : Operation :=
  let generics := function.genericNames
  { capability
    name := function.name.text
    params := function.params.map fun param => .ofType generics param.type
    isVariadic := function.params.any (·.isVariadic)
    generics
    result := (function.result.map (Shape.ofType generics)).getD .unit
    span := function.name.span }

/-- The first generic parameter that occurs neither in the parameters nor in the result. -/
def unusedGeneric? (operation : Operation) : Option String :=
  operation.generics.find? fun name =>
    !operation.params.any (·.mentions name) && !operation.result.mentions name

/-- Why a function named like an operation is none. -/
inductive Misfit where
  | notStatic
  | labeledParameter
  | mixedVariadic
  | notOneParameter
  | unexpectedLabel
  | unusedGeneric (name : String)
  deriving DecidableEq, Repr

/-- The reason in words. -/
def Misfit.text : Misfit → String
  | .notStatic => "not static"
  | .labeledParameter => "labeled parameter"
  | .mixedVariadic => "variadic parameter mixed with others"
  | .notOneParameter => "expected exactly one parameter"
  | .unexpectedLabel => "unexpected argument label"
  | .unusedGeneric name => s!"generic parameter '{name}' is never used"

/-- What a function of a type is to a builder. -/
inductive Candidate where
  /-- Its name is not that of an operation. -/
  | unrelated
  /-- Its signature does not fit. -/
  | misfit (reason : Misfit)
  /-- It is an operation. -/
  | fits (operation : Operation)
  deriving DecidableEq, Repr

/-- The labels of the parameters of a function. -/
def labels (function : FunctionDecl) : List (Option String) :=
  function.params.map fun param => param.label.map (·.text)

/-- The first reason why a function is not an operation for a capability. Joining takes parameters
without labels, of which a variadic one is the only one; everything else takes one parameter with
the label of the capability. No generic parameter is left unused. -/
def misfit? (capability : Capability) (function : FunctionDecl) : Option Misfit :=
  let labels := labels function
  let variadic := function.params.any (·.isVariadic)
  if !function.isStatic then some .notStatic
  else if capability = .blockJoin then
    if labels.any (·.isSome) then some .labeledParameter
    else if variadic && function.params.length != 1 then some .mixedVariadic
    else (ofFunction capability function).unusedGeneric?.map .unusedGeneric
  else
    if function.params.length != 1 || variadic then some .notOneParameter
    else if labels.head? != some capability.label then some .unexpectedLabel
    else (ofFunction capability function).unusedGeneric?.map .unusedGeneric

/-- What a function is to a builder. -/
def candidate (function : FunctionDecl) : Candidate :=
  match Capability.ofOperation? function.name.text (labels function) with
  | none => .unrelated
  | some capability =>
      match misfit? capability function with
      | some reason => .misfit reason
      | none => .fits (ofFunction capability function)

/-- The operation that a function is, if it is one. -/
def ofFunction? (function : FunctionDecl) : Option Operation :=
  match candidate function with
  | .fits operation => some operation
  | .unrelated | .misfit _ => none

/-- The JSON form of an operation. -/
def toJson (operation : Operation) : Json :=
  .object [("capability", .string operation.capability.text), ("name", .string operation.name),
    ("params", .ofList Shape.toJson operation.params), ("variadic", .bool operation.isVariadic),
    ("generics", .ofList .string operation.generics), ("returns", operation.result.toJson),
    ("span", operation.span.toJson)]

end Operation

end ResultBuilder
