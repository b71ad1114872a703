import ResultBuilder.Builder.Operation
import ResultBuilder.Diagnostic.Kind
import ResultBuilder.Event

/-!
# Descriptors of builders

A descriptor records what a builder type offers: for each number of values a function that joins
them, possibly one for any number, and at most one operation for every other capability. Of several
functions for the same thing the first one declared counts. A type without any way to join values
is no builder.
-/

namespace ResultBuilder

open Syntax

/-- A builder type. -/
structure BuilderRef where
  /-- Its name. -/
  name : String
  /-- Whether it is a struct or a class. -/
  kind : TypeKind
  /-- Where its name is declared. -/
  span : Span
  deriving DecidableEq, Repr

namespace BuilderRef

/-- The builder that a type declaration declares. -/
def ofDecl (decl : TypeDecl) : BuilderRef :=
  ⟨decl.name.text, decl.kind, decl.name.span⟩

/-- The label that shows where a builder is declared. -/
def declaredHere (builder : BuilderRef) : Label :=
  .context s!"{builder.kind.text} '{builder.name}' declared here" builder.span

/-- The JSON form of a builder. -/
def toJson (builder : BuilderRef) : Json :=
  .object [("name", .string builder.name), ("kind", .string builder.kind.text),
    ("span", builder.span.toJson)]

end BuilderRef

/-- What a builder offers. -/
structure Descriptor where
  /-- The builder. -/
  builder : BuilderRef
  /-- The functions that join a fixed number of values, one for each number. -/
  fixedBlocks : List Operation := []
  /-- The function that joins any number of values. -/
  variadicBlock : Option Operation := none
  /-- The wrapper of a value that may be missing. -/
  optionalWrap : Option Operation := none
  /-- The wrapper of the first of two alternatives. -/
  eitherFirst : Option Operation := none
  /-- The wrapper of the second of two alternatives. -/
  eitherSecond : Option Operation := none
  /-- The wrapper of a `do` block. -/
  doWrap : Option Operation := none
  deriving DecidableEq, Repr

namespace Descriptor

/-- The function that joins a fixed number of values. -/
def fixedBlock? (descriptor : Descriptor) (count : Nat) : Option Operation :=
  descriptor.fixedBlocks.find? (·.arity == count)

/-- The function that joins a number of values. One for just this number is preferred to one for any
number. -/
def blockJoin? (descriptor : Descriptor) (count : Nat) : Option Operation :=
  descriptor.fixedBlock? count <|> descriptor.variadicBlock

/-- The numbers of values for which there is a function, ascending. -/
def blockArities (descriptor : Descriptor) : List Nat :=
  (descriptor.fixedBlocks.map (·.arity)).mergeSort

/-- The wrappers of both alternatives, which are of use together only. -/
def either? (descriptor : Descriptor) : Option (Operation × Operation) :=
  match descriptor.eitherFirst, descriptor.eitherSecond with
  | some first, some second => some (first, second)
  | _, _ => none

/-- Whether a builder has a capability. -/
def has (descriptor : Descriptor) : Capability → Bool
  | .blockJoin => !descriptor.fixedBlocks.isEmpty || descriptor.variadicBlock.isSome
  | .optionalWrap => descriptor.optionalWrap.isSome
  | .eitherFirst => descriptor.eitherFirst.isSome
  | .eitherSecond => descriptor.eitherSecond.isSome
  | .doWrap => descriptor.doWrap.isSome

/-- The capabilities of a builder, in order. -/
def capabilities (descriptor : Descriptor) : List Capability :=
  Capability.all.filter descriptor.has

/-- Whether a function joins a number of values for which there is one already. -/
def isDuplicate (descriptor : Descriptor) (operation : Operation) : Bool :=
  operation.capability = .blockJoin && !operation.isVariadic &&
    (descriptor.fixedBlock? operation.arity).isSome

/-- Adds an operation unless there is one in its place. -/
def record (descriptor : Descriptor) (operation : Operation) : Descriptor :=
  match operation.capability with
  | .blockJoin =>
      if operation.isVariadic then
        { descriptor with variadicBlock := descriptor.variadicBlock <|> some operation }
      else if (descriptor.fixedBlock? operation.arity).isSome then descriptor
      else { descriptor with fixedBlocks := descriptor.fixedBlocks ++ [operation] }
  | .optionalWrap => { descriptor with optionalWrap := descriptor.optionalWrap <|> some operation }
  | .eitherFirst => { descriptor with eitherFirst := descriptor.eitherFirst <|> some operation }
  | .eitherSecond => { descriptor with eitherSecond := descriptor.eitherSecond <|> some operation }
  | .doWrap => { descriptor with doWrap := descriptor.doWrap <|> some operation }

/-- Adds the operations among functions, in order. -/
def recordAll (descriptor : Descriptor) (functions : List FunctionDecl) : Descriptor :=
  (functions.filterMap Operation.ofFunction?).foldl record descriptor

/-- The JSON form of a descriptor. -/
def toJson (descriptor : Descriptor) : Json :=
  let slot := Json.ofOption Operation.toJson
  .object [("builder", descriptor.builder.toJson),
    ("blocks", .object (descriptor.blockArities.filterMap fun arity =>
      (descriptor.fixedBlock? arity).map fun operation => (toString arity, operation.toJson))),
    ("variadic_block", slot descriptor.variadicBlock),
    ("optional_wrap", slot descriptor.optionalWrap),
    ("either_first", slot descriptor.eitherFirst),
    ("either_second", slot descriptor.eitherSecond),
    ("do_wrap", slot descriptor.doWrap)]

end Descriptor

/-! ### Resolution -/

/-- A type that cannot join values and therefore is no builder. -/
structure InvalidBuilder where
  /-- The type. -/
  builder : BuilderRef
  deriving DecidableEq, Repr

namespace InvalidBuilder

/-- The error in words. -/
def message (error : InvalidBuilder) : String :=
  s!"function builder '{error.builder.name}' does not provide a static 'buildBlock' method"

/-- The diagnostic at the declaration of the type. -/
def diagnostic (error : InvalidBuilder) : Diagnostic :=
  ⟨.error, DiagnosticCode.builderDescriptorInvalid.number, error.message,
    [.primary "at least one 'buildBlock' overload is required" error.builder.span], []⟩

end InvalidBuilder

namespace Descriptor

/-- What a builder type offers. -/
def resolve (decl : TypeDecl) : Except InvalidBuilder Descriptor :=
  let descriptor := recordAll { builder := .ofDecl decl } decl.functions
  if descriptor.has .blockJoin then .ok descriptor else .error ⟨descriptor.builder⟩

/-! ### Events -/

/-- The event for a function that is looked at when a descriptor holds what came before it. -/
def functionEvents (descriptor : Descriptor) (function : FunctionDecl) : List Event :=
  match Operation.candidate function with
  | .unrelated => []
  | .misfit reason =>
      [⟨.debug, "skipping builder operation",
        [("builder", descriptor.builder.name), ("operation", function.fullName),
          ("reason", reason.text)]⟩]
  | .fits operation =>
      if descriptor.isDuplicate operation then
        [⟨.debug, "ignoring duplicate 'buildBlock' overload",
          [("builder", descriptor.builder.name), ("arity", toString operation.arity)]⟩]
      else []

/-- The events for functions that are looked at one after the other. -/
def functionsEvents (descriptor : Descriptor) : List FunctionDecl → List Event
  | [] => []
  | function :: rest =>
      descriptor.functionEvents function ++
        (descriptor.recordAll [function]).functionsEvents rest

/-- Texts between brackets, with commas between them. -/
def enclosed (opening closing : String) (texts : List String) : String :=
  opening ++ commaSeparated texts ++ closing

/-- The events of a resolution. -/
def resolveEvents (decl : TypeDecl) : List Event :=
  functionsEvents { builder := .ofDecl decl } decl.functions ++
    match resolve decl with
    | .error _ => []
    | .ok descriptor =>
        [⟨.debug, "resolved builder",
          [("builder", descriptor.builder.name),
            ("arities", enclosed "[" "]" (descriptor.blockArities.map toString)),
            ("capabilities",
              enclosed "\x7b" "\x7d" (descriptor.capabilities.map (·.constantName)))]⟩]

end Descriptor

end ResultBuilder
