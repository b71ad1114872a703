import ResultBuilder.Compile.Walk
import ResultBuilder.Config.Json
import ResultBuilder.Diagnostic.Syntax
import ResultBuilder.Host
import ResultBuilder.Syntax.Parser

/-!
# Transforming a program

A walk visits every statement, declaration and expression of a program once. It applies builders to
the bodies of functions and computed properties with a builder attribute and to closures that are
given for parameters with one, and it forwards the directives of the program.
-/

namespace ResultBuilder

open Syntax

namespace Compile

/-- What surrounds a place of a program. -/
structure Surroundings where
  /-- Those who are asked. -/
  services : Collaborators
  /-- How bodies are transformed. -/
  config : Config
  /-- The scopes, inner ones first. -/
  scopes : Scopes := []
  /-- The generic parameters in scope, outer ones first. -/
  typeParams : List String := []
  /-- The parameters of the functions and closures around, outer ones first. -/
  params : List String := []
  /-- The object of the innermost type around. -/
  implicitSelf : Option ImplicitSelf := none

namespace Surroundings

/-- The inside of a block. -/
def inBlock (around : Surroundings) (statements : List Statement) : Surroundings :=
  { around with scopes := .ofStatements statements :: around.scopes }

/-- The inside of a closure, outside its block. -/
def inClosure (around : Surroundings) (params : List Name) : Surroundings :=
  { around with params := around.params ++ params.map (·.text) }

/-- The inside of a function, outside its block. -/
def inFunction (around : Surroundings) (generics : List GenericParam) (params : List Param) :
    Surroundings :=
  { around with
    typeParams := around.typeParams ++ generics.map (·.name.text)
    params := around.params ++ params.map (·.name.text) }

/-- The inside of a type. -/
def inType (around : Surroundings) (decl : TypeDecl) : Surroundings :=
  { around with
    scopes := .ofDeclarations decl.members :: around.scopes
    typeParams := around.typeParams ++ decl.generics.map (·.name.text)
    implicitSelf := some {
      typeName := decl.name.text
      isReference := decl.kind = .classType
      members := decl.properties.map (·.name.text) } }

/-- The context of a body. -/
def context (around : Surroundings) (kind : BodyKind) (span : Span) (params : List Name) :
    BodyContext where
  kind := kind
  span := span
  params := around.params ++ params.map (·.text)
  typeParams := around.typeParams
  implicitSelf := around.implicitSelf

end Surroundings

/-! ### Bodies -/

/-- The diagnostic for a type that is applied to a body although it cannot join values. -/
def invalidBuilder (error : InvalidBuilder) (place : Span) : Diagnostic :=
  ⟨.error, DiagnosticCode.builderDescriptorInvalid.number, error.message,
    [.primary "builder applied here" place, error.builder.declaredHere], []⟩

/-- Transforms a body. Its questions and events are noted at once; its diagnostics only count when
the outcome is committed. -/
def attempt (around : Surroundings) (builder : TypeDecl) (body : Block) (context : BodyContext) :
    Walk (Except Diagnostic Transform.Transformed) := do
  match ← Walk.resolve builder with
  | .error error => return .error (invalidBuilder error context.span)
  | .ok descriptor =>
      let outcome := transform ⟨descriptor, around.services, context, around.config⟩ body
      Walk.note (outcome.journal.filter fun
        | .reported _ => false
        | _ => true)
      return .ok outcome

/-- Accepts what became of a body: its diagnostics, and the body unless it failed. -/
def commit (kind : BodyKind) (builder : TypeDecl) (span : Span)
    (outcome : Transform.Transformed) : Findings :=
  let relayed := outcome.journal.diagnostics
  let body (expansion : Expansion) : TransformedBody := ⟨kind, builder.name.text, span, expansion⟩
  match outcome.result with
  | .built built => { diagnostics := relayed, bodies := [body (.built built)] }
  | .verbatim block => { diagnostics := relayed, bodies := [body (.verbatim block)] }
  | .failed error => { diagnostics := relayed ++ [error.diagnostic] }

/-- Transforms the body of a declaration with a builder attribute. -/
def apply (around : Surroundings) (builder : TypeDecl) (body : Block) (context : BodyContext) :
    Walk Unit := do
  match ← attempt around builder body context with
  | .error diagnostic => Walk.report [diagnostic]
  | .ok outcome => Walk.found (commit context.kind builder body.span outcome)

/-- Transforms the body of a declaration if one of its attributes names a builder. -/
def applyAttribute (around : Surroundings) (marks : List Attribute) (kind : BodyKind)
    (body : Block) : Walk Unit :=
  match around.scopes.builderAttribute? marks with
  | none => return
  | some (mark, builder) =>
      apply around builder body
        { around.context kind body.span [] with builderAttribute := some mark }

/-! ### Calls -/

/-- Transforms closures one after the other, up to one whose builder is invalid. -/
def tryClosures (around : Surroundings) :
    List BuilderClosure → Walk (List Transform.Transformed × Option Diagnostic)
  | [] => return ([], none)
  | given :: rest => do
      let closure := given.closure
      let context :=
        { around.context .closure closure.span closure.params with isEscaping := given.isEscaping }
      match ← attempt around given.builder closure.body context with
      | .error diagnostic => return ([], some diagnostic)
      | .ok outcome =>
          let (outcomes, invalid) ← tryClosures around rest
          return (outcome :: outcomes, invalid)

/-- Tries possibilities one after the other. -/
def tryAll (around : Surroundings) : List CallBinding → Walk (List Trial)
  | [] => return []
  | binding :: rest => do
      let (outcomes, invalid) ← tryClosures around binding.closures
      let others ← tryAll around rest
      return ⟨binding, outcomes, invalid⟩ :: others

/-- What a trial finds when it is the one that is meant. -/
def commitTrial (trial : Trial) : Findings :=
  let committed := (trial.binding.closures.zip trial.outcomes).map fun (given, outcome) =>
    commit .closure given.builder given.closure.span outcome
  committed.foldr (· ++ ·) { diagnostics := trial.invalid.toList }

/-- The possibilities for a call in which a closure is given for a parameter with a builder. -/
def bindings (around : Surroundings) (callee : Expr) (args : List Argument)
    (trailing : Option Closure) : List CallBinding :=
  ((around.scopes.candidates callee).filterMap
    (CallBinding.ofCall? around.scopes args trailing)).filter (!·.closures.isEmpty)

/-- Transforms the closures of a call. -/
def transformCall (around : Surroundings) (callee : Expr) (args : List Argument)
    (trailing : Option Closure) : Walk Unit := do
  match bindings around callee args trailing with
  | [] => return
  | first :: rest =>
      let site : OverloadSite := ⟨first.function.fullName, callee.span⟩
      let trials ← tryAll around (first :: rest)
      Walk.note [.happened (Selection.event trials site)]
      let (selection, questions) := Selection.ofTrials around.services site trials
      Walk.note (questions.map .asked)
      match selection with
      | .commit index =>
          match trials[index]? with
          | some trial => Walk.found (commitTrial trial)
          | none => return
      | .ambiguous diagnostic =>
          Walk.note [.happened
            ⟨.debug, "ambiguous builder overloads", [("callee", site.name)]⟩]
          Walk.report [diagnostic]

/-! ### The walk -/

/-- The diagnostic for a directive. -/
def directiveDiagnostic (node : Directive) : Diagnostic :=
  let labels := [Label.primary "" node.span]
  match node.kind with
  | .error => ⟨.error, DiagnosticCode.directiveError.number, node.message, labels, []⟩
  | .warning => ⟨.warning, DiagnosticCode.directiveWarning.number, node.message, labels, []⟩

mutual

/-- Walks through a block. -/
def block (around : Surroundings) : Block → Walk Unit
  | ⟨_, statements⟩ => statementList (around.inBlock statements) statements

/-- Walks through statements whose scope is known. -/
def statementList (around : Surroundings) : List Statement → Walk Unit
  | [] => return
  | first :: rest => do
      statement around first
      statementList around rest

/-- Walks through a statement. -/
def statement (around : Surroundings) : Statement → Walk Unit
  | .expression node => expression around node
  | .conditional node => conditional around node
  | .switch ⟨_, subject, cases⟩ => do
      expression around subject
      caseList around cases
  | .doBlock _ body => block around body
  | .loop ⟨_, _, header, body⟩ => do
      expression around header
      block around body
  | .returning _ _ none | .fallthrough _ | .jump _ _ => return
  | .returning _ _ (some value) => expression around value
  | .directive node => Walk.report [directiveDiagnostic node]
  | .declaration node => declaration around node

/-- Walks through an `if` statement. -/
def conditional (around : Surroundings) : Conditional → Walk Unit
  | ⟨_, conditions, thenBlock, none⟩ => do
      conditionList around conditions
      block around thenBlock
  | ⟨_, conditions, thenBlock, some otherwise⟩ => do
      conditionList around conditions
      block around thenBlock
      alternative around otherwise

/-- Walks through what is done otherwise. -/
def alternative (around : Surroundings) : Alternative → Walk Unit
  | .block node => block around node
  | .chained node => conditional around node

/-- Walks through conditions. -/
def conditionList (around : Surroundings) : List Condition → Walk Unit
  | [] => return
  | .expression node :: rest => do
      expression around node
      conditionList around rest
  | .binding _ _ _ value :: rest => do
      expression around value
      conditionList around rest

/-- Walks through the cases of a `switch`. -/
def caseList (around : Surroundings) : List SwitchCase → Walk Unit
  | [] => return
  | ⟨_, _, body⟩ :: rest => do
      block around body
      caseList around rest

/-- Walks through a declaration. -/
def declaration (around : Surroundings) : Declaration → Walk Unit
  | .type ⟨span, marks, kind, name, generics, members⟩ =>
      declarationList (around.inType ⟨span, marks, kind, name, generics, members⟩) members
  | .function ⟨_, _, _, _, _, _, _, none⟩ | .enum _ => return
  | .function ⟨_, marks, _, _, generics, params, _, some body⟩ => do
      let inside := around.inFunction generics params
      applyAttribute inside marks .function body
      block inside body
  | .variable ⟨_, marks, _, _, _, value, body⟩ => do
      initialValue around value
      property around marks body

/-- Walks through the first value of a variable. -/
def initialValue (around : Surroundings) : Option Expr → Walk Unit
  | none => return
  | some value => expression around value

/-- Walks through the body of a computed property. -/
def property (around : Surroundings) (marks : List Attribute) : Option Block → Walk Unit
  | none => return
  | some body => do
      applyAttribute around marks .property body
      block around body

/-- Walks through declarations. -/
def declarationList (around : Surroundings) : List Declaration → Walk Unit
  | [] => return
  | first :: rest => do
      declaration around first
      declarationList around rest

/-- Walks through an expression. The closures of a call are transformed before its parts are walked
through. -/
def expression (around : Surroundings) : Expr → Walk Unit
  | .call _ callee args none => do
      transformCall around callee args none
      expression around callee
      argumentList around args
  | .call _ callee args (some trailing) => do
      transformCall around callee args (some trailing)
      expression around callee
      argumentList around args
      closure around trailing
  | .closure node => closure around node
  | .member _ base _ => expression around base
  | .subscript _ base args => do
      expression around base
      argumentList around args
  | .tuple _ elements => argumentList around elements
  | .array _ elements => expressionList around elements
  | .paren _ inner | .unary _ _ inner | .postfixed _ inner _ => expression around inner
  | .binary _ left _ right => do
      expression around left
      expression around right
  | .ternary _ condition thenValue elseValue => do
      expression around condition
      expression around thenValue
      expression around elseValue
  | .assign _ target _ value => do
      expression around target
      expression around value
  | .literal _ _ | .ident _ _ | .implicitMember _ _ => return

/-- Walks through expressions. -/
def expressionList (around : Surroundings) : List Expr → Walk Unit
  | [] => return
  | first :: rest => do
      expression around first
      expressionList around rest

/-- Walks through arguments. -/
def argumentList (around : Surroundings) : List Argument → Walk Unit
  | [] => return
  | ⟨_, _, value⟩ :: rest => do
      expression around value
      argumentList around rest

/-- Walks through a closure. -/
def closure (around : Surroundings) : Closure → Walk Unit
  | ⟨_, params, body⟩ => block (around.inClosure params) body

end

/-! ### Results -/

/-- What comes of a program without errors. -/
structure Compilation where
  /-- The bodies that builders were applied to. -/
  bodies : List TransformedBody
  /-- The diagnostics, none of which is an error. -/
  warnings : List Diagnostic
  /-- How the bodies were transformed. -/
  config : Config

/-- The JSON form of what comes of a program. -/
def Compilation.toJson (compilation : Compilation) : Json :=
  .object [("bodies", .ofList TransformedBody.toJson compilation.bodies),
    ("warnings", .ofList Diagnostic.toJson compilation.warnings),
    ("config", compilation.config.toJson)]

/-- What comes of a program, or the diagnostics when one of them is an error. -/
abbrev Outcome := Except (List Diagnostic) Compilation

/-- The diagnostics of a program, whether or not one of them is an error. -/
def Outcome.diagnostics : Outcome → List Diagnostic
  | .ok compilation => compilation.warnings
  | .error diagnostics => diagnostics

/-- The event at the end of a walk. -/
def finished (findings : Findings) : Event :=
  ⟨.debug, "compilation finished",
    [("bodies", toString findings.bodies.length),
      ("diagnostics", toString findings.diagnostics.length)]⟩

/-- Transforms a program, asking given collaborators. -/
def programWith (services : Collaborators) (config : Config) (program : Program) :
    Walk Outcome := fun cache =>
  let around : Surroundings := { services, config }
  let walked := statementList (around.inBlock program.statements) program.statements cache
  let findings := walked.findings
  let outcome : Outcome :=
    if findings.diagnostics.any (·.isError) then .error findings.diagnostics
    else .ok ⟨findings.bodies, findings.diagnostics, config⟩
  ⟨outcome, findings ++ { journal := [.happened (finished findings)] }, walked.cache⟩

end Compile

/-- Transforms a source, asking the host for its declarations. A syntax error is the only diagnostic
of a source that cannot be read. -/
def compile (config : Config) (source : String) : Compile.Outcome × List Event :=
  match parse source with
  | .error error => (.error [error.diagnostic], [])
  | .ok program =>
      let walked := Compile.programWith (Host.ofProgram program).collaborators config program {}
      (walked.value, walked.findings.journal.events)

end ResultBuilder
