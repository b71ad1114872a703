import ResultBuilder.Journal
import ResultBuilder.Synthesis.Failure
import ResultBuilder.Synthesis.Paths
import ResultBuilder.Synthesis.Tree

/-!
# Transforming a body

A body becomes one expression over the operations of its builder. Each block becomes a call that
joins the values of its statements; a value that may be missing, a choice between two values and the
value of a `do` block are wrapped by the operations made for them. Before anything in a block is
transformed, each of its statements is checked for what it needs.
-/

namespace ResultBuilder

open Syntax

namespace Transform

/-- What a body is transformed with. -/
structure Setting where
  /-- The builder. -/
  descriptor : Descriptor
  /-- Those who are asked. -/
  services : Collaborators
  /-- Where the body stands. -/
  context : BodyContext
  /-- How it is transformed. -/
  config : Config

/-- A transformed part of a body with its shape. -/
structure Built where
  /-- The expression. -/
  expr : Synthesized
  /-- The shape of its value. -/
  shape : Shape

/-- A step of transforming. -/
abbrev Step := Journaled TransformError

/-! ### What statements need -/

/-- The error for a statement that cannot become a value. -/
def rejected (setting : Setting) (rejection : Rejection) : TransformError :=
  if rejection.kind.isControlFlow then
    .controlFlow setting.context.kind setting.descriptor.builder rejection.kind rejection.span
  else
    .declaration setting.context.kind setting.descriptor.builder rejection.span

/-- The error for an operation that the builder lacks. -/
def missing (setting : Setting) (capability : Capability) (span : Span) : TransformError :=
  .missingCapability setting.context.kind setting.descriptor.builder capability span

/-- The wrapper of a value that may be missing. -/
def optionalWrap (setting : Setting) (span : Span) : Except TransformError Operation :=
  match setting.descriptor.optionalWrap with
  | some operation => .ok operation
  | none => .error (missing setting .optionalWrap span)

/-- The wrappers of two alternatives, or the first one that is lacking. -/
def either (setting : Setting) (span : Span) : Except TransformError (Operation × Operation) :=
  match setting.descriptor.either? with
  | some operations => .ok operations
  | none =>
      if setting.descriptor.has .eitherFirst then .error (missing setting .eitherSecond span)
      else .error (missing setting .eitherFirst span)

/-- The error for a block whose values cannot be joined, given the spans of the values. -/
def arityError (setting : Setting) (components : List Span) (span : Span) : TransformError :=
  let builder := setting.descriptor.builder
  let arities := setting.descriptor.blockArities
  let count := components.length
  let tooFew : TransformError :=
    match arities.head? with
    | some least =>
        if count < least then .missingArgument builder (count + 1) span
        else .noBlockOverload builder count arities span
    | none => .noBlockOverload builder count arities span
  match arities.getLast? with
  | some most =>
      if most < count then .extraArgument builder count most (components[most]?.getD span)
      else tooFew
  | none => tooFew

/-- The operation that joins a block, given the spans of its values. -/
def blockJoin (setting : Setting) (components : List Span) (span : Span) :
    Except TransformError Operation :=
  match setting.descriptor.blockJoin? components.length with
  | some operation => .ok operation
  | none => .error (arityError setting components span)

/-- Fails on a statement that cannot become a value, or that needs an operation that the builder
lacks. -/
def check (setting : Setting) (statement : Statement) : Except TransformError Unit :=
  match statement.form with
  | .rejected rejection => .error (rejected setting rejection)
  | .optional _ => (fun _ => ()) <$> optionalWrap setting statement.span
  | .either _ => (fun _ => ()) <$> either setting statement.span
  | .switch node =>
      if 1 < node.cases.length then (fun _ => ()) <$> either setting statement.span else .ok ()
  | .expression _ | .doBlock _ | .returning _ | .directive _ => .ok ()

/-- Checks statements one after the other. -/
def checkAll (setting : Setting) : List Statement → Except TransformError Unit
  | [] => .ok ()
  | statement :: rest => do
      check setting statement
      checkAll setting rest

/-- The spans of the statements that become values. -/
def componentSpans (statements : List Statement) : List Span :=
  (statements.filter (·.form.isComponent)).map (·.span)

/-! ### Asking -/

/-- The remark that tells where a diagnostic of a collaborator comes from. -/
def relayNote (setting : Setting) : Note :=
  .basic ("in " ++ setting.context.kind.text ++ " transformed by function builder '" ++
    setting.descriptor.builder.name ++ "'")

/-- A question with the diagnostics that answer it. -/
def relay (setting : Setting) (question : Question) (answer : List Diagnostic) : Journal :=
  .asked question ::
    answer.map fun diagnostic => .reported (diagnostic.withNote (relayNote setting))

/-- The checks of an expression that becomes a value or decides between values. -/
def leafChecks (setting : Setting) (expr : Expr) : Journal :=
  (if setting.config.checkSyntacticUses then
    relay setting (.expression setting.context expr)
      (setting.services.checkExpression setting.context expr)
  else []) ++
  (if setting.config.checkCaptures then
    relay setting (.captures setting.context expr)
      (setting.services.checkCaptures setting.context expr)
  else [])

/-- The checks of a condition. -/
def conditionChecks (setting : Setting) (condition : Condition) : Journal :=
  relay setting (.condition setting.context condition)
      (setting.services.checkCondition setting.context condition) ++
    leafChecks setting condition.expr

/-- The checks of the cases and the subject of a `switch`. -/
def switchChecks (setting : Setting) (node : Switch) : Journal :=
  relay setting (.exhaustive setting.context node)
      (setting.services.checkExhaustive setting.context node) ++
    leafChecks setting node.subject

/-- The event for a statement that is about to be transformed. -/
def statementEvent (setting : Setting) (statement : Statement) : Journal :=
  [.happened ⟨.trace, "transforming statement",
    [("builder", setting.descriptor.builder.name), ("statement", statement.form.text)]⟩]

/-! ### Calls -/

/-- A call of an operation on values. -/
def call (setting : Setting) (operation : Operation) (args : List Synthesized) (origin : Span) :
    Synthesized :=
  .call {
    builder := setting.descriptor.builder.name
    capability := operation.capability
    name := operation.name
    label := operation.label
    args
    origin }

/-- Values joined by an operation. -/
def join (setting : Setting) (operation : Operation) (components : List Built) (origin : Span) :
    Built :=
  ⟨call setting operation (components.map (·.expr)) origin,
    operation.apply (components.map (·.shape))⟩

/-- A value wrapped by an operation. -/
def wrap (setting : Setting) (operation : Operation) (built : Built) (origin : Span) : Built :=
  join setting operation [built] origin

/-- The value of a `do` block, which is wrapped where the builder has an operation for it. -/
def doWrapped (setting : Setting) (span : Span) (built : Built) : Built :=
  match setting.descriptor.doWrap with
  | some operation => wrap setting operation built span
  | none => built

/-- A value wrapped along a path of alternatives. -/
def wrapAlong (setting : Setting) (operations : Operation × Operation) (origin : Span)
    (path : List Branch) (built : Built) : Built :=
  path.foldr
    (fun branch inner =>
      match branch with
      | .first => wrap setting operations.1 inner origin
      | .second => wrap setting operations.2 inner origin)
    built

/-- A value that is wrapped when the conditions hold and missing otherwise. -/
def optional (setting : Setting) (operation : Operation) (conditions : List Condition)
    (built : Built) (origin : Span) : Built :=
  ⟨.conditional conditions (call setting operation [built.expr] origin)
      (call setting operation [.nil] origin),
    operation.apply [built.shape]⟩

/-- One of two values, each wrapped as an alternative. -/
def alternatives (setting : Setting) (operations : Operation × Operation)
    (conditions : List Condition) (thenBuilt elseBuilt : Built) (origin : Span) : Built :=
  let first := wrap setting operations.1 thenBuilt origin
  let second := wrap setting operations.2 elseBuilt origin
  ⟨.conditional conditions first.expr second.expr, first.shape.unify second.shape⟩

/-- The values for cases, each wrapped along its path when there is more than one. -/
def wrapCases (setting : Setting) (operations : Option (Operation × Operation))
    (cases : List SwitchCase) (built : List Built) : List Built :=
  let paths := eitherPaths built.length setting.config.eitherEncoding
  ((cases.zip built).zip paths).map fun ((switchCase, value), path) =>
    match operations with
    | none => value
    | some operations => wrapAlong setting operations switchCase.span path value

/-- One of the values for the cases of a `switch`. -/
def chooseCase (subject : Expr) (cases : List SwitchCase) (built : List Built) : Built :=
  ⟨.switch subject ((cases.zip built).map fun (switchCase, value) =>
      ⟨switchCase.label, value.expr⟩),
    built.foldl (fun shape value => shape.unify value.shape) .hole⟩

/-! ### Blocks and statements -/

/-- Transforms an expression. -/
def leaf (setting : Setting) (expr : Expr) : Step Built := do
  .write (leafChecks setting expr)
  .write [.asked (.type setting.context expr)]
  return ⟨.leaf expr, setting.services.typeOf setting.context expr⟩

mutual

/-- Transforms a block to one value. -/
def block (setting : Setting) : Block → Step Built
  | ⟨span, statements⟩ => do
      .ofExcept (checkAll setting statements)
      let operation ← .ofExcept (blockJoin setting (componentSpans statements) span)
      let components ← components setting statements
      return join setting operation components span

/-- Transforms those statements that become values. -/
def components (setting : Setting) : List Statement → Step (List Built)
  | [] => return []
  | statement :: rest => do
      .write (statementEvent setting statement)
      let first ← component setting statement
      let others ← components setting rest
      return first.toList ++ others

/-- Transforms a statement, if it becomes a value. -/
def component (setting : Setting) : Statement → Step (Option Built)
  | .expression expr => some <$> leaf setting expr
  | .returning _ _ (some expr) => some <$> leaf setting expr
  | .conditional node => some <$> conditional setting node
  | .switch node => some <$> switch setting node
  | .doBlock span body => do
      let built ← block setting body
      return some (doWrapped setting span built)
  | .returning _ _ none | .directive _ | .declaration _ | .loop _ | .fallthrough _ | .jump _ _ =>
      return none

/-- Transforms an `if` statement. -/
def conditional (setting : Setting) : Conditional → Step Built
  | ⟨span, conditions, thenBlock, none⟩ => do
      .write (conditions.flatMap (conditionChecks setting))
      let built ← block setting thenBlock
      let operation ← .ofExcept (optionalWrap setting span)
      return optional setting operation conditions built span
  | ⟨span, conditions, thenBlock, some otherwise⟩ => do
      .write (conditions.flatMap (conditionChecks setting))
      let thenBuilt ← block setting thenBlock
      let operations ← .ofExcept (either setting span)
      let elseBuilt ← alternative setting otherwise
      return alternatives setting operations conditions thenBuilt elseBuilt span

/-- Transforms what is done otherwise. A chained `if` is the only statement of a block of its
own. -/
def alternative (setting : Setting) : Alternative → Step Built
  | .block node => block setting node
  | .chained node => do
      .ofExcept (check setting (.conditional node))
      let operation ← .ofExcept (blockJoin setting [node.span] node.span)
      let built ← conditional setting node
      return join setting operation [built] node.span

/-- Transforms a `switch` statement. -/
def switch (setting : Setting) : Switch → Step Built
  | ⟨span, subject, cases⟩ => do
      .write (switchChecks setting ⟨span, subject, cases⟩)
      let built ← caseBodies setting cases
      if 1 < built.length then
        let operations ← .ofExcept (either setting span)
        return chooseCase subject cases (wrapCases setting (some operations) cases built)
      else
        return chooseCase subject cases built

/-- Transforms the bodies of cases. -/
def caseBodies (setting : Setting) : List SwitchCase → Step (List Built)
  | [] => return []
  | ⟨_, _, body⟩ :: rest => do
      let first ← block setting body
      let others ← caseBodies setting rest
      return first :: others

end

/-! ### Bodies -/

/-- What becomes of a body. -/
inductive Result where
  /-- It is transformed. -/
  | built (built : Built)
  /-- It is left as it is. -/
  | verbatim (block : Block)
  /-- It cannot be transformed. -/
  | failed (error : TransformError)

/-- What becomes of a body, with the journal of how it came about. -/
structure Transformed where
  /-- What becomes of it. -/
  result : Result
  /-- What came up. -/
  journal : Journal

/-- The journal entries for a body that is left as it is. -/
def disabled (setting : Setting) (returns : List ReturnSite) : Journal :=
  let builder := setting.descriptor.builder
  [.happened ⟨.debug, "explicit 'return' disables builder",
      [("builder", builder.name), ("returns", toString returns.length)]⟩,
    .reported (ReturnWarning.diagnostic ⟨builder, returns, setting.context.builderAttribute⟩)]

/-- The event for a body that cannot be transformed. -/
def failure (setting : Setting) (error : TransformError) : Journal :=
  [.happened ⟨.debug, "transform failed",
    [("builder", setting.descriptor.builder.name), ("error", error.message)]⟩]

/-- Transforms a body whose returns do not matter: fails on the first statement that cannot become a
value, wherever it is. -/
def wholeBody (setting : Setting) (body : Block) : Step Built := do
  match body.rejection? with
  | some rejection => .ofExcept (.error (rejected setting rejection))
  | none => block setting body

end Transform

open Transform in
/-- Transforms a body. A body with returns is left as it is, unless it is a single `return` with a
value. -/
def transform (setting : Setting) (body : Block) : Transformed :=
  let returns := body.returns
  if !returns.isEmpty && !body.isSoleReturn then
    ⟨.verbatim body, disabled setting returns⟩
  else
    let value := wholeBody setting body
    match value.outcome with
    | .ok built => ⟨.built built, value.journal⟩
    | .error error => ⟨.failed error, value.journal ++ failure setting error⟩

end ResultBuilder
