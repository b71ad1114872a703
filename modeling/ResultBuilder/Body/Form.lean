import ResultBuilder.Syntax.Tree

/-!
# Forms of statements

What a statement of a builder body asks of the builder, decided from its syntax alone: nothing, a
wrapper for a missing value, a choice between two values, or something that no builder can do.
-/

namespace ResultBuilder

open Syntax

/-- The kinds of statements that can never become part of a value. -/
inductive RejectionKind where
  | declaration
  | loop
  | fallthrough
  /-- Leaving or continuing a loop. -/
  | jump
  deriving DecidableEq, Repr

namespace RejectionKind

/-- Whether a rejected statement is about control flow. -/
def isControlFlow : RejectionKind → Bool
  | .declaration => false
  | .loop | .fallthrough | .jump => true

/-- A rejected statement in words. -/
def text : RejectionKind → String
  | .declaration => "declaration"
  | .loop => "loop"
  | .fallthrough => "fallthrough"
  | .jump => "control transfer"

end RejectionKind

/-- A statement that can never become part of a value. -/
structure Rejection where
  /-- What it is. -/
  kind : RejectionKind
  /-- Where it is. -/
  span : Span
  deriving DecidableEq, Repr

/-- The form of a statement within a builder body. -/
inductive StatementForm where
  | expression (expr : Expr)
  /-- An `if` without `else`. -/
  | optional (node : Conditional)
  /-- An `if` with `else`. -/
  | either (node : Conditional)
  | switch (node : Switch)
  | doBlock (body : Block)
  | returning (value : Option Expr)
  | directive (node : Directive)
  | rejected (rejection : Rejection)

namespace StatementForm

/-- The name of a form. -/
def text : StatementForm → String
  | .expression _ => "expression"
  | .optional _ => "optional"
  | .either _ => "either"
  | .switch _ => "switch"
  | .doBlock _ => "do"
  | .returning _ => "return"
  | .directive _ => "directive"
  | .rejected _ => "rejected"

/-- Whether a statement of this form becomes an argument of the call that joins its block. -/
def isComponent : StatementForm → Bool
  | .directive _ | .rejected _ | .returning none => false
  | _ => true

end StatementForm

/-- The form of an `if` statement, which `else` decides. -/
def Syntax.Conditional.form (node : Conditional) : StatementForm :=
  if node.otherwise.isNone then .optional node else .either node

/-- The place of the first `fallthrough` directly in a case. -/
def Syntax.Switch.fallthrough? (node : Switch) : Option Span :=
  (node.cases.flatMap (·.body.statements)).findSome? fun
    | .fallthrough span => some span
    | _ => none

/-- The form of a statement. A `switch` with a `fallthrough` directly in one of its cases is
rejected as a whole, at the place of the `fallthrough`. -/
def Syntax.Statement.form : Statement → StatementForm
  | .expression expr => .expression expr
  | .conditional node => node.form
  | .switch node =>
      match node.fallthrough? with
      | some span => .rejected ⟨.fallthrough, span⟩
      | none => .switch node
  | .doBlock _ body => .doBlock body
  | .returning _ _ value => .returning value
  | .directive node => .directive node
  | .declaration node => .rejected ⟨.declaration, node.span⟩
  | .loop node => .rejected ⟨.loop, node.span⟩
  | .fallthrough span => .rejected ⟨.fallthrough, span⟩
  | .jump span _ => .rejected ⟨.jump, span⟩

/-! ### The first statement that is rejected -/

mutual

/-- The first rejected statement in a statement, within nested blocks but not within closures. -/
def Syntax.Statement.rejection? : Statement → Option Rejection
  | .expression _ | .returning _ _ _ | .directive _ => none
  | .conditional node => node.rejection?
  | .switch ⟨span, subject, cases⟩ =>
      match (Switch.mk span subject cases).fallthrough? with
      | some span => some ⟨.fallthrough, span⟩
      | none => SwitchCase.rejection? cases
  | .doBlock _ body => body.rejection?
  | .declaration node => some ⟨.declaration, node.span⟩
  | .loop node => some ⟨.loop, node.span⟩
  | .fallthrough span => some ⟨.fallthrough, span⟩
  | .jump span _ => some ⟨.jump, span⟩

/-- The first rejected statement among statements. -/
def Syntax.Statement.firstRejection? : List Statement → Option Rejection
  | [] => none
  | statement :: rest => statement.rejection? <|> Statement.firstRejection? rest

/-- The first rejected statement in a block. -/
def Syntax.Block.rejection? : Block → Option Rejection
  | ⟨_, statements⟩ => Statement.firstRejection? statements

/-- The first rejected statement in the branches of an `if` statement. -/
def Syntax.Conditional.rejection? : Conditional → Option Rejection
  | ⟨_, _, thenBlock, none⟩ => thenBlock.rejection?
  | ⟨_, _, thenBlock, some otherwise⟩ => thenBlock.rejection? <|> otherwise.rejection?

/-- The first rejected statement in what is done otherwise. -/
def Syntax.Alternative.rejection? : Alternative → Option Rejection
  | .block node => node.rejection?
  | .chained node => node.rejection?

/-- The first rejected statement in the cases of a `switch` statement. -/
def Syntax.SwitchCase.rejection? : List SwitchCase → Option Rejection
  | [] => none
  | ⟨_, _, body⟩ :: rest => body.rejection? <|> SwitchCase.rejection? rest

end

/-! ### Returns -/

/-- A `return` statement: its keyword and what it returns. -/
structure ReturnSite where
  /-- The span of the keyword. -/
  keyword : Span
  /-- The span of the value. -/
  value : Option Span
  deriving DecidableEq, Repr

/-- The span of a whole `return` statement. -/
def ReturnSite.span (site : ReturnSite) : Span :=
  match site.value with
  | none => site.keyword
  | some value => site.keyword.merge value

mutual

/-- The returns in a statement, within nested blocks and loops but not within closures or
declarations. -/
def Syntax.Statement.returns : Statement → List ReturnSite
  | .returning _ keyword value => [⟨keyword, value.map (·.span)⟩]
  | .conditional node => node.returns
  | .switch ⟨_, _, cases⟩ => SwitchCase.returns cases
  | .doBlock _ body => body.returns
  | .loop ⟨_, _, _, body⟩ => body.returns
  | .expression _ | .fallthrough _ | .jump _ _ | .directive _ | .declaration _ => []

/-- The returns among statements. -/
def Syntax.Statement.allReturns : List Statement → List ReturnSite
  | [] => []
  | statement :: rest => statement.returns ++ Statement.allReturns rest

/-- The returns in a block. -/
def Syntax.Block.returns : Block → List ReturnSite
  | ⟨_, statements⟩ => Statement.allReturns statements

/-- The returns in the branches of an `if` statement. -/
def Syntax.Conditional.returns : Conditional → List ReturnSite
  | ⟨_, _, thenBlock, none⟩ => thenBlock.returns
  | ⟨_, _, thenBlock, some otherwise⟩ => thenBlock.returns ++ otherwise.returns

/-- The returns in what is done otherwise. -/
def Syntax.Alternative.returns : Alternative → List ReturnSite
  | .block node => node.returns
  | .chained node => node.returns

/-- The returns in the cases of a `switch` statement. -/
def Syntax.SwitchCase.returns : List SwitchCase → List ReturnSite
  | [] => []
  | ⟨_, _, body⟩ :: rest => body.returns ++ SwitchCase.returns rest

end

/-- Whether a block is a single `return` with a value, which stands for that value. -/
def Syntax.Block.isSoleReturn (block : Block) : Bool :=
  match block.statements with
  | [.returning _ _ (some _)] => true
  | _ => false

end ResultBuilder
