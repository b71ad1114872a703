import Mathlib.Data.List.Chain
import ResultBuilder.Body.Form
import ResultBuilder.Proofs.Syntax.Bare
import ResultBuilder.Proofs.Syntax.Nodes
import ResultBuilder.Proofs.Syntax.Reading.Statement
import ResultBuilder.Proofs.Synthesis.Growth

/-!
# Trees without some of their returns

Removing a `return` leaves its value as an expression statement, or nothing when it has no value.
The returns to remove are told by the places of their keywords, so that they can be removed at any
depth of a tree; the body of a builder has those of its own removed, not those of closures and
declarations in it.

* **`Statement.without`**, **`Program.without`**: trees without the returns of certain keywords.
* **`Block.unreturned`**: a body without its own returns.
* **`Declaration.endsWithSignature`**, **`Statement.Parted`**: where a value might be taken for a
  part of the declaration before it.
* **`Block.removeReturns`**: the edits that remove the returns of a body from a source.
-/

namespace ResultBuilder.Syntax

/-! ### Returns of certain keywords -/

mutual

/-- An expression without the returns of certain keywords in its closures. -/
def Expr.without (keywords : List Span) : Expr → Expr
  | .literal span value => .literal span value
  | .ident span name => .ident span name
  | .implicitMember span name => .implicitMember span name
  | .member span base name => .member span (base.without keywords) name
  | .call span callee args trailing =>
      .call span (callee.without keywords) (Argument.withoutAll keywords args)
        (Closure.withoutOption keywords trailing)
  | .subscript span base args =>
      .subscript span (base.without keywords) (Argument.withoutAll keywords args)
  | .tuple span elements => .tuple span (Argument.withoutAll keywords elements)
  | .paren span inner => .paren span (inner.without keywords)
  | .array span elements => .array span (Expr.withoutAll keywords elements)
  | .closure node => .closure (node.without keywords)
  | .unary span op operand => .unary span op (operand.without keywords)
  | .binary span left op right =>
      .binary span (left.without keywords) op (right.without keywords)
  | .ternary span test thenValue elseValue =>
      .ternary span (test.without keywords) (thenValue.without keywords)
        (elseValue.without keywords)
  | .assign span target sign value =>
      .assign span (target.without keywords) sign (value.without keywords)
  | .postfixed span operand op => .postfixed span (operand.without keywords) op

/-- Expressions without the returns of certain keywords. -/
def Expr.withoutAll (keywords : List Span) : List Expr → List Expr
  | [] => []
  | expr :: rest => expr.without keywords :: Expr.withoutAll keywords rest

/-- An expression that may be missing, without the returns of certain keywords. -/
def Expr.withoutOption (keywords : List Span) : Option Expr → Option Expr
  | none => none
  | some expr => some (expr.without keywords)

/-- An argument without the returns of certain keywords. -/
def Argument.without (keywords : List Span) : Argument → Argument
  | ⟨span, label, value⟩ => ⟨span, label, value.without keywords⟩

/-- Arguments without the returns of certain keywords. -/
def Argument.withoutAll (keywords : List Span) : List Argument → List Argument
  | [] => []
  | argument :: rest => argument.without keywords :: Argument.withoutAll keywords rest

/-- A closure without the returns of certain keywords. -/
def Closure.without (keywords : List Span) : Closure → Closure
  | ⟨span, params, body⟩ => ⟨span, params, body.without keywords⟩

/-- A closure that may be missing, without the returns of certain keywords. -/
def Closure.withoutOption (keywords : List Span) : Option Closure → Option Closure
  | none => none
  | some closure => some (closure.without keywords)

/-- A block without the returns of certain keywords. -/
def Block.without (keywords : List Span) : Block → Block
  | ⟨span, statements⟩ => ⟨span, Statement.withoutAll keywords statements⟩

/-- A block that may be missing, without the returns of certain keywords. -/
def Block.withoutOption (keywords : List Span) : Option Block → Option Block
  | none => none
  | some block => some (block.without keywords)

/-- **What is left of a statement** without the returns of certain keywords: the statement, or of a
return that is removed its value, if it has one. -/
def Statement.without (keywords : List Span) : Statement → List Statement
  | .expression node => [.expression (node.without keywords)]
  | .conditional node => [.conditional (node.without keywords)]
  | .switch node => [.switch (node.without keywords)]
  | .doBlock span body => [.doBlock span (body.without keywords)]
  | .loop node => [.loop (node.without keywords)]
  | .returning span keyword value =>
      let value := Expr.withoutOption keywords value
      if keyword ∈ keywords then value.toList.map .expression else [.returning span keyword value]
  | .fallthrough span => [.fallthrough span]
  | .jump span kind => [.jump span kind]
  | .directive node => [.directive node]
  | .declaration node => [.declaration (node.without keywords)]

/-- Statements without the returns of certain keywords. -/
def Statement.withoutAll (keywords : List Span) : List Statement → List Statement
  | [] => []
  | statement :: rest => statement.without keywords ++ Statement.withoutAll keywords rest

/-- An `if` statement without the returns of certain keywords. -/
def Conditional.without (keywords : List Span) : Conditional → Conditional
  | ⟨span, conditions, thenBlock, otherwise⟩ =>
      ⟨span, Condition.withoutAll keywords conditions, thenBlock.without keywords,
        Alternative.withoutOption keywords otherwise⟩

/-- A condition without the returns of certain keywords. -/
def Condition.without (keywords : List Span) : Condition → Condition
  | .expression node => .expression (node.without keywords)
  | .binding span isMutable bound value =>
      .binding span isMutable bound (value.without keywords)

/-- Conditions without the returns of certain keywords. -/
def Condition.withoutAll (keywords : List Span) : List Condition → List Condition
  | [] => []
  | condition :: rest => condition.without keywords :: Condition.withoutAll keywords rest

/-- What is done otherwise, without the returns of certain keywords. -/
def Alternative.without (keywords : List Span) : Alternative → Alternative
  | .block node => .block (node.without keywords)
  | .chained node => .chained (node.without keywords)

/-- What may be done otherwise, without the returns of certain keywords. -/
def Alternative.withoutOption (keywords : List Span) : Option Alternative → Option Alternative
  | none => none
  | some otherwise => some (otherwise.without keywords)

/-- A `switch` statement without the returns of certain keywords. -/
def Switch.without (keywords : List Span) : Switch → Switch
  | ⟨span, subject, cases⟩ =>
      ⟨span, subject.without keywords, SwitchCase.withoutAll keywords cases⟩

/-- A case without the returns of certain keywords. -/
def SwitchCase.without (keywords : List Span) : SwitchCase → SwitchCase
  | ⟨span, label, body⟩ => ⟨span, label, body.without keywords⟩

/-- Cases without the returns of certain keywords. -/
def SwitchCase.withoutAll (keywords : List Span) : List SwitchCase → List SwitchCase
  | [] => []
  | switchCase :: rest => switchCase.without keywords :: SwitchCase.withoutAll keywords rest

/-- A loop without the returns of certain keywords. -/
def Loop.without (keywords : List Span) : Loop → Loop
  | ⟨span, form, header, body⟩ => ⟨span, form, header.without keywords, body.without keywords⟩

/-- A declaration without the returns of certain keywords. -/
def Declaration.without (keywords : List Span) : Declaration → Declaration
  | .variable node => .variable (node.without keywords)
  | .function node => .function (node.without keywords)
  | .type node => .type (node.without keywords)
  | .enum node => .enum node

/-- Declarations without the returns of certain keywords. -/
def Declaration.withoutAll (keywords : List Span) : List Declaration → List Declaration
  | [] => []
  | declaration :: rest =>
      declaration.without keywords :: Declaration.withoutAll keywords rest

/-- A variable without the returns of certain keywords. -/
def VariableDecl.without (keywords : List Span) : VariableDecl → VariableDecl
  | ⟨span, attributes, isMutable, name, type, value, body⟩ =>
      ⟨span, attributes, isMutable, name, type, Expr.withoutOption keywords value,
        Block.withoutOption keywords body⟩

/-- A function without the returns of certain keywords. -/
def FunctionDecl.without (keywords : List Span) : FunctionDecl → FunctionDecl
  | ⟨span, attributes, isStatic, name, generics, params, result, body⟩ =>
      ⟨span, attributes, isStatic, name, generics, params, result,
        Block.withoutOption keywords body⟩

/-- A struct or class without the returns of certain keywords. -/
def TypeDecl.without (keywords : List Span) : TypeDecl → TypeDecl
  | ⟨span, attributes, kind, name, generics, members⟩ =>
      ⟨span, attributes, kind, name, generics, Declaration.withoutAll keywords members⟩

end

/-- A program without the returns of certain keywords. -/
def Program.without (keywords : List Span) (program : Program) : Program :=
  ⟨Statement.withoutAll keywords program.statements⟩

section Lists

variable (keywords : List Span)

@[simp] theorem Expr.withoutAll_eq_map (exprs : List Expr) :
    Expr.withoutAll keywords exprs = exprs.map (·.without keywords) := by
  induction exprs with
  | nil => rfl
  | cons expr rest ih => rw [Expr.withoutAll, ih, List.map_cons]

@[simp] theorem Expr.withoutOption_eq_map (expr? : Option Expr) :
    Expr.withoutOption keywords expr? = expr?.map (·.without keywords) := by
  cases expr? <;> rfl

@[simp] theorem Argument.withoutAll_eq_map (args : List Argument) :
    Argument.withoutAll keywords args = args.map (·.without keywords) := by
  induction args with
  | nil => rfl
  | cons argument rest ih => rw [Argument.withoutAll, ih, List.map_cons]

@[simp] theorem Closure.withoutOption_eq_map (closure? : Option Closure) :
    Closure.withoutOption keywords closure? = closure?.map (·.without keywords) := by
  cases closure? <;> rfl

@[simp] theorem Block.withoutOption_eq_map (block? : Option Block) :
    Block.withoutOption keywords block? = block?.map (·.without keywords) := by
  cases block? <;> rfl

@[simp] theorem Statement.withoutAll_eq_flatMap (statements : List Statement) :
    Statement.withoutAll keywords statements = statements.flatMap (·.without keywords) := by
  induction statements with
  | nil => rfl
  | cons statement rest ih => rw [Statement.withoutAll, ih, List.flatMap_cons]

@[simp] theorem Condition.withoutAll_eq_map (conditions : List Condition) :
    Condition.withoutAll keywords conditions = conditions.map (·.without keywords) := by
  induction conditions with
  | nil => rfl
  | cons condition rest ih => rw [Condition.withoutAll, ih, List.map_cons]

@[simp] theorem Alternative.withoutOption_eq_map (otherwise? : Option Alternative) :
    Alternative.withoutOption keywords otherwise? = otherwise?.map (·.without keywords) := by
  cases otherwise? <;> rfl

@[simp] theorem SwitchCase.withoutAll_eq_map (cases : List SwitchCase) :
    SwitchCase.withoutAll keywords cases = cases.map (·.without keywords) := by
  induction cases with
  | nil => rfl
  | cons switchCase rest ih => rw [SwitchCase.withoutAll, ih, List.map_cons]

@[simp] theorem Declaration.withoutAll_eq_map (declarations : List Declaration) :
    Declaration.withoutAll keywords declarations = declarations.map (·.without keywords) := by
  induction declarations with
  | nil => rfl
  | cons declaration rest ih => rw [Declaration.withoutAll, ih, List.map_cons]

end Lists

/-! ### The returns of a body -/

mutual

/-- What is left of a statement of a body when its returns are removed, within nested blocks and
loops but not within closures or declarations. -/
def Statement.unreturned : Statement → List Statement
  | .returning _ _ value => value.toList.map .expression
  | .conditional node => [.conditional node.unreturned]
  | .switch ⟨span, subject, cases⟩ => [.switch ⟨span, subject, SwitchCase.unreturnedAll cases⟩]
  | .doBlock span body => [.doBlock span body.unreturned]
  | .loop ⟨span, form, header, body⟩ => [.loop ⟨span, form, header, body.unreturned⟩]
  | .expression node => [.expression node]
  | .fallthrough span => [.fallthrough span]
  | .jump span kind => [.jump span kind]
  | .directive node => [.directive node]
  | .declaration node => [.declaration node]

/-- What is left of statements when their returns are removed. -/
def Statement.unreturnedAll : List Statement → List Statement
  | [] => []
  | statement :: rest => statement.unreturned ++ Statement.unreturnedAll rest

/-- **A body without its returns**: the values are expression statements, and returns without a
value are gone. -/
def Block.unreturned : Block → Block
  | ⟨span, statements⟩ => ⟨span, Statement.unreturnedAll statements⟩

/-- An `if` statement of a body without its returns. -/
def Conditional.unreturned : Conditional → Conditional
  | ⟨span, conditions, thenBlock, none⟩ => ⟨span, conditions, thenBlock.unreturned, none⟩
  | ⟨span, conditions, thenBlock, some otherwise⟩ =>
      ⟨span, conditions, thenBlock.unreturned, some otherwise.unreturned⟩

/-- What is done otherwise, without the returns. -/
def Alternative.unreturned : Alternative → Alternative
  | .block node => .block node.unreturned
  | .chained node => .chained node.unreturned

/-- Cases of a body without their returns. -/
def SwitchCase.unreturnedAll : List SwitchCase → List SwitchCase
  | [] => []
  | ⟨span, label, body⟩ :: rest =>
      ⟨span, label, body.unreturned⟩ :: SwitchCase.unreturnedAll rest

end

/-! ### Declarations that may go on -/

/-- **Whether a declaration ends with its signature**: a function without a body, or a variable that
has neither a value nor a body. -/
def Declaration.endsWithSignature : Declaration → Bool
  | .function node => node.body.isNone
  | .variable node => node.value.isNone && node.body.isNone
  | .type _ | .enum _ => false

/-- Whether a statement is a declaration that ends with its signature. -/
def Statement.endsWithSignature : Statement → Bool
  | .declaration node => node.endsWithSignature
  | _ => false

/-- Whether a statement is the return of one of certain keywords. -/
def Statement.isReturnOf (keywords : List Span) : Statement → Bool
  | .returning _ keyword _ => keyword ∈ keywords
  | _ => false

/-- **Statements with returns apart** from signatures: no return of certain keywords comes directly
after a declaration that ends with its signature. -/
def Statement.Parted (keywords : List Span) (statements : List Statement) : Prop :=
  statements.IsChain fun first second =>
    first.endsWithSignature = true → second.isReturnOf keywords = false

/-- A program in which all statements have the returns of certain keywords apart from signatures. -/
def Program.Parted (keywords : List Span) (program : Program) : Prop :=
  Statement.Parted keywords program.statements ∧
    ∀ block, (Node.block block).WithinProgram program → Statement.Parted keywords block.statements

end ResultBuilder.Syntax

/-! ### Removing returns from a source -/

namespace ResultBuilder

open Syntax

/-- The edits that remove the returns of a body, applied to a source from the last to the first. -/
def Syntax.Block.removeReturns (body : Block) (source : String) : String :=
  (body.returns.map ReturnWarning.removal).foldr Edit.apply source

/-- The keywords of the returns of a body. -/
def Syntax.Block.returnKeywords (body : Block) : List Span :=
  body.returns.map (·.keyword)

/-! ### A value that is taken for a part of the declaration before it -/

/-- A body in which a return comes after a declaration that ends with its type. -/
def signatureBody : Block where
  span := ⟨2, 28⟩
  statements := [
    .declaration (.variable ⟨⟨6, 14⟩, [], false, ⟨⟨10, 11⟩, "x"⟩, some (.named ⟨13, 14⟩ "A" []),
      none, none⟩),
    .returning ⟨17, 26⟩ ⟨17, 23⟩ (some (.implicitMember ⟨24, 26⟩ ⟨⟨25, 26⟩, "b"⟩))]

/-- The program with the body. -/
def signatureProgram : Program :=
  ⟨[.expression (.call ⟨0, 28⟩ (.ident ⟨0, 1⟩ "g") [] (some ⟨⟨2, 28⟩, [], signatureBody⟩))]⟩

/-- The program that is read when the return is removed: the value has become a part of the type. -/
def gluedProgram : Program :=
  ⟨[.expression (.call ⟨0, 21⟩ (.ident ⟨0, 1⟩ "g") [] (some ⟨⟨2, 21⟩, [], ⟨⟨2, 21⟩, [
    .declaration (.variable ⟨⟨6, 19⟩, [], false, ⟨⟨10, 11⟩, "x"⟩,
      some (.named ⟨13, 19⟩ "A.b" []), none, none⟩)]⟩⟩))]⟩

/-- **A return after a type cannot be removed**: its value is read as a part of the type. -/
theorem removeReturns_signatureBody :
    parse "g \x7b\n  let x: A\n  return .b\n\x7d" = .ok signatureProgram ∧
      (Node.block signatureBody).WithinProgram signatureProgram ∧
      (∀ setting, (transform setting signatureBody).result = .verbatim signatureBody) ∧
      parse (signatureBody.removeReturns "g \x7b\n  let x: A\n  return .b\n\x7d") =
        .ok gluedProgram ∧
      gluedProgram.statements.map (·.bare) ≠
        (signatureProgram.without signatureBody.returnKeywords).statements.map (·.bare) := by
  have cut : tokenize "g \x7b\n  let x: A\n  return .b\n\x7d" = .ok [
      ⟨.identifier, ⟨0, 1⟩, "g", false⟩, ⟨.symbol .braceOpen, ⟨2, 3⟩, "\x7b", false⟩,
      ⟨.keyword .let_, ⟨6, 9⟩, "let", true⟩, ⟨.identifier, ⟨10, 11⟩, "x", false⟩,
      ⟨.symbol .colon, ⟨11, 12⟩, ":", false⟩, ⟨.identifier, ⟨13, 14⟩, "A", false⟩,
      ⟨.keyword .return_, ⟨17, 23⟩, "return", true⟩, ⟨.symbol .dot, ⟨24, 25⟩, ".", false⟩,
      ⟨.identifier, ⟨25, 26⟩, "b", false⟩, ⟨.symbol .braceClose, ⟨27, 28⟩, "\x7d", true⟩,
      ⟨.endOfFile, ⟨28, 28⟩, "", false⟩] := by
    decide +kernel
  have edited : signatureBody.removeReturns "g \x7b\n  let x: A\n  return .b\n\x7d" =
      "g \x7b\n  let x: A\n  .b\n\x7d" := by
    decide +kernel
  have cutAgain : tokenize "g \x7b\n  let x: A\n  .b\n\x7d" = .ok [
      ⟨.identifier, ⟨0, 1⟩, "g", false⟩, ⟨.symbol .braceOpen, ⟨2, 3⟩, "\x7b", false⟩,
      ⟨.keyword .let_, ⟨6, 9⟩, "let", true⟩, ⟨.identifier, ⟨10, 11⟩, "x", false⟩,
      ⟨.symbol .colon, ⟨11, 12⟩, ":", false⟩, ⟨.identifier, ⟨13, 14⟩, "A", false⟩,
      ⟨.symbol .dot, ⟨17, 18⟩, ".", true⟩, ⟨.identifier, ⟨18, 19⟩, "b", false⟩,
      ⟨.symbol .braceClose, ⟨20, 21⟩, "\x7d", true⟩, ⟨.endOfFile, ⟨21, 21⟩, "", false⟩] := by
    decide +kernel
  refine ⟨parse_of_ofTokens cut rfl, ⟨_, List.mem_singleton_self _,
    .child (List.mem_singleton_self _) (.child (List.mem_cons_of_mem _ (List.mem_singleton_self _))
      (.child (List.mem_singleton_self _) (.self _)))⟩,
    fun setting => Transform.result_eq_verbatim_iff.mpr ⟨⟨List.cons_ne_nil _ _, rfl⟩, rfl⟩,
    edited ▸ parse_of_ofTokens cutAgain rfl, fun same => ?_⟩
  -- the body has one statement where two are left of it
  simp [gluedProgram, signatureProgram, signatureBody, Program.without, Statement.without,
    Expr.without, Closure.without, Block.without, Statement.bare, Statement.rebuild, Expr.rebuild,
    Closure.rebuild, Block.rebuild, CallForm.plain, Block.returnKeywords, Block.returns,
    Statement.allReturns, Statement.returns] at same

end ResultBuilder
