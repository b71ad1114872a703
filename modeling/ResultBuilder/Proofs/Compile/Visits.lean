import ResultBuilder.Compile.Program

/-!
# The visits of a walk

A walk through a program does something at four kinds of places only: at directives, functions,
computed properties and calls. The places of a program with what surrounds them make up a list that
depends on the program alone, and the walk is what is done at them, one after the other.

* **`Visit`**: a place at which something is done, with what surrounds it.
* **`Visit.walk`**, **`walkAll`**: what is done there.
* **`Visit.ofBlock`** and its like: the places in a part of a program, in the order of the walk.
* **`statementList_eq_walkAll`** and its like: the walk is what is done at the places.
* **`visits`**, **`value_programWith`**: the same for a whole program.
-/

namespace ResultBuilder

open Syntax

/-! ### Walks one after the other -/

namespace Findings

@[simp] theorem nil_append (findings : Findings) : ({} : Findings) ++ findings = findings :=
  rfl

@[simp] theorem append_nil (findings : Findings) : findings ++ ({} : Findings) = findings := by
  obtain ⟨diagnostics, bodies, journal⟩ := findings
  show Findings.mk (diagnostics ++ []) (bodies ++ []) (journal ++ []) = _
  rw [List.append_nil, List.append_nil, List.append_nil]

theorem append_assoc (first second third : Findings) :
    first ++ second ++ third = first ++ (second ++ third) := by
  show Findings.mk _ _ _ = Findings.mk _ _ _
  simp only [diagnostics_append, bodies_append, journal_append, List.append_assoc]

end Findings

namespace Walk

variable {α β γ : Type}

/-- A walk that finds nothing changes nothing when it comes first. -/
theorem walk_pure_bind (value : α) (next : α → Walk β) : (Pure.pure value >>= next) = next value :=
  rfl

/-- A walk that finds nothing changes nothing when it comes last. -/
theorem walk_bind_pure (walk : Walk α) : (walk >>= Pure.pure) = walk := by
  funext cache
  show Walked.mk (walk cache).value ((walk cache).findings ++ {}) (walk cache).cache = walk cache
  rw [Findings.append_nil]

/-- Three walks one after the other can be read from either side. -/
theorem walk_bind_assoc (first : Walk α) (second : α → Walk β) (third : β → Walk γ) :
    (first >>= second >>= third) = (first >>= fun value => second value >>= third) := by
  funext cache
  exact congrArg (Walked.mk _ · _) (Findings.append_assoc _ _ _)

instance : LawfulMonad Walk :=
  .mk' Walk walk_bind_pure walk_pure_bind walk_bind_assoc

end Walk

namespace Compile

/-! ### Places -/

/-- **A place at which a walk does something**, with what surrounds it. -/
inductive Visit where
  | directive (node : Directive)
  /-- A function, with or without a body, where it is declared. -/
  | function (around : Surroundings) (decl : FunctionDecl)
  /-- The body of a computed property with the attributes of the property. -/
  | property (around : Surroundings) (marks : List Attribute) (body : Block)
  | call (around : Surroundings) (callee : Expr) (args : List Argument) (trailing : Option Closure)

/-- What is done at a place, not counting the places within it. -/
def Visit.walk : Visit → Walk Unit
  | .directive node => Walk.report [directiveDiagnostic node]
  | .function around decl =>
      match decl.body with
      | none => return
      | some body =>
          applyAttribute (around.inFunction decl.generics decl.params) decl.attributes .function
            body
  | .property around marks body => applyAttribute around marks .property body
  | .call around callee args trailing => transformCall around callee args trailing

/-- What is done at places, one after the other. -/
def walkAll : List Visit → Walk Unit
  | [] => return
  | visit :: rest => do
      visit.walk
      walkAll rest

theorem walkAll_singleton (visit : Visit) : walkAll [visit] = visit.walk := by
  rw [walkAll, walkAll]
  exact Walk.walk_bind_pure visit.walk

theorem walkAll_append (first second : List Visit) :
    walkAll (first ++ second) = (walkAll first >>= fun _ => walkAll second) := by
  induction first with
  | nil => rfl
  | cons visit rest inductionHypothesis =>
      rw [List.cons_append, walkAll, walkAll, inductionHypothesis, bind_assoc]

namespace Visit

mutual

/-- The places in a block. -/
def ofBlock (around : Surroundings) : Block → List Visit
  | ⟨_, statements⟩ => ofStatements (around.inBlock statements) statements

/-- The places in statements whose scope is known. -/
def ofStatements (around : Surroundings) : List Statement → List Visit
  | [] => []
  | first :: rest => ofStatement around first ++ ofStatements around rest

/-- The places in a statement. -/
def ofStatement (around : Surroundings) : Statement → List Visit
  | .expression node => ofExpression around node
  | .conditional node => ofConditional around node
  | .switch ⟨_, subject, cases⟩ => ofExpression around subject ++ ofCases around cases
  | .doBlock _ body => ofBlock around body
  | .loop ⟨_, _, header, body⟩ => ofExpression around header ++ ofBlock around body
  | .returning _ _ none | .fallthrough _ | .jump _ _ => []
  | .returning _ _ (some value) => ofExpression around value
  | .directive node => [.directive node]
  | .declaration node => ofDeclaration around node

/-- The places in an `if` statement. -/
def ofConditional (around : Surroundings) : Conditional → List Visit
  | ⟨_, conditions, thenBlock, none⟩ => ofConditions around conditions ++ ofBlock around thenBlock
  | ⟨_, conditions, thenBlock, some otherwise⟩ =>
      ofConditions around conditions ++ (ofBlock around thenBlock ++ ofAlternative around otherwise)

/-- The places in what is done otherwise. -/
def ofAlternative (around : Surroundings) : Syntax.Alternative → List Visit
  | .block node => ofBlock around node
  | .chained node => ofConditional around node

/-- The places in conditions. -/
def ofConditions (around : Surroundings) : List Condition → List Visit
  | [] => []
  | .expression node :: rest => ofExpression around node ++ ofConditions around rest
  | .binding _ _ _ value :: rest => ofExpression around value ++ ofConditions around rest

/-- The places in the cases of a `switch`. -/
def ofCases (around : Surroundings) : List SwitchCase → List Visit
  | [] => []
  | ⟨_, _, body⟩ :: rest => ofBlock around body ++ ofCases around rest

/-- The places in a declaration. -/
def ofDeclaration (around : Surroundings) : Declaration → List Visit
  | .type ⟨span, marks, kind, name, generics, members⟩ =>
      ofDeclarations (around.inType ⟨span, marks, kind, name, generics, members⟩) members
  | .enum _ => []
  | .function ⟨span, marks, isStatic, name, generics, params, result, none⟩ =>
      [.function around ⟨span, marks, isStatic, name, generics, params, result, none⟩]
  | .function ⟨span, marks, isStatic, name, generics, params, result, some body⟩ =>
      .function around ⟨span, marks, isStatic, name, generics, params, result, some body⟩ ::
        ofBlock (around.inFunction generics params) body
  | .variable ⟨_, marks, _, _, _, value, body⟩ =>
      ofInitialValue around value ++ ofProperty around marks body

/-- The places in the first value of a variable. -/
def ofInitialValue (around : Surroundings) : Option Expr → List Visit
  | none => []
  | some value => ofExpression around value

/-- The places in a computed property. -/
def ofProperty (around : Surroundings) (marks : List Attribute) : Option Block → List Visit
  | none => []
  | some body => .property around marks body :: ofBlock around body

/-- The places in declarations. -/
def ofDeclarations (around : Surroundings) : List Declaration → List Visit
  | [] => []
  | first :: rest => ofDeclaration around first ++ ofDeclarations around rest

/-- The places in an expression, a call before its parts. -/
def ofExpression (around : Surroundings) : Expr → List Visit
  | .call _ callee args none =>
      .call around callee args none :: (ofExpression around callee ++ ofArguments around args)
  | .call _ callee args (some trailing) =>
      .call around callee args (some trailing) ::
        (ofExpression around callee ++ (ofArguments around args ++ ofClosure around trailing))
  | .closure node => ofClosure around node
  | .member _ base _ => ofExpression around base
  | .subscript _ base args => ofExpression around base ++ ofArguments around args
  | .tuple _ elements => ofArguments around elements
  | .array _ elements => ofExpressions around elements
  | .paren _ inner | .unary _ _ inner | .postfixed _ inner _ => ofExpression around inner
  | .binary _ left _ right => ofExpression around left ++ ofExpression around right
  | .ternary _ condition thenValue elseValue =>
      ofExpression around condition ++
        (ofExpression around thenValue ++ ofExpression around elseValue)
  | .assign _ target _ value => ofExpression around target ++ ofExpression around value
  | .literal _ _ | .ident _ _ | .implicitMember _ _ => []

/-- The places in expressions. -/
def ofExpressions (around : Surroundings) : List Expr → List Visit
  | [] => []
  | first :: rest => ofExpression around first ++ ofExpressions around rest

/-- The places in arguments. -/
def ofArguments (around : Surroundings) : List Argument → List Visit
  | [] => []
  | ⟨_, _, value⟩ :: rest => ofExpression around value ++ ofArguments around rest

/-- The places in a closure. -/
def ofClosure (around : Surroundings) : Closure → List Visit
  | ⟨_, params, body⟩ => ofBlock (around.inClosure params) body

end

end Visit

/-! ### The walk is what is done at the places -/

mutual

theorem block_eq_walkAll : ∀ (around : Surroundings) (node : Block),
    block around node = walkAll (Visit.ofBlock around node)
  | around, ⟨_, statements⟩ => by
      rw [block, Visit.ofBlock, statementList_eq_walkAll]

/-- **A walk through statements is what is done at their places.** -/
theorem statementList_eq_walkAll : ∀ (around : Surroundings) (statements : List Statement),
    statementList around statements = walkAll (Visit.ofStatements around statements)
  | _, [] => by
      rw [statementList, Visit.ofStatements, walkAll]
  | around, first :: rest => by
      rw [statementList, Visit.ofStatements, walkAll_append, statement_eq_walkAll,
        statementList_eq_walkAll]

theorem statement_eq_walkAll : ∀ (around : Surroundings) (node : Statement),
    statement around node = walkAll (Visit.ofStatement around node)
  | around, .expression node => by
      rw [statement, Visit.ofStatement, expression_eq_walkAll]
  | around, .conditional node => by
      rw [statement, Visit.ofStatement, conditional_eq_walkAll]
  | around, .switch ⟨_, subject, cases⟩ => by
      rw [statement, Visit.ofStatement, walkAll_append, expression_eq_walkAll, caseList_eq_walkAll]
  | around, .doBlock _ body => by
      rw [statement, Visit.ofStatement, block_eq_walkAll]
  | around, .loop ⟨_, _, header, body⟩ => by
      rw [statement, Visit.ofStatement, walkAll_append, expression_eq_walkAll, block_eq_walkAll]
  | _, .returning _ _ none | _, .fallthrough _ | _, .jump _ _ => by
      rw [statement, Visit.ofStatement, walkAll]
  | around, .returning _ _ (some value) => by
      rw [statement, Visit.ofStatement, expression_eq_walkAll]
  | _, .directive node => by
      rw [statement, Visit.ofStatement, walkAll_singleton, Visit.walk]
  | around, .declaration node => by
      rw [statement, Visit.ofStatement, declaration_eq_walkAll]

theorem conditional_eq_walkAll : ∀ (around : Surroundings) (node : Conditional),
    conditional around node = walkAll (Visit.ofConditional around node)
  | around, ⟨_, conditions, thenBlock, none⟩ => by
      rw [conditional, Visit.ofConditional, walkAll_append, conditionList_eq_walkAll,
        block_eq_walkAll]
  | around, ⟨_, conditions, thenBlock, some otherwise⟩ => by
      rw [conditional, Visit.ofConditional, walkAll_append, walkAll_append,
        conditionList_eq_walkAll, block_eq_walkAll, alternative_eq_walkAll]

theorem alternative_eq_walkAll : ∀ (around : Surroundings) (node : Syntax.Alternative),
    alternative around node = walkAll (Visit.ofAlternative around node)
  | around, .block node => by
      rw [alternative, Visit.ofAlternative, block_eq_walkAll]
  | around, .chained node => by
      rw [alternative, Visit.ofAlternative, conditional_eq_walkAll]

theorem conditionList_eq_walkAll : ∀ (around : Surroundings) (conditions : List Condition),
    conditionList around conditions = walkAll (Visit.ofConditions around conditions)
  | _, [] => by
      rw [conditionList, Visit.ofConditions, walkAll]
  | around, .expression node :: rest => by
      rw [conditionList, Visit.ofConditions, walkAll_append, expression_eq_walkAll,
        conditionList_eq_walkAll]
  | around, .binding _ _ _ value :: rest => by
      rw [conditionList, Visit.ofConditions, walkAll_append, expression_eq_walkAll,
        conditionList_eq_walkAll]

theorem caseList_eq_walkAll : ∀ (around : Surroundings) (cases : List SwitchCase),
    caseList around cases = walkAll (Visit.ofCases around cases)
  | _, [] => by
      rw [caseList, Visit.ofCases, walkAll]
  | around, ⟨_, _, body⟩ :: rest => by
      rw [caseList, Visit.ofCases, walkAll_append, block_eq_walkAll, caseList_eq_walkAll]

theorem declaration_eq_walkAll : ∀ (around : Surroundings) (node : Declaration),
    declaration around node = walkAll (Visit.ofDeclaration around node)
  | around, .type ⟨span, marks, kind, name, generics, members⟩ => by
      rw [declaration, Visit.ofDeclaration, declarationList_eq_walkAll]
  | _, .enum _ => by
      rw [declaration, Visit.ofDeclaration, walkAll]
  | around, .function ⟨_, _, _, _, _, _, _, none⟩ => by
      rw [declaration, Visit.ofDeclaration, walkAll_singleton, Visit.walk]
  | around, .function ⟨_, _, _, _, generics, params, _, some body⟩ => by
      rw [declaration, Visit.ofDeclaration, walkAll, Visit.walk, block_eq_walkAll]
  | around, .variable ⟨_, marks, _, _, _, value, body⟩ => by
      rw [declaration, Visit.ofDeclaration, walkAll_append, initialValue_eq_walkAll,
        property_eq_walkAll]

theorem initialValue_eq_walkAll : ∀ (around : Surroundings) (value : Option Expr),
    initialValue around value = walkAll (Visit.ofInitialValue around value)
  | _, none => by
      rw [initialValue, Visit.ofInitialValue, walkAll]
  | around, some value => by
      rw [initialValue, Visit.ofInitialValue, expression_eq_walkAll]

theorem property_eq_walkAll : ∀ (around : Surroundings) (marks : List Attribute)
    (body : Option Block),
    property around marks body = walkAll (Visit.ofProperty around marks body)
  | _, _, none => by
      rw [property, Visit.ofProperty, walkAll]
  | around, marks, some body => by
      rw [property, Visit.ofProperty, walkAll, Visit.walk, block_eq_walkAll]

theorem declarationList_eq_walkAll : ∀ (around : Surroundings) (declarations : List Declaration),
    declarationList around declarations = walkAll (Visit.ofDeclarations around declarations)
  | _, [] => by
      rw [declarationList, Visit.ofDeclarations, walkAll]
  | around, first :: rest => by
      rw [declarationList, Visit.ofDeclarations, walkAll_append, declaration_eq_walkAll,
        declarationList_eq_walkAll]

theorem expression_eq_walkAll : ∀ (around : Surroundings) (node : Expr),
    expression around node = walkAll (Visit.ofExpression around node)
  | around, .call _ callee args none => by
      rw [expression, Visit.ofExpression, walkAll, walkAll_append, Visit.walk,
        expression_eq_walkAll, argumentList_eq_walkAll]
  | around, .call _ callee args (some trailing) => by
      rw [expression, Visit.ofExpression, walkAll, walkAll_append, walkAll_append, Visit.walk,
        expression_eq_walkAll, argumentList_eq_walkAll, closure_eq_walkAll]
  | around, .closure node => by
      rw [expression, Visit.ofExpression, closure_eq_walkAll]
  | around, .member _ base _ => by
      rw [expression, Visit.ofExpression, expression_eq_walkAll]
  | around, .subscript _ base args => by
      rw [expression, Visit.ofExpression, walkAll_append, expression_eq_walkAll,
        argumentList_eq_walkAll]
  | around, .tuple _ elements => by
      rw [expression, Visit.ofExpression, argumentList_eq_walkAll]
  | around, .array _ elements => by
      rw [expression, Visit.ofExpression, expressionList_eq_walkAll]
  | around, .paren _ inner | around, .unary _ _ inner | around, .postfixed _ inner _ => by
      rw [expression, Visit.ofExpression, expression_eq_walkAll]
  | around, .binary _ left _ right => by
      rw [expression, Visit.ofExpression, walkAll_append, expression_eq_walkAll around left,
        expression_eq_walkAll around right]
  | around, .ternary _ condition thenValue elseValue => by
      rw [expression, Visit.ofExpression, walkAll_append, walkAll_append,
        expression_eq_walkAll around condition, expression_eq_walkAll around thenValue,
        expression_eq_walkAll around elseValue]
  | around, .assign _ target _ value => by
      rw [expression, Visit.ofExpression, walkAll_append, expression_eq_walkAll around target,
        expression_eq_walkAll around value]
  | _, .literal _ _ | _, .ident _ _ | _, .implicitMember _ _ => by
      rw [expression, Visit.ofExpression, walkAll]

theorem expressionList_eq_walkAll : ∀ (around : Surroundings) (expressions : List Expr),
    expressionList around expressions = walkAll (Visit.ofExpressions around expressions)
  | _, [] => by
      rw [expressionList, Visit.ofExpressions, walkAll]
  | around, first :: rest => by
      rw [expressionList, Visit.ofExpressions, walkAll_append, expression_eq_walkAll,
        expressionList_eq_walkAll]

theorem argumentList_eq_walkAll : ∀ (around : Surroundings) (args : List Argument),
    argumentList around args = walkAll (Visit.ofArguments around args)
  | _, [] => by
      rw [argumentList, Visit.ofArguments, walkAll]
  | around, ⟨_, _, value⟩ :: rest => by
      rw [argumentList, Visit.ofArguments, walkAll_append, expression_eq_walkAll,
        argumentList_eq_walkAll]

theorem closure_eq_walkAll : ∀ (around : Surroundings) (node : Closure),
    closure around node = walkAll (Visit.ofClosure around node)
  | around, ⟨_, params, body⟩ => by
      rw [closure, Visit.ofClosure, block_eq_walkAll]

end

/-! ### Programs -/

/-- What surrounds the statements of a program. -/
def Surroundings.ofProgram (services : Collaborators) (config : Config) (program : Program) :
    Surroundings :=
  Surroundings.inBlock { services, config } program.statements

/-- The places of a program. -/
def visits (services : Collaborators) (config : Config) (program : Program) : List Visit :=
  Visit.ofStatements (.ofProgram services config program) program.statements

/-- **What comes of a program** depends on what is found at its places. -/
theorem value_programWith (services : Collaborators) (config : Config) (program : Program)
    (cache : DescriptorCache) :
    (programWith services config program cache).value =
      if (walkAll (visits services config program) cache).findings.diagnostics.any (·.isError) then
        .error (walkAll (visits services config program) cache).findings.diagnostics
      else
        .ok ⟨(walkAll (visits services config program) cache).findings.bodies,
          (walkAll (visits services config program) cache).findings.diagnostics, config⟩ := by
  rw [visits, ← statementList_eq_walkAll]
  rfl

end Compile

end ResultBuilder
