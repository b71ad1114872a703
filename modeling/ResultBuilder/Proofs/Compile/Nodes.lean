import ResultBuilder.Proofs.Compile.Scoping
import ResultBuilder.Proofs.Diagnostic.About

/-!
# The nodes that a walk visits

A walk goes from a node to its children. What it does at a place is about the node there, and the
scopes around the place declare what is declared in the program.

* **`Surroundings.into`**: what surrounds the children of a node.
* **`Visit.here?`**, **`Visit.mem_ofNode`**: the places in a node are the node itself and the places
  in its children.
* **`Scopes.AreOf`**, **`Visit.IsOf`**: scopes and places of a program.
* **`isOf_of_mem_visits`**: all places of a program are places of it.
-/

namespace ResultBuilder

open Syntax

namespace Compile

/-! ### From nodes to their children -/

/-- What surrounds the children of a node. -/
def Surroundings.into (around : Surroundings) : Node → Surroundings
  | .block node => around.inBlock node.statements
  | .closure node => around.inClosure node.params
  | .declaration (.function node) => around.inFunction node.generics node.params
  | .declaration (.type node) => around.inType node
  | _ => around

namespace Visit

variable {around : Surroundings} {visit : Visit}

/-- The place that a node is, if something is done there. -/
def here? (around : Surroundings) : Node → Option Visit
  | .statement (.directive node) => some (.directive node)
  | .declaration (.function node) => some (.function around node)
  | .declaration (.variable node) => node.body.map (.property around node.attributes)
  | .expression (.call _ callee args trailing) => some (.call around callee args trailing)
  | _ => none

/-- The places in a node. -/
def ofNode (around : Surroundings) : Node → List Visit
  | .statement node => ofStatement around node
  | .block node => ofBlock around node
  | .condition node => ofConditions around [node]
  | .switchCase node => ofBlock around node.body
  | .declaration node => ofDeclaration around node
  | .expression node => ofExpression around node
  | .argument node => ofExpression around node.value
  | .closure node => ofClosure around node
  | _ => []

theorem ofStatements_eq_flatMap (statements : List Statement) :
    ofStatements around statements = statements.flatMap (ofStatement around) := by
  induction statements with
  | nil => rw [ofStatements, List.flatMap_nil]
  | cons first rest ih => rw [ofStatements, ih, List.flatMap_cons]

theorem ofConditions_eq_flatMap (conditions : List Condition) :
    ofConditions around conditions = conditions.flatMap (ofConditions around [·]) := by
  induction conditions with
  | nil => rw [ofConditions, List.flatMap_nil]
  | cons first rest ih =>
      cases first <;> rw [List.flatMap_cons, ← ih] <;> simp only [ofConditions, List.append_nil]

theorem ofCases_eq_flatMap (cases : List SwitchCase) :
    ofCases around cases = cases.flatMap (ofBlock around ·.body) := by
  induction cases with
  | nil => rw [ofCases, List.flatMap_nil]
  | cons first rest ih =>
      obtain ⟨span, label, body⟩ := first
      rw [ofCases, ih, List.flatMap_cons]

theorem ofDeclarations_eq_flatMap (declarations : List Declaration) :
    ofDeclarations around declarations = declarations.flatMap (ofDeclaration around) := by
  induction declarations with
  | nil => rw [ofDeclarations, List.flatMap_nil]
  | cons first rest ih => rw [ofDeclarations, ih, List.flatMap_cons]

theorem ofExpressions_eq_flatMap (expressions : List Expr) :
    ofExpressions around expressions = expressions.flatMap (ofExpression around) := by
  induction expressions with
  | nil => rw [ofExpressions, List.flatMap_nil]
  | cons first rest ih => rw [ofExpressions, ih, List.flatMap_cons]

theorem ofArguments_eq_flatMap (args : List Argument) :
    ofArguments around args = args.flatMap (ofExpression around ·.value) := by
  induction args with
  | nil => rw [ofArguments, List.flatMap_nil]
  | cons first rest ih =>
      obtain ⟨span, label, value⟩ := first
      rw [ofArguments, ih, List.flatMap_cons]

/-- A place in one of the children of a node. -/
def InChild (around : Surroundings) (node : Node) (visit : Visit) : Prop :=
  ∃ child ∈ node.children, visit ∈ ofNode (around.into node) child

/-- A place in one of the arguments among the children of an expression. -/
theorem inChild_of_mem_ofArguments {expr : Expr} {args : List Argument}
    (areChildren : args.map .argument ⊆ (Node.expression expr).children)
    (found : visit ∈ ofArguments around args) : InChild around (.expression expr) visit := by
  rw [ofArguments_eq_flatMap] at found
  obtain ⟨arg, member, found⟩ := List.mem_flatMap.mp found
  exact ⟨_, areChildren (List.mem_map_of_mem member), found⟩

theorem mem_ofNode_expression {expr : Expr} (found : visit ∈ ofExpression around expr) :
    here? around (.expression expr) = some visit ∨ InChild around (.expression expr) visit := by
  have ofChild {child : Expr} (isChild : Node.expression child ∈ (Node.expression expr).children)
      (found : visit ∈ ofExpression around child) : InChild around (.expression expr) visit :=
    ⟨_, isChild, found⟩
  cases expr with
  | literal | ident | implicitMember =>
      rw [ofExpression] at found
      cases found
  | member span base name =>
      rw [ofExpression] at found
      exact .inr (ofChild List.mem_cons_self found)
  | call span callee args trailing =>
      have ofCallee : visit ∈ ofExpression around callee →
          InChild around (.expression (.call span callee args trailing)) visit :=
        ofChild List.mem_cons_self
      have ofArgs : visit ∈ ofArguments around args →
          InChild around (.expression (.call span callee args trailing)) visit :=
        inChild_of_mem_ofArguments fun _ member =>
          List.mem_append_left _ (List.mem_cons_of_mem _ member)
      cases trailing with
      | none =>
          rw [ofExpression, List.mem_cons, List.mem_append] at found
          rcases found with rfl | found | found
          · exact .inl rfl
          · exact .inr (ofCallee found)
          · exact .inr (ofArgs found)
      | some closure =>
          rw [ofExpression, List.mem_cons, List.mem_append, List.mem_append] at found
          rcases found with rfl | found | found | found
          · exact .inl rfl
          · exact .inr (ofCallee found)
          · exact .inr (ofArgs found)
          · exact .inr ⟨.closure closure, List.mem_append_right _ (List.mem_singleton_self _),
              found⟩
  | closure node =>
      rw [ofExpression] at found
      exact .inr ⟨.closure node, List.mem_singleton_self _, found⟩
  | subscript span base args =>
      rw [ofExpression, List.mem_append] at found
      rcases found with found | found
      · exact .inr (ofChild List.mem_cons_self found)
      · exact .inr (inChild_of_mem_ofArguments
          (fun _ member => List.mem_cons_of_mem _ member) found)
  | tuple span elements =>
      rw [ofExpression] at found
      exact .inr (inChild_of_mem_ofArguments (fun _ member => member) found)
  | array span elements =>
      rw [ofExpression, ofExpressions_eq_flatMap] at found
      obtain ⟨element, member, found⟩ := List.mem_flatMap.mp found
      exact .inr (ofChild (List.mem_map_of_mem member) found)
  | paren | unary | postfixed =>
      rw [ofExpression] at found
      exact .inr (ofChild (List.mem_singleton_self _) found)
  | binary span left op right =>
      rw [ofExpression, List.mem_append] at found
      rcases found with found | found
      · exact .inr (ofChild List.mem_cons_self found)
      · exact .inr (ofChild (List.mem_cons_of_mem _ (List.mem_singleton_self _)) found)
  | assign span target sign value =>
      rw [ofExpression, List.mem_append] at found
      rcases found with found | found
      · exact .inr (ofChild List.mem_cons_self found)
      · exact .inr (ofChild (List.mem_cons_of_mem _ (List.mem_cons_of_mem _
          (List.mem_singleton_self _))) found)
  | ternary span condition thenValue elseValue =>
      rw [ofExpression, List.mem_append, List.mem_append] at found
      rcases found with found | found | found
      · exact .inr (ofChild List.mem_cons_self found)
      · exact .inr (ofChild (List.mem_cons_of_mem _ List.mem_cons_self) found)
      · exact .inr (ofChild (List.mem_cons_of_mem _ (List.mem_cons_of_mem _
          (List.mem_singleton_self _))) found)

theorem mem_ofNode_conditional {node : Conditional} (found : visit ∈ ofConditional around node) :
    InChild around (.statement (.conditional node)) visit := by
  obtain ⟨span, conditions, thenBlock, otherwise⟩ := node
  have ofConditions (found : visit ∈ ofConditions around conditions) : InChild around
      (.statement (.conditional ⟨span, conditions, thenBlock, otherwise⟩)) visit := by
    rw [ofConditions_eq_flatMap] at found
    obtain ⟨condition, member, found⟩ := List.mem_flatMap.mp found
    exact ⟨_, List.mem_append_left _ (List.mem_map_of_mem member), found⟩
  have ofThen (found : visit ∈ ofBlock around thenBlock) : InChild around
      (.statement (.conditional ⟨span, conditions, thenBlock, otherwise⟩)) visit :=
    ⟨.block thenBlock, List.mem_append_right _ List.mem_cons_self, found⟩
  cases otherwise with
  | none =>
      rw [ofConditional, List.mem_append] at found
      exact found.elim ofConditions ofThen
  | some other =>
      rw [ofConditional, List.mem_append, List.mem_append] at found
      rcases found with found | found | found
      · exact ofConditions found
      · exact ofThen found
      · refine ⟨.ofAlternative other, List.mem_append_right _ (List.mem_cons_of_mem _
          (List.mem_singleton_self _)), ?_⟩
        cases other with
        | block node =>
            rw [ofAlternative] at found
            exact found
        | chained node =>
            rw [ofAlternative] at found
            show visit ∈ ofStatement around (.conditional node)
            rw [ofStatement]
            exact found

theorem mem_ofNode_statement {statement : Statement}
    (found : visit ∈ ofStatement around statement) :
    here? around (.statement statement) = some visit ∨
      InChild around (.statement statement) visit := by
  cases statement with
  | expression node =>
      rw [ofStatement] at found
      exact .inr ⟨.expression node, List.mem_singleton_self _, found⟩
  | conditional node =>
      rw [ofStatement] at found
      exact .inr (mem_ofNode_conditional found)
  | switch node =>
      obtain ⟨span, subject, cases⟩ := node
      rw [ofStatement, List.mem_append, ofCases_eq_flatMap] at found
      rcases found with found | found
      · exact .inr ⟨.expression subject, List.mem_cons_self, found⟩
      · obtain ⟨switchCase, member, found⟩ := List.mem_flatMap.mp found
        exact .inr ⟨.switchCase switchCase, List.mem_cons_of_mem _ (List.mem_map_of_mem member),
          found⟩
  | doBlock span body =>
      rw [ofStatement] at found
      exact .inr ⟨.block body, List.mem_singleton_self _, found⟩
  | loop node =>
      obtain ⟨span, form, header, body⟩ := node
      have isHeader : Node.expression header ∈
          (Node.statement (.loop ⟨span, form, header, body⟩)).children := by
        cases form <;> simp [Node.children, Node.ofStatement, Node.ofLoop]
      have isBody : Node.block body ∈
          (Node.statement (.loop ⟨span, form, header, body⟩)).children := by
        cases form <;> simp [Node.children, Node.ofStatement, Node.ofLoop]
      rw [ofStatement, List.mem_append] at found
      rcases found with found | found
      · exact .inr ⟨_, isHeader, found⟩
      · exact .inr ⟨_, isBody, found⟩
  | returning span keyword value =>
      cases value with
      | none =>
          rw [ofStatement] at found
          cases found
      | some value =>
          rw [ofStatement] at found
          exact .inr ⟨.expression value, List.mem_cons_of_mem _ (List.mem_singleton_self _), found⟩
  | «fallthrough» | jump =>
      rw [ofStatement] at found
      cases found
  | directive node =>
      rw [ofStatement, List.mem_singleton] at found
      exact .inl (congrArg some found.symm)
  | declaration node =>
      rw [ofStatement] at found
      exact .inr ⟨.declaration node, List.mem_singleton_self _, found⟩

theorem mem_ofNode_declaration {declaration : Declaration}
    (found : visit ∈ ofDeclaration around declaration) :
    here? around (.declaration declaration) = some visit ∨
      InChild around (.declaration declaration) visit := by
  cases declaration with
  | type node =>
      obtain ⟨span, marks, kind, name, generics, members⟩ := node
      rw [ofDeclaration, ofDeclarations_eq_flatMap] at found
      obtain ⟨member, listed, found⟩ := List.mem_flatMap.mp found
      exact .inr ⟨.declaration member, List.mem_append_right _ (List.mem_cons_of_mem _
        (List.mem_append_right _ (List.mem_map_of_mem listed))), found⟩
  | enum node =>
      rw [ofDeclaration] at found
      cases found
  | function node =>
      obtain ⟨span, marks, isStatic, name, generics, params, result, body⟩ := node
      cases body with
      | none =>
          rw [ofDeclaration, List.mem_singleton] at found
          exact .inl (congrArg some found.symm)
      | some body =>
          rw [ofDeclaration, List.mem_cons] at found
          rcases found with rfl | found
          · exact .inl rfl
          · exact .inr ⟨.block body, List.mem_append_right _ (List.mem_cons_of_mem _
              (List.mem_append_right _ (List.mem_append_right _ (List.mem_append_right _
                (List.mem_singleton_self _))))), found⟩
  | «variable» node =>
      obtain ⟨span, marks, isMutable, name, type, value, body⟩ := node
      rw [ofDeclaration, List.mem_append] at found
      rcases found with found | found
      · cases value with
        | none =>
            rw [ofInitialValue] at found
            cases found
        | some value =>
            rw [ofInitialValue] at found
            exact .inr ⟨.expression value, List.mem_append_right _ (List.mem_cons_of_mem _
              (List.mem_append_right _ (List.mem_append_left _ (List.mem_singleton_self _)))),
              found⟩
      · cases body with
        | none =>
            rw [ofProperty] at found
            cases found
        | some body =>
            rw [ofProperty, List.mem_cons] at found
            rcases found with rfl | found
            · exact .inl rfl
            · exact .inr ⟨.block body, List.mem_append_right _ (List.mem_cons_of_mem _
                (List.mem_append_right _ (List.mem_append_right _ (List.mem_singleton_self _)))),
                found⟩

/-- **The places in a node** are the node itself and the places in its children. -/
theorem mem_ofNode {node : Node} (found : visit ∈ ofNode around node) :
    here? around node = some visit ∨ InChild around node visit := by
  cases node with
  | statement node => exact mem_ofNode_statement found
  | declaration node => exact mem_ofNode_declaration found
  | expression node => exact mem_ofNode_expression found
  | block node =>
      obtain ⟨span, statements⟩ := node
      rw [ofNode, ofBlock, ofStatements_eq_flatMap] at found
      obtain ⟨statement, member, found⟩ := List.mem_flatMap.mp found
      exact .inr ⟨.statement statement, List.mem_map_of_mem member, found⟩
  | condition node =>
      cases node with
      | expression node =>
          rw [ofNode, ofConditions, ofConditions, List.append_nil] at found
          exact .inr ⟨.expression node, List.mem_singleton_self _, found⟩
      | binding span isMutable bound value =>
          rw [ofNode, ofConditions, ofConditions, List.append_nil] at found
          exact .inr ⟨.expression value, List.mem_cons_of_mem _ (List.mem_singleton_self _), found⟩
  | switchCase node =>
      exact .inr ⟨.block node.body, List.mem_append_right _ (List.mem_singleton_self _), found⟩
  | argument node =>
      exact .inr ⟨.expression node.value, List.mem_append_right _ (List.mem_singleton_self _),
        found⟩
  | closure node =>
      obtain ⟨span, params, body⟩ := node
      rw [ofNode, ofClosure] at found
      exact .inr ⟨.block body, List.mem_append_right _ (List.mem_singleton_self _), found⟩
  | _ => cases found

end Visit

end Compile

/-! ### Scopes of a program -/

/-- **Scopes of a program**: what they declare is declared in the program. -/
structure Scopes.AreOf (program : Program) (scopes : Scopes) : Prop where
  types : ∀ scope ∈ scopes, ∀ decl ∈ scope.types,
    (Node.declaration (.type decl)).WithinProgram program
  functions : ∀ scope ∈ scopes, ∀ function ∈ scope.functions,
    (Node.declaration (.function function)).WithinProgram program

namespace Scopes

variable {program : Program} {scopes : Scopes}

theorem areOf_nil : AreOf program [] :=
  ⟨List.forall_mem_nil _, List.forall_mem_nil _⟩

/-- Declarations of the program make up one more scope of it. -/
theorem AreOf.cons {declarations : List Declaration} (areOf : AreOf program scopes)
    (declared : ∀ declaration ∈ declarations,
      (Node.declaration declaration).WithinProgram program) :
    AreOf program (.ofDeclarations declarations :: scopes) where
  types := List.forall_mem_cons.mpr ⟨fun _ listed =>
    declared _ (Compile.mem_types_ofDeclarations.mp listed), areOf.types⟩
  functions := List.forall_mem_cons.mpr ⟨fun _ listed =>
    declared _ (Compile.mem_functions_ofDeclarations.mp listed), areOf.functions⟩

/-- A function to which scopes of a program lead is one of the program. -/
theorem AreOf.withinProgram_function {function : FunctionDecl} {declared : Scopes}
    (areOf : AreOf program scopes) (leads : Leads scopes function declared) :
    (Node.declaration (.function function)).WithinProgram program := by
  cases leads with
  | scope nearer outer isDeclared =>
      exact areOf.functions _ (List.mem_append_right _ List.mem_cons_self) _ isDeclared
  | type nearer outer isDeclared ofType =>
      have ofProgram : (Node.declaration (.type _)).WithinProgram program :=
        areOf.types _ (List.mem_append_right _ List.mem_cons_self) _ isDeclared
      exact ofProgram.child (List.mem_append_right _ (List.mem_cons_of_mem _
        (List.mem_append_right _ (List.mem_map_of_mem (TypeDecl.mem_functions.mp ofType)))))

/-- The builder that attributes name in scopes of a program is a type of the program, and the mark
of the first that names it is the place of one of them. -/
theorem AreOf.of_builderAttribute? {marks : List Attribute} {mark : Span} {builder : TypeDecl}
    (areOf : AreOf program scopes) (named : scopes.builderAttribute? marks = some (mark, builder)) :
    (∃ entry ∈ marks, entry.span = mark) ∧
      (Node.declaration (.type builder)).WithinProgram program := by
  obtain ⟨entry, listed, means⟩ := List.exists_of_findSome?_eq_some named
  obtain ⟨_, isBuilder, same⟩ := Option.map_eq_some_iff.mp means
  cases same
  obtain ⟨isType, -⟩ := Option.filter_eq_some_iff.mp isBuilder
  obtain ⟨scope, isScope, found⟩ := List.exists_of_findSome?_eq_some isType
  exact ⟨⟨entry, listed, rfl⟩,
    areOf.types scope isScope builder (List.mem_of_find?_eq_some found)⟩

end Scopes

namespace Compile

/-! ### Places of a program -/

/-- **What surrounds a place of a program**: scopes of it and those who are asked. -/
structure Surroundings.AreOf (services : Collaborators) (program : Program)
    (around : Surroundings) : Prop where
  asked : around.services = services
  declared : around.scopes.AreOf program

namespace Surroundings.AreOf

variable {services : Collaborators} {program : Program} {around : Surroundings} {node : Node}

/-- The inside of a block whose statements are statements of the program. -/
theorem inBlock {statements : List Statement} (areOf : around.AreOf services program)
    (inside : ∀ statement ∈ statements, (Node.statement statement).WithinProgram program) :
    (around.inBlock statements).AreOf services program := by
  refine ⟨areOf.asked, areOf.declared.cons fun declaration listed => ?_⟩
  obtain ⟨statement, member, same⟩ := List.mem_filterMap.mp listed
  split at same <;> cases same
  exact (inside _ member).child (List.mem_singleton_self _)

/-- What surrounds the children of a node is of the program too. -/
theorem into (areOf : around.AreOf services program) (inside : node.WithinProgram program) :
    (around.into node).AreOf services program := by
  cases node with
  | block node => exact areOf.inBlock fun _ listed => inside.child (List.mem_map_of_mem listed)
  | declaration node =>
      cases node with
      | type node =>
          refine ⟨areOf.asked, areOf.declared.cons fun declaration listed => ?_⟩
          exact inside.child (List.mem_append_right _ (List.mem_cons_of_mem _
            (List.mem_append_right _ (List.mem_map_of_mem listed))))
      | function | enum | «variable» => exact ⟨areOf.asked, areOf.declared⟩
  | _ => exact ⟨areOf.asked, areOf.declared⟩

end Surroundings.AreOf

/-- **A place of a program**: the node is one of the program, and so is what surrounds it. -/
inductive Visit.IsOf (services : Collaborators) (program : Program) : Visit → Prop where
  | directive {node : Directive}
      (inside : (Node.statement (.directive node)).WithinProgram program) :
      IsOf services program (.directive node)
  | function {around : Surroundings} {decl : FunctionDecl} (areOf : around.AreOf services program)
      (inside : (Node.declaration (.function decl)).WithinProgram program) :
      IsOf services program (.function around decl)
  | property {around : Surroundings} {decl : VariableDecl} {body : Block}
      (areOf : around.AreOf services program) (isBody : decl.body = some body)
      (inside : (Node.declaration (.variable decl)).WithinProgram program) :
      IsOf services program (.property around decl.attributes body)
  | call {around : Surroundings} {span : Span} {callee : Expr} {args : List Argument}
      {trailing : Option Closure} (areOf : around.AreOf services program)
      (inside : (Node.expression (.call span callee args trailing)).WithinProgram program) :
      IsOf services program (.call around callee args trailing)

section Programs

variable {services : Collaborators} {program : Program} {around : Surroundings} {visit : Visit}
  {node : Node}

/-- The place that a node of a program is. -/
theorem isOf_of_here? (areOf : around.AreOf services program)
    (inside : node.WithinProgram program) (here : Visit.here? around node = some visit) :
    visit.IsOf services program := by
  unfold Visit.here? at here
  split at here
  · cases here
    exact .directive inside
  · cases here
    exact .function areOf inside
  · obtain ⟨body, isBody, rfl⟩ := Option.map_eq_some_iff.mp here
    exact .property areOf isBody inside
  · cases here
    exact .call areOf inside
  · cases here

/-- **The places in a node of a program** are places of the program. -/
theorem isOf_of_mem_ofNode (areOf : around.AreOf services program)
    (inside : node.WithinProgram program) (found : visit ∈ Visit.ofNode around node) :
    visit.IsOf services program := by
  induction node using Node.induction generalizing around with
  | step node ih =>
      rcases Visit.mem_ofNode found with here | ⟨child, isChild, found⟩
      · exact isOf_of_here? areOf inside here
      · exact ih child isChild (areOf.into inside) (inside.child isChild) found

/-- **The places of a program** are about its nodes, and its declarations surround them. -/
theorem isOf_of_mem_visits {config : Config} (found : visit ∈ visits services config program) :
    visit.IsOf services program := by
  have outermost : Surroundings.AreOf services program { services, config } :=
    ⟨rfl, Scopes.areOf_nil⟩
  have areOf : (Surroundings.ofProgram services config program).AreOf services program :=
    outermost.inBlock fun _ member => program.withinProgram_statement member
  rw [visits, Visit.ofStatements_eq_flatMap] at found
  obtain ⟨statement, member, found⟩ := List.mem_flatMap.mp found
  exact isOf_of_mem_ofNode areOf (program.withinProgram_statement member) found

end Programs

end Compile

end ResultBuilder
