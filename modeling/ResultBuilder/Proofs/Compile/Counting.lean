import Mathlib.Data.List.Perm.Basic
import ResultBuilder.Proofs.Compile.Nodes

/-!
# Every place once

A walk comes once to every place of a program, in whatever order.

* **`Node.nodes`**, **`Program.nodes`**: all nodes of a syntax tree, each as often as it occurs.
* **`Visit.ofNode_perm`**: the places in a node are the node itself and the places in its children,
  each once.
* **`Site`**, **`sites_visits`**: the places of a program are its directives, functions, properties
  and calls, each once.
-/

namespace ResultBuilder

open Syntax

namespace Syntax.Node

/-- **All nodes** within a node, each as often as it occurs. -/
def nodes (node : Node) : List Node :=
  node :: node.children.attach.flatMap fun child => child.1.nodes
termination_by sizeOf node
decreasing_by exact smaller_children node child.1 child.2

theorem nodes_eq (node : Node) : node.nodes = node :: node.children.flatMap nodes := by
  rw [nodes, List.flatMap_subtype (fun child isChild => rfl), List.unattach_attach]

theorem filterMap_nodes {α : Type} (choose : Node → Option α) (node : Node) :
    node.nodes.filterMap choose =
      (choose node).toList ++ node.children.flatMap fun child => child.nodes.filterMap choose := by
  rw [nodes_eq, List.filterMap_cons, List.filterMap_flatMap]
  cases choose node <;> rfl

/-- They are the nodes within the node. -/
theorem mem_nodes {inner node : Node} : inner ∈ node.nodes ↔ inner.Within node := by
  induction node using Node.induction with
  | step node ih =>
      rw [nodes_eq, List.mem_cons, List.mem_flatMap]
      constructor
      · rintro (rfl | ⟨child, isChild, found⟩)
        · exact .self _
        · exact .child isChild ((ih child isChild).mp found)
      · intro within
        cases within with
        | self => exact .inl rfl
        | child isChild within => exact .inr ⟨_, isChild, (ih _ isChild).mpr within⟩

/-- Nodes that are made of names, types and patterns. -/
def isSignature : Node → Bool
  | .name _ | .mark _ | .attribute _ | .type _ | .generic _ | .param _ | .enumCase _ | .pattern _ =>
      true
  | .expression _ | .argument _ | .closure _ | .block _ | .statement _ | .condition _
  | .switchCase _ | .declaration _ => false

theorem isSignature_of_mem_map {α : Type} {wrap : α → Node} {items : List α} {child : Node}
    (signature : ∀ item, (wrap item).isSignature = true) (isChild : child ∈ items.map wrap) :
    child.isSignature = true := by
  obtain ⟨item, -, rfl⟩ := List.mem_map.mp isChild
  exact signature item

/-- The children of such nodes are such nodes. -/
theorem isSignature_of_mem_children {node child : Node} (signature : node.isSignature = true)
    (isChild : child ∈ node.children) : child.isSignature = true := by
  cases node with
  | name | mark | «attribute» | pattern => cases isChild
  | type node =>
      cases node with
      | named | tuple => exact isSignature_of_mem_map (fun _ => rfl) isChild
      | optional | someOf => exact List.mem_singleton.mp isChild ▸ rfl
      | function =>
          rcases List.mem_append.mp isChild with isChild | isChild
          · exact isSignature_of_mem_map (fun _ => rfl) isChild
          · exact List.mem_singleton.mp isChild ▸ rfl
  | generic node | enumCase node =>
      rcases List.mem_cons.mp isChild with rfl | isChild
      · rfl
      · exact isSignature_of_mem_map (fun _ => rfl) isChild
  | param node =>
      simp only [children, ofParam, List.mem_append, List.mem_singleton] at isChild
      rcases isChild with (((isChild | isLabel) | rfl) | isChild) | rfl
      · exact isSignature_of_mem_map (fun _ => rfl) isChild
      · split at isLabel
        · cases isLabel
        · split at isLabel
          · cases isLabel
          · exact List.mem_singleton.mp isLabel ▸ rfl
      · rfl
      · exact isSignature_of_mem_map (fun _ => rfl) isChild
      · rfl
  | expression | argument | closure | block | statement | condition | switchCase | declaration =>
      cases signature

end Syntax.Node

/-- **All nodes** of a program. -/
def Syntax.Program.nodes (program : Program) : List Node :=
  program.statements.flatMap fun statement => (Node.statement statement).nodes

theorem Syntax.Program.mem_nodes {program : Program} {node : Node} :
    node ∈ program.nodes ↔ node.WithinProgram program := by
  rw [nodes, List.mem_flatMap]
  exact exists_congr fun _ => and_congr_right fun _ => Node.mem_nodes

namespace Compile

namespace Visit

variable {around : Surroundings}

theorem flatMap_nothing {α β : Type} (items : List α) :
    items.flatMap (fun _ => ([] : List β)) = [] :=
  List.flatMap_eq_nil_iff.mpr fun _ _ => rfl

/-- Nothing is done in names, types and patterns. -/
theorem ofNode_of_isSignature {node : Node} (signature : node.isSignature = true) :
    ofNode around node = [] := by
  cases node with
  | expression | argument | closure | block | statement | condition | switchCase | declaration =>
      cases signature
  | _ => rfl

/-- The places in an expression, in the order of the source. -/
theorem ofExpression_eq (expr : Expr) : ofExpression around expr =
    (here? around (.expression expr)).toList ++ (Node.ofExpr expr).flatMap (ofNode around) := by
  cases expr with
  | call span callee args trailing =>
      cases trailing <;>
        simp [ofExpression, here?, Node.ofExpr, ofNode, ofArguments_eq_flatMap, List.flatMap_map]
  | _ =>
      simp [ofExpression, here?, Node.ofExpr, ofNode, ofArguments_eq_flatMap,
        ofExpressions_eq_flatMap, List.flatMap_map]

theorem ofDeclaration_perm (declaration : Declaration) : (ofDeclaration around declaration).Perm
    ((here? around (.declaration declaration)).toList ++
      (Node.ofDeclaration declaration).flatMap
        (ofNode (around.into (.declaration declaration)))) := by
  cases declaration with
  | type node =>
      obtain ⟨span, marks, kind, name, generics, members⟩ := node
      simp [ofDeclaration, here?, Node.ofDeclaration, ofNode, ofDeclarations_eq_flatMap,
        List.flatMap_map, flatMap_nothing, Surroundings.into]
  | enum node =>
      simp [ofDeclaration, here?, Node.ofDeclaration, ofNode, List.flatMap_map, flatMap_nothing]
  | function node =>
      obtain ⟨span, marks, isStatic, name, generics, params, result, body⟩ := node
      cases body <;> cases result <;>
        simp [ofDeclaration, here?, Node.ofDeclaration, ofNode, List.flatMap_map, flatMap_nothing,
          Surroundings.into]
  | «variable» node =>
      obtain ⟨span, marks, isMutable, name, type, value, body⟩ := node
      -- the value of a property is visited before its body
      cases body <;> cases value <;> cases type <;>
        simp [ofDeclaration, here?, Node.ofDeclaration, ofNode, ofInitialValue, ofProperty,
          List.flatMap_map, flatMap_nothing, Surroundings.into, List.perm_middle]

theorem ofConditions_singleton (condition : Condition) : ofConditions around [condition] =
    (Node.ofCondition condition).flatMap (ofNode around) := by
  cases condition <;> simp [ofConditions, Node.ofCondition, ofNode]

theorem ofConditional_eq (node : Conditional) : ofConditional around node =
    (Node.ofStatement (.conditional node)).flatMap (ofNode around) := by
  obtain ⟨span, conditions, thenBlock, otherwise⟩ := node
  rw [Node.ofStatement, List.flatMap_append, List.flatMap_map]
  rcases otherwise with _ | other | other <;>
    simp only [ofConditional, ofAlternative, ofNode, ofConditions_eq_flatMap conditions,
      Node.ofAlternative, ofStatement, List.flatMap_cons, List.flatMap_nil, List.map_cons,
      List.map_nil, Option.toList, List.append_nil]

theorem ofStatement_perm (statement : Statement) : (ofStatement around statement).Perm
    ((here? around (.statement statement)).toList ++
      (Node.ofStatement statement).flatMap (ofNode around)) := by
  cases statement with
  | conditional node =>
      rw [ofStatement, ofConditional_eq]
      exact .refl _
  | switch node =>
      obtain ⟨span, subject, cases⟩ := node
      simp [ofStatement, here?, Node.ofStatement, ofNode, ofCases_eq_flatMap, List.flatMap_map]
  | loop node =>
      obtain ⟨span, form, header, body⟩ := node
      -- the condition of a `repeat` loop stands at its end and is visited first
      cases form <;> simp [ofStatement, here?, Node.ofStatement, Node.ofLoop, ofNode,
        List.perm_append_comm]
  | returning span keyword value =>
      cases value <;> simp [ofStatement, here?, Node.ofStatement, ofNode]
  | _ => simp [ofStatement, here?, Node.ofStatement, ofNode]

/-- **The places in a node, each once**: the node itself and the places in its children. -/
theorem ofNode_perm (node : Node) : (ofNode around node).Perm
    ((here? around node).toList ++ node.children.flatMap (ofNode (around.into node))) := by
  cases node with
  | statement node => exact ofStatement_perm node
  | declaration node => exact ofDeclaration_perm node
  | expression node =>
      rw [ofNode, ofExpression_eq]
      exact .refl _
  | condition node =>
      rw [ofNode, ofConditions_singleton]
      exact .refl _
  | block node =>
      obtain ⟨span, statements⟩ := node
      simp [ofNode, ofBlock, ofStatements_eq_flatMap, here?, Node.children, Surroundings.into,
        List.flatMap_map]
  | closure node =>
      obtain ⟨span, params, body⟩ := node
      simp [ofNode, ofClosure, here?, Node.children, Surroundings.into, List.flatMap_map,
        flatMap_nothing]
  | switchCase node =>
      obtain ⟨span, label, body⟩ := node
      cases label <;> simp [ofNode, here?, Node.children, Node.ofLabel, Surroundings.into,
        List.flatMap_map, flatMap_nothing]
  | argument node =>
      obtain ⟨span, label, value⟩ := node
      simp [ofNode, here?, Node.children, Surroundings.into, List.flatMap_map, flatMap_nothing]
  | name | mark | «attribute» | type | generic | param | enumCase | pattern =>
      refine .of_eq (.symm (List.flatMap_eq_nil_iff.mpr fun child isChild => ?_))
      exact ofNode_of_isSignature (Node.isSignature_of_mem_children rfl isChild)

end Visit

/-! ### What places are about -/

/-- **What a place is about**, apart from what surrounds it. -/
inductive Site where
  | directive (node : Directive)
  | function (decl : FunctionDecl)
  /-- A computed property: its attributes and its body. -/
  | property (marks : List Attribute) (body : Block)
  | call (callee : Expr) (args : List Argument) (trailing : Option Closure)

def Visit.site : Visit → Site
  | .directive node => .directive node
  | .function _ decl => .function decl
  | .property _ marks body => .property marks body
  | .call _ callee args trailing => .call callee args trailing

/-- What is to be done at a node, if anything. -/
def Site.ofNode? : Node → Option Site
  | .statement (.directive node) => some (.directive node)
  | .declaration (.function node) => some (.function node)
  | .declaration (.variable node) => node.body.map (.property node.attributes)
  | .expression (.call _ callee args trailing) => some (.call callee args trailing)
  | _ => none

theorem site_here? (around : Surroundings) (node : Node) :
    (Visit.here? around node).map Visit.site = Site.ofNode? node := by
  cases node with
  | statement node => cases node <;> rfl
  | expression node => cases node <;> rfl
  | declaration node =>
      cases node with
      | «variable» node => exact Option.map_map ..
      | function | type | enum => rfl
  | _ => rfl

/-- **The places in a node** are about the nodes within it, each once. -/
theorem sites_ofNode (around : Surroundings) (node : Node) :
    ((Visit.ofNode around node).map Visit.site).Perm (node.nodes.filterMap Site.ofNode?) := by
  induction node using Node.induction generalizing around with
  | step node ih =>
      have parts : (node.children.flatMap fun child =>
            (Visit.ofNode (around.into node) child).map Visit.site).Perm
          (node.children.flatMap fun child => child.nodes.filterMap Site.ofNode?) :=
        List.Perm.flatMap_left _ fun child isChild => ih child isChild _
      have here : (Visit.here? around node).toList.map Visit.site =
          (Site.ofNode? node).toList := by
        rw [← site_here? around node, Option.toList_map]
      refine ((Visit.ofNode_perm node).map Visit.site).trans ?_
      rw [List.map_append, List.map_flatMap, here, Node.filterMap_nodes]
      exact parts.append_left _

/-- **A walk comes once to every place**: to the directives, the functions, the computed properties
and the calls of a program. -/
theorem sites_visits (services : Collaborators) (config : Config) (program : Program) :
    ((visits services config program).map Visit.site).Perm
      (program.nodes.filterMap Site.ofNode?) := by
  rw [visits, Visit.ofStatements_eq_flatMap, List.map_flatMap, Program.nodes,
    List.filterMap_flatMap]
  exact List.Perm.flatMap_left _ fun statement _ => sites_ofNode _ (.statement statement)

end Compile

end ResultBuilder
