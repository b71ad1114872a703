import ResultBuilder.Proofs.Compile.Visits

/-!
# What holds around every place of a program

What surrounds a place is made from what surrounds the program by going into blocks, closures,
functions and types. What each of these keeps holds around every place.

* **`Invariant`**: something about surroundings that is kept on the way in. What is declared in a
  block or a type may be used, all of which is visited.
* **`Invariant.holds_visits`**: an invariant that holds around a program holds around its places.
-/

namespace ResultBuilder

open Syntax

namespace Compile

/-- **Something about surroundings that is kept on the way in**, given the places of the whole
program. -/
structure Invariant (all : List Visit) (Keeps : Surroundings → Prop) : Prop where
  inBlock : ∀ {around : Surroundings} {statements : List Statement}, Keeps around →
    Visit.ofStatements (around.inBlock statements) statements ⊆ all →
      Keeps (around.inBlock statements)
  inClosure : ∀ {around : Surroundings} {params : List Name}, Keeps around →
    Keeps (around.inClosure params)
  inFunction : ∀ {around : Surroundings} {generics : List GenericParam} {params : List Param},
    Keeps around → Keeps (around.inFunction generics params)
  inType : ∀ {around : Surroundings} {decl : TypeDecl}, Keeps around →
    Visit.ofDeclarations (around.inType decl) decl.members ⊆ all → Keeps (around.inType decl)

/-- Something holds around a place. Nothing is asked around directives, which do not depend on their
surroundings. -/
def Visit.Holds (Keeps : Surroundings → Prop) : Visit → Prop
  | .directive _ => True
  | .function around _ | .property around _ _ | .call around _ _ _ => Keeps around

namespace Invariant

variable {all : List Visit} {Keeps : Surroundings → Prop}

mutual

theorem holds_ofBlock (invariant : Invariant all Keeps) :
    ∀ {around : Surroundings} {node : Block},
    Keeps around → Visit.ofBlock around node ⊆ all →
      ∀ visit ∈ Visit.ofBlock around node, visit.Holds Keeps
  | around, ⟨_, statements⟩, kept, visited => by
      rw [Visit.ofBlock] at visited ⊢
      exact invariant.holds_ofStatements (invariant.inBlock kept visited) visited

theorem holds_ofStatements (invariant : Invariant all Keeps) :
    ∀ {around : Surroundings} {statements : List Statement},
    Keeps around → Visit.ofStatements around statements ⊆ all →
      ∀ visit ∈ Visit.ofStatements around statements, visit.Holds Keeps
  | _, [], _, _ => nofun
  | _, _ :: _, kept, visited => by
      rw [Visit.ofStatements, List.append_subset] at visited
      rw [Visit.ofStatements, List.forall_mem_append]
      exact ⟨invariant.holds_ofStatement kept visited.1,
        invariant.holds_ofStatements kept visited.2⟩

theorem holds_ofStatement (invariant : Invariant all Keeps) :
    ∀ {around : Surroundings} {node : Statement},
    Keeps around → Visit.ofStatement around node ⊆ all →
      ∀ visit ∈ Visit.ofStatement around node, visit.Holds Keeps
  | _, .expression _, kept, visited => by
      rw [Visit.ofStatement] at visited ⊢
      exact invariant.holds_ofExpression kept visited
  | _, .conditional _, kept, visited => by
      rw [Visit.ofStatement] at visited ⊢
      exact invariant.holds_ofConditional kept visited
  | _, .switch ⟨_, _, _⟩, kept, visited => by
      rw [Visit.ofStatement, List.append_subset] at visited
      rw [Visit.ofStatement, List.forall_mem_append]
      exact ⟨invariant.holds_ofExpression kept visited.1, invariant.holds_ofCases kept visited.2⟩
  | _, .doBlock _ _, kept, visited => by
      rw [Visit.ofStatement] at visited ⊢
      exact invariant.holds_ofBlock kept visited
  | _, .loop ⟨_, _, _, _⟩, kept, visited => by
      rw [Visit.ofStatement, List.append_subset] at visited
      rw [Visit.ofStatement, List.forall_mem_append]
      exact ⟨invariant.holds_ofExpression kept visited.1, invariant.holds_ofBlock kept visited.2⟩
  | _, .returning _ _ none, _, _ | _, .fallthrough _, _, _ | _, .jump _ _, _, _ => by
      rw [Visit.ofStatement]
      nofun
  | _, .returning _ _ (some _), kept, visited => by
      rw [Visit.ofStatement] at visited ⊢
      exact invariant.holds_ofExpression kept visited
  | _, .directive _, _, _ => by
      rw [Visit.ofStatement]
      exact List.forall_mem_singleton.mpr trivial
  | _, .declaration _, kept, visited => by
      rw [Visit.ofStatement] at visited ⊢
      exact invariant.holds_ofDeclaration kept visited

theorem holds_ofConditional (invariant : Invariant all Keeps) :
    ∀ {around : Surroundings} {node : Conditional},
    Keeps around → Visit.ofConditional around node ⊆ all →
      ∀ visit ∈ Visit.ofConditional around node, visit.Holds Keeps
  | _, ⟨_, _, _, none⟩, kept, visited => by
      rw [Visit.ofConditional, List.append_subset] at visited
      rw [Visit.ofConditional, List.forall_mem_append]
      exact ⟨invariant.holds_ofConditions kept visited.1, invariant.holds_ofBlock kept visited.2⟩
  | _, ⟨_, _, _, some _⟩, kept, visited => by
      rw [Visit.ofConditional, List.append_subset, List.append_subset] at visited
      rw [Visit.ofConditional, List.forall_mem_append, List.forall_mem_append]
      exact ⟨invariant.holds_ofConditions kept visited.1, invariant.holds_ofBlock kept visited.2.1,
        invariant.holds_ofAlternative kept visited.2.2⟩

theorem holds_ofAlternative (invariant : Invariant all Keeps) :
    ∀ {around : Surroundings} {node : Syntax.Alternative},
    Keeps around → Visit.ofAlternative around node ⊆ all →
      ∀ visit ∈ Visit.ofAlternative around node, visit.Holds Keeps
  | _, .block _, kept, visited => by
      rw [Visit.ofAlternative] at visited ⊢
      exact invariant.holds_ofBlock kept visited
  | _, .chained _, kept, visited => by
      rw [Visit.ofAlternative] at visited ⊢
      exact invariant.holds_ofConditional kept visited

theorem holds_ofConditions (invariant : Invariant all Keeps) :
    ∀ {around : Surroundings} {conditions : List Condition},
    Keeps around → Visit.ofConditions around conditions ⊆ all →
      ∀ visit ∈ Visit.ofConditions around conditions, visit.Holds Keeps
  | _, [], _, _ => nofun
  | _, .expression _ :: _, kept, visited | _, .binding _ _ _ _ :: _, kept, visited => by
      rw [Visit.ofConditions, List.append_subset] at visited
      rw [Visit.ofConditions, List.forall_mem_append]
      exact ⟨invariant.holds_ofExpression kept visited.1,
        invariant.holds_ofConditions kept visited.2⟩

theorem holds_ofCases (invariant : Invariant all Keeps) :
    ∀ {around : Surroundings} {cases : List SwitchCase},
    Keeps around → Visit.ofCases around cases ⊆ all →
      ∀ visit ∈ Visit.ofCases around cases, visit.Holds Keeps
  | _, [], _, _ => nofun
  | _, ⟨_, _, _⟩ :: _, kept, visited => by
      rw [Visit.ofCases, List.append_subset] at visited
      rw [Visit.ofCases, List.forall_mem_append]
      exact ⟨invariant.holds_ofBlock kept visited.1, invariant.holds_ofCases kept visited.2⟩

theorem holds_ofDeclaration (invariant : Invariant all Keeps) :
    ∀ {around : Surroundings} {node : Declaration},
    Keeps around → Visit.ofDeclaration around node ⊆ all →
      ∀ visit ∈ Visit.ofDeclaration around node, visit.Holds Keeps
  | around, .type ⟨span, marks, kind, name, generics, members⟩, kept, visited => by
      rw [Visit.ofDeclaration] at visited ⊢
      exact invariant.holds_ofDeclarations (invariant.inType kept visited) visited
  | _, .enum _, _, _ => by
      rw [Visit.ofDeclaration]
      nofun
  | _, .function ⟨_, _, _, _, _, _, _, none⟩, kept, _ => by
      rw [Visit.ofDeclaration]
      exact List.forall_mem_singleton.mpr kept
  | _, .function ⟨_, _, _, _, generics, params, _, some _⟩, kept, visited => by
      rw [Visit.ofDeclaration, List.cons_subset] at visited
      rw [Visit.ofDeclaration, List.forall_mem_cons]
      exact ⟨kept, invariant.holds_ofBlock (invariant.inFunction kept) visited.2⟩
  | _, .variable ⟨_, _, _, _, _, _, _⟩, kept, visited => by
      rw [Visit.ofDeclaration, List.append_subset] at visited
      rw [Visit.ofDeclaration, List.forall_mem_append]
      exact ⟨invariant.holds_ofInitialValue kept visited.1,
        invariant.holds_ofProperty kept visited.2⟩

theorem holds_ofInitialValue (invariant : Invariant all Keeps) :
    ∀ {around : Surroundings} {value : Option Expr},
    Keeps around → Visit.ofInitialValue around value ⊆ all →
      ∀ visit ∈ Visit.ofInitialValue around value, visit.Holds Keeps
  | _, none, _, _ => nofun
  | _, some _, kept, visited => by
      rw [Visit.ofInitialValue] at visited ⊢
      exact invariant.holds_ofExpression kept visited

theorem holds_ofProperty (invariant : Invariant all Keeps) :
    ∀ {around : Surroundings} {marks : List Attribute} {body : Option Block},
    Keeps around → Visit.ofProperty around marks body ⊆ all →
      ∀ visit ∈ Visit.ofProperty around marks body, visit.Holds Keeps
  | _, _, none, _, _ => nofun
  | _, _, some _, kept, visited => by
      rw [Visit.ofProperty, List.cons_subset] at visited
      rw [Visit.ofProperty, List.forall_mem_cons]
      exact ⟨kept, invariant.holds_ofBlock kept visited.2⟩

theorem holds_ofDeclarations (invariant : Invariant all Keeps) :
    ∀ {around : Surroundings} {declarations : List Declaration},
    Keeps around → Visit.ofDeclarations around declarations ⊆ all →
      ∀ visit ∈ Visit.ofDeclarations around declarations, visit.Holds Keeps
  | _, [], _, _ => nofun
  | _, _ :: _, kept, visited => by
      rw [Visit.ofDeclarations, List.append_subset] at visited
      rw [Visit.ofDeclarations, List.forall_mem_append]
      exact ⟨invariant.holds_ofDeclaration kept visited.1,
        invariant.holds_ofDeclarations kept visited.2⟩

theorem holds_ofExpression (invariant : Invariant all Keeps) :
    ∀ {around : Surroundings} {node : Expr},
    Keeps around → Visit.ofExpression around node ⊆ all →
      ∀ visit ∈ Visit.ofExpression around node, visit.Holds Keeps
  | _, .call _ _ _ none, kept, visited => by
      rw [Visit.ofExpression, List.cons_subset, List.append_subset] at visited
      rw [Visit.ofExpression, List.forall_mem_cons, List.forall_mem_append]
      exact ⟨kept, invariant.holds_ofExpression kept visited.2.1,
        invariant.holds_ofArguments kept visited.2.2⟩
  | _, .call _ _ _ (some _), kept, visited => by
      rw [Visit.ofExpression, List.cons_subset, List.append_subset, List.append_subset] at visited
      rw [Visit.ofExpression, List.forall_mem_cons, List.forall_mem_append, List.forall_mem_append]
      exact ⟨kept, invariant.holds_ofExpression kept visited.2.1,
        invariant.holds_ofArguments kept visited.2.2.1,
        invariant.holds_ofClosure kept visited.2.2.2⟩
  | _, .closure _, kept, visited => by
      rw [Visit.ofExpression] at visited ⊢
      exact invariant.holds_ofClosure kept visited
  | _, .member _ _ _, kept, visited | _, .paren _ _, kept, visited
  | _, .unary _ _ _, kept, visited | _, .postfixed _ _ _, kept, visited => by
      rw [Visit.ofExpression] at visited ⊢
      exact invariant.holds_ofExpression kept visited
  | _, .subscript _ _ _, kept, visited => by
      rw [Visit.ofExpression, List.append_subset] at visited
      rw [Visit.ofExpression, List.forall_mem_append]
      exact ⟨invariant.holds_ofExpression kept visited.1,
        invariant.holds_ofArguments kept visited.2⟩
  | _, .tuple _ _, kept, visited => by
      rw [Visit.ofExpression] at visited ⊢
      exact invariant.holds_ofArguments kept visited
  | _, .array _ _, kept, visited => by
      rw [Visit.ofExpression] at visited ⊢
      exact invariant.holds_ofExpressions kept visited
  | _, .binary _ _ _ _, kept, visited | _, .assign _ _ _ _, kept, visited => by
      rw [Visit.ofExpression, List.append_subset] at visited
      rw [Visit.ofExpression, List.forall_mem_append]
      exact ⟨invariant.holds_ofExpression kept visited.1,
        invariant.holds_ofExpression kept visited.2⟩
  | _, .ternary _ _ _ _, kept, visited => by
      rw [Visit.ofExpression, List.append_subset, List.append_subset] at visited
      rw [Visit.ofExpression, List.forall_mem_append, List.forall_mem_append]
      exact ⟨invariant.holds_ofExpression kept visited.1,
        invariant.holds_ofExpression kept visited.2.1,
        invariant.holds_ofExpression kept visited.2.2⟩
  | _, .literal _ _, _, _ | _, .ident _ _, _, _ | _, .implicitMember _ _, _, _ => by
      rw [Visit.ofExpression]
      nofun

theorem holds_ofExpressions (invariant : Invariant all Keeps) :
    ∀ {around : Surroundings} {expressions : List Expr},
    Keeps around → Visit.ofExpressions around expressions ⊆ all →
      ∀ visit ∈ Visit.ofExpressions around expressions, visit.Holds Keeps
  | _, [], _, _ => nofun
  | _, _ :: _, kept, visited => by
      rw [Visit.ofExpressions, List.append_subset] at visited
      rw [Visit.ofExpressions, List.forall_mem_append]
      exact ⟨invariant.holds_ofExpression kept visited.1,
        invariant.holds_ofExpressions kept visited.2⟩

theorem holds_ofArguments (invariant : Invariant all Keeps) :
    ∀ {around : Surroundings} {args : List Argument},
    Keeps around → Visit.ofArguments around args ⊆ all →
      ∀ visit ∈ Visit.ofArguments around args, visit.Holds Keeps
  | _, [], _, _ => nofun
  | _, ⟨_, _, _⟩ :: _, kept, visited => by
      rw [Visit.ofArguments, List.append_subset] at visited
      rw [Visit.ofArguments, List.forall_mem_append]
      exact ⟨invariant.holds_ofExpression kept visited.1,
        invariant.holds_ofArguments kept visited.2⟩

theorem holds_ofClosure (invariant : Invariant all Keeps) :
    ∀ {around : Surroundings} {node : Closure},
    Keeps around → Visit.ofClosure around node ⊆ all →
      ∀ visit ∈ Visit.ofClosure around node, visit.Holds Keeps
  | _, ⟨_, _, _⟩, kept, visited => by
      rw [Visit.ofClosure] at visited ⊢
      exact invariant.holds_ofBlock (invariant.inClosure kept) visited

end

/-- **What is kept on the way in holds around every place of a program** if it holds around the
program. -/
theorem holds_visits {services : Collaborators} {config : Config} {program : Program}
    (invariant : Invariant (visits services config program) Keeps)
    (initially : Keeps { services, config }) :
    ∀ visit ∈ visits services config program, visit.Holds Keeps :=
  invariant.holds_ofStatements (invariant.inBlock initially (List.Subset.refl _))
    (List.Subset.refl _)

end Invariant

/-- Around every place there are the collaborators and the configuration of the program. -/
theorem asked_of_mem_visits {services : Collaborators} {config : Config} {program : Program}
    {visit : Visit} (listed : visit ∈ visits services config program) :
    visit.Holds fun around => around.services = services ∧ around.config = config :=
  Invariant.holds_visits
    { inBlock := fun kept _ => kept
      inClosure := fun kept => kept
      inFunction := fun kept => kept
      inType := fun kept _ => kept }
    ⟨rfl, rfl⟩ visit listed

end Compile

end ResultBuilder
