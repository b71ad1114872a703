import Mathlib.Data.List.Nodup
import Mathlib.Data.List.Flatten
import ResultBuilder.Proofs.Compile.Outcomes
import ResultBuilder.Proofs.Syntax.Reading.Statement

/-!
# No body twice

The bodies of a parsed source to which builders can be applied all have different places, however
deeply they are nested in each other: the inside of a node starts before its bodies do, since a name
or a callee stands in front of every body.

* **`Site.bodies`**, **`Node.bodies`**: the bodies at a place and within a node.
* **`Node.isInside_of_mem_bodies`**: bodies are inside of the nodes they are within.
* **`Node.nodup_bodies`**: the bodies within a node are different.
-/

namespace ResultBuilder

open Syntax

namespace Compile

/-- **The places of the bodies** to which builders can be applied at a place: the body of a function
or of a property, or the closures that are given to a call. -/
def Site.bodies : Site → List Span
  | .directive _ => []
  | .function decl => decl.body.toList.map (·.span)
  | .property _ body => [body.span]
  | .call _ args trailing => (CallBinding.given args trailing).filterMap (·.map (·.span))

end Compile

open Compile

namespace Syntax.Node

variable {source : List Char} {node : Node}

/-- The bodies at a node itself. -/
def bodiesHere (node : Node) : List Span :=
  (Site.ofNode? node).toList.flatMap Site.bodies

/-- The bodies within a node. -/
def bodies (node : Node) : List Span :=
  (node.nodes.filterMap Site.ofNode?).flatMap Site.bodies

theorem bodies_eq (node : Node) :
    node.bodies = node.bodiesHere ++ node.children.flatMap bodies := by
  rw [bodies, filterMap_nodes, List.flatMap_append, List.flatMap_assoc]
  rfl

/-! ### Inside of nodes -/

/-- **Inside of a node**: behind where it starts, and not behind where it ends. -/
structure IsInside (node : Node) (span : Span) : Prop where
  starts : node.span.start < span.start
  ordered : span.start ≤ span.stop
  stops : span.stop ≤ node.span.stop

/-- What is inside of a child is inside of the node. -/
theorem IsInside.of_child {child : Node} {span : Span} (inside : child.IsInside span)
    (placed : node.IsPlaced source) (isChild : child ∈ node.children) : node.IsInside span where
  starts := Nat.lt_of_le_of_lt (placed.inside child isChild).1 inside.starts
  ordered := inside.ordered
  stops := inside.stops.trans (placed.inside child isChild).2

/-- Behind a child that takes some of the source, a node is inside. -/
theorem isInside_of_row (child : Node) {first : Node} {front rest : List Node}
    (sound : node.Everywhere (·.IsSound source)) (row : node.row = front ++ first :: rest)
    (children : node.children = node.row) (filled : first.span.start < first.span.stop)
    (later : child ∈ rest) : node.IsInside child.span := by
  have isChild : ∀ part ∈ first :: rest, part ∈ node.children := fun part listed =>
    children ▸ row ▸ List.mem_append_right front listed
  have placed := sound.here.placed
  have apart := row ▸ placed.apart
  have before : first.span.stop ≤ child.span.start :=
    List.rel_of_pairwise_cons (List.pairwise_append.mp apart).2.1 later
  have starts := (placed.inside first (isChild first List.mem_cons_self)).1
  have laterChild := isChild child (List.mem_cons_of_mem _ later)
  exact {
    starts := by omega
    ordered := (sound.child laterChild).here.placed.ordered
    stops := (placed.inside child laterChild).2 }

theorem bodiesHere_function (decl : FunctionDecl) :
    (declaration (.function decl)).bodiesHere = decl.body.toList.map (·.span) :=
  List.append_nil _

theorem bodiesHere_variable (decl : VariableDecl) :
    (declaration (.variable decl)).bodiesHere = decl.body.toList.map (·.span) := by
  obtain ⟨span, attributes, isMutable, name, type, value, body⟩ := decl
  cases body <;> rfl

theorem bodiesHere_call (span : Span) (callee : Expr) (args : List Argument)
    (trailing : Option Closure) : (expression (.call span callee args trailing)).bodiesHere =
      args.flatMap (fun arg => (CallBinding.closure? arg).toList.map (·.span)) ++
        trailing.toList.map (·.span) := by
  show Site.bodies _ ++ [] = _
  rw [List.append_nil, Site.bodies, CallBinding.given, List.filterMap_append, List.filterMap_map,
    List.filterMap_eq_flatMap_toList]
  cases trailing <;> simp [Option.toList_map]

/-- The closure that an argument is takes some of the source, inside the argument. -/
theorem closure_of_argument {arg : Argument} {given : Closure}
    (sound : (argument arg).Everywhere (·.IsSound source))
    (isClosure : CallBinding.closure? arg = some given) :
    arg.value = .closure given ∧ given.span.start < given.span.stop ∧
      arg.span.start ≤ given.span.start ∧ given.span.stop ≤ arg.span.stop := by
  unfold CallBinding.closure? at isClosure
  split at isClosure
  next node isValue =>
    cases isClosure
    have isChild : expression arg.value ∈ (argument arg).children :=
      List.mem_append_right _ (List.mem_singleton_self _)
    have filled : arg.value.span.start < arg.value.span.stop := (sound.child isChild).here.filled
    have inside := sound.here.placed.inside _ isChild
    rw [isValue] at filled
    rw [isValue] at inside
    exact ⟨isValue, filled, inside⟩
  next => cases isClosure

/-- **The bodies at a node are inside of it**: a name or a callee stands in front of them. -/
theorem isInside_of_mem_bodiesHere {span : Span} (sound : node.Everywhere (·.IsSound source))
    (found : span ∈ node.bodiesHere) : node.IsInside span := by
  cases node with
  | statement node => cases node <;> cases found
  | declaration decl =>
      cases decl with
      | function decl =>
          rw [bodiesHere_function] at found
          obtain ⟨body, isBody, rfl⟩ := List.mem_map.mp found
          have named : (name decl.name) ∈ (declaration (.function decl)).children :=
            List.mem_append_right _ List.mem_cons_self
          refine isInside_of_row (.block body) sound rfl rfl
            (sound.child named).here.filled ?_
          exact List.mem_append_right _ (List.mem_append_right _ (List.mem_append_right _
            (List.mem_map_of_mem isBody)))
      | «variable» decl =>
          rw [bodiesHere_variable] at found
          obtain ⟨body, isBody, rfl⟩ := List.mem_map.mp found
          have named : (name decl.name) ∈ (declaration (.variable decl)).children :=
            List.mem_append_right _ List.mem_cons_self
          refine isInside_of_row (.block body) sound rfl rfl
            (sound.child named).here.filled ?_
          exact List.mem_append_right _ (List.mem_append_right _ (List.mem_map_of_mem isBody))
      | type | enum => cases found
  | expression expr =>
      cases expr with
      | call place callee args trailing =>
          have isCallee : expression callee ∈
              (expression (.call place callee args trailing)).children := List.mem_cons_self
          have behind (child : Node)
              (later : child ∈ args.map argument ++ trailing.toList.map closure) :
              IsInside (expression (.call place callee args trailing)) child.span :=
            @isInside_of_row source _ child _ [] _ sound rfl rfl
              (sound.child isCallee).here.filled later
          rw [bodiesHere_call, List.mem_append] at found
          rcases found with found | found
          · obtain ⟨arg, listed, found⟩ := List.mem_flatMap.mp found
            obtain ⟨given, isClosure, rfl⟩ := List.mem_map.mp found
            have isArg : argument arg ∈ args.map argument := List.mem_map_of_mem listed
            have isChild : argument arg ∈
                (expression (.call place callee args trailing)).children :=
              List.mem_append_left _ (List.mem_cons_of_mem _ isArg)
            obtain ⟨-, filled, starts, stops⟩ :=
              closure_of_argument (sound.child isChild) (Option.mem_toList.mp isClosure)
            have inside := behind _ (List.mem_append_left _ isArg)
            exact ⟨Nat.lt_of_lt_of_le inside.starts starts, filled.le, stops.trans inside.stops⟩
          · obtain ⟨given, isClosure, rfl⟩ := List.mem_map.mp found
            exact behind (closure given) (List.mem_append_right _ (List.mem_map_of_mem isClosure))
      | _ => cases found
  | _ => cases found

/-- **The bodies within a node are inside of it.** -/
theorem isInside_of_mem_bodies {span : Span} (sound : node.Everywhere (·.IsSound source))
    (found : span ∈ node.bodies) : node.IsInside span := by
  induction node using Node.induction with
  | step node ih =>
      rw [bodies_eq, List.mem_append] at found
      rcases found with here | below
      · exact isInside_of_mem_bodiesHere sound here
      · obtain ⟨child, isChild, found⟩ := List.mem_flatMap.mp below
        exact (ih child isChild (sound.child isChild) found).of_child sound.here.placed isChild

/-! ### Different bodies -/

/-- Places of which each has some extent within one of several nodes that are apart are different,
when those within the same node are. -/
theorem nodup_flatMap_of_apart {nodes : List Node} {places : Node → List Span}
    (apart : nodes.Pairwise fun first second => first.span.stop ≤ second.span.start)
    (each : ∀ node ∈ nodes, (places node).Nodup)
    (within : ∀ node ∈ nodes, ∀ span ∈ places node, node.span.start ≤ span.start ∧
      span.start ≤ span.stop ∧ span.stop ≤ node.span.stop ∧
        (node.span.start < span.start ∨ span.start < span.stop)) :
    (nodes.flatMap places).Nodup := by
  refine List.nodup_flatMap.mpr
    ⟨each, apart.imp_of_mem fun {first second} isFirst isSecond before span ofFirst ofSecond => ?_⟩
  have inFirst := within first isFirst span ofFirst
  have inSecond := within second isSecond span ofSecond
  omega

/-- There are no bodies in names, types and patterns. -/
theorem bodies_of_isSignature (signature : node.isSignature = true) : node.bodies = [] := by
  induction node using Node.induction with
  | step node ih =>
      have below : node.children.flatMap bodies = [] :=
        List.flatMap_eq_nil_iff.mpr fun child isChild =>
          ih child isChild (isSignature_of_mem_children signature isChild)
      have here : node.bodiesHere = [] := by
        cases node with
        | expression | argument | closure | block | statement | condition | switchCase
        | declaration => cases signature
        | _ => rfl
      rw [bodies_eq, here, below]
      rfl

theorem bodies_of_signatures {α : Type} {wrap : α → Node} (items : List α)
    (signature : ∀ item, (wrap item).isSignature = true) :
    (items.map wrap).flatMap bodies = [] :=
  List.flatMap_eq_nil_iff.mpr fun _ isItem =>
    bodies_of_isSignature (isSignature_of_mem_map signature isItem)

theorem bodies_function (decl : FunctionDecl) : (declaration (.function decl)).bodies =
    decl.body.toList.map (·.span) ++ decl.body.toList.flatMap (fun body => (block body).bodies) := by
  rw [bodies_eq, bodiesHere_function, children, ofDeclaration, List.flatMap_append,
    List.flatMap_cons, List.flatMap_append, List.flatMap_append, List.flatMap_append,
    bodies_of_signatures _ (fun _ => rfl), bodies_of_isSignature rfl,
    bodies_of_signatures _ (fun _ => rfl), bodies_of_signatures _ (fun _ => rfl),
    bodies_of_signatures _ (fun _ => rfl), List.flatMap_map]
  rfl

theorem bodies_variable (decl : VariableDecl) : (declaration (.variable decl)).bodies =
    decl.body.toList.map (·.span) ++ (decl.value.toList.flatMap (fun value => (expression value).bodies) ++
      decl.body.toList.flatMap (fun body => (block body).bodies)) := by
  rw [bodies_eq, bodiesHere_variable, children, ofDeclaration, List.flatMap_append,
    List.flatMap_cons, List.flatMap_append, List.flatMap_append,
    bodies_of_signatures _ (fun _ => rfl), bodies_of_isSignature rfl,
    bodies_of_signatures _ (fun _ => rfl), List.flatMap_map, List.flatMap_map]
  rfl

theorem bodies_closure (given : Closure) : (closure given).bodies = (block given.body).bodies := by
  rw [bodies_eq, children, List.flatMap_append, bodies_of_signatures _ (fun _ => rfl)]
  exact List.append_nil _

theorem bodies_argument (arg : Argument) :
    (argument arg).bodies = (expression arg.value).bodies := by
  rw [bodies_eq, children, List.flatMap_append, bodies_of_signatures _ (fun _ => rfl)]
  exact List.append_nil _

/-- A node stands at no body within it. -/
theorem nodup_cons_bodies (sound : node.Everywhere (·.IsSound source)) (nodup : node.bodies.Nodup) :
    (node.span :: node.bodies).Nodup :=
  List.nodup_cons.mpr
    ⟨fun found => Nat.lt_irrefl _ (isInside_of_mem_bodies sound found).starts, nodup⟩

/-- The bodies within children that are in a row are different when those within each are. -/
theorem nodup_children (sound : node.Everywhere (·.IsSound source))
    (row : node.children = node.row) (each : ∀ child ∈ node.children, child.bodies.Nodup) :
    (node.children.flatMap bodies).Nodup := by
  refine nodup_flatMap_of_apart (row ▸ sound.here.placed.apart) each ?_
  intro child isChild span found
  have inside := isInside_of_mem_bodies (sound.child isChild) found
  exact ⟨inside.starts.le, inside.ordered, inside.stops, .inl inside.starts⟩

/-- The closure that is given to a call as a child of it. -/
def given : Node → List Span
  | .argument arg => (CallBinding.closure? arg).toList.map (·.span)
  | .closure node => [node.span]
  | _ => []

theorem nodup_call {place : Span} {callee : Expr} {args : List Argument} {trailing : Option Closure}
    (sound : (expression (.call place callee args trailing)).Everywhere (·.IsSound source))
    (each : ∀ child ∈ (expression (.call place callee args trailing)).children,
      child.bodies.Nodup) : (expression (.call place callee args trailing)).bodies.Nodup := by
  generalize isCall : expression (.call place callee args trailing) = node at sound each
  have here : node.bodiesHere = node.children.flatMap given := by
    subst isCall
    rw [bodiesHere_call, children, ofExpr, List.cons_append, List.flatMap_cons,
      List.flatMap_append, List.flatMap_map, List.flatMap_map]
    cases trailing <;> rfl
  have row : node.children = node.row := by
    subst isCall
    rfl
  rw [bodies_eq, here, (List.flatMap_append_perm node.children given bodies).nodup_iff]
  refine nodup_flatMap_of_apart (row ▸ sound.here.placed.apart) ?_ ?_
  · intro child isChild
    have nodup := each child isChild
    have below := sound.child isChild
    cases child with
    | closure node => exact nodup_cons_bodies below nodup
    | argument arg =>
        cases isClosure : CallBinding.closure? arg with
        | none =>
            rw [given, isClosure]
            exact nodup
        | some node =>
            obtain ⟨isValue, -⟩ := closure_of_argument below isClosure
            have isValueChild : expression (.closure node) ∈ (argument arg).children :=
              isValue ▸ List.mem_append_right _ (List.mem_singleton_self _)
            have ofClosure : (argument arg).bodies = (closure node).bodies := by
              rw [bodies_argument, isValue, bodies_eq]
              exact List.append_nil _
            rw [given, isClosure, ofClosure]
            rw [ofClosure] at nodup
            exact nodup_cons_bodies
              ((below.child isValueChild).child (List.mem_singleton_self _)) nodup
    | _ => exact nodup
  · intro child isChild span found
    have below := sound.child isChild
    rcases List.mem_append.mp found with found | found
    · cases child with
      | closure node =>
          obtain rfl := List.mem_singleton.mp found
          exact ⟨Nat.le_refl _, below.here.placed.ordered, Nat.le_refl _, .inr below.here.filled⟩
      | argument arg =>
          obtain ⟨node, isClosure, rfl⟩ := List.mem_map.mp found
          obtain ⟨-, filled, starts, stops⟩ :=
            closure_of_argument below (Option.mem_toList.mp isClosure)
          exact ⟨starts, filled.le, stops, .inr filled⟩
      | _ => cases found
    · have inside := isInside_of_mem_bodies below found
      exact ⟨inside.starts.le, inside.ordered, inside.stops, .inl inside.starts⟩

/-- **The bodies within a node are different.** -/
theorem nodup_bodies (sound : node.Everywhere (·.IsSound source)) : node.bodies.Nodup := by
  induction node using Node.induction with
  | step node ih =>
      have each : ∀ child ∈ node.children, child.bodies.Nodup := fun child isChild =>
        ih child isChild (sound.child isChild)
      have plain (none : node.bodiesHere = []) (row : node.children = node.row) :
          node.bodies.Nodup := by
        rw [bodies_eq, none]
        exact nodup_children sound row each
      cases node with
      | closure given =>
          rw [bodies_closure]
          exact each _ (List.mem_append_right _ (List.mem_singleton_self _))
      | statement node => cases node <;> exact plain rfl rfl
      | declaration decl =>
          cases decl with
          | function decl =>
              rw [bodies_function]
              cases isBody : decl.body with
              | none => exact List.nodup_nil
              | some body =>
                  have isChild : block body ∈ (declaration (.function decl)).children := by
                    simp [children, ofDeclaration, isBody]
                  rw [Option.toList_some, List.flatMap_singleton]
                  exact nodup_cons_bodies (sound.child isChild) (each _ isChild)
          | «variable» decl =>
              rw [bodies_variable]
              -- a property has no first value
              rcases sound.here.spelled with none | none
              · rw [none]
                cases isBody : decl.body with
                | none => exact List.nodup_nil
                | some body =>
                    have isChild : block body ∈ (declaration (.variable decl)).children := by
                      simp [children, ofDeclaration, isBody]
                    rw [Option.toList_some, List.flatMap_singleton]
                    exact nodup_cons_bodies (sound.child isChild) (each _ isChild)
              · rw [none]
                cases isValue : decl.value with
                | none => exact List.nodup_nil
                | some value =>
                    have isChild : expression value ∈ (declaration (.variable decl)).children := by
                      simp [children, ofDeclaration, isValue]
                    rw [Option.toList_some, List.flatMap_singleton]
                    simpa using each _ isChild
          | type | enum => exact plain rfl rfl
      | expression expr =>
          cases expr with
          | call place callee args trailing => exact nodup_call sound each
          | _ => exact plain rfl rfl
      | _ => exact plain rfl rfl

end Syntax.Node

namespace Compile

/-! ### Bodies that are tried and recorded -/

variable {services : Collaborators} {findings : Findings}

theorem builderClosures_sublist (scopes : Scopes) (params : List Param)
    (given : List (Option Closure)) :
    (((params.zip given).filterMap fun pair =>
        CallBinding.builderClosure? scopes pair.1 pair.2).map (·.closure.span)).Sublist
      (given.filterMap (·.map (·.span))) := by
  induction given generalizing params with
  | nil =>
      rw [List.zip_nil_right]
      exact List.nil_sublist _
  | cons first rest ih =>
      cases params with
      | nil => exact List.nil_sublist _
      | cons param params =>
          rw [List.zip_cons_cons, List.filterMap_cons]
          cases first with
          | none => exact ih params
          | some closure =>
              rw [builderClosure?_some]
              cases scopes.builderOf? param.attributes with
              | none => exact (ih params).cons _
              | some builder => exact (ih params).cons_cons _

/-- **A possibility has closures that are given to the call**, each at most once. -/
theorem closures_sublist_given {around : Surroundings} {callee : Expr} {args : List Argument}
    {trailing : Option Closure} {binding : CallBinding}
    (possible : binding ∈ bindings around callee args trailing) :
    (binding.closures.map (·.closure.span)).Sublist (Site.call callee args trailing).bodies := by
  obtain ⟨-, -, closures, -⟩ := mem_bindings_iff.mp possible
  rw [← closures]
  exact builderClosures_sublist _ _ _

theorem BodyOutcome.recorded_sublist {kind : BodyKind} {builder : TypeDecl} {span : Span}
    (outcome : BodyOutcome services kind builder span findings) :
    (findings.bodies.map (·.span)).Sublist [span] := by
  cases outcome with
  | recorded expansion bodies notices =>
      rw [bodies]
      exact .refl _
  | failed error notices areNotices diagnostics bodies =>
      rw [bodies]
      exact List.nil_sublist _

theorem AttributeOutcome.recorded_sublist {around : Surroundings} {marks : List Attribute}
    {kind : BodyKind} {body : Block} (outcome : AttributeOutcome around marks kind body findings) :
    (findings.bodies.map (·.span)).Sublist [body.span] := by
  unfold AttributeOutcome at outcome
  split at outcome
  · rw [outcome.2]
    exact List.nil_sublist _
  · cases outcome with
    | applied outcome => exact outcome.recorded_sublist
    | invalid error diagnostics bodies =>
        rw [bodies]
        exact List.nil_sublist _

theorem ClosuresOutcome.recorded_sublist {closures : List BuilderClosure}
    {diagnostics : List Diagnostic} {bodies : List TransformedBody}
    (outcome : ClosuresOutcome services closures diagnostics bodies) :
    (bodies.map (·.span)).Sublist (closures.map (·.closure.span)) := by
  induction outcome with
  | done | stopped error => exact List.nil_sublist _
  | step outcome others ih =>
      rw [List.map_append, List.map_cons, ← List.singleton_append]
      exact outcome.recorded_sublist.append ih

/-- **The bodies that are recorded at a place** are bodies there, each at most once. -/
theorem recorded_sublist_bodies {visit : Visit} (outcome : visit.HasOutcome findings) :
    (findings.bodies.map (·.span)).Sublist visit.site.bodies := by
  cases visit with
  | directive node =>
      rw [outcome.2]
      exact List.nil_sublist _
  | function around decl =>
      obtain ⟨span, marks, isStatic, name, generics, params, result, body⟩ := decl
      cases body with
      | none =>
          rw [(outcome : findings.AreNone).2]
          exact List.nil_sublist _
      | some body => exact AttributeOutcome.recorded_sublist outcome
  | property around marks body => exact AttributeOutcome.recorded_sublist outcome
  | call around callee args trailing =>
      cases (outcome : CallOutcome ..) with
      | nothing none found =>
          rw [found.2]
          exact List.nil_sublist _
      | committed isPossible outcome =>
          exact outcome.recorded_sublist.trans (closures_sublist_given isPossible)
      | ambiguous undecided diagnostics bodies =>
          rw [bodies]
          exact List.nil_sublist _

theorem recorded_sublist_of_places {found : List (Visit × Findings)}
    (each : ∀ entry ∈ found, entry.1.HasOutcome entry.2) :
    ((found.flatMap (·.2.bodies)).map (·.span)).Sublist (found.flatMap (·.1.site.bodies)) := by
  induction found with
  | nil => exact List.nil_sublist _
  | cons entry rest ih =>
      obtain ⟨first, others⟩ := List.forall_mem_cons.mp each
      rw [List.flatMap_cons, List.flatMap_cons, List.map_append]
      exact (recorded_sublist_bodies first).append (ih others)

/-- **The bodies of a parsed source are different.** -/
theorem nodup_bodies_of_parse {source : String} {program : Program}
    (parsed : parse source = .ok program) :
    ((program.nodes.filterMap Site.ofNode?).flatMap Site.bodies).Nodup := by
  obtain ⟨sound, apart⟩ := Program.isSound_of_parse parsed
  have inProgram : ∀ statement ∈ program.statements,
      (Node.statement statement).Everywhere (·.IsSound source.toList) :=
    fun statement listed inner within => sound inner ⟨statement, listed, within⟩
  have ofStatements : (program.nodes.filterMap Site.ofNode?).flatMap Site.bodies =
      (program.statements.map Node.statement).flatMap Node.bodies := by
    rw [Program.nodes, List.filterMap_flatMap, List.flatMap_assoc, List.flatMap_map]
    rfl
  rw [ofStatements]
  refine Node.nodup_flatMap_of_apart (List.pairwise_map.mpr apart) ?_ ?_
  · exact List.forall_mem_map.mpr fun statement listed =>
      Node.nodup_bodies (inProgram statement listed)
  · refine List.forall_mem_map.mpr fun statement listed span found => ?_
    have inside := Node.isInside_of_mem_bodies (inProgram statement listed) found
    exact ⟨inside.starts.le, inside.ordered, inside.stops, .inl inside.starts⟩

/-- **Every body has one outcome**: what is found at the places of a program with collaborators. -/
structure SettlesBodies (services : Collaborators) (program : Program)
    (found : List (Visit × Findings)) : Prop where
  /-- Every function, every property and every call of the program has one place. -/
  once : (found.map (·.1.site)).Perm (program.nodes.filterMap Site.ofNode?)
  /-- The places are places of the program, with the collaborators. -/
  isOf : ∀ entry ∈ found, entry.1.IsOf services program
  /-- At each place there is the outcome of its bodies. -/
  outcome : ∀ entry ∈ found, entry.1.HasOutcome entry.2
  /-- A call has possibilities for the closures that are given to it. -/
  tried : ∀ entry ∈ found, ∀ around callee args trailing, entry.1 = .call around callee args trailing →
    ∀ binding ∈ bindings around callee args trailing,
      (binding.closures.map (·.closure.span)).Sublist entry.1.site.bodies
  /-- No body is at two places, or at one twice. -/
  apart : (found.flatMap (·.1.site.bodies)).Nodup
  /-- No body is recorded twice. -/
  recorded : ((found.flatMap (·.2.bodies)).map (·.span)).Nodup

end Compile

open Compile

/-- **Every body of a builder has exactly one outcome.** In a parsed source, the walk finds what it
finds at the functions, properties and calls, each of which has one place:

* the body of a function or property with a builder is recorded, or one error tells that it cannot
  be transformed or that the builder is invalid;
* the closures that are given to a call are closures of that call only; those of the possibility
  that is meant are settled in the same way, up to one whose builder is invalid;
* no body is recorded twice. -/
theorem bodies_settled {source : String} {program : Program} (parsed : parse source = .ok program)
    (services : Collaborators) (config : Config) (cache : DescriptorCache) :
    let found := foundAt (visits services config program) cache
    (programWith services config program cache).findings.diagnostics =
        found.flatMap (·.2.diagnostics) ∧
      (programWith services config program cache).findings.bodies = found.flatMap (·.2.bodies) ∧
      SettlesBodies services program found := by
  intro found
  obtain ⟨diagnostics, bodies⟩ := found_programWith services config program cache
  have places : found.map (·.1) = visits services config program := map_fst_foundAt _ cache
  have once : (found.map (·.1.site)).Perm (program.nodes.filterMap Site.ofNode?) := by
    have sites := sites_visits services config program
    rwa [← places, List.map_map] at sites
  have outcome : ∀ entry ∈ found, entry.1.HasOutcome entry.2 :=
    fun entry listed => hasOutcome_of_mem_foundAt listed
  have apart : (found.flatMap (·.1.site.bodies)).Nodup := by
    have same : found.flatMap (·.1.site.bodies) = (found.map (·.1.site)).flatMap Site.bodies :=
      (List.flatMap_map ..).symm
    rw [same, (once.flatMap_right Site.bodies).nodup_iff]
    exact nodup_bodies_of_parse parsed
  refine ⟨diagnostics.trans (diagnostics_walkAll _ _), bodies.trans (bodies_walkAll _ _), {
    once, outcome, apart
    isOf := fun entry listed => isOf_of_mem_visits (exists_walk_of_mem_foundAt listed).1
    tried := ?_
    recorded := apart.sublist (recorded_sublist_of_places outcome) }⟩
  intro entry listed around callee args trailing isCall binding possible
  rw [isCall]
  exact closures_sublist_given possible

/-- A builder, a function with a closure for the builder, and a body of the builder with a call of
the function in the closure of another one. -/
def nestedText : String :=
  "@resultBuilder struct B \x7b static func buildBlock<T>(_ t: T) -> T \x7d\n" ++
    "func f<T>(@B body: () -> T) \x7b \x7d\n@B func h() \x7b f \x7b f \x7b 1 \x7d \x7d \x7d"

/-- The tokens of the text. -/
def nestedTokens : List Token := [
  ⟨.symbol .atSign, ⟨0, 1⟩, "@", false⟩, ⟨.identifier, ⟨1, 14⟩, "resultBuilder", false⟩,
  ⟨.keyword .struct_, ⟨15, 21⟩, "struct", false⟩, ⟨.identifier, ⟨22, 23⟩, "B", false⟩,
  ⟨.symbol .braceOpen, ⟨24, 25⟩, "\x7b", false⟩, ⟨.keyword .static_, ⟨26, 32⟩, "static", false⟩,
  ⟨.keyword .func_, ⟨33, 37⟩, "func", false⟩, ⟨.identifier, ⟨38, 48⟩, "buildBlock", false⟩,
  ⟨.symbol .less, ⟨48, 49⟩, "<", false⟩, ⟨.identifier, ⟨49, 50⟩, "T", false⟩,
  ⟨.symbol .greater, ⟨50, 51⟩, ">", false⟩, ⟨.symbol .parenOpen, ⟨51, 52⟩, "(", false⟩,
  ⟨.symbol .underscore, ⟨52, 53⟩, "_", false⟩, ⟨.identifier, ⟨54, 55⟩, "t", false⟩,
  ⟨.symbol .colon, ⟨55, 56⟩, ":", false⟩, ⟨.identifier, ⟨57, 58⟩, "T", false⟩,
  ⟨.symbol .parenClose, ⟨58, 59⟩, ")", false⟩, ⟨.symbol .arrow, ⟨60, 62⟩, "->", false⟩,
  ⟨.identifier, ⟨63, 64⟩, "T", false⟩, ⟨.symbol .braceClose, ⟨65, 66⟩, "\x7d", false⟩,
  ⟨.keyword .func_, ⟨67, 71⟩, "func", true⟩, ⟨.identifier, ⟨72, 73⟩, "f", false⟩,
  ⟨.symbol .less, ⟨73, 74⟩, "<", false⟩, ⟨.identifier, ⟨74, 75⟩, "T", false⟩,
  ⟨.symbol .greater, ⟨75, 76⟩, ">", false⟩, ⟨.symbol .parenOpen, ⟨76, 77⟩, "(", false⟩,
  ⟨.symbol .atSign, ⟨77, 78⟩, "@", false⟩, ⟨.identifier, ⟨78, 79⟩, "B", false⟩,
  ⟨.identifier, ⟨80, 84⟩, "body", false⟩, ⟨.symbol .colon, ⟨84, 85⟩, ":", false⟩,
  ⟨.symbol .parenOpen, ⟨86, 87⟩, "(", false⟩, ⟨.symbol .parenClose, ⟨87, 88⟩, ")", false⟩,
  ⟨.symbol .arrow, ⟨89, 91⟩, "->", false⟩, ⟨.identifier, ⟨92, 93⟩, "T", false⟩,
  ⟨.symbol .parenClose, ⟨93, 94⟩, ")", false⟩, ⟨.symbol .braceOpen, ⟨95, 96⟩, "\x7b", false⟩,
  ⟨.symbol .braceClose, ⟨97, 98⟩, "\x7d", false⟩, ⟨.symbol .atSign, ⟨99, 100⟩, "@", true⟩,
  ⟨.identifier, ⟨100, 101⟩, "B", false⟩, ⟨.keyword .func_, ⟨102, 106⟩, "func", false⟩,
  ⟨.identifier, ⟨107, 108⟩, "h", false⟩, ⟨.symbol .parenOpen, ⟨108, 109⟩, "(", false⟩,
  ⟨.symbol .parenClose, ⟨109, 110⟩, ")", false⟩, ⟨.symbol .braceOpen, ⟨111, 112⟩, "\x7b", false⟩,
  ⟨.identifier, ⟨113, 114⟩, "f", false⟩, ⟨.symbol .braceOpen, ⟨115, 116⟩, "\x7b", false⟩,
  ⟨.identifier, ⟨117, 118⟩, "f", false⟩, ⟨.symbol .braceOpen, ⟨119, 120⟩, "\x7b", false⟩,
  ⟨.integer, ⟨121, 122⟩, "1", false⟩, ⟨.symbol .braceClose, ⟨123, 124⟩, "\x7d", false⟩,
  ⟨.symbol .braceClose, ⟨125, 126⟩, "\x7d", false⟩,
  ⟨.symbol .braceClose, ⟨127, 128⟩, "\x7d", false⟩, ⟨.endOfFile, ⟨128, 128⟩, "", false⟩]

/-- The cursor behind some of the tokens. -/
def nestedCursor (taken lastEnd : Nat) : Cursor :=
  ⟨nestedText.toList, nestedTokens.drop taken, lastEnd⟩

/-- The function whose body has calls in it. -/
def nestedFunction : FunctionDecl :=
  let inner : Closure :=
    ⟨⟨119, 124⟩, [], ⟨⟨119, 124⟩, [.expression (.literal ⟨121, 122⟩ (.integer 1))]⟩⟩
  let call : Expr := .call ⟨117, 124⟩ (.ident ⟨117, 118⟩ "f") [] (some inner)
  let outer : Closure := ⟨⟨115, 126⟩, [], ⟨⟨115, 126⟩, [.expression call]⟩⟩
  let body : Block :=
    ⟨⟨111, 128⟩, [.expression (.call ⟨113, 126⟩ (.ident ⟨113, 114⟩ "f") [] (some outer))]⟩
  ⟨⟨99, 128⟩, [⟨⟨99, 101⟩, "B"⟩], false, ⟨⟨107, 108⟩, "h"⟩, [], [], none, some body⟩

/-- What is read from the text. -/
def nestedProgram : Program where
  statements := [.declaration (.type (DescriptorCache.joiningType .structType)),
    .declaration (.function buildingFunction), .declaration (.function nestedFunction)]

set_option maxRecDepth 2000 in
theorem parse_nestedText : parse nestedText = .ok nestedProgram := by
  have cut : tokenize nestedText = .ok nestedTokens := by decide +kernel
  -- the statements are read one at a time, each from where the one before it ends
  have type : (Parser.innerOfDepth 53).statement.Yields (nestedCursor 0 0)
      (.declaration (.type (DescriptorCache.joiningType .structType))) (nestedCursor 20 66) := by
    exact rfl
  have building : (Parser.innerOfDepth 53).statement.Yields (nestedCursor 20 66)
      (.declaration (.function buildingFunction)) (nestedCursor 37 98) := by
    exact rfl
  have nested : (Parser.innerOfDepth 53).statement.Yields (nestedCursor 37 98)
      (.declaration (.function nestedFunction)) (nestedCursor 52 128) := by
    exact rfl
  refine parse_eq_ok_iff.mpr ⟨nestedTokens, cut, nestedCursor 52 128, ?_⟩
  show (Parser.sequence (fun kind => kind == .endOfFile || false)
    (Parser.innerOfDepth 53).statement 53).Yields (nestedCursor 0 0) _ _
  refine Parser.yields_sequence_cons rfl type rfl ?_
  refine Parser.yields_sequence_cons rfl building rfl ?_
  exact Parser.yields_sequence_cons rfl nested rfl rfl

/-- The body of the function and the closures of both calls are three bodies, one in the other. Each
of them is recorded once, and nothing is reported. -/
theorem bodies_settled_nestedProgram : parse nestedText = .ok nestedProgram ∧
    (programWith .permissive {} nestedProgram {}).findings.diagnostics = [] ∧
    (programWith .permissive {} nestedProgram {}).findings.bodies.map (·.span) =
      [⟨111, 128⟩, ⟨115, 126⟩, ⟨119, 124⟩] ∧
    (programWith .permissive {} nestedProgram {}).findings.bodies =
      (foundAt (visits .permissive {} nestedProgram) {}).flatMap (·.2.bodies) ∧
    SettlesBodies .permissive nestedProgram
      (foundAt (visits .permissive {} nestedProgram) {}) :=
  ⟨parse_nestedText, rfl, rfl, (bodies_settled parse_nestedText .permissive {} {}).2⟩

end ResultBuilder
