import Mathlib.Data.List.Flatten
import Mathlib.Data.List.Nodup
import ResultBuilder.Proofs.Compile.Counting
import ResultBuilder.Proofs.Host.Answers
import ResultBuilder.Proofs.Syntax.Reading.Statement

/-!
# Which declarations a host knows

A walk through a program comes to every declaration in it. A host for the program looks for
declarations in fewer places: not in closures, arms and loops, and not in the `if` statements that
are chained to another one. It answers as if it knew all declarations exactly when those that it
does not come to have others to stand for them.

* **`Program.declarations`**, **`mem_declarations_function_iff`**: the declarations of a program.
* **`Node.OpenIn`**, **`mem_known_iff`**: those that a host comes to.
* **`sorted_declarations`**: a program names its declarations one after the other.
* **`Host.registers_iff`**: when the tables of a host are complete.
-/

namespace ResultBuilder

open Syntax
open Compile.Visit (flatMap_nothing)

/-! ### The declarations of a program -/

/-- The declaration that a node is, if a host has a table for it. -/
def Syntax.Node.asDeclaration? : Node → Option Declaration
  | .declaration (.variable _) => none
  | .declaration node => some node
  | _ => none

theorem Syntax.Node.asDeclaration?_eq_some {node : Node} {declaration : Declaration}
    (isEntry : node.asDeclaration? = some declaration) : node = .declaration declaration := by
  unfold Node.asDeclaration? at isEntry
  split at isEntry <;> cases isEntry
  rfl

/-- The types, enums and functions in a node, at any depth. -/
def Syntax.Node.declarations (node : Node) : List Declaration :=
  node.nodes.filterMap Node.asDeclaration?

/-- **The types, enums and functions of a program**, at any depth, in the order of the source. -/
def Syntax.Program.declarations (program : Program) : List Declaration :=
  program.nodes.filterMap Node.asDeclaration?

theorem Syntax.Node.declarations_eq (node : Node) : node.declarations =
    node.asDeclaration?.toList ++ node.children.flatMap Node.declarations :=
  Node.filterMap_nodes Node.asDeclaration? node

theorem Syntax.Program.declarations_eq (program : Program) : program.declarations =
    program.statements.flatMap fun statement => (Node.statement statement).declarations := by
  rw [declarations, nodes, List.filterMap_flatMap]
  rfl

/-- What is declared in a node is within it. -/
theorem Syntax.Node.within_of_mem_declarations {node : Node} {declaration : Declaration}
    (listed : declaration ∈ node.declarations) : (Node.declaration declaration).Within node := by
  obtain ⟨inner, found, isEntry⟩ := List.mem_filterMap.mp listed
  rw [← Node.asDeclaration?_eq_some isEntry]
  exact Node.mem_nodes.mp found

/-- **The functions of a program** are those that the walk through it comes to. -/
theorem mem_declarations_function_iff (services : Collaborators) (config : Config)
    {program : Program} {function : FunctionDecl} :
    .function function ∈ program.declarations ↔
      ∃ around, .function around function ∈ Compile.visits services config program := by
  have ofVisits : (∃ around, .function around function ∈ Compile.visits services config program) ↔
      .function function ∈ (Compile.visits services config program).map Compile.Visit.site := by
    rw [List.mem_map]
    constructor
    · rintro ⟨around, visited⟩
      exact ⟨_, visited, rfl⟩
    · rintro ⟨visit, visited, same⟩
      cases visit <;> cases same
      exact ⟨_, visited⟩
  rw [ofVisits, (Compile.sites_visits services config program).mem_iff, Program.declarations,
    List.mem_filterMap, List.mem_filterMap]
  refine exists_congr fun node => and_congr_right fun _ => ?_
  constructor
  · intro isEntry
    rw [Node.asDeclaration?_eq_some isEntry]
    rfl
  · intro isSite
    unfold Compile.Site.ofNode? at isSite
    split at isSite <;> try cases isSite
    · rfl
    · obtain ⟨body, -, same⟩ := Option.map_eq_some_iff.mp isSite
      cases same

/-! ### Where a host looks -/

/-- Whether a host that looks for declarations in a node passes over a child of it: the body of a
closure, of an arm or of a loop, or an `if` statement that is chained to another one. -/
def Syntax.Node.passesOver : Node → Node → Bool
  | .closure _, .block _ | .switchCase _, .block _ | .statement (.loop _), .block _
  | .statement (.conditional _), .statement _ => true
  | _, _ => false

/-- **A node in an open place of another**: a host comes to it on its way through the other. -/
inductive Syntax.Node.OpenIn : Node → Node → Prop
  | self (node : Node) : OpenIn node node
  | child {inner child node : Node} (member : child ∈ node.children)
      (entered : node.passesOver child = false) (isOpen : OpenIn inner child) : OpenIn inner node

/-- **A node in an open place of a program**. -/
def Syntax.Node.OpenInProgram (node : Node) (program : Program) : Prop :=
  ∃ statement ∈ program.statements, node.OpenIn (.statement statement)

/-- The children of a node that a host goes on to. -/
def Syntax.Node.entered (node : Node) : List Node :=
  node.children.filter fun child => !node.passesOver child

theorem Syntax.Node.mem_entered {node child : Node} :
    child ∈ node.entered ↔ child ∈ node.children ∧ node.passesOver child = false := by
  rw [entered, List.mem_filter, Bool.not_eq_true']

/-- Where all children are passed over or make nothing known, nothing is found. -/
theorem flatMap_known_eq_nil {node : Node}
    (nothing : ∀ child ∈ node.children, node.passesOver child = true ∨ child.known = []) :
    node.entered.flatMap Node.known = [] := by
  refine List.flatMap_eq_nil_iff.mpr fun child entered => ?_
  obtain ⟨isChild, isEntered⟩ := Node.mem_entered.mp entered
  refine (nothing child isChild).resolve_left ?_
  rw [isEntered]
  exact Bool.false_ne_true

/-- The parts of expressions and conditions make nothing known by themselves. -/
theorem known_of_mem_ofExpr {expr : Expr} : ∀ child ∈ Node.ofExpr expr, child.known = [] := by
  cases expr <;> simp +contextual [Node.ofExpr, or_imp, forall_and, Node.known]

theorem known_of_mem_ofCondition {condition : Condition} :
    ∀ child ∈ Node.ofCondition condition, child.known = [] := by
  cases condition <;> simp [Node.ofCondition, Node.known]

/-- Nodes that make nothing known and have no children that do. -/
theorem known_eq_of_silent {node : Node} (none : node.known = node.asDeclaration?.toList)
    (nothing : ∀ child ∈ node.children, node.passesOver child = true ∨ child.known = []) :
    node.known = node.asDeclaration?.toList ++ node.entered.flatMap Node.known := by
  rw [flatMap_known_eq_nil nothing, none, List.append_nil]

theorem known_statement_eq (statement : Statement) : (Node.statement statement).known =
    (Node.statement statement).asDeclaration?.toList ++
      (Node.statement statement).entered.flatMap Node.known := by
  cases statement with
  | expression | returning | directive | «fallthrough» | jump | switch =>
      refine known_eq_of_silent rfl ?_
      simp +contextual [Node.children, Node.ofStatement, or_imp, Node.known, Node.passesOver]
  | loop node =>
      obtain ⟨span, form, header, body⟩ := node
      refine known_eq_of_silent rfl ?_
      cases form <;>
        simp [Node.children, Node.ofStatement, Node.ofLoop, Node.known, Node.passesOver]
  | doBlock | declaration =>
      simp [Node.known, Statement.known, Node.asDeclaration?, Node.entered, Node.children,
        Node.ofStatement, Node.passesOver]
  | conditional node =>
      obtain ⟨span, conditions, thenBlock, otherwise⟩ := node
      rcases otherwise with - | node | node <;>
        simp [Node.known, Statement.known, Conditional.known, Node.asDeclaration?, Node.entered,
          Node.children, Node.ofStatement, Node.ofAlternative, Node.passesOver, List.filter_map,
          List.flatMap_map, Function.comp_def, flatMap_nothing]

theorem known_declaration_eq (declaration : Declaration) : (Node.declaration declaration).known =
    (Node.declaration declaration).asDeclaration?.toList ++
      (Node.declaration declaration).entered.flatMap Node.known := by
  cases declaration with
  | enum node =>
      simp [Node.known, Declaration.known, Node.asDeclaration?, Node.entered, Node.children,
        Node.ofDeclaration, Node.passesOver, List.filter_map, List.flatMap_map, Function.comp_def,
        flatMap_nothing]
  | type node =>
      obtain ⟨span, marks, kind, name, generics, members⟩ := node
      simp [Node.known, Declaration.known, Node.asDeclaration?, Node.entered, Node.children,
        Node.ofDeclaration, Node.passesOver, List.filter_map, List.flatMap_map, Function.comp_def,
        flatMap_nothing, allKnownDeclarations_eq_flatMap]
  | function node =>
      obtain ⟨span, marks, isStatic, name, generics, params, result, body⟩ := node
      cases result <;> cases body <;>
        simp [Node.known, Declaration.known, Node.asDeclaration?, Node.entered, Node.children,
          Node.ofDeclaration, Node.passesOver, List.filter_map, List.flatMap_map,
          Function.comp_def, flatMap_nothing]
  | «variable» node =>
      obtain ⟨span, marks, isMutable, name, type, value, body⟩ := node
      cases type <;> cases value <;> cases body <;>
        simp [Node.known, Declaration.known, Node.asDeclaration?, Node.entered, Node.children,
          Node.ofDeclaration, Node.passesOver, List.filter_map, List.flatMap_map,
          Function.comp_def, flatMap_nothing]

/-- **What a node makes known** is itself and what the children make known that are not passed
over. -/
theorem known_eq (node : Node) :
    node.known = node.asDeclaration?.toList ++ node.entered.flatMap Node.known := by
  cases node with
  | statement node => exact known_statement_eq node
  | declaration node => exact known_declaration_eq node
  | block node =>
      obtain ⟨span, statements⟩ := node
      simp [Node.known, Block.known, Node.asDeclaration?, Node.entered, Node.children, List.filter_map,
        Node.passesOver, allKnown_eq_flatMap, List.flatMap_map, Function.comp_def]
  | name | mark | «attribute» | pattern => rfl
  | type | generic | param | enumCase =>
      refine known_eq_of_silent rfl fun child isChild => .inr ?_
      have signature := Node.isSignature_of_mem_children rfl isChild
      cases child <;> first | rfl | cases signature
  | expression =>
      exact known_eq_of_silent rfl fun child isChild => .inr (known_of_mem_ofExpr child isChild)
  | condition =>
      exact known_eq_of_silent rfl fun child isChild =>
        .inr (known_of_mem_ofCondition child isChild)
  | argument node =>
      obtain ⟨span, label, value⟩ := node
      exact known_eq_of_silent rfl (by cases label <;> simp [Node.children, Node.known])
  | closure =>
      refine known_eq_of_silent rfl ?_
      simp +contextual [Node.children, or_imp, Node.known, Node.passesOver]
  | switchCase node =>
      obtain ⟨span, label, body⟩ := node
      refine known_eq_of_silent rfl ?_
      cases label <;>
        simp +contextual [Node.children, Node.ofLabel, or_imp, Node.known, Node.passesOver]

/-- **What a node makes known** are the types, enums and functions in open places of it. -/
theorem mem_known_iff {node : Node} {declaration : Declaration} : declaration ∈ node.known ↔
    (Node.declaration declaration).asDeclaration? = some declaration ∧
      (Node.declaration declaration).OpenIn node := by
  induction node using Node.induction with
  | step node ih =>
      rw [known_eq, List.mem_append, Option.mem_toList, List.mem_flatMap]
      constructor
      · rintro (isEntry | ⟨child, entered, known⟩)
        · obtain rfl := Node.asDeclaration?_eq_some isEntry
          exact ⟨isEntry, .self _⟩
        · obtain ⟨isChild, isEntered⟩ := Node.mem_entered.mp entered
          obtain ⟨isEntry, isOpen⟩ := (ih child isChild).mp known
          exact ⟨isEntry, .child isChild isEntered isOpen⟩
      · rintro ⟨isEntry, isOpen⟩
        cases isOpen with
        | self => exact .inl isEntry
        | child isChild isEntered isOpen =>
            exact .inr ⟨_, Node.mem_entered.mpr ⟨isChild, isEntered⟩,
              (ih _ isChild).mpr ⟨isEntry, isOpen⟩⟩

/-- What is known is declared, in the same order. -/
theorem known_sublist_declarations (node : Node) : node.known.Sublist node.declarations := by
  induction node using Node.induction with
  | step node ih =>
      rw [known_eq, Node.declarations_eq]
      refine (List.Sublist.refl _).append ?_
      exact (List.filter_sublist.flatMap Node.known).trans (List.Sublist.flatMap_right _ ih)

/-- **What a program makes known** are its types, enums and functions in open places. -/
theorem mem_allKnown_iff {program : Program} {declaration : Declaration} :
    declaration ∈ Statement.allKnown program.statements ↔
      (Node.declaration declaration).asDeclaration? = some declaration ∧
        (Node.declaration declaration).OpenInProgram program := by
  rw [allKnown_eq_flatMap, List.mem_flatMap]
  constructor
  · rintro ⟨statement, member, known⟩
    obtain ⟨isEntry, isOpen⟩ := (@mem_known_iff (.statement statement) _).mp known
    exact ⟨isEntry, statement, member, isOpen⟩
  · rintro ⟨isEntry, statement, member, isOpen⟩
    exact ⟨statement, member, (@mem_known_iff (.statement statement) _).mpr ⟨isEntry, isOpen⟩⟩

theorem allKnown_sublist_declarations (program : Program) :
    (Statement.allKnown program.statements).Sublist program.declarations := by
  rw [allKnown_eq_flatMap, Program.declarations_eq]
  exact List.Sublist.flatMap_right _ fun statement _ =>
    known_sublist_declarations (.statement statement)

/-! ### The order of declarations -/

/-- The name of a declaration. -/
def Syntax.Declaration.name : Declaration → Name
  | .variable node => node.name
  | .function node => node.name
  | .type node => node.name
  | .enum node => node.name

/-- **A declaration that is named in front of another.** -/
def Syntax.Declaration.NamedBefore (first second : Declaration) : Prop :=
  first.name.span.start < second.name.span.start

/-- A name stands where the declaration stands, and takes some of the source. -/
structure Syntax.Declaration.NamedIn (span : Span) (declaration : Declaration) : Prop where
  starts : span.start ≤ declaration.name.span.start
  filled : declaration.name.span.start < declaration.name.span.stop
  stops : declaration.name.span.stop ≤ span.stop

section Order

variable {source : List Char} {node : Node}

/-- The name of a declaration is a child of it, and only attributes stand in front of it. -/
theorem Syntax.Declaration.children_eq (declaration : Declaration) :
    ∃ (marks : List Attribute) (back : List Node), (Node.declaration declaration).children =
      marks.map Node.attribute ++ .name declaration.name :: back := by
  cases declaration with
  | enum => exact ⟨[], _, rfl⟩
  | type | function | «variable» => exact ⟨_, _, rfl⟩

theorem declarations_name (name : Name) : (Node.name name).declarations = [] := by
  rw [Node.declarations_eq]
  rfl

theorem declarations_attribute (mark : Attribute) : (Node.attribute mark).declarations = [] := by
  rw [Node.declarations_eq]
  rfl

/-- What is declared in a sound node is named in it. -/
theorem namedIn_of_mem_declarations (sound : node.Everywhere (·.IsSound source))
    {declaration : Declaration} (listed : declaration ∈ node.declarations) :
    declaration.NamedIn node.span := by
  obtain ⟨marks, back, children⟩ := declaration.children_eq
  have isChild : .name declaration.name ∈ (Node.declaration declaration).children :=
    children ▸ List.mem_append_right _ List.mem_cons_self
  have isName : (Node.name declaration.name).Within node :=
    Node.Within.trans (.child isChild (.self _)) (Node.within_of_mem_declarations listed)
  obtain ⟨starts, stops⟩ := isName.inside sound
  exact ⟨starts, (sound _ isName).filled, stops⟩

/-- What is declared in nodes that follow each other is named one after the other. -/
theorem sorted_flatMap_declarations {nodes : List Node}
    (sound : ∀ node ∈ nodes, node.Everywhere (·.IsSound source))
    (apart : nodes.Pairwise fun first second => first.span.stop ≤ second.span.start)
    (each : ∀ node ∈ nodes, node.declarations.Pairwise Declaration.NamedBefore) :
    (nodes.flatMap Node.declarations).Pairwise Declaration.NamedBefore := by
  refine List.pairwise_flatMap.mpr ⟨each, apart.imp_of_mem ?_⟩
  intro first second isFirst isSecond order one ofFirst other ofSecond
  have before := namedIn_of_mem_declarations (sound first isFirst) ofFirst
  have after := namedIn_of_mem_declarations (sound second isSecond) ofSecond
  calc one.name.span.start
    _ < one.name.span.stop := before.filled
    _ ≤ first.span.stop := before.stops
    _ ≤ second.span.start := order
    _ ≤ other.name.span.start := after.starts

/-- A declaration is named in front of what is declared in it. -/
theorem namedBefore_of_mem_children {declaration inner : Declaration} {child : Node}
    (sound : (Node.declaration declaration).Everywhere (·.IsSound source))
    (isChild : child ∈ (Node.declaration declaration).children)
    (listed : inner ∈ child.declarations) : declaration.NamedBefore inner := by
  obtain ⟨marks, back, children⟩ := declaration.children_eq
  have apart : (Node.declaration declaration).children.Pairwise fun first second =>
    first.span.stop ≤ second.span.start := sound.here.placed.apart
  have inside := namedIn_of_mem_declarations (sound.child isChild) listed
  have isName : .name declaration.name ∈ (Node.declaration declaration).children :=
    children ▸ List.mem_append_right _ List.mem_cons_self
  rw [children] at apart isChild
  rcases List.mem_append.mp isChild with isMark | isChild
  · obtain ⟨mark, -, rfl⟩ := List.mem_map.mp isMark
    rw [declarations_attribute] at listed
    cases listed
  rcases List.mem_cons.mp isChild with rfl | isBehind
  · rw [declarations_name] at listed
    cases listed
  calc declaration.name.span.start
    _ < declaration.name.span.stop := (sound.child isName).here.filled
    _ ≤ child.span.start := (List.pairwise_cons.mp (List.pairwise_append.mp apart).2.1).1 _ isBehind
    _ ≤ inner.name.span.start := inside.starts

/-- **A sound node names its declarations one after the other.** -/
theorem sorted_declarations (sound : node.Everywhere (·.IsSound source)) :
    node.declarations.Pairwise Declaration.NamedBefore := by
  induction node using Node.induction with
  | step node ih =>
      have each (child : Node) (isChild : child ∈ node.children) :
          child.declarations.Pairwise Declaration.NamedBefore :=
        ih child isChild (sound.child isChild)
      have parts : (node.children.flatMap Node.declarations).Pairwise Declaration.NamedBefore := by
        cases node with
        | closure node =>
            -- the one child of a closure that is not in its row is the only one with declarations
            have names : (node.params.map Node.name).flatMap Node.declarations = [] :=
              List.flatMap_eq_nil_iff.mpr (List.forall_mem_map.mpr fun name _ =>
                declarations_name name)
            rw [Node.children, List.flatMap_append, names, List.nil_append,
              List.flatMap_singleton]
            exact each _ (List.mem_append_right _ (List.mem_singleton_self _))
        | _ =>
            exact sorted_flatMap_declarations (fun child isChild => sound.child isChild)
              sound.here.placed.apart each
      rw [Node.declarations_eq]
      refine List.pairwise_append.mpr ⟨?_, parts, ?_⟩
      · cases node.asDeclaration? with
        | none => exact .nil
        | some declaration => exact List.pairwise_singleton _ _
      · intro declaration isEntry inner listed
        obtain rfl := Node.asDeclaration?_eq_some (Option.mem_toList.mp isEntry)
        obtain ⟨child, isChild, listed⟩ := List.mem_flatMap.mp listed
        exact namedBefore_of_mem_children sound isChild listed

/-- **A parsed program names its declarations one after the other.** -/
theorem Syntax.Program.sorted_declarations {source : String} {program : Program}
    (parsed : parse source = .ok program) :
    program.declarations.Pairwise Declaration.NamedBefore := by
  obtain ⟨sound, apart⟩ := Program.isSound_of_parse parsed
  have each (node : Node) (isStatement : node ∈ program.statements.map Node.statement) :
      node.Everywhere (·.IsSound source.toList) := by
    obtain ⟨statement, member, rfl⟩ := List.mem_map.mp isStatement
    exact fun inner within => sound inner ⟨statement, member, within⟩
  have sorted := sorted_flatMap_declarations each (List.pairwise_map.mpr apart)
    fun node isStatement => ResultBuilder.sorted_declarations (each node isStatement)
  rwa [List.flatMap_map, ← Program.declarations_eq] at sorted

end Order

/-! ### Complete tables -/

section Tables

variable {α : Type} {start : α → Nat} {known all : List α}

/-- In a sorted list, what is found is the first that fits. -/
theorem find?_eq_some_iff_of_sorted (sorted : all.Pairwise fun first second =>
      start first < start second) {fits : α → Bool} {first : α} :
    all.find? fits = some first ↔
      first ∈ all ∧ fits first = true ∧
        ∀ item ∈ all, fits item = true → start first ≤ start item := by
  induction all with
  | nil => simp
  | cons head rest ih =>
      obtain ⟨before, sorted⟩ := List.pairwise_cons.mp sorted
      cases isFitting : fits head with
      | true =>
          rw [List.find?_cons_of_pos isFitting, Option.some.injEq]
          constructor
          · rintro rfl
            exact ⟨List.mem_cons_self, isFitting, List.forall_mem_cons.mpr
              ⟨fun _ => Nat.le_refl _, fun item listed _ => Nat.le_of_lt (before item listed)⟩⟩
          · rintro ⟨listed, -, least⟩
            refine ((List.mem_cons.mp listed).resolve_right fun listed => ?_).symm
            have atMost := least head List.mem_cons_self isFitting
            exact absurd (before first listed) (Nat.not_lt.mpr atMost)
      | false =>
          rw [List.find?_cons_of_neg (Bool.eq_false_iff.mp isFitting), ih sorted]
          constructor
          · rintro ⟨listed, firstFits, least⟩
            exact ⟨List.mem_cons_of_mem _ listed, firstFits, List.forall_mem_cons.mpr
              ⟨fun headFits => absurd headFits (Bool.eq_false_iff.mp isFitting), least⟩⟩
          · rintro ⟨listed, firstFits, least⟩
            refine ⟨(List.mem_cons.mp listed).resolve_left ?_, firstFits,
              (List.forall_mem_cons.mp least).2⟩
            rintro rfl
            exact absurd firstFits (Bool.eq_false_iff.mp isFitting)

/-- **Finding in a part of a sorted list** finds what is found in the whole, unless something that
fits is missing without another that fits in front of it. -/
theorem find?_eq_find?_iff (part : known.Sublist all) (sorted : all.Pairwise fun first second =>
      start first < start second) (fits : α → Bool) :
    known.find? fits = all.find? fits ↔
      ∀ item ∈ all, fits item = true → item ∉ known →
        ∃ other ∈ known, fits other = true ∧ start other < start item := by
  have sortedKnown := sorted.sublist part
  constructor
  · intro same item listed isFitting isMissing
    obtain ⟨first, isFirst⟩ := Option.isSome_iff_exists.mp
      (List.find?_isSome.mpr ⟨item, listed, isFitting⟩)
    obtain ⟨firstListed, firstFits, least⟩ := (find?_eq_some_iff_of_sorted sorted).mp isFirst
    have firstKnown := List.mem_of_find?_eq_some (same.trans isFirst)
    refine ⟨first, firstKnown, firstFits, Nat.lt_of_le_of_ne (least item listed isFitting) ?_⟩
    intro sameStart
    have injective := List.inj_on_of_nodup_map
      (List.pairwise_map.mpr (sorted.imp fun before => Nat.ne_of_lt before))
    exact isMissing (injective firstListed listed sameStart ▸ firstKnown)
  · intro stands
    cases isFirst : all.find? fits with
    | none =>
        refine List.find?_eq_none.mpr fun item isKnown => ?_
        exact List.find?_eq_none.mp isFirst item (part.subset isKnown)
    | some first =>
        obtain ⟨listed, isFitting, least⟩ := (find?_eq_some_iff_of_sorted sorted).mp isFirst
        refine (find?_eq_some_iff_of_sorted sortedKnown).mpr ⟨?_, isFitting, fun item isKnown =>
          least item (part.subset isKnown)⟩
        by_contra isMissing
        obtain ⟨other, isKnown, otherFits, before⟩ := stands first listed isFitting isMissing
        exact absurd (least other (part.subset isKnown) otherFits) (Nat.not_le.mpr before)

end Tables

namespace Host

/-- **All declarations of a program**, as a host that knows them. -/
def complete (program : Program) : Host :=
  .ofDeclarations program.declarations

/-- **A host that has the declarations of a program in its tables**: the name of a type, or of an
enum, leads to the first one of that name, and the name of a function is the name of one that is
known. -/
structure Registers (host : Host) (program : Program) : Prop where
  types : ∀ decl, .type decl ∈ program.declarations →
    host.type? decl.name.text = (complete program).type? decl.name.text
  enums : ∀ decl, .enum decl ∈ program.declarations →
    host.enum? decl.name.text = (complete program).enum? decl.name.text
  functions : ∀ decl, .function decl ∈ program.declarations →
    ∃ other ∈ host.functions, other.name.text = decl.name.text

/-- **A declaration that stands for another** in a table: one of the same kind and name, which is
the earlier one unless they are functions. -/
inductive StandsFor : Declaration → Declaration → Prop
  | type {first second : TypeDecl} (same : first.name.text = second.name.text)
      (before : first.name.span.start < second.name.span.start) :
      StandsFor (.type first) (.type second)
  | enum {first second : EnumDecl} (same : first.name.text = second.name.text)
      (before : first.name.span.start < second.name.span.start) :
      StandsFor (.enum first) (.enum second)
  | function {first second : FunctionDecl} (same : first.name.text = second.name.text) :
      StandsFor (.function first) (.function second)

section Tables

variable {α : Type} {choose : Declaration → Option α} {wrap : α → Declaration}
  {known all : List Declaration}

theorem mem_filterMap_choose (chosen : ∀ {declaration item}, choose declaration = some item ↔
      declaration = wrap item) {item : α} : item ∈ all.filterMap choose ↔ wrap item ∈ all := by
  rw [List.mem_filterMap]
  constructor
  · rintro ⟨declaration, listed, isItem⟩
    exact chosen.mp isItem ▸ listed
  · exact fun listed => ⟨_, listed, chosen.mpr rfl⟩

/-- A name leads to the same declaration in the table of a part of all declarations, unless one is
missing without another in front of it. -/
theorem find?_table_iff (chosen : ∀ {declaration item}, choose declaration = some item ↔
      declaration = wrap item) (part : known.Sublist all)
    (sorted : all.Pairwise Declaration.NamedBefore) (text : String) :
    (known.filterMap choose).find? (fun item => (wrap item).name.text == text) =
        (all.filterMap choose).find? (fun item => (wrap item).name.text == text) ↔
      ∀ item, wrap item ∈ all → (wrap item).name.text = text → wrap item ∉ known →
        ∃ other, wrap other ∈ known ∧ (wrap other).name.text = text ∧
          (wrap other).NamedBefore (wrap item) := by
  have sortedTable : (all.filterMap choose).Pairwise fun first second =>
      (wrap first).name.span.start < (wrap second).name.span.start := by
    refine List.pairwise_filterMap.mpr (sorted.imp fun before item isItem other isOther => ?_)
    rw [← chosen.mp isItem, ← chosen.mp isOther]
    exact before
  rw [find?_eq_find?_iff (part.filterMap choose) sortedTable]
  simp only [mem_filterMap_choose chosen, beq_iff_eq]
  rfl

theorem mem_types_ofDeclarations {decl : TypeDecl} :
    decl ∈ (ofDeclarations all).types ↔ .type decl ∈ all := by
  refine @mem_filterMap_choose TypeDecl _ .type _ ?_ decl
  intro declaration decl
  cases declaration <;> simp

theorem mem_enums_ofDeclarations {decl : EnumDecl} :
    decl ∈ (ofDeclarations all).enums ↔ .enum decl ∈ all := by
  refine @mem_filterMap_choose EnumDecl _ .enum _ ?_ decl
  intro declaration decl
  cases declaration <;> simp

theorem mem_functions_ofDeclarations {decl : FunctionDecl} :
    decl ∈ (ofDeclarations all).functions ↔ .function decl ∈ all := by
  refine @mem_filterMap_choose FunctionDecl _ .function _ ?_ decl
  intro declaration decl
  cases declaration <;> simp

end Tables

section Programs

variable {source : String} {program : Program} {text : String}

/-- When a name leads to the first type of that name. -/
theorem type?_eq_complete_iff (parsed : parse source = .ok program) :
    (ofProgram program).type? text = (complete program).type? text ↔
      ∀ decl, .type decl ∈ program.declarations → decl.name.text = text →
        .type decl ∉ Statement.allKnown program.statements →
          ∃ other, .type other ∈ Statement.allKnown program.statements ∧
            other.name.text = text ∧ other.name.span.start < decl.name.span.start := by
  refine @find?_table_iff TypeDecl _ .type _ _ ?_ (allKnown_sublist_declarations program)
    (program.sorted_declarations parsed) text
  intro declaration decl
  cases declaration <;> simp

/-- When a name leads to the first enum of that name. -/
theorem enum?_eq_complete_iff (parsed : parse source = .ok program) :
    (ofProgram program).enum? text = (complete program).enum? text ↔
      ∀ decl, .enum decl ∈ program.declarations → decl.name.text = text →
        .enum decl ∉ Statement.allKnown program.statements →
          ∃ other, .enum other ∈ Statement.allKnown program.statements ∧
            other.name.text = text ∧ other.name.span.start < decl.name.span.start := by
  refine @find?_table_iff EnumDecl _ .enum _ _ ?_ (allKnown_sublist_declarations program)
    (program.sorted_declarations parsed) text
  intro declaration decl
  cases declaration <;> simp

/-- **When a host has all declarations of a program in its tables**: when for each type, enum and
function that it passes over there is another one in an open place that stands for it. -/
theorem registers_iff (parsed : parse source = .ok program) :
    (ofProgram program).Registers program ↔
      ∀ declaration ∈ program.declarations,
        ¬ (Node.declaration declaration).OpenInProgram program →
          ∃ other, (Node.declaration other).OpenInProgram program ∧
            StandsFor other declaration := by
  constructor
  · intro registers declaration listed isClosed
    have isMissing : declaration ∉ Statement.allKnown program.statements :=
      fun isKnown => isClosed (mem_allKnown_iff.mp isKnown).2
    cases declaration with
    | type decl =>
        obtain ⟨other, isKnown, same, before⟩ := (type?_eq_complete_iff parsed).mp
          (registers.types decl listed) decl listed rfl isMissing
        exact ⟨.type other, (mem_allKnown_iff.mp isKnown).2, .type same before⟩
    | enum decl =>
        obtain ⟨other, isKnown, same, before⟩ := (enum?_eq_complete_iff parsed).mp
          (registers.enums decl listed) decl listed rfl isMissing
        exact ⟨.enum other, (mem_allKnown_iff.mp isKnown).2, .enum same before⟩
    | function decl =>
        obtain ⟨other, isKnown, same⟩ := registers.functions decl listed
        exact ⟨.function other, (mem_allKnown_iff.mp (mem_functions_ofDeclarations.mp isKnown)).2,
          .function same⟩
    | «variable» decl =>
        obtain ⟨node, -, isEntry⟩ := List.mem_filterMap.mp listed
        rw [Node.asDeclaration?_eq_some isEntry] at isEntry
        cases isEntry
  · intro stands
    refine ⟨fun named ofNamed => ?_, fun named ofNamed => ?_, fun decl listed => ?_⟩
    · refine (type?_eq_complete_iff parsed).mpr fun decl listed same isMissing => ?_
      obtain ⟨other, isOpen, standsFor⟩ := stands _ listed fun isOpen =>
        isMissing (mem_allKnown_iff.mpr ⟨rfl, isOpen⟩)
      cases standsFor with
      | type sameName before =>
          exact ⟨_, mem_allKnown_iff.mpr ⟨rfl, isOpen⟩, sameName.trans same, before⟩
    · refine (enum?_eq_complete_iff parsed).mpr fun decl listed same isMissing => ?_
      obtain ⟨other, isOpen, standsFor⟩ := stands _ listed fun isOpen =>
        isMissing (mem_allKnown_iff.mpr ⟨rfl, isOpen⟩)
      cases standsFor with
      | enum sameName before =>
          exact ⟨_, mem_allKnown_iff.mpr ⟨rfl, isOpen⟩, sameName.trans same, before⟩
    · by_cases isOpen : (Node.declaration (.function decl)).OpenInProgram program
      · exact ⟨decl, mem_functions_ofDeclarations.mpr (mem_allKnown_iff.mpr ⟨rfl, isOpen⟩), rfl⟩
      · obtain ⟨other, otherOpen, standsFor⟩ := stands _ listed isOpen
        cases standsFor with
        | function sameName =>
            have isKnown := mem_allKnown_iff.mpr ⟨rfl, otherOpen⟩
            exact ⟨_, mem_functions_ofDeclarations.mpr isKnown, sameName⟩

end Programs

/-- An enum with two cases. -/
def pairEnum : EnumDecl :=
  ⟨⟨21, 41⟩, ⟨⟨26, 27⟩, "E"⟩, [⟨⟨35, 36⟩, ⟨⟨35, 36⟩, "x"⟩, []⟩, ⟨⟨38, 39⟩, ⟨⟨38, 39⟩, "y"⟩, []⟩]⟩

/-- A `switch` with one of the two cases. -/
def singleSwitch : Switch :=
  ⟨⟨44, 67⟩, .ident ⟨51, 52⟩ "v", [⟨⟨55, 65⟩,
    .patterns [⟨⟨60, 62⟩, ".x", some "x", false, false⟩],
    ⟨⟨64, 65⟩, [.expression (.literal ⟨64, 65⟩ (.integer 1))]⟩⟩]⟩

/-- The enum in an `if` statement that is chained to another one, in front of the `switch`. -/
def chainedProgram : Program where
  statements := [.conditional ⟨⟨0, 43⟩, [.expression (.ident ⟨3, 4⟩ "a")], ⟨⟨5, 8⟩, []⟩,
    some (.chained ⟨⟨14, 43⟩, [.expression (.ident ⟨17, 18⟩ "b")],
      ⟨⟨19, 43⟩, [.declaration (.enum pairEnum)]⟩, none⟩)⟩, .switch singleSwitch]

/-- How the statements are written. -/
def chainedSource : String :=
  "if a \x7b \x7d else if b \x7b enum E \x7b case x, y \x7d \x7d\nswitch v \x7b case .x: 1 \x7d"

theorem parse_chainedSource : parse chainedSource = .ok chainedProgram := by
  have cut : tokenize chainedSource =
      .ok [⟨.keyword .if_, ⟨0, 2⟩, "if", false⟩, ⟨.identifier, ⟨3, 4⟩, "a", false⟩,
        ⟨.symbol .braceOpen, ⟨5, 6⟩, "\x7b", false⟩, ⟨.symbol .braceClose, ⟨7, 8⟩, "\x7d", false⟩,
        ⟨.keyword .else_, ⟨9, 13⟩, "else", false⟩, ⟨.keyword .if_, ⟨14, 16⟩, "if", false⟩,
        ⟨.identifier, ⟨17, 18⟩, "b", false⟩, ⟨.symbol .braceOpen, ⟨19, 20⟩, "\x7b", false⟩,
        ⟨.keyword .enum_, ⟨21, 25⟩, "enum", false⟩, ⟨.identifier, ⟨26, 27⟩, "E", false⟩,
        ⟨.symbol .braceOpen, ⟨28, 29⟩, "\x7b", false⟩, ⟨.keyword .case_, ⟨30, 34⟩, "case", false⟩,
        ⟨.identifier, ⟨35, 36⟩, "x", false⟩, ⟨.symbol .comma, ⟨36, 37⟩, ",", false⟩,
        ⟨.identifier, ⟨38, 39⟩, "y", false⟩, ⟨.symbol .braceClose, ⟨40, 41⟩, "\x7d", false⟩,
        ⟨.symbol .braceClose, ⟨42, 43⟩, "\x7d", false⟩,
        ⟨.keyword .switch_, ⟨44, 50⟩, "switch", true⟩, ⟨.identifier, ⟨51, 52⟩, "v", false⟩,
        ⟨.symbol .braceOpen, ⟨53, 54⟩, "\x7b", false⟩, ⟨.keyword .case_, ⟨55, 59⟩, "case", false⟩,
        ⟨.symbol .dot, ⟨60, 61⟩, ".", false⟩, ⟨.identifier, ⟨61, 62⟩, "x", false⟩,
        ⟨.symbol .colon, ⟨62, 63⟩, ":", false⟩, ⟨.integer, ⟨64, 65⟩, "1", false⟩,
        ⟨.symbol .braceClose, ⟨66, 67⟩, "\x7d", false⟩,
        ⟨.endOfFile, ⟨67, 67⟩, "", false⟩] := by
    decide +kernel
  exact parse_of_ofTokens cut rfl

/-- **An enum that is not known**: the walk comes to it, the host does not, and the case that the
`switch` lacks is not reported. -/
theorem not_registers_chainedProgram :
    parse chainedSource = .ok chainedProgram ∧
      .enum pairEnum ∈ chainedProgram.declarations ∧
      (ofProgram chainedProgram).enum? "E" = none ∧
      (ofProgram chainedProgram).checkExhaustive singleSwitch = [] ∧
      ¬ (ofProgram chainedProgram).Registers chainedProgram := by
  have within : (Node.declaration (.enum pairEnum)).WithinProgram chainedProgram :=
    ⟨_, List.mem_cons_self, .child (List.mem_append_right _ (List.mem_cons_of_mem _
      (List.mem_singleton_self _))) (.child (List.mem_append_right _ List.mem_cons_self)
      (.child (List.mem_singleton_self _) (.child (List.mem_singleton_self _) (.self _))))⟩
  have listed : .enum pairEnum ∈ chainedProgram.declarations :=
    List.mem_filterMap.mpr ⟨_, Program.mem_nodes.mpr within, rfl⟩
  have unknown : (ofProgram chainedProgram).enum? "E" = none := rfl
  have isSilent : (ofProgram chainedProgram).checkExhaustive singleSwitch = [] := by
    cbv
  refine ⟨parse_chainedSource, listed, unknown, isSilent, fun registers => ?_⟩
  have nowhere : (complete chainedProgram).enum? "E" = none :=
    (registers.enums pairEnum listed).symm.trans unknown
  exact List.find?_eq_none.mp nowhere pairEnum (mem_enums_ofDeclarations.mpr listed) rfl

/-- An enum. -/
def outerEnum : EnumDecl :=
  ⟨⟨0, 17⟩, ⟨⟨5, 6⟩, "E"⟩, [⟨⟨14, 15⟩, ⟨⟨14, 15⟩, "x"⟩, []⟩]⟩

/-- Another enum of its name. -/
def innerEnum : EnumDecl :=
  ⟨⟨28, 45⟩, ⟨⟨33, 34⟩, "E"⟩, [⟨⟨42, 43⟩, ⟨⟨42, 43⟩, "y"⟩, []⟩]⟩

/-- The first enum before a loop with the second. -/
def loopingProgram : Program where
  statements := [.declaration (.enum outerEnum),
    .loop ⟨⟨18, 47⟩, .whileDo, .ident ⟨24, 25⟩ "a", ⟨⟨26, 47⟩, [.declaration (.enum innerEnum)]⟩⟩]

/-- The first of two enums of a name stands for the second, which is in the body of a loop. -/
theorem registers_iff_loopingProgram :
    parse "enum E \x7b case x \x7d\nwhile a \x7b enum E \x7b case y \x7d \x7d" =
        .ok loopingProgram ∧
      (ofProgram loopingProgram).Registers loopingProgram := by
  have cut : tokenize "enum E \x7b case x \x7d\nwhile a \x7b enum E \x7b case y \x7d \x7d" =
      .ok [⟨.keyword .enum_, ⟨0, 4⟩, "enum", false⟩, ⟨.identifier, ⟨5, 6⟩, "E", false⟩,
        ⟨.symbol .braceOpen, ⟨7, 8⟩, "\x7b", false⟩, ⟨.keyword .case_, ⟨9, 13⟩, "case", false⟩,
        ⟨.identifier, ⟨14, 15⟩, "x", false⟩, ⟨.symbol .braceClose, ⟨16, 17⟩, "\x7d", false⟩,
        ⟨.keyword .while_, ⟨18, 23⟩, "while", true⟩, ⟨.identifier, ⟨24, 25⟩, "a", false⟩,
        ⟨.symbol .braceOpen, ⟨26, 27⟩, "\x7b", false⟩, ⟨.keyword .enum_, ⟨28, 32⟩, "enum", false⟩,
        ⟨.identifier, ⟨33, 34⟩, "E", false⟩, ⟨.symbol .braceOpen, ⟨35, 36⟩, "\x7b", false⟩,
        ⟨.keyword .case_, ⟨37, 41⟩, "case", false⟩, ⟨.identifier, ⟨42, 43⟩, "y", false⟩,
        ⟨.symbol .braceClose, ⟨44, 45⟩, "\x7d", false⟩,
        ⟨.symbol .braceClose, ⟨46, 47⟩, "\x7d", false⟩, ⟨.endOfFile, ⟨47, 47⟩, "", false⟩] := by
    decide +kernel
  have parsed := @parse_of_ofTokens _ _ loopingProgram cut rfl
  have isOpen : (Node.declaration (.enum outerEnum)).OpenInProgram loopingProgram :=
    ⟨_, List.mem_cons_self, .child (List.mem_singleton_self _) rfl (.self _)⟩
  have declared : loopingProgram.declarations = [.enum outerEnum, .enum innerEnum] := by
    simp only [Program.declarations, Program.nodes, loopingProgram, outerEnum, innerEnum,
      Node.nodes_eq, Node.children, Node.ofStatement, Node.ofDeclaration, Node.ofLoop, Node.ofExpr,
      List.map_cons, List.map_nil, List.flatMap_cons, List.flatMap_nil, List.cons_append,
      List.nil_append]
    rfl
  refine ⟨parsed, (registers_iff parsed).mpr fun declaration listed isClosed => ?_⟩
  refine ⟨.enum outerEnum, isOpen, ?_⟩
  simp only [declared, List.mem_cons, List.not_mem_nil, or_false] at listed
  rcases listed with rfl | rfl
  · exact absurd isOpen isClosed
  · exact .enum rfl (by decide)

end Host

end ResultBuilder
