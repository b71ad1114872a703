import Mathlib.Data.List.Basic
import ResultBuilder.Proofs.Builder.Cache
import ResultBuilder.Proofs.Compile.Surroundings
import ResultBuilder.Proofs.Syntax.Nodes

/-!
# Scopes of calls and scopes of declarations

The attributes of a parameter name a builder for the closures that are given for it. They are looked
up in the scopes around the call, while the function that has the parameter is declared in scopes of
its own. This is about when the two give the same builder.

* **`Scopes.origins`**: the functions that a callee can mean, each with the scopes around its
  declaration. The scopes of the call lead to both.
* **`Scopes.Leads`**: what the two have in common.
* **`Scopes.AgreesWith`**: attributes name the same builder in two places.
* **`Rooted`**: the functions and the members of the types of scopes are declared where the scopes
  say, which is so at every place of a program.
* **`mem_bindings_iff`**: what a call transforms.
* **`closures_lexical_iff`**, **`bindings_eq_lexicalBindings`**: when the builders of the closures
  of a call are those that the parameters name where the function is declared. A type around the
  call only that has the name of the builder takes its place.
-/

namespace ResultBuilder

open Syntax

namespace Scopes

/-! ### Where functions are declared -/

/-- The functions of a name in the innermost scope that has any, each with the scopes around its
declaration. -/
def functionOrigins? : Scopes → String → Option (List (FunctionDecl × Scopes))
  | [], _ => none
  | scope :: outer, name =>
      match scope.named name with
      | [] => functionOrigins? outer name
      | found => some (found.map (·, scope :: outer))

/-- The type that a name means, with the scopes around its declaration. -/
def typeOrigin? : Scopes → String → Option (TypeDecl × Scopes)
  | [], _ => none
  | scope :: outer, name =>
      match scope.type? name with
      | none => typeOrigin? outer name
      | some decl => some (decl, scope :: outer)

/-- The functions of a name among the members of the type that another name means, each with the
scopes around its declaration, of which the members of the type are the innermost. -/
def memberOrigins (scopes : Scopes) (typeName name : String) : List (FunctionDecl × Scopes) :=
  match scopes.typeOrigin? typeName with
  | none => []
  | some (decl, outer) =>
      (decl.functions.filter (·.name.text == name)).map (·, .ofDeclarations decl.members :: outer)

/-- **The functions that a callee can mean, each with the scopes around its declaration.** -/
def origins (scopes : Scopes) : Expr → List (FunctionDecl × Scopes)
  | .ident _ name => (scopes.functionOrigins? name).getD (scopes.memberOrigins name "init")
  | .member _ (.ident _ typeName) name => scopes.memberOrigins typeName name.text
  | _ => []

theorem map_fst_functionOrigins? (scopes : Scopes) (name : String) :
    (scopes.functionOrigins? name).map (·.map Prod.fst) = scopes.functions? name := by
  induction scopes with
  | nil => rfl
  | cons scope outer inductionHypothesis =>
      rw [functionOrigins?, functions?, List.findSome?_cons]
      cases scope.named name with
      | nil => exact inductionHypothesis
      | cons first rest => simp [Function.comp_def]

theorem map_fst_typeOrigin? (scopes : Scopes) (name : String) :
    (scopes.typeOrigin? name).map Prod.fst = scopes.type? name := by
  induction scopes with
  | nil => rfl
  | cons scope outer inductionHypothesis =>
      rw [typeOrigin?, type?, List.findSome?_cons]
      cases scope.type? name with
      | none => exact inductionHypothesis
      | some decl => rfl

theorem map_fst_memberOrigins (scopes : Scopes) (typeName name : String) :
    (scopes.memberOrigins typeName name).map Prod.fst = scopes.members typeName name := by
  rw [memberOrigins, members, ← map_fst_typeOrigin?]
  cases scopes.typeOrigin? typeName with
  | none => rfl
  | some origin => simp [Function.comp_def]

/-- **The functions with their scopes are the functions that a callee can mean.** -/
theorem map_fst_origins (scopes : Scopes) (callee : Expr) :
    (scopes.origins callee).map Prod.fst = scopes.candidates callee := by
  cases callee with
  | ident _ name =>
      rw [origins, candidates, ← map_fst_functionOrigins?, ← map_fst_memberOrigins]
      cases scopes.functionOrigins? name <;> rfl
  | member _ base name =>
      cases base with
      | ident _ typeName => exact scopes.map_fst_memberOrigins typeName name.text
      | _ => rfl
  | _ => rfl

/-- **Where a function is declared that a place can name**: in one of the scopes around the place,
or among the members of a type that is declared in one of them. The scopes around the declaration
are that scope and the outer ones, below which there are the members of the type. -/
inductive Leads : Scopes → FunctionDecl → Scopes → Prop where
  | scope (nearer : Scopes) {scope : Scope} (outer : Scopes) {function : FunctionDecl}
      (declared : function ∈ scope.functions) :
      Leads (nearer ++ scope :: outer) function (scope :: outer)
  | type (nearer : Scopes) {scope : Scope} (outer : Scopes) {decl : TypeDecl}
      {function : FunctionDecl} (declared : decl ∈ scope.types)
      (ofType : function ∈ decl.functions) :
      Leads (nearer ++ scope :: outer) function
        (.ofDeclarations decl.members :: scope :: outer)

section Leads

variable {scopes declared : Scopes} {function : FunctionDecl}

theorem Leads.cons (innermost : Scope) (leads : Leads scopes function declared) :
    Leads (innermost :: scopes) function declared := by
  cases leads with
  | scope nearer outer declared => exact .scope (innermost :: nearer) outer declared
  | type nearer outer declared ofType => exact .type (innermost :: nearer) outer declared ofType

theorem leads_of_functionOrigins? {name : String} {found : List (FunctionDecl × Scopes)}
    (search : scopes.functionOrigins? name = some found) (listed : (function, declared) ∈ found) :
    Leads scopes function declared := by
  induction scopes with
  | nil => cases search
  | cons scope outer inductionHypothesis =>
      rw [functionOrigins?] at search
      split at search
      · exact (inductionHypothesis search).cons scope
      · cases search
        obtain ⟨_, ofScope, same⟩ := List.mem_map.mp listed
        cases same
        exact .scope [] outer (List.mem_filter.mp ofScope).1

theorem leads_of_typeOrigin? {name : String} {decl : TypeDecl}
    (search : scopes.typeOrigin? name = some (decl, declared))
    (ofType : function ∈ decl.functions) :
    Leads scopes function (.ofDeclarations decl.members :: declared) := by
  induction scopes with
  | nil => cases search
  | cons scope outer inductionHypothesis =>
      rw [typeOrigin?] at search
      cases found : scope.type? name with
      | none =>
          rw [found] at search
          exact (inductionHypothesis search).cons scope
      | some inner =>
          rw [found] at search
          cases search
          exact .type [] outer (List.mem_of_find?_eq_some found) ofType

theorem leads_of_mem_memberOrigins {typeName name : String}
    (listed : (function, declared) ∈ scopes.memberOrigins typeName name) :
    Leads scopes function declared := by
  rw [memberOrigins] at listed
  split at listed
  · cases listed
  · rename_i search
    obtain ⟨_, ofType, same⟩ := List.mem_map.mp listed
    cases same
    exact leads_of_typeOrigin? search (List.mem_filter.mp ofType).1

/-- The functions that a callee can mean are declared around the call or are members of types that
are. -/
theorem leads_of_mem_origins {callee : Expr}
    (listed : (function, declared) ∈ scopes.origins callee) : Leads scopes function declared := by
  unfold origins at listed
  split at listed
  · rename_i name
    cases search : scopes.functionOrigins? name with
    | none =>
        rw [search] at listed
        exact leads_of_mem_memberOrigins listed
    | some found =>
        rw [search] at listed
        exact leads_of_functionOrigins? search listed
  · exact leads_of_mem_memberOrigins listed
  · cases listed

end Leads

/-! ### Attributes in two places -/

/-- **Attributes name the same builder in two places.** The first that names a builder in either
place names the same one in both. -/
def AgreesWith (scopes other : Scopes) : List Attribute → Prop
  | [] => True
  | mark :: rest =>
      scopes.builder? mark.name = other.builder? mark.name ∧
        (scopes.builder? mark.name = none → AgreesWith scopes other rest)

/-- A builder has the name by which it was found. -/
theorem name_of_builder? {scopes : Scopes} {name : String} {builder : TypeDecl}
    (found : scopes.builder? name = some builder) : builder.name.text = name := by
  obtain ⟨ofName, _⟩ := Option.filter_eq_some_iff.mp found
  obtain ⟨scope, _, inScope⟩ := List.exists_of_findSome?_eq_some ofName
  simpa using List.find?_some inScope

/-- The builder that attributes name. -/
def builderOf? (scopes : Scopes) (marks : List Attribute) : Option TypeDecl :=
  (scopes.builderAttribute? marks).map Prod.snd

theorem builderOf?_cons (scopes : Scopes) (mark : Attribute) (rest : List Attribute) :
    scopes.builderOf? (mark :: rest) =
      (scopes.builder? mark.name).or (scopes.builderOf? rest) := by
  rw [builderOf?, builderAttribute?, List.findSome?_cons]
  cases scopes.builder? mark.name <;> rfl

/-- The builder that attributes name is the builder of the name of one of them. -/
theorem builder?_of_builderOf? {scopes : Scopes} {marks : List Attribute} {builder : TypeDecl}
    (found : scopes.builderOf? marks = some builder) :
    scopes.builder? builder.name.text = some builder := by
  induction marks with
  | nil => cases found
  | cons mark rest inductionHypothesis =>
      rw [builderOf?_cons] at found
      cases first : scopes.builder? mark.name with
      | none =>
          rw [first] at found
          exact inductionHypothesis found
      | some decl =>
          rw [first] at found
          cases found
          rw [name_of_builder? first, first]

/-- **Attributes give the same builder in two places exactly when they name the same one.** -/
theorem builderOf?_eq_iff {scopes other : Scopes} {marks : List Attribute} :
    scopes.builderOf? marks = other.builderOf? marks ↔ scopes.AgreesWith other marks := by
  induction marks with
  | nil => exact iff_of_true rfl trivial
  | cons mark rest inductionHypothesis =>
      rw [AgreesWith, builderOf?_cons, builderOf?_cons]
      cases here : scopes.builder? mark.name with
      | none =>
          cases there : other.builder? mark.name with
          | none => simpa using inductionHypothesis
          | some builder =>
              -- a later attribute that named the builder here would have the name of this one
              refine iff_of_false (fun same => ?_) nofun
              have later := builder?_of_builderOf? same
              rw [name_of_builder? there, here] at later
              cases later
      | some builder =>
          cases there : other.builder? mark.name with
          | none =>
              refine iff_of_false (fun same => ?_) nofun
              have later := builder?_of_builderOf? same.symm
              rw [name_of_builder? here, there] at later
              cases later
          | some otherBuilder => simp

/-- Inner scopes that declare no type of a name leave the meaning of the name to the outer ones. -/
theorem type?_append_of_none {inner outer : Scopes} {name : String}
    (undeclared : inner.type? name = none) : (inner ++ outer).type? name = outer.type? name := by
  rw [type?, List.findSome?_append]
  rw [type?] at undeclared
  rw [undeclared]
  rfl

/-- Attributes name the same builder in two places if no scope that is around only one of the places
declares a type of the name of an attribute. -/
theorem agreesWith_of_undeclared {nearer inside outer : Scopes} {marks : List Attribute}
    (undeclared : ∀ mark ∈ marks,
      nearer.type? mark.name = none ∧ inside.type? mark.name = none) :
    (nearer ++ outer).AgreesWith (inside ++ outer) marks := by
  induction marks with
  | nil => trivial
  | cons mark rest inductionHypothesis =>
      obtain ⟨⟨near, within⟩, ofRest⟩ := List.forall_mem_cons.mp undeclared
      refine ⟨?_, fun _ => inductionHypothesis ofRest⟩
      rw [builder?, builder?, type?_append_of_none near, type?_append_of_none within]

/-- A place and the declaration of a function that it can name have their outer scopes in common.
Attributes name the same builder in both if no other scope declares a type of one of their names. -/
theorem agreesWith_of_mem_origins {scopes declared : Scopes} {function : FunctionDecl}
    {callee : Expr} (candidate : (function, declared) ∈ scopes.origins callee) :
    ∃ nearer inside outer, scopes = nearer ++ outer ∧ declared = inside ++ outer ∧
      ∀ marks : List Attribute,
        (∀ mark ∈ marks, nearer.type? mark.name = none ∧ inside.type? mark.name = none) →
          scopes.AgreesWith declared marks := by
  cases leads_of_mem_origins candidate with
  | scope nearer outer _ =>
      exact ⟨nearer, [], _, rfl, rfl, fun marks => agreesWith_of_undeclared⟩
  | type nearer outer _ _ =>
      exact ⟨nearer, [_], _, rfl, rfl, fun marks => agreesWith_of_undeclared⟩

end Scopes

namespace Compile

/-! ### Places of a program -/

/-- A function is visited where some scopes are around it. -/
def IsVisited (all : List Visit) (function : FunctionDecl) (scopes : Scopes) : Prop :=
  ∃ around, Visit.function around function ∈ all ∧ around.scopes = scopes

/-- **What is declared in scopes is visited where the scopes say**: functions with the scope and the
outer ones around them, and those of types with the members of the type below. -/
def Rooted (all : List Visit) : Scopes → Prop
  | [] => True
  | scope :: outer =>
      (∀ function ∈ scope.functions, IsVisited all function (scope :: outer)) ∧
        (∀ decl ∈ scope.types, ∀ function ∈ decl.functions,
          IsVisited all function (.ofDeclarations decl.members :: scope :: outer)) ∧
        Rooted all outer

variable {all : List Visit} {around : Surroundings}

theorem Rooted.of_append {nearer outer : Scopes} (rooted : Rooted all (nearer ++ outer)) :
    Rooted all outer := by
  induction nearer with
  | nil => exact rooted
  | cons scope rest inductionHypothesis => exact inductionHypothesis rooted.2.2

/-- The functions that rooted scopes lead to are visited where they are declared. -/
theorem isVisited_of_leads {scopes declared : Scopes} {function : FunctionDecl}
    (rooted : Rooted all scopes) (leads : scopes.Leads function declared) :
    IsVisited all function declared := by
  cases leads with
  | scope nearer outer ofScope => exact rooted.of_append.1 function ofScope
  | type nearer outer ofScope ofType => exact rooted.of_append.2.1 _ ofScope function ofType

/-! ### Declarations are visited -/

theorem ofStatement_subset {statement : Statement} {statements : List Statement}
    (listed : statement ∈ statements) :
    Visit.ofStatement around statement ⊆ Visit.ofStatements around statements := by
  induction statements with
  | nil => cases listed
  | cons first rest inductionHypothesis =>
      rw [Visit.ofStatements]
      rcases List.mem_cons.mp listed with rfl | later
      · exact List.subset_append_left _ _
      · exact List.subset_append_of_subset_right _ (inductionHypothesis later)

theorem ofDeclaration_subset {declaration : Declaration} {declarations : List Declaration}
    (listed : declaration ∈ declarations) :
    Visit.ofDeclaration around declaration ⊆ Visit.ofDeclarations around declarations := by
  induction declarations with
  | nil => cases listed
  | cons first rest inductionHypothesis =>
      rw [Visit.ofDeclarations]
      rcases List.mem_cons.mp listed with rfl | later
      · exact List.subset_append_left _ _
      · exact List.subset_append_of_subset_right _ (inductionHypothesis later)

/-- A function is a place of its declaration. -/
theorem function_mem_ofDeclaration (function : FunctionDecl) :
    Visit.function around function ∈ Visit.ofDeclaration around (.function function) := by
  obtain ⟨_, _, _, _, _, _, _, body⟩ := function
  cases body <;> simp [Visit.ofDeclaration]

/-- A declared function is among the declarations. -/
theorem mem_functions_ofDeclarations {declarations : List Declaration} {function : FunctionDecl} :
    function ∈ (Scope.ofDeclarations declarations).functions ↔
      .function function ∈ declarations := by
  rw [Scope.ofDeclarations, List.mem_filterMap]
  constructor
  · rintro ⟨declaration, listed, same⟩
    split at same <;> cases same
    exact listed
  · intro listed
    exact ⟨_, listed, rfl⟩

/-- A declared type is among the declarations. -/
theorem mem_types_ofDeclarations {declarations : List Declaration} {decl : TypeDecl} :
    decl ∈ (Scope.ofDeclarations declarations).types ↔ .type decl ∈ declarations := by
  rw [Scope.ofDeclarations, List.mem_filterMap]
  constructor
  · rintro ⟨declaration, listed, same⟩
    split at same <;> cases same
    exact listed
  · intro listed
    exact ⟨_, listed, rfl⟩

/-- The functions of a type are visited with its members around them. -/
theorem isVisited_of_type {decl : TypeDecl} {function : FunctionDecl}
    (visited : Visit.ofDeclaration around (.type decl) ⊆ all) (ofType : function ∈ decl.functions) :
    IsVisited all function (.ofDeclarations decl.members :: around.scopes) := by
  obtain ⟨span, marks, kind, name, generics, members⟩ := decl
  rw [Visit.ofDeclaration] at visited
  refine ⟨around.inType ⟨span, marks, kind, name, generics, members⟩, visited ?_, rfl⟩
  exact ofDeclaration_subset (TypeDecl.mem_functions.mp ofType) (function_mem_ofDeclaration function)

/-- Declarations that are visited root the scope that they make up. -/
theorem rooted_ofDeclarations {declarations : List Declaration} {outer : Scopes}
    (rooted : Rooted all outer) (here : around.scopes = .ofDeclarations declarations :: outer)
    (visited : ∀ declaration ∈ declarations, Visit.ofDeclaration around declaration ⊆ all) :
    Rooted all around.scopes := by
  rw [here]
  refine ⟨fun function ofScope => ?_, fun decl ofScope function ofType => ?_, rooted⟩
  · have listed := visited _ (mem_functions_ofDeclarations.mp ofScope)
    exact ⟨around, listed (function_mem_ofDeclaration function), here⟩
  · have listed := visited _ (mem_types_ofDeclarations.mp ofScope)
    rw [← here]
    exact isVisited_of_type listed ofType

/-- The inside of a block is rooted when its statements are visited. -/
theorem rooted_inBlock {statements : List Statement} (rooted : Rooted all around.scopes)
    (visited : Visit.ofStatements (around.inBlock statements) statements ⊆ all) :
    Rooted all (around.inBlock statements).scopes := by
  refine rooted_ofDeclarations rooted rfl fun declaration listed => ?_
  obtain ⟨statement, ofBlock, same⟩ := List.mem_filterMap.mp listed
  split at same <;> cases same
  have placed : Visit.ofStatement (around.inBlock statements) (.declaration declaration) ⊆ all :=
    List.Subset.trans (ofStatement_subset ofBlock) visited
  rwa [Visit.ofStatement] at placed

/-- The inside of a type is rooted when its members are visited. -/
theorem rooted_inType {decl : TypeDecl} (rooted : Rooted all around.scopes)
    (visited : Visit.ofDeclarations (around.inType decl) decl.members ⊆ all) :
    Rooted all (around.inType decl).scopes :=
  rooted_ofDeclarations rooted rfl fun _ listed =>
    List.Subset.trans (ofDeclaration_subset listed) visited

/-- Being rooted is kept on the way in. -/
theorem invariant_rooted : Invariant all fun around => Rooted all around.scopes where
  inBlock := rooted_inBlock
  inClosure rooted := rooted
  inFunction rooted := rooted
  inType := rooted_inType

/-! ### Builders of closures -/

/-- A closure with the builder that attributes name, as it is given for a parameter. -/
theorem builderClosure?_some (scopes : Scopes) (param : Param) (closure : Closure) :
    CallBinding.builderClosure? scopes param (some closure) =
      (scopes.builderOf? param.attributes).map fun builder =>
        ⟨closure, builder, param.isEscaping⟩ := by
  rw [Scopes.builderOf?]
  show (scopes.builderAttribute? param.attributes).bind _ = _
  cases scopes.builderAttribute? param.attributes <;> rfl

/-- A closure gets the same builder in two places exactly when the attributes of its parameter name
the same builder there. -/
theorem builderClosure?_eq_iff {scopes other : Scopes} {param : Param} {closure : Closure} :
    CallBinding.builderClosure? scopes param (some closure) =
        CallBinding.builderClosure? other param (some closure) ↔
      scopes.AgreesWith other param.attributes := by
  rw [builderClosure?_some, builderClosure?_some, ← Scopes.builderOf?_eq_iff]
  constructor
  · intro same
    refine Option.map_injective ?_ same
    intro builder otherBuilder sameClosure
    exact congrArg BuilderClosure.builder sameClosure
  · intro same
    rw [same]

/-- What a call transforms: closures that are given for parameters of a function that the callee can
mean, if the numbers of arguments and parameters agree and some closure has a builder. -/
theorem mem_bindings_iff {around : Surroundings} {callee : Expr} {args : List Argument}
    {trailing : Option Closure} {binding : CallBinding} :
    binding ∈ bindings around callee args trailing ↔
      (∃ declared, (binding.function, declared) ∈ around.scopes.origins callee) ∧
        (CallBinding.given args trailing).length = binding.function.params.length ∧
        (binding.function.params.zip (CallBinding.given args trailing)).filterMap
            (fun pair => CallBinding.builderClosure? around.scopes pair.1 pair.2) =
          binding.closures ∧
        binding.closures ≠ [] := by
  have candidate : (∃ declared, (binding.function, declared) ∈ around.scopes.origins callee) ↔
      binding.function ∈ around.scopes.candidates callee := by
    rw [← Scopes.map_fst_origins]
    simp
  rw [bindings, List.mem_filter, List.mem_filterMap, candidate]
  constructor
  · rintro ⟨⟨function, listed, bound⟩, nonempty⟩
    unfold CallBinding.ofCall? at bound
    dsimp only at bound
    split at bound
    · rename_i sameLength
      cases bound
      exact ⟨listed, sameLength, rfl, by simpa using nonempty⟩
    · cases bound
  · rintro ⟨listed, sameLength, closures, nonempty⟩
    refine ⟨⟨binding.function, listed, ?_⟩, by simpa using nonempty⟩
    unfold CallBinding.ofCall?
    dsimp only
    rw [if_pos sameLength, closures]

/-- The possibilities for a call when attributes are looked up where the functions are declared. -/
def lexicalBindings (around : Surroundings) (callee : Expr) (args : List Argument)
    (trailing : Option Closure) : List CallBinding :=
  ((around.scopes.origins callee).filterMap fun (function, declared) =>
    CallBinding.ofCall? declared args trailing function).filter (!·.closures.isEmpty)

/-- Where the attributes of all parameters that are given closures name the same builders around the
call as around the functions, the call has the possibilities that it should have. -/
theorem bindings_eq_lexicalBindings {around : Surroundings} {callee : Expr} {args : List Argument}
    {trailing : Option Closure}
    (agrees : ∀ function declared, (function, declared) ∈ around.scopes.origins callee →
      ∀ param closure,
        (param, some closure) ∈ function.params.zip (CallBinding.given args trailing) →
          around.scopes.AgreesWith declared param.attributes) :
    bindings around callee args trailing = lexicalBindings around callee args trailing := by
  have sameCall : ∀ origin ∈ around.scopes.origins callee,
      CallBinding.ofCall? around.scopes args trailing origin.1 =
        CallBinding.ofCall? origin.2 args trailing origin.1 := by
    rintro ⟨function, declared⟩ candidate
    unfold CallBinding.ofCall?
    refine if_congr Iff.rfl (congrArg (fun closures => some (CallBinding.mk function closures)) ?_)
      rfl
    refine List.filterMap_congr ?_
    rintro ⟨param, argument⟩ pair
    cases argument with
    | none => rfl
    | some closure =>
        exact builderClosure?_eq_iff.mpr (agrees function declared candidate param closure pair)
  rw [bindings, lexicalBindings, ← Scopes.map_fst_origins, List.filterMap_map]
  exact congrArg _ (List.filterMap_congr sameCall)

/-- **When closures get the builders that are named where the function is declared.** For a call in
a program and a function that it can mean, the scopes that lead to the function are those around its
declaration. The closures of the call get the builders that their parameters name there, exactly
when the attributes of those parameters name the same builders around the call. -/
theorem closures_lexical_iff {services : Collaborators} {config : Config} {program : Program}
    {around : Surroundings} {callee : Expr} {args : List Argument} {trailing : Option Closure}
    {function : FunctionDecl} {declared : Scopes}
    (visited : .call around callee args trailing ∈ visits services config program)
    (candidate : (function, declared) ∈ around.scopes.origins callee) :
    IsVisited (visits services config program) function declared ∧
      ((∀ param argument,
          (param, argument) ∈ function.params.zip (CallBinding.given args trailing) →
            CallBinding.builderClosure? around.scopes param argument =
              CallBinding.builderClosure? declared param argument) ↔
        ∀ param closure,
          (param, some closure) ∈ function.params.zip (CallBinding.given args trailing) →
            around.scopes.AgreesWith declared param.attributes) := by
  have rooted : Rooted (visits services config program) around.scopes :=
    invariant_rooted.holds_visits trivial _ visited
  refine ⟨isVisited_of_leads rooted (Scopes.leads_of_mem_origins candidate), ?_, ?_⟩
  · intro lexical param closure pair
    exact builderClosure?_eq_iff.mp (lexical param (some closure) pair)
  · intro agrees param argument pair
    cases argument with
    | none => rfl
    | some closure => exact builderClosure?_eq_iff.mpr (agrees param closure pair)

/-! ### A local type between a call and a function -/

/-- A function whose only parameter asks for the builder `B`, as it is read after the type. -/
def buildingFunction : FunctionDecl where
  span := ⟨67, 98⟩
  attributes := []
  isStatic := false
  name := ⟨⟨72, 73⟩, "f"⟩
  generics := [⟨⟨74, 75⟩, ⟨⟨74, 75⟩, "T"⟩, none⟩]
  params := [{
    span := ⟨77, 93⟩
    attributes := [⟨⟨77, 79⟩, "B"⟩]
    label := some ⟨⟨80, 84⟩, "body"⟩
    name := ⟨⟨80, 84⟩, "body"⟩
    type := .function ⟨86, 93⟩ [] (.named ⟨92, 93⟩ "T" [])
    isVariadic := false }]
  result := none
  body := some ⟨⟨95, 98⟩, []⟩

/-- A type without members that is declared in a function. -/
def localType (name : String) : TypeDecl :=
  ⟨⟨112, 124⟩, [], .structType, ⟨⟨119, 120⟩, name⟩, [], []⟩

/-- The closure that the function is called with. -/
def givenClosure : Closure :=
  ⟨⟨129, 134⟩, [], ⟨⟨129, 134⟩, [.expression (.literal ⟨131, 132⟩ (.integer 1))]⟩⟩

/-- What calls the function: a body that first declares a type. -/
def callingStatements (name : String) : List Statement :=
  [.declaration (.type (localType name)),
    .expression (.call ⟨127, 134⟩ (.ident ⟨127, 128⟩ "f") [] (some givenClosure))]

/-- A builder, a function with a closure for the builder, and a call of the function from another
function that declares a type of a name. -/
def callingProgram (name : String) : Program :=
  ⟨[.declaration (.type (DescriptorCache.joiningType .structType)),
    .declaration (.function buildingFunction),
    .declaration (.function {
      span := ⟨99, 136⟩
      attributes := []
      isStatic := false
      name := ⟨⟨104, 105⟩, "g"⟩
      generics := []
      params := []
      result := none
      body := some ⟨⟨108, 136⟩, callingStatements name⟩ })]⟩

/-- What surrounds the call. -/
def callingSurroundings (name : String) : Surroundings :=
  Surroundings.inBlock (.inFunction (.ofProgram .permissive {} (callingProgram name)) [] [])
    (callingStatements name)

/-- What surrounds the function that is called. -/
def declaringScopes (name : String) : Scopes :=
  [.ofStatements (callingProgram name).statements]

/-- A type of another name leaves the closure its builder. -/
theorem closures_lexical_of_other_name :
    IsVisited (visits .permissive {} (callingProgram "C")) buildingFunction
        (declaringScopes "C") ∧
      ∀ param argument,
        (param, argument) ∈
            buildingFunction.params.zip (CallBinding.given [] (some givenClosure)) →
          CallBinding.builderClosure? (callingSurroundings "C").scopes param argument =
            CallBinding.builderClosure? (declaringScopes "C") param argument := by
  have visited : Visit.call (callingSurroundings "C") (.ident ⟨127, 128⟩ "f") []
      (some givenClosure) ∈ visits .permissive {} (callingProgram "C") :=
    List.mem_of_getElem? (i := 3) rfl
  have candidate : (buildingFunction, declaringScopes "C") ∈
      (callingSurroundings "C").scopes.origins (.ident ⟨127, 128⟩ "f") :=
    List.mem_of_getElem? (i := 0) rfl
  obtain ⟨declared, lexical⟩ := closures_lexical_iff visited candidate
  refine ⟨declared, lexical.mpr ?_⟩
  rintro param closure pair
  cases List.mem_singleton.mp pair
  exact ⟨rfl, nofun⟩

/-- **A type of the name of the builder takes the builder from the closure**, although it is not
around the declaration of the function. No body comes of the program. -/
theorem closures_not_lexical_of_same_name :
    Visit.call (callingSurroundings "B") (.ident ⟨127, 128⟩ "f") [] (some givenClosure) ∈
        visits .permissive {} (callingProgram "B") ∧
      (buildingFunction, declaringScopes "B") ∈
        (callingSurroundings "B").scopes.origins (.ident ⟨127, 128⟩ "f") ∧
      (∀ param ∈ buildingFunction.params,
        CallBinding.builderClosure? (declaringScopes "B") param (some givenClosure) =
            some ⟨givenClosure, DescriptorCache.joiningType .structType, false⟩ ∧
          CallBinding.builderClosure? (callingSurroundings "B").scopes param (some givenClosure) =
            none) ∧
      (programWith .permissive {} (callingProgram "B") {}).value = .ok ⟨[], [], {}⟩ := by
  refine ⟨List.mem_of_getElem? (i := 3) rfl, List.mem_of_getElem? (i := 0) rfl, ?_, rfl⟩
  intro param listed
  cases List.mem_singleton.mp listed
  exact ⟨rfl, rfl⟩

end Compile

end ResultBuilder
