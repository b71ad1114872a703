import ResultBuilder.Proofs.Host.Known

/-!
# The results of free functions

A free function is declared by a statement, a method by a type. The host for a program has the
functions that it comes to in one table, whatever declares them, and gives a call of a name the
result that all of them have in common. A call of a free function therefore has the shape that the
free functions of the name tell as long as no method of the name tells another one; the order of the
declarations does not matter.

* **`mem_functions_ofProgram`**: the functions that a host knows are free functions and methods.
* **`Host.SharedResult`**: the result that functions have in common.
* **`Host.typeOf_call_iff`**: when methods leave the shape of a call as it is.
-/

namespace ResultBuilder

open Syntax

variable {program : Program} {node : Node} {declaration : Declaration} {function : FunctionDecl}
  {name : String}

/-! ### Free functions and methods -/

/-- The free function that a node declares. -/
def Syntax.Node.freeFunction? : Node → Option FunctionDecl
  | .statement (.declaration (.function node)) => some node
  | _ => none

theorem Syntax.Node.freeFunction?_eq_some_iff :
    node.freeFunction? = some function ↔ node = .statement (.declaration (.function function)) := by
  constructor
  · intro isFree
    unfold Node.freeFunction? at isFree
    split at isFree <;> cases isFree
    rfl
  · rintro rfl
    rfl

/-- **The free functions of a name** in a program, at any depth, in the order of the source. -/
def Syntax.Program.freeFunctions (program : Program) (name : String) : List FunctionDecl :=
  (program.nodes.filterMap Node.freeFunction?).filter (·.name.text == name)

theorem Syntax.Program.mem_freeFunctions : function ∈ program.freeFunctions name ↔
    (Node.statement (.declaration (.function function))).WithinProgram program ∧
      function.name.text = name := by
  rw [freeFunctions, List.mem_filter, List.mem_filterMap, beq_iff_eq]
  refine and_congr_left fun _ => ?_
  simp only [Node.freeFunction?_eq_some_iff, exists_eq_right, Program.mem_nodes]

/-- **A method of a name** in a program, an initializer included: a function among the members of a
type in an open place. -/
def Syntax.Program.HasMethod (program : Program) (name : String) (method : FunctionDecl) : Prop :=
  ∃ decl, (Node.declaration (.type decl)).OpenInProgram program ∧ method ∈ decl.functions ∧
    method.name.text = name

/-- Declarations stand in statements and among the members of types. -/
theorem parent_of_mem_children (isChild : .declaration declaration ∈ node.children) :
    node = .statement (.declaration declaration) ∨
      ∃ decl, node = .declaration (.type decl) ∧ declaration ∈ decl.members := by
  cases node with
  | statement node =>
      refine .inl ?_
      cases node with
      | declaration node => rw [Node.declaration.inj (List.mem_singleton.mp isChild)]
      | conditional node =>
          obtain ⟨span, conditions, thenBlock, otherwise⟩ := node
          rcases otherwise with - | node | node <;>
            simp [Node.children, Node.ofStatement, Node.ofAlternative] at isChild
      | loop node =>
          obtain ⟨span, form, header, body⟩ := node
          cases form <;> simp [Node.children, Node.ofStatement, Node.ofLoop] at isChild
      | _ => simp [Node.children, Node.ofStatement] at isChild
  | declaration node =>
      cases node with
      | type decl =>
          refine .inr ⟨decl, rfl, ?_⟩
          simpa [Node.children, Node.ofDeclaration] using isChild
      | _ => simp [Node.children, Node.ofDeclaration] at isChild
  | type node => cases node <;> simp [Node.children, Node.ofType] at isChild
  | param node =>
      obtain ⟨span, marks, label, paramName, type, isVariadic⟩ := node
      cases label <;> simp [Node.children, Node.ofParam] at isChild
  | expression node => cases node <;> simp [Node.children, Node.ofExpr] at isChild
  | condition node => cases node <;> simp [Node.children, Node.ofCondition] at isChild
  | switchCase node =>
      obtain ⟨span, label, body⟩ := node
      cases label <;> simp [Node.children, Node.ofLabel] at isChild
  | name | mark | «attribute» | generic | enumCase | pattern | argument | closure | block =>
      simp [Node.children] at isChild

/-- No declaration is passed over. -/
theorem passesOver_declaration (node : Node) :
    node.passesOver (.declaration declaration) = false := by
  unfold Node.passesOver
  split <;> simp_all

/-- What is open in a node is within it. -/
theorem Syntax.Node.OpenIn.within {inner : Node} (isOpen : inner.OpenIn node) :
    inner.Within node := by
  induction isOpen with
  | self => exact .self _
  | child member _ _ ih => exact .child member ih

theorem Syntax.Node.OpenIn.trans {inner middle outer : Node} (first : inner.OpenIn middle)
    (second : middle.OpenIn outer) : inner.OpenIn outer := by
  induction second with
  | self => exact first
  | child member entered _ ih => exact .child member entered ih

/-- A host comes from a node to the declarations among its children. -/
theorem openIn_of_mem_children (isChild : .declaration declaration ∈ node.children) :
    (Node.declaration declaration).OpenIn node :=
  .child isChild (passesOver_declaration node) (.self _)

/-- **An open declaration** stands in an open statement or among the members of an open type. -/
theorem openInProgram_declaration_iff : (Node.declaration declaration).OpenInProgram program ↔
    (Node.statement (.declaration declaration)).OpenInProgram program ∨
      ∃ decl, (Node.declaration (.type decl)).OpenInProgram program ∧
        declaration ∈ decl.members := by
  constructor
  · rintro ⟨statement, member, isOpen⟩
    have parent {node : Node} (isOpen : (Node.declaration declaration).OpenIn node) :
        node = .declaration declaration ∨
          (Node.statement (.declaration declaration)).OpenIn node ∨
          ∃ decl, (Node.declaration (.type decl)).OpenIn node ∧ declaration ∈ decl.members := by
      induction isOpen with
      | self => exact .inl rfl
      | child isChild entered _ ih =>
          refine .inr ?_
          rcases ih with rfl | free | ⟨decl, ofType, isMember⟩
          · rcases parent_of_mem_children isChild with rfl | ⟨decl, rfl, isMember⟩
            · exact .inl (.self _)
            · exact .inr ⟨decl, .self _, isMember⟩
          · exact .inl (.child isChild entered free)
          · exact .inr ⟨decl, .child isChild entered ofType, isMember⟩
    rcases parent isOpen with same | free | ⟨decl, ofType, isMember⟩
    · cases same
    · exact .inl ⟨statement, member, free⟩
    · exact .inr ⟨decl, ⟨statement, member, ofType⟩, isMember⟩
  · rintro (⟨statement, member, free⟩ | ⟨decl, ⟨statement, member, ofType⟩, isMember⟩)
    · exact ⟨statement, member, (openIn_of_mem_children (List.mem_singleton_self _)).trans free⟩
    · exact ⟨statement, member, (openIn_of_mem_children (by
        simpa [Node.children, Node.ofDeclaration] using isMember)).trans ofType⟩

/-- **The functions that a host knows** are the free functions and the methods of a program that
stand in open places. -/
theorem mem_functions_ofProgram : function ∈ (Host.ofProgram program).functions ↔
    (Node.statement (.declaration (.function function))).OpenInProgram program ∨
      program.HasMethod function.name.text function := by
  rw [Host.ofProgram, Host.mem_functions_ofDeclarations, mem_allKnown_iff,
    openInProgram_declaration_iff]
  simp [Node.asDeclaration?, Program.HasMethod, TypeDecl.mem_functions]

namespace Host

/-- Methods are members of declared types. -/
theorem exists_type_of_hasMethod (isMethod : program.HasMethod name function) :
    ∃ decl, .type decl ∈ program.declarations ∧ function ∈ decl.functions := by
  obtain ⟨decl, isOpen, isMember, -⟩ := isMethod
  have isKnown := mem_allKnown_iff.mpr ⟨rfl, isOpen⟩
  exact ⟨decl, (allKnown_sublist_declarations program).subset isKnown, isMember⟩

/-! ### Results in common -/

section Shared

variable {functions part : List FunctionDecl} {shape other : Shape}

/-- **The result that functions have in common**: the one that all of them declare, or an unknown one
where two of them disagree. -/
inductive SharedResult (functions : List FunctionDecl) : Shape → Prop
  | agreed {shape : Shape} (nonempty : functions ≠ [])
      (all : ∀ function ∈ functions, resultShape function = shape) : SharedResult functions shape
  | disagreed {first second : FunctionDecl} (isFirst : first ∈ functions)
      (isSecond : second ∈ functions) (differ : resultShape first ≠ resultShape second) :
      SharedResult functions .hole

/-- Some functions have one result in common. -/
theorem SharedResult.unique (left : SharedResult functions shape)
    (right : SharedResult functions other) : shape = other := by
  cases left with
  | agreed nonempty all =>
      cases right with
      | agreed _ allToo =>
          obtain ⟨function, listed⟩ := List.exists_mem_of_ne_nil _ nonempty
          exact (all function listed).symm.trans (allToo function listed)
      | disagreed isFirst isSecond differ =>
          exact absurd ((all _ isFirst).trans (all _ isSecond).symm) differ
  | disagreed isFirst isSecond differ =>
      cases right with
      | agreed _ all => exact absurd ((all _ isFirst).trans (all _ isSecond).symm) differ
      | disagreed => rfl

theorem SharedResult.exists (nonempty : functions ≠ []) : ∃ shape, SharedResult functions shape := by
  obtain ⟨first, isFirst⟩ := List.exists_mem_of_ne_nil _ nonempty
  by_cases agree : ∀ function ∈ functions, resultShape function = resultShape first
  · exact ⟨_, .agreed nonempty agree⟩
  · push Not at agree
    obtain ⟨second, isSecond, differ⟩ := agree
    exact ⟨_, .disagreed isSecond isFirst differ⟩

/-- What functions have in common depends on their results only, and not on their order. -/
theorem SharedResult.perm {others : List FunctionDecl} (shared : SharedResult functions shape)
    (same : (others.map resultShape).Perm (functions.map resultShape)) :
    SharedResult others shape := by
  cases shared with
  | agreed nonempty all =>
      refine .agreed (fun none => nonempty ?_) fun function listed => ?_
      · rw [none] at same
        exact List.map_eq_nil_iff.mp same.nil_eq.symm
      · obtain ⟨twin, isTwin, sameResult⟩ :=
          List.mem_map.mp (same.subset (List.mem_map_of_mem listed))
        exact sameResult.symm.trans (all twin isTwin)
  | @disagreed first second isFirst isSecond differ =>
      obtain ⟨firstTwin, isFirstTwin, sameFirst⟩ :=
        List.mem_map.mp (same.symm.subset (List.mem_map_of_mem isFirst))
      obtain ⟨secondTwin, isSecondTwin, sameSecond⟩ :=
        List.mem_map.mp (same.symm.subset (List.mem_map_of_mem isSecond))
      refine .disagreed isFirstTwin isSecondTwin ?_
      rwa [sameFirst, sameSecond]

/-- **More functions leave the result in common as it is** when it is unknown anyway or all that are
added declare it too. -/
theorem SharedResult.eq_iff {Added : FunctionDecl → Prop}
    (mem : ∀ function, function ∈ functions ↔ function ∈ part ∨ Added function)
    (shared : SharedResult functions shape) (ofPart : SharedResult part other) :
    shape = other ↔ other = .hole ∨ ∀ function, Added function → resultShape function = other := by
  constructor
  · rintro rfl
    cases shared with
    | agreed nonempty all => exact .inr fun function added => all function ((mem _).mpr (.inr added))
    | disagreed => exact .inl rfl
  · intro spared
    cases ofPart with
    | disagreed isFirst isSecond differ =>
        exact shared.unique (.disagreed ((mem _).mpr (.inl isFirst)) ((mem _).mpr (.inl isSecond))
          differ)
    | agreed nonempty all =>
        obtain ⟨function, listed⟩ := List.exists_mem_of_ne_nil _ nonempty
        have isKnown := (mem function).mpr (.inl listed)
        rcases spared with rfl | spared
        · cases shared with
          | agreed _ allToo => exact (allToo function isKnown).symm.trans (all function listed)
          | disagreed => rfl
        · refine shared.unique (.agreed (List.ne_nil_of_mem isKnown) fun other isOther => ?_)
          exact ((mem other).mp isOther).elim (all other) (spared other)

end Shared

/-- **A host looks up the result in common** of the functions of a name that it knows. -/
theorem sharedResult_functionResult? {host : Host}
    (nonempty : host.functions.filter (·.name.text == name) ≠ []) :
    SharedResult (host.functions.filter (·.name.text == name))
      ((host.functionResult? name).getD .hole) := by
  unfold functionResult?
  cases named : host.functions.filter (·.name.text == name) with
  | nil => exact absurd named nonempty
  | cons first rest =>
      simp only [List.map_cons]
      by_cases agree : ∀ function ∈ rest, resultShape function = resultShape first
      · have all : (rest.map resultShape).all (· == resultShape first) = true := by
          simpa using agree
        rw [if_pos all]
        exact .agreed (List.cons_ne_nil _ _) (List.forall_mem_cons.mpr ⟨rfl, agree⟩)
      · have all : ¬ (rest.map resultShape).all (· == resultShape first) = true := by
          simpa using agree
        rw [if_neg all]
        push Not at agree
        obtain ⟨second, isSecond, differ⟩ := agree
        exact .disagreed (List.mem_cons_of_mem _ isSecond) List.mem_cons_self differ

/-! ### Calls of free functions -/

/-- **A program in which a name is that of free functions** and of no type. A host comes to all of
them. -/
structure NamesFunctions (program : Program) (name : String) : Prop where
  declared : program.freeFunctions name ≠ []
  noType : ∀ decl, .type decl ∈ program.declarations → decl.name.text ≠ name
  noEnum : ∀ decl, .enum decl ∈ program.declarations → decl.name.text ≠ name
  isOpen : ∀ function ∈ program.freeFunctions name,
    (Node.statement (.declaration (.function function))).OpenInProgram program

/-- **A call of a name.** -/
inductive Calls (name : String) : Expr → Prop
  | call (span place : Span) (args : List Argument) (trailing : Option Closure) :
      Calls name (.call span (.ident place name) args trailing)

/-- **Methods that do not tell another result** of a name: the result is unknown without them, or all
methods of the name have it too. -/
def Undisturbed (program : Program) (name : String) (shape : Shape) : Prop :=
  shape = .hole ∨ ∀ method, program.HasMethod name method → resultShape method = shape

section Calls

variable {call : Expr} {shape : Shape}

/-- A call of a name of functions has the result that the functions have in common that the host
knows, the methods included. -/
theorem sharedResult_typeOf (names : NamesFunctions program name) (isCall : Calls name call) :
    SharedResult ((ofProgram program).functions.filter (·.name.text == name))
      ((ofProgram program).typeOf call) := by
  have noType : (ofProgram program).type? name = none := by
    refine List.find?_eq_none.mpr fun decl isKnown named => ?_
    refine names.noType decl ?_ (beq_iff_eq.mp named)
    exact (allKnown_sublist_declarations program).subset (mem_types_ofDeclarations.mp isKnown)
  have noEnum : (ofProgram program).enum? name = none := by
    refine List.find?_eq_none.mpr fun decl isKnown named => ?_
    refine names.noEnum decl ?_ (beq_iff_eq.mp named)
    exact (allKnown_sublist_declarations program).subset (mem_enums_ofDeclarations.mp isKnown)
  have looksUp : (ofProgram program).typeOf call =
      ((ofProgram program).functionResult? name).getD .hole := by
    obtain ⟨span, place, args, trailing⟩ := isCall
    simp [typeOf, callShape, namedCallShape, noType, noEnum]
  rw [looksUp]
  refine sharedResult_functionResult? ?_
  obtain ⟨function, isFree⟩ := List.exists_mem_of_ne_nil _ names.declared
  have isKnown := mem_functions_ofProgram.mpr (.inl (names.isOpen function isFree))
  have named : (function.name.text == name) = true :=
    beq_iff_eq.mpr (Program.mem_freeFunctions.mp isFree).2
  exact List.ne_nil_of_mem (List.mem_filter.mpr ⟨isKnown, named⟩)

/-- **A call has the result that the free functions have in common** exactly when the methods do not
disturb it. -/
theorem typeOf_eq_iff (names : NamesFunctions program name) (isCall : Calls name call)
    (shared : SharedResult (program.freeFunctions name) shape) :
    (ofProgram program).typeOf call = shape ↔ Undisturbed program name shape := by
  refine (sharedResult_typeOf names isCall).eq_iff (fun function => ?_) shared
  rw [List.mem_filter, mem_functions_ofProgram, beq_iff_eq]
  constructor
  · rintro ⟨⟨statement, member, isOpen⟩ | isMethod, rfl⟩
    · exact .inl (Program.mem_freeFunctions.mpr ⟨⟨statement, member, isOpen.within⟩, rfl⟩)
    · exact .inr isMethod
  · rintro (isFree | isMethod)
    · exact ⟨.inl (names.isOpen function isFree), (Program.mem_freeFunctions.mp isFree).2⟩
    · obtain ⟨decl, isOpen, isMember, rfl⟩ := isMethod
      exact ⟨.inr ⟨decl, isOpen, isMember, rfl⟩, rfl⟩

/-- **When methods leave the calls of a free function as they are.** The free functions of a name have
a result in common, whatever their order: the one that all of them declare, or an unknown one. A call
of the name has this shape exactly when no method tells another one. Between two programs whose free
functions have the same results, one of them without such methods, the shapes of the calls are the
same exactly when the other one is without them too. -/
theorem typeOf_call_iff {extended : Program} (names : NamesFunctions program name)
    (namesToo : NamesFunctions extended name)
    (sameResults : ((extended.freeFunctions name).map resultShape).Perm
      ((program.freeFunctions name).map resultShape)) :
    ∃ shape, SharedResult (program.freeFunctions name) shape ∧
      (∀ context call, Calls name call →
        ((ofProgram program).collaborators.typeOf context call = shape ↔
          Undisturbed program name shape)) ∧
      (Undisturbed program name shape → ∀ context call contextToo callToo,
        Calls name call → Calls name callToo →
          ((ofProgram extended).collaborators.typeOf contextToo callToo =
              (ofProgram program).collaborators.typeOf context call ↔
            Undisturbed extended name shape)) := by
  obtain ⟨shape, shared⟩ := SharedResult.exists names.declared
  refine ⟨shape, shared, fun _ call isCall => typeOf_eq_iff names isCall shared, ?_⟩
  intro undisturbed _ call _ callToo isCall isCallToo
  have same : (ofProgram program).typeOf call = shape :=
    (typeOf_eq_iff names isCall shared).mpr undisturbed
  change (ofProgram extended).typeOf callToo = (ofProgram program).typeOf call ↔ _
  rw [same]
  exact typeOf_eq_iff namesToo isCallToo (shared.perm sameResults)

/-- A function with an integer as its result. -/
def countingFunction : FunctionDecl :=
  ⟨⟨0, 21⟩, [], false, ⟨⟨5, 6⟩, "f"⟩, [], [], some (.named ⟨12, 15⟩ "Int" []),
    some ⟨⟨16, 21⟩, [.expression (.literal ⟨18, 19⟩ (.integer 1))]⟩⟩

/-- A call of it. -/
def countingCall : Expr :=
  .call ⟨22, 25⟩ (.ident ⟨22, 23⟩ "f") [] none

/-- A struct with some members behind the call. -/
def memberStruct (stop : Nat) (members : List Declaration) : TypeDecl :=
  ⟨⟨26, stop⟩, [], .structType, ⟨⟨33, 34⟩, "S"⟩, [], members⟩

/-- The function, the call and the struct. -/
def countingProgram (stop : Nat) (members : List Declaration) : Program where
  statements := [.declaration (.function countingFunction), .expression countingCall,
    .declaration (.type (memberStruct stop members))]

/-- A static method of the name of the function, which has an integer as its result too. -/
def countingMethod : FunctionDecl :=
  ⟨⟨37, 60⟩, [], true, ⟨⟨49, 50⟩, "f"⟩, [], [], some (.named ⟨56, 59⟩ "Int" []), none⟩

/-- What the program declares, and its free functions, without a method and with it. -/
theorem declarations_countingProgram :
    ((countingProgram 38 []).declarations =
        [.function countingFunction, .type (memberStruct 38 [])] ∧
      (countingProgram 38 []).freeFunctions "f" = [countingFunction]) ∧
    (countingProgram 62 [.function countingMethod]).declarations =
        [.function countingFunction, .type (memberStruct 62 [.function countingMethod]),
          .function countingMethod] ∧
      (countingProgram 62 [.function countingMethod]).freeFunctions "f" = [countingFunction] := by
  refine ⟨⟨?_, ?_⟩, ?_, ?_⟩ <;>
  · simp only [Program.declarations, Program.freeFunctions, Program.nodes, countingProgram,
      countingFunction, countingMethod, countingCall, memberStruct, Node.nodes_eq, Node.children,
      Node.ofStatement, Node.ofDeclaration, Node.ofExpr, Node.ofType, Option.toList, List.map_cons,
      List.map_nil, List.flatMap_cons, List.flatMap_nil, List.cons_append, List.nil_append]
    rfl

/-- A static method with the result of the function leaves the call as it is. -/
theorem typeOf_call_countingMethod :
    (NamesFunctions (countingProgram 38 []) "f" ∧
        NamesFunctions (countingProgram 62 [.function countingMethod]) "f" ∧
        Calls "f" countingCall) ∧
      ∀ context, (ofProgram (countingProgram 62 [.function countingMethod])).collaborators.typeOf
          context countingCall =
        (ofProgram (countingProgram 38 [])).collaborators.typeOf context countingCall := by
  obtain ⟨⟨declared, free⟩, declaredToo, freeToo⟩ := declarations_countingProgram
  have isOpen (stop : Nat) (members : List Declaration) :
      (Node.statement (.declaration (.function countingFunction))).OpenInProgram
        (countingProgram stop members) :=
    ⟨_, List.mem_cons_self, .self _⟩
  have names : NamesFunctions (countingProgram 38 []) "f" := by
    refine ⟨by simp [free], ?_, ?_, by simp [free, isOpen]⟩ <;> simp [declared, memberStruct]
  have namesToo : NamesFunctions (countingProgram 62 [.function countingMethod]) "f" := by
    refine ⟨by simp [freeToo], ?_, ?_, by simp [freeToo, isOpen]⟩ <;>
      simp [declaredToo, memberStruct]
  have isCall : Calls "f" countingCall := .call _ _ _ _
  obtain ⟨shape, shared, -, same⟩ := typeOf_call_iff names namesToo (by rw [free, freeToo])
  have isInt : SharedResult ((countingProgram 38 []).freeFunctions "f") (.named "Int" []) := by
    rw [free]
    exact .agreed (List.cons_ne_nil _ _) (List.forall_mem_singleton.mpr rfl)
  obtain rfl := shared.unique isInt
  refine ⟨⟨names, namesToo, isCall⟩, fun context => ?_⟩
  refine (same (.inr fun method isMethod => ?_) context _ context _ isCall isCall).mpr
    (.inr fun method isMethod => ?_)
  · obtain ⟨decl, ofType, isMember⟩ := exists_type_of_hasMethod isMethod
    have isStruct : decl = memberStruct 38 [] := by simpa [declared] using ofType
    subst isStruct
    cases isMember
  · obtain ⟨decl, ofType, isMember⟩ := exists_type_of_hasMethod isMethod
    have isStruct : decl = memberStruct 62 [.function countingMethod] := by
      simpa [declaredToo] using ofType
    subst isStruct
    rw [List.mem_singleton.mp isMember]
    rfl

/-- A method of the name of the function with another result. -/
def labellingMethod : FunctionDecl :=
  ⟨⟨37, 63⟩, [], false, ⟨⟨42, 43⟩, "f"⟩, [], [], some (.named ⟨49, 55⟩ "String" []),
    some ⟨⟨56, 63⟩, [.expression (.literal ⟨58, 61⟩ (.string "s"))]⟩⟩

/-- **A method that disturbs a call**: once the method is among the members of the struct, the shape
of the call of the free function is unknown. -/
theorem typeOf_call_labellingMethod :
    parse "func f() -> Int \x7b 1 \x7d\nf()\nstruct S \x7b \x7d" = .ok (countingProgram 38 []) ∧
      parse "func f() -> Int \x7b 1 \x7d\nf()\nstruct S \x7b func f() -> String \x7b \"s\" \x7d \x7d" =
        .ok (countingProgram 65 [.function labellingMethod]) ∧
      ∀ context, (ofProgram (countingProgram 38 [])).collaborators.typeOf context countingCall =
          .named "Int" [] ∧
        (ofProgram (countingProgram 65 [.function labellingMethod])).collaborators.typeOf context
          countingCall = .hole := by
  have cut : tokenize "func f() -> Int \x7b 1 \x7d\nf()\nstruct S \x7b \x7d" =
      .ok [⟨.keyword .func_, ⟨0, 4⟩, "func", false⟩, ⟨.identifier, ⟨5, 6⟩, "f", false⟩,
        ⟨.symbol .parenOpen, ⟨6, 7⟩, "(", false⟩, ⟨.symbol .parenClose, ⟨7, 8⟩, ")", false⟩,
        ⟨.symbol .arrow, ⟨9, 11⟩, "->", false⟩, ⟨.identifier, ⟨12, 15⟩, "Int", false⟩,
        ⟨.symbol .braceOpen, ⟨16, 17⟩, "\x7b", false⟩, ⟨.integer, ⟨18, 19⟩, "1", false⟩,
        ⟨.symbol .braceClose, ⟨20, 21⟩, "\x7d", false⟩, ⟨.identifier, ⟨22, 23⟩, "f", true⟩,
        ⟨.symbol .parenOpen, ⟨23, 24⟩, "(", false⟩, ⟨.symbol .parenClose, ⟨24, 25⟩, ")", false⟩,
        ⟨.keyword .struct_, ⟨26, 32⟩, "struct", true⟩, ⟨.identifier, ⟨33, 34⟩, "S", false⟩,
        ⟨.symbol .braceOpen, ⟨35, 36⟩, "\x7b", false⟩,
        ⟨.symbol .braceClose, ⟨37, 38⟩, "\x7d", false⟩, ⟨.endOfFile, ⟨38, 38⟩, "", false⟩] := by
    decide +kernel
  have cutToo : tokenize
      "func f() -> Int \x7b 1 \x7d\nf()\nstruct S \x7b func f() -> String \x7b \"s\" \x7d \x7d" =
      .ok [⟨.keyword .func_, ⟨0, 4⟩, "func", false⟩, ⟨.identifier, ⟨5, 6⟩, "f", false⟩,
        ⟨.symbol .parenOpen, ⟨6, 7⟩, "(", false⟩, ⟨.symbol .parenClose, ⟨7, 8⟩, ")", false⟩,
        ⟨.symbol .arrow, ⟨9, 11⟩, "->", false⟩, ⟨.identifier, ⟨12, 15⟩, "Int", false⟩,
        ⟨.symbol .braceOpen, ⟨16, 17⟩, "\x7b", false⟩, ⟨.integer, ⟨18, 19⟩, "1", false⟩,
        ⟨.symbol .braceClose, ⟨20, 21⟩, "\x7d", false⟩, ⟨.identifier, ⟨22, 23⟩, "f", true⟩,
        ⟨.symbol .parenOpen, ⟨23, 24⟩, "(", false⟩, ⟨.symbol .parenClose, ⟨24, 25⟩, ")", false⟩,
        ⟨.keyword .struct_, ⟨26, 32⟩, "struct", true⟩, ⟨.identifier, ⟨33, 34⟩, "S", false⟩,
        ⟨.symbol .braceOpen, ⟨35, 36⟩, "\x7b", false⟩, ⟨.keyword .func_, ⟨37, 41⟩, "func", false⟩,
        ⟨.identifier, ⟨42, 43⟩, "f", false⟩, ⟨.symbol .parenOpen, ⟨43, 44⟩, "(", false⟩,
        ⟨.symbol .parenClose, ⟨44, 45⟩, ")", false⟩, ⟨.symbol .arrow, ⟨46, 48⟩, "->", false⟩,
        ⟨.identifier, ⟨49, 55⟩, "String", false⟩, ⟨.symbol .braceOpen, ⟨56, 57⟩, "\x7b", false⟩,
        ⟨.string, ⟨58, 61⟩, "s", false⟩, ⟨.symbol .braceClose, ⟨62, 63⟩, "\x7d", false⟩,
        ⟨.symbol .braceClose, ⟨64, 65⟩, "\x7d", false⟩, ⟨.endOfFile, ⟨65, 65⟩, "", false⟩] := by
    decide +kernel
  refine ⟨parse_of_ofTokens cut rfl, parse_of_ofTokens cutToo rfl, fun context => ⟨?_, ?_⟩⟩
  · rfl
  · rfl

end Calls

end Host

end ResultBuilder
