import ResultBuilder.Host
import ResultBuilder.Proofs.Diagnostic.About

/-!
# What a host answers

A host is asked about nodes of the program whose declarations it knows. Its diagnostics point at
these nodes, at parts of them and at declarations, and so at usable places.

* **`within_of_mem_known`**, **`Host.Knows`**: what a host knows is declared in the program.
* **`mem_nodeCaptures`**, **`complains_of_mem_nodeUses`**: which parts of an expression are complained about.
* **`isAbout_checkExhaustive`** and its like: the diagnostics of each check.
-/

namespace ResultBuilder

open Syntax

/-! ### What a host knows -/

/-- The declarations that a node makes known. -/
def Syntax.Node.known : Node → List Declaration
  | .statement node => node.known
  | .block node => node.known
  | .declaration node => node.known
  | _ => []

theorem allKnown_eq_flatMap (statements : List Statement) :
    Statement.allKnown statements = statements.flatMap (·.known) := by
  induction statements with
  | nil => rfl
  | cons first rest ih => rw [Statement.allKnown, ih, List.flatMap_cons]

theorem allKnownDeclarations_eq_flatMap (declarations : List Declaration) :
    Declaration.allKnown declarations = declarations.flatMap (·.known) := by
  induction declarations with
  | nil => rfl
  | cons first rest ih => rw [Declaration.allKnown, ih, List.flatMap_cons]

/-- **What a node makes known is declared within it.** -/
theorem within_of_mem_known {node : Node} {declaration : Declaration}
    (known : declaration ∈ node.known) : (Node.declaration declaration).Within node := by
  induction node using Node.induction with
  | step node ih =>
      -- what a child makes known is within the child
      have ofChild {child : Node} (isChild : child ∈ node.children)
          (known : declaration ∈ child.known) : (Node.declaration declaration).Within node :=
        .child isChild (ih child isChild known)
      cases node with
      | statement node =>
          cases node with
          | declaration node => exact ofChild (List.mem_singleton_self _) known
          | doBlock span body => exact ofChild (List.mem_singleton_self _) known
          | conditional node =>
              obtain ⟨span, conditions, thenBlock, otherwise⟩ := node
              have isThen : Node.block thenBlock ∈ (Node.statement
                  (.conditional ⟨span, conditions, thenBlock, otherwise⟩)).children :=
                List.mem_append_right _ List.mem_cons_self
              match otherwise, known with
              | none, known => exact ofChild isThen known
              | some (.chained node), known => exact ofChild isThen known
              | some (.block node), known =>
                  rcases List.mem_append.mp known with known | known
                  · exact ofChild isThen known
                  · exact ofChild (List.mem_append_right _
                      (List.mem_cons_of_mem _ (List.mem_singleton_self _))) known
          | _ => cases known
      | block node =>
          obtain ⟨span, statements⟩ := node
          change declaration ∈ Statement.allKnown statements at known
          rw [allKnown_eq_flatMap] at known
          obtain ⟨statement, member, known⟩ := List.mem_flatMap.mp known
          exact ofChild (List.mem_map_of_mem member) known
      | declaration node =>
          cases node with
          | type node =>
              obtain ⟨span, marks, kind, name, generics, members⟩ := node
              rcases List.mem_cons.mp known with rfl | known
              · exact .self _
              · rw [allKnownDeclarations_eq_flatMap] at known
                obtain ⟨inner, member, known⟩ := List.mem_flatMap.mp known
                exact ofChild (List.mem_append_right _ (List.mem_cons_of_mem _
                  (List.mem_append_right _ (List.mem_map_of_mem member)))) known
          | enum node =>
              rw [List.mem_singleton.mp known]
              exact .self _
          | function node =>
              obtain ⟨span, marks, isStatic, name, generics, params, result, body⟩ := node
              cases body with
              | none =>
                  rw [List.mem_singleton.mp known]
                  exact .self _
              | some body =>
                  rcases List.mem_cons.mp known with rfl | known
                  · exact .self _
                  · exact ofChild (List.mem_append_right _ (List.mem_cons_of_mem _
                      (List.mem_append_right _ (List.mem_append_right _ (List.mem_append_right _
                        (List.mem_singleton_self _)))))) known
          | «variable» node =>
              obtain ⟨span, marks, isMutable, name, type, value, body⟩ := node
              cases body with
              | none => cases known
              | some body =>
                  exact ofChild (List.mem_append_right _ (List.mem_cons_of_mem _
                    (List.mem_append_right _ (List.mem_append_right _
                      (List.mem_singleton_self _))))) known
      | _ => cases known

/-- **A host that knows declarations of a program.** -/
structure Host.Knows (program : Program) (host : Host) : Prop where
  types : ∀ decl ∈ host.types, (Node.declaration (.type decl)).WithinProgram program
  enums : ∀ decl ∈ host.enums, (Node.declaration (.enum decl)).WithinProgram program

/-- The host for a program knows its declarations. -/
theorem Host.knows_ofProgram (program : Program) : (Host.ofProgram program).Knows program := by
  have within {declaration : Declaration}
      (known : declaration ∈ Statement.allKnown program.statements) :
      (Node.declaration declaration).WithinProgram program := by
    rw [allKnown_eq_flatMap] at known
    obtain ⟨statement, member, known⟩ := List.mem_flatMap.mp known
    exact ⟨statement, member, within_of_mem_known known⟩
  constructor
  · intro decl member
    obtain ⟨declaration, known, same⟩ := List.mem_filterMap.mp member
    split at same <;> cases same
    exact within known
  · intro decl member
    obtain ⟨declaration, known, same⟩ := List.mem_filterMap.mp member
    split at same <;> cases same
    exact within known

namespace Host

variable {source : List Char} {program : Program} {host : Host} {context : BodyContext}
  {diagnostic : Diagnostic} {expr : Expr}

/-! ### Captures -/

section Captures

variable {members : List String}

theorem argumentCaptures_eq_flatMap (args : List Argument) :
    argumentCaptures members context args = args.flatMap (captures members context ·.value) := by
  induction args with
  | nil => rfl
  | cons first rest ih =>
      obtain ⟨span, label, value⟩ := first
      rw [argumentCaptures, ih, List.flatMap_cons]

theorem allCaptures_eq_flatMap (expressions : List Expr) :
    allCaptures members context expressions = expressions.flatMap (captures members context) := by
  induction expressions with
  | nil => rfl
  | cons first rest ih => rw [allCaptures, ih, List.flatMap_cons]

/-- The captures in a node: an expression or an argument. -/
def nodeCaptures (members : List String) (context : BodyContext) : Node → List Diagnostic
  | .expression node => captures members context node
  | .argument node => captures members context node.value
  | _ => []

/-- **What is captured is named** within the node. -/
theorem mem_nodeCaptures (node : Node) (found : diagnostic ∈ nodeCaptures members context node) :
    ∃ place name, (Node.expression (.ident place name)).Within node ∧
      diagnostic = captureDiagnostic context place name := by
  induction node using Node.induction with
  | step node ih =>
      have ofChild {child : Node} (isChild : child ∈ node.children)
          (found : diagnostic ∈ nodeCaptures members context child) :
          ∃ place name, (Node.expression (.ident place name)).Within node ∧
            diagnostic = captureDiagnostic context place name := by
        obtain ⟨place, name, within, same⟩ := ih child isChild found
        exact ⟨place, name, .child isChild within, same⟩
      cases node with
      | argument node => exact ofChild (List.mem_append_right _ (List.mem_singleton_self _)) found
      | expression node =>
          have ofArguments {args : List Argument} (areChildren : args.map .argument ⊆
              (Node.expression node).children)
              (found : diagnostic ∈ argumentCaptures members context args) :
              ∃ place name, (Node.expression (.ident place name)).Within (.expression node) ∧
                diagnostic = captureDiagnostic context place name := by
            rw [argumentCaptures_eq_flatMap] at found
            obtain ⟨arg, member, found⟩ := List.mem_flatMap.mp found
            exact ofChild (areChildren (List.mem_map_of_mem member)) found
          cases node with
          | literal | implicitMember | closure => cases found
          | ident place name =>
              simp only [nodeCaptures, captures] at found
              split at found
              · exact ⟨place, name, .self _, List.mem_singleton.mp found⟩
              · cases found
          | member span base label => exact ofChild List.mem_cons_self found
          | call span callee args trailing =>
              rcases List.mem_append.mp found with found | found
              · exact ofChild List.mem_cons_self found
              · exact ofArguments (fun _ member => List.mem_append_left _
                  (List.mem_cons_of_mem _ member)) found
          | subscript span base args =>
              rcases List.mem_append.mp found with found | found
              · exact ofChild List.mem_cons_self found
              · exact ofArguments (fun _ member => List.mem_cons_of_mem _ member) found
          | tuple span elements => exact ofArguments (fun _ member => member) found
          | array span elements =>
              simp only [nodeCaptures, captures, allCaptures_eq_flatMap] at found
              obtain ⟨element, member, found⟩ := List.mem_flatMap.mp found
              exact ofChild (List.mem_map_of_mem member) found
          | paren | unary | postfixed => exact ofChild (List.mem_singleton_self _) found
          | binary span left op right =>
              rcases List.mem_append.mp found with found | found
              · exact ofChild List.mem_cons_self found
              · exact ofChild (List.mem_cons_of_mem _ (List.mem_singleton_self _)) found
          | assign span target sign value =>
              rcases List.mem_append.mp found with found | found
              · exact ofChild List.mem_cons_self found
              · exact ofChild (List.mem_cons_of_mem _ (List.mem_cons_of_mem _
                  (List.mem_singleton_self _))) found
          | ternary span condition thenValue elseValue =>
              rcases List.mem_append.mp found with found | found
              · rcases List.mem_append.mp found with found | found
                · exact ofChild List.mem_cons_self found
                · exact ofChild (List.mem_cons_of_mem _ List.mem_cons_self) found
              · exact ofChild (List.mem_cons_of_mem _ (List.mem_cons_of_mem _
                  (List.mem_singleton_self _))) found
      | _ => cases found

end Captures

/-- **Captures are reported at usable places** within a closure whose opening brace is where its
body starts. -/
theorem isAbout_checkCaptures (sound : program.IsSound source)
    (inside : (Node.expression expr).WithinProgram program)
    (opens : context.isEscaping = true → StandsAt source '{' context.span.start)
    (found : diagnostic ∈ checkCaptures context expr) : diagnostic.IsAbout source program := by
  unfold checkCaptures at found
  split at found
  case h_2 => cases found
  case h_1 object isObject =>
    split at found
    case isFalse => cases found
    case isTrue escapes =>
      simp only [Bool.and_eq_true] at escapes
      obtain ⟨place, name, within, rfl⟩ := mem_nodeCaptures (.expression expr) found
      have usable : place.IsUsable source := (inside.within within).isUsable sound
      -- the opening brace takes one byte
      have opening : (Span.mk context.span.start (context.span.start + 1)).IsUsable source := by
        obtain ⟨front, back, rfl, length⟩ := opens escapes.1
        refine Span.isUsable_of_boundaries (Nat.le_succ _) ⟨front, _, rfl, length⟩
          ⟨front ++ ['{'], back, by simp, ?_⟩
        rw [Source.utf8Length_append, length]
        rfl
      refine Diagnostic.IsUsable.isAbout .implicitSelfCapture
        ⟨List.forall_mem_singleton.mpr usable,
          List.forall_mem_cons.mpr ⟨?_, List.forall_mem_singleton.mpr ?_⟩⟩ rfl nofun
      · exact FixIt.isUsable_of_edit usable usable.pointStart
      · exact FixIt.isUsable_of_edit opening opening.pointStop

/-! ### Uses -/

section Uses

theorem argumentUses_eq_flatMap (args : List Argument) :
    argumentUses host context args = args.flatMap fun arg =>
      host.typeAsValue context arg.value ++ uses host context arg.value := by
  induction args with
  | nil => rfl
  | cons first rest ih =>
      obtain ⟨span, label, value⟩ := first
      rw [argumentUses, ih, List.flatMap_cons]

theorem elementUses_eq_flatMap (args : List Argument) :
    elementUses host context args = args.flatMap (uses host context ·.value) := by
  induction args with
  | nil => rfl
  | cons first rest ih =>
      obtain ⟨span, label, value⟩ := first
      rw [elementUses, ih, List.flatMap_cons]

theorem allUses_eq_flatMap (expressions : List Expr) :
    allUses host context expressions = expressions.flatMap (uses host context) := by
  induction expressions with
  | nil => rfl
  | cons first rest ih => rw [allUses, ih, List.flatMap_cons]

/-- The improper uses in a node: an expression or an argument. -/
def nodeUses (host : Host) (context : BodyContext) : Node → List Diagnostic
  | .expression node => uses host context node
  | .argument node => uses host context node.value
  | _ => []

/-- **A complaint about a node**: about a call without arguments in it, or about a value in it. -/
inductive Complains (host : Host) (context : BodyContext) (node : Node) (diagnostic : Diagnostic) :
    Prop where
  | call {span : Span} {callee : Expr}
      (within : (Node.expression (.call span callee [] none)).Within node)
      (found : diagnostic ∈ host.emptyConstruction span callee)
  | value {value : Expr} (within : (Node.expression value).Within node)
      (found : diagnostic ∈ host.typeAsValue context value)

theorem Complains.child {node part : Node} (isChild : part ∈ node.children)
    (complains : host.Complains context part diagnostic) :
    host.Complains context node diagnostic := by
  cases complains with
  | call within found => exact .call (.child isChild within) found
  | value within found => exact .value (.child isChild within) found

/-- **What is used improperly** is complained about. -/
theorem complains_of_mem_nodeUses (node : Node)
    (found : diagnostic ∈ nodeUses host context node) :
    host.Complains context node diagnostic := by
  induction node using Node.induction with
  | step node ih =>
      have ofChild {child : Node} (isChild : child ∈ node.children)
          (found : diagnostic ∈ nodeUses host context child) :
          host.Complains context node diagnostic :=
        .child isChild (ih child isChild found)
      cases node with
      | argument node => exact ofChild (List.mem_append_right _ (List.mem_singleton_self _)) found
      | expression node =>
          have ofElements {args : List Argument} (areChildren : args.map .argument ⊆
              (Node.expression node).children)
              (found : diagnostic ∈ elementUses host context args) :
              host.Complains context (.expression node) diagnostic := by
            rw [elementUses_eq_flatMap] at found
            obtain ⟨arg, member, found⟩ := List.mem_flatMap.mp found
            exact ofChild (areChildren (List.mem_map_of_mem member)) found
          cases node with
          | literal | implicitMember | closure | ident => cases found
          | member span base label => exact ofChild List.mem_cons_self found
          | call span callee args trailing =>
              rcases List.mem_append.mp found with found | found
              · rcases List.mem_append.mp found with isOwn | found
                · split at isOwn
                  · next bare =>
                      simp only [Bool.and_eq_true, List.isEmpty_iff, Option.isNone_iff_eq_none]
                        at bare
                      obtain ⟨rfl, rfl⟩ := bare
                      exact .call (.self _) isOwn
                  · cases isOwn
                · exact ofChild List.mem_cons_self found
              · rw [argumentUses_eq_flatMap] at found
                obtain ⟨arg, member, found⟩ := List.mem_flatMap.mp found
                have isChild : Node.argument arg ∈
                    (Node.expression (.call span callee args trailing)).children :=
                  List.mem_append_left _ (List.mem_cons_of_mem _ (List.mem_map_of_mem member))
                rcases List.mem_append.mp found with found | found
                · have isValue : Node.expression arg.value ∈ (Node.argument arg).children :=
                    List.mem_append_right _ (List.mem_singleton_self _)
                  exact .value (.child isChild (.child isValue (.self _))) found
                · exact ofChild isChild found
          | subscript span base args =>
              rcases List.mem_append.mp found with found | found
              · exact ofChild List.mem_cons_self found
              · exact ofElements (fun _ member => List.mem_cons_of_mem _ member) found
          | tuple span elements => exact ofElements (fun _ member => member) found
          | array span elements =>
              simp only [nodeUses, uses, allUses_eq_flatMap] at found
              obtain ⟨element, member, found⟩ := List.mem_flatMap.mp found
              exact ofChild (List.mem_map_of_mem member) found
          | paren | unary | postfixed => exact ofChild (List.mem_singleton_self _) found
          | binary span left op right =>
              rcases List.mem_append.mp found with found | found
              · exact ofChild List.mem_cons_self found
              · exact ofChild (List.mem_cons_of_mem _ (List.mem_singleton_self _)) found
          | assign span target sign value =>
              rcases List.mem_append.mp found with found | found
              · exact ofChild List.mem_cons_self found
              · exact ofChild (List.mem_cons_of_mem _ (List.mem_cons_of_mem _
                  (List.mem_singleton_self _))) found
          | ternary span condition thenValue elseValue =>
              rcases List.mem_append.mp found with found | found
              · rcases List.mem_append.mp found with found | found
                · exact ofChild List.mem_cons_self found
                · exact ofChild (List.mem_cons_of_mem _ List.mem_cons_self) found
              · exact ofChild (List.mem_cons_of_mem _ (List.mem_cons_of_mem _
                  (List.mem_singleton_self _))) found
      | _ => cases found

end Uses

/-- The parameters of a type that are not known are shown where the type is used and where they are
declared. -/
theorem isAbout_unresolvedGenerics {name : String} {place : Span} (knows : host.Knows program)
    (sound : program.IsSound source) (usable : place.IsUsable source)
    (found : diagnostic ∈ host.unresolvedGenerics name place) :
    diagnostic.IsAbout source program := by
  unfold unresolvedGenerics at found
  split at found
  case h_1 => cases found
  case h_2 decl isType =>
    obtain ⟨generic, member, rfl⟩ := List.mem_map.mp found
    have declared := knows.types decl (List.mem_of_find?_eq_some isType)
    have ofGeneric : (Node.generic generic).WithinProgram program :=
      declared.child (List.mem_append_right _ (List.mem_cons_of_mem _
        (List.mem_append_left _ (List.mem_map_of_mem member))))
    have named : (Node.name generic.name).WithinProgram program :=
      ofGeneric.child List.mem_cons_self
    exact Diagnostic.IsUsable.isAbout .unresolvedGeneric
      ⟨List.forall_mem_cons.mpr
        ⟨usable, List.forall_mem_singleton.mpr (named.isUsable sound)⟩,
        List.forall_mem_singleton.mpr (FixIt.isUsable_of_edit usable usable.pointStop)⟩ rfl nofun

/-- A function of a type is a node of the program. -/
theorem withinProgram_function {decl : TypeDecl} {function : FunctionDecl}
    (declared : (Node.declaration (.type decl)).WithinProgram program)
    (member : function ∈ decl.functions) :
    (Node.declaration (.function function)).WithinProgram program :=
  declared.child (List.mem_append_right _ (List.mem_cons_of_mem _ (List.mem_append_right _
    (List.mem_map_of_mem (TypeDecl.mem_functions.mp member)))))

/-- The name of a function is a node of the program. -/
theorem withinProgram_functionName {function : FunctionDecl}
    (declared : (Node.declaration (.function function)).WithinProgram program) :
    (Node.name function.name).WithinProgram program :=
  declared.child (List.mem_append_right _ List.mem_cons_self)

/-- A call of a generic type without arguments. -/
theorem isAbout_emptyConstruction {span : Span} {callee : Expr} (knows : host.Knows program)
    (sound : program.IsSound source)
    (inside : (Node.expression (.call span callee [] none)).WithinProgram program)
    (found : diagnostic ∈ host.emptyConstruction span callee) :
    diagnostic.IsAbout source program := by
  have place : span.IsUsable source := inside.isUsable sound
  have calleePlace : callee.span.IsUsable source :=
    (inside.child List.mem_cons_self).isUsable sound
  unfold emptyConstruction at found
  split at found
  case h_2 => cases found
  case h_1 calleeSpan name =>
    split at found
    case h_1 => cases found
    case h_2 decl isType =>
      split at found
      case isTrue => cases found
      case isFalse =>
        rcases List.mem_append.mp found with found | found
        · exact isAbout_unresolvedGenerics knows sound calleePlace found
        · obtain ⟨initializer, isFirst, rfl⟩ := List.mem_map.mp found
          have declared := knows.types decl (List.mem_of_find?_eq_some isType)
          have ofType : initializer ∈ decl.functions :=
            (List.mem_filter.mp (List.mem_of_find?_eq_some (Option.mem_toList.mp isFirst))).1
          have named := withinProgram_functionName (withinProgram_function declared ofType)
          exact Diagnostic.IsUsable.isAbout .syntacticUse
            ⟨List.forall_mem_cons.mpr
              ⟨place, List.forall_mem_singleton.mpr (named.isUsable sound)⟩,
              List.forall_mem_nil _⟩ rfl nofun

/-- The name of a type as an argument. -/
theorem isAbout_typeAsValue {value : Expr} (sound : program.IsSound source)
    (inside : (Node.expression value).WithinProgram program)
    (found : diagnostic ∈ host.typeAsValue context value) :
    diagnostic.IsAbout source program := by
  have place : value.span.IsUsable source := inside.isUsable sound
  unfold typeAsValue at found
  split at found
  case h_2 => cases found
  case h_1 span name =>
    split at found
    case isFalse => cases found
    case isTrue =>
      rw [List.mem_singleton.mp found]
      exact Diagnostic.IsUsable.isAbout .syntacticUse
        ⟨List.forall_mem_singleton.mpr place,
          List.forall_mem_singleton.mpr (FixIt.isUsable_of_edit place place.pointStop)⟩ rfl nofun

/-- **Improper uses are reported at usable places.** -/
theorem isAbout_checkExpression (knows : host.Knows program) (sound : program.IsSound source)
    (inside : (Node.expression expr).WithinProgram program)
    (found : diagnostic ∈ host.checkExpression context expr) :
    diagnostic.IsAbout source program := by
  unfold checkExpression at found
  split at found
  case h_1 place name => exact isAbout_unresolvedGenerics knows sound (inside.isUsable sound) found
  case h_2 =>
    cases complains_of_mem_nodeUses (.expression expr) found with
    | call within found => exact isAbout_emptyConstruction knows sound (inside.within within) found
    | value within found => exact isAbout_typeAsValue sound (inside.within within) found

/-! ### Conditions and switches -/

/-- An assignment that is used as a truth value is shown at its sign. -/
theorem isAbout_assignment? (sound : program.IsSound source)
    (inside : (Node.expression expr).WithinProgram program)
    (found : assignment? expr = some diagnostic) : diagnostic.IsAbout source program := by
  fun_induction assignment? expr with
  | case1 span target sign value =>
      cases found
      have isSign : (Node.mark sign).WithinProgram program :=
        inside.child (List.mem_cons_of_mem _ List.mem_cons_self)
      have place : sign.IsUsable source := isSign.isUsable sound
      exact Diagnostic.IsUsable.isAbout .syntacticUse
        ⟨List.forall_mem_singleton.mpr place,
          List.forall_mem_singleton.mpr (FixIt.isUsable_of_edit place place)⟩ rfl nofun
  | case2 span inner ih => exact ih (inside.child (List.mem_singleton_self _)) found
  | case3 span left right ofLeft ofRight | case4 span left right ofLeft ofRight =>
      rw [Option.orElse_eq_orElse, Option.orElse_eq_or, Option.or_eq_some_iff] at found
      rcases found with found | ⟨-, found⟩
      · exact ofLeft (inside.child List.mem_cons_self) found
      · exact ofRight (inside.child (List.mem_cons_of_mem _ (List.mem_singleton_self _))) found
  | case5 => cases found

/-- **Assignments as conditions are reported at usable places.** -/
theorem isAbout_checkCondition {condition : Condition} (sound : program.IsSound source)
    (inside : (Node.condition condition).WithinProgram program)
    (found : diagnostic ∈ checkCondition condition) : diagnostic.IsAbout source program := by
  cases condition with
  | expression expr =>
      exact isAbout_assignment? sound (inside.child (List.mem_singleton_self _))
        (Option.mem_toList.mp found)
  | binding span isMutable bound value => cases found

/-- What is suggested about missing cases: to add each of them in front of the closing brace. -/
theorem eq_of_mem_fixIts_exhaustivenessDiagnostic {node : Switch} {missing : List EnumCase}
    {fixIt : FixIt} (suggested : fixIt ∈ (exhaustivenessDiagnostic node missing).fixIts) :
    ∃ message text, fixIt = ⟨message, ⟨node.span.start, node.subject.span.stop⟩,
      [.insert (node.span.stop - 1) text]⟩ := by
  obtain ⟨note, isNote, isFixIt⟩ := List.mem_filterMap.mp suggested
  obtain ⟨enumCase, -, rfl⟩ := List.mem_map.mp isNote
  cases isFixIt
  exact ⟨_, _, rfl⟩

/-- **Missing cases are added at the closing brace** of the `switch` that lacks them. -/
theorem isAbout_checkExhaustive {node : Switch} (sound : program.IsSound source)
    (inside : (Node.statement (.switch node)).WithinProgram program)
    (found : diagnostic ∈ host.checkExhaustive node) : diagnostic.IsAbout source program := by
  have place := inside.isUsable_upTo sound List.mem_cons_self
  obtain ⟨brace, ends, stands⟩ := (sound _ inside).spelled
  have lastByte : node.span.stop - 1 = brace := by rw [ends, Nat.add_sub_cancel]
  have atBrace : (Span.point brace).IsUsable source := by
    obtain ⟨front, back, rfl, length⟩ := stands
    exact Span.isUsable_point ⟨front, _, rfl, length⟩
  unfold checkExhaustive at found
  split at found
  · cases found
  dsimp only at found
  split at found
  · cases found
  split at found
  · cases found
  · rw [List.mem_singleton.mp found]
    refine ⟨⟨List.forall_mem_singleton.mpr place, fun fixIt suggested => ?_⟩,
      fun _ => ⟨node, brace, inside, ends, stands, rfl, fun fixIt suggested => ?_⟩⟩
    · obtain ⟨message, text, rfl⟩ := eq_of_mem_fixIts_exhaustivenessDiagnostic suggested
      exact FixIt.isUsable_of_edit place (lastByte ▸ atBrace)
    · obtain ⟨message, text, rfl⟩ := eq_of_mem_fixIts_exhaustivenessDiagnostic suggested
      exact ⟨text, by rw [lastByte]⟩

/-! ### Overloads -/

/-- **An ambiguous call is reported at usable places**: at the call and at the functions that it may
mean. -/
theorem isAbout_resolveOverload {site : OverloadSite} {candidates : List OverloadCandidate}
    (place : site.span.IsUsable source)
    (declared : ∀ candidate ∈ candidates, candidate.span.IsUsable source)
    (found : resolveOverload site candidates = .error diagnostic) :
    diagnostic.IsAbout source program := by
  unfold resolveOverload at found
  split at found
  · cases found
  · cases found
    exact Diagnostic.IsUsable.isAbout .ambiguousResolution
      ⟨List.forall_mem_cons.mpr ⟨place, List.forall_mem_map.mpr declared⟩,
        List.forall_mem_nil _⟩ rfl nofun

end Host

end ResultBuilder
