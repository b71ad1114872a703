import ResultBuilder.Proofs.Syntax.Bare
import ResultBuilder.Proofs.Syntax.Revising

/-!
# Trees as their text is read

What the text of a tree is read as differs from the tree in two ways. A call without arguments whose
callee is a call, and which has a closure, is printed as the callee with the closure. And the
statements of a case are printed between braces, which are read as a closure.

* **`Expr.reread`** and its companions: a tree as its text is read, without its places.
* **`Node.isReread_iff_everywhere`**: which trees are read as they are.
-/

namespace ResultBuilder.Syntax

/-! ### Trees -/

/-- A block with nothing but a closure that has the statements of a block. -/
def Block.inBraces (block : Block) : Block :=
  ⟨block.span, [.expression (.closure ⟨block.span, [], block⟩)]⟩

/-- **Braces around the statements of cases.** -/
def Revision.braced : Revision where
  switchCase node := { node with body := node.body.inBraces }

/-- **An expression as its text is read.** -/
def Expr.reread (expr : Expr) : Expr :=
  (expr.rebuild .merged).revise .braced

/-- An argument as its text is read. -/
def Argument.reread (argument : Argument) : Argument :=
  (argument.rebuild .merged).revise .braced

/-- A closure as its text is read. -/
def Closure.reread (closure : Closure) : Closure :=
  (closure.rebuild .merged).revise .braced

/-- A block as its text is read. -/
def Block.reread (block : Block) : Block :=
  (block.rebuild .merged).revise .braced

/-- A statement as its text is read. -/
def Statement.reread (statement : Statement) : Statement :=
  (statement.rebuild .merged).revise .braced

/-- An `if` statement as its text is read. -/
def Conditional.reread (conditional : Conditional) : Conditional :=
  (conditional.rebuild .merged).revise .braced

/-- A condition as its text is read. -/
def Condition.reread (condition : Condition) : Condition :=
  (condition.rebuild .merged).revise .braced

/-- What is done otherwise, as its text is read. -/
def Alternative.reread (otherwise : Alternative) : Alternative :=
  (otherwise.rebuild .merged).revise .braced

/-- A `switch` statement as its text is read. -/
def Switch.reread (switch : Switch) : Switch :=
  (switch.rebuild .merged).revise .braced

/-- A case as its text is read. -/
def SwitchCase.reread (switchCase : SwitchCase) : SwitchCase :=
  (switchCase.rebuild .merged).revise .braced

/-- A declaration as its text is read. -/
def Declaration.reread (declaration : Declaration) : Declaration :=
  (declaration.rebuild .merged).revise .braced

/-! ### Parts -/

section Parts

variable {span place : Span} {callee inner : Expr} {args others : List Argument}

/-- A call that does not merge with its callee. -/
theorem Expr.reread_call {trailing : Option Closure}
    (apart : args = [] → trailing.isSome = true → callee.takesClosure = false) :
    (Expr.call span callee args trailing).reread =
      .call (.point 0) callee.reread (args.map (·.reread)) (trailing.map (·.reread)) := by
  show (CallForm.merged (callee.rebuild .merged) (Argument.rebuilds .merged args)
    (Closure.rebuildOption .merged trailing)).revise .braced = _
  rw [Argument.rebuilds_eq_map, Closure.rebuildOption_eq_map, CallForm.merged_of_not_takesClosure]
  · show Expr.call _ _ (Argument.reviseAll _ _) (Closure.reviseOption _ _) = _
    rw [Argument.reviseAll_eq_map, Closure.reviseOption_eq_map, List.map_map, Option.map_map]
    rfl
  · simpa [takesClosure_rebuild_merged] using apart

/-- A closure after a call without one belongs to that call. -/
theorem Expr.reread_call_merged {closure : Closure} :
    (Expr.call span (.call place inner others none) [] (some closure)).reread =
      .call (.point 0) inner.reread (others.map (·.reread)) (some closure.reread) := by
  have merged : (Expr.call place inner others none).rebuild .merged =
      .call (.point 0) (inner.rebuild .merged) (Argument.rebuilds .merged others) none :=
    CallForm.merged_of_not_takesClosure fun _ isSome => by cases isSome
  show (CallForm.merged ((Expr.call place inner others none).rebuild .merged) [] _).revise .braced = _
  rw [merged]
  show Expr.call _ _ (Argument.reviseAll _ (Argument.rebuilds _ others)) _ = _
  rw [Argument.rebuilds_eq_map, Argument.reviseAll_eq_map, List.map_map]
  rfl

theorem Argument.reread_mk {label : Option Name} {value : Expr} :
    (Argument.mk span label value).reread = ⟨.point 0, label.map (·.bare), value.reread⟩ :=
  rfl

theorem Argument.value_reread (argument : Argument) : argument.reread.value = argument.value.reread := by
  cases argument
  rfl

theorem Expr.reread_tuple {elements : List Argument} :
    (Expr.tuple span elements).reread = .tuple (.point 0) (elements.map (·.reread)) := by
  show Expr.tuple _ (Argument.reviseAll _ (Argument.rebuilds _ elements)) = _
  rw [Argument.rebuilds_eq_map, Argument.reviseAll_eq_map, List.map_map]
  rfl

theorem Expr.reread_array {elements : List Expr} :
    (Expr.array span elements).reread = .array (.point 0) (elements.map (·.reread)) := by
  show Expr.array _ (Expr.reviseAll _ (Expr.rebuilds _ elements)) = _
  rw [Expr.rebuilds_eq_map, Expr.reviseAll_eq_map, List.map_map]
  rfl

theorem Expr.reread_subscript {base : Expr} :
    (Expr.subscript span base args).reread =
      .subscript (.point 0) base.reread (args.map (·.reread)) := by
  show Expr.subscript _ _ (Argument.reviseAll _ (Argument.rebuilds _ args)) = _
  rw [Argument.rebuilds_eq_map, Argument.reviseAll_eq_map, List.map_map]
  rfl

theorem Closure.reread_mk {params : List Name} {body : Block} :
    (Closure.mk span params body).reread = ⟨.point 0, params.map (·.bare), body.reread⟩ :=
  rfl

theorem Block.reread_mk {statements : List Statement} :
    (Block.mk span statements).reread = ⟨.point 0, statements.map (·.reread)⟩ := by
  show Block.mk _ (Statement.reviseAll _ (Statement.rebuilds _ statements)) = _
  rw [Statement.rebuilds_eq_map, Statement.reviseAll_eq_map, List.map_map]
  rfl

theorem Conditional.reread_mk {conditions : List Condition} {thenBlock : Block}
    {otherwise : Option Alternative} :
    (Conditional.mk span conditions thenBlock otherwise).reread =
      ⟨.point 0, conditions.map (·.reread), thenBlock.reread, otherwise.map (·.reread)⟩ := by
  show Conditional.mk _ (Condition.reviseAll _ (Condition.rebuilds _ conditions)) _
    (Alternative.reviseOption _ (Alternative.rebuildOption _ otherwise)) = _
  rw [Condition.rebuilds_eq_map, Condition.reviseAll_eq_map, List.map_map,
    Alternative.rebuildOption_eq_map, Alternative.reviseOption_eq_map, Option.map_map]
  rfl

theorem SwitchCase.reread_mk {label : CaseLabel} {body : Block} :
    (SwitchCase.mk span label body).reread = ⟨.point 0, label.bare, body.reread.inBraces⟩ :=
  rfl

theorem Switch.reread_mk {subject : Expr} {cases : List SwitchCase} :
    (Switch.mk span subject cases).reread =
      ⟨.point 0, subject.reread, cases.map (·.reread)⟩ := by
  show Switch.mk _ _ (SwitchCase.reviseAll _ (SwitchCase.rebuilds _ cases)) = _
  rw [SwitchCase.rebuilds_eq_map, SwitchCase.reviseAll_eq_map, List.map_map]
  rfl

end Parts

/-! ### Trees that are read as they are -/

/-- Reading a text never makes more calls of calls. -/
theorem Expr.callDepth_reread (expr : Expr) : expr.reread.callDepth ≤ expr.callDepth := by
  have revised (expr : Expr) : (expr.revise .braced).callDepth = expr.callDepth := by
    induction size : sizeOf expr using Nat.strongRecOn generalizing expr with
    | ind _ ih =>
        cases expr with
        | call span callee args trailing =>
            exact congrArg Nat.succ (ih _ (by rw [← size]; (simp; omega)) callee rfl)
        | _ => rfl
  rw [reread, revised]
  exact expr.callDepth_rebuild_merged

/-- A call is read as it is when its parts are and it does not merge with its callee. -/
theorem Expr.reread_call_iff {span : Span} {callee : Expr} {args : List Argument}
    {trailing : Option Closure} :
    (Expr.call span callee args trailing).reread =
        (Expr.call span callee args trailing).rebuild .plain ↔
      (args = [] → trailing.isSome = true → callee.takesClosure = false) ∧
        callee.reread = callee.rebuild .plain ∧
        args.map (·.reread) = args.map (·.rebuild .plain) ∧
        trailing.map (·.reread) = trailing.map (·.rebuild .plain) := by
  have plain : (Expr.call span callee args trailing).rebuild .plain =
      .call (.point 0) (callee.rebuild .plain) (args.map (·.rebuild .plain))
        (trailing.map (·.rebuild .plain)) := by
    rw [rebuild, Argument.rebuilds_eq_map, Closure.rebuildOption_eq_map]
    rfl
  rw [plain]
  by_cases apart : args = [] → trailing.isSome = true → callee.takesClosure = false
  · rw [reread_call apart, Expr.call.injEq]
    exact ⟨fun same => ⟨apart, same.2⟩, fun holds => ⟨rfl, holds.2⟩⟩
  · -- what the merged call calls is called once less often than the callee
    refine iff_of_false (fun same => ?_) (fun holds => apart holds.1)
    simp only [Classical.not_imp, Bool.not_eq_false] at apart
    obtain ⟨rfl, isSome, takes⟩ := apart
    obtain ⟨closure, rfl⟩ := Option.isSome_iff_exists.mp isSome
    obtain ⟨place, inner, others, rfl⟩ : ∃ place inner others, callee = .call place inner others none := by
      unfold takesClosure at takes
      split at takes
      · exact ⟨_, _, _, rfl⟩
      · cases takes
    rw [reread_call_merged] at same
    injection same with _ sameCallee
    have depth := congrArg Expr.callDepth sameCallee
    have shallow := inner.callDepth_reread
    rw [Expr.callDepth_rebuild_plain, Expr.callDepth] at depth
    omega

/-- The block that is between braces as all that a block has. -/
def Block.braced? : Block → Option Block
  | ⟨_, [.expression (.closure ⟨_, [], inner⟩)]⟩ => some inner
  | _ => none

theorem Block.exists_of_braced? {block inner : Block} (braced : block.braced? = some inner) :
    ∃ span place, block = ⟨span, [.expression (.closure ⟨place, [], inner⟩)]⟩ := by
  unfold braced? at braced
  split at braced
  · next span place inside =>
      cases braced
      exact ⟨span, place, rfl⟩
  · cases braced

/-- Places do not matter for that. -/
theorem Block.braced?_rebuild (block : Block) :
    (block.rebuild .plain).braced? = block.braced?.map (·.rebuild .plain) := by
  obtain ⟨span, _ | ⟨statement, rest⟩⟩ := block
  · rfl
  · cases statement with
    | expression expr =>
        cases expr with
        | closure node =>
            obtain ⟨place, params, body⟩ := node
            cases params <;> cases rest <;> rfl
        | _ => rfl
    | _ => rfl

/-- **No block is read as it is between braces**, however many braces are around its statements. -/
theorem Block.rebuild_ne_inBraces (block : Block) :
    block.rebuild .plain ≠ block.reread.inBraces := by
  induction size : sizeOf block using Nat.strongRecOn generalizing block with
  | ind _ ih =>
      intro same
      have alone := block.braced?_rebuild
      rw [same, show block.reread.inBraces.braced? = some block.reread from rfl] at alone
      obtain ⟨inner, braced, again⟩ := Option.map_eq_some_iff.mp alone.symm
      obtain ⟨span, place, rfl⟩ := exists_of_braced? braced
      obtain ⟨bodySpan, statements⟩ := inner
      exact ih _ (by rw [← size]; (simp; omega)) ⟨bodySpan, statements⟩ rfl again

/-- **No case**: no node is a case of a `switch` statement. -/
def Node.IsNoCase : Node → Prop
  | .switchCase _ => False
  | _ => True

/-- **A node that its text is read as**, where the text of such a node is printed. -/
def Node.IsReread : Node → Prop
  | .expression node => node.reread = node.rebuild .plain
  | .argument node => node.reread = node.rebuild .plain
  | .closure node => node.reread = node.rebuild .plain
  | .block node => node.reread = node.rebuild .plain
  | .statement node => node.reread = node.rebuild .plain
  | .condition node => node.reread = node.rebuild .plain
  | .switchCase node => node.reread = node.rebuild .plain
  | .declaration node => node.reread = node.rebuild .plain
  | .name _ | .mark _ | .attribute _ | .type _ | .generic _ | .param _ | .enumCase _ | .pattern _ =>
      True

/-- A node is read as it is when its children are, it does not merge with one and it is no case. -/
theorem Node.isReread_iff (node : Node) : node.IsReread ↔
    (node.CallsApart ∧ node.IsNoCase) ∧ ∀ child ∈ node.children, child.IsReread := by
  cases node with
  | expression node =>
      cases node with
      | call span callee args trailing =>
          rw [callsApart_call, and_iff_left (show (expression _).IsNoCase from trivial)]
          refine Expr.reread_call_iff.trans (and_congr_right fun _ => ?_)
          cases trailing <;>
            simp [children, ofExpr, IsReread, or_imp, forall_and, List.map_inj_left]
      | _ =>
          simp [children, ofExpr, IsReread, CallsApart, IsNoCase, Expr.reread, Argument.reread,
            Closure.reread, Expr.rebuild, Expr.revise, or_imp, forall_and]
  | argument node =>
      obtain ⟨span, label, value⟩ := node
      cases label <;> simp [children, IsReread, CallsApart, IsNoCase, Argument.reread,
        Expr.reread, Argument.rebuild, Argument.revise]
  | closure node =>
      obtain ⟨span, params, body⟩ := node
      simp [children, IsReread, CallsApart, IsNoCase, Closure.reread, Block.reread, Closure.rebuild,
        Closure.revise, Revision.braced, or_imp, forall_and]
  | block node =>
      obtain ⟨span, statements⟩ := node
      simp [children, IsReread, CallsApart, IsNoCase, Block.reread_mk, Block.rebuild]
  | statement node =>
      cases node with
      | conditional node =>
          obtain ⟨span, conditions, thenBlock, otherwise⟩ := node
          rcases otherwise with _ | (_ | _) <;>
            simp [children, ofStatement, ofAlternative, IsReread, CallsApart, IsNoCase,
              Statement.reread, Condition.reread, Block.reread, Statement.rebuild, Statement.revise,
              Conditional.rebuild, Conditional.revise, Alternative.rebuild, Alternative.revise,
              or_imp, forall_and]
      | switch node =>
          obtain ⟨span, subject, cases⟩ := node
          simp [children, ofStatement, IsReread, CallsApart, IsNoCase, Statement.reread, Expr.reread,
            SwitchCase.reread, Statement.rebuild, Statement.revise, Switch.rebuild, Switch.revise]
      | loop node =>
          obtain ⟨span, form, header, body⟩ := node
          cases form <;>
            simp [children, ofStatement, ofLoop, IsReread, CallsApart, IsNoCase, Statement.reread,
              Expr.reread, Block.reread, Statement.rebuild, Statement.revise, Loop.rebuild,
              Loop.revise, and_comm]
      | returning span keyword value =>
          cases value <;>
            simp [children, ofStatement, IsReread, CallsApart, IsNoCase, Statement.reread,
              Expr.reread, Statement.rebuild, Statement.revise]
      | _ =>
          simp [children, ofStatement, IsReread, CallsApart, IsNoCase, Statement.reread, Expr.reread,
            Block.reread, Declaration.reread, Statement.rebuild, Statement.revise]
  | condition node =>
      cases node <;>
        simp [children, ofCondition, IsReread, CallsApart, IsNoCase, Condition.reread, Expr.reread,
          Condition.rebuild, Condition.revise]
  | switchCase node =>
      obtain ⟨span, label, body⟩ := node
      refine iff_of_false (fun same => ?_) (fun holds => holds.1.2)
      rw [IsReread, SwitchCase.reread_mk, SwitchCase.rebuild, SwitchCase.mk.injEq] at same
      exact body.rebuild_ne_inBraces same.2.2.symm
  | declaration node =>
      cases node with
      | «variable» node =>
          obtain ⟨span, attributes, isMutable, name, type, value, body⟩ := node
          cases value <;> cases body <;>
            simp [children, ofDeclaration, IsReread, CallsApart, IsNoCase, Declaration.reread,
              Expr.reread, Block.reread, Declaration.rebuild, Declaration.revise,
              VariableDecl.rebuild, VariableDecl.revise, or_imp, forall_and]
      | function node =>
          obtain ⟨span, attributes, isStatic, name, generics, params, result, body⟩ := node
          cases body <;>
            simp [children, ofDeclaration, IsReread, CallsApart, IsNoCase, Declaration.reread,
              Block.reread, Declaration.rebuild, Declaration.revise, FunctionDecl.rebuild,
              FunctionDecl.revise, or_imp, forall_and]
      | type node =>
          obtain ⟨span, attributes, kind, name, generics, members⟩ := node
          simp [children, ofDeclaration, IsReread, CallsApart, IsNoCase, Declaration.reread,
            Declaration.rebuild, Declaration.revise, TypeDecl.rebuild, TypeDecl.revise, or_imp,
            forall_and]
      | enum node =>
          simp [children, ofDeclaration, IsReread, CallsApart, IsNoCase, Declaration.reread,
            Declaration.rebuild, Declaration.revise]
  | name | mark | «attribute» | pattern => simp [children, IsReread, CallsApart, IsNoCase]
  | type node =>
      refine iff_of_true trivial ⟨⟨trivial, trivial⟩, fun child member => ?_⟩
      obtain ⟨part, rfl⟩ := DeclaredType.exists_of_mem_ofType member
      trivial
  | generic | enumCase => simp [children, IsReread, CallsApart, IsNoCase]
  | param node =>
      refine iff_of_true trivial ⟨⟨trivial, trivial⟩, fun child member => ?_⟩
      simp only [children, ofParam, List.mem_append, List.mem_map, List.mem_singleton] at member
      rcases member with (((⟨_, -, rfl⟩ | named) | rfl) | ⟨_, -, rfl⟩) | rfl
      · trivial
      · split at named
        · cases named
        · split at named
          · cases named
          · rw [List.mem_singleton.mp named]
            trivial
      all_goals trivial

/-- **A node is read as it is** when all its calls are apart and there is no case in it. -/
theorem Node.isReread_iff_everywhere (node : Node) :
    node.IsReread ↔ node.Everywhere fun inner => inner.CallsApart ∧ inner.IsNoCase := by
  induction node using Node.induction with
  | step node ih =>
      rw [isReread_iff, everywhere_iff]
      exact and_congr_right fun _ => forall₂_congr ih

end ResultBuilder.Syntax
