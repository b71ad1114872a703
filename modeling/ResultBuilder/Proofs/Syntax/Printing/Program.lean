import ResultBuilder.Proofs.Syntax.Printing.Switch
import ResultBuilder.Proofs.Syntax.Reading.Statement

/-!
# Statements and blocks of a program that are printed and read back

Every statement of a parsed source without declarations, numbers with a point and members with a
number for a name is printed as a text that is read as one statement, and every such block as a text
that is read as a block. They are read as the same where calls stand apart and there are no cases of
`switch` statements.

Main statements: `parse_text_iff` and `parseBlock_text_iff`.
-/

namespace ResultBuilder.Syntax

open Lexer (Piece Listed Enclosed)

namespace Node

/-- **A printable node**: no `switch` statement, declaration, number with a point or member with a
number for a name. -/
def IsPrintable : Node → Prop
  | .expression (.literal _ (.float _)) => False
  | .expression (.member _ _ label) => startsWithDigit label.text = false
  | .statement (.switch _) | .statement (.declaration _) => False
  | _ => True

/-- **A node printed whole**: no declaration, number with a point or member with a number for a
name. -/
def PrintsWhole : Node → Prop
  | .expression (.literal _ (.float _)) => False
  | .expression (.member _ _ label) => startsWithDigit label.text = false
  | .statement (.declaration _) => False
  | _ => True

theorem IsPrintable.printsWhole {node : Node} (printable : node.IsPrintable) : node.PrintsWhole := by
  unfold IsPrintable at printable
  split at printable
  case h_2 => exact printable
  case h_5 =>
    unfold PrintsWhole
    split
    all_goals first | trivial | simp_all
  all_goals exact printable.elim

/-- **A printed node**: its text is one of pieces that are read back. Nothing is asked of nodes that
occur in none of these. -/
def IsPrinted : Node → Prop
  | .expression node => ∀ gap, ∃ pieces, Expr.Prints gap node pieces
  | .argument node => ∀ gap, ∃ pieces, Argument.Prints gap node pieces
  | .closure node => ∀ gap, ∃ pieces, Closure.Prints gap node pieces
  | .block node => ∀ gap, ∃ pieces, Block.Prints gap node pieces
  | .condition node => ∀ gap, ∃ pieces, Condition.Prints gap node pieces
  | .switchCase node => ∃ pieces, SwitchCase.Prints node pieces
  | .statement (.conditional node) => ∀ gap, ∃ pieces, Conditional.Prints gap node pieces
  | .statement node => ∀ gap, ∃ pieces, Statement.Prints gap node pieces
  | _ => True

variable {gap : Nat}

theorem IsPrinted.statement {statement : Statement} (printed : (Node.statement statement).IsPrinted)
    (gap : Nat) : ∃ pieces, Statement.Prints gap statement pieces := by
  cases statement with
  | conditional node =>
      obtain ⟨pieces, prints⟩ := printed gap
      exact ⟨pieces, .conditional prints⟩
  | _ => exact printed gap

end Node

/-! ### Expressions -/

/-- What is between the brackets of arguments is printed when the arguments are. -/
theorem Argument.exists_enclosed {opening closing : Symbol} {args : List Argument}
    (printed : ∀ argument ∈ args, (Node.argument argument).IsPrinted) (gap : Nat) :
    ∃ pieces, Enclosed opening closing Argument.Prints gap args pieces :=
  Lexer.exists_enclosed printed gap

namespace Expr

variable {gap : Nat}

/-- A call with arguments in parentheses is printed when its parts are. -/
theorem exists_prints_applied {span : Span} {callee : Expr} {args : List Argument}
    {trailing : Option Closure} {pieces tail : List Piece} (isOperand : callee.rank = 9)
    (prints : Prints gap callee pieces)
    (printedArgs : ∀ argument ∈ args, (Node.argument argument).IsPrinted)
    (follows : Closure.Follows trailing tail) (apart : args = [] → trailing = none) :
    ∃ pieces, Prints gap (.call span callee args trailing) pieces := by
  obtain ⟨others, enclosed⟩ := @Argument.exists_enclosed .parenOpen .parenClose _ printedArgs 0
  refine ⟨_, prints.withArguments isOperand enclosed follows rfl ?_
    (fun fits => fits.imp_right And.right)
    (fun fits isSome => fits.resolve_right fun header => ?_) ?_ ?_⟩
  · cases trailing with
    | none => simp [text, Closure.followingText, ← String.toList_inj]
    | some closure =>
        have some : args ≠ [] := fun none => by cases apart none
        obtain ⟨first, rest, rfl⟩ := List.exists_cons_of_ne_nil some
        simp [text, Closure.followingText, ← String.toList_inj]
  · have none := header.1
    rw [Option.isNone_iff_eq_none] at none
    rw [none] at isSome
    cases isSome
  · rintro rfl
    rfl
  · refine reread_call fun noArgs isSome => ?_
    rw [apart noArgs] at isSome
    cases isSome

/-- **A closure after a call without one is printed after the arguments of that call.** -/
theorem exists_prints_merged {span place : Span} {callee : Expr} {args : List Argument}
    {trailing : Closure} {pieces tail : List Piece} (isOperand : callee.rank = 9)
    (prints : Prints gap callee pieces)
    (printedArgs : ∀ argument ∈ args, (Node.argument argument).IsPrinted)
    (follows : Closure.Prints 1 trailing tail) :
    ∃ pieces, Prints gap (.call span (.call place callee args none) [] (some trailing)) pieces := by
  obtain ⟨others, enclosed⟩ := @Argument.exists_enclosed .parenOpen .parenClose _ printedArgs 0
  have follows : Closure.Follows (some trailing) tail := follows
  refine ⟨_, prints.withArguments isOperand enclosed follows rfl ?_
    (fun fits => fits.imp_right fun header => header.2.2)
    (fun fits isSome => fits.resolve_right fun header => ?_) nofun reread_call_merged⟩
  · simp [text, Closure.followingText, ← String.toList_inj]
  · cases header.1

/-- A call is printed when its parts are. -/
theorem exists_prints_call {span : Span} {callee : Expr} {args : List Argument}
    {trailing : Option Closure}
    (legible : (Node.expression (.call span callee args trailing)).Everywhere Node.IsLegible)
    (printed : ∀ child ∈ Node.ofExpr (.call span callee args trailing),
      child.Everywhere Node.IsPrinted) (gap : Nat) :
    ∃ pieces, Prints gap (.call span callee args trailing) pieces := by
  have isOperand : callee.rank = 9 := legible.here
  have legibleCallee : callee.IsLegible := (legible.child List.mem_cons_self).here
  simp only [Node.ofExpr, List.cons_append, List.forall_mem_cons, List.forall_mem_append,
    List.forall_mem_map] at printed
  obtain ⟨ofCallee, ofArgs, ofTrailing⟩ := printed
  obtain ⟨pieces, prints⟩ := ofCallee.here gap
  have printedArgs := fun argument member => (ofArgs argument member).here
  cases trailing with
  | none => exact exists_prints_applied isOperand prints printedArgs rfl fun _ => rfl
  | some trailing =>
      obtain ⟨tail, follows⟩ := (ofTrailing trailing (by simp)).here 1
      by_cases noArgs : args = []
      · subst noArgs
        cases takes : callee.takesClosure with
        | false => exact ⟨_, prints.withClosure isOperand takes follows span⟩
        | true =>
            unfold takesClosure at takes
            split at takes
            · next place inner innerArgs =>
                obtain ⟨pieces, prints⟩ := (ofCallee.child List.mem_cons_self).here gap
                refine exists_prints_merged legibleCallee prints (fun argument member => ?_) follows
                exact (ofCallee.child (by simp [Node.children, Node.ofExpr, member])).here
            · cases takes
      · exact exists_prints_applied isOperand prints printedArgs follows (absurd · noArgs)

/-- **An expression is printed** when it is printed whole and its parts are printed. -/
theorem exists_prints {expr : Expr} (legible : (Node.expression expr).Everywhere Node.IsLegible)
    (whole : (Node.expression expr).PrintsWhole)
    (printed : ∀ child ∈ Node.ofExpr expr, child.Everywhere Node.IsPrinted) (gap : Nat) :
    ∃ pieces, Prints gap expr pieces := by
  have here : expr.IsLegible := legible.here
  cases expr with
  | literal span value =>
      exact Prints.literal here (by rintro decimal rfl; exact whole) gap
  | ident span name => exact ⟨_, .ident here span⟩
  | implicitMember span name => exact ⟨_, .implicitMember here span⟩
  | member span base name =>
      obtain ⟨pieces, prints⟩ := (printed _ List.mem_cons_self).here gap
      refine ⟨_, prints.member here.1 ?_ span⟩
      exact here.2.imp_right fun other => other.resolve_right (by rw [whole]; exact Bool.false_ne_true)
  | call span callee args trailing => exact exists_prints_call legible printed gap
  | subscript span base args =>
      obtain ⟨ofBase, ofArgs⟩ := List.forall_mem_cons.mp printed
      obtain ⟨pieces, prints⟩ := ofBase.here gap
      obtain ⟨others, enclosed⟩ := Argument.exists_enclosed (fun argument member =>
        (ofArgs _ (List.mem_map_of_mem member)).here) 0
      exact ⟨_, prints.subscript here enclosed span⟩
  | tuple span elements =>
      obtain ⟨others, enclosed⟩ := Argument.exists_enclosed (fun argument member =>
        (printed _ (List.mem_map_of_mem member)).here) gap
      exact ⟨_, .tuple here enclosed⟩
  | paren span inner =>
      obtain ⟨pieces, prints⟩ := (printed _ List.mem_cons_self).here 0
      exact ⟨_, .paren prints span⟩
  | array span elements =>
      have unlabelled : ∀ argument ∈ elements.map (⟨.point 0, none, ·⟩),
          (Node.argument argument).IsPrinted := by
        intro argument member gap
        obtain ⟨element, listed, rfl⟩ := List.mem_map.mp member
        obtain ⟨pieces, prints⟩ := (printed _ (List.mem_map_of_mem listed)).here gap
        exact ⟨pieces, .unlabelled prints _⟩
      obtain ⟨others, enclosed⟩ := Argument.exists_enclosed unlabelled gap
      exact ⟨_, .array span enclosed⟩
  | closure node =>
      obtain ⟨pieces, prints⟩ := (printed _ List.mem_cons_self).here gap
      exact ⟨_, .closure prints⟩
  | unary span op operand =>
      obtain ⟨pieces, prints⟩ := (printed _ List.mem_cons_self).here 0
      exact ⟨_, .unaryOperation prints here span⟩
  | binary span left op right =>
      obtain ⟨pieces, prints⟩ := (printed (.expression left) (by simp [Node.ofExpr])).here gap
      obtain ⟨others, prints'⟩ := (printed (.expression right) (by simp [Node.ofExpr])).here 1
      exact ⟨_, .binaryOperation prints prints' here.1 here.2 span⟩
  | ternary span test thenValue elseValue =>
      obtain ⟨pieces, prints⟩ := (printed (.expression test) (by simp [Node.ofExpr])).here gap
      obtain ⟨thens, prints'⟩ := (printed (.expression thenValue) (by simp [Node.ofExpr])).here 1
      obtain ⟨elses, prints''⟩ := (printed (.expression elseValue) (by simp [Node.ofExpr])).here 1
      exact ⟨_, .conditionalOperator prints prints' prints'' here.1 here.2.1 here.2.2 span⟩
  | assign span target sign value =>
      obtain ⟨pieces, prints⟩ := (printed (.expression target) (by simp [Node.ofExpr])).here gap
      obtain ⟨others, prints'⟩ := (printed (.expression value) (by simp [Node.ofExpr])).here 1
      exact ⟨_, .assignment prints prints' here span sign⟩
  | postfixed span operand op =>
      obtain ⟨pieces, prints⟩ := (printed _ List.mem_cons_self).here gap
      obtain ⟨sign, marked⟩ := prints.mark here.1 here.2 span
      exact ⟨_, marked⟩

end Expr

/-! ### Statements -/

/-- Statements before a closing brace are printed when each of them is. -/
theorem Statement.exists_closed {statements : List Statement}
    (printed : ∀ statement ∈ statements, (Node.statement statement).IsPrinted) (spaces : Nat) :
    ∃ pieces, Closed spaces statements pieces := by
  by_cases none : statements = []
  · exact ⟨_, .inl ⟨none, rfl⟩⟩
  · obtain ⟨inside, listed⟩ := @Lexer.exists_listed _ .semicolon _ _
      (fun statement member => (printed statement member).statement) none 1
    exact ⟨_, .inr ⟨inside, listed, rfl⟩⟩

/-- Parameters are printed when they are names. -/
theorem Closure.exists_paramsPrint {params : List Name}
    (named : ∀ param ∈ params, IsParamName param.text) : ∃ pieces, ParamsPrint params pieces := by
  by_cases none : params = []
  · exact ⟨_, .inl ⟨none, rfl⟩⟩
  · obtain ⟨names, listed⟩ := @Lexer.exists_listed _ .comma ParamPrints _
      (fun param member gap => ⟨_, named param member, rfl⟩) none 1
    exact ⟨_, .inr ⟨names, listed, rfl⟩⟩

namespace Node

variable {gap : Nat}

/-- A condition is printed when its parts are. -/
theorem isPrinted_condition {condition : Condition} (legible : condition.IsLegible)
    (printed : ∀ child ∈ ofCondition condition, child.IsPrinted) :
    (Node.condition condition).IsPrinted := by
  intro gap
  cases condition with
  | expression value =>
      obtain ⟨pieces, prints⟩ := printed _ List.mem_cons_self gap
      exact ⟨_, .expression prints legible⟩
  | binding span isMutable pattern value =>
      obtain ⟨front, bound⟩ := legible.1.exists_prints
      obtain ⟨pieces, prints⟩ := printed (.expression value) (by simp [ofCondition]) 1
      exact ⟨_, .binding bound prints legible.2 span isMutable⟩

/-- An `if` statement is printed when its parts are. -/
theorem isPrinted_conditional {conditional : Conditional} (some : conditional.conditions ≠ [])
    (printed : ∀ child ∈ ofStatement (.conditional conditional), child.IsPrinted) :
    (Node.statement (.conditional conditional)).IsPrinted := by
  intro gap
  obtain ⟨span, conditions, thenBlock, otherwise⟩ := conditional
  simp only [ofStatement, List.forall_mem_append, List.forall_mem_cons, List.forall_mem_map] at printed
  obtain ⟨ofConditions, ofBlock, ofOtherwise⟩ := printed
  obtain ⟨front, listed⟩ := @Lexer.exists_listed _ .comma _ _ ofConditions some 1
  obtain ⟨pieces, block⟩ := ofBlock 1
  obtain ⟨tail, follows⟩ : ∃ tail, Alternative.Follows otherwise tail := by
    cases otherwise with
    | none => exact ⟨_, rfl⟩
    | some otherwise =>
        have printed := ofOtherwise otherwise (by simp)
        cases otherwise with
        | block node =>
            obtain ⟨inside, prints⟩ := printed 1
            exact ⟨_, inside, prints, rfl⟩
        | chained node =>
            obtain ⟨inside, prints⟩ := printed 1
            exact ⟨_, inside, prints, rfl⟩
  exact ⟨_, .of_parts listed block follows span⟩

/-- A loop is printed when its parts are. -/
theorem isPrinted_loop {loop : Loop} (legible : loop.IsLegible)
    (printed : ∀ child ∈ ofLoop loop, child.IsPrinted) : (Node.statement (.loop loop)).IsPrinted := by
  intro gap
  obtain ⟨span, form, header, body⟩ := loop
  have headed : (Node.expression header).IsPrinted := by
    cases form <;> exact printed _ (by simp [ofLoop])
  have braced : (Node.block body).IsPrinted := by
    cases form <;> exact printed _ (by simp [ofLoop])
  obtain ⟨front, headed⟩ := headed 1
  obtain ⟨pieces, braced⟩ := braced 1
  cases form with
  | forIn pattern =>
      obtain ⟨named, bound⟩ := (legible.2 pattern rfl).exists_prints
      exact ⟨_, .forIn bound headed legible.1 braced span⟩
  | whileDo => exact ⟨_, .whileDo headed legible.1 braced span⟩
  | repeatWhile => exact ⟨_, .repeatWhile braced headed legible.1 span⟩

/-- A case is printed when its statements are. -/
theorem isPrinted_switchCase {switchCase : SwitchCase} (legible : switchCase.IsLegible)
    (printed : ∀ statement ∈ switchCase.body.statements, (Node.statement statement).IsPrinted) :
    (Node.switchCase switchCase).IsPrinted := by
  obtain ⟨span, label, bodySpan, statements⟩ := switchCase
  obtain ⟨pieces, closed⟩ := Statement.exists_closed printed 0
  cases label with
  | default => exact ⟨_, @SwitchCase.Prints.of_closed .default _ _ _ rfl closed span bodySpan⟩
  | patterns listed =>
      obtain ⟨some, each⟩ := legible listed rfl
      obtain ⟨inside, isListed⟩ := @Lexer.exists_listed _ .comma CaseLabel.PatternPrints _
        (fun pattern member _ => (each pattern member).exists_prints) some 1
      have labelled : CaseLabel.Prints (.patterns listed) _ := ⟨inside, isListed, rfl⟩
      exact ⟨_, .of_closed labelled closed span bodySpan⟩

/-- Cases are printed when each of them is. -/
theorem exists_allPrint {cases : List SwitchCase}
    (printed : ∀ switchCase ∈ cases, (Node.switchCase switchCase).IsPrinted) :
    ∃ pieces, SwitchCase.AllPrint cases pieces := by
  induction cases with
  | nil => exact ⟨[], rfl⟩
  | cons first rest ih =>
      obtain ⟨ofFirst, ofRest⟩ := List.forall_mem_cons.mp printed
      obtain ⟨front, prints⟩ := ofFirst
      obtain ⟨back, others⟩ := ih ofRest
      exact ⟨_, front, back, prints, others, rfl⟩

/-- A `switch` statement is printed when its parts are. -/
theorem isPrinted_switch {switch : Switch} (legible : switch.subject.FitsHeader)
    (printed : ∀ child ∈ ofStatement (.switch switch), child.IsPrinted) :
    (Node.statement (.switch switch)).IsPrinted := by
  intro gap
  obtain ⟨span, subject, cases⟩ := switch
  obtain ⟨ofSubject, ofCases⟩ := List.forall_mem_cons.mp printed
  obtain ⟨front, headed⟩ := ofSubject 1
  obtain ⟨pieces, inside⟩ := exists_allPrint (List.forall_mem_map.mp ofCases)
  exact ⟨_, .switch headed legible inside span⟩

/-- A statement is printed when it is printed whole and its parts are printed. -/
theorem isPrinted_statement {statement : Statement} (legible : statement.IsLegible)
    (whole : (Node.statement statement).PrintsWhole)
    (printed : ∀ child ∈ ofStatement statement, child.IsPrinted) :
    (Node.statement statement).IsPrinted := by
  cases statement with
  | expression node =>
      intro gap
      obtain ⟨pieces, prints⟩ := printed _ List.mem_cons_self gap
      exact ⟨_, .expression prints⟩
  | conditional node => exact isPrinted_conditional legible printed
  | switch node => exact isPrinted_switch legible printed
  | doBlock span body =>
      intro gap
      obtain ⟨pieces, prints⟩ := printed _ List.mem_cons_self 1
      exact ⟨_, .doBlock prints span⟩
  | loop node => exact isPrinted_loop legible printed
  | returning span keyword value =>
      intro gap
      cases value with
      | none => exact ⟨_, .returningNothing span keyword⟩
      | some value =>
          obtain ⟨pieces, prints⟩ := printed (.expression value) (by simp [ofStatement]) 1
          exact ⟨_, .returning prints span keyword⟩
  | «fallthrough» span => exact fun gap => ⟨_, .fallthrough span⟩
  | jump span kind => exact fun gap => ⟨_, .jump span kind⟩
  | directive node => exact fun gap => ⟨_, .directive legible⟩
  | declaration node => exact whole.elim

/-- **A node is printed** when it is printed whole and its children are printed. -/
theorem isPrinted_of_children {node : Node} (legible : node.Everywhere IsLegible)
    (whole : node.PrintsWhole)
    (printed : ∀ child ∈ node.children, child.Everywhere IsPrinted) : node.IsPrinted := by
  have below : ∀ child ∈ node.children, child.IsPrinted :=
    fun child member => (printed child member).here
  cases node with
  | expression node => exact Expr.exists_prints legible whole printed
  | argument node =>
      intro gap
      obtain ⟨span, label, value⟩ := node
      have ofValue : (Node.expression value).IsPrinted := below _ (by simp [children])
      cases label with
      | none =>
          obtain ⟨pieces, prints⟩ := ofValue gap
          exact ⟨pieces, .unlabelled prints span⟩
      | some label =>
          obtain ⟨pieces, prints⟩ := ofValue 1
          exact ⟨_, .labelled (legible.here label rfl) prints span⟩
  | closure node =>
      intro gap
      obtain ⟨span, params, ⟨bodySpan, statements⟩⟩ := node
      obtain ⟨front, prints⟩ := Closure.exists_paramsPrint legible.here
      have ofBody := printed (.block ⟨bodySpan, statements⟩) (by simp [children])
      obtain ⟨closed, isClosed⟩ := Statement.exists_closed (fun statement member =>
        (ofBody.child (List.mem_map_of_mem member)).here) 2
      exact ⟨_, .of_closed prints isClosed span bodySpan⟩
  | block node =>
      intro gap
      obtain ⟨span, statements⟩ := node
      obtain ⟨closed, isClosed⟩ := Statement.exists_closed (fun statement member =>
        below _ (List.mem_map_of_mem member)) 0
      exact ⟨_, .of_closed isClosed span⟩
  | condition node => exact isPrinted_condition legible.here below
  | statement node => exact isPrinted_statement legible.here whole below
  | switchCase node =>
      have isChild : Node.block node.body ∈ (Node.switchCase node).children :=
        List.mem_append_right _ (List.mem_singleton_self _)
      exact isPrinted_switchCase legible.here fun statement member =>
        ((printed _ isChild).child (List.mem_map_of_mem member)).here
  | _ => trivial

/-- **Nodes that are printed whole are printed.** -/
theorem everywhere_isPrinted {node : Node} (legible : node.Everywhere IsLegible)
    (whole : node.Everywhere PrintsWhole) : node.Everywhere IsPrinted := by
  induction node using Node.induction with
  | step node ih =>
      have below : ∀ child ∈ node.children, child.Everywhere IsPrinted := fun child member =>
        ih child member (legible.child member) (whole.child member)
      exact everywhere_iff.mpr ⟨isPrinted_of_children legible whole.here below, below⟩

/-! ### Cases -/

/-- Only a `switch` statement has cases. -/
theorem exists_switch_of_case {node : Node} {switchCase : SwitchCase}
    (member : Node.switchCase switchCase ∈ node.children) :
    ∃ switch, node = .statement (.switch switch) := by
  cases node with
  | statement node =>
      cases node with
      | switch node => exact ⟨node, rfl⟩
      | conditional node =>
          obtain ⟨span, conditions, thenBlock, otherwise⟩ := node
          rcases otherwise with _ | (_ | _) <;>
            simp [children, ofStatement, ofAlternative] at member
      | loop node =>
          obtain ⟨span, form, header, body⟩ := node
          cases form <;> simp [children, ofStatement, ofLoop] at member
      | _ => simp [children, ofStatement] at member
  | expression node => cases node <;> simp [children, ofExpr] at member
  | condition node => cases node <;> simp [children, ofCondition] at member
  | declaration node => cases node <;> simp [children, ofDeclaration] at member
  | switchCase node =>
      obtain ⟨span, label, body⟩ := node
      cases label <;> simp [children, ofLabel] at member
  | type node =>
      obtain ⟨part, same⟩ := DeclaredType.exists_of_mem_ofType member
      cases same
  | param node =>
      simp only [children, ofParam, List.mem_append, List.mem_map, List.mem_singleton, reduceCtorEq,
        and_false, exists_false, false_or, or_false] at member
      split at member
      · cases member
      · split at member <;> simp at member
  | _ => simp [children] at member

/-- Printable nodes have no cases in them. -/
theorem everywhere_isNoCase {node : Node} (noCase : node.IsNoCase)
    (printable : node.Everywhere IsPrintable) : node.Everywhere IsNoCase := by
  induction node using Node.induction with
  | step node ih =>
      refine everywhere_iff.mpr ⟨noCase, fun child member =>
        ih child member ?_ (printable.child member)⟩
      cases child with
      | switchCase switchCase =>
          obtain ⟨switch, rfl⟩ := exists_switch_of_case member
          exact printable.here
      | _ => trivial

end Node

/-! ### Statements of a program -/

/-- **A printed statement is read back** as one statement, as its text is read. -/
theorem Statement.Prints.exists_parse {statement : Statement} {pieces : List Piece}
    (prints : Statement.Prints 0 statement pieces) :
    ∃ again, parse statement.text = .ok ⟨[again]⟩ ∧ again.bare = statement.reread := by
  obtain ⟨tokens, cut, length, sees⟩ := prints.printed.exists_tokens
  rw [← List.append_nil pieces] at sees
  obtain ⟨values, c', yields, -, same⟩ := @Statement.recovers_listed 0 (pieces.length + 1)
    (pieces.length + 1) [statement] pieces [] _ Statement.isStop_endOfFile (.single prints)
    (Nat.le_succ _) rfl rfl (Nat.le_add_left _ _) _ sees
  rw [List.map_singleton] at same
  obtain ⟨again, rfl, sameAgain⟩ := List.map_eq_singleton_iff.mp same
  refine ⟨again, parse_eq_ok_iff.mpr ⟨tokens, cut, c', ?_⟩, sameAgain⟩
  rw [length]
  exact yields

/-- The nodes within a node of a parsed source are legible. -/
theorem Node.everywhere_isLegible {source : String} {program : Program} {node : Node}
    (parsed : parse source = .ok program) (within : node.WithinProgram program) :
    node.Everywhere Node.IsLegible := by
  obtain ⟨top, member, within⟩ := within
  exact fun inner deeper =>
    ((Program.isSound_of_parse parsed).1 inner ⟨top, member, deeper.trans within⟩).legible

/-- **A statement of a parsed source that is printed whole is read back** from its text as one
statement, as its text is read. -/
theorem exists_parse_text {source : String} {program : Program} {statement : Statement}
    (parsed : parse source = .ok program)
    (within : (Node.statement statement).WithinProgram program)
    (whole : (Node.statement statement).Everywhere Node.PrintsWhole) :
    ∃ again, parse statement.text = .ok ⟨[again]⟩ ∧ again.bare = statement.reread := by
  have legible := Node.everywhere_isLegible parsed within
  obtain ⟨pieces, prints⟩ := (Node.everywhere_isPrinted legible whole).here.statement 0
  exact prints.exists_parse

/-- **The text of a printable statement of a parsed source is read as the statement** exactly where
calls stand apart. -/
theorem parse_text_iff {source : String} {program : Program} {statement : Statement}
    (parsed : parse source = .ok program)
    (within : (Node.statement statement).WithinProgram program)
    (printable : (Node.statement statement).Everywhere Node.IsPrintable) :
    (∃ again, parse statement.text = .ok ⟨[again]⟩ ∧ again.bare = statement.bare) ↔
      (Node.statement statement).Everywhere Node.CallsApart := by
  have whole := printable.imp fun _ => Node.IsPrintable.printsWhole
  obtain ⟨again, read, same⟩ := exists_parse_text parsed within whole
  have reread : (∃ again, parse statement.text = .ok ⟨[again]⟩ ∧ again.bare = statement.bare) ↔
      (Node.statement statement).IsReread := by
    constructor
    · rintro ⟨other, readOther, sameOther⟩
      rw [read] at readOther
      cases readOther
      exact same.symm.trans sameOther
    · exact fun isReread => ⟨again, read, same.trans isReread⟩
  have noCase := @Node.everywhere_isNoCase (.statement statement) trivial printable
  rw [reread, Node.isReread_iff_everywhere]
  exact ⟨fun holds => holds.imp fun _ => And.left,
    fun apart inner deeper => ⟨apart inner deeper, noCase inner deeper⟩⟩

/-! ### Blocks of a program -/

/-- The block that tokens make up, with nothing after it. -/
def blockOfTokens (source : List Char) (tokens : List Token) : Except SyntaxError Block :=
  let whole : Parser Block := do
    let block ← Parser.block (Parser.innerBelow tokens.length)
    let _ ← Parser.expect .endOfFile
    return block
  whole.run' (.atStart source tokens)

/-- The block that a text is, with its braces. -/
def parseBlock (text : String) : Except SyntaxError Block := do
  blockOfTokens text.toList (← tokenize text)

theorem parseBlock_of_blockOfTokens {text : String} {tokens : List Token} {block : Block}
    (cut : tokenize text = .ok tokens) (read : blockOfTokens text.toList tokens = .ok block) :
    parseBlock text = .ok block := by
  rw [parseBlock, cut]
  exact read

theorem blockOfTokens_eq_ok {source : List Char} {tokens : List Token} {block : Block} {c' : Cursor}
    (read : (Parser.block (Parser.innerBelow tokens.length)).Yields (.atStart source tokens) block c')
    (ends : c'.next.kind = .endOfFile) : blockOfTokens source tokens = .ok block := by
  rw [blockOfTokens, Parser.run_eq_ok_iff]
  simp only [Parser.yields_bind, Parser.yields_expect, Parser.yields_pure]
  exact ⟨_, block, c', read, _, _, ⟨ends, rfl, rfl⟩, rfl, rfl⟩

/-- **A printed block is read back** as its text is read. -/
theorem Block.Prints.exists_parseBlock {block : Block} {pieces : List Piece}
    (prints : Block.Prints 0 block pieces) :
    ∃ again, parseBlock block.text = .ok again ∧ again.rebuild .plain = block.reread := by
  obtain ⟨tokens, cut, length, sees⟩ := prints.printed.exists_tokens
  have few : pieces.length + ([] : List Piece).length ≤ tokens.length + 1 := by
    rw [length, List.length_nil]
    omega
  obtain ⟨again, c', yields, sees', same⟩ := prints.recovers few (.atStart _ tokens)
    (by rwa [List.append_nil])
  exact ⟨again, parseBlock_of_blockOfTokens cut (blockOfTokens_eq_ok yields sees'.kind), same⟩

/-- Blocks have the same statements when they are the same without their places. -/
theorem Block.map_bare_eq_iff {first second : Block} :
    first.statements.map Statement.bare = second.statements.map Statement.bare ↔
      first.rebuild .plain = second.rebuild .plain := by
  obtain ⟨firstSpan, firsts⟩ := first
  obtain ⟨secondSpan, seconds⟩ := second
  rw [rebuild, rebuild, Statement.rebuilds_eq_map, Statement.rebuilds_eq_map, Block.mk.injEq]
  exact (and_iff_right rfl).symm

/-- **The text of a block of a parsed source that is printed whole is read as the block** exactly
where calls stand apart and there is no case. -/
theorem parseBlock_text_iff {source : String} {program : Program} {block : Block}
    (parsed : parse source = .ok program) (within : (Node.block block).WithinProgram program)
    (whole : (Node.block block).Everywhere Node.PrintsWhole) :
    (∃ again, parseBlock block.text = .ok again ∧
        again.statements.map Statement.bare = block.statements.map Statement.bare) ↔
      (Node.block block).Everywhere fun inner => inner.CallsApart ∧ inner.IsNoCase := by
  have legible := Node.everywhere_isLegible parsed within
  obtain ⟨pieces, prints⟩ := (Node.everywhere_isPrinted legible whole).here 0
  obtain ⟨again, read, same⟩ := Block.Prints.exists_parseBlock prints
  rw [← Node.isReread_iff_everywhere]
  constructor
  · rintro ⟨other, readOther, sameOther⟩
    rw [read] at readOther
    cases readOther
    exact same.symm.trans (Block.map_bare_eq_iff.mp sameOther)
  · exact fun isReread => ⟨again, read, Block.map_bare_eq_iff.mpr (same.trans isReread)⟩

/-! ### Statements of sources -/

/-- An optional binding before a call with a closure. -/
def bindingCall : Statement :=
  .conditional ⟨⟨0, 41⟩, [.binding ⟨3, 18⟩ false ⟨⟨7, 8⟩, "x", none, false, true⟩
    (.binary ⟨11, 18⟩ (.ident ⟨11, 12⟩ "a") .coalesce (.implicitMember ⟨16, 18⟩ ⟨⟨17, 18⟩, "b"⟩))],
    ⟨⟨19, 41⟩, [.expression (.call ⟨23, 39⟩ (.ident ⟨23, 24⟩ "f")
      [⟨⟨25, 26⟩, none, .ident ⟨25, 26⟩ "x"⟩] (some ⟨⟨28, 39⟩, [⟨⟨30, 31⟩, "y"⟩],
        ⟨⟨28, 39⟩, [.expression (.unary ⟨35, 37⟩ .negate (.ident ⟨36, 37⟩ "y"))]⟩⟩))]⟩, none⟩

/-- A statement with a binding, operators and a closure on two lines is read back from its text. -/
theorem parse_text_bindingCall :
    parse "if let x = a ?? .b \x7b\n  f(x) \x7b y in -y \x7d\n\x7d" = .ok ⟨[bindingCall]⟩ ∧
      bindingCall.text = "if let x = a ?? .b \x7b f(x) \x7b y in -y \x7d \x7d" ∧
      ∃ again, parse bindingCall.text = .ok ⟨[again]⟩ ∧ again.bare = bindingCall.bare := by
  have cut : tokenize "if let x = a ?? .b \x7b\n  f(x) \x7b y in -y \x7d\n\x7d" = .ok [
      ⟨.keyword .if_, ⟨0, 2⟩, "if", false⟩, ⟨.keyword .let_, ⟨3, 6⟩, "let", false⟩,
      ⟨.identifier, ⟨7, 8⟩, "x", false⟩, ⟨.symbol .assign, ⟨9, 10⟩, "=", false⟩,
      ⟨.identifier, ⟨11, 12⟩, "a", false⟩, ⟨.symbol .coalesce, ⟨13, 15⟩, "??", false⟩,
      ⟨.symbol .dot, ⟨16, 17⟩, ".", false⟩, ⟨.identifier, ⟨17, 18⟩, "b", false⟩,
      ⟨.symbol .braceOpen, ⟨19, 20⟩, "\x7b", false⟩, ⟨.identifier, ⟨23, 24⟩, "f", true⟩,
      ⟨.symbol .parenOpen, ⟨24, 25⟩, "(", false⟩, ⟨.identifier, ⟨25, 26⟩, "x", false⟩,
      ⟨.symbol .parenClose, ⟨26, 27⟩, ")", false⟩, ⟨.symbol .braceOpen, ⟨28, 29⟩, "\x7b", false⟩,
      ⟨.identifier, ⟨30, 31⟩, "y", false⟩, ⟨.keyword .in_, ⟨32, 34⟩, "in", false⟩,
      ⟨.symbol .minus, ⟨35, 36⟩, "-", false⟩, ⟨.identifier, ⟨36, 37⟩, "y", false⟩,
      ⟨.symbol .braceClose, ⟨38, 39⟩, "\x7d", false⟩, ⟨.symbol .braceClose, ⟨40, 41⟩, "\x7d", true⟩,
      ⟨.endOfFile, ⟨41, 41⟩, "", false⟩] := by
    decide +kernel
  have parsed : parse _ = .ok ⟨[bindingCall]⟩ := parse_of_ofTokens cut rfl
  have printable : (Node.statement bindingCall).Everywhere Node.IsPrintable := by
    repeat' first
      | exact trivial
      | exact List.forall_mem_nil _
      | refine List.forall_mem_cons.mpr ⟨?_, ?_⟩
      | refine Node.everywhere_iff.mpr ⟨?_, ?_⟩
  have apart : (Node.statement bindingCall).Everywhere Node.CallsApart :=
    ((Node.isReread_iff_everywhere (.statement bindingCall)).mp rfl).imp fun _ => And.left
  exact ⟨parsed, rfl, (parse_text_iff parsed ⟨_, List.mem_singleton_self _, .self _⟩ printable).mpr
    apart⟩

/-- A call of a call, with a closure and no arguments. -/
def callOfCall : Statement :=
  .expression (.call ⟨0, 11⟩ (.call ⟨0, 3⟩ (.ident ⟨0, 1⟩ "g") [] none) [] (some ⟨⟨6, 11⟩, [],
    ⟨⟨6, 11⟩, [.expression (.literal ⟨8, 9⟩ (.integer 1))]⟩⟩))

/-- **The text of a call of a call is not read as it**, but as one call with the closure. -/
theorem parse_text_callOfCall :
    parse "g()() \x7b 1 \x7d" = .ok ⟨[callOfCall]⟩ ∧
      (Node.statement callOfCall).Everywhere Node.IsPrintable ∧
      callOfCall.text = "g() \x7b 1 \x7d" ∧
      ¬ ∃ again, parse callOfCall.text = .ok ⟨[again]⟩ ∧ again.bare = callOfCall.bare := by
  have cut : tokenize "g()() \x7b 1 \x7d" = .ok [⟨.identifier, ⟨0, 1⟩, "g", false⟩,
      ⟨.symbol .parenOpen, ⟨1, 2⟩, "(", false⟩, ⟨.symbol .parenClose, ⟨2, 3⟩, ")", false⟩,
      ⟨.symbol .parenOpen, ⟨3, 4⟩, "(", false⟩, ⟨.symbol .parenClose, ⟨4, 5⟩, ")", false⟩,
      ⟨.symbol .braceOpen, ⟨6, 7⟩, "\x7b", false⟩, ⟨.integer, ⟨8, 9⟩, "1", false⟩,
      ⟨.symbol .braceClose, ⟨10, 11⟩, "\x7d", false⟩, ⟨.endOfFile, ⟨11, 11⟩, "", false⟩] := by
    decide +kernel
  have cutAgain : tokenize "g() \x7b 1 \x7d" = .ok [⟨.identifier, ⟨0, 1⟩, "g", false⟩,
      ⟨.symbol .parenOpen, ⟨1, 2⟩, "(", false⟩, ⟨.symbol .parenClose, ⟨2, 3⟩, ")", false⟩,
      ⟨.symbol .braceOpen, ⟨4, 5⟩, "\x7b", false⟩, ⟨.integer, ⟨6, 7⟩, "1", false⟩,
      ⟨.symbol .braceClose, ⟨8, 9⟩, "\x7d", false⟩, ⟨.endOfFile, ⟨9, 9⟩, "", false⟩] := by
    decide +kernel
  have read : parse callOfCall.text = .ok ⟨[.expression (.call ⟨0, 9⟩ (.ident ⟨0, 1⟩ "g") []
      (some ⟨⟨4, 9⟩, [], ⟨⟨4, 9⟩, [.expression (.literal ⟨6, 7⟩ (.integer 1))]⟩⟩))]⟩ :=
    parse_of_ofTokens cutAgain rfl
  refine ⟨parse_of_ofTokens cut rfl, ?_, rfl, ?_⟩
  · repeat' first
      | exact trivial
      | exact List.forall_mem_nil _
      | refine List.forall_mem_cons.mpr ⟨?_, ?_⟩
      | refine Node.everywhere_iff.mpr ⟨?_, ?_⟩
  · rintro ⟨again, same, bare⟩
    rw [read] at same
    cases same
    cases bare

end ResultBuilder.Syntax
