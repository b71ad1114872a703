import ResultBuilder.Proofs.Syntax.Climbing.Tree
import ResultBuilder.Proofs.Syntax.Depth.Parsing

/-!
# How rows are parsed

A row of operands is read when each of its operands is, with an operator on the same line in front
of every one but the first, up to where no operator goes on. The parser that climbs by precedence
then yields the tree of the row, whatever its depth.

* **`Cursor.ReadsRow`**: the operands and operators that come next.
* **`Parser.readsTree_of_yields_binary`**: what is yielded is a grouped tree of such a row.
* **`Cursor.ReadsRow.exists_tree`**: every such row has its tree yielded.
* **`Cursor.IsSound.groupsRows`**: both, from every place in a source.
-/

namespace ResultBuilder.Syntax

open Cursor (Reads)

variable {c c' middle : Cursor} {region : Region} {depth : Nat}

/-! ### Where operands stand -/

namespace Parser

variable {inner : Inner} {expr : Expr}

theorem span_of_yields_primary (yields : (primary inner).Yields c expr c') :
    expr.span = c'.spanFrom c.next.span.start := by
  have yields := yields_primary.mp yields
  dsimp only at yields
  split at yields
  case h_1 =>
    obtain ⟨-, rfl, rfl⟩ := yields
    rfl
  case h_10 =>
    obtain ⟨-, rfl, rfl⟩ := yields
    rfl
  case h_11 =>
    obtain ⟨elements, last, -, rfl, rfl⟩ := yields
    unfold parenthesized
    split <;> rfl
  case h_12 =>
    obtain ⟨elements, last, -, rfl, rfl⟩ := yields
    rfl
  case h_13 =>
    obtain ⟨closure, read, rfl⟩ := yields
    obtain ⟨-, params, middle, -, body, last, -, -, rfl, rfl⟩ := yields_closure.mp read
    rfl
  case h_14 => exact yields.elim
  all_goals
    obtain ⟨rfl, rfl⟩ := yields
    rfl

theorem span_of_yields_postfixStep {start : Nat} {operand : Expr}
    (yields : (postfixStep inner region start operand).Yields c (some expr) c') :
    expr.span = c'.spanFrom start := by
  have yields := yields_postfixStep.mp yields
  split at yields
  case h_1 =>
    split at yields
    · cases yields.1
    · obtain ⟨args, middle, -, trailing, last, -, rfl, same⟩ := yields
      cases same
      rfl
  case h_2 =>
    split at yields
    · cases yields.1
    · obtain ⟨trailing, last, -, rfl, same⟩ := yields
      cases same
      rfl
  case h_3 | h_4 =>
    split at yields
    · cases yields.1
    · obtain ⟨_, last, -, rfl, same⟩ := yields
      cases same
      rfl
  case h_5 | h_6 =>
    obtain ⟨rfl, same⟩ := yields
    cases same
    rfl
  case h_7 => cases yields.1

theorem span_of_yields_postfixChain {start bound : Nat} {operand : Expr}
    (span : operand.span = c.spanFrom start)
    (yields : (postfixChain inner region start operand bound).Yields c expr c') :
    expr.span = c'.spanFrom start := by
  induction bound generalizing c operand with
  | zero =>
      obtain ⟨rfl, rfl⟩ := yields_pure.mp yields
      exact span
  | succ bound ih =>
      obtain ⟨longer, middle, step, rest⟩ := yields_postfixChain.mp yields
      cases longer with
      | none =>
          obtain ⟨rfl, rfl⟩ := rest
          rwa [Inner.Builds.eq_of_postfixStep_none step]
      | some longer => exact ih (span_of_yields_postfixStep step) rest

/-- **An operand spans from its first token to its last.** -/
theorem span_of_yields_unary (yields : (Parser.unary inner region).Yields c expr c') :
    expr.span = c'.spanFrom c.next.span.start := by
  have yields := yields_unary.mp yields
  split at yields
  · obtain ⟨operand, last, -, rfl, rfl⟩ := yields
    rfl
  · obtain ⟨operand, middle, read, rest⟩ := yields
    exact span_of_yields_postfixChain (span_of_yields_primary read) rest

end Parser

/-! ### Rows -/

/-- **An operand is read**, with its operators in front of it, by parsers that are as deep as there
are tokens left. -/
def Cursor.ReadsOperand (c : Cursor) (region : Region) (operand : Expr) (c' : Cursor) : Prop :=
  ((Parser.innerOfDepth c.rest.length).unary region).Yields c operand c'

/-- **Operators with operands behind them are read**, each operator on the line on which what is
before it ends. -/
inductive Cursor.ReadsRest (region : Region) : Cursor → List (BinaryOp × Expr) → Cursor → Prop
  | done (c : Cursor) : ReadsRest region c [] c
  | next {c middle c' : Cursor} {op : BinaryOp} {operand : Expr} {rest : List (BinaryOp × Expr)}
      (isOp : Parser.binaryOp? c.next.kind = some op) (onLine : c.breaks region = false)
      (reads : c.advance.ReadsOperand region operand middle)
      (further : ReadsRest region middle rest c') : ReadsRest region c ((op, operand) :: rest) c'

/-- **A row is read** up to where no operator goes on. -/
structure Cursor.ReadsRow (c : Cursor) (region : Region) (row : Row) (c' : Cursor) : Prop where
  reads : ∃ middle, c.ReadsOperand region row.first middle ∧ middle.ReadsRest region row.rest c'
  ends : c'.Stops region 1

namespace Cursor

theorem ReadsRest.trans {rest more : List (BinaryOp × Expr)}
    (reads : c.ReadsRest region rest middle)
    (further : middle.ReadsRest region more c') : c.ReadsRest region (rest ++ more) c' := by
  induction reads with
  | done => exact further
  | next isOp onLine reads _ ih => exact .next isOp onLine reads (ih further)

/-- What an operand is read as, and up to where, is determined. -/
theorem ReadsOperand.unique {operand other : Expr} {end₁ end₂ : Cursor}
    (reads : c.ReadsOperand region operand end₁) (also : c.ReadsOperand region other end₂) :
    operand = other ∧ end₁ = end₂ := by
  have same := reads.symm.trans also
  cases same
  exact ⟨rfl, rfl⟩

/-- What a row goes on with, and up to where, is determined. -/
theorem ReadsRest.unique {rest more : List (BinaryOp × Expr)} {end₁ end₂ : Cursor}
    (reads : c.ReadsRest region rest end₁) (ends : end₁.Stops region 1)
    (also : c.ReadsRest region more end₂) (alsoEnds : end₂.Stops region 1) :
    rest = more ∧ end₁ = end₂ := by
  -- no operator stands where a row ends
  have none {c : Cursor} {op : BinaryOp} (stops : c.Stops region 1)
      (isOp : Parser.binaryOp? c.next.kind = some op) (onLine : c.breaks region = false) : False :=
    absurd (stops op isOp onLine) (Nat.not_lt.mpr op.precedence_pos)
  induction reads generalizing more with
  | done =>
      cases also with
      | done => exact ⟨rfl, rfl⟩
      | next isOp onLine => exact (none ends isOp onLine).elim
  | next isOp onLine reads _ ih =>
      cases also with
      | done => exact (none alsoEnds isOp onLine).elim
      | next isOther _ readsOther further =>
          obtain rfl := Option.some.inj (isOp.symm.trans isOther)
          obtain ⟨rfl, rfl⟩ := reads.unique readsOther
          obtain ⟨rfl, rfl⟩ := ih ends further
          exact ⟨rfl, rfl⟩

theorem ReadsRow.unique {row other : Row} {end₁ end₂ : Cursor} (reads : c.ReadsRow region row end₁)
    (also : c.ReadsRow region other end₂) : row = other ∧ end₁ = end₂ := by
  obtain ⟨⟨middle, first, rest⟩, ends⟩ := reads
  obtain ⟨⟨middle', first', rest'⟩, ends'⟩ := also
  obtain ⟨same, rfl⟩ := first.unique first'
  obtain ⟨sameRest, rfl⟩ := rest.unique ends rest' ends'
  refine ⟨?_, rfl⟩
  cases row
  cases other
  simp_all

/-- The span of what is read up to a cursor. -/
theorem Reads.spanFrom_eq {nodes : List Node} (reads : c.Reads nodes c') :
    c'.spanFrom c.next.span.start = ⟨c.next.span.start, c'.lastEnd⟩ := by
  rw [spanFrom, Nat.max_eq_left reads.spread.le]

end Cursor

/-- **A tree is read**: a grouped one whose operators bind at least as tightly as a number says,
from the operands and operators that it reads as. -/
structure Cursor.ReadsTree (c : Cursor) (region : Region) (least : Nat) (tree : Expr)
    (c' : Cursor) : Prop where
  grouped : tree.IsGrouped
  binds : tree.BindsAt least
  span : tree.span = ⟨c.next.span.start, c'.lastEnd⟩
  row : ∃ middle, c.ReadsOperand region tree.inOrder.first middle ∧
    middle.ReadsRest region tree.inOrder.rest c'

/-- Two trees with an operator between them. -/
theorem Cursor.ReadsTree.join {start : Cursor} {least : Nat} {left right : Expr} {op : BinaryOp}
    (onLeft : start.ReadsTree region least left c) (isOp : Parser.binaryOp? c.next.kind = some op)
    (onLine : c.breaks region = false) (tight : least ≤ op.precedence)
    (binds : left.BindsAt op.precedence)
    (onRight : c.advance.ReadsTree region (op.precedence + 1) right c') :
    start.ReadsTree region least (.binary ⟨start.next.span.start, c'.lastEnd⟩ left op right)
      c' where
  grouped := ⟨by rw [onLeft.span, onRight.span], ⟨onLeft.grouped, binds⟩, onRight.grouped,
    onRight.binds⟩
  binds := tight
  span := rfl
  row := by
    obtain ⟨behindFirst, first, rest⟩ := onLeft.row
    obtain ⟨behindOperand, operand, more⟩ := onRight.row
    exact ⟨behindFirst, first, rest.trans (.next isOp onLine operand more)⟩

namespace Parser

open Cursor (ReadsOperand ReadsRest ReadsRow ReadsTree)

theorem yields_unary_iff {operand : Expr} (sound : c.IsSound) (enough : c.rest.length ≤ depth) :
    ((innerOfDepth depth).unary region).Yields c operand c' ↔ c.ReadsOperand region operand c' := by
  have agree := (agree_innerOfDepth enough le_rfl).unary region _ le_rfl
  rw [ReadsOperand, Yields, Yields, agree.same sound le_rfl trivial]

/-- What is read as an operand is one. -/
theorem reads_operand {operand : Expr} (sound : c.IsSound)
    (reads : c.ReadsOperand region operand c') :
    c.ReadsExpr region 8 operand c' ∧ operand.IsOperand ∧
      operand.span = ⟨c.next.span.start, c'.lastEnd⟩ := by
  have builds := builds_innerOfDepth c.rest.length
  have read := builds.unary region sound le_rfl reads
  refine ⟨read, fun span left op right same => ?_, ?_⟩
  · have rank := read.rank
    rw [same] at rank
    exact absurd (Nat.le_of_succ_le_succ rank) (Nat.not_le.mpr (Nat.lt_succ_of_le op.precedence_le))
  · obtain ⟨depth, some⟩ := Nat.exists_eq_succ_of_ne_zero sound.length_pos.ne'
    rw [ReadsOperand, some] at reads
    rw [span_of_yields_unary reads, read.reads.spanFrom_eq]

/-- A tree of one operand is read as that operand. -/
theorem readsTree_of_operand {operand : Expr} {least : Nat} (sound : c.IsSound)
    (reads : c.ReadsOperand region operand c') : c.ReadsTree region least operand c' := by
  obtain ⟨-, isOperand, span⟩ := reads_operand sound reads
  refine ⟨isOperand.isGrouped, isOperand.bindsAt, span, c', ?_⟩
  rw [isOperand.inOrder_eq]
  exact ⟨reads, .done c'⟩

/-! ### Only trees of rows are yielded -/

/-- A chain of operators yields a tree when the next operator binds no more tightly than the one at
the top of what is on its left. -/
theorem readsTree_of_yields_binaryChain {inner : Inner} {start : Cursor} {least bound : Nat}
    {left tree : Expr} (builds : inner.Builds depth)
    (trees : ∀ least ≤ 7, ∀ c : Cursor, c.IsSound → c.rest.length ≤ depth → ∀ tree c',
      (inner.binary region least).Yields c tree c' → c.ReadsTree region least tree c')
    (before : start.ReadsTree region least left c) (passed : start.Reads [] c)
    (few : start.rest.length ≤ depth + 1)
    (binds : ∀ op, binaryOp? c.next.kind = some op → c.breaks region = false →
      left.BindsAt op.precedence)
    (yields : (binaryChain inner region start.next.span.start least left bound).Yields c tree c') :
    start.ReadsTree region least tree c' := by
  induction bound generalizing c left with
  | zero =>
      obtain ⟨rfl, rfl⟩ := yields_pure.mp yields
      exact before
  | succ bound ih =>
      have yields := yields_binaryChain.mp yields
      split at yields
      · obtain ⟨rfl, rfl⟩ := yields
        exact before
      · next op isOp =>
          split at yields
          · obtain ⟨rfl, rfl⟩ := yields
            exact before
          · next goesOn =>
              obtain ⟨right, middle, read, rest⟩ := yields
              simp only [not_or, Nat.not_lt, Bool.not_eq_true] at goesOn
              have toOp := passed.fewer
              have past := Reads.take passed.sound' (notEnd_of_binaryOp? isOp)
              have toOperand := past.fewer
              have fewer : c.advance.rest.length ≤ depth := by omega
              have little : op.precedence + 1 ≤ 7 := Nat.succ_le_succ op.precedence_le
              obtain ⟨building, stopping⟩ := builds.binary region _ little
              have stops := stopping past.sound' fewer read
              have onward : start.Reads [] middle :=
                passed.trans (past.trans (building past.sound' fewer read).reads.forget)
              have whole := before.join isOp goesOn.2 goesOn.1 (binds op isOp goesOn.2)
                (trees _ little _ past.sound' fewer _ _ read)
              rw [onward.spanFrom_eq] at rest
              -- the right side has taken all that binds more tightly than this operator
              exact ih whole onward (fun other isOther onLine =>
                Nat.le_of_lt_succ (stops other isOther onLine)) rest

/-- **What is yielded is a tree of a row**: grouped, and read from the operands and operators that
come next, up to an operator that binds less tightly. -/
theorem readsTree_of_yields_binary {least : Nat} {tree : Expr} (little : least ≤ 7)
    (sound : c.IsSound) (enough : c.rest.length ≤ depth)
    (yields : ((innerOfDepth depth).binary region least).Yields c tree c') :
    c.ReadsTree region least tree c' := by
  induction depth generalizing c c' least tree with
  | zero => exact absurd sound.length_pos (Nat.not_lt.mpr enough)
  | succ depth ih =>
      obtain ⟨left, middle, read, rest⟩ := yields_binary.mp yields
      have first := (yields_unary_iff sound enough).mp read
      have reads := (reads_operand sound first).1.reads
      have isOperand := (reads_operand sound first).2.1
      exact readsTree_of_yields_binaryChain (builds_innerOfDepth depth)
        (fun least little c sound few tree c' yields => ih little sound few yields)
        (readsTree_of_operand sound first) reads.forget enough (fun _ _ _ => isOperand.bindsAt) rest

/-! ### The tree of every row is yielded -/

/-- A chain goes on with the operators and operands that are there, up to one that binds less
tightly. -/
theorem exists_yields_binaryChain {inner : Inner} {start least bound : Nat} {left : Expr}
    {rest : List (BinaryOp × Expr)} (builds : inner.Builds depth)
    (goesOn : ∀ least ≤ 7, ∀ c operand middle rest, c.IsSound → c.rest.length ≤ depth →
      c.ReadsOperand region operand middle → middle.ReadsRest region rest c' →
      ∃ tree last back, (inner.binary region least).Yields c tree last ∧
        last.ReadsRest region back c')
    (reads : c.ReadsRest region rest c') (ends : c'.Stops region 1) (sound : c.IsSound)
    (few : c.rest.length ≤ depth + 1) (enough : c.rest.length ≤ bound) :
    ∃ tree last back, (binaryChain inner region start least left bound).Yields c tree last ∧
      last.ReadsRest region back c' := by
  induction bound generalizing c left rest with
  | zero => exact absurd sound.length_pos (Nat.not_lt.mpr enough)
  | succ bound ih =>
      have keeps (stays : ∀ op, binaryOp? c.next.kind = some op →
          op.precedence < least ∨ c.breaks region = true) :
          ∃ tree last back, (binaryChain inner region start least left (bound + 1)).Yields c tree
            last ∧ last.ReadsRest region back c' := by
        refine ⟨left, c, rest, yields_binaryChain.mpr ?_, reads⟩
        split
        · exact ⟨rfl, rfl⟩
        · next op isOp =>
            rw [if_pos (stays op isOp)]
            exact ⟨rfl, rfl⟩
      cases reads with
      | done =>
          refine keeps fun op isOp => .inr ?_
          by_contra onLine
          exact absurd (ends op isOp (Bool.not_eq_true _ ▸ onLine))
            (Nat.not_lt.mpr op.precedence_pos)
      | @next _ middle _ op operand rest isOp onLine first further =>
          by_cases loose : op.precedence < least
          · -- what is looser than the bound is left to the chain that this one is in
            refine keeps fun other isOther => .inl ?_
            rwa [← Option.some.inj (isOp.symm.trans isOther)]
          · have past := Reads.take sound (notEnd_of_binaryOp? isOp)
            have toOperand := past.fewer
            have little : op.precedence + 1 ≤ 7 := Nat.succ_le_succ op.precedence_le
            have fewer : c.advance.rest.length ≤ depth := by omega
            obtain ⟨right, last, back, read, more⟩ :=
              goesOn _ little _ _ _ _ past.sound' fewer first further
            have reads := ((builds.binary region _ little).1 past.sound' fewer read).reads
            have toLast := reads.fewer
            obtain ⟨tree, stop, others, chain, remaining⟩ :=
              @ih last (.binary (last.spanFrom start) left op right) back more reads.sound'
                (by omega) (by omega)
            refine ⟨tree, stop, others, yields_binaryChain.mpr ?_, remaining⟩
            rw [isOp]
            dsimp only
            rw [if_neg (by simp [loose, onLine])]
            exact ⟨right, last, read, chain⟩

theorem exists_yields_binary {least : Nat} {operand : Expr} {rest : List (BinaryOp × Expr)}
    (little : least ≤ 7) (sound : c.IsSound) (enough : c.rest.length ≤ depth)
    (first : c.ReadsOperand region operand middle) (reads : middle.ReadsRest region rest c')
    (ends : c'.Stops region 1) :
    ∃ tree last back, ((innerOfDepth depth).binary region least).Yields c tree last ∧
      last.ReadsRest region back c' := by
  induction depth generalizing c middle least operand rest with
  | zero => exact absurd sound.length_pos (Nat.not_lt.mpr enough)
  | succ depth ih =>
      have operandReads := (reads_operand sound first).1.reads
      have fewer := operandReads.fewer
      obtain ⟨tree, last, back, chain, remaining⟩ :=
        @exists_yields_binaryChain _ _ _ _ { innerOfDepth depth with bound := depth + 1 }
          c.next.span.start least (depth + 1) operand _ (builds_innerOfDepth depth)
          (fun least little c operand middle rest sound few first reads =>
            ih little sound few first reads) reads ends operandReads.sound' (by omega) (by omega)
      exact ⟨tree, last, back,
        yields_binary.mpr ⟨operand, middle, (yields_unary_iff sound enough).mpr first, chain⟩,
        remaining⟩

end Parser

/-- **Where a row is read, its tree is yielded**, by the parsers of every depth that suffices. -/
theorem Cursor.ReadsRow.exists_tree {row : Row} (reads : c.ReadsRow region row c')
    (sound : c.IsSound) (enough : c.rest.length ≤ depth) :
    ∃ tree : Expr, tree.IsTreeOf row ∧
      ((Parser.innerOfDepth depth).binary region 1).Yields c tree c' := by
  obtain ⟨middle, first, rest⟩ := reads.reads
  obtain ⟨tree, last, back, yields, -⟩ :=
    Parser.exists_yields_binary (by decide : 1 ≤ 7) sound enough first rest reads.ends
  have stops := ((Parser.builds_innerOfDepth depth).binary region 1 (by decide)).2 sound enough
    yields
  have readsTree := Parser.readsTree_of_yields_binary (by decide) sound enough yields
  -- some tree of some row is yielded, and no other row is there to be read
  obtain ⟨rfl, rfl⟩ : row = tree.inOrder ∧ c' = last := reads.unique ⟨readsTree.row, stops⟩
  exact ⟨tree, readsTree.grouped.isTreeOf_inOrder, yields⟩

/-- **Rows are parsed as their trees** from a cursor, by parsers of a depth. -/
structure Cursor.GroupsRows (c : Cursor) (region : Region) (depth : Nat) : Prop where
  /-- Where a row is read, its tree is yielded. -/
  yields : ∀ row c', c.ReadsRow region row c' → ∃ tree : Expr, tree.IsTreeOf row ∧
    ((Parser.innerOfDepth depth).binary region 1).Yields c tree c'
  /-- Nothing else is yielded. -/
  only : ∀ tree c', ((Parser.innerOfDepth depth).binary region 1).Yields c tree c' →
    ∃ row, c.ReadsRow region row c' ∧ tree.IsTreeOf row

/-- **Climbing by precedence is correct** from every sound cursor, at every depth that suffices. -/
theorem Cursor.IsSound.groupsRows (sound : c.IsSound) (enough : c.rest.length ≤ depth) :
    c.GroupsRows region depth where
  yields row c' reads := reads.exists_tree sound enough
  only tree c' yields := by
    have readsTree := Parser.readsTree_of_yields_binary (by decide) sound enough yields
    have stops := ((Parser.builds_innerOfDepth depth).binary region 1 (by decide)).2 sound enough
      yields
    exact ⟨tree.inOrder, ⟨readsTree.row, stops⟩, readsTree.grouped.isTreeOf_inOrder⟩

end ResultBuilder.Syntax
