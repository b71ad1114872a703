import Mathlib.Data.List.Induction
import ResultBuilder.Syntax.Tree

/-!
# Operands with operators between them

Operands with binary operators between them are grouped by how tightly the operators bind. There is
one way to do so: the last of the loosest operators is at the top, with what is on its left and on
its right grouped likewise. A tree is grouped when no operator has a looser one on its left or one
that is not tighter on its right.

* **`Expr.inOrder`**: the row that a tree reads as from left to right.
* **`Expr.IsGrouped`**: the trees in which all operators bind as they should.
* **`Row.isGrouped_tree`**: every row can be grouped.
* **`Expr.IsGrouped.tree_inOrder`**, **`Expr.IsGrouped.eq_of_inOrder_eq`**: in one way only.
-/

namespace ResultBuilder.Syntax

/-- **A row**: operands with binary operators between them. -/
structure Row where
  /-- The first operand. -/
  first : Expr
  /-- The operators with the operands after them. -/
  rest : List (BinaryOp × Expr)

/-- Two rows with an operator between them. -/
def Row.join (row : Row) (op : BinaryOp) (other : Row) : Row :=
  ⟨row.first, row.rest ++ (op, other.first) :: other.rest⟩

namespace Expr

/-! ### Trees of operators -/

/-- **An operand** of a row: no binary operation, unless that is in parentheses. -/
def IsOperand (expr : Expr) : Prop :=
  ∀ span left op right, expr ≠ .binary span left op right

/-- **The in-order reading** of a tree: its operands and operators from left to right. -/
def inOrder : Expr → Row
  | .binary _ left op right => left.inOrder.join op right.inOrder
  | operand => ⟨operand, []⟩

/-- Whether an expression is no operation that binds less tightly than a number says. -/
def BindsAt (least : Nat) : Expr → Prop
  | .binary _ _ op _ => least ≤ op.precedence
  | _ => True

/-- **A grouped tree**: the left operand of an operator is no operation that binds less tightly, the
right one none that binds less or equally tightly, and an operation spans from the start of its left
operand to the end of its right one. -/
def IsGrouped : Expr → Prop
  | .binary span left op right =>
      span = ⟨left.span.start, right.span.stop⟩ ∧ (left.IsGrouped ∧ left.BindsAt op.precedence) ∧
        right.IsGrouped ∧ right.BindsAt (op.precedence + 1)
  | _ => True

variable {expr tree operand : Expr} {least : Nat}

theorem inOrder_binary {span : Span} {left right : Expr} {op : BinaryOp} :
    (binary span left op right).inOrder = left.inOrder.join op right.inOrder := rfl

namespace IsOperand

theorem inOrder_eq (isOperand : expr.IsOperand) : expr.inOrder = ⟨expr, []⟩ := by
  cases expr with
  | binary span left op right => exact (isOperand _ _ _ _ rfl).elim
  | _ => rfl

theorem bindsAt (isOperand : expr.IsOperand) : expr.BindsAt least := by
  cases expr with
  | binary span left op right => exact (isOperand _ _ _ _ rfl).elim
  | _ => trivial

theorem isGrouped (isOperand : expr.IsOperand) : expr.IsGrouped := by
  cases expr with
  | binary span left op right => exact (isOperand _ _ _ _ rfl).elim
  | _ => trivial

end IsOperand

theorem BindsAt.weaken {more : Nat} (binds : expr.BindsAt more) (less : least ≤ more) :
    expr.BindsAt least := by
  cases expr with
  | binary span left op right => exact Nat.le_trans less binds
  | _ => trivial

/-- **Induction over trees of operators**: what holds of operands, and of an operation when it holds of
what is on its left and on its right, holds of all trees. -/
theorem operatorInduction {motive : Expr → Prop} (isOperand : ∀ expr, expr.IsOperand → motive expr)
    (operation : ∀ span left op right, motive left → motive right →
      motive (.binary span left op right)) (expr : Expr) : motive expr := by
  fun_induction Expr.inOrder expr with
  | case1 span left op right ihLeft ihRight => exact operation span left op right ihLeft ihRight
  | case2 expr alone => exact isOperand expr alone

/-- The first operand of a tree is an operand, and so are the others. -/
theorem isOperand_inOrder (expr : Expr) :
    expr.inOrder.first.IsOperand ∧ ∀ next ∈ expr.inOrder.rest, next.2.IsOperand := by
  induction expr using operatorInduction with
  | isOperand expr isOperand =>
      rw [isOperand.inOrder_eq]
      exact ⟨isOperand, nofun⟩
  | operation span left op right ihLeft ihRight =>
      refine ⟨ihLeft.1, fun next listed => ?_⟩
      rcases List.mem_append.mp listed with onLeft | onRight
      · exact ihLeft.2 next onLeft
      · rcases List.mem_cons.mp onRight with rfl | further
        · exact ihRight.1
        · exact ihRight.2 next further

/-- **The operator at the top is the loosest** of a grouped tree. -/
theorem IsGrouped.le_precedence (grouped : tree.IsGrouped) (binds : tree.BindsAt least) :
    ∀ next ∈ tree.inOrder.rest, least ≤ next.1.precedence := by
  induction tree using operatorInduction generalizing least with
  | isOperand tree isOperand =>
      rw [isOperand.inOrder_eq]
      exact nofun
  | operation span left op right ihLeft ihRight =>
      obtain ⟨-, ⟨groupedLeft, bindsLeft⟩, groupedRight, bindsRight⟩ := grouped
      have top : least ≤ op.precedence := binds
      intro next listed
      rcases List.mem_append.mp listed with onLeft | onRight
      · exact ihLeft groupedLeft (bindsLeft.weaken top) next onLeft
      · rcases List.mem_cons.mp onRight with rfl | further
        · exact top
        · exact ihRight groupedRight (bindsRight.weaken (Nat.le_succ_of_le top)) next further

/-! ### One more operand -/

/-- A tree with one more operator and operand at its end: on the right of the operators that bind
less tightly. -/
def push (op : BinaryOp) (operand : Expr) : Expr → Expr
  | .binary span left top right =>
      if top.precedence < op.precedence then
        .binary ⟨span.start, operand.span.stop⟩ left top (push op operand right)
      else
        .binary ⟨span.start, operand.span.stop⟩ (.binary span left top right) op operand
  | tree => .binary ⟨tree.span.start, operand.span.stop⟩ tree op operand

variable {op : BinaryOp}

theorem push_binary {span : Span} {left right : Expr} {top : BinaryOp} :
    push op operand (.binary span left top right) =
      if top.precedence < op.precedence then
        .binary ⟨span.start, operand.span.stop⟩ left top (push op operand right)
      else
        .binary ⟨span.start, operand.span.stop⟩ (.binary span left top right) op operand := rfl

theorem IsOperand.push_eq (isOperand : tree.IsOperand) :
    push op operand tree = .binary ⟨tree.span.start, operand.span.stop⟩ tree op operand := by
  cases tree with
  | binary span left op right => exact (isOperand _ _ _ _ rfl).elim
  | _ => rfl

@[simp] theorem span_push : (push op operand tree).span = ⟨tree.span.start, operand.span.stop⟩ := by
  cases tree with
  | binary span left top right =>
      rw [push_binary]
      split <;> rfl
  | _ => rfl

theorem inOrder_push (isOperand : operand.IsOperand) :
    (push op operand tree).inOrder =
      ⟨tree.inOrder.first, tree.inOrder.rest ++ [(op, operand)]⟩ := by
  have joined (span : Span) (tree : Expr) : (binary span tree op operand).inOrder =
      ⟨tree.inOrder.first, tree.inOrder.rest ++ [(op, operand)]⟩ := by
    rw [inOrder_binary, isOperand.inOrder_eq]
    rfl
  induction tree using operatorInduction with
  | isOperand tree isLeaf => rw [isLeaf.push_eq, joined]
  | operation span left top right _ ih =>
      rw [push_binary]
      split
      · rw [inOrder_binary, inOrder_binary, ih]
        simp [Row.join]
      · rw [joined]

theorem BindsAt.push (binds : tree.BindsAt least) (tight : least ≤ op.precedence) :
    (push op operand tree).BindsAt least := by
  cases tree with
  | binary span left top right =>
      rw [push_binary]
      split
      · exact binds
      · exact tight
  | _ => exact tight

theorem IsGrouped.push (grouped : tree.IsGrouped) (isOperand : operand.IsOperand) :
    (push op operand tree).IsGrouped := by
  induction tree using operatorInduction with
  | isOperand tree isLeaf =>
      rw [isLeaf.push_eq]
      exact ⟨rfl, ⟨grouped, isLeaf.bindsAt⟩, isOperand.isGrouped, isOperand.bindsAt⟩
  | operation span left top right _ ih =>
      rw [push_binary]
      split
      · next looser =>
          obtain ⟨whole, onLeft, groupedRight, bindsRight⟩ := grouped
          refine ⟨?_, onLeft, ih groupedRight, bindsRight.push looser⟩
          rw [span_push, whole]
      · next tighter =>
          exact ⟨rfl, ⟨grouped, Nat.not_lt.mp tighter⟩, isOperand.isGrouped, isOperand.bindsAt⟩

/-- An operator that does not bind more tightly than the one at the top becomes the top. -/
theorem BindsAt.push_eq (binds : tree.BindsAt op.precedence) :
    Expr.push op operand tree = .binary ⟨tree.span.start, operand.span.stop⟩ tree op operand := by
  cases tree with
  | binary span left top right => exact if_neg (Nat.not_lt.mpr binds)
  | _ => rfl

end Expr

/-! ### Every row in one way -/

namespace Row

/-- **The tree of a row**: its operators and operands, taken one after the other. -/
def tree (row : Row) : Expr :=
  row.rest.foldl (fun tree next => .push next.1 next.2 tree) row.first

/-- Whether all that a row lists are operands. -/
def HasOperands (row : Row) : Prop :=
  row.first.IsOperand ∧ ∀ next ∈ row.rest, next.2.IsOperand

variable {row other : Row} {first : Expr} {rest : List (BinaryOp × Expr)} {next : BinaryOp × Expr}
  {op : BinaryOp}

theorem tree_cons :
    (mk first (next :: rest)).tree = (mk (.push next.1 next.2 first) rest).tree := rfl

theorem tree_concat :
    (mk first (rest ++ [next])).tree = .push next.1 next.2 (mk first rest).tree := by
  rw [tree, List.foldl_append]
  rfl

/-- **The tree of a row is grouped, and reads as that row.** -/
theorem isGrouped_tree (operands : row.HasOperands) :
    row.tree.IsGrouped ∧ row.tree.inOrder = row := by
  obtain ⟨first, rest⟩ := row
  induction rest using List.reverseRecOn with
  | nil => exact ⟨operands.1.isGrouped, operands.1.inOrder_eq⟩
  | append_singleton rest next ih =>
      have last : next.2.IsOperand := operands.2 next (List.mem_append_right _ (.head _))
      obtain ⟨grouped, reads⟩ :=
        ih ⟨operands.1, fun next listed => operands.2 next (List.mem_append_left _ listed)⟩
      rw [tree_concat]
      exact ⟨grouped.push last, by rw [Expr.inOrder_push last, reads]⟩

/-- What binds more tightly than the operator at the top goes to its right operand. -/
theorem tree_binary {start : Nat} {left right : Expr}
    (tighter : ∀ next ∈ rest, op.precedence < next.1.precedence) :
    (mk (.binary ⟨start, right.span.stop⟩ left op right) rest).tree =
      .binary ⟨start, (mk right rest).tree.span.stop⟩ left op (mk right rest).tree := by
  induction rest generalizing right with
  | nil => rfl
  | cons next rest ih =>
      have longer := @ih (.push next.1 next.2 right) fun next listed =>
        tighter next (.tail _ listed)
      rw [Expr.span_push] at longer
      rw [tree_cons, tree_cons, Expr.push_binary, if_pos (tighter _ (.head _)), longer]

/-- Two rows with an operator between them, when what is on its left binds at least as tightly and
what is on its right more tightly. -/
theorem tree_join (binds : row.tree.BindsAt op.precedence)
    (tighter : ∀ next ∈ other.rest, op.precedence < next.1.precedence) :
    (row.join op other).tree =
      .binary ⟨row.tree.span.start, other.tree.span.stop⟩ row.tree op other.tree := by
  have joined :
      (row.join op other).tree = (mk (.push op other.first row.tree) other.rest).tree := by
    rw [tree, join, List.foldl_append]
    rfl
  rw [joined, binds.push_eq, tree_binary tighter]

end Row

namespace Expr

variable {tree other : Expr}

/-- **A grouped tree is the tree of the row that it reads as.** -/
theorem IsGrouped.tree_inOrder (grouped : tree.IsGrouped) : tree.inOrder.tree = tree := by
  induction tree using operatorInduction with
  | isOperand tree isOperand =>
      rw [isOperand.inOrder_eq]
      rfl
  | operation span left op right ihLeft ihRight =>
      obtain ⟨whole, ⟨groupedLeft, bindsLeft⟩, groupedRight, bindsRight⟩ := grouped
      have onLeft := ihLeft groupedLeft
      have onRight := ihRight groupedRight
      rw [inOrder_binary, Row.tree_join (onLeft.symm ▸ bindsLeft)
        (groupedRight.le_precedence bindsRight), onLeft, onRight, whole]

/-- **Grouped trees that read alike are the same.** -/
theorem IsGrouped.eq_of_inOrder_eq (grouped : tree.IsGrouped)
    (alsoGrouped : other.IsGrouped) (alike : tree.inOrder = other.inOrder) : tree = other := by
  rw [← grouped.tree_inOrder, alike, alsoGrouped.tree_inOrder]

/-- **The tree of a row**: the one grouped tree that reads as the row. -/
def IsTreeOf (tree : Expr) (row : Row) : Prop :=
  tree.IsGrouped ∧ tree.inOrder = row ∧
    ∀ other : Expr, other.IsGrouped → other.inOrder = row → other = tree

theorem IsGrouped.isTreeOf_inOrder (grouped : tree.IsGrouped) : tree.IsTreeOf tree.inOrder :=
  ⟨grouped, rfl, fun _ alsoGrouped alike => alsoGrouped.eq_of_inOrder_eq grouped alike⟩

end Expr

/-- **Operators that bind equally tightly are grouped to the left.** -/
theorem Row.tree_of_equal {row : Row} {level : Nat} (operands : row.HasOperands)
    (equal : ∀ next ∈ row.rest, next.1.precedence = level) :
    row.tree = row.rest.foldl (fun tree next =>
      .binary ⟨tree.span.start, next.2.span.stop⟩ tree next.1 next.2) row.first := by
  obtain ⟨first, rest⟩ := row
  suffices ∀ tree : Expr, tree.BindsAt level → (mk tree rest).tree = rest.foldl
      (fun tree next => .binary ⟨tree.span.start, next.2.span.stop⟩ tree next.1 next.2) tree from
    this first operands.1.bindsAt
  induction rest with
  | nil => exact fun _ _ => rfl
  | cons next rest ih =>
      intro tree binds
      have here : next.1.precedence = level := equal next (.head _)
      have rest := ih ⟨operands.1, fun next listed => operands.2 next (.tail _ listed)⟩
        (fun next listed => equal next (.tail _ listed))
        (.binary ⟨tree.span.start, next.2.span.stop⟩ tree next.1 next.2) (Nat.le_of_eq here.symm)
      rw [Row.tree_cons, (here ▸ binds : tree.BindsAt next.1.precedence).push_eq, rest]
      rfl

end ResultBuilder.Syntax
