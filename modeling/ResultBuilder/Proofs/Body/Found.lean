import ResultBuilder.Proofs.Body.Nesting
import ResultBuilder.Proofs.Syntax.Nodes

/-!
# Where it is that something is found

What is looked for in a body is found at a node of the body: the searches for rejected statements
and for returns hand out places of statements at some depth.

* **`within_of_nested`**: the statements of the blocks within a block are nodes within it.
* **`exists_rejected`**, **`exists_rejected_of_form`**: a rejection has the place of a statement.
* **`Node.returns_cases`**: the returns in a node are those in its children.
* **`exists_return_of_mem`**: a return that is listed is a `return` statement.
-/

namespace ResultBuilder

open Syntax

/-! ### Statements of blocks -/

/-- The statements of what is done otherwise are within it. -/
theorem within_of_alternative {otherwise : Syntax.Alternative} {statement : Statement}
    (listed : statement ∈ otherwise.statements) :
    (Node.statement statement).Within (Node.ofAlternative otherwise) := by
  cases otherwise with
  | block node => exact .child (List.mem_map_of_mem listed) (.self _)
  | chained node =>
      rw [List.mem_singleton.mp listed]
      exact .self _

/-- The statements of a block that a statement opens are within the statement. -/
theorem within_of_opens {loops : Bool} {statement part : Statement} {inner : List Statement}
    (opened : statement.Opens loops inner) (listed : part ∈ inner) :
    (Node.statement part).Within (.statement statement) := by
  -- the block is a child, and its statements are children of the block
  have ofBlock {body : Block} (isChild : Node.block body ∈ (Node.statement statement).children)
      (listed : part ∈ body.statements) : (Node.statement part).Within (.statement statement) :=
    .child isChild (.child (List.mem_map_of_mem listed) (.self _))
  cases opened with
  | thenBlock node => exact ofBlock (List.mem_append_right _ List.mem_cons_self) listed
  | otherwise present =>
      refine .child (List.mem_append_right _ (List.mem_cons_of_mem _ ?_))
        (within_of_alternative listed)
      rw [present]
      exact List.mem_singleton_self _
  | arm isCase =>
      exact .child (List.mem_cons_of_mem _ (List.mem_map_of_mem isCase))
        (.child (List.mem_append_right _ (List.mem_singleton_self _))
          (.child (List.mem_map_of_mem listed) (.self _)))
  | doBlock span body => exact ofBlock (List.mem_singleton_self _) listed
  | loopBody node counted =>
      obtain ⟨span, form, header, body⟩ := node
      cases form with
      | forIn element =>
          exact ofBlock (List.mem_cons_of_mem _ (List.mem_cons_of_mem _
            (List.mem_singleton_self _))) listed
      | whileDo => exact ofBlock (List.mem_cons_of_mem _ (List.mem_singleton_self _)) listed
      | repeatWhile => exact ofBlock List.mem_cons_self listed

/-- **The statements of a block within a block** are within the statements of the outer one. -/
theorem within_of_nested {loops : Bool} {outer found : List Statement} {part : Statement}
    (nested : Nested loops outer found) (listed : part ∈ found) :
    ∃ statement ∈ outer, (Node.statement part).Within (.statement statement) := by
  induction nested with
  | here statements => exact ⟨part, listed, .self _⟩
  | inside isStatement opened nested ih =>
      obtain ⟨middle, ofInner, within⟩ := ih listed
      exact ⟨_, isStatement, within.trans (within_of_opens opened ofInner)⟩

/-- A statement somewhere in a block is within it. -/
theorem within_of_somewhere {loops : Bool} {body : Block} {part : Statement}
    (somewhere : Somewhere loops (Among (· = part)) body.statements) :
    (Node.statement part).Within (.block body) := by
  obtain ⟨found, nested, part, listed, rfl⟩ := somewhere
  obtain ⟨statement, ofBody, within⟩ := within_of_nested nested listed
  exact .child (List.mem_map_of_mem ofBody) within

/-! ### Rejections -/

/-- **A rejection in a body** has the place of a statement in it. -/
theorem exists_rejected {body : Block} {rejection : Rejection}
    (found : body.rejection? = some rejection) :
    ∃ part : Statement, (Node.statement part).Within (.block body) ∧
      part.span = rejection.span := by
  have finds := finds_rejection body
  rw [found] at finds
  obtain ⟨inner, nested, part, listed, -, place⟩ := finds
  obtain ⟨statement, ofBody, within⟩ := within_of_nested nested listed
  exact ⟨part, .child (List.mem_map_of_mem ofBody) within, place⟩

/-- **The rejection that a statement is** has the place of the statement or of one in it. -/
theorem exists_rejected_of_form {statement : Statement} {rejection : Rejection}
    (form : statement.form = .rejected rejection) :
    ∃ part : Statement, (Node.statement part).Within (.statement statement) ∧
      part.span = rejection.span := by
  cases statement with
  | conditional node =>
      rw [Statement.form, Conditional.form] at form
      split at form <;> cases form
  | switch node =>
      rw [Statement.form] at form
      split at form <;> cases form
      next span direct =>
        obtain ⟨switchCase, isCase, listed⟩ := exists_fallthrough_of_eq_some direct
        have opened : (Statement.switch node).Opens false switchCase.body.statements := .arm isCase
        exact ⟨_, within_of_opens opened listed, rfl⟩
  | declaration node | loop node | fallthrough span | jump span kind =>
      cases form
      exact ⟨_, .self _, rfl⟩
  | expression | doBlock | returning | directive => cases form

/-! ### Returns -/

theorem allReturns_eq_flatMap (statements : List Statement) :
    Statement.allReturns statements = statements.flatMap (·.returns) := by
  induction statements with
  | nil => rfl
  | cons first rest ih => rw [Statement.allReturns, ih, List.flatMap_cons]

theorem caseReturns_eq_flatMap (cases : List SwitchCase) :
    SwitchCase.returns cases = cases.flatMap (·.body.returns) := by
  induction cases with
  | nil => rfl
  | cons first rest ih =>
      obtain ⟨span, label, body⟩ := first
      rw [SwitchCase.returns, ih, List.flatMap_cons]

/-- The returns in a node, within nested blocks and loops. -/
def Syntax.Node.returns : Node → List ReturnSite
  | .statement node => node.returns
  | .block node => node.returns
  | .switchCase node => node.body.returns
  | _ => []

/-- **The returns in a node** are those in its children, unless it is a `return` itself or none are
looked for in it. -/
theorem Syntax.Node.returns_cases (node : Node) :
    node.returns = [] ∨
      (∃ span keyword value, node = .statement (.returning span keyword value)) ∨
        node.row = node.children ∧ node.returns = node.children.flatMap Node.returns := by
  have passed {α : Type} {wrap : α → Node} (items : List α)
      (none : ∀ item, (wrap item).returns = []) : (items.map wrap).flatMap Node.returns = [] := by
    simp [List.flatMap_eq_nil_iff, none]
  cases node with
  | block node =>
      obtain ⟨span, statements⟩ := node
      refine .inr (.inr ⟨rfl, ?_⟩)
      rw [children, List.flatMap_map]
      exact allReturns_eq_flatMap statements
  | switchCase node =>
      obtain ⟨span, label, body⟩ := node
      refine .inr (.inr ⟨rfl, ?_⟩)
      cases label with
      | default => simp [children, ofLabel, returns]
      | patterns listed =>
          rw [children, ofLabel, List.flatMap_append, passed listed fun _ => rfl]
          simp [returns]
  | statement node =>
      cases node with
      | returning span keyword value => exact .inr (.inl ⟨span, keyword, value, rfl⟩)
      | conditional node =>
          obtain ⟨span, conditions, thenBlock, otherwise⟩ := node
          refine .inr (.inr ⟨rfl, ?_⟩)
          rw [children, ofStatement, List.flatMap_append, passed conditions fun _ => rfl]
          cases otherwise with
          | none => simp [returns, Statement.returns, Conditional.returns]
          | some other =>
              cases other <;> simp [returns, Statement.returns, Conditional.returns,
                Alternative.returns, ofAlternative]
      | switch node =>
          obtain ⟨span, subject, cases⟩ := node
          refine .inr (.inr ⟨rfl, ?_⟩)
          simp [children, ofStatement, returns, Statement.returns, caseReturns_eq_flatMap,
            List.flatMap_map]
      | doBlock span body =>
          exact .inr (.inr ⟨rfl, by simp [children, ofStatement, returns, Statement.returns]⟩)
      | loop node =>
          obtain ⟨span, form, header, body⟩ := node
          refine .inr (.inr ⟨rfl, ?_⟩)
          cases form <;> simp [children, ofStatement, ofLoop, returns, Statement.returns]
      | expression | «fallthrough» | jump | directive | declaration => exact .inl rfl
  | _ => exact .inl rfl

/-- **A return that is listed** is a `return` statement within the body. -/
theorem exists_return_of_mem {body : Block} {site : ReturnSite} (listed : site ∈ body.returns) :
    ∃ span keyword value, (Node.statement (.returning span keyword value)).Within (.block body) ∧
      site = ⟨keyword, value.map (·.span)⟩ := by
  obtain ⟨found, matched, counted⟩ := listsReturns body
  obtain ⟨index, inside, rfl⟩ := List.getElem_of_mem listed
  have alsoInside : index < found.length := matched.length_eq ▸ inside
  have isAt : found[index].ReturnsAt body.returns[index] := matched.get inside alsoInside
  have within := within_of_somewhere ((counted found[index]).mp (List.getElem_mem alsoInside)).2
  generalize found[index] = statement at isAt within
  cases statement with
  | returning span keyword value =>
      exact ⟨span, keyword, value, within, isAt⟩
  | _ => exact isAt.elim

end ResultBuilder
