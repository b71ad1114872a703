import ResultBuilder.Proofs.Syntax.Bare
import ResultBuilder.Proofs.Syntax.Returns.Without
import ResultBuilder.Proofs.Synthesis.Removals

/-!
# Bodies without their returns

A block within a tree is found again, without the returns of certain keywords, within the tree
without them, wherever that is written. A body without the returns with its keywords is the body
without its returns: a keyword is that of one return in a source, so that none of them is in a
closure or a declaration of the body.

* **`Node.Remains`**: a node that is another one without the returns.
* **`Node.Within.exists_remains`**: what remains of a node within a node.
* **`Node.without_of_everywhere`**: nothing is left out where there is nothing to leave out.
* **`Block.without_returnKeywords`**: a body without its returns, told by their keywords.
* **`Block.returns_unreturned`**: what is left has no returns.
-/

namespace ResultBuilder.Syntax

/-! ### Nodes without some returns -/

namespace Node

/-- Whether there may be blocks in a node of a kind. -/
def holdsBlocks : Node → Bool
  | .expression _ | .argument _ | .closure _ | .block _ | .statement _ | .condition _
  | .switchCase _ | .declaration _ => true
  | _ => false

/-- The children of a node that may have blocks in them. -/
def parts (node : Node) : List Node :=
  node.children.filter holdsBlocks

/-- A node that may have blocks in it, without its places. -/
def bare : Node → Node
  | .expression node => .expression (node.rebuild .plain)
  | .argument node => .argument (node.rebuild .plain)
  | .closure node => .closure (node.rebuild .plain)
  | .block node => .block (node.rebuild .plain)
  | .statement node => .statement (node.rebuild .plain)
  | .condition node => .condition (node.rebuild .plain)
  | .switchCase node => .switchCase (node.rebuild .plain)
  | .declaration node => .declaration (node.rebuild .plain)
  | node => node

/-- What is left of a node without the returns of certain keywords. -/
def without (keywords : List Span) : Node → List Node
  | .expression node => [.expression (node.without keywords)]
  | .argument node => [.argument (node.without keywords)]
  | .closure node => [.closure (node.without keywords)]
  | .block node => [.block (node.without keywords)]
  | .statement node => (node.without keywords).map .statement
  | .condition node => [.condition (node.without keywords)]
  | .switchCase node => [.switchCase (node.without keywords)]
  | .declaration node => [.declaration (node.without keywords)]
  | node => [node]

attribute [local simp] parts children holdsBlocks bare without List.filter_cons List.filter_map
  Function.comp_def Option.toList_map List.flatMap_map List.map_flatMap

/-- Items of which each leaves one. -/
@[local simp]
theorem flatMap_single {α β : Type} (leaves : α → β) (items : List α) :
    (items.flatMap fun item => [leaves item]) = items.map leaves :=
  List.map_eq_flatMap.symm

/-- No blocks are in a part of a node that has none. -/
theorem parts_of_plain {node : Node} (plain : node.holdsBlocks = false) : node.parts = [] := by
  cases node with
  | name | mark | «attribute» | pattern => rfl
  | type node => cases node <;> simp [ofType]
  | generic | enumCase => simp
  | param node =>
      simp only [parts, children, ofParam]
      split <;> simp
  | expression | argument | closure | block | statement | condition | switchCase | declaration =>
    cases plain

theorem parts_bare_of_plain {node : Node} (plain : node.holdsBlocks = false) :
    node.bare.parts = node.parts.map bare := by
  have same : node.bare = node := by
    cases node <;> first | rfl | cases plain
  rw [same, parts_of_plain plain, List.map_nil]

/-- The parts of a node are written nowhere when the node is. -/
theorem parts_bare (node : Node) : node.bare.parts = node.parts.map bare := by
  cases node with
  | expression node => cases node <;> simp [ofExpr, Expr.rebuild, CallForm.plain]
  | argument node =>
      obtain ⟨span, label, value⟩ := node
      simp [Argument.rebuild]
  | closure node =>
      obtain ⟨span, params, body⟩ := node
      simp [Closure.rebuild]
  | block node =>
      obtain ⟨span, statements⟩ := node
      simp [Block.rebuild]
  | condition node => cases node <;> simp [ofCondition, Condition.rebuild]
  | switchCase node =>
      obtain ⟨span, label, body⟩ := node
      cases label <;> simp [SwitchCase.rebuild, CaseLabel.bare, ofLabel]
  | statement node =>
      cases node with
      | conditional node =>
          obtain ⟨span, conditions, thenBlock, otherwise⟩ := node
          cases otherwise with
          | none => simp [ofStatement, Statement.rebuild, Conditional.rebuild]
          | some otherwise =>
              cases otherwise <;> simp [ofStatement, ofAlternative, Statement.rebuild,
                Conditional.rebuild, Alternative.rebuild]
      | «switch» node =>
          obtain ⟨span, subject, cases⟩ := node
          simp [ofStatement, Statement.rebuild, Switch.rebuild]
      | loop node =>
          obtain ⟨span, form, header, body⟩ := node
          cases form <;> simp [ofStatement, ofLoop, Statement.rebuild, Loop.rebuild, LoopForm.bare]
      | _ => simp [ofStatement, Statement.rebuild]
  | declaration node =>
      cases node with
      | «variable» node =>
          obtain ⟨span, attributes, isMutable, name, type, value, body⟩ := node
          simp [ofDeclaration, Declaration.rebuild, VariableDecl.rebuild]
      | function node =>
          obtain ⟨span, attributes, isStatic, name, generics, params, result, body⟩ := node
          simp [ofDeclaration, Declaration.rebuild, FunctionDecl.rebuild]
      | type node =>
          obtain ⟨span, attributes, kind, name, generics, members⟩ := node
          simp [ofDeclaration, Declaration.rebuild, TypeDecl.rebuild]
      | enum node => simp [ofDeclaration, Declaration.rebuild]
  | name | mark | «attribute» | pattern | type | generic | enumCase | param =>
      exact parts_bare_of_plain rfl

/-- **The parts of what is left of a node** are what is left of its parts. -/
theorem parts_of_mem_without {keywords : List Span} {node left : Node}
    (member : left ∈ node.without keywords) :
    left.parts = node.parts.flatMap (without keywords) := by
  cases node with
  | expression node =>
      obtain rfl := List.mem_singleton.mp member
      cases node <;> simp [ofExpr, Expr.without]
  | argument node =>
      obtain rfl := List.mem_singleton.mp member
      obtain ⟨span, label, value⟩ := node
      simp [Argument.without]
  | closure node =>
      obtain rfl := List.mem_singleton.mp member
      obtain ⟨span, params, body⟩ := node
      simp [Closure.without]
  | block node =>
      obtain rfl := List.mem_singleton.mp member
      obtain ⟨span, statements⟩ := node
      simp [Block.without, List.filter_flatMap]
  | condition node =>
      obtain rfl := List.mem_singleton.mp member
      cases node <;> simp [ofCondition, Condition.without]
  | switchCase node =>
      obtain rfl := List.mem_singleton.mp member
      obtain ⟨span, label, body⟩ := node
      cases label <;> simp [SwitchCase.without, ofLabel]
  | declaration node =>
      obtain rfl := List.mem_singleton.mp member
      cases node with
      | «variable» node =>
          obtain ⟨span, attributes, isMutable, name, type, value, body⟩ := node
          simp [ofDeclaration, Declaration.without, VariableDecl.without]
      | function node =>
          obtain ⟨span, attributes, isStatic, name, generics, params, result, body⟩ := node
          simp [ofDeclaration, Declaration.without, FunctionDecl.without]
      | type node =>
          obtain ⟨span, attributes, kind, name, generics, members⟩ := node
          simp [ofDeclaration, Declaration.without, TypeDecl.without]
      | enum node => simp [ofDeclaration, Declaration.without]
  | statement node =>
      obtain ⟨rest, isRest, rfl⟩ := List.mem_map.mp member
      cases node with
      | returning span keyword value =>
          rw [Statement.without] at isRest
          split at isRest
          · cases value with
            | none => cases isRest
            | some value =>
                obtain rfl := List.mem_singleton.mp isRest
                simp [ofStatement]
          · obtain rfl := List.mem_singleton.mp isRest
            simp [ofStatement]
      | conditional node =>
          obtain rfl := List.mem_singleton.mp isRest
          obtain ⟨span, conditions, thenBlock, otherwise⟩ := node
          cases otherwise with
          | none => simp [ofStatement, Conditional.without]
          | some otherwise =>
              cases otherwise <;> simp [ofStatement, ofAlternative, Statement.without,
                Conditional.without, Alternative.without]
      | «switch» node =>
          obtain rfl := List.mem_singleton.mp isRest
          obtain ⟨span, subject, cases⟩ := node
          simp [ofStatement, Switch.without]
      | loop node =>
          obtain rfl := List.mem_singleton.mp isRest
          obtain ⟨span, form, header, body⟩ := node
          cases form <;> simp [ofStatement, ofLoop, Loop.without]
      | _ =>
          obtain rfl := List.mem_singleton.mp isRest
          simp [ofStatement]
  | name | mark | «attribute» | pattern | type | generic | enumCase | param =>
      obtain rfl := List.mem_singleton.mp member
      rw [parts_of_plain rfl]
      rfl

/-- What is not left of a node had no blocks in it. -/
theorem parts_of_without_eq_nil {keywords : List Span} {node : Node}
    (none : node.without keywords = []) : node.parts = [] := by
  cases node with
  | statement node =>
      cases node with
      | returning span keyword value =>
          cases value with
          | none => rfl
          | some value =>
              rw [without, Statement.without] at none
              split at none <;> cases none
      | _ => cases none
  | _ => cases none

/-! ### Nodes within nodes -/

/-- **What remains of a node** without the returns of certain keywords, wherever it is written. -/
def Remains (keywords : List Span) (node rest : Node) : Prop :=
  ∃ left ∈ node.without keywords, left.bare = rest.bare

/-- What remains of a part is a part of what remains. -/
theorem Remains.exists_part {keywords : List Span} {node rest part left : Node}
    (remains : node.Remains keywords rest) (isPart : part ∈ node.parts)
    (isLeft : left ∈ part.without keywords) :
    ∃ other ∈ rest.children, left.bare = other.bare := by
  obtain ⟨whole, isWhole, same⟩ := remains
  have member : left ∈ whole.parts := by
    rw [parts_of_mem_without isWhole]
    exact List.mem_flatMap.mpr ⟨part, isPart, isLeft⟩
  have bare : left.bare ∈ rest.bare.parts := by
    rw [← same, parts_bare]
    exact List.mem_map_of_mem member
  rw [parts_bare] at bare
  obtain ⟨other, isOther, same⟩ := List.mem_map.mp bare
  exact ⟨other, (List.mem_filter.mp isOther).1, same.symm⟩

/-- Nodes in which there may be blocks are in nodes in which there may be blocks. -/
theorem Within.holdsBlocks {inner node : Node} (within : inner.Within node)
    (holds : inner.holdsBlocks = true) : node.holdsBlocks = true := by
  induction within with
  | self => exact holds
  | child member within ih =>
      by_contra plain
      have none := parts_of_plain (Bool.eq_false_iff.mpr plain)
      exact List.filter_eq_nil_iff.mp none _ member ih

/-- Something is left of a node with a block in it. -/
theorem Within.without_ne_nil {body : Block} {node : Node} (within : (Node.block body).Within node)
    (keywords : List Span) : node.without keywords ≠ [] := by
  intro none
  cases within with
  | self => cases none
  | child member within =>
      exact List.filter_eq_nil_iff.mp (parts_of_without_eq_nil none) _ member
        (within.holdsBlocks rfl)

/-- **What remains of a block within a node** is within what remains of the node. -/
theorem Within.exists_remains {keywords : List Span} {body : Block} {node rest : Node}
    (within : (Node.block body).Within node) (remains : node.Remains keywords rest) :
    ∃ other, (Node.block other).Within rest ∧
      other.rebuild .plain = (body.without keywords).rebuild .plain := by
  generalize isBody : Node.block body = inner at within
  induction within generalizing rest with
  | self =>
      subst isBody
      obtain ⟨left, isLeft, same⟩ := remains
      obtain rfl := List.mem_singleton.mp isLeft
      cases rest with
      | block other => exact ⟨other, .self _, (Node.block.inj same).symm⟩
      | _ => cases same
  | child member within ih =>
      subst isBody
      obtain ⟨left, isLeft⟩ := List.exists_mem_of_ne_nil _ (within.without_ne_nil keywords)
      obtain ⟨other, isChild, same⟩ :=
        remains.exists_part (List.mem_filter.mpr ⟨member, within.holdsBlocks rfl⟩) isLeft
      obtain ⟨found, inside, isFound⟩ := ih ⟨left, isLeft, same⟩
      exact ⟨found, .child isChild inside, isFound⟩

end Node

/-- **What remains of a block in a program** is in a program that is what remains of it. -/
theorem Program.exists_remains {keywords : List Span} {body : Block} {program result : Program}
    (inside : (Node.block body).WithinProgram program)
    (same : result.statements.map (·.bare) = (program.without keywords).statements.map (·.bare)) :
    ∃ other, (Node.block other).WithinProgram result ∧
      other.rebuild .plain = (body.without keywords).rebuild .plain := by
  obtain ⟨statement, listed, within⟩ := inside
  obtain ⟨left, isLeft⟩ := List.exists_mem_of_ne_nil _ (within.without_ne_nil keywords)
  obtain ⟨rest, isRest, rfl⟩ := List.mem_map.mp isLeft
  have member : rest.bare ∈ result.statements.map (·.bare) := by
    rw [same, Program.without, Statement.withoutAll_eq_flatMap]
    exact List.mem_map_of_mem (List.mem_flatMap.mpr ⟨statement, listed, isRest⟩)
  obtain ⟨found, isFound, same⟩ := List.mem_map.mp member
  have remains : (Node.statement statement).Remains keywords (.statement found) :=
    ⟨_, isLeft, congrArg Node.statement same.symm⟩
  obtain ⟨other, inside, isOther⟩ := within.exists_remains remains
  exact ⟨other, ⟨found, isFound, inside⟩, isOther⟩

/-! ### Nodes without any of the returns -/

namespace Node

/-- Whether a node is none of the returns of certain keywords. -/
def IsKept (keywords : List Span) : Node → Prop
  | .statement node => node.isReturnOf keywords = false
  | _ => True

theorem map_eq_self {α : Type} {change : α → α} {items : List α}
    (same : ∀ item ∈ items, change item = item) : items.map change = items := by
  rw [List.map_congr_left same, List.map_id']

theorem option_map_eq_self {α : Type} {change : α → α} {item? : Option α}
    (same : ∀ item ∈ item?, change item = item) : item?.map change = item? := by
  cases item? with
  | none => rfl
  | some item => exact congrArg some (same item rfl)

section

attribute [local simp] children without List.forall_mem_append List.forall_mem_map
attribute [-simp] List.mem_append List.mem_map

/-- **Nothing is left out** of a node that has none of the returns in it. -/
theorem without_of_everywhere {keywords : List Span} {node : Node}
    (kept : node.Everywhere (IsKept keywords)) : node.without keywords = [node] := by
  induction node using Node.induction with
  | step node ih =>
      have below : ∀ child ∈ node.children, child.without keywords = [child] :=
        fun child member => ih child member (kept.child member)
      cases node with
      | expression node =>
          cases node <;> simp [ofExpr, Expr.without] at below ⊢ <;>
            simp +contextual [below, map_eq_self, option_map_eq_self]
      | argument node =>
          obtain ⟨span, label, value⟩ := node
          simpa [Argument.without] using below
      | closure node =>
          obtain ⟨span, params, body⟩ := node
          simpa [Closure.without] using below
      | condition node =>
          cases node <;> simpa [ofCondition, Condition.without] using below
      | switchCase node =>
          obtain ⟨span, label, body⟩ := node
          cases label <;> simpa [ofLabel, SwitchCase.without] using below
      | declaration node =>
          cases node with
          | «variable» node =>
              obtain ⟨span, attributes, isMutable, name, type, value, body⟩ := node
              simp [ofDeclaration, Declaration.without, VariableDecl.without] at below ⊢
              simp +contextual [below, option_map_eq_self]
          | function node =>
              obtain ⟨span, attributes, isStatic, name, generics, params, result, body⟩ := node
              simp [ofDeclaration, Declaration.without, FunctionDecl.without] at below ⊢
              simp +contextual [below, option_map_eq_self]
          | type node =>
              obtain ⟨span, attributes, kind, name, generics, members⟩ := node
              simp [ofDeclaration, Declaration.without, TypeDecl.without] at below ⊢
              simp +contextual [below, map_eq_self]
          | enum node => rfl
      | block node =>
          obtain ⟨span, statements⟩ := node
          simp [Block.without, List.map_eq_singleton_iff] at below ⊢
          rw [List.flatMap_congr below, List.flatMap_singleton']
      | statement node =>
          have here : node.isReturnOf keywords = false := kept.here
          cases node with
          | returning span keyword value =>
              have notListed : keyword ∉ keywords := of_decide_eq_false here
              simp [ofStatement, Statement.without, notListed] at below ⊢
              simp +contextual [below, option_map_eq_self]
          | conditional node =>
              obtain ⟨span, conditions, thenBlock, otherwise⟩ := node
              cases otherwise with
              | none =>
                  simp [ofStatement, Statement.without, Conditional.without] at below ⊢
                  simp +contextual [below, map_eq_self]
              | some otherwise =>
                  cases otherwise <;>
                    simp [ofStatement, ofAlternative, Statement.without, Conditional.without,
                      Alternative.without] at below ⊢ <;>
                    simp +contextual [below, map_eq_self]
          | «switch» node =>
              obtain ⟨span, subject, cases⟩ := node
              simp [ofStatement, Statement.without, Switch.without] at below ⊢
              simp +contextual [below, map_eq_self]
          | loop node =>
              obtain ⟨span, form, header, body⟩ := node
              cases form <;>
                simp [ofStatement, ofLoop, Statement.without, Loop.without] at below ⊢ <;>
                simp [below]
          | «fallthrough» | jump | directive => rfl
          | expression | doBlock | declaration => simpa [ofStatement, Statement.without] using below
      | _ => rfl

end

/-! ### Keywords of returns -/

variable {source : List Char} {keywords : List Span}

/-- The word of a return takes some of the source. -/
theorem nonempty_of_standsIn {keyword : Span} (stands : StandsIn source "return" keyword) :
    keyword.start < keyword.stop := by
  obtain ⟨front, back, -, starts, stops⟩ := stands
  rw [← starts, ← stops, Source.utf8Length_append]
  exact Nat.lt_add_of_pos_right (by decide)

/-- The keyword of a return within a node lies inside it. -/
theorem Within.keyword {span keyword : Span} {value : Option Expr} {node : Node}
    (within : (Node.statement (.returning span keyword value)).Within node)
    (sound : node.Everywhere (·.IsSound source)) :
    keyword.LiesIn node.span ∧ keyword.start < keyword.stop := by
  have mark : (Node.mark keyword).Within node :=
    (Within.child List.mem_cons_self (.self _)).trans within
  have nonempty := nonempty_of_standsIn (sound _ within).spelled
  obtain ⟨starts, stops⟩ := mark.inside sound
  exact ⟨⟨starts, nonempty.le, stops⟩, nonempty⟩

/-- A return that is listed in a node is within it. -/
theorem exists_returning {node : Node} {site : ReturnSite} (listed : site ∈ node.returns) :
    ∃ span value, (Node.statement (.returning span site.keyword value)).Within node := by
  induction node using Node.induction with
  | step node ih =>
      rcases node.returns_cases with none | ⟨span, keyword, value, rfl⟩ | ⟨-, ofChildren⟩
      · rw [none] at listed
        cases listed
      · obtain rfl := List.mem_singleton.mp listed
        exact ⟨span, value, .self _⟩
      · rw [ofChildren] at listed
        obtain ⟨child, isChild, listed⟩ := List.mem_flatMap.mp listed
        obtain ⟨span, value, within⟩ := ih child isChild listed
        exact ⟨span, value, .child isChild within⟩

/-- **The keywords inside a node** are among those of the returns in it. -/
def Owns (keywords : List Span) (node : Node) : Prop :=
  ∀ keyword ∈ keywords, keyword.LiesIn node.span → keyword ∈ node.returns.map (·.keyword)

/-- A node that owns keywords and has no returns is left as it is. -/
theorem Owns.without_eq {node : Node} (owns : node.Owns keywords)
    (sound : node.Everywhere (·.IsSound source)) (none : node.returns = []) :
    node.without keywords = [node] := by
  refine without_of_everywhere fun inner within => ?_
  cases inner with
  | statement inner =>
      cases inner with
      | returning span keyword value =>
          refine decide_eq_false fun listed => ?_
          have owned := owns keyword listed (within.keyword sound).1
          rw [none] at owned
          cases owned
      | _ => rfl
  | _ => trivial

/-- What is inside of two nodes that follow each other is inside of the same. -/
theorem eq_of_apart {nodes : List Node} {one other : Node} {place : Span}
    (apart : nodes.Pairwise fun first second => first.span.stop ≤ second.span.start)
    (isOne : one ∈ nodes) (isOther : other ∈ nodes) (nonempty : place.start < place.stop)
    (inOne : place.LiesIn one.span) (inOther : place.LiesIn other.span) : one = other := by
  have absurdOf {first second : Node} (before : first.span.stop ≤ second.span.start)
      (inFirst : place.LiesIn first.span) (inSecond : place.LiesIn second.span) :
      first = second := by
    have ends := inFirst.stops
    have starts := inSecond.starts
    omega
  exact List.Pairwise.forall_of_forall_of_flip
    (R := fun one other => place.LiesIn one.span → place.LiesIn other.span → one = other)
    (fun _ _ _ _ => rfl) (apart.imp fun before => absurdOf before)
    (apart.imp fun before inOther inOne => (absurdOf before inOne inOther).symm) isOne isOther
    inOne inOther

/-- **A child owns its keywords** when its node does, as those of other children lie elsewhere. -/
theorem Owns.child {node child : Node} (owns : node.Owns keywords)
    (sound : node.Everywhere (·.IsSound source))
    (noReturn : ∀ span keyword value, node ≠ .statement (.returning span keyword value))
    (isChild : child ∈ node.children) : child.Owns keywords := by
  intro keyword listed inside
  have around : keyword.LiesIn node.span :=
    inside.trans (liesIn_of_child (sound.imp fun _ isSound => isSound.placed) isChild)
  have owned := owns keyword listed around
  obtain ⟨site, isSite, rfl⟩ := List.mem_map.mp owned
  rcases node.returns_cases with none | ⟨span, keyword, value, same⟩ | ⟨isRow, ofChildren⟩
  · rw [none] at isSite
    cases isSite
  · exact absurd same (noReturn _ _ _)
  · rw [ofChildren] at isSite
    obtain ⟨other, isOther, isSite⟩ := List.mem_flatMap.mp isSite
    obtain ⟨span, value, within⟩ := exists_returning isSite
    obtain ⟨alsoInside, nonempty⟩ := within.keyword (sound.child isOther)
    have apart := sound.here.placed.apart
    rw [isRow] at apart
    rw [eq_of_apart apart isChild isOther nonempty inside alsoInside]
    exact List.mem_map_of_mem isSite

/-! ### The returns of a body -/

/-- What is left of a node without the returns in it. -/
def unreturned : Node → List Node
  | .block node => [.block node.unreturned]
  | .switchCase node => [.switchCase { node with body := node.body.unreturned }]
  | .statement node => node.unreturned.map .statement
  | node => [node]

theorem unreturnedAll_eq_flatMap (statements : List Statement) :
    Statement.unreturnedAll statements = statements.flatMap (·.unreturned) := by
  induction statements with
  | nil => rfl
  | cons statement rest ih => rw [Statement.unreturnedAll, ih, List.flatMap_cons]

theorem unreturnedCases_eq_map (cases : List SwitchCase) :
    SwitchCase.unreturnedAll cases =
      cases.map fun node => { node with body := node.body.unreturned } := by
  induction cases with
  | nil => rfl
  | cons first rest ih =>
      obtain ⟨span, label, body⟩ := first
      rw [SwitchCase.unreturnedAll, ih, List.map_cons]

/-- The value of a return owns its keywords, as it starts behind that of the return. -/
theorem Owns.value {span keyword : Span} {value : Expr}
    (owns : (Node.statement (.returning span keyword (some value))).Owns keywords)
    (sound : (Node.statement (.returning span keyword (some value))).Everywhere
      (·.IsSound source)) : (Node.expression value).Owns keywords := by
  intro place listed inside
  have isChild : Node.expression value ∈
      (Node.statement (.returning span keyword (some value))).children :=
    List.mem_cons_of_mem _ (List.mem_singleton_self _)
  have around := inside.trans (liesIn_of_child (sound.imp fun _ isSound => isSound.placed) isChild)
  obtain rfl : place = keyword := List.mem_singleton.mp (owns place listed around)
  have follows : place.stop ≤ value.span.start :=
    List.rel_of_pairwise_cons sound.here.placed.apart (List.mem_singleton_self _)
  have nonempty := nonempty_of_standsIn sound.here.spelled
  exact absurd inside.starts (by show ¬ value.span.start ≤ _; omega)

/-- **A node is left without its returns** if the keywords of all of them are among some. -/
def LeavesUnreturned (keywords : List Span) (node : Node) : Prop :=
  (∀ site ∈ node.returns, site.keyword ∈ keywords) → node.without keywords = node.unreturned

theorem without_block {node : Block}
    (below : ∀ child ∈ (Node.block node).children, child.LeavesUnreturned keywords)
    (all : ∀ site ∈ node.returns, site.keyword ∈ keywords) :
    node.without keywords = node.unreturned := by
  obtain ⟨span, statements⟩ := node
  have each : ∀ statement ∈ statements, statement.without keywords = statement.unreturned := by
    intro statement listed
    have same := below (.statement statement) (List.mem_map_of_mem listed)
      fun site isSite => all site <| by
        show site ∈ Statement.allReturns statements
        rw [allReturns_eq_flatMap]
        exact List.mem_flatMap.mpr ⟨statement, listed, isSite⟩
    exact List.map_injective_iff.mpr (fun _ _ => Node.statement.inj) same
  rw [Block.without, Statement.withoutAll_eq_flatMap, Block.unreturned, unreturnedAll_eq_flatMap,
    List.flatMap_congr each]

theorem without_conditional {node : Conditional}
    (below : ∀ child ∈ (Node.statement (.conditional node)).children,
      child.LeavesUnreturned keywords)
    (all : ∀ site ∈ node.returns, site.keyword ∈ keywords) :
    node.without keywords = node.unreturned := by
  obtain ⟨span, conditions, thenBlock, otherwise⟩ := node
  have tested : conditions.map (·.without keywords) = conditions := by
    refine map_eq_self fun condition listed => ?_
    have same := below _ (List.mem_append_left _ (List.mem_map_of_mem listed))
      (List.forall_mem_nil _)
    simpa [without, unreturned] using same
  have isThen : Node.block thenBlock ∈ (Node.statement
      (.conditional ⟨span, conditions, thenBlock, otherwise⟩)).children :=
    List.mem_append_right _ List.mem_cons_self
  cases otherwise with
  | none =>
      have same := below _ isThen all
      simp only [without, unreturned, List.cons.injEq, block.injEq, and_true] at same
      simp [Conditional.without, Conditional.unreturned, tested, same]
  | some otherwise =>
      have same := below _ isThen fun site isSite => all site (List.mem_append_left _ isSite)
      have sameOther := below (ofAlternative otherwise) (List.mem_append_right _
        (List.mem_cons_of_mem _ (List.mem_singleton_self _))) fun site isSite =>
          all site (List.mem_append_right _ (by cases otherwise <;> exact isSite))
      simp only [without, unreturned, List.cons.injEq, block.injEq, and_true] at same
      cases otherwise <;>
        simp [without, unreturned, ofAlternative, Statement.without, Statement.unreturned]
          at sameOther <;>
        simp [Conditional.without, Conditional.unreturned, Alternative.without,
          Alternative.unreturned, tested, same, sameOther]

theorem without_switch {span : Span} {subject : Expr} {cases : List SwitchCase}
    (below : ∀ child ∈ (Node.statement (.switch ⟨span, subject, cases⟩)).children,
      child.LeavesUnreturned keywords)
    (all : ∀ site ∈ SwitchCase.returns cases, site.keyword ∈ keywords) :
    (Switch.mk span subject cases).without keywords =
      ⟨span, subject, SwitchCase.unreturnedAll cases⟩ := by
  have head := below _ List.mem_cons_self (List.forall_mem_nil _)
  simp [without, unreturned] at head
  have each : ∀ item ∈ cases, item.without keywords =
      { item with body := item.body.unreturned } := by
    intro item listed
    have same := below (.switchCase item) (List.mem_cons_of_mem _ (List.mem_map_of_mem listed))
      fun site isSite => all site <| by
        rw [caseReturns_eq_flatMap]
        exact List.mem_flatMap.mpr ⟨item, listed, isSite⟩
    simpa [without, unreturned] using same
  simp [Switch.without, unreturnedCases_eq_map, head, List.map_congr_left each]

theorem without_loop {span : Span} {form : LoopForm} {header : Expr} {body : Block}
    (below : ∀ child ∈ (Node.statement (.loop ⟨span, form, header, body⟩)).children,
      child.LeavesUnreturned keywords)
    (all : ∀ site ∈ body.returns, site.keyword ∈ keywords) :
    (Loop.mk span form header body).without keywords = ⟨span, form, header, body.unreturned⟩ := by
  have parts : Node.expression header ∈
        (Node.statement (.loop ⟨span, form, header, body⟩)).children ∧
      Node.block body ∈ (Node.statement (.loop ⟨span, form, header, body⟩)).children := by
    cases form <;> simp [children, ofStatement, ofLoop]
  have head := below _ parts.1 (List.forall_mem_nil _)
  have same := below _ parts.2 all
  simp only [without, unreturned, List.cons.injEq, expression.injEq, block.injEq, and_true]
    at head same
  rw [Loop.without, head, same]

/-- **A node without the returns with its keywords** is the node without its returns. -/
theorem Owns.without_eq_unreturned {node : Node} (owns : node.Owns keywords)
    (sound : node.Everywhere (·.IsSound source)) : node.LeavesUnreturned keywords := by
  induction node using Node.induction with
  | step node ih =>
      intro all
      -- each child owns its keywords again, but for the value of a return
      have below
          (noReturn : ∀ span keyword value, node ≠ .statement (.returning span keyword value)) :
          ∀ child ∈ node.children, child.LeavesUnreturned keywords :=
        fun child isChild => ih child isChild (owns.child sound noReturn isChild)
          (sound.child isChild)
      cases node with
      | block node => simp [without, unreturned, without_block (below (by simp)) all]
      | switchCase node =>
          obtain ⟨span, label, body⟩ := node
          have same := below (by simp) (.block body)
            (List.mem_append_right _ (List.mem_singleton_self _)) all
          simpa [without, unreturned, SwitchCase.without] using same
      | statement node =>
          cases node with
          | returning span keyword value =>
              have listed := all _ (List.mem_singleton_self _)
              cases value with
              | none => simp [without, unreturned, Statement.without, Statement.unreturned, listed]
              | some value =>
                  have same := (owns.value sound).without_eq (sound.child
                    (List.mem_cons_of_mem _ (List.mem_singleton_self _))) rfl
                  simp only [without, List.cons.injEq, expression.injEq, and_true] at same
                  simp [without, unreturned, Statement.without, Statement.unreturned, listed, same]
          | conditional node =>
              simp [without, unreturned, Statement.without, Statement.unreturned,
                without_conditional (below (by simp)) all]
          | «switch» node =>
              obtain ⟨span, subject, cases⟩ := node
              simp [without, unreturned, Statement.without, Statement.unreturned,
                without_switch (below (by simp)) all]
          | doBlock span body =>
              have same := below (by simp) _ (List.mem_singleton_self (Node.block body)) all
              simpa [without, unreturned, Statement.without, Statement.unreturned] using same
          | loop node =>
              obtain ⟨span, form, header, body⟩ := node
              simp [without, unreturned, Statement.without, Statement.unreturned,
                without_loop (below (by simp)) all]
          | _ => exact owns.without_eq sound rfl
      -- closures and declarations have returns of their own, which are none of the body
      | _ => exact owns.without_eq sound rfl

end Node

/-- **A body without the returns with its keywords** is the body without its returns. -/
theorem Block.without_returnKeywords {source : List Char} {body : Block}
    (sound : (Node.block body).Everywhere (·.IsSound source)) :
    body.without body.returnKeywords = body.unreturned := by
  have owns : (Node.block body).Owns body.returnKeywords := fun _ listed _ => listed
  have same := owns.without_eq_unreturned sound fun site listed => List.mem_map_of_mem listed
  exact Node.block.inj (List.singleton_inj.mp same)

/-! ### No returns -/

theorem Statement.allReturns_append (front back : List Statement) :
    Statement.allReturns (front ++ back) =
      Statement.allReturns front ++ Statement.allReturns back := by
  rw [allReturns_eq_flatMap, allReturns_eq_flatMap, allReturns_eq_flatMap, List.flatMap_append]

mutual

theorem Statement.returns_unreturned : ∀ statement : Statement,
    Statement.allReturns statement.unreturned = []
  | .returning _ _ none | .returning _ _ (some _) | .expression _ | .fallthrough _ | .jump _ _
  | .directive _ | .declaration _ => rfl
  | .conditional node => (List.append_nil _).trans (Conditional.returns_unreturned node)
  | .switch ⟨_, _, cases⟩ => (List.append_nil _).trans (SwitchCase.returns_unreturned cases)
  | .doBlock _ body => (List.append_nil _).trans (Block.returns_unreturned body)
  | .loop ⟨_, _, _, body⟩ => (List.append_nil _).trans (Block.returns_unreturned body)

theorem Statement.allReturns_unreturned : ∀ statements : List Statement,
    Statement.allReturns (Statement.unreturnedAll statements) = []
  | [] => rfl
  | statement :: rest => by
      rw [Statement.unreturnedAll, Statement.allReturns_append,
        Statement.returns_unreturned statement, Statement.allReturns_unreturned rest,
        List.append_nil]

/-- **A body without its returns** has none. -/
theorem Block.returns_unreturned : ∀ block : Block, block.unreturned.returns = []
  | ⟨_, statements⟩ => Statement.allReturns_unreturned statements

theorem Conditional.returns_unreturned : ∀ node : Conditional, node.unreturned.returns = []
  | ⟨_, _, thenBlock, none⟩ => Block.returns_unreturned thenBlock
  | ⟨_, _, thenBlock, some otherwise⟩ => by
      rw [Conditional.unreturned, Conditional.returns, Block.returns_unreturned thenBlock,
        Alternative.returns_unreturned otherwise, List.append_nil]

theorem Alternative.returns_unreturned : ∀ otherwise : Alternative,
    otherwise.unreturned.returns = []
  | .block node => Block.returns_unreturned node
  | .chained node => Conditional.returns_unreturned node

theorem SwitchCase.returns_unreturned : ∀ cases : List SwitchCase,
    SwitchCase.returns (SwitchCase.unreturnedAll cases) = []
  | [] => rfl
  | ⟨_, _, body⟩ :: rest => by
      rw [SwitchCase.unreturnedAll, SwitchCase.returns, Block.returns_unreturned body,
        SwitchCase.returns_unreturned rest, List.append_nil]

end

section Bare

variable {form : CallForm}

mutual

theorem Statement.length_returns_rebuild : ∀ statement : Statement,
    (statement.rebuild form).returns.length = statement.returns.length
  | .returning _ _ none | .returning _ _ (some _) | .expression _ | .fallthrough _ | .jump _ _
  | .directive _ | .declaration _ => rfl
  | .conditional node => Conditional.length_returns_rebuild node
  | .switch ⟨_, _, cases⟩ => SwitchCase.length_returns_rebuild cases
  | .doBlock _ body => Block.length_returns_rebuild body
  | .loop ⟨_, _, _, body⟩ => Block.length_returns_rebuild body

theorem Statement.length_allReturns_rebuild : ∀ statements : List Statement,
    (Statement.allReturns (Statement.rebuilds form statements)).length =
      (Statement.allReturns statements).length
  | [] => rfl
  | statement :: rest => by
      rw [Statement.rebuilds, Statement.allReturns, Statement.allReturns, List.length_append,
        List.length_append, Statement.length_returns_rebuild statement,
        Statement.length_allReturns_rebuild rest]

/-- A body has as many returns wherever it is written. -/
theorem Block.length_returns_rebuild : ∀ block : Block,
    (block.rebuild form).returns.length = block.returns.length
  | ⟨_, statements⟩ => Statement.length_allReturns_rebuild statements

theorem Conditional.length_returns_rebuild : ∀ node : Conditional,
    (node.rebuild form).returns.length = node.returns.length
  | ⟨_, _, thenBlock, none⟩ => Block.length_returns_rebuild thenBlock
  | ⟨_, _, thenBlock, some otherwise⟩ => by
      rw [Conditional.rebuild, Alternative.rebuildOption, Conditional.returns, Conditional.returns,
        List.length_append, List.length_append, Block.length_returns_rebuild thenBlock,
        Alternative.length_returns_rebuild otherwise]

theorem Alternative.length_returns_rebuild : ∀ otherwise : Alternative,
    (otherwise.rebuild form).returns.length = otherwise.returns.length
  | .block node => Block.length_returns_rebuild node
  | .chained node => Conditional.length_returns_rebuild node

theorem SwitchCase.length_returns_rebuild : ∀ cases : List SwitchCase,
    (SwitchCase.returns (SwitchCase.rebuilds form cases)).length = (SwitchCase.returns cases).length
  | [] => rfl
  | ⟨_, _, body⟩ :: rest => by
      rw [SwitchCase.rebuilds, SwitchCase.rebuild, SwitchCase.returns, SwitchCase.returns,
        List.length_append, List.length_append, Block.length_returns_rebuild body,
        SwitchCase.length_returns_rebuild rest]

end

end Bare

end ResultBuilder.Syntax
