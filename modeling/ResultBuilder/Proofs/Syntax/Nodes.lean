import ResultBuilder.Syntax.Tree

/-!
# Nodes of syntax trees

The parts of a syntax tree that have a place in the source, as one type with their children.
`Node.Within` is being a node at any depth of another, `Node.Everywhere` a property of all of them.

Main statement: `Node.everywhere_iff` (a property holds everywhere when it holds of a node and
everywhere in its children) and `Node.induction` (induction from the children of a node to the node).
-/

namespace ResultBuilder.Syntax

/-- **A node** of a syntax tree. -/
inductive Node where
  /-- A name, a label or a parameter of a closure. -/
  | name (node : Name)
  /-- A keyword, a sign or a message whose place is kept. -/
  | mark (span : Span)
  | attribute (node : Attribute)
  | type (node : DeclaredType)
  | generic (node : GenericParam)
  | param (node : Param)
  | enumCase (node : EnumCase)
  | pattern (node : Pattern)
  | expression (node : Expr)
  | argument (node : Argument)
  | closure (node : Closure)
  | block (node : Block)
  | statement (node : Statement)
  | condition (node : Condition)
  | switchCase (node : SwitchCase)
  | declaration (node : Declaration)

namespace Node

/-- Where a node is written. -/
def span : Node → Span
  | .name node => node.span
  | .mark span => span
  | .attribute node => node.span
  | .type node => node.span
  | .generic node => node.span
  | .param node => node.span
  | .enumCase node => node.span
  | .pattern node => node.span
  | .expression node => node.span
  | .argument node => node.span
  | .closure node => node.span
  | .block node => node.span
  | .statement node => node.span
  | .condition node => node.span
  | .switchCase node => node.span
  | .declaration node => node.span

/-! ### Children -/

/-- The types that a type is made of. -/
def ofType : DeclaredType → List Node
  | .named _ _ args => args.map .type
  | .tuple _ elements => elements.map .type
  | .optional _ wrapped => [.type wrapped]
  | .function _ params result => params.map .type ++ [.type result]
  | .someOf _ bound => [.type bound]

/-- The parts of a parameter. Its attributes stand before its names or before its type; a single
name is the label too and counts once. -/
def ofParam (param : Param) : List Node :=
  let isBefore (mark : Attribute) : Bool := mark.span.stop ≤ param.name.span.start
  (param.attributes.filter isBefore).map .attribute ++
    (match param.label with
      | none => []
      | some label => if label = param.name then [] else [.name label]) ++
    [.name param.name] ++ (param.attributes.filter (!isBefore ·)).map .attribute ++
    [.type param.type]

/-- The parts of an expression. -/
def ofExpr : Expr → List Node
  | .literal _ _ | .ident _ _ => []
  | .implicitMember _ label => [.name label]
  | .member _ base label => [.expression base, .name label]
  | .call _ callee args trailing =>
      .expression callee :: args.map .argument ++ trailing.toList.map .closure
  | .subscript _ base args => .expression base :: args.map .argument
  | .tuple _ elements => elements.map .argument
  | .paren _ inner => [.expression inner]
  | .array _ elements => elements.map .expression
  | .closure node => [.closure node]
  | .unary _ _ operand => [.expression operand]
  | .binary _ left _ right => [.expression left, .expression right]
  | .ternary _ test thenValue elseValue =>
      [.expression test, .expression thenValue, .expression elseValue]
  | .assign _ target sign value => [.expression target, .mark sign, .expression value]
  | .postfixed _ operand _ => [.expression operand]

/-- What an `if` statement does otherwise. A chained one is a statement of its own. -/
def ofAlternative : Alternative → Node
  | .block node => .block node
  | .chained node => .statement (.conditional node)

/-- The parts of a loop in the order of the source: a `repeat` loop has its condition at its end. -/
def ofLoop : Loop → List Node
  | ⟨_, .forIn element, header, body⟩ => [.pattern element, .expression header, .block body]
  | ⟨_, .whileDo, header, body⟩ => [.expression header, .block body]
  | ⟨_, .repeatWhile, header, body⟩ => [.block body, .expression header]

/-- The parts of a statement. -/
def ofStatement : Statement → List Node
  | .expression node => [.expression node]
  | .conditional node =>
      node.conditions.map .condition ++ .block node.thenBlock ::
        node.otherwise.toList.map ofAlternative
  | .switch node => .expression node.subject :: node.cases.map .switchCase
  | .doBlock _ body => [.block body]
  | .loop node => ofLoop node
  | .returning _ keyword value => .mark keyword :: value.toList.map .expression
  | .fallthrough _ | .jump _ _ => []
  | .directive node => [.mark node.messageSpan]
  | .declaration node => [.declaration node]

/-- The parts of a condition. -/
def ofCondition : Condition → List Node
  | .expression node => [.expression node]
  | .binding _ _ bound value => [.pattern bound, .expression value]

/-- What stands before the colon of a switch case. -/
def ofLabel : CaseLabel → List Node
  | .patterns listed => listed.map .pattern
  | .default => []

/-- The parts of a declaration. -/
def ofDeclaration : Declaration → List Node
  | .variable node =>
      node.attributes.map .attribute ++ .name node.name :: (node.type.toList.map .type ++
        (node.value.toList.map .expression ++ node.body.toList.map .block))
  | .function node =>
      node.attributes.map .attribute ++ .name node.name :: (node.generics.map .generic ++
        (node.params.map .param ++ (node.result.toList.map .type ++ node.body.toList.map .block)))
  | .type node =>
      node.attributes.map .attribute ++ .name node.name :: (node.generics.map .generic ++
        node.members.map .declaration)
  | .enum node => .name node.name :: node.cases.map .enumCase

/-- **The children** of a node, in the order of the source. -/
def children : Node → List Node
  | .name _ | .mark _ | .attribute _ | .pattern _ => []
  | .type node => ofType node
  | .generic node => .name node.name :: node.bound.toList.map .type
  | .param node => ofParam node
  | .enumCase node => .name node.name :: node.payload.map .type
  | .expression node => ofExpr node
  | .argument node => node.label.toList.map .name ++ [.expression node.value]
  | .closure node => node.params.map .name ++ [.block node.body]
  | .block node => node.statements.map .statement
  | .statement node => ofStatement node
  | .condition node => ofCondition node
  | .switchCase node => ofLabel node.label ++ [.block node.body]
  | .declaration node => ofDeclaration node

/-- **The row** of a node: its children, where a closure shows the statements of its body in place
of the body, which has the span of the closure. -/
def row : Node → List Node
  | .closure node => node.params.map .name ++ node.body.statements.map .statement
  | node => node.children

/-! ### Depth -/

/-- **A node within a node**: the node itself, or within one of its children. -/
inductive Within : Node → Node → Prop
  | self (node : Node) : Within node node
  | child {inner child node : Node} (member : child ∈ node.children)
      (within : Within inner child) : Within inner node

/-- Nodes within a node are within all that the node is within. -/
theorem Within.trans {inner middle outer : Node} (first : inner.Within middle)
    (second : middle.Within outer) : inner.Within outer := by
  induction second with
  | self => exact first
  | child member _ ih => exact .child member ih

/-- **A property everywhere** in a node. -/
def Everywhere (P : Node → Prop) (node : Node) : Prop :=
  ∀ inner, inner.Within node → P inner

/-- A property holds everywhere when it holds here and everywhere in the children. -/
theorem everywhere_iff {P : Node → Prop} {node : Node} :
    node.Everywhere P ↔ P node ∧ ∀ child ∈ node.children, child.Everywhere P := by
  constructor
  · intro everywhere
    refine ⟨everywhere _ (.self _), fun child member inner within => ?_⟩
    exact everywhere _ (.child member within)
  · rintro ⟨here, below⟩ inner within
    cases within with
    | self => exact here
    | child member within => exact below _ member _ within

theorem Everywhere.here {P : Node → Prop} {node : Node} (everywhere : node.Everywhere P) :
    P node :=
  everywhere _ (.self _)

theorem Everywhere.child {P : Node → Prop} {node child : Node} (everywhere : node.Everywhere P)
    (member : child ∈ node.children) : child.Everywhere P :=
  (everywhere_iff.mp everywhere).2 child member

/-- What holds everywhere in a node holds everywhere in the nodes within it. -/
theorem Everywhere.within {P : Node → Prop} {node part : Node} (everywhere : node.Everywhere P)
    (within : part.Within node) : part.Everywhere P :=
  fun inner inside => everywhere inner (inside.trans within)

theorem Everywhere.imp {P Q : Node → Prop} {node : Node} (everywhere : node.Everywhere P)
    (weaker : ∀ inner, P inner → Q inner) : node.Everywhere Q :=
  fun inner within => weaker inner (everywhere inner within)

/-! ### Induction -/

/-- **Nodes that are smaller** than a number. -/
def Smaller (nodes : List Node) (size : Nat) : Prop :=
  ∀ node ∈ nodes, sizeOf node < size

theorem smaller_nil (size : Nat) : Smaller [] size :=
  List.forall_mem_nil _

theorem smaller_cons {node : Node} {nodes : List Node} {size : Nat} :
    Smaller (node :: nodes) size ↔ sizeOf node < size ∧ Smaller nodes size :=
  List.forall_mem_cons

theorem smaller_append {front back : List Node} {size : Nat} :
    Smaller (front ++ back) size ↔ Smaller front size ∧ Smaller back size :=
  List.forall_mem_append

theorem smaller_map {α : Type} [SizeOf α] {wrap : α → Node} {items : List α} {size : Nat}
    (wraps : ∀ item, sizeOf (wrap item) = 1 + sizeOf item) (fits : sizeOf items < size) :
    Smaller (items.map wrap) size := by
  intro child member
  obtain ⟨item, inside, rfl⟩ := List.mem_map.mp member
  have := List.sizeOf_lt_of_mem inside
  rw [wraps]
  omega

theorem smaller_toList {α : Type} [SizeOf α] {wrap : α → Node} {item? : Option α} {size : Nat}
    (wraps : ∀ item, sizeOf (wrap item) ≤ 2 + sizeOf item) (fits : sizeOf item? + 1 < size) :
    Smaller (item?.toList.map wrap) size := by
  cases item? with
  | none => exact smaller_nil size
  | some item =>
      refine smaller_cons.mpr ⟨?_, smaller_nil size⟩
      have := wraps item
      simp only [Option.some.sizeOf_spec] at fits
      omega

theorem smaller_ofType (type : DeclaredType) : Smaller (ofType type) (1 + sizeOf type) := by
  cases type <;> simp only [ofType, smaller_append, smaller_cons, smaller_nil, and_true]
  case named | tuple => exact smaller_map (fun _ => rfl) (by simp; omega)
  case function => exact ⟨smaller_map (fun _ => rfl) (by simp; omega), by simp +arith⟩
  all_goals simp +arith

theorem smaller_ofParam (param : Param) : Smaller (ofParam param) (1 + sizeOf param) := by
  obtain ⟨span, attributes, label, name, type, isVariadic⟩ := param
  have marks (kept : Attribute → Bool) : Smaller ((attributes.filter kept).map .attribute)
      (1 + sizeOf (Param.mk span attributes label name type isVariadic)) := by
    intro node member
    obtain ⟨mark, inside, rfl⟩ := List.mem_map.mp member
    have := List.sizeOf_lt_of_mem ((List.mem_filter.mp inside).1)
    simp
    omega
  simp only [ofParam, smaller_append, smaller_cons, smaller_nil, and_true]
  refine ⟨⟨⟨⟨marks _, ?_⟩, by simp; omega⟩, marks _⟩, by simp +arith⟩
  split
  · exact smaller_nil _
  · split
    · exact smaller_nil _
    · exact smaller_cons.mpr ⟨by simp; omega, smaller_nil _⟩

theorem smaller_ofExpr (expr : Expr) : Smaller (ofExpr expr) (1 + sizeOf expr) := by
  cases expr <;> simp only [ofExpr, smaller_append, smaller_cons, smaller_nil, and_true]
  case call =>
    exact ⟨⟨by simp; omega, smaller_map (fun _ => rfl) (by simp; omega)⟩,
      smaller_toList (fun _ => by simp) (by simp; omega)⟩
  case subscript => exact ⟨by simp; omega, smaller_map (fun _ => rfl) (by simp; omega)⟩
  case tuple | array => exact smaller_map (fun _ => rfl) (by simp; omega)
  all_goals simp <;> omega

theorem smaller_ofAlternative (otherwise : Option Alternative) :
    Smaller (otherwise.toList.map ofAlternative) (2 + sizeOf otherwise) :=
  smaller_toList (fun other => by cases other <;> simp [ofAlternative]) (by omega)

theorem smaller_ofStatement (statement : Statement) :
    Smaller (ofStatement statement) (1 + sizeOf statement) := by
  cases statement with
  | conditional node =>
      obtain ⟨span, conditions, thenBlock, otherwise⟩ := node
      refine smaller_append.mpr ⟨smaller_map (fun _ => rfl) (by simp; omega),
        smaller_cons.mpr ⟨by simp; omega, fun node member => ?_⟩⟩
      have := smaller_ofAlternative otherwise node member
      simp
      omega
  | switch node =>
      obtain ⟨span, subject, cases⟩ := node
      exact smaller_cons.mpr ⟨by simp; omega, smaller_map (fun _ => rfl) (by simp; omega)⟩
  | loop node =>
      obtain ⟨span, form, header, body⟩ := node
      cases form <;> simp only [ofStatement, ofLoop, smaller_cons, smaller_nil, and_true]
      all_goals simp; omega
  | returning span keyword value =>
      exact smaller_cons.mpr ⟨by simp; omega,
        smaller_toList (fun _ => by simp) (by simp; omega)⟩
  | directive node =>
      obtain ⟨span, kind, message, messageSpan⟩ := node
      exact smaller_cons.mpr ⟨by simp; omega, smaller_nil _⟩
  | fallthrough | jump => exact smaller_nil _
  | expression | doBlock | declaration => exact smaller_cons.mpr ⟨by simp +arith, smaller_nil _⟩

theorem smaller_ofDeclaration (declaration : Declaration) :
    Smaller (ofDeclaration declaration) (1 + sizeOf declaration) := by
  cases declaration with
  | «variable» node =>
      obtain ⟨span, attributes, isMutable, name, type, value, body⟩ := node
      simp only [ofDeclaration, smaller_append, smaller_cons]
      refine ⟨smaller_map (fun _ => rfl) ?_, ?_, smaller_toList (fun _ => ?_) ?_,
        smaller_toList (fun _ => ?_) ?_, smaller_toList (fun _ => ?_) ?_⟩
      all_goals simp <;> omega
  | function node =>
      obtain ⟨span, attributes, isStatic, name, generics, params, result, body⟩ := node
      simp only [ofDeclaration, smaller_append, smaller_cons]
      refine ⟨smaller_map (fun _ => rfl) ?_, ?_, smaller_map (fun _ => rfl) ?_,
        smaller_map (fun _ => rfl) ?_, smaller_toList (fun _ => ?_) ?_,
        smaller_toList (fun _ => ?_) ?_⟩
      all_goals simp <;> omega
  | type node =>
      obtain ⟨span, attributes, kind, name, generics, members⟩ := node
      simp only [ofDeclaration, smaller_append, smaller_cons]
      refine ⟨smaller_map (fun _ => rfl) ?_, ?_, smaller_map (fun _ => rfl) ?_,
        smaller_map (fun _ => rfl) ?_⟩
      all_goals simp; omega
  | enum node =>
      obtain ⟨span, name, cases⟩ := node
      exact smaller_cons.mpr ⟨by simp; omega, smaller_map (fun _ => rfl) (by simp; omega)⟩

/-- A child is smaller than its node. -/
theorem smaller_children (node : Node) : Smaller node.children (sizeOf node) := by
  cases node with
  | name | mark | «attribute» | pattern => exact smaller_nil _
  | type node => exact smaller_ofType node
  | generic node =>
      obtain ⟨span, label, bound⟩ := node
      exact smaller_cons.mpr ⟨by simp; omega,
        smaller_toList (fun _ => by simp) (by simp; omega)⟩
  | enumCase node =>
      obtain ⟨span, label, payload⟩ := node
      exact smaller_cons.mpr ⟨by simp; omega, smaller_map (fun _ => rfl) (by simp; omega)⟩
  | param node => exact smaller_ofParam node
  | expression node => exact smaller_ofExpr node
  | argument node =>
      obtain ⟨span, label, value⟩ := node
      exact smaller_append.mpr
        ⟨smaller_toList (fun _ => by simp) (by simp; omega),
          smaller_cons.mpr ⟨by simp +arith, smaller_nil _⟩⟩
  | closure node =>
      obtain ⟨span, params, body⟩ := node
      exact smaller_append.mpr ⟨smaller_map (fun _ => rfl) (by simp; omega),
        smaller_cons.mpr ⟨by simp +arith, smaller_nil _⟩⟩
  | block node =>
      obtain ⟨span, statements⟩ := node
      exact smaller_map (fun _ => rfl) (by simp; omega)
  | statement node => exact smaller_ofStatement node
  | condition node =>
      cases node <;> simp only [children, ofCondition, smaller_cons, smaller_nil, and_true] <;> simp
      omega
  | switchCase node =>
      obtain ⟨span, label, body⟩ := node
      refine smaller_append.mpr ⟨?_, smaller_cons.mpr ⟨by simp +arith, smaller_nil _⟩⟩
      cases label with
      | default => exact smaller_nil _
      | patterns listed => exact smaller_map (fun _ => rfl) (by simp; omega)
  | declaration node => exact smaller_ofDeclaration node

/-- **Induction over nodes**: what holds of a node when it holds of its children holds of all. -/
theorem induction {P : Node → Prop}
    (step : ∀ node : Node, (∀ child ∈ node.children, P child) → P node) (node : Node) : P node := by
  induction size : sizeOf node using Nat.strongRecOn generalizing node with
  | ind _ ih =>
      refine step node fun child member => ih _ ?_ child rfl
      rw [← size]
      exact smaller_children node child member

end Node

/-- **A node of a program**, at any depth. -/
def Node.WithinProgram (node : Node) (program : Program) : Prop :=
  ∃ statement ∈ program.statements, node.Within (.statement statement)

/-- The functions of a type are its functions among the members. -/
theorem TypeDecl.mem_functions {decl : TypeDecl} {function : FunctionDecl} :
    function ∈ decl.functions ↔ .function function ∈ decl.members := by
  rw [TypeDecl.functions, List.mem_filterMap]
  constructor
  · rintro ⟨member, listed, same⟩
    split at same <;> cases same
    exact listed
  · intro listed
    exact ⟨_, listed, rfl⟩

end ResultBuilder.Syntax
