import ResultBuilder.Proofs.Shape.Order
import ResultBuilder.Proofs.Synthesis.Shapes

/-!
# Merging the shapes of alternatives

The alternatives of an `if` or a `switch` are values of one type, of which each may tell a part. What
they tell is put together to the least shape above all of them, in whatever order they stand, when any
two of them agree: they have the same structure where neither has a hole, and the same functions. Of
two functions the first one is kept as it is, so that what only the second one tells is lost.

* **`Shape.isLUB_mergeAll`**, **`Shape.mergeAll_perm`**: many shapes that agree.
* **`Shape.unify_complete_iff`**: two shapes of the same structure are merged completely just when they
  agree, and the laws that follow.
* **`Shape.unify_functions_incomplete`**: functions of the same structure that are not.
-/

namespace ResultBuilder

open Syntax Transform

namespace Shape

/-! ### Many shapes -/

/-- Shapes that agree are merged one after the other to the least shape above all of them. The shape
that is merged so far agrees with all that are still to come. -/
theorem isLUB_foldl_unify {start : Shape} {shapes : List Shape}
    (ofStart : ∀ shape ∈ shapes, start.Agrees shape) (agree : shapes.Pairwise Agrees) :
    IsLUB {shape | shape = start ∨ shape ∈ shapes} (shapes.foldl unify start) := by
  rw [isLUB_iff_le_iff]
  intro bound
  induction shapes generalizing start with
  | nil => simp [upperBounds]
  | cons shape rest ih =>
      obtain ⟨ofShape, ofRest⟩ := List.pairwise_cons.mp agree
      obtain ⟨here, there⟩ := List.forall_mem_cons.mp ofStart
      have merged : ∀ next ∈ rest, (start.unify shape).Agrees next :=
        fun next listed => here.unify (there next listed) (ofShape next listed)
      rw [List.foldl_cons, ih merged ofRest]
      simp [upperBounds, isLUB_le_iff (isLUB_unify here), or_imp, forall_and, and_assoc]

/-- **Shapes that agree are merged to the least shape above all of them.** -/
theorem isLUB_mergeAll {shapes : List Shape} (agree : shapes.Pairwise Agrees) :
    IsLUB {shape | shape ∈ shapes} (mergeAll shapes) := by
  have fromHole := isLUB_foldl_unify (fun shape _ => .holeLeft shape) agree
  rw [isLUB_iff_le_iff] at fromHole ⊢
  intro bound
  rw [mergeAll, fromHole]
  have blank : Shape.hole ≤ bound := bot_le
  simp [upperBounds, blank]

/-- **The order of shapes that agree does not matter.** -/
theorem mergeAll_perm {shapes others : List Shape} (perm : shapes.Perm others)
    (agree : shapes.Pairwise Agrees) : mergeAll shapes = mergeAll others := by
  have same : {shape | shape ∈ shapes} = {shape | shape ∈ others} :=
    Set.ext fun shape => perm.mem_iff
  have again : others.Pairwise Agrees := perm.pairwise agree fun agrees => agrees.symm
  exact (isLUB_mergeAll agree).unique (same ▸ isLUB_mergeAll again)

/-! ### Complete merging -/

/-- **Merging is complete for shapes that agree, and for no others of the same structure.** Two shapes
that have the same structure where neither has a hole are merged to the least shape above both, with a
hole only where both have one, and to the same in either order, just when the functions that meet in
them are equal. A shape merged with itself is that shape, and merging is associative for any shapes of
the same structure. The shape of a `switch` does not depend on the order of its cases when the shapes
of any two of them agree, nor does that of an `if` on the order of its two wrapped alternatives. -/
theorem unify_complete_iff {left right : Shape} (compatible : left.Compatible right) :
    ((IsLUB {left, right} (left.unify right) ∧
          (∀ path, BlankAt path (left.unify right) ↔ BlankAt path left ∧ BlankAt path right) ∧
          left.unify right = right.unify left) ↔
        left.Agrees right) ∧
      left.unify left = left ∧
      (∀ third : Shape, left.Compatible third → right.Compatible third →
        (left.unify right).unify third = left.unify (right.unify third)) ∧
      (∀ (subject : Expr) (cases others : List SwitchCase) (arms reordered : List Built),
        arms.Perm reordered → (arms.map (·.shape)).Pairwise Agrees →
          (chooseCase subject cases arms).shape = (chooseCase subject others reordered).shape) ∧
      ∀ (setting : Setting) (first second : Operation) (conditions : List Condition)
        (thenBuilt elseBuilt : Built) (origin : Span),
        (first.apply [thenBuilt.shape]).Agrees (second.apply [elseBuilt.shape]) →
          (alternatives setting (first, second) conditions thenBuilt elseBuilt origin).shape =
            (alternatives setting (second, first) conditions elseBuilt thenBuilt origin).shape := by
  refine ⟨⟨fun complete => compatible.agrees complete.2.2,
    fun agrees => ⟨isLUB_unify agrees, blankAt_unify agrees, agrees.unify_comm⟩⟩, unify_self left,
    fun third ofLeft ofRight => unify_assoc compatible ofRight ofLeft,
    fun subject cases others arms reordered perm agree => ?_,
    fun setting first second conditions thenBuilt elseBuilt origin agrees => ?_⟩
  · rw [shape_chooseCase, shape_chooseCase]
    exact mergeAll_perm (perm.map _) agree
  · exact agrees.unify_comm

/-- The wrapper of one side of a union with two parameters. -/
def wrapsSide (capability : Capability) (side : String) : Operation where
  capability
  name := "buildEither"
  params := [.param side]
  isVariadic := false
  generics := ["T", "U"]
  result := .named "E" [.param "T", .param "U"]
  span := ⟨0, 11⟩

/-- Two sides of a union, of which each shape knows one. -/
theorem unify_complete_sides :
    let left : Shape := .named "E" [.named "Int" [], .hole]
    let right : Shape := .named "E" [.hole, .function [] (.named "Text" [])]
    let both : Shape := .named "E" [.named "Int" [], .function [] (.named "Text" [])]
    (left.Compatible right ∧ left.Agrees right) ∧ IsLUB {left, right} both ∧
      BlankAt [1] left ∧ ¬ BlankAt [1] both ∧
      (left.Compatible left ∧ left.unify (left.unify right) = both) ∧
      (∀ (subject : Expr) (cases : List SwitchCase),
        (chooseCase subject cases [⟨.nil, left⟩, ⟨.nil, right⟩]).shape =
          (chooseCase subject cases [⟨.nil, right⟩, ⟨.nil, left⟩]).shape) ∧
      ∀ (setting : Setting) (conditions : List Condition) (origin : Span),
        (alternatives setting (wrapsSide .eitherFirst "T", wrapsSide .eitherSecond "U") conditions
            ⟨.nil, .named "Int" []⟩ ⟨.nil, .function [] (.named "Text" [])⟩ origin).shape =
          (alternatives setting (wrapsSide .eitherSecond "U", wrapsSide .eitherFirst "T") conditions
            ⟨.nil, .function [] (.named "Text" [])⟩ ⟨.nil, .named "Int" []⟩ origin).shape := by
  intro left right both
  have compatible : left.Compatible right :=
    .node rfl (.cons (.holeRight _) (.cons (.holeLeft _) .nil))
  have agrees : left.Agrees right :=
    .node rfl nofun (.cons (.holeRight _) (.cons (.holeLeft _) .nil))
  have alike : left.Compatible left :=
    .node rfl (.cons (.node rfl .nil) (.cons (.holeLeft _) .nil))
  obtain ⟨complete, -, -, reorder, swap⟩ := unify_complete_iff compatible
  obtain ⟨-, self, assoc, -⟩ := unify_complete_iff alike
  obtain ⟨isLUB, blank, -⟩ := complete.mpr agrees
  have filled : ¬ BlankAt [1] right := by
    intro blankRight
    have node : right ≠ .hole := nofun
    obtain ⟨inner, isPart, blankInner⟩ := (blankAt_cons_iff node).mp blankRight
    rw [blankAt_nil_iff] at blankInner
    subst blankInner
    cases isPart
  have again : left.unify (left.unify right) = both := by
    rw [← assoc right compatible compatible, self]
    rfl
  exact ⟨⟨compatible, agrees⟩, isLUB, .part rfl (.hole []),
    fun blankBoth => filled ((blank [1]).mp blankBoth).2, ⟨alike, again⟩,
    fun subject cases => reorder subject cases cases _ _ (.swap _ _ _)
      (.cons (List.forall_mem_singleton.mpr agrees) (List.pairwise_singleton _ _)),
    fun setting conditions origin => swap setting _ _ conditions _ _ origin agrees⟩

/-- A function with a known parameter. -/
def knownParam : Shape := .function [.named "Int" []] .hole

/-- A function with a known result. -/
def knownResult : Shape := .function [.hole] (.named "String" [])

/-- The function of which both are known. -/
def knownFunction : Shape := .function [.named "Int" []] (.named "String" [])

/-- It is the least shape above both. -/
theorem isLUB_knownFunction : IsLUB {knownParam, knownResult} knownFunction := by
  constructor
  · rintro shape (rfl | rfl)
    · exact .node rfl (.cons (.refl _) (.cons (.hole _) .nil))
    · exact .node rfl (.cons (.hole _) (.cons (.refl _) .nil))
  · intro other above
    have ofParam : Sketches knownParam other := above (Set.mem_insert _ _)
    have ofResult : Sketches knownResult other := above (Set.mem_insert_of_mem _ rfl)
    rcases ofParam with _ | ⟨same, params⟩
    rcases ofResult with _ | ⟨_, results⟩
    refine .node same ?_
    -- the parameter is above that of the one function, the result above that of the other
    revert params results
    generalize other.parts = inner
    rintro (_ | ⟨param, _⟩) (_ | ⟨_, _ | ⟨result, rest⟩⟩)
    exact .cons param (.cons result rest)

/-- **Functions are not merged**: of two functions of the same structure the first one is kept, and what
only the second one tells is lost. -/
theorem unify_functions_incomplete :
    knownParam.Compatible knownResult ∧
      IsLUB {knownParam, knownResult} knownFunction ∧
      knownParam.unify knownResult = knownParam ∧
      ¬ IsLUB {knownParam, knownResult} (knownParam.unify knownResult) ∧
      knownParam.unify knownResult ≠ knownResult.unify knownParam := by
  refine ⟨.node rfl (.cons (.holeRight _) (.cons (.holeLeft _) .nil)), isLUB_knownFunction, rfl,
    fun isLUB => ?_, nofun⟩
  have same : knownParam = knownFunction := isLUB.unique isLUB_knownFunction
  cases same

end Shape

end ResultBuilder
