import Mathlib.Data.List.Forall2
import Mathlib.Order.Bounds.Basic
import ResultBuilder.Shape.Binding

/-!
# The order of shapes

A shape lies below another one when it is that shape with holes in place of some of its parts: it says
less of the same type. Merging two shapes never says less than the first of them and never more than
any shape above both. It is the least shape above both, whatever the order, as long as functions that
meet are equal: a function is never merged with another one part by part.

* **`Shape.head`**, **`Shape.parts`**: a shape as a node with its parts.
* **`Shape.Sketches`**: the order. Shapes are a partial order with the hole at its bottom.
* **`Shape.Compatible`**, **`Shape.Agrees`**: the same structure where neither shape has a hole, and
  besides the same functions.
* **`Shape.unify_cases`**: all that merging can do.
* **`Shape.isLUB_unify`**, **`Shape.blankAt_unify`**, **`Shape.Agrees.unify_comm`**,
  **`Shape.unify_assoc`**: the laws of merging.
-/

namespace ResultBuilder

/-! ### Lists in step -/

section Lists

variable {α β : Type}

/-- Lists are related in step when they are equally long and their elements at each place are. -/
theorem forall₂_iff_getElem {related : α → β → Prop} {left : List α} {right : List β} :
    List.Forall₂ related left right ↔ left.length = right.length ∧
      ∀ (index : Nat) (inLeft : index < left.length) (inRight : index < right.length),
        related left[index] right[index] :=
  List.forall₂_iff_get

end Lists

namespace Shape

/-! ### Nodes and parts -/

/-- What a shape is apart from its parts. -/
inductive Head where
  | unit
  | hole
  | param (name : String)
  | named (name : String)
  | tuple
  | optional
  | function
  deriving DecidableEq, Repr

/-- What a shape is apart from its parts. -/
def head : Shape → Head
  | .unit => .unit
  | .hole => .hole
  | .param name => .param name
  | .named name _ => .named name
  | .tuple _ => .tuple
  | .optional _ => .optional
  | .function _ _ => .function

/-- The shapes that a shape is made of, the result of a function behind its parameters. -/
def parts : Shape → List Shape
  | .unit | .hole | .param _ => []
  | .named _ args => args
  | .tuple elements => elements
  | .optional wrapped => [wrapped]
  | .function params result => params ++ [result]

/-- **Induction from the parts of a shape**, whatever it is apart from them. -/
theorem induction_parts {motive : Shape → Prop}
    (node : ∀ shape, (∀ part ∈ parts shape, motive part) → motive shape) (shape : Shape) :
    motive shape := by
  induction shape with
  | unit | hole | param name => exact node _ nofun
  | named name args ih => exact node _ ih
  | tuple elements ih => exact node _ ih
  | optional wrapped ih => exact node _ (List.forall_mem_singleton.mpr ih)
  | function params result ofParams ofResult =>
      exact node _ (List.forall_mem_append.mpr ⟨ofParams, List.forall_mem_singleton.mpr ofResult⟩)

/-- A shape is known from its parts and what it is apart from them. -/
theorem ext_parts {left right : Shape} (head : left.head = right.head)
    (parts : left.parts = right.parts) : left = right := by
  cases left <;> cases right <;> simp_all [Shape.head, Shape.parts]

theorem head_eq_hole_iff {shape : Shape} : shape.head = .hole ↔ shape = .hole := by
  cases shape <;> simp [head]

theorem head_eq_function_iff {shape : Shape} :
    shape.head = .function ↔ ∃ params result, shape = .function params result := by
  cases shape <;> simp [head]

/-! ### The order -/

/-- **A sketch of a shape** is the shape with holes in place of some of its parts. -/
inductive Sketches : Shape → Shape → Prop
  | hole (shape : Shape) : Sketches .hole shape
  | node {left right : Shape} (same : left.head = right.head)
      (parts : List.Forall₂ Sketches left.parts right.parts) : Sketches left right

namespace Sketches

variable {left right : Shape}

theorem refl (shape : Shape) : Sketches shape shape := by
  induction shape using induction_parts with
  | node shape ih => exact .node rfl (List.forall₂_same.mpr ih)

/-- Only a hole is a sketch of a hole. -/
theorem eq_hole (sketches : Sketches left .hole) : left = .hole := by
  cases sketches with
  | hole => rfl
  | node same _ => exact head_eq_hole_iff.mp same

theorem trans {other : Shape} (first : Sketches left right) (second : Sketches right other) :
    Sketches left other := by
  induction left using induction_parts generalizing right other with
  | node left ih =>
      cases first with
      | hole => exact .hole _
      | node same parts =>
          cases second with
          | hole =>
              rw [head_eq_hole_iff.mp same]
              exact .hole _
          | node again others =>
              rw [forall₂_iff_getElem] at parts others
              refine .node (same.trans again) (forall₂_iff_getElem.mpr
                ⟨parts.1.trans others.1, fun index inLeft inRight => ?_⟩)
              have inMiddle : index < right.parts.length := parts.1 ▸ inLeft
              exact ih _ (List.getElem_mem inLeft) (parts.2 index inLeft inMiddle)
                (others.2 index inMiddle inRight)

theorem antisymm (first : Sketches left right) (second : Sketches right left) : left = right := by
  induction left using induction_parts generalizing right with
  | node left ih =>
      cases first with
      | hole => exact second.eq_hole.symm
      | node same parts =>
          cases second with
          | hole => exact head_eq_hole_iff.mp same
          | node _ others =>
              rw [forall₂_iff_getElem] at parts others
              refine ext_parts same (List.ext_getElem parts.1 fun index inLeft inRight => ?_)
              exact ih _ (List.getElem_mem inLeft) (parts.2 index inLeft inRight)
                (others.2 index inRight inLeft)

end Sketches

/-- Shapes are ordered by what they say of a type. -/
instance : PartialOrder Shape where
  le := Sketches
  le_refl := Sketches.refl
  le_trans _ _ _ := Sketches.trans
  le_antisymm _ _ := Sketches.antisymm

instance : OrderBot Shape where
  bot := .hole
  bot_le := Sketches.hole

/-! ### Shapes of the same structure -/

/-- **Compatible shapes** have the same structure wherever neither has a hole. -/
inductive Compatible : Shape → Shape → Prop
  | holeLeft (shape : Shape) : Compatible .hole shape
  | holeRight (shape : Shape) : Compatible shape .hole
  | node {left right : Shape} (same : left.head = right.head)
      (parts : List.Forall₂ Compatible left.parts right.parts) : Compatible left right

/-- **Shapes that agree** have the same structure wherever neither has a hole, and where both have a
function it is the same one. -/
inductive Agrees : Shape → Shape → Prop
  | holeLeft (shape : Shape) : Agrees .hole shape
  | holeRight (shape : Shape) : Agrees shape .hole
  | node {left right : Shape} (same : left.head = right.head) (plain : left.head ≠ .function)
      (parts : List.Forall₂ Agrees left.parts right.parts) : Agrees left right
  | function (params : List Shape) (result : Shape) :
      Agrees (.function params result) (.function params result)

theorem Agrees.symm {left right : Shape} (agrees : left.Agrees right) : right.Agrees left := by
  induction left using induction_parts generalizing right with
  | node left ih =>
      cases agrees with
      | holeLeft => exact .holeRight _
      | holeRight => exact .holeLeft _
      | node same plain parts =>
          rw [forall₂_iff_getElem] at parts
          refine .node same.symm (same ▸ plain) (forall₂_iff_getElem.mpr
            ⟨parts.1.symm, fun index inRight inLeft => ?_⟩)
          exact ih _ (List.getElem_mem inLeft) (parts.2 index inLeft inRight)
      | function => exact .function _ _

/-! ### Merging -/

/-- **Shapes that meet** are the same apart from their parts, have equally many of them and are no
functions. -/
structure Meets (left right : Shape) : Prop where
  same : left.head = right.head
  sameLength : left.parts.length = right.parts.length
  plain : left.head ≠ .function

namespace Meets

variable {left right other : Shape}

theorem symm (meets : left.Meets right) : right.Meets left :=
  ⟨meets.same.symm, meets.sameLength.symm, meets.same ▸ meets.plain⟩

theorem head_unify (meets : left.Meets right) : (left.unify right).head = left.head := by
  obtain ⟨same, sameLength, plain⟩ := meets
  cases left <;> cases right <;> simp_all [head, parts, unify]

/-- **Shapes that meet are merged part by part.** -/
theorem parts_unify (meets : left.Meets right) :
    (left.unify right).parts = List.zipWith unify left.parts right.parts := by
  obtain ⟨same, sameLength, plain⟩ := meets
  cases left <;> cases right <;> simp_all [head, parts, unify, unifyAll_eq_zipWith]

theorem length_parts_unify (meets : left.Meets right) :
    (left.unify right).parts.length = left.parts.length := by
  rw [meets.parts_unify, List.length_zipWith, ← meets.sameLength, min_self]

/-- What is merged meets what the second shape meets. -/
theorem unify_left (meets : left.Meets right) (again : right.Meets other) :
    (left.unify right).Meets other where
  same := meets.head_unify.trans (meets.same.trans again.same)
  sameLength := meets.length_parts_unify.trans (meets.sameLength.trans again.sameLength)
  plain := meets.head_unify ▸ meets.plain

/-- What meets the first shape meets what is merged. -/
theorem unify_right (meets : left.Meets right) (again : right.Meets other) :
    left.Meets (right.unify other) where
  same := meets.same.trans again.head_unify.symm
  sameLength := meets.sameLength.trans again.length_parts_unify.symm
  plain := meets.plain

end Meets

/-- A function is not changed by merging it with another one. -/
theorem unify_function (params others : List Shape) (result other : Shape) :
    (function params result).unify (function others other) = function params result :=
  rfl

/-- **All that merging can do**: fill a hole, merge part by part, or keep the first shape. -/
theorem unify_cases (left right : Shape) :
    left = .hole ∨ left.Meets right ∨ left.unify right = left := by
  cases left with
  | hole => exact .inl rfl
  | unit | param name | function params result =>
      refine .inr (.inr ?_)
      cases right <;> rfl
  | named name args =>
      refine .inr ?_
      cases right with
      | named other others =>
          by_cases fits : name = other ∧ args.length = others.length
          · exact .inl ⟨congrArg Head.named fits.1, fits.2, nofun⟩
          · exact .inr (if_neg fits)
      | _ => exact .inr rfl
  | tuple elements =>
      refine .inr ?_
      cases right with
      | tuple others =>
          by_cases fits : elements.length = others.length
          · exact .inl ⟨rfl, fits, nofun⟩
          · exact .inr (if_neg fits)
      | _ => exact .inr rfl
  | optional wrapped =>
      refine .inr ?_
      cases right with
      | optional other => exact .inl ⟨rfl, rfl, nofun⟩
      | _ => exact .inr rfl

section Laws

variable {left right other : Shape}

/-- **Nothing that the first shape says is lost.** -/
theorem le_unify_left (left right : Shape) : left ≤ left.unify right := by
  induction left using induction_parts generalizing right with
  | node left ih =>
      rcases unify_cases left right with rfl | meets | kept
      · exact bot_le
      · refine .node meets.head_unify.symm ?_
        rw [meets.parts_unify, forall₂_iff_getElem]
        refine ⟨by simp [meets.sameLength], fun index inside _ => ?_⟩
        rw [List.getElem_zipWith]
        exact ih _ (List.getElem_mem inside) _
      · rw [kept]

/-- **Nothing is made up**: a shape above both is above what they are merged to. -/
theorem unify_le (ofLeft : left ≤ other) (ofRight : right ≤ other) : left.unify right ≤ other := by
  induction left using induction_parts generalizing right other with
  | node left ih =>
      rcases unify_cases left right with rfl | meets | kept
      · rwa [hole_unify]
      · cases ofLeft with
        | hole => rwa [hole_unify]
        | node same parts =>
            cases ofRight with
            | hole =>
                rw [unify_hole]
                exact .node same parts
            | node _ others =>
                rw [forall₂_iff_getElem] at parts others
                refine .node (meets.head_unify.trans same) ?_
                rw [meets.parts_unify, forall₂_iff_getElem]
                refine ⟨by simp [meets.sameLength, others.1], fun index _ inOther => ?_⟩
                have inLeft : index < left.parts.length := parts.1 ▸ inOther
                have inRight : index < right.parts.length := others.1 ▸ inOther
                rw [List.getElem_zipWith]
                exact ih _ (List.getElem_mem inLeft) (parts.2 index inLeft inOther)
                  (others.2 index inRight inOther)
      · rwa [kept]

/-- **Nothing that the second shape says is lost**, as long as functions that meet are equal. -/
theorem Agrees.le_unify_right (agrees : left.Agrees right) : right ≤ left.unify right := by
  induction left using induction_parts generalizing right with
  | node left ih =>
      cases agrees with
      | holeLeft => rw [hole_unify]
      | holeRight => exact bot_le
      | node same plain parts =>
          have meets : left.Meets right := ⟨same, parts.length_eq, plain⟩
          rw [forall₂_iff_getElem] at parts
          refine .node (same.symm.trans meets.head_unify.symm) ?_
          rw [meets.parts_unify, forall₂_iff_getElem]
          refine ⟨by simp [parts.1], fun index inRight _ => ?_⟩
          have inLeft : index < left.parts.length := parts.1 ▸ inRight
          rw [List.getElem_zipWith]
          exact ih _ (List.getElem_mem inLeft) (parts.2 index inLeft inRight)
      | function => exact le_rfl

/-- **Shapes that agree are merged to the least shape above both.** -/
theorem isLUB_unify (agrees : left.Agrees right) : IsLUB {left, right} (left.unify right) := by
  constructor
  · simpa [upperBounds] using ⟨le_unify_left left right, agrees.le_unify_right⟩
  · intro other above
    exact unify_le (above (Set.mem_insert _ _)) (above (Set.mem_insert_of_mem _ rfl))

/-- A shape merged with itself is that shape. -/
theorem unify_self (shape : Shape) : shape.unify shape = shape :=
  le_antisymm (unify_le le_rfl le_rfl) (le_unify_left shape shape)

/-- Shapes that agree are merged to the same in either order. -/
theorem Agrees.unify_comm (agrees : left.Agrees right) : left.unify right = right.unify left :=
  (isLUB_unify agrees).unique (Set.pair_comm right left ▸ isLUB_unify agrees.symm)

/-- Compatible shapes that are merged to the same in either order agree. -/
theorem Compatible.agrees (compatible : left.Compatible right)
    (comm : left.unify right = right.unify left) : left.Agrees right := by
  induction left using induction_parts generalizing right with
  | node left ih =>
      cases compatible with
      | holeLeft => exact .holeLeft _
      | holeRight => exact .holeRight _
      | node same parts =>
          by_cases plain : left.head = .function
          · -- either function is kept, so that they are the same
            obtain ⟨params, result, rfl⟩ := head_eq_function_iff.mp plain
            obtain ⟨others, other, rfl⟩ := head_eq_function_iff.mp (same.symm.trans plain)
            rw [unify_function, unify_function] at comm
            rw [comm]
            exact .function _ _
          · have meets : left.Meets right := ⟨same, parts.length_eq, plain⟩
            have merged := meets.parts_unify
            rw [comm, meets.symm.parts_unify] at merged
            rw [forall₂_iff_getElem] at parts
            refine .node same plain (forall₂_iff_getElem.mpr
              ⟨parts.1, fun index inLeft inRight => ?_⟩)
            refine ih _ (List.getElem_mem inLeft) (parts.2 index inLeft inRight) ?_
            have equal := congrArg (·[index]?) merged
            simpa [List.getElem?_zipWith, inLeft, inRight] using equal.symm

/-- **Merging is associative** for shapes of the same structure, whether or not they agree. -/
theorem unify_assoc {first second third : Shape} (ofSecond : first.Compatible second)
    (ofThird : second.Compatible third) (ofBoth : first.Compatible third) :
    (first.unify second).unify third = first.unify (second.unify third) := by
  induction first using induction_parts generalizing second third with
  | node first ih =>
      cases ofSecond with
      | holeLeft => rw [hole_unify, hole_unify]
      | holeRight => rw [unify_hole, hole_unify]
      | node same parts =>
          cases ofThird with
          | holeLeft => rw [unify_hole, hole_unify]
          | holeRight => rw [unify_hole, unify_hole]
          | node again others =>
              cases ofBoth with
              | holeLeft => rw [hole_unify, hole_unify]
              | holeRight => rw [unify_hole, unify_hole]
              | node _ both =>
                  by_cases plain : first.head = .function
                  · -- of functions the first one is kept
                    obtain ⟨_, _, rfl⟩ := head_eq_function_iff.mp plain
                    obtain ⟨_, _, rfl⟩ := head_eq_function_iff.mp (same.symm.trans plain)
                    obtain ⟨_, _, rfl⟩ := head_eq_function_iff.mp (again.symm.trans plain)
                    rfl
                  · have front : first.Meets second := ⟨same, parts.length_eq, plain⟩
                    have back : second.Meets third := ⟨again, others.length_eq, same ▸ plain⟩
                    have left := front.unify_left back
                    have right := front.unify_right back
                    rw [forall₂_iff_getElem] at parts others both
                    refine ext_parts
                      (by rw [left.head_unify, front.head_unify, right.head_unify]) ?_
                    rw [left.parts_unify, front.parts_unify, right.parts_unify, back.parts_unify]
                    refine List.ext_getElem (by simp [parts.1, others.1]) fun index inside _ => ?_
                    simp only [List.length_zipWith, Nat.lt_min] at inside
                    obtain ⟨⟨inFirst, inSecond⟩, inThird⟩ := inside
                    simp only [List.getElem_zipWith]
                    exact ih _ (List.getElem_mem inFirst) (parts.2 index inFirst inSecond)
                      (others.2 index inSecond inThird) (both.2 index inFirst inThird)

/-- Shapes that agree with each other and with another one agree with it when merged. -/
theorem Agrees.unify (agrees : left.Agrees right) (ofLeft : left.Agrees other)
    (ofRight : right.Agrees other) : (left.unify right).Agrees other := by
  induction left using induction_parts generalizing right other with
  | node left ih =>
      cases agrees with
      | holeLeft => rwa [hole_unify]
      | holeRight => rwa [unify_hole]
      | function => exact ofLeft
      | node same plain parts =>
          cases ofLeft with
          | holeLeft => rwa [hole_unify]
          | holeRight => exact .holeRight _
          | function => exact absurd rfl plain
          | node again _ others =>
              cases ofRight with
              | holeLeft =>
                  rw [unify_hole]
                  exact .node again plain others
              | holeRight => exact .holeRight _
              | function => exact absurd same plain
              | node _ _ both =>
                  have meets : left.Meets right := ⟨same, parts.length_eq, plain⟩
                  rw [forall₂_iff_getElem] at parts others both
                  refine .node (meets.head_unify.trans again) (meets.head_unify ▸ plain) ?_
                  rw [meets.parts_unify, forall₂_iff_getElem]
                  refine ⟨by simp [parts.1, both.1], fun index _ inOther => ?_⟩
                  have inRight : index < right.parts.length := both.1 ▸ inOther
                  have inLeft : index < left.parts.length := parts.1 ▸ inRight
                  rw [List.getElem_zipWith]
                  exact ih _ (List.getElem_mem inLeft) (parts.2 index inLeft inRight)
                    (others.2 index inLeft inOther) (both.2 index inRight inOther)

end Laws

/-! ### Places that are left open -/

/-- **Nothing is known of a shape at a place**, given as a path from part to part: there is a hole at
the place or around it. -/
inductive BlankAt : List Nat → Shape → Prop
  | hole (path : List Nat) : BlankAt path .hole
  | part {index : Nat} {path : List Nat} {shape inner : Shape}
      (isPart : shape.parts[index]? = some inner) (blank : BlankAt path inner) :
      BlankAt (index :: path) shape

theorem blankAt_nil_iff {shape : Shape} : BlankAt [] shape ↔ shape = .hole := by
  constructor
  · rintro ⟨⟩
    rfl
  · rintro rfl
    exact .hole _

theorem blankAt_cons_iff {shape : Shape} (filled : shape ≠ .hole) {index : Nat}
    {path : List Nat} :
    BlankAt (index :: path) shape ↔
      ∃ inner, shape.parts[index]? = some inner ∧ BlankAt path inner := by
  constructor
  · intro blank
    cases blank with
    | hole => exact absurd rfl filled
    | part isPart blank => exact ⟨_, isPart, blank⟩
  · rintro ⟨inner, isPart, blank⟩
    exact .part isPart blank

/-- Only holes are merged to a hole. -/
theorem unify_eq_hole_iff {left right : Shape} :
    left.unify right = .hole ↔ left = .hole ∧ right = .hole := by
  constructor
  · intro blank
    have ofLeft : left = .hole := Sketches.eq_hole (blank ▸ le_unify_left left right)
    rw [ofLeft, hole_unify] at blank
    exact ⟨ofLeft, blank⟩
  · rintro ⟨rfl, rfl⟩
    rfl

/-- **A place is left open where both shapes leave it open**, as long as the shapes agree. -/
theorem blankAt_unify {left right : Shape} (agrees : left.Agrees right) (path : List Nat) :
    BlankAt path (left.unify right) ↔ BlankAt path left ∧ BlankAt path right := by
  induction path generalizing left right with
  | nil => rw [blankAt_nil_iff, blankAt_nil_iff, blankAt_nil_iff, unify_eq_hole_iff]
  | cons index path ih =>
      by_cases ofLeft : left = .hole
      · rw [ofLeft, hole_unify]
        exact (and_iff_right (.hole _)).symm
      by_cases ofRight : right = .hole
      · rw [ofRight, unify_hole]
        exact (and_iff_left (.hole _)).symm
      cases agrees with
      | holeLeft => exact absurd rfl ofLeft
      | holeRight => exact absurd rfl ofRight
      | function => rw [unify_function, and_self]
      | node same plain parts =>
          have meets : left.Meets right := ⟨same, parts.length_eq, plain⟩
          have filled : left.unify right ≠ .hole := fun blank => ofLeft (unify_eq_hole_iff.mp blank).1
          rw [blankAt_cons_iff ofLeft, blankAt_cons_iff ofRight, blankAt_cons_iff filled,
            meets.parts_unify, List.getElem?_zipWith]
          by_cases inLeft : index < left.parts.length
          · have inRight : index < right.parts.length := parts.length_eq ▸ inLeft
            have inside := (forall₂_iff_getElem.mp parts).2 index inLeft inRight
            simpa [List.getElem?_eq_getElem, inLeft, inRight] using ih inside
          · simp [List.getElem?_eq_none (Nat.le_of_not_lt inLeft)]

end Shape

end ResultBuilder
