import Mathlib.Data.List.Forall2
import ResultBuilder.Proofs.Builder.Recorded
import ResultBuilder.Proofs.Synthesis.Meaning
import ResultBuilder.Proofs.Synthesis.Paths

/-!
# Shapes of alternatives

The wrappers of a builder may put two alternatives into a union of both. The shape of one wrapped
value is a union with a hole for the other side, and the shapes of the values to choose between are
merged. Nothing that is known of any of them is lost: the merged shape is a tree of unions whose
leaves, in the order of the paths, are the shapes of the values.

* **`FunctionDecl.Injects`**, **`Descriptor.Unites`**: alternatives declared as the sides of a
  union.
* **`Shape.follow`**: what a tree of unions holds at the end of a path.
* **`Shape.merged`**, **`follow_merged`**: shapes put at the ends of paths and merged.
* **`shape_of_alternatives`**: the shapes of a `switch` and of an `if` with `else`.
-/

namespace ResultBuilder

open Syntax Transform Journaled

/-! ### Unions -/

/-- The one of two things that an alternative stands for. -/
def Branch.pick {α : Type} (left right : α) : Branch → α
  | .first => left
  | .second => right

namespace Shape

variable {union : String}

/-- A union of which one side is known. -/
def injected (union : String) : Branch → Shape → Shape
  | .first, shape => .named union [shape, .hole]
  | .second, shape => .named union [.hole, shape]

/-- A shape put at the end of a path through unions of which nothing else is known. -/
def graft (union : String) (path : List Branch) (leaf : Shape) : Shape :=
  path.foldr (injected union) leaf

/-- What one side of a union holds. -/
def side? (union : String) (branch : Branch) : Shape → Option Shape
  | .named name [left, right] => if name = union then some (branch.pick left right) else none
  | _ => none

theorem side?_eq_some_iff {branch : Branch} {shape inner : Shape} :
    shape.side? union branch = some inner ↔
      ∃ left right, shape = .named union [left, right] ∧ branch.pick left right = inner := by
  constructor
  · intro found
    unfold side? at found
    split at found
    · next name left right =>
        obtain ⟨rfl, rfl⟩ : name = union ∧ branch.pick left right = inner := by simpa using found
        exact ⟨left, right, rfl, rfl⟩
    · cases found
  · rintro ⟨left, right, rfl, rfl⟩
    exact if_pos rfl

/-- **What a tree of unions holds** at the end of a path. -/
def follow (union : String) : List Branch → Shape → Option Shape
  | [], shape => some shape
  | branch :: path, shape => (shape.side? union branch).bind (follow union path)

theorem follow_cons (branch : Branch) (path : List Branch) (left right : Shape) :
    follow union (branch :: path) (.named union [left, right]) =
      follow union path (branch.pick left right) := by
  rw [follow, side?_eq_some_iff.mpr ⟨left, right, rfl, rfl⟩, Option.bind_some]

/-- Only a union has something at the end of a longer path. -/
theorem exists_of_follow_cons {branch : Branch} {path : List Branch} {shape leaf : Shape}
    (holds : follow union (branch :: path) shape = some leaf) :
    ∃ left right, shape = .named union [left, right] := by
  obtain ⟨inner, found, -⟩ := Option.bind_eq_some_iff.mp holds
  obtain ⟨left, right, same, -⟩ := side?_eq_some_iff.mp found
  exact ⟨left, right, same⟩

/-! ### Merging -/

/-- Unions are merged side by side. -/
theorem unify_union (left right otherLeft otherRight : Shape) :
    (Shape.named union [left, right]).unify (.named union [otherLeft, otherRight]) =
      .named union [left.unify otherLeft, right.unify otherRight] := by
  rw [unify, if_pos ⟨rfl, rfl⟩, unifyAll_eq_zipWith]
  rfl

/-- Shapes merged one after the other. -/
def mergeAll (shapes : List Shape) : Shape :=
  shapes.foldl unify .hole

theorem foldl_unify_first (left right : Shape) (shapes : List Shape) :
    (shapes.map (injected union .first)).foldl unify (.named union [left, right]) =
      .named union [shapes.foldl unify left, right] := by
  induction shapes generalizing left with
  | nil => rfl
  | cons shape rest ih =>
      rw [List.map_cons, List.foldl_cons, List.foldl_cons, injected, unify_union, unify_hole, ih]

theorem foldl_unify_second (left right : Shape) (shapes : List Shape) :
    (shapes.map (injected union .second)).foldl unify (.named union [left, right]) =
      .named union [left, shapes.foldl unify right] := by
  induction shapes generalizing right with
  | nil => rfl
  | cons shape rest ih =>
      rw [List.map_cons, List.foldl_cons, List.foldl_cons, injected, unify_union, unify_hole, ih]

/-- **The two sides of a union are filled one after the other**, and neither touches the other. -/
theorem mergeAll_injected {lefts : List Shape} (some : lefts ≠ []) (rights : List Shape) :
    mergeAll (lefts.map (injected union .first) ++ rights.map (injected union .second)) =
      .named union [mergeAll lefts, mergeAll rights] := by
  obtain ⟨shape, rest, rfl⟩ := List.exists_cons_of_ne_nil some
  rw [mergeAll, List.foldl_append, List.map_cons, List.foldl_cons, hole_unify, injected,
    foldl_unify_first, foldl_unify_second, mergeAll, List.foldl_cons, hole_unify, mergeAll]

/-- **Shapes put at the ends of paths and merged.** -/
def merged (union : String) (paths : List (List Branch)) (leaves : List Shape) : Shape :=
  mergeAll (List.zipWith (graft union) paths leaves)

end Shape

open Shape

variable {union : String}

/-! ### Trees of unions -/

/-- Paths that start alike lead from a union to what paths lead to from one of its sides. -/
theorem forall₂_follow_map {branch : Branch} {paths : List (List Branch)} {leaves : List Shape}
    {left right : Shape} :
    List.Forall₂ (fun path leaf => (Shape.named union [left, right]).follow union path = some leaf)
        (paths.map (branch :: ·)) leaves ↔
      List.Forall₂ (fun path leaf => (branch.pick left right).follow union path = some leaf)
        paths leaves := by
  simp only [List.forall₂_map_left_iff, follow_cons]


/-- A path to a leaf exists in every code. -/
theorem IsCode.ne_nil {paths : List (List Branch)} (code : IsCode paths) : paths ≠ [] := by
  induction code with
  | leaf => exact List.cons_ne_nil _ _
  | pair left right ofLeft ofRight => simp [ofLeft]

/-- Putting a shape below a branch is putting it below the path and then on the side. -/
theorem zipWith_graft_map {branch : Branch} {paths : List (List Branch)} {leaves : List Shape} :
    List.zipWith (graft union) (paths.map (branch :: ·)) leaves =
      (List.zipWith (graft union) paths leaves).map (injected union branch) := by
  rw [List.zipWith_map_left, List.map_zipWith]
  rfl

variable (union) in
/-- At the end of the empty path stands the shape itself. -/
theorem zipWith_graft_nil (leaves : List Shape) :
    List.zipWith (graft union) (List.replicate leaves.length []) leaves = leaves := by
  induction leaves with
  | nil => rfl
  | cons leaf rest ih =>
      rw [List.length_cons, List.replicate_succ, List.zipWith_cons_cons, ih]
      rfl

variable (union) in
/-- **Merging keeps every leaf**: shapes put at the ends of the paths of a code and merged are found
at the ends of the paths. -/
theorem follow_merged {paths : List (List Branch)} (code : IsCode paths) (leaves : List Shape)
    (sameLength : leaves.length = paths.length) :
    List.Forall₂ (fun path leaf => (merged union paths leaves).follow union path = some leaf)
      paths leaves := by
  induction code generalizing leaves with
  | leaf =>
      obtain ⟨leaf, rfl⟩ := List.length_eq_one_iff.mp sameLength
      exact .cons (congrArg some (hole_unify leaf)) .nil
  | @pair lefts rights left right ofLeft ofRight =>
      -- the leaves are shared out between the two sides
      rw [List.length_append, List.length_map, List.length_map] at sameLength
      obtain ⟨front, back, rfl, frontLength⟩ : ∃ front back, leaves = front ++ back ∧
          front.length = lefts.length :=
        ⟨leaves.take lefts.length, leaves.drop lefts.length, (List.take_append_drop _ _).symm,
          List.length_take_of_le (by omega)⟩
      have backLength : back.length = rights.length := by
        rw [List.length_append] at sameLength
        omega
      have sides : merged union (lefts.map (.first :: ·) ++ rights.map (.second :: ·))
          (front ++ back) = .named union [merged union lefts front, merged union rights back] := by
        have inhabited : List.zipWith (graft union) lefts front ≠ [] := by
          simpa [List.zipWith_eq_nil_iff, ← List.length_eq_zero_iff, frontLength] using left.ne_nil
        rw [merged, List.zipWith_append (by rw [List.length_map, frontLength]), zipWith_graft_map,
          zipWith_graft_map, mergeAll_injected inhabited]
        rfl
      rw [sides]
      exact List.rel_append (forall₂_follow_map.mpr (ofLeft front frontLength))
        (forall₂_follow_map.mpr (ofRight back backLength))

/-- What holds along two lists one after the other holds along each of them. -/
theorem forall₂_of_append {α β : Type} {related : α → β → Prop} {front back : List α}
    {others : List β} (holds : List.Forall₂ related (front ++ back) others) :
    List.Forall₂ related front (others.take front.length) ∧
      List.Forall₂ related back (others.drop front.length) :=
  ⟨(List.forall₂_take_append _ front back holds.flip).flip,
    (List.forall₂_drop_append _ front back holds.flip).flip⟩

/-- A shape that holds something at the ends of the paths of a pair is a union. -/
theorem exists_of_follow_pair {lefts : List (List Branch)} (inhabited : lefts ≠ [])
    {leaves : List Shape} {shape : Shape}
    (holds : List.Forall₂ (fun path leaf => shape.follow union path = some leaf)
      (lefts.map (.first :: ·)) leaves) :
    ∃ left right, shape = .named union [left, right] := by
  obtain ⟨path, others, rfl⟩ := List.exists_cons_of_ne_nil inhabited
  cases holds with
  | cons here _ => exact exists_of_follow_cons here

/-- **The leaves make the tree**: two shapes that hold the same at the ends of the paths of a code
are equal. -/
theorem eq_of_follow {paths : List (List Branch)} (code : IsCode paths) {leaves : List Shape}
    {shape other : Shape}
    (holds : List.Forall₂ (fun path leaf => shape.follow union path = some leaf) paths leaves)
    (holdsOther : List.Forall₂ (fun path leaf => other.follow union path = some leaf)
      paths leaves) :
    shape = other := by
  induction code generalizing leaves shape other with
  | leaf =>
      cases holds with
      | cons here none =>
          cases holdsOther with
          | cons there _ => exact Option.some.inj (here.trans there.symm)
  | pair left right ofLeft ofRight =>
      obtain ⟨front, back⟩ := forall₂_of_append holds
      obtain ⟨frontOther, backOther⟩ := forall₂_of_append holdsOther
      obtain ⟨first, second, rfl⟩ := exists_of_follow_pair left.ne_nil front
      obtain ⟨firstOther, secondOther, rfl⟩ := exists_of_follow_pair left.ne_nil frontOther
      rw [forall₂_follow_map] at front back frontOther backOther
      rw [show first = firstOther from ofLeft front frontOther,
        show second = secondOther from ofRight back backOther]

/-! ### Alternatives as the sides of a union -/

/-- **A function that puts one of two alternatives into their union**: it is generic in both and has
the one as its parameter, under the label of the alternative, and the union as its result. -/
structure Syntax.FunctionDecl.Injects (function : FunctionDecl) (branch : Branch)
    (union left right : String) : Prop where
  isStatic : function.isStatic = true
  name : function.name.text = "buildEither"
  generics : function.genericNames = [left, right]
  /-- The two generic parameters are not the same. -/
  distinct : left ≠ right
  param : ∃ param place, function.params = [param] ∧
    param.label.map (·.text) = some branch.text ∧ param.isVariadic = false ∧
    param.type = .named place (branch.pick left right) []
  result : ∃ place leftPlace rightPlace, function.result =
    some (.named place union [.named leftPlace left [], .named rightPlace right []])

/-- **A builder whose alternatives are the sides of a union.** -/
structure Descriptor.Unites (descriptor : Descriptor) (union : String) : Prop where
  first : ∃ function left right, function.Injects .first union left right ∧
    descriptor.eitherFirst = Operation.ofFunction? function
  second : ∃ function left right, function.Injects .second union left right ∧
    descriptor.eitherSecond = Operation.ofFunction? function

/-- The capability of an alternative. -/
def Branch.capability : Branch → Capability
  | .first => .eitherFirst
  | .second => .eitherSecond

section Injecting

variable {function : FunctionDecl} {branch : Branch} {left right : String}

/-- Such a function as an operation. -/
theorem Syntax.FunctionDecl.Injects.ofFunction_eq
    (injects : function.Injects branch union left right) (capability : Capability) :
    Operation.ofFunction capability function =
      { capability
        name := "buildEither"
        params := [.param (branch.pick left right)]
        isVariadic := false
        generics := [left, right]
        result := .named union [.param left, .param right]
        span := function.name.span } := by
  obtain ⟨-, name, generics, -, ⟨param, place, params, -, variadic, type⟩,
    ⟨resultPlace, leftPlace, rightPlace, result⟩⟩ := injects
  have picked : branch.pick left right ∈ [left, right] := by
    cases branch <;> simp [Branch.pick]
  have parameter : Shape.ofType [left, right] (.named place (branch.pick left right) []) =
      .param (branch.pick left right) := by
    rw [ofType, if_pos (by simpa using picked)]
  have united : Shape.ofType [left, right] (.named resultPlace union
      [.named leftPlace left [], .named rightPlace right []]) =
        .named union [.param left, .param right] := by
    simp [ofType, ofTypes]
  simp only [Operation.ofFunction, generics, params, result, name, List.map_cons, List.map_nil,
    List.any_cons, List.any_nil, variadic, type, parameter, Option.map_some, Option.getD_some,
    united, Bool.or_false]

/-- Such a function is an operation. -/
theorem Syntax.FunctionDecl.Injects.ofFunction?
    (injects : function.Injects branch union left right) :
    Operation.ofFunction? function = some (Operation.ofFunction branch.capability function) := by
  have operation := injects.ofFunction_eq branch.capability
  obtain ⟨isStatic, name, -, -, ⟨param, place, params, label, variadic, -⟩, -⟩ := injects
  have labels : Operation.labels function = [some branch.text] := by
    rw [Operation.labels, params, List.map_singleton, label]
  rw [Operation.ofFunction?_eq_some_iff]
  refine ⟨branch.capability, ?_, ?_, rfl⟩
  · rw [name, labels]
    cases branch <;> rfl
  · -- both generic parameters occur in the result
    have used : (Operation.ofFunction branch.capability function).unusedGeneric? = none := by
      rw [operation]
      simp [Operation.unusedGeneric?, mentions, anyMentions]
    have fixed : ([param] : List Param).any (·.isVariadic) = false := by
      rw [List.any_cons, variadic, List.any_nil, Bool.false_or]
    rw [Operation.misfit?, labels, used, isStatic, params, fixed]
    cases branch <;> rfl

/-- A parameter compared with a shape stands for it, and no other one stands for anything. -/
theorem getD_lookup_bind_param (name other : String) (shape : Shape) :
    (((Shape.param name).bind shape []).lookup other).getD .hole =
      if other = name then shape else .hole := by
  by_cases same : other = name
  · rw [if_pos same, same]
    cases shape <;> simp [Shape.bind, Bindings.insertNew]
  · have apart : (other == name) = false := beq_false_of_ne same
    rw [if_neg same]
    cases shape <;> simp [Shape.bind, Bindings.insertNew, List.lookup_cons, List.lookup_nil, apart]

/-- **Such an operation puts a value on its side of the union**, of which the other side is not
known. -/
theorem Syntax.FunctionDecl.Injects.apply (injects : function.Injects branch union left right)
    (capability : Capability) (shape : Shape) :
    (Operation.ofFunction capability function).apply [shape] = injected union branch shape := by
  have distinct := injects.distinct
  have learnt : Operation.bindFrom (.ofFunction capability function) 0 [shape] [] =
      (Shape.param (branch.pick left right)).bind shape [] := by
    rw [injects.ofFunction_eq]
    rfl
  rw [Operation.apply, learnt, injects.ofFunction_eq]
  simp only [substitute, substituteAll, getD_lookup_bind_param]
  cases branch with
  | first => rw [Branch.pick, if_pos rfl, if_neg distinct.symm, injected]
  | second => rw [Branch.pick, if_neg distinct, if_pos rfl, injected]

end Injecting

/-- **The wrappers of such a builder** put values on the sides of the union. -/
theorem Descriptor.Unites.exists_either? {descriptor : Descriptor}
    (unites : descriptor.Unites union) :
    ∃ operations, descriptor.either? = some operations ∧
      (∀ shape, operations.1.apply [shape] = injected union .first shape) ∧
      ∀ shape, operations.2.apply [shape] = injected union .second shape := by
  obtain ⟨⟨first, _, _, injectsFirst, isFirst⟩, ⟨second, _, _, injectsSecond, isSecond⟩⟩ := unites
  rw [injectsFirst.ofFunction?] at isFirst
  rw [injectsSecond.ofFunction?] at isSecond
  refine ⟨_, by rw [Descriptor.either?, isFirst, isSecond], injectsFirst.apply _,
    injectsSecond.apply _⟩

/-! ### The shapes of alternatives -/

section Alternatives

variable {setting : Setting} {operations : Operation × Operation}

/-- A value wrapped along a path has its shape at the end of the path. -/
theorem shape_wrapAlong (first : ∀ shape, operations.1.apply [shape] = injected union .first shape)
    (second : ∀ shape, operations.2.apply [shape] = injected union .second shape)
    (origin : Span) (path : List Branch) (built : Built) :
    (wrapAlong setting operations origin path built).shape = graft union path built.shape := by
  induction path with
  | nil => rfl
  | cons branch path ih =>
      cases branch with
      | first =>
          rw [wrapAlong_cons_first]
          exact (first _).trans (congrArg _ ih)
      | second =>
          rw [wrapAlong_cons_second]
          exact (second _).trans (congrArg _ ih)

/-- The shapes of wrapped cases. -/
theorem map_shape_wrapCases
    (first : ∀ shape, operations.1.apply [shape] = injected union .first shape)
    (second : ∀ shape, operations.2.apply [shape] = injected union .second shape)
    {cases : List SwitchCase} {arms : List Built} (sameLength : arms.length = cases.length) :
    (wrapCases setting (some operations) cases arms).map (·.shape) =
      List.zipWith (graft union) (eitherPaths arms.length setting.config.eitherEncoding)
        (arms.map (·.shape)) := by
  have ofArms : arms.map (·.shape) = (cases.zip arms).map (·.2.shape) := by
    conv_lhs => rw [← List.map_snd_zip (Nat.le_of_eq sameLength), List.map_map]
    rfl
  rw [wrapCases, List.map_map, ofArms, List.zipWith_map_right, List.zipWith_comm,
    List.zip_eq_zipWith, List.map_zipWith]
  refine congrArg (List.zipWith · _ _) ?_
  funext switchCase path
  exact shape_wrapAlong first second _ path _

/-- The shape of a `switch` merges those of its cases. -/
theorem shape_chooseCase (subject : Expr) (cases : List SwitchCase) (arms : List Built) :
    (chooseCase subject cases arms).shape = mergeAll (arms.map (·.shape)) := by
  rw [chooseCase, mergeAll, List.foldl_map]

/-- **Transformed cases make a `switch`** of which the shape has the shapes of the cases at the ends
of their paths. -/
theorem switch_of_arms (unites : setting.descriptor.Unites union) (span : Span) (subject : Expr)
    {cases : List SwitchCase} {arms : List Built}
    (ran : (caseBodies setting cases).outcome = .ok arms) :
    ∃ built, (switch setting ⟨span, subject, cases⟩).outcome = .ok built ∧
      built.shape = merged union (eitherPaths arms.length setting.config.eitherEncoding)
        (arms.map (·.shape)) := by
  obtain ⟨operations, either, first, second⟩ := unites.exists_either?
  have sameLength := length_of_caseBodies ran
  by_cases several : 1 < arms.length
  · refine ⟨_, switch_eq_ok_iff.mpr ⟨arms, ran, .inl ⟨several, operations, either, rfl⟩⟩, ?_⟩
    rw [shape_chooseCase, map_shape_wrapCases first second sameLength, merged]
  · refine ⟨_, switch_eq_ok_iff.mpr ⟨arms, ran, .inr ⟨several, rfl⟩⟩, ?_⟩
    rw [shape_chooseCase, merged, Interpretation.eitherPaths_of_le_one (Nat.le_of_not_lt several)]
    have bare := zipWith_graft_nil union (arms.map (·.shape))
    rw [List.length_map] at bare
    rw [bare]

/-- The blocks of cases are transformed one after the other. -/
theorem caseBodies_of_blocks {cases : List SwitchCase} {arms : List Built}
    (transformed : List.Forall₂
      (fun (switchCase : SwitchCase) arm => (block setting switchCase.body).outcome = .ok arm)
      cases arms) :
    (caseBodies setting cases).outcome = .ok arms := by
  induction transformed with
  | nil => exact outcome_caseBodies_nil
  | @cons switchCase _ _ _ ran _ ih =>
      obtain ⟨_, _, _⟩ := switchCase
      exact caseBodies_cons_eq_ok_iff.mpr ⟨_, ran, _, ih, rfl⟩

/-- **Alternatives keep all shapes.** Where the wrappers of a builder put values on the sides of a
union, a `switch` whose blocks are transformed is transformed, and its shape is the one tree of
unions that has, at the end of the path of each case, just the shape of the block of the case. An
`if` whose branches are transformed has the union of their shapes. -/
theorem shape_of_alternatives (setting : Setting) (union : String)
    (unites : setting.descriptor.Unites union) :
    (∀ (span : Span) (subject : Expr) (cases : List SwitchCase) (arms : List Built), cases ≠ [] →
      List.Forall₂ (fun (switchCase : SwitchCase) arm =>
        (block setting switchCase.body).outcome = .ok arm) cases arms →
      ∃ built, (switch setting ⟨span, subject, cases⟩).outcome = .ok built ∧
        ∀ shape, shape = built.shape ↔
          List.Forall₂ (fun path arm => shape.follow union path = some arm.shape)
            (eitherPaths cases.length setting.config.eitherEncoding) arms) ∧
      ∀ (span : Span) (conditions : List Condition) (thenBlock : Block)
        (otherwise : Syntax.Alternative) (first second : Built),
        (block setting thenBlock).outcome = .ok first →
        (alternative setting otherwise).outcome = .ok second →
        ∃ built,
          (conditional setting ⟨span, conditions, thenBlock, some otherwise⟩).outcome = .ok built ∧
          built.shape = .named union [first.shape, second.shape] := by
  constructor
  · intro span subject cases arms some transformed
    obtain ⟨built, succeeded, shape⟩ :=
      switch_of_arms unites span subject (caseBodies_of_blocks transformed)
    have code := isCode_eitherPaths (List.length_pos_of_ne_nil some) setting.config.eitherEncoding
    rw [← transformed.length_eq] at shape
    have holds := follow_merged union code (arms.map (·.shape))
      (by rw [List.length_map, length_eitherPaths, transformed.length_eq])
    rw [← shape] at holds
    refine ⟨built, succeeded, fun other => ?_⟩
    rw [← List.forall₂_map_right_iff (f := fun arm : Built => arm.shape)
      (R := fun path leaf => other.follow union path = Option.some leaf)]
    exact ⟨fun same => same ▸ holds, fun holdsOther => eq_of_follow code holdsOther holds⟩
  · intro span conditions thenBlock otherwise first second ranFirst ranSecond
    obtain ⟨operations, either, ofFirst, ofSecond⟩ := unites.exists_either?
    refine ⟨_, conditional_else_eq_ok_iff.mpr
      ⟨first, ranFirst, operations, either, second, ranSecond, rfl⟩, ?_⟩
    show (operations.1.apply [first.shape]).unify (operations.2.apply [second.shape]) = _
    rw [ofFirst, ofSecond, injected, injected, unify_union, unify_hole, hole_unify]

end Alternatives

/-! ### A `switch` with an `if` in one of its cases -/

/-- A static function of a builder for one value, with generic parameters. -/
def sideDecl (name : String) (label : Option String) (generics : List String) (type : String)
    (result : DeclaredType) : FunctionDecl where
  span := ⟨0, 1⟩
  attributes := []
  isStatic := true
  name := ⟨⟨0, 1⟩, name⟩
  generics := generics.map fun name => ⟨⟨0, 1⟩, ⟨⟨0, 1⟩, name⟩, none⟩
  params := [⟨⟨0, 1⟩, [], label.map (⟨⟨0, 1⟩, ·⟩), ⟨⟨0, 1⟩, "value"⟩, .named ⟨0, 1⟩ type [], false⟩]
  result := some result
  body := none

/-- A builder that puts alternatives into the type `E` of both. -/
def sidesType : TypeDecl where
  span := ⟨0, 1⟩
  attributes := [⟨⟨0, 1⟩, "resultBuilder"⟩]
  kind := .structType
  name := ⟨⟨0, 1⟩, "B"⟩
  generics := []
  members :=
    let either : DeclaredType :=
      .named ⟨0, 1⟩ "E" [.named ⟨0, 1⟩ "T" [], .named ⟨0, 1⟩ "U" []]
    [.function (sideDecl "buildBlock" none ["T"] "T" (.named ⟨0, 1⟩ "T" [])),
      .function (sideDecl "buildEither" (some "first") ["T", "U"] "T" either),
      .function (sideDecl "buildEither" (some "second") ["T", "U"] "U" either)]

/-- A setting for that builder in which names have the types that they name, but for one. -/
def sidesSetting : Setting where
  descriptor := Descriptor.recordAll { builder := .ofDecl sidesType } sidesType.functions
  services := { Collaborators.permissive with
    typeOf _ expr :=
      if expr.text = "unknown" then .hole
      else if expr.text = "run" then .function [] .hole
      else .named expr.text [] }
  context := { kind := .closure, span := ⟨0, 90⟩ }
  config := {}

/-- A block of a name. -/
def wordBlock (word : String) : Block :=
  ⟨⟨0, 1⟩, [.expression (.ident ⟨0, 1⟩ word)]⟩

/-- The wrappers of that builder put alternatives into their union. -/
theorem unites_sidesSetting : sidesSetting.descriptor.Unites "E" where
  first := ⟨sideDecl "buildEither" (some "first") ["T", "U"] "T" _, "T", "U",
    ⟨rfl, rfl, rfl, by decide, ⟨_, _, rfl, rfl, rfl, rfl⟩, ⟨⟨0, 1⟩, ⟨0, 1⟩, ⟨0, 1⟩, rfl⟩⟩, rfl⟩
  second := ⟨sideDecl "buildEither" (some "second") ["T", "U"] "U" _, "T", "U",
    ⟨rfl, rfl, rfl, by decide, ⟨_, _, rfl, rfl, rfl, rfl⟩, ⟨⟨0, 1⟩, ⟨0, 1⟩, ⟨0, 1⟩, rfl⟩⟩, rfl⟩

/-- An `if` between a value of which the type is not known and one of the type `Int`. -/
def sidesConditional : Conditional :=
  ⟨⟨3, 4⟩, [.expression (.ident ⟨3, 4⟩ "x")], wordBlock "unknown", some (.block (wordBlock "Int"))⟩

/-- A `switch` with a function, that `if` and another value in its cases. -/
def sidesSwitch : Switch :=
  ⟨⟨0, 9⟩, .ident ⟨1, 2⟩ "x", [
    ⟨⟨2, 3⟩, .default, wordBlock "run"⟩,
    ⟨⟨3, 4⟩, .default, ⟨⟨3, 4⟩, [.conditional sidesConditional]⟩⟩,
    ⟨⟨5, 6⟩, .default, wordBlock "Text"⟩]⟩

theorem shape_of_sidesSwitch :
    sidesSetting.descriptor.Unites "E" ∧
      (∃ built, (conditional sidesSetting sidesConditional).outcome = .ok built ∧
        built.shape = .named "E" [.hole, .named "Int" []]) ∧
      ∃ built, (switch sidesSetting sidesSwitch).outcome = .ok built ∧
        built.shape = .named "E" [
          .named "E" [.function [] .hole, .named "E" [.hole, .named "Int" []]],
          .named "Text" []] := by
  obtain ⟨ofSwitch, ofConditional⟩ := shape_of_alternatives sidesSetting "E" unites_sidesSetting
  have paths : eitherPaths 3 .balanced = [[.first, .first], [.first, .second], [.second]] := by
    simp [eitherPaths, balancedPaths]
  refine ⟨unites_sidesSetting, ofConditional ⟨3, 4⟩ sidesConditional.conditions
    (wordBlock "unknown") (.block (wordBlock "Int")) _ _ rfl rfl, ?_⟩
  obtain ⟨built, ran, leaves⟩ := ofSwitch ⟨0, 9⟩ (.ident ⟨1, 2⟩ "x") sidesSwitch.cases _
    (List.cons_ne_nil _ _) (.cons rfl (.cons rfl (.cons rfl .nil)))
  refine ⟨built, ran, ((leaves _).mpr ?_).symm⟩
  show List.Forall₂ _ (eitherPaths 3 .balanced) _
  rw [paths]
  exact .cons rfl (.cons rfl (.cons rfl .nil))

end ResultBuilder
