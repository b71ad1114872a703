import Mathlib.Data.List.Lex
import Mathlib.Data.Nat.Log
import ResultBuilder.Synthesis.Paths

/-!
# Paths as a code

The paths of the cases of a `switch` are the paths to the leaves of a tree of pairs, from left to
right. So the alternatives that wrap a value tell which case it comes from, and whatever alternatives
are chosen, one case is reached.

* **`IsCode`**: paths to the leaves of a tree of pairs.
* **`isCode_eitherPaths`**: the paths of both encodings are such paths.
* **`eitherPaths_complete`**: how many paths there are, that they tell the cases apart, that each
  sequence of choices takes one of them, their order and their lengths.
-/

namespace ResultBuilder

namespace Branch

/-- **The order of alternatives**: the first comes before the second. -/
def Before (left right : Branch) : Prop :=
  left = .first ∧ right = .second

/-- **A path that choices take**: at each pair on the path its alternative is chosen. -/
def Take (choices : Nat → Branch) (path : List Branch) : Prop :=
  ∀ depth branch, path[depth]? = some branch → choices depth = branch

theorem take_nil (choices : Nat → Branch) : Take choices [] := by
  intro depth branch taken
  cases taken

theorem take_cons {choices : Nat → Branch} {branch : Branch} {path : List Branch} :
    Take choices (branch :: path) ↔
      choices 0 = branch ∧ Take (fun depth => choices (depth + 1)) path := by
  constructor
  · intro take
    exact ⟨take 0 branch rfl, fun depth => take (depth + 1)⟩
  · rintro ⟨here, below⟩ (_ | depth) other taken
    · exact here.trans (Option.some.inj taken)
    · exact below depth other taken

end Branch

open Branch

/-! ### Trees of pairs -/

/-- **A code**: the paths to the leaves of a tree of pairs of alternatives, from left to right. -/
inductive IsCode : List (List Branch) → Prop where
  | leaf : IsCode [[]]
  | pair {lefts rights : List (List Branch)} (left : IsCode lefts) (right : IsCode rights) :
      IsCode (lefts.map (.first :: ·) ++ rights.map (.second :: ·))

theorem isCode_balancedPaths {count : Nat} (some : 0 < count) : IsCode (balancedPaths count) := by
  induction count using balancedPaths.induct with
  | case1 count small =>
      obtain rfl : count = 1 := by omega
      rw [balancedPaths, if_pos small]
      exact .leaf
  | case2 count several left ofFirst ofSecond =>
      rw [balancedPaths, if_neg several]
      exact .pair (ofFirst (by omega)) (ofSecond (by omega))

theorem isCode_rightNestedPaths {count : Nat} (some : 0 < count) :
    IsCode (rightNestedPaths count) := by
  induction count using rightNestedPaths.induct with
  | case1 => cases some
  | case2 => exact .leaf
  | case3 count ofRest => exact .pair .leaf (ofRest (Nat.succ_pos _))

/-- **The paths of some cases are a code.** -/
theorem isCode_eitherPaths {count : Nat} (some : 0 < count) (encoding : EitherEncoding) :
    IsCode (eitherPaths count encoding) := by
  cases encoding with
  | balanced => exact isCode_balancedPaths some
  | rightNested => exact isCode_rightNestedPaths some

namespace IsCode

variable {paths : List (List Branch)}

/-- Two properties of pairs of paths that start alike or with the two alternatives in order. -/
theorem pairwise {related : List Branch → List Branch → Prop} (code : IsCode paths)
    (alike : ∀ {branch path other}, related path other → related (branch :: path) (branch :: other))
    (ordered : ∀ path other, related (.first :: path) (.second :: other)) :
    paths.Pairwise related := by
  induction code with
  | leaf => exact List.pairwise_singleton _ _
  | pair left right ofLeft ofRight =>
      refine List.pairwise_append.mpr ⟨List.pairwise_map.mpr (ofLeft.imp alike),
        List.pairwise_map.mpr (ofRight.imp alike), ?_⟩
      intro first isFirst second isSecond
      obtain ⟨path, -, rfl⟩ := List.mem_map.mp isFirst
      obtain ⟨other, -, rfl⟩ := List.mem_map.mp isSecond
      exact ordered path other

/-- **No path of a code goes on another.** -/
theorem prefixFree (code : IsCode paths) :
    paths.Pairwise fun path other => ¬ path <+: other ∧ ¬ other <+: path := by
  refine code.pairwise ?_ ?_
  · rintro branch path other ⟨forth, back⟩
    exact ⟨fun front => forth (List.cons_prefix_cons.mp front).2,
      fun front => back (List.cons_prefix_cons.mp front).2⟩
  · intro path other
    exact ⟨fun front => absurd (List.cons_prefix_cons.mp front).1 (by decide),
      fun front => absurd (List.cons_prefix_cons.mp front).1 (by decide)⟩

/-- **The paths of a code are in order.** -/
theorem sorted (code : IsCode paths) : paths.Pairwise (List.Lex Branch.Before) :=
  code.pairwise .cons fun _ _ => .rel ⟨rfl, rfl⟩

/-- **Choices take a path of a code.** -/
theorem exists_take (code : IsCode paths) (choices : Nat → Branch) :
    ∃ path ∈ paths, Take choices path := by
  induction code generalizing choices with
  | leaf => exact ⟨[], List.mem_singleton_self _, take_nil choices⟩
  | pair left right ofLeft ofRight =>
      cases chosen : choices 0 with
      | first =>
          obtain ⟨path, member, take⟩ := ofLeft fun depth => choices (depth + 1)
          exact ⟨.first :: path, List.mem_append_left _ (List.mem_map_of_mem member),
            take_cons.mpr ⟨chosen, take⟩⟩
      | second =>
          obtain ⟨path, member, take⟩ := ofRight fun depth => choices (depth + 1)
          exact ⟨.second :: path, List.mem_append_right _ (List.mem_map_of_mem member),
            take_cons.mpr ⟨chosen, take⟩⟩

end IsCode

/-- Of two paths that the same choices take, one goes on the other. -/
theorem Branch.Take.prefix_or_prefix {choices : Nat → Branch} {path other : List Branch}
    (take : Take choices path) (takeOther : Take choices other) :
    path <+: other ∨ other <+: path := by
  induction path generalizing choices other with
  | nil => exact .inl List.nil_prefix
  | cons branch path ih =>
      cases other with
      | nil => exact .inr List.nil_prefix
      | cons next other =>
          obtain ⟨rfl, below⟩ := take_cons.mp take
          obtain ⟨rfl, belowOther⟩ := take_cons.mp takeOther
          simpa [List.cons_prefix_cons] using ih below belowOther

/-- **Choices take one path of a code.** -/
theorem IsCode.existsUnique_take {paths : List (List Branch)} (code : IsCode paths)
    (choices : Nat → Branch) : ∃! index : Nat, ∃ path, paths[index]? = some path ∧ Take choices path := by
  obtain ⟨path, member, take⟩ := code.exists_take choices
  obtain ⟨index, inside, rfl⟩ := List.mem_iff_getElem.mp member
  refine ⟨index, ⟨_, List.getElem?_eq_getElem inside, take⟩, ?_⟩
  rintro other ⟨path, found, takeOther⟩
  obtain ⟨otherInside, rfl⟩ := List.getElem?_eq_some_iff.mp found
  -- two places would hold paths of which one goes on the other
  have apart := List.pairwise_iff_getElem.mp code.prefixFree
  have goesOn := take.prefix_or_prefix takeOther
  rcases Nat.lt_trichotomy index other with less | same | more
  · obtain ⟨forth, back⟩ := apart _ _ inside otherInside less
    exact (goesOn.elim forth back).elim
  · exact same.symm
  · obtain ⟨forth, back⟩ := apart _ _ otherInside inside more
    exact (goesOn.elim back forth).elim

/-! ### Lengths -/

/-- **Balanced paths are about equally long**: cases are split in halves. -/
theorem length_of_mem_balancedPaths (count : Nat) :
    ∀ path ∈ balancedPaths count, Nat.log 2 count ≤ path.length ∧ path.length ≤ Nat.clog 2 count := by
  induction count using balancedPaths.induct with
  | case1 count small =>
      intro path member
      rw [balancedPaths, if_pos small] at member
      obtain ⟨-, rfl⟩ := List.mem_replicate.mp member
      exact ⟨(Nat.log_of_lt (by omega)).le, Nat.zero_le _⟩
  | case2 count several left ofFirst ofSecond =>
      have two : 2 ≤ count := by omega
      have log : Nat.log 2 count = Nat.log 2 (count / 2) + 1 :=
        Nat.log_of_one_lt_of_le Nat.one_lt_two two
      have clog : Nat.clog 2 count = Nat.clog 2 left + 1 := Nat.clog_of_two_le Nat.one_lt_two two
      have smaller : count - left = count / 2 := by omega
      have half : count / 2 ≤ left := by omega
      intro path member
      rw [balancedPaths, if_neg several] at member
      rcases List.mem_append.mp member with member | member
      · obtain ⟨path, inside, rfl⟩ := List.mem_map.mp member
        obtain ⟨least, most⟩ := ofFirst path inside
        have mono : Nat.log 2 (count / 2) ≤ Nat.log 2 left := Nat.log_mono_right half
        rw [List.length_cons]
        omega
      · obtain ⟨path, inside, rfl⟩ := List.mem_map.mp member
        obtain ⟨least, most⟩ := ofSecond path inside
        rw [smaller] at least most
        have mono : Nat.clog 2 (count / 2) ≤ Nat.clog 2 left := Nat.clog_mono_right 2 half
        rw [List.length_cons]
        omega

/-- **Right-nested paths get longer one by one**, and the last two are equally long. -/
theorem length_of_getElem?_rightNestedPaths {count index : Nat} {path : List Branch}
    (found : (rightNestedPaths count)[index]? = some path) :
    path.length = min (index + 1) (count - 1) := by
  induction count using rightNestedPaths.induct generalizing index path with
  | case1 => cases found
  | case2 =>
      cases index with
      | zero =>
          cases found
          rfl
      | succ index => cases found
  | case3 count ofRest =>
      cases index with
      | zero =>
          cases found
          simp
      | succ index =>
          rw [rightNestedPaths, List.getElem?_cons_succ, List.getElem?_map] at found
          obtain ⟨rest, among, rfl⟩ := Option.map_eq_some_iff.mp found
          rw [List.length_cons, ofRest among]
          omega

/-! ### The whole -/

/-- **The paths of cases are a complete code in the order of the cases.** There is one path for each
case, and none goes on another. Where there is a case, each sequence of choices takes the path of
one. The paths are in lexicographic order. Split in halves, the paths are as long as the logarithm
of their number, rounded down or up; nested to the right, each is one longer than the one before it,
but for the last. -/
theorem eitherPaths_complete (count : Nat) (encoding : EitherEncoding) :
    (eitherPaths count encoding).length = count ∧
      ((eitherPaths count encoding).Pairwise fun path other =>
        ¬ path <+: other ∧ ¬ other <+: path) ∧
      (0 < count → ∀ choices : Nat → Branch,
        ∃! index : Nat, ∃ path, (eitherPaths count encoding)[index]? = some path ∧ Take choices path) ∧
      (eitherPaths count encoding).Pairwise (List.Lex Branch.Before) ∧
      (∀ path ∈ eitherPaths count .balanced,
        Nat.log 2 count ≤ path.length ∧ path.length ≤ Nat.clog 2 count) ∧
      ∀ (index : Nat) path, (eitherPaths count .rightNested)[index]? = some path →
        path.length = min (index + 1) (count - 1) := by
  refine ⟨length_eitherPaths count encoding, ?_,
    fun some => (isCode_eitherPaths some encoding).existsUnique_take, ?_,
    length_of_mem_balancedPaths count,
    fun index path => length_of_getElem?_rightNestedPaths⟩
  -- without cases there are no paths, so that nothing is to be shown of two of them
  · rcases Nat.eq_zero_or_pos count with rfl | some
    · rw [List.eq_nil_of_length_eq_zero (length_eitherPaths 0 encoding)]
      exact .nil
    · exact (isCode_eitherPaths some encoding).prefixFree
  · rcases Nat.eq_zero_or_pos count with rfl | some
    · rw [List.eq_nil_of_length_eq_zero (length_eitherPaths 0 encoding)]
      exact .nil
    · exact (isCode_eitherPaths some encoding).sorted

/-- The paths of five cases: the first of them is the longest when they are split in halves. -/
theorem eitherPaths_complete_five :
    0 < 5 ∧
      (∃! index : Nat, ∃ path, (eitherPaths 5 .balanced)[index]? = some path ∧
        Take (fun _ => .second) path) ∧
      ([.first, .first, .first] ∈ eitherPaths 5 .balanced ∧ Nat.log 2 5 ≤ 3 ∧ 3 ≤ Nat.clog 2 5) ∧
      (eitherPaths 5 .rightNested)[3]? = some [.second, .second, .second, .first] ∧
      [Branch.second, .second, .second, .first].length = min (3 + 1) (5 - 1) := by
  obtain ⟨-, -, taken, -, balanced, rightNested⟩ := eitherPaths_complete 5 .balanced
  have first : [.first, .first, .first] ∈ eitherPaths 5 .balanced := by
    simp [eitherPaths, balancedPaths]
  exact ⟨by decide, taken (by decide) _, ⟨first, balanced _ first⟩, rfl, rightNested 3 _ rfl⟩

end ResultBuilder
