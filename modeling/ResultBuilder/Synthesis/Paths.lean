import ResultBuilder.Config

/-!
# Paths through pairs of alternatives

A `switch` with several cases is a tree of pairs of alternatives with the cases as its leaves. The
path of a case tells which alternative is taken at each pair, the outermost first.
-/

namespace ResultBuilder

/-- One of two alternatives. -/
inductive Branch where
  | first
  | second
  deriving DecidableEq, Repr

/-- The name of an alternative. -/
def Branch.text : Branch → String
  | .first => "first"
  | .second => "second"

/-- The paths when cases are split in halves again and again. An odd case goes to the first half. -/
def balancedPaths (count : Nat) : List (List Branch) :=
  if count ≤ 1 then List.replicate count []
  else
    let left := (count + 1) / 2
    (balancedPaths left).map (.first :: ·) ++ (balancedPaths (count - left)).map (.second :: ·)
  termination_by count
  decreasing_by all_goals omega

/-- The paths when each case is the first alternative to all cases after it. -/
def rightNestedPaths : Nat → List (List Branch)
  | 0 => []
  | 1 => [[]]
  | count + 2 => [.first] :: (rightNestedPaths (count + 1)).map (.second :: ·)

/-- The paths of a number of cases. -/
def eitherPaths (count : Nat) : EitherEncoding → List (List Branch)
  | .balanced => balancedPaths count
  | .rightNested => rightNestedPaths count

theorem length_balancedPaths (count : Nat) : (balancedPaths count).length = count := by
  induction count using balancedPaths.induct with
  | case1 count small => rw [balancedPaths, if_pos small, List.length_replicate]
  | case2 count several left ofFirst ofSecond =>
      rw [balancedPaths, if_neg several, List.length_append, List.length_map, List.length_map,
        ofFirst, ofSecond]
      omega

theorem length_rightNestedPaths (count : Nat) : (rightNestedPaths count).length = count := by
  induction count using rightNestedPaths.induct with
  | case1 | case2 => rfl
  | case3 count ofRest => rw [rightNestedPaths, List.length_cons, List.length_map, ofRest]

/-- There is one path for each case. -/
@[simp] theorem length_eitherPaths (count : Nat) (encoding : EitherEncoding) :
    (eitherPaths count encoding).length = count := by
  cases encoding with
  | balanced => exact length_balancedPaths count
  | rightNested => exact length_rightNestedPaths count

end ResultBuilder
