import Mathlib.Data.List.Basic
import ResultBuilder.Fixture.Run

/-!
# Where a run ends early

A run that ends early ends with the first fixture that is compiled and does not verify. A fixture that
is wrong itself counts as failed as well, but the run goes on behind it. Such a run therefore stops at
the first failure only if that failure is not a fixture that is wrong itself, or if nothing comes
behind it.

* **`Fixture.Fails`**, **`Fixture.isFailed_verdict_iff`**: which fixtures count as failed.
* **`FixtureRun.reach_append`**, **`FixtureRun.reach_cons_of_isUnverified`**: what is reached.
* **`FixtureRun.StopsAtFailure`**, **`FixtureRun.stopsAtFailure_iff`**: the lists of fixtures of which
  nothing is reached behind the first one that fails.
-/

namespace ResultBuilder

namespace Fixture

/-! ### Failing -/

/-- **A fixture does not verify** when it is compiled and its diagnostics are not what it expects. -/
structure IsUnverified (fixture : Fixture) : Prop where
  /-- Nothing is wrong with it itself. -/
  noError : fixture.error = none
  /-- It is not passed over. -/
  notSkipped : fixture.options.skip = false
  /-- There is a difference. -/
  differs : fixture.verify
    (Compile.Outcome.diagnostics (compile fixture.options.config fixture.source).1) ≠ []

/-- **A fixture fails** when it is wrong itself, which is to say that it cannot be read or has an
annotation or an option that cannot, or when it does not verify. -/
def Fails (fixture : Fixture) : Prop :=
  fixture.error ≠ none ∨ fixture.IsUnverified

variable {fixture : Fixture}

/-- A run that ends early ends with a fixture that does not verify. -/
theorem endsRun_verdict_iff : fixture.verdict.endsRun = true ↔ fixture.IsUnverified := by
  unfold verdict
  split
  · next error found => exact iff_of_false Bool.false_ne_true fun unverified =>
      Option.some_ne_none error (found.symm.trans unverified.noError)
  · next noError =>
      split
      · next skipped => exact iff_of_false Bool.false_ne_true fun unverified =>
          Bool.false_ne_true (unverified.notSkipped.symm.trans skipped)
      · next notSkipped =>
          simp only [Verdict.endsRun, Bool.not_eq_true', List.isEmpty_eq_false_iff]
          exact ⟨fun differs => ⟨noError, Bool.eq_false_iff.mpr notSkipped, differs⟩,
            fun unverified => unverified.differs⟩

/-- **The fixtures that count as failed** are those that fail. -/
theorem isFailed_verdict_iff : fixture.verdict.isFailed = true ↔ fixture.Fails := by
  cases found : fixture.error with
  | some error =>
      refine iff_of_true ?_ (.inl (found ▸ Option.some_ne_none error))
      rw [verdict, found, Verdict.isFailed]
  | none =>
      have same : fixture.verdict.isFailed = fixture.verdict.endsRun := by
        rw [verdict, found]
        dsimp only
        split <;> rfl
      rw [same, endsRun_verdict_iff, Fails, or_iff_right (not_not_intro found)]

end Fixture

namespace FixtureRun

open Fixture

variable {fixture : Fixture} {front fixtures : List Fixture}

/-! ### What is reached -/

/-- A fixture with what comes of it. -/
def entry (fixture : Fixture) : Fixture × Verdict :=
  (fixture, fixture.verdict)

theorem reach_cons (failEarly : Bool) (fixture : Fixture) (rest : List Fixture) :
    reach failEarly (fixture :: rest) =
      entry fixture :: if failEarly && fixture.verdict.endsRun then [] else reach failEarly rest :=
  rfl

/-- A fixture that does not verify is the last one. -/
theorem reach_cons_of_isUnverified (unverified : fixture.IsUnverified) (rest : List Fixture) :
    reach true (fixture :: rest) = [entry fixture] := by
  rw [reach_cons, endsRun_verdict_iff.mpr unverified]
  rfl

/-- Any other fixture is followed by what is reached of the rest. -/
theorem reach_cons_of_not_isUnverified (goesOn : ¬ fixture.IsUnverified) (rest : List Fixture) :
    reach true (fixture :: rest) = entry fixture :: reach true rest := by
  rw [← endsRun_verdict_iff, Bool.not_eq_true] at goesOn
  rw [reach_cons, goesOn]
  rfl

/-- **All of a run is reached** up to the first fixture that does not verify. -/
theorem reach_append (goesOn : ∀ fixture ∈ front, ¬ fixture.IsUnverified) (rest : List Fixture) :
    reach true (front ++ rest) = front.map entry ++ reach true rest := by
  induction front with
  | nil => rfl
  | cons fixture front ih =>
      obtain ⟨ofFirst, ofOthers⟩ := List.forall_mem_cons.mp goesOn
      rw [List.cons_append, reach_cons_of_not_isUnverified ofFirst, ih ofOthers]
      rfl

/-- A list of fixtures has a first one that fails, unless none does. -/
theorem exists_first_failure (fixtures : List Fixture) :
    (∀ fixture ∈ fixtures, ¬ fixture.Fails) ∨ ∃ front fixture back,
      fixtures = front ++ fixture :: back ∧ (∀ other ∈ front, ¬ other.Fails) ∧ fixture.Fails := by
  simp only [← isFailed_verdict_iff]
  cases found : fixtures.find? (·.verdict.isFailed) with
  | none => exact .inl (List.find?_eq_none.mp found)
  | some fixture =>
      obtain ⟨fails, front, back, whole, others⟩ := List.find?_eq_some_iff_append.mp found
      exact .inr ⟨front, fixture, back, whole, by simpa using others, fails⟩

/-! ### Stopping at the first failure -/

/-- The fixtures that are reached. Only these are compiled and shown. -/
def reachedFixtures (run : FixtureRun) : List Fixture :=
  run.reached.map Prod.fst

/-- **A run stops at the first failure** when it reaches nothing behind a fixture that fails, so that
one fixture at most counts as failed, and one does just if a fixture that is reached fails. -/
structure StopsAtFailure (run : FixtureRun) : Prop where
  /-- A fixture that fails is the last one that is reached. -/
  last : ∀ front fixture back, run.reachedFixtures = front ++ fixture :: back → fixture.Fails →
    back = []
  failed_le : run.summary.failed ≤ 1
  failed_eq_one_iff : run.summary.failed = 1 ↔ ∃ fixture ∈ run.reachedFixtures, fixture.Fails

/-- The number of fixtures that failed, when all that are reached are known. -/
theorem failed_eq {run : FixtureRun} (reached : run.reached = fixtures.map entry) :
    run.summary.failed = fixtures.countP (·.verdict.isFailed) := by
  rw [summary, reached, ← List.countP_eq_length_filter, List.countP_map]
  rfl

theorem reachedFixtures_eq {run : FixtureRun} (reached : run.reached = fixtures.map entry) :
    run.reachedFixtures = fixtures := by
  rw [reachedFixtures, reached, List.map_map]
  exact List.map_id _

/-- Fixtures that do not fail do not count as failed. -/
theorem countP_eq_zero (passing : ∀ fixture ∈ fixtures, ¬ fixture.Fails) :
    fixtures.countP (·.verdict.isFailed) = 0 :=
  List.countP_eq_zero.mpr fun fixture listed fails =>
    passing fixture listed (isFailed_verdict_iff.mp fails)

/-- A run that reaches no fixture that fails. -/
theorem stopsAtFailure_of_passing {run : FixtureRun} (reached : run.reached = fixtures.map entry)
    (passing : ∀ fixture ∈ fixtures, ¬ fixture.Fails) : run.StopsAtFailure := by
  have failed := (failed_eq reached).trans (countP_eq_zero passing)
  have isReached := reachedFixtures_eq reached
  refine ⟨fun front fixture back split fails => ?_, by omega, iff_of_false (by omega) ?_⟩
  · have listed : fixture ∈ fixtures := by simp [← isReached, split]
    exact absurd fails (passing fixture listed)
  · rintro ⟨fixture, listed, fails⟩
    exact passing fixture (isReached ▸ listed) fails

/-- A run of which the last fixture that is reached, and no other, fails. -/
theorem stopsAtFailure_of_last {run : FixtureRun}
    (reached : run.reached = (fixtures ++ [fixture]).map entry)
    (passing : ∀ fixture ∈ fixtures, ¬ fixture.Fails) (fails : fixture.Fails) :
    run.StopsAtFailure := by
  have failed : run.summary.failed = 1 := by
    rw [failed_eq reached, List.countP_append, countP_eq_zero passing, List.countP_singleton,
      if_pos (isFailed_verdict_iff.mpr fails)]
  have isReached := reachedFixtures_eq reached
  refine ⟨fun front other back split failsToo => ?_, Nat.le_of_eq failed, iff_of_true failed ?_⟩
  · by_contra some
    -- the last fixture is among those behind, and so the other one is among those that do not fail
    have inFront : fixtures = front ++ other :: back.dropLast := by
      have fronts := congrArg List.dropLast (isReached.symm.trans split)
      rwa [List.dropLast_concat, List.dropLast_append_of_ne_nil (List.cons_ne_nil _ _),
        List.dropLast_cons_of_ne_nil some] at fronts
    exact passing other (by simp [inFront]) failsToo
  · exact ⟨fixture, by simp [isReached], fails⟩

/-- **A run that ends early stops at the first failure** exactly when that failure is not a fixture
that is wrong itself and has others behind it. -/
theorem stopsAtFailure_iff (fixtures : List Fixture) :
    (ofFixtures true fixtures).StopsAtFailure ↔
      ∀ front fixture back, fixtures = front ++ fixture :: back →
        (∀ other ∈ front, ¬ other.Fails) → fixture.error ≠ none → back = [] := by
  have passes {front : List Fixture} (passing : ∀ other ∈ front, ¬ other.Fails) :
      ∀ other ∈ front, ¬ other.IsUnverified :=
    fun other listed unverified => passing other listed (.inr unverified)
  constructor
  · rintro stops front fixture back rfl passing wrong
    have goesOn : ¬ fixture.IsUnverified := fun unverified => wrong unverified.noError
    have reached : (ofFixtures true (front ++ fixture :: back)).reachedFixtures =
        front ++ fixture :: (reach true back).map Prod.fst := by
      rw [reachedFixtures, ofFixtures, reach_append (passes passing),
        reach_cons_of_not_isUnverified goesOn, List.map_append, List.map_map]
      exact congrArg₂ _ (List.map_id _) rfl
    have nothing := stops.last _ _ _ reached (.inl wrong)
    cases back with
    | nil => rfl
    | cons next rest => simp [reach_cons] at nothing
  · intro condition
    obtain passing | ⟨front, fixture, back, rfl, passing, fails⟩ := exists_first_failure fixtures
    · have reached : (ofFixtures true fixtures).reached = fixtures.map entry := by
        have all := reach_append (passes passing) []
        rwa [List.append_nil, show reach true [] = [] from rfl, List.append_nil] at all
      exact stopsAtFailure_of_passing reached passing
    · refine @stopsAtFailure_of_last fixture front _ ?_ passing fails
      rw [ofFixtures, reach_append (passes passing), List.map_append]
      by_cases unverified : fixture.IsUnverified
      · rw [reach_cons_of_isUnverified unverified]
        rfl
      · obtain rfl := condition _ _ _ rfl passing (fails.resolve_right unverified)
        rw [reach_cons_of_not_isUnverified unverified]
        rfl

/-- A fixture with an annotation that cannot be read. -/
def misspelledFixture : Fixture :=
  .ofSource "misspelled" "unit" "// expected-remark \x7b\x7bx\x7d\x7d\n"

/-- A fixture that expects an error that is not reported. -/
def hopefulFixture : Fixture :=
  .ofSource "hopeful" "unit" "// expected-error \x7b\x7bx\x7d\x7d\n"

/-- **A run that goes on behind a failure**: the first fixture is wrong itself and counts as failed, and
the second one is compiled and counts as failed too. -/
theorem not_stopsAtFailure_misspelledFixture :
    let run := ofFixtures true [misspelledFixture, hopefulFixture]
    misspelledFixture.Fails ∧ run.reachedFixtures = [misspelledFixture, hopefulFixture] ∧
      run.summary.failed = 2 ∧ ¬ run.StopsAtFailure := by
  intro run
  obtain ⟨wrong, failed⟩ : misspelledFixture.error ≠ none ∧ run.summary.failed = 2 := by
    decide +kernel
  have goesOn : ¬ misspelledFixture.IsUnverified := fun unverified => wrong unverified.noError
  have reached : run.reachedFixtures = [misspelledFixture, hopefulFixture] := by
    show (reach true [misspelledFixture, hopefulFixture]).map Prod.fst = _
    rw [reach_cons_of_not_isUnverified goesOn, reach_cons, show reach true [] = [] from rfl, ite_self]
    rfl
  exact ⟨.inl wrong, reached, failed, fun stops => absurd stops.failed_le (by omega)⟩

end FixtureRun

end ResultBuilder
