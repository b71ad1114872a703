import Mathlib.Data.List.FinRange
import Mathlib.Data.List.Nodup
import Mathlib.Data.List.Perm.Basic
import ResultBuilder.Fixture.Verify

/-!
# Reports for expectations

What a compilation reports is what a fixture expects when every expectation, as many times as it is
expected, can be given a report of its own that meets it, so that no error and no warning is left
over. Only which expectations and which reports there are matters for that, not their order.

* **`Expectation.IsMetBy`**, **`Expectation.Entails`**: what meets an expectation, and when that meets
  another one too.
* **`Assignment`**, **`matched_iff`**: reports for expectations by their places, and as a row.
* **`Matched.perm`**: the order does not matter.
-/

namespace ResultBuilder

/-! ### Meeting expectations -/

namespace Expectation

/-- **A report meets an expectation**: it is as grave as expected, where a bug counts as an error, and
on the expected line; its message contains the expected one, and every expected edit is among those
that it suggests. -/
structure IsMetBy (expectation : Expectation) (report : Reported) : Prop where
  kind : report.severity.expectedKind = expectation.kind
  line : report.line = expectation.line
  message : expectation.message.toList <:+: report.message.toList
  edits : expectation.edits ⊆ report.edits

theorem fits_eq_true_iff {expectation : Expectation} {report : Reported} :
    expectation.fits report = true ↔ expectation.IsMetBy report := by
  simp only [fits, Bool.and_eq_true, decide_eq_true_eq, beq_iff_eq, Text.contains_eq_true_iff,
    List.all_eq_true, List.contains_iff_mem]
  constructor
  · rintro ⟨⟨⟨kind, line⟩, message⟩, edits⟩
    exact ⟨kind, line, message, edits⟩
  · rintro ⟨kind, line, message, edits⟩
    exact ⟨⟨⟨kind, line⟩, message⟩, edits⟩

instance (expectation : Expectation) (report : Reported) : Decidable (expectation.IsMetBy report) :=
  decidable_of_iff _ fits_eq_true_iff

/-- Whether a report is a note is told by what it meets. -/
theorem IsMetBy.isNote_iff {expectation : Expectation} {first second : Reported}
    (met : expectation.IsMetBy first) (metToo : expectation.IsMetBy second) :
    first.severity = .note ↔ second.severity = .note := by
  have same := met.kind.trans metToo.kind.symm
  cases one : first.severity <;> cases other : second.severity <;>
    simp [one, other, Severity.expectedKind] at same ⊢

/-- What meets one expectation meets the other as well. -/
def Entails (first second : Expectation) : Prop :=
  ∀ report, first.IsMetBy report → second.IsMetBy report

/-- What is expected, each expectation as many times as it is expected. -/
def occurrences (expectations : List Expectation) : List Expectation :=
  expectations.flatMap fun expectation => List.replicate expectation.count expectation

end Expectation

open Expectation

/-! ### Assignments -/

/-- **An assignment** of reports to what is expected: every occurrence of an expectation has a report
of its own that meets it, and no report of an error or a warning is left over. -/
structure Assignment (expected : List Expectation) (reports : List Reported) where
  /-- The place of the report for each place of an expectation. -/
  report : Fin expected.length → Fin reports.length
  /-- No report is used twice. -/
  injective : Function.Injective report
  /-- Each report meets what is expected. -/
  met : ∀ place, (expected.get place).IsMetBy (reports.get (report place))
  /-- Every error and every warning is used. -/
  complete : ∀ place, (reports.get place).severity ≠ .note → ∃ occurrence, report occurrence = place

/-- **Reports that match what is expected**: they can be put in a row so that those come first that
meet the expectations, one by one, and only notes come after these. -/
def Matched (expected : List Expectation) (reports : List Reported) : Prop :=
  ∃ taken rest, reports.Perm (taken ++ rest) ∧ List.Forall₂ IsMetBy expected taken ∧
    ∀ report ∈ rest, report.severity = .note

variable {expected others : List Expectation} {reports more : List Reported}

/-- The reports of an assignment make up a row, with the places that it leaves out behind them. -/
theorem Assignment.matched (assignment : Assignment expected reports) : Matched expected reports := by
  have perm : (List.finRange reports.length).Perm ((List.finRange expected.length).map
      assignment.report ++ (List.finRange reports.length).filter fun place =>
        ¬ ∃ occurrence, assignment.report occurrence = place) := by
    refine (List.perm_ext_iff_of_nodup (List.nodup_finRange _) ?_).mpr fun place => ?_
    · refine List.Nodup.append ((List.nodup_finRange _).map assignment.injective)
        ((List.nodup_finRange _).filter _) fun place isUsed isLeft => ?_
      obtain ⟨occurrence, -, same⟩ := List.mem_map.mp isUsed
      exact of_decide_eq_true (List.mem_filter.mp isLeft).2 ⟨occurrence, same⟩
    · by_cases isUsed : ∃ occurrence, assignment.report occurrence = place
      · simp [isUsed]
      · simpa [isUsed] using not_exists.mp isUsed
  have rows := perm.map reports.get
  rw [List.map_get_finRange, List.map_append, List.map_map] at rows
  refine ⟨_, _, rows, ?_, ?_⟩
  · conv => arg 2; rw [← List.map_get_finRange expected]
    rw [List.forall₂_map_left_iff, List.forall₂_map_right_iff, List.forall₂_same]
    exact fun place _ => assignment.met place
  · intro report isLeft
    obtain ⟨place, listed, rfl⟩ := List.mem_map.mp isLeft
    by_contra required
    exact of_decide_eq_true (List.mem_filter.mp listed).2 (assignment.complete place required)

/-- A row of reports gives each expectation the place that its report came from. -/
theorem Matched.nonempty_assignment (matched : Matched expected reports) :
    Nonempty (Assignment expected reports) := by
  obtain ⟨taken, rest, perm, met, notes⟩ := matched
  -- the row consists of the reports at some places, which are all places in another order
  obtain ⟨places, rows, order⟩ : ∃ places : List (Fin reports.length),
      taken ++ rest = places.map reports.get ∧ places.Perm (List.finRange reports.length) := by
    rw [← List.map_get_finRange reports] at perm
    exact (congrFun (congrFun (List.eq_map_comp_perm reports.get) _) _).mpr perm.symm
  have distinct : places.Nodup := order.nodup_iff.mpr (List.nodup_finRange _)
  have length : (taken ++ rest).length = places.length := by rw [rows, List.length_map]
  have within : expected.length ≤ places.length := by
    rw [← length, List.length_append, met.length_eq]
    omega
  have found (index : Nat) (isPlace : index < places.length)
      (isRow : index < (taken ++ rest).length) :
      reports.get places[index] = (taken ++ rest)[index] := by
    simp [rows]
  refine ⟨fun place => places[place.val], fun first second same => ?_, fun place => ?_,
    fun place required => ?_⟩
  · exact Fin.ext ((List.Nodup.getElem_inj_iff distinct).mp same)
  · have isTaken : place.val < taken.length := met.length_eq ▸ place.isLt
    have isMet := met.get place.isLt isTaken
    rw [found _ _ (List.length_append ▸ Nat.lt_add_right _ isTaken),
      List.getElem_append_left isTaken]
    exact isMet
  · obtain ⟨index, isPlace, rfl⟩ := List.getElem_of_mem (order.mem_iff.mpr (List.mem_finRange place))
    have isTaken : index < taken.length := by
      by_contra isLeft
      rw [found _ _ (length ▸ isPlace),
        List.getElem_append_right (Nat.le_of_not_lt isLeft)] at required
      exact required (notes _ (List.getElem_mem _))
    exact ⟨⟨index, met.length_eq ▸ isTaken⟩, rfl⟩

/-- **Reports match when there is an assignment.** -/
theorem matched_iff : Matched expected reports ↔ Nonempty (Assignment expected reports) :=
  ⟨Matched.nonempty_assignment, fun ⟨assignment⟩ => assignment.matched⟩

/-- **The order of what is expected and of what is reported does not matter.** -/
theorem Matched.perm (matched : Matched expected reports) (same : expected.Perm others)
    (sameReports : reports.Perm more) : Matched others more := by
  obtain ⟨taken, rest, perm, met, notes⟩ := matched
  obtain ⟨reordered, metToo, order⟩ := List.perm_comp_forall₂ same.symm met
  exact ⟨reordered, rest, sameReports.symm.trans (perm.trans (order.symm.append_right rest)), metToo,
    notes⟩

end ResultBuilder
