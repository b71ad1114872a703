import ResultBuilder.Proofs.Fixture.Assignment

/-!
# What comparing reports with expectations shows

Comparing lets each expectation in turn take the first report that is left and meets it, and never
goes back on that. A fixture without problems therefore matches. The converse depends on the order of
the expectations: one that comes early can take a report that a later one needs although another one
would do. That cannot happen when of two expectations for the same kind of report on the same line the
one that says more comes first, and only then.

* **`problems_eq_nil_iff`**: comparing in terms of single occurrences.
* **`Fixture.assignment_of_verify`**: a fixture without problems matches.
* **`Expectation.Spares`**, **`Fixture.verify_eq_nil_iff`**: when a fixture that matches has no problems.
* **`problems_complete_iff`**: the expectations with which that is always so.
-/

namespace ResultBuilder

open Expectation

variable {expectation : Expectation} {expected others : List Expectation} {report : Reported}
  {reports left : List Reported}

/-! ### Taking reports one by one -/

/-- What is left of reports after each expectation in turn has taken the first one that meets it, if
there was one for each. -/
def takeEach : List Expectation → List Reported → Option (List Reported)
  | [], reports => some reports
  | expectation :: rest, reports =>
      if reports.any expectation.fits then takeEach rest (reports.eraseP expectation.fits) else none

theorem takeEach_append : takeEach (expected ++ others) reports =
    (takeEach expected reports).bind (takeEach others) := by
  induction expected generalizing reports with
  | nil => rfl
  | cons expectation rest ih =>
      rw [List.cons_append, takeEach, takeEach]
      split
      · exact ih
      · rfl

/-- Taking reports for an expectation as many times as it is expected. -/
theorem takeEach_replicate (expectation : Expectation) (count : Nat) :
    takeEach (List.replicate count expectation) reports =
      if (expectation.take count reports).1 < count then none
      else some (expectation.take count reports).2 := by
  induction count generalizing reports with
  | zero => simp [takeEach, take]
  | succ count ih =>
      rw [List.replicate_succ, takeEach, take]
      split
      · simp [ih]
      · simp

theorem problems_cons (expectation : Expectation) (rest : List Expectation) :
    problems (expectation :: rest) reports =
      if (expectation.take expectation.count reports).1 < expectation.count then
        .missing expectation (expectation.take expectation.count reports).1 ::
          problems rest (expectation.take expectation.count reports).2
      else problems rest (expectation.take expectation.count reports).2 := rfl

/-- **There are no problems when each occurrence can take a report and only notes are left.** -/
theorem problems_eq_nil_iff : problems expected reports = [] ↔
    ∃ left, takeEach (occurrences expected) reports = some left ∧
      ∀ report ∈ left, report.severity = .note := by
  induction expected generalizing reports with
  | nil => simp [problems, occurrences, takeEach, List.filter_eq_nil_iff, Reported.isRequired]
  | cons expectation rest ih =>
      rw [occurrences, List.flatMap_cons, takeEach_append, takeEach_replicate, problems_cons]
      split
      · simp
      · exact ih

/-! ### Fixtures without problems -/

/-- The first report that meets an expectation can be put in front of the others. -/
theorem exists_perm_eraseP (some : reports.any expectation.fits = true) :
    ∃ report, expectation.IsMetBy report ∧
      reports.Perm (report :: reports.eraseP expectation.fits) := by
  obtain ⟨report, member, fits⟩ := List.any_eq_true.mp some
  obtain ⟨first, front, back, -, isMet, whole, rest⟩ := List.exists_of_eraseP member fits
  refine ⟨first, fits_eq_true_iff.mp isMet, ?_⟩
  rw [rest]
  conv => arg 1; rw [whole]
  exact List.perm_middle

/-- What was taken and what is left are the reports. -/
theorem exists_taken (taking : takeEach expected reports = some left) :
    ∃ taken, reports.Perm (taken ++ left) ∧ List.Forall₂ IsMetBy expected taken := by
  induction expected generalizing reports with
  | nil =>
      obtain rfl := Option.some.inj taking
      exact ⟨[], .refl _, .nil⟩
  | cons expectation rest ih =>
      rw [takeEach] at taking
      split at taking
      · next some =>
          obtain ⟨report, isMet, perm⟩ := exists_perm_eraseP some
          obtain ⟨taken, order, met⟩ := ih taking
          exact ⟨report :: taken, perm.trans (order.cons report), .cons isMet met⟩
      · cases taking

theorem matched_of_problems (noProblems : problems expected reports = []) :
    Matched (occurrences expected) reports := by
  obtain ⟨left, taking, notes⟩ := problems_eq_nil_iff.mp noProblems
  obtain ⟨taken, perm, met⟩ := exists_taken taking
  exact ⟨taken, left, perm, met, notes⟩

/-- **A fixture without problems matches**: every occurrence of an expectation has a report of its own
that meets it, and every error and warning is the report of one. -/
theorem Fixture.assignment_of_verify (fixture : Fixture) (diagnostics : List Diagnostic)
    (noProblems : fixture.verify diagnostics = []) :
    Nonempty (Assignment (occurrences fixture.expectations)
      (Reported.ofDiagnostics fixture.source diagnostics)) :=
  (matched_of_problems noProblems).nonempty_assignment

/-- A fixture that expects two errors on its line, and a suggestion with an edit. -/
def annotatedFixture : Fixture where
  name := "annotated"
  category := "unit"
  source := "Label // expected-error 2 \x7b\x7bbad\x7d\x7d expected-note " ++
    "\x7b\x7bspecify\x7d\x7d \x7b\x7b6-6=<L>\x7d\x7d\n"
  expectations := [⟨.error, 1, 2, "bad", []⟩, ⟨.note, 1, 1, "specify", [⟨6, 6, "<L>"⟩]⟩]

/-- A bug counts as one of the errors, and a label that nothing expects is left over. -/
theorem Fixture.assignment_of_verify_annotatedFixture :
    let diagnostics : List Diagnostic :=
      [⟨.bug, 1, "a bad label", [.primary "here" ⟨0, 5⟩, .context "declared here" ⟨0, 5⟩],
          [.fixIt ⟨"specify the argument", ⟨5, 5⟩, [.insert 5 "<L>"]⟩]⟩,
        ⟨.error, 2, "another bad one", [.primary "here" ⟨0, 1⟩], []⟩]
    annotatedFixture.verify diagnostics = [] ∧
      Nonempty (Assignment (occurrences annotatedFixture.expectations)
        (Reported.ofDiagnostics annotatedFixture.source diagnostics)) := by
  intro diagnostics
  have noProblems : annotatedFixture.verify diagnostics = [] := by decide
  exact ⟨noProblems, annotatedFixture.assignment_of_verify diagnostics noProblems⟩

/-! ### Fixtures that match -/

/-- **An expectation spares another one** among some reports: when one of them meets both, each that
meets the first meets the second. Whichever the first takes, the second can have the one that the
first does not need any more. -/
def Expectation.Spares (reports : List Reported) (first second : Expectation) : Prop :=
  (∃ report ∈ reports, first.IsMetBy report ∧ second.IsMetBy report) →
    ∀ report ∈ reports, first.IsMetBy report → second.IsMetBy report

instance (first second : Expectation) : Decidable (Spares reports first second) :=
  inferInstanceAs (Decidable (_ → _))

theorem Expectation.Spares.mono {first second : Expectation} {fewer : List Reported}
    (spares : Spares reports first second) (subset : fewer ⊆ reports) :
    Spares fewer first second :=
  fun ⟨report, member, met⟩ other listed =>
    spares ⟨report, subset member, met⟩ other (subset listed)

/-- A report that is taken for an expectation can be replaced by another one. -/
theorem exists_replaced {taken : List Reported} {free : Reported}
    (met : List.Forall₂ IsMetBy expected taken) (isTaken : report ∈ taken)
    (replaces : ∀ expectation ∈ expected, expectation.IsMetBy report → expectation.IsMetBy free) :
    ∃ replaced, List.Forall₂ IsMetBy expected replaced ∧
      (free :: taken).Perm (report :: replaced) := by
  induction met with
  | nil => cases isTaken
  | @cons expectation first rest others isMet met ih =>
      obtain ⟨here, there⟩ := List.forall_mem_cons.mp replaces
      rcases List.mem_cons.mp isTaken with rfl | isTaken
      · exact ⟨free :: others, .cons (here isMet) met, .swap _ _ _⟩
      · obtain ⟨replaced, metToo, perm⟩ := ih isTaken there
        refine ⟨first :: replaced, .cons isMet metToo, ?_⟩
        exact (List.Perm.swap _ _ _).trans ((perm.cons first).trans (.swap _ _ _))

/-- **Taking a report for an expectation that spares the others** leaves reports that match these. -/
theorem Matched.rest (matched : Matched (expectation :: expected) reports)
    (isMet : expectation.IsMetBy report) (order : reports.Perm (report :: left))
    (spares : ∀ other ∈ expected, Spares reports expectation other) : Matched expected left := by
  obtain ⟨_, rest, perm, ⟨⟩, notes⟩ := matched
  rename_i free taken isFree met
  have row : (report :: left).Perm (free :: (taken ++ rest)) := order.symm.trans perm
  have listed : report ∈ free :: (taken ++ rest) := row.subset List.mem_cons_self
  have isReport : report ∈ reports := order.symm.subset List.mem_cons_self
  have isFreeReport : free ∈ reports := perm.symm.subset List.mem_cons_self
  rcases List.mem_cons.mp listed with rfl | listed
  · exact ⟨taken, rest, row.cons_inv, met, notes⟩
  rcases List.mem_append.mp listed with isTaken | isLeft
  · -- another expectation has the report, and can have the one that is free instead
    obtain ⟨replaced, metToo, exchange⟩ := exists_replaced met isTaken fun other member otherMet =>
      spares other member ⟨report, isReport, isMet, otherMet⟩ free isFreeReport isFree
    exact ⟨replaced, rest, (row.trans (exchange.append_right rest)).cons_inv, metToo, notes⟩
  · -- the report is a note that nothing has, and so is the one that is free
    obtain ⟨front, back, rfl⟩ := List.append_of_mem isLeft
    have isNote : free.severity = .note :=
      (isMet.isNote_iff isFree).mp (notes report isLeft)
    have exchange : (free :: (taken ++ (front ++ report :: back))).Perm
        (report :: (taken ++ (front ++ free :: back))) := by
      rw [← List.append_assoc, ← List.append_assoc]
      exact ((List.perm_middle.cons free).trans (.swap _ _ _)).trans
        (List.perm_middle.symm.cons report)
    refine ⟨taken, front ++ free :: back, (row.trans exchange).cons_inv, met, fun other member => ?_⟩
    rcases List.mem_append.mp member with member | member
    · exact notes other (List.mem_append_left _ member)
    · rcases List.mem_cons.mp member with rfl | member
      · exact isNote
      · exact notes other (List.mem_append_right _ (List.mem_cons_of_mem _ member))

/-- **Each expectation can take a report** when the reports match and each one spares those after it. -/
theorem Matched.exists_left (matched : Matched expected reports)
    (spares : expected.Pairwise (Spares reports)) :
    ∃ left, takeEach expected reports = some left ∧ ∀ report ∈ left, report.severity = .note := by
  induction expected generalizing reports with
  | nil =>
      obtain ⟨taken, rest, perm, ⟨⟩, notes⟩ := matched
      exact ⟨reports, rfl, fun report member => notes report (perm.subset member)⟩
  | cons expectation expected ih =>
      obtain ⟨ofFirst, ofRest⟩ := List.pairwise_cons.mp spares
      have some : reports.any expectation.fits = true := by
        obtain ⟨_, rest, perm, ⟨⟩, -⟩ := matched
        rename_i free _ isFree _
        exact List.any_eq_true.mpr
          ⟨free, perm.symm.subset List.mem_cons_self, fits_eq_true_iff.mpr isFree⟩
      obtain ⟨report, isMet, order⟩ := exists_perm_eraseP some
      rw [takeEach, if_pos some]
      exact ih (matched.rest isMet order ofFirst)
        (ofRest.imp fun spares => spares.mono List.eraseP_subset)

theorem problems_eq_nil_iff_matched (spares : (occurrences expected).Pairwise (Spares reports)) :
    problems expected reports = [] ↔ Matched (occurrences expected) reports :=
  ⟨matched_of_problems, fun matched => problems_eq_nil_iff.mpr (matched.exists_left spares)⟩

/-- **When each expectation spares those after it, a fixture that matches has no problems.** The
verdict is then the same for every order of the diagnostics and of the expectations in which they
spare each other. -/
theorem Fixture.verify_eq_nil_iff (fixture : Fixture) (diagnostics : List Diagnostic)
    (spares : (occurrences fixture.expectations).Pairwise
      (Spares (Reported.ofDiagnostics fixture.source diagnostics))) :
    (fixture.verify diagnostics = [] ↔ Nonempty (Assignment (occurrences fixture.expectations)
        (Reported.ofDiagnostics fixture.source diagnostics))) ∧
      ∀ (reordered : List Expectation) (others : List Diagnostic),
        reordered.Perm fixture.expectations → others.Perm diagnostics →
        (occurrences reordered).Pairwise (Spares (Reported.ofDiagnostics fixture.source others)) →
          ({ fixture with expectations := reordered }.verify others = [] ↔
            fixture.verify diagnostics = []) := by
  have verdict := problems_eq_nil_iff_matched spares
  refine ⟨verdict.trans matched_iff, fun reordered others same sameReports sparesToo => ?_⟩
  have sameOccurrences : (occurrences reordered).Perm (occurrences fixture.expectations) :=
    same.flatMap_right _
  have reported : (Reported.ofDiagnostics fixture.source others).Perm
      (Reported.ofDiagnostics fixture.source diagnostics) :=
    sameReports.flatMap_right _
  refine (problems_eq_nil_iff_matched sparesToo).trans (Iff.trans ?_ verdict.symm)
  exact ⟨fun matched => matched.perm sameOccurrences reported,
    fun matched => matched.perm sameOccurrences.symm reported.symm⟩

/-- A text that contains another one, and that one, are reported on the same line. -/
def nestedDiagnostics : List Diagnostic :=
  [⟨.error, 1, "ab", [.primary "here" ⟨0, 1⟩], []⟩, ⟨.error, 1, "a", [.primary "here" ⟨0, 1⟩], []⟩]

/-- A fixture that expects the longer text first. -/
def longestFirst : Fixture where
  name := "longest first"
  category := "order"
  source := "ab // expected-error \x7b\x7bab\x7d\x7d expected-error \x7b\x7ba\x7d\x7d\n"
  expectations := [⟨.error, 1, 1, "ab", []⟩, ⟨.error, 1, 1, "a", []⟩]

/-- The longer text spares the shorter one, so that the order of the diagnostics does not matter. -/
theorem Fixture.verify_longestFirst :
    ((occurrences longestFirst.expectations).Pairwise
        (Spares (Reported.ofDiagnostics longestFirst.source nestedDiagnostics)) ∧
      (occurrences longestFirst.expectations).Pairwise
        (Spares (Reported.ofDiagnostics longestFirst.source nestedDiagnostics.reverse))) ∧
      longestFirst.verify nestedDiagnostics = [] ∧
      longestFirst.verify nestedDiagnostics.reverse = [] := by
  have spares : (occurrences longestFirst.expectations).Pairwise
      (Spares (Reported.ofDiagnostics longestFirst.source nestedDiagnostics)) := by
    decide
  have sparesToo : (occurrences longestFirst.expectations).Pairwise
      (Spares (Reported.ofDiagnostics longestFirst.source nestedDiagnostics.reverse)) := by
    decide
  have noProblems : longestFirst.verify nestedDiagnostics = [] := by decide
  obtain ⟨-, ofOrder⟩ := longestFirst.verify_eq_nil_iff nestedDiagnostics spares
  exact ⟨⟨spares, sparesToo⟩, noProblems,
    (ofOrder _ _ (.refl _) nestedDiagnostics.reverse_perm sparesToo).mpr noProblems⟩

/-- **A fixture that matches and has problems**: the shorter text is expected first and takes the report
of the longer one, for which none is left. The other order of the annotations, or of the diagnostics,
has no problems. -/
theorem Fixture.verify_shortestFirst :
    let shortestFirst : Fixture :=
      { longestFirst with expectations := longestFirst.expectations.reverse }
    Nonempty (Assignment (occurrences shortestFirst.expectations)
        (Reported.ofDiagnostics shortestFirst.source nestedDiagnostics)) ∧
      shortestFirst.verify nestedDiagnostics =
        [.missing ⟨.error, 1, 1, "ab", []⟩ 0, .unexpected ⟨.error, 1, "a", []⟩] ∧
      shortestFirst.verify nestedDiagnostics.reverse = [] ∧
      longestFirst.verify nestedDiagnostics = [] := by
  intro shortestFirst
  have matched : Matched (occurrences shortestFirst.expectations)
      (Reported.ofDiagnostics shortestFirst.source nestedDiagnostics) := by
    refine ⟨[⟨.error, 1, "a", []⟩, ⟨.error, 1, "ab", []⟩], [], ?_, ?_, List.forall_mem_nil _⟩
    · decide
    · exact .cons (by decide) (.cons (by decide) .nil)
  refine ⟨matched.nonempty_assignment, ?_, ?_, ?_⟩
  all_goals decide

/-! ### Expectations for which that is always so -/

/-- The severity that is expected as a kind. -/
def ExpectedKind.severity : ExpectedKind → Severity
  | .error => .error
  | .warning => .warning
  | .note => .note

/-- A report of what is expected and nothing else. -/
def Expectation.exactReport (expectation : Expectation) : Reported :=
  ⟨expectation.kind.severity, expectation.line, expectation.message, expectation.edits⟩

theorem ExpectedKind.expectedKind_severity (kind : ExpectedKind) :
    kind.severity.expectedKind = kind := by
  cases kind <;> rfl

theorem Expectation.isMetBy_exactReport (expectation : Expectation) :
    expectation.IsMetBy expectation.exactReport :=
  ⟨ExpectedKind.expectedKind_severity _, rfl, List.infix_rfl, List.Subset.refl _⟩

/-- **An expectation entails another one** when the report of it alone meets the other. -/
theorem Expectation.entails_iff {first second : Expectation} :
    first.Entails second ↔ second.IsMetBy first.exactReport := by
  refine ⟨fun entails => entails _ first.isMetBy_exactReport, fun isMet report met => ?_⟩
  have kind : first.kind = second.kind :=
    (ExpectedKind.expectedKind_severity _).symm.trans isMet.kind
  exact ⟨met.kind.trans kind, met.line.trans isMet.line, isMet.message.trans met.message,
    List.Subset.trans isMet.edits met.edits⟩

/-- **Expectations in order**: what is expected first entails the other, unless they are about reports
of different kinds or on different lines. -/
def Expectation.InOrder (first second : Expectation) : Prop :=
  first.kind = second.kind → first.line = second.line → first.Entails second

theorem Expectation.InOrder.spares {first second : Expectation} (inOrder : first.InOrder second)
    (reports : List Reported) : Spares reports first second := by
  rintro ⟨report, -, met, metToo⟩ other -
  exact inOrder (met.kind.symm.trans metToo.kind) (met.line.symm.trans metToo.line) other

/-- Expectations take the reports of just what they expect, when these come first. -/
theorem takeEach_map_exactReport :
    takeEach expected (expected.map exactReport ++ reports) = some reports := by
  induction expected with
  | nil => rfl
  | cons expectation rest ih =>
      have fits := fits_eq_true_iff.mpr expectation.isMetBy_exactReport
      rw [List.map_cons, List.cons_append, takeEach, List.any_cons, fits, Bool.true_or, if_pos rfl,
        List.eraseP_cons_of_pos fits]
      exact ih

/-- Reports of one kind are at most as many as the expectations that only they meet. -/
theorem countP_le_countP {taken : List Reported} {isOf : Reported → Bool} {needs : Expectation → Bool}
    (met : List.Forall₂ IsMetBy expected taken)
    (only : ∀ {expectation report}, expectation.IsMetBy report → isOf report = true →
      needs expectation = true) : taken.countP isOf ≤ expected.countP needs := by
  induction met with
  | nil => exact Nat.le_refl _
  | @cons expectation report rest others isMet met ih =>
      rw [List.countP_cons, List.countP_cons]
      refine Nat.add_le_add ih ?_
      split
      · next isOne => rw [if_pos (only isMet isOne)]
      · exact Nat.zero_le _

/-- A report that meets two expectations. -/
def Expectation.commonReport (first second : Expectation) : Reported :=
  ⟨first.kind.severity, first.line, first.message ++ second.message, first.edits ++ second.edits⟩

theorem Expectation.isMetBy_commonReport (first second : Expectation) :
    first.IsMetBy (first.commonReport second) := by
  refine ⟨ExpectedKind.expectedKind_severity _, rfl, ?_, List.subset_append_left _ _⟩
  rw [commonReport, String.toList_append]
  exact (List.prefix_append _ _).isInfix

theorem Expectation.isMetBy_commonReport_right {first second : Expectation}
    (sameKind : first.kind = second.kind) (sameLine : first.line = second.line) :
    second.IsMetBy (first.commonReport second) := by
  refine ⟨(ExpectedKind.expectedKind_severity _).trans sameKind, sameLine, ?_,
    List.subset_append_right _ _⟩
  rw [commonReport, String.toList_append]
  exact (List.suffix_append _ _).isInfix

section Contested

variable {first second : Expectation} {front among back : List Expectation}

/-- **Reports that two expectations contest**: one that meets both comes before one for the first, and
there is just enough for all. -/
def contested (first second : Expectation) (front others : List Expectation) : List Reported :=
  front.map exactReport ++
    first.commonReport second :: first.exactReport :: others.map exactReport

theorem matched_contested (sameKind : first.kind = second.kind) (sameLine : first.line = second.line) :
    Matched (front ++ first :: (among ++ second :: back))
      (contested first second front (among ++ back)) := by
  refine ⟨front.map exactReport ++ first.exactReport :: (among.map exactReport ++
    first.commonReport second :: back.map exactReport), [], ?_, ?_, List.forall_mem_nil _⟩
  · rw [contested, List.append_nil, List.map_append]
    exact ((List.Perm.swap _ _ _).trans (List.perm_middle.symm.cons _)).append_left _
  · have each (expectations : List Expectation) :
        List.Forall₂ IsMetBy expectations (expectations.map exactReport) := by
      rw [List.forall₂_map_right_iff, List.forall₂_same]
      exact fun expectation _ => expectation.isMetBy_exactReport
    exact List.rel_append (each front) (.cons first.isMetBy_exactReport (List.rel_append
      (each among) (.cons (isMetBy_commonReport_right sameKind sameLine) (each back))))

/-- The first expectation takes the report that meets both. -/
theorem takeEach_contested {others later : List Expectation} :
    takeEach (front ++ first :: later) (contested first second front others) =
      takeEach later (first.exactReport :: others.map exactReport) := by
  have fits := fits_eq_true_iff.mpr (first.isMetBy_commonReport second)
  rw [takeEach_append, contested, takeEach_map_exactReport, Option.bind_some, takeEach,
    List.any_cons, fits, Bool.true_or, if_pos rfl, List.eraseP_cons_of_pos fits]

/-- What is left is not enough for the others: the report for the first is of use only to those that
the first entails, each of which has a report already, and the second is none of them. -/
theorem takeEach_eq_none (notEntailed : ¬ first.Entails second) :
    takeEach (among ++ second :: back) (first.exactReport :: (among ++ back).map exactReport) =
      none := by
  classical
  refine Option.eq_none_iff_forall_not_mem.mpr fun left taking => ?_
  obtain ⟨taken, perm, met⟩ := exists_taken taking
  obtain rfl : left = [] := by
    have length := perm.length_eq
    have sameLength := met.length_eq
    refine List.eq_nil_of_length_eq_zero ?_
    simp only [List.length_append, List.length_cons, List.length_map] at length sameLength
    omega
  rw [List.append_nil] at perm
  let isOf (report : Reported) : Bool :=
    decide (∀ expectation : Expectation, expectation.IsMetBy report → first.Entails expectation)
  let needs (expectation : Expectation) : Bool := decide (first.Entails expectation)
  have few := @countP_le_countP _ _ isOf needs met fun {expectation report} isMet isOne =>
    decide_eq_true (of_decide_eq_true isOne expectation isMet)
  have ofFirst : isOf first.exactReport = true :=
    decide_eq_true fun expectation isMet => entails_iff.mpr isMet
  have ofOthers : isOf ∘ exactReport = needs := by
    funext expectation
    refine decide_eq_decide.mpr ⟨fun isOne => isOne _ expectation.isMetBy_exactReport,
      fun entails other isMet report met => ?_⟩
    exact entails_iff.mpr isMet report (entails report met)
  have ofSecond : needs second = false := decide_eq_false notEntailed
  rw [← perm.countP_eq, List.countP_cons, ofFirst, List.countP_map, ofOthers] at few
  simp only [List.countP_append, List.countP_cons, ofSecond, if_true, Bool.false_eq_true,
    if_false] at few
  omega

end Contested

/-- **The expectations with which every fixture that matches has no problems** are those in order. -/
theorem problems_complete_iff : (∀ reports, Matched (occurrences expected) reports →
      problems expected reports = []) ↔ (occurrences expected).Pairwise InOrder := by
  constructor
  · intro complete
    refine List.pairwise_iff_forall_sublist.mpr fun {first second} before sameKind sameLine => ?_
    by_contra notEntailed
    obtain ⟨outer, inner, whole, isFirst, isLater⟩ := List.cons_sublist_iff.mp before
    obtain ⟨front, between, rfl⟩ := List.append_of_mem isFirst
    obtain ⟨among, back, rfl⟩ := List.append_of_mem (List.singleton_sublist.mp isLater)
    rw [List.append_assoc, List.cons_append, ← List.append_assoc between] at whole
    have matched := @matched_contested first second front (between ++ among) back sameKind sameLine
    obtain ⟨left, taking, -⟩ := problems_eq_nil_iff.mp (complete _ (whole ▸ matched))
    rw [whole, takeEach_contested, takeEach_eq_none notEntailed] at taking
    cases taking
  · intro inOrder reports matched
    exact (problems_eq_nil_iff_matched (inOrder.imp fun inOrder => inOrder.spares reports)).mpr matched

end ResultBuilder
