import ResultBuilder.Fixture.Basic

/-!
# Comparing diagnostics with expectations

A diagnostic is reported with its message, with every label that explains it and with every
suggestion; the latter two are notes. Expectations take the reports that fit them one after the
other. An expectation for which no report is left, and an error or warning that no expectation took,
is a problem.
-/

namespace ResultBuilder

/-- A part of a diagnostic that an expectation can be about. -/
structure Reported where
  /-- How grave it is. -/
  severity : Severity
  /-- The line on which it is, or zero if it has no place. -/
  line : Nat
  /-- What there is to say. -/
  message : String
  /-- The edits that it suggests. -/
  edits : List ColumnEdit
  deriving DecidableEq, Repr

namespace Reported

/-- An edit by the columns of its ends. -/
def columnEdit (source : String) (edit : Edit) : ColumnEdit :=
  ⟨edit.span.column source, (Span.point edit.span.stop).column source, edit.replacement⟩

/-- The report of a suggestion. -/
def ofFixIt (source : String) (fixIt : FixIt) : Reported :=
  ⟨.note, fixIt.span.line source, fixIt.message, fixIt.edits.map (columnEdit source)⟩

/-- The report of a label that explains a diagnostic. -/
def ofLabel (source : String) (label : Label) : Reported :=
  ⟨.note, label.span.line source, label.message, []⟩

/-- The reports of a diagnostic. -/
def ofDiagnostic (source : String) (diagnostic : Diagnostic) : List Reported :=
  ⟨diagnostic.severity, (diagnostic.primarySpan?.map (·.line source)).getD 0, diagnostic.message,
      []⟩ ::
    (diagnostic.labels.filter fun label => !label.isPrimary).map (ofLabel source) ++
    diagnostic.fixIts.map (ofFixIt source)

/-- The reports of diagnostics. -/
def ofDiagnostics (source : String) (diagnostics : List Diagnostic) : List Reported :=
  diagnostics.flatMap (ofDiagnostic source)

/-- Whether a report has to be expected. -/
def isRequired (report : Reported) : Bool :=
  report.severity ≠ .note

end Reported

/-- Whether a report is what is expected. -/
def Expectation.fits (expectation : Expectation) (report : Reported) : Bool :=
  report.severity.expectedKind = expectation.kind && report.line == expectation.line &&
    Text.contains expectation.message.toList report.message.toList &&
    expectation.edits.all (report.edits.contains ·)

/-- Takes the first report that fits an expectation, up to a number of times. Gives how many times
there was one and the reports that are left. -/
def Expectation.take (expectation : Expectation) : Nat → List Reported → Nat × List Reported
  | 0, reports => (0, reports)
  | count + 1, reports =>
      if reports.any expectation.fits then
        let (taken, rest) := expectation.take count (reports.eraseP expectation.fits)
        (taken + 1, rest)
      else (0, reports)

/-- A difference between what is expected and what is reported. -/
inductive Problem where
  /-- Something was reported fewer times than it is expected. -/
  | missing (expectation : Expectation) (taken : Nat)
  /-- Something was reported that is not expected. -/
  | unexpected (report : Reported)
  deriving DecidableEq, Repr

/-- A problem in words. -/
def Problem.text : Problem → String
  | .missing expectation taken =>
      s!"line {expectation.line}: expected {expectation.kind.text} not produced " ++
        s!"({taken} of {expectation.count}): \x7b\x7b" ++ expectation.message ++ "\x7d\x7d"
  | .unexpected report =>
      s!"unexpected {report.line}:{report.severity.text} \x7b\x7b" ++ report.message ++ "\x7d\x7d"

/-- The problems of reports that are compared with expectations. -/
def problems : List Expectation → List Reported → List Problem
  | [], reports => (reports.filter (·.isRequired)).map .unexpected
  | expectation :: rest, reports =>
      let (taken, left) := expectation.take expectation.count reports
      if taken < expectation.count then .missing expectation taken :: problems rest left
      else problems rest left

/-- The problems of diagnostics that are compared with what a fixture expects. -/
def Fixture.verify (fixture : Fixture) (diagnostics : List Diagnostic) : List Problem :=
  problems fixture.expectations (Reported.ofDiagnostics fixture.source diagnostics)

/-- Every report that is taken is left out, and no other. -/
theorem Expectation.length_take (expectation : Expectation) (count : Nat)
    (reports : List Reported) :
    (expectation.take count reports).1 + (expectation.take count reports).2.length =
      reports.length := by
  induction count generalizing reports with
  | zero => simp [take]
  | succ count ih =>
      unfold take
      split
      · rename_i some
        have rest := ih (reports.eraseP expectation.fits)
        obtain ⟨report, member, fits⟩ := List.any_eq_true.1 some
        have := List.length_eraseP_of_mem member fits
        have := List.length_pos_of_mem member
        simp only
        omega
      · simp

end ResultBuilder
