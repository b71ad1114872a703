import ResultBuilder.Compile.Program
import ResultBuilder.Diagnostic.Report
import ResultBuilder.Fixture.Verify
import ResultBuilder.Text.Style

/-!
# Running fixtures

Fixtures are compiled one after the other and their diagnostics compared with what is expected. A
run ends early, if that is asked for, after a fixture with problems.
-/

namespace ResultBuilder

/-- What came of a fixture. -/
inductive Verdict where
  /-- It is wrong itself. -/
  | invalid (error : FixtureError)
  | skipped
  /-- It was compiled. -/
  | compiled (diagnostics : List Diagnostic) (problems : List Problem) (events : List Event)

namespace Verdict

/-- Whether a fixture counts as failed. -/
def isFailed : Verdict → Bool
  | .invalid _ => true
  | .skipped => false
  | .compiled _ problems _ => !problems.isEmpty

/-- Whether a run that ends early ends here. -/
def endsRun : Verdict → Bool
  | .invalid _ | .skipped => false
  | .compiled _ problems _ => !problems.isEmpty

/-- The number of warnings of a fixture. -/
def warnings : Verdict → Nat
  | .invalid _ | .skipped => 0
  | .compiled diagnostics _ _ => (diagnostics.filter (·.isWarning)).length

/-- The events on the way to a verdict. -/
def events : Verdict → List Event
  | .invalid _ | .skipped => []
  | .compiled _ _ events => events

end Verdict

/-- Compiles a fixture, unless it is wrong or passed over. -/
def Fixture.verdict (fixture : Fixture) : Verdict :=
  match fixture.error with
  | some error => .invalid error
  | none =>
      if fixture.options.skip then .skipped
      else
        let (outcome, events) := compile fixture.options.config fixture.source
        let diagnostics := Compile.Outcome.diagnostics outcome
        .compiled diagnostics (fixture.verify diagnostics) events

/-- The numbers of a run. -/
structure RunSummary where
  /-- The number of fixtures, also of those that were not reached. -/
  total : Nat
  /-- The number of fixtures that failed. -/
  failed : Nat
  /-- The number of warnings. -/
  warnings : Nat
  deriving DecidableEq, Repr

namespace RunSummary

/-- Whether no fixture failed. -/
def passed (summary : RunSummary) : Bool :=
  summary.failed == 0

end RunSummary

/-- A run of fixtures. -/
structure FixtureRun where
  /-- The fixtures that were given. -/
  fixtures : List Fixture
  /-- The fixtures that were reached and what came of them. -/
  reached : List (Fixture × Verdict)

namespace FixtureRun

/-- The fixtures that are reached and what comes of them. -/
def reach (failEarly : Bool) : List Fixture → List (Fixture × Verdict)
  | [] => []
  | fixture :: rest =>
      let verdict := fixture.verdict
      (fixture, verdict) :: if failEarly && verdict.endsRun then [] else reach failEarly rest

/-- Runs fixtures. -/
def ofFixtures (failEarly : Bool) (fixtures : List Fixture) : FixtureRun :=
  ⟨fixtures, reach failEarly fixtures⟩

/-- The numbers of a run. -/
def summary (run : FixtureRun) : RunSummary where
  total := run.fixtures.length
  failed := (run.reached.filter (·.2.isFailed)).length
  warnings := run.reached.foldl (fun count (_, verdict) => count + verdict.warnings) 0

/-- The events of a run. -/
def events (run : FixtureRun) : List Event :=
  run.reached.flatMap (·.2.events)

/-! ### Text -/

/-- A line. -/
def line (text : String) : String :=
  text ++ "\n"

/-- The most bytes of a name that are shown. -/
def nameWidth : Nat := 58

/-- The name of a fixture, cut where it is too long, with dots up to the verdict. The program would
stop at a cut inside a character, which is made here before that character. -/
def nameText (name : String) : String :=
  let shown := Source.takeBytes nameWidth name.toList
  let dots := List.replicate (nameWidth + 2 - Source.utf8Length shown) '.'
  "  " ++ String.ofList shown ++ Text.coloured (.numbered 240) (String.ofList dots)

/-- The report of the diagnostics of a fixture. -/
def reportText (fixture : Fixture) (diagnostics : List Diagnostic) : String :=
  line (String.join ((Diagnostic.reportAll "" fixture.source diagnostics).map line))

/-- A verdict with what explains it. -/
def verdictText (verbose : Bool) (fixture : Fixture) : Verdict → String
  | .invalid error =>
      line (Text.bold .purple "INVALID") ++ line (Text.coloured .red error.message)
  | .skipped => line (Text.bold .yellow "SKIPPED")
  | .compiled diagnostics problems _ =>
      (if problems.isEmpty then line (Text.bold .green "OK")
      else
        line (Text.bold .red "FAILED" ++ " (diagnostics)") ++
          String.join (problems.map fun problem =>
            line ("    " ++ Text.coloured .red problem.text))) ++
      if verbose then reportText fixture diagnostics else ""

/-- The fixtures that were reached, those of a category in a row below its name. -/
def reachedText (verbose : Bool) (category : String) : List (Fixture × Verdict) → String
  | [] => ""
  | (fixture, verdict) :: rest =>
      (if fixture.category == category then ""
        else line (Text.bold (.numbered 3) fixture.category)) ++
      nameText fixture.name ++ verdictText verbose fixture verdict ++
        reachedText verbose fixture.category rest

/-- The numbers of a run in words. -/
def summaryText (summary : RunSummary) : String :=
  let passed := Text.bold .green (toString (summary.total - summary.failed))
  line "\n" ++
    (if summary.passed then line ("Overall result: " ++ Text.bold .green "SUCCESS")
    else
      line ("Overall result: " ++ Text.bold .red "FAILED") ++ line "" ++
        line ("  Number failed: " ++ Text.bold .red (toString summary.failed))) ++
    line ("  Number passed: " ++ passed) ++
    line ("  Number warnings: " ++ Text.bold .yellow (toString summary.warnings))

/-- What is shown of a run. -/
def text (verbose : Bool) (run : FixtureRun) : String :=
  reachedText verbose "" run.reached ++ summaryText run.summary

end FixtureRun

end ResultBuilder
