import ResultBuilder.CommandLine.Usage
import ResultBuilder.Config.Toml
import ResultBuilder.Files.Matching
import ResultBuilder.Fixture.Run

/-!
# Running commands

A command checks a file or runs fixtures. Files are read through a `FileAccess`, whatever it is;
everything else follows from what was read.
-/

namespace ResultBuilder.CommandLine

/-- Why a command fails. -/
inductive CommandError where
  | file (error : FileError)
  /-- The file has errors; the report of its diagnostics. -/
  | compile (report : List String)
  | config (source : String) (fault : Toml.Fault)
  /-- The path of a directory that is no pattern. -/
  | pattern (error : PatternError)
  | fixtures (failed total : Nat)

namespace CommandError

/-- The exit code for an error. -/
def exitCode : CommandError → Nat
  | .file _ => 74
  | .compile _ | .fixtures _ _ => 65
  | .config _ _ => 78
  | .pattern _ => 64

/-- The error in words. -/
def lines : CommandError → List String
  | .file error => ["io error: " ++ error.message]
  | .compile report => report
  | .config source fault =>
      match fault.lines source with
      | [] => []
      | first :: rest => ("invalid configuration: " ++ first) :: rest
  | .pattern error => ["invalid fixture pattern: " ++ error.message]
  | .fixtures failed total => [s!"{failed} of {total} fixtures failed"]

end CommandError

/-- What comes of a command. -/
structure Outcome where
  /-- The exit code. -/
  exitCode : Nat := 0
  /-- What is shown. -/
  output : String := ""
  /-- What is reported besides. -/
  errors : List String := []
  /-- What happened on the way. -/
  events : List Event := []

namespace Outcome

/-- The outcome with an error at the end. -/
def failWith (outcome : Outcome) (error : CommandError) : Outcome :=
  { outcome with
    exitCode := error.exitCode
    errors := outcome.errors ++ Diagnostic.shownLines error.lines }

end Outcome

/-! ### Checking a file -/

/-- The configuration, given the text of its file if there is one. -/
def configOf (arguments : CheckArguments) :
    Option (Except FileError String) → Except CommandError Config
  | none => .ok (adjusted {})
  | some (.error error) => .error (.file error)
  | some (.ok source) => ((Config.ofToml source).mapError (.config source)).map adjusted
where
  /-- The configuration with the encoding that the arguments ask for. -/
  adjusted (config : Config) : Config :=
    if arguments.rightNested then config.withEncoding .rightNested else config

/-- The text of a transformed body with where it is. -/
def expansionText (source : String) (body : TransformedBody) : String :=
  let note := match body.expansion with
    | .built value => " -> " ++ value.shape.text
    | .verbatim _ => " (left as written)"
  s!"{body.span.line source}:{body.span.column source}: {body.kind.text} using '{body.builder}'" ++
    note ++ "\n  " ++ body.expansion.text ++ "\n"

/-- What is shown of a program without errors. -/
def compilationText (output : Output) (source : String) (compilation : Compile.Compilation) :
    String :=
  match output with
  | .diagnostics => ""
  | .json => compilation.toJson.pretty ++ "\n"
  | .expansions => String.join (compilation.bodies.map (expansionText source))

/-- What is shown of a program with errors. -/
def failureText (output : Output) (diagnostics : List Diagnostic) : String :=
  match output with
  | .json => (Json.ofList Diagnostic.toJson diagnostics).pretty ++ "\n"
  | .diagnostics | .expansions => ""

/-- Compiles the source in a file. -/
def checked (arguments : CheckArguments) (config : Config) (source : String) : Outcome :=
  let report (diagnostics : List Diagnostic) : List String :=
    Diagnostic.reportAll arguments.file source diagnostics
  match compile config source with
  | (.ok compilation, events) =>
      { output := compilationText arguments.output source compilation
        errors := report compilation.warnings
        events := events ++ [⟨.info, "compiled " ++ arguments.file,
          [("bodies", toString compilation.bodies.length)]⟩] }
  | (.error diagnostics, events) =>
      Outcome.failWith { output := failureText arguments.output diagnostics, events }
        (.compile (report diagnostics))

/-- The event for the file with the configuration. -/
def configEvents (arguments : CheckArguments) : List Event :=
  arguments.config.toList.map fun path => ⟨.debug, "loading configuration", [("path", path)]⟩

/-- Checks a file. -/
def check {m : Type → Type} [Monad m] (access : FileAccess m) (arguments : CheckArguments) :
    m Outcome := do
  let started : Outcome := { events := configEvents arguments }
  match configOf arguments (← arguments.config.mapM access.read) with
  | .error error => return started.failWith error
  | .ok config =>
      match ← access.read arguments.file with
      | .error error => return started.failWith (.file error)
      | .ok source =>
          let outcome := checked arguments config source
          return { outcome with events := started.events ++ outcome.events }

/-! ### Running fixtures -/

/-- The files that a path selects: the fixtures at any depth below a directory, or the file itself.
The path of a directory is the start of a pattern, so that wildcards in it stand for other names. -/
def selected {m : Type → Type} [Monad m] (access : FileAccess m) (path : String) :
    m (Except PatternError (List String)) := do
  if ← access.isDirectory path then PathPattern.paths access (Path.join path "**/*.bb")
  else return .ok [path]

/-- The files that paths select, in the order of their paths. -/
def selectedByAll {m : Type → Type} [Monad m] (access : FileAccess m) (paths : List String) :
    m (Except PatternError (List String)) := do
  let selections ← paths.mapM (selected access)
  return (selections.mapM id).map fun files => Path.sorted files.flatten

/-- What comes of a run of fixtures. -/
def tested (arguments : TestArguments) (fixtures : List Fixture) : Outcome :=
  let run := FixtureRun.ofFixtures arguments.failEarly fixtures
  let outcome : Outcome := { output := run.text arguments.verbose, events := run.events }
  if run.summary.passed then outcome
  else outcome.failWith (.fixtures run.summary.failed run.summary.total)

/-- Runs fixtures, in the order of their paths. -/
def test {m : Type → Type} [Monad m] (access : FileAccess m) (arguments : TestArguments) :
    m Outcome := do
  match ← selectedByAll access arguments.paths with
  | .error error => return ({} : Outcome).failWith (.pattern error)
  | .ok files =>
      let fixtures ← files.mapM fun path => do return Fixture.ofFile path (← access.read path)
      return tested arguments fixtures

/-- Carries out what the program is called for. -/
def run {m : Type → Type} [Monad m] (access : FileAccess m) : Invocation → m Outcome
  | .check arguments => check access arguments
  | .test arguments => test access arguments

end ResultBuilder.CommandLine
