import ResultBuilder.Config
import ResultBuilder.Files.Basic
import ResultBuilder.Files.Path
import ResultBuilder.Fixture.Comment

/-!
# Fixtures

A fixture is a source with expectations. Its first lines may start with `// RUN:` and hold options.
What is wrong with a fixture is kept in it, so that it shows among the results.
-/

namespace ResultBuilder

/-- What is wrong with a fixture. -/
inductive FixtureError where
  | unreadable (path : String) (error : FileError)
  | invalidExpectation (error : AnnotationError)
  | unknownOption (name : String)
  deriving DecidableEq, Repr

/-- The error in words. -/
def FixtureError.message : FixtureError → String
  | .unreadable path error => s!"unable to read {path}: {error.message}"
  | .invalidExpectation error => s!"invalid expectation: {error.message}"
  | .unknownOption name => s!"unknown fixture option '{name}'"

/-- The options of a fixture. -/
structure FixtureOptions where
  /-- How the source is compiled. -/
  config : Config := {}
  /-- Whether the fixture is passed over. -/
  skip : Bool := false
  deriving DecidableEq, Repr

namespace FixtureOptions

/-- Sets an option. -/
def set (options : FixtureOptions) (name : String) : Except FixtureError FixtureOptions :=
  match name with
  | "skip" => .ok { options with skip := true }
  | "right-nested-either" =>
      .ok { options with config := options.config.withEncoding .rightNested }
  | "no-syntactic-use-check" => .ok { options with config := options.config.withoutSyntacticUses }
  | "no-capture-check" => .ok { options with config := options.config.withoutCaptures }
  | _ => .error (.unknownOption name)

/-- Sets the options on the first lines of a source. -/
def setAll (options : FixtureOptions) : List (List Char) → Except FixtureError FixtureOptions
  | [] => .ok options
  | line :: rest =>
      match Text.after? "// RUN:".toList line with
      | none => .ok options
      | some names => do
          let named ← (Text.words names).foldlM
            (fun options name => options.set (String.ofList name)) options
          named.setAll rest

/-- The options of a source. -/
def ofSource (source : String) : Except FixtureError FixtureOptions :=
  setAll {} (Text.lines source.toList)

end FixtureOptions

/-- A source with expectations. -/
structure Fixture where
  /-- Its name. -/
  name : String
  /-- The group that it is shown in. -/
  category : String
  /-- What is wrong with it. -/
  error : Option FixtureError := none
  /-- The source. -/
  source : String := ""
  /-- What is expected of it. -/
  expectations : List Expectation := []
  /-- Its options. -/
  options : FixtureOptions := {}
  deriving DecidableEq, Repr

namespace Fixture

/-- The error of a result. -/
def error? {ε α : Type} : Except ε α → Option ε
  | .error error => some error
  | .ok _ => none

/-- A fixture with a source. Options that are wrong are reported rather than annotations that are,
and neither has an effect. -/
def ofSource (name category source : String) : Fixture :=
  let options := FixtureOptions.ofSource source
  let expectations := Expectation.ofSource source
  { name, category, source
    error := error? options <|> (error? expectations).map .invalidExpectation
    expectations := expectations.toOption.getD []
    options := options.toOption.getD {} }

/-- The name of the fixture in a file. -/
def nameOfPath (path : String) : String :=
  ((Path.stem? path).getD "").map fun c => if c == '_' then ' ' else c

/-- The category of the fixture in a file, which is its directory. -/
def categoryOfPath (path : String) : String :=
  (Path.directoryName? path).getD "uncategorized"

/-- The fixture in a file, given what came of reading it. -/
def ofFile (path : String) (content : Except FileError String) : Fixture :=
  match content with
  | .ok source => ofSource (nameOfPath path) (categoryOfPath path) source
  | .error error =>
      { name := nameOfPath path, category := categoryOfPath path
        error := some (.unreadable path error) }

end Fixture

end ResultBuilder
