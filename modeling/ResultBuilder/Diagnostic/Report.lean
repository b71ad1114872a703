import ResultBuilder.Diagnostic.Basic
import ResultBuilder.Source.Boundary
import ResultBuilder.Text.Lines

/-!
# Reports

A diagnostic is reported as a header, the location of its most important place and its remarks. The
places are those of its labels and, less important than primary labels, of its suggestions.
-/

namespace ResultBuilder.Diagnostic

/-- A number with at least three digits. -/
def threeDigits (number : Nat) : String :=
  let digits := toString number
  String.ofList (List.replicate (3 - digits.length) '0') ++ digits

/-- The severity, the code and the message. -/
def header (diagnostic : Diagnostic) : String :=
  diagnostic.severity.text ++ "[E" ++ threeDigits diagnostic.code ++ "]: " ++ diagnostic.message

/-- The places that a diagnostic is about, which are the primary ones if there are any. -/
def places (diagnostic : Diagnostic) : List Span :=
  match (diagnostic.labels.filter (·.isPrimary)).map (·.span) with
  | [] => diagnostic.labels.map (·.span) ++ diagnostic.fixIts.map (·.span)
  | primary => primary

/-- Where the first of the most important places starts in a source. -/
def location? (diagnostic : Diagnostic) (source : String) : Option Span :=
  ((diagnostic.places.map fun place => (place.clamp source).start).min?).map .point

/-- The location with the name of the source. -/
def locationText (name source : String) (place : Span) : String :=
  s!"┌─ {name}:{place.line source}:{place.column source}"

/-- The lines of a remark, of which the first one is marked. -/
def noteLines (note : Note) : List String :=
  match Text.lines note.text.toList with
  | [] => []
  | first :: rest => ("= " ++ String.ofList first) :: rest.map String.ofList

/-- Whether a line shows anything besides the numbers and the frame of an excerpt. -/
def isShown (line : List Char) : Bool :=
  match line.dropWhile fun c => c == ' ' || c.isDigit with
  | [] => false
  | c :: _ => c != '│' && c != '·'

/-- Lines without the white space around them, those that show nothing left out. -/
def shownLines (lines : List String) : List String :=
  ((lines.flatMap fun line => Text.lines line.toList).filter isShown).map fun line =>
    String.ofList (Text.trim line)

/-- The report of a diagnostic about a source with a name. -/
def report (name source : String) (diagnostic : Diagnostic) : List String :=
  shownLines ([diagnostic.header] ++
    (diagnostic.location? source).toList.map (locationText name source) ++
    diagnostic.notes.flatMap noteLines)

/-- The report of diagnostics, one after the other. -/
def reportAll (name source : String) (diagnostics : List Diagnostic) : List String :=
  diagnostics.flatMap (report name source)

end ResultBuilder.Diagnostic
