import ResultBuilder.Json
import ResultBuilder.Source.Edit

/-!
# Diagnostics

What is reported about a source: a severity, a code, a message, labels that point into the source
and notes, some of which suggest edits.
-/

namespace ResultBuilder

/-- How grave a diagnostic is. -/
inductive Severity where
  | bug
  | error
  | warning
  | note
  deriving DecidableEq, Repr

namespace Severity

/-- The name of a severity. -/
def text : Severity → String
  | .bug => "bug"
  | .error => "error"
  | .warning => "warning"
  | .note => "note"

/-- Whether a diagnostic of this severity makes the compilation fail. -/
def isError : Severity → Bool
  | .bug | .error => true
  | .warning | .note => false

end Severity

/-- A message about a place in the source. Primary labels point at what the diagnostic is about,
the others at places that explain it. -/
structure Label where
  /-- What is said about the place. -/
  message : String
  /-- Whether the diagnostic is about this place. -/
  isPrimary : Bool
  /-- The place. -/
  span : Span
  deriving DecidableEq, Repr

namespace Label

/-- A label on what a diagnostic is about. -/
def primary (message : String) (span : Span) : Label :=
  ⟨message, true, span⟩

/-- A label on a place that explains a diagnostic. -/
def context (message : String) (span : Span) : Label :=
  ⟨message, false, span⟩

end Label

/-- A suggested change of the source. -/
structure FixIt where
  /-- What the change does. -/
  message : String
  /-- The place that the suggestion is about. -/
  span : Span
  /-- The edits that make it up. -/
  edits : List Edit
  deriving DecidableEq, Repr

/-- The suggestion in words. -/
def FixIt.text (fixIt : FixIt) : String :=
  "fix-it: " ++ fixIt.message ++ String.join (fixIt.edits.map fun edit => " [" ++ edit.text ++ "]")

/-- A remark below a diagnostic. -/
inductive Note where
  | hint (text : String)
  | basic (text : String)
  | fixIt (suggestion : FixIt)
  deriving DecidableEq, Repr

namespace Note

/-- The remark as it is shown. -/
def text : Note → String
  | .hint text => "hint: " ++ text
  | .basic text => text
  | .fixIt suggestion => suggestion.text

/-- The place of the remark, if it has one. -/
def span? : Note → Option Span
  | .hint _ | .basic _ => none
  | .fixIt suggestion => some suggestion.span

/-- The suggested change in a remark. -/
def fixIt? : Note → Option FixIt
  | .fixIt suggestion => some suggestion
  | .hint _ | .basic _ => none

end Note

/-- Something to report about a source. -/
structure Diagnostic where
  /-- How grave it is. -/
  severity : Severity
  /-- The number by which its kind is known. -/
  code : Nat
  /-- What there is to say. -/
  message : String
  /-- The places that it is about. -/
  labels : List Label
  /-- Further remarks. -/
  notes : List Note
  deriving DecidableEq, Repr

namespace Diagnostic

/-- Whether the diagnostic makes the compilation fail. -/
def isError (diagnostic : Diagnostic) : Bool :=
  diagnostic.severity.isError

/-- Whether the diagnostic is a warning. -/
def isWarning (diagnostic : Diagnostic) : Bool :=
  diagnostic.severity == .warning

/-- The place of the first primary label. -/
def primarySpan? (diagnostic : Diagnostic) : Option Span :=
  (diagnostic.labels.find? (·.isPrimary)).map (·.span)

/-- The suggested changes. -/
def fixIts (diagnostic : Diagnostic) : List FixIt :=
  diagnostic.notes.filterMap Note.fixIt?

/-- The diagnostic with one more remark at the end. -/
def withNote (diagnostic : Diagnostic) (note : Note) : Diagnostic :=
  { diagnostic with notes := diagnostic.notes ++ [note] }

end Diagnostic

/-! ### The JSON form of diagnostics -/

/-- The JSON form of a span. -/
def Span.toJson (span : Span) : Json :=
  .object [("start", .number span.start), ("end", .number span.stop)]

/-- The JSON form of a label. -/
def Label.toJson (label : Label) : Json :=
  .object [("message", .string label.message), ("primary", .bool label.isPrimary),
    ("span", label.span.toJson)]

/-- The JSON form of an edit. -/
def Edit.toJson (edit : Edit) : Json :=
  .object [("span", edit.span.toJson), ("replacement", .string edit.replacement)]

/-- The JSON form of a suggested change. -/
def FixIt.toJson (fixIt : FixIt) : Json :=
  .object [("message", .string fixIt.message), ("span", fixIt.span.toJson),
    ("edits", .ofList Edit.toJson fixIt.edits)]

/-- The JSON form of a remark. -/
def Note.toJson : Note → Json
  | .hint text => .object [("type", .string "hint"), ("value", .string text)]
  | .basic text => .object [("type", .string "basic"), ("value", .string text)]
  | .fixIt suggestion => .object [("type", .string "fix_it"), ("value", suggestion.toJson)]

/-- The JSON form of a diagnostic. -/
def Diagnostic.toJson (diagnostic : Diagnostic) : Json :=
  .object [("severity", .string diagnostic.severity.text), ("code", .number diagnostic.code),
    ("message", .string diagnostic.message), ("labels", .ofList Label.toJson diagnostic.labels),
    ("notes", .ofList Note.toJson diagnostic.notes)]

end ResultBuilder
