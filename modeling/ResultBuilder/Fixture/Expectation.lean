import ResultBuilder.Diagnostic.Basic

/-!
# Expectations

A fixture says which diagnostics it expects: how grave they are, on which line they are, which text
their message contains and which edits they suggest.
-/

namespace ResultBuilder

/-- How grave an expected diagnostic is. -/
inductive ExpectedKind where
  | error
  | warning
  | note
  deriving DecidableEq, Repr

/-- The name of a kind. -/
def ExpectedKind.text : ExpectedKind → String
  | .error => "error"
  | .warning => "warning"
  | .note => "note"

/-- The kind as which a severity is expected: a bug is expected as an error. -/
def Severity.expectedKind : Severity → ExpectedKind
  | .bug | .error => .error
  | .warning => .warning
  | .note => .note

/-- The replacement of a range of columns by a text. -/
structure ColumnEdit where
  /-- The first column, counted from one. -/
  start : Nat
  /-- The column after the last one. -/
  stop : Nat
  /-- What stands there afterwards. -/
  replacement : String
  deriving DecidableEq, Repr

/-- What is expected of a fixture. -/
structure Expectation where
  /-- How grave the diagnostic is. -/
  kind : ExpectedKind
  /-- The line on which it is, counted from one. -/
  line : Nat
  /-- How many times it is expected. -/
  count : Nat
  /-- What its message contains. -/
  message : String
  /-- The edits that it suggests. -/
  edits : List ColumnEdit
  deriving DecidableEq, Repr

/-- Why an annotation on a line cannot be read. -/
inductive AnnotationError where
  | unknownKind (line : Nat) (kind : String)
  | missingMessage (line : Nat)
  | unterminated (line : Nat)
  | invalidOffset (line : Nat) (offset : String)
  | invalidEdit (line : Nat) (text : String)
  deriving DecidableEq, Repr

/-- The error in words. -/
def AnnotationError.message : AnnotationError → String
  | .unknownKind line kind => s!"line {line}: unknown expectation kind 'expected-{kind}'"
  | .missingMessage line =>
      s!"line {line}: expectation is missing its '" ++ "\x7b\x7bmessage\x7d\x7d'"
  | .unterminated line => s!"line {line}: unterminated '" ++ "\x7b\x7b' in expectation"
  | .invalidOffset line offset => s!"line {line}: offset {offset} points outside the file"
  | .invalidEdit line text =>
      s!"line {line}: invalid fix-it edit '{text}', expected 'start-end=replacement'"

end ResultBuilder
