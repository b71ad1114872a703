import ResultBuilder.Source.Span

/-!
# What is wrong with a document

A fault is shown with the line on which it is and with marks below its place.
-/

namespace ResultBuilder.Toml

/-- What is wrong at a place of a document. -/
structure Fault where
  /-- What is wrong. -/
  message : String
  /-- Where it is. -/
  span : Span
  deriving DecidableEq, Repr

namespace Fault

/-- The line of a text with a number that counts from one. -/
def lineText (source : String) (number : Nat) : String :=
  ((source.splitOn "\n")[number - 1]?).getD ""

/-- The fault with the line on which it is and marks below the place. There is at least one mark,
and there are no more than the line has bytes. -/
def lines (fault : Fault) (source : String) : List String :=
  let number := fault.span.line source
  let column := fault.span.column source
  let content := lineText source number
  let margin := String.ofList (List.replicate (toString number).length ' ')
  let width := min (fault.span.stop - fault.span.start) content.utf8ByteSize
  [s!"TOML parse error at line {number}, column {column}", margin ++ " |",
    s!"{number} | {content}",
    margin ++ " |" ++ String.ofList (List.replicate column ' ' ++ List.replicate (max width 1) '^'),
    fault.message]

end Fault

end ResultBuilder.Toml
