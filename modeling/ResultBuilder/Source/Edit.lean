import ResultBuilder.Source.Span
import ResultBuilder.Text.Quoted

/-!
# Edits of a source

An edit replaces the text of a span. Removing puts nothing there, inserting replaces an empty span.
-/

namespace ResultBuilder

/-- The replacement of a span of the source by a text. -/
structure Edit where
  /-- What is replaced. -/
  span : Span
  /-- What stands there afterwards. -/
  replacement : String
  deriving DecidableEq, Repr

namespace Edit

/-- Removes a span. -/
def remove (span : Span) : Edit :=
  ⟨span, ""⟩

/-- Inserts a text at an offset. -/
def insert (offset : Nat) (text : String) : Edit :=
  ⟨.point offset, text⟩

/-- Replaces a span by a text. -/
def replace (span : Span) (text : String) : Edit :=
  ⟨span, text⟩

/-- The source after the edit. A span that ends before it starts counts as empty, and what lies
beyond the source is ignored. The program would stop at an offset inside a character, which is taken
here for the start of that character. -/
def apply (edit : Edit) (source : String) : String :=
  let characters := source.toList
  String.ofList (Source.takeBytes edit.span.start characters) ++ edit.replacement ++
    String.ofList (Source.dropBytes (max edit.span.start edit.span.stop) characters)

/-- The edit in words: its span and the quoted replacement. -/
def text (edit : Edit) : String :=
  edit.span.text ++ "=" ++ Text.quoted edit.replacement

end Edit

end ResultBuilder
