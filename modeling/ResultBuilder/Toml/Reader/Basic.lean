import ResultBuilder.Source.Span

/-!
# Readers, blanks and comments

Every reader takes what it reads from the start of a text and gives the rest. Where a text cannot be
read, the reader gives what is wrong and the rest from there on.
-/

namespace ResultBuilder.Toml.Reader

/-- What is wrong, and the text from there on. -/
structure Stop where
  /-- What is wrong. -/
  message : String
  /-- The text from there on. -/
  rest : List Char

/-- The outcome of reading something from the start of a text. -/
abbrev Result (α : Type) := Except Stop (α × List Char)

/-- A place of a text of some length, given what is left of the text at the start and at the end of
the place. -/
def place (total : Nat) (start stop : List Char) : Span :=
  ⟨total - Source.utf8Length start, total - Source.utf8Length stop⟩

/-- Whether a character separates words on a line. -/
def isSpace (c : Char) : Bool :=
  c == ' ' || c == '\t'

/-- Whether a character can stand in a comment or between quotes on a line: no control but the
tabulator. -/
def isPlain (c : Char) : Bool :=
  c == '\t' || (0x20 ≤ c.toNat && c.toNat != 0x7F)

/-- The text after spaces. -/
def afterSpaces (text : List Char) : List Char :=
  text.dropWhile isSpace

/-- The text after spaces and line ends. -/
def afterSpaceLines : List Char → List Char
  | '\n' :: rest | '\r' :: '\n' :: rest => afterSpaceLines rest
  | c :: rest => if isSpace c then afterSpaceLines rest else c :: rest
  | [] => []

/-- The text after the end of a line at its start. -/
def afterLineEnd? : List Char → Option (List Char)
  | '\n' :: rest | '\r' :: '\n' :: rest => some rest
  | _ => none

/-- The text after a comment at its start. -/
def afterComment : List Char → List Char
  | '#' :: rest => rest.dropWhile isPlain
  | text => text

/-- The text after spaces, line ends and comments, possibly from within a comment. -/
def afterBlanks (inComment : Bool) : List Char → List Char
  | '\n' :: rest | '\r' :: '\n' :: rest => afterBlanks false rest
  | c :: rest =>
      if inComment && isPlain c then afterBlanks true rest
      else if !inComment && isSpace c then afterBlanks false rest
      else if !inComment && c == '#' then afterBlanks true rest
      else c :: rest
  | [] => []

/-- The text after the end of a line, where nothing but a comment may be left. -/
def afterLine (text : List Char) : Except Stop (List Char) :=
  match afterComment (afterSpaces text) with
  | [] => .ok []
  | rest => match afterLineEnd? rest with
    | some rest => .ok rest
    | none => .error ⟨"expected newline, `#`", rest⟩

end ResultBuilder.Toml.Reader
