import ResultBuilder.Text.Blank

/-!
# Lines and words

A line ends with a line feed or at the end of the text; a carriage return before the line feed does
not belong to it. Words are separated by white space.
-/

namespace ResultBuilder.Text

/-- The lines of a text. There is no line after the last line feed. -/
def lines : List Char → List (List Char)
  | [] => []
  | '\n' :: rest => [] :: lines rest
  | '\r' :: '\n' :: rest => [] :: lines rest
  | c :: rest =>
      match lines rest with
      | [] => [[c]]
      | line :: others => (c :: line) :: others

/-- The words of a text: what stands before the first white space, and the words after it. -/
def splitWords : List Char → List Char × List (List Char)
  | [] => ([], [])
  | c :: rest =>
      let (first, others) := splitWords rest
      if isBlank c then ([], first :: others) else (c :: first, others)

/-- The words of a text. -/
def words (text : List Char) : List (List Char) :=
  let (first, others) := splitWords text
  (first :: others).filter fun word => !word.isEmpty

end ResultBuilder.Text
