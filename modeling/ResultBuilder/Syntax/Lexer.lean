import ResultBuilder.Syntax.SyntaxError
import ResultBuilder.Text.Alphabetic
import ResultBuilder.Text.Blank

/-!
# The lexer

A source is cut into tokens and the gaps between them. A gap holds white space and comments; all
that is kept of it is whether it contains a line break. Each scanner returns the characters it
takes, and the next token is looked for in what is left.
-/

namespace ResultBuilder.Syntax

open Source (utf8Length)

namespace Lexer

/-! ### Gaps -/

/-- Where in a gap the scanner is. -/
inductive GapState where
  /-- Between comments. -/
  | blank
  /-- In a comment that ends with the line. -/
  | lineComment
  /-- In a comment that started at an offset and has to be closed. -/
  | blockComment (start : Nat)
  deriving DecidableEq, Repr

/-- The longest run of white space and complete comments at the front of a text that starts at an
offset. Fails on a block comment that is not closed. -/
def gap : GapState → Nat → List Char → Except SyntaxError (List Char)
  | .blank, offset, '/' :: '/' :: rest =>
      (['/', '/'] ++ ·) <$> gap .lineComment (offset + 2) rest
  | .blank, offset, '/' :: '*' :: rest =>
      (['/', '*'] ++ ·) <$> gap (.blockComment offset) (offset + 2) rest
  | .blank, offset, c :: rest =>
      if Text.isBlank c then (c :: ·) <$> gap .blank (offset + c.utf8Size) rest else .ok []
  | .lineComment, offset, '\n' :: rest => ('\n' :: ·) <$> gap .blank (offset + 1) rest
  | .lineComment, offset, c :: rest => (c :: ·) <$> gap .lineComment (offset + c.utf8Size) rest
  | .blockComment _, offset, '*' :: '/' :: rest =>
      (['*', '/'] ++ ·) <$> gap .blank (offset + 2) rest
  | .blockComment start, offset, c :: rest =>
      (c :: ·) <$> gap (.blockComment start) (offset + c.utf8Size) rest
  | .blockComment start, offset, [] => .error (.unterminatedComment ⟨start, offset⟩)
  | _, _, [] => .ok []

/-! ### Words and numbers -/

/-- Whether a character can start a name. -/
def startsName (c : Char) : Bool :=
  c == '_' || Text.isAlphabetic c || c == '$'

/-- Whether a character can go on a name. -/
def continuesName (c : Char) : Bool :=
  c == '_' || Text.isAlphanumeric c

/-- A token without its place: its kind, the characters it takes and its text. -/
structure Lexeme where
  /-- What the token is. -/
  kind : TokenKind
  /-- The characters of the source that it takes. -/
  characters : List Char
  /-- The text of the token. -/
  text : String
  deriving DecidableEq, Repr

/-- What a word is: the underscore, a keyword or a name. -/
def wordKind (word : String) : TokenKind :=
  if word == "_" then .symbol .underscore
  else match Keyword.ofSpelling? word with
    | some keyword => .keyword keyword
    | none => .identifier

/-- A word that starts with a given character. -/
def word (first : Char) (rest : List Char) : Lexeme :=
  let characters := first :: rest.takeWhile continuesName
  let text := String.ofList characters
  ⟨wordKind text, characters, text⟩

/-- Whether a character is a digit or separates digits. -/
def continuesNumber (c : Char) : Bool :=
  c.isDigit || c == '_'

/-- A number: digits, and more digits after a point that a digit follows. Underscores between the
digits do not count. -/
def number (text : List Char) : Lexeme :=
  let whole := text.takeWhile continuesNumber
  let digits (characters : List Char) := String.ofList (characters.filter (· != '_'))
  match text.dropWhile continuesNumber with
  | '.' :: next :: rest =>
      if next.isDigit then
        let characters := whole ++ '.' :: (next :: rest).takeWhile continuesNumber
        ⟨.float, characters, digits characters⟩
      else ⟨.integer, whole, digits whole⟩
  | _ => ⟨.integer, whole, digits whole⟩

/-! ### Strings -/

/-- Where in a string the scanner is. -/
inductive StringState where
  /-- In the text of the string, within a number of open parentheses of interpolations. -/
  | text (depth : Nat)
  /-- In a string within an interpolation. -/
  | nested (depth : Nat)
  deriving DecidableEq, Repr

/-- What stands after the content of a string. -/
inductive StringEnd where
  | quote
  | lineBreak
  | endOfSource
  deriving DecidableEq, Repr

/-- Puts characters in front of a scanned content. -/
def prepend (front : List Char) (scan : List Char × StringEnd) : List Char × StringEnd :=
  (front ++ scan.1, scan.2)

/-- The content of a string up to the closing quote. A backslash protects the next character; a
backslash and a parenthesis open an interpolation, which may hold parentheses, line breaks and
strings of its own. -/
def stringContent : StringState → List Char → List Char × StringEnd
  | _, [] => ([], .endOfSource)
  | .nested depth, c :: rest =>
      prepend [c] (stringContent (if c == '"' then .text depth else .nested depth) rest)
  | .text depth, '\\' :: '(' :: rest => prepend ['\\', '('] (stringContent (.text (depth + 1)) rest)
  | .text depth, '\\' :: c :: rest => prepend ['\\', c] (stringContent (.text depth) rest)
  | .text 0, '\n' :: _ => ([], .lineBreak)
  | .text 0, '"' :: _ => ([], .quote)
  | .text 0, c :: rest => prepend [c] (stringContent (.text 0) rest)
  | .text (depth + 1), c :: rest =>
      prepend [c] (stringContent
        (if c == '(' then .text (depth + 2)
          else if c == ')' then .text depth
          else if c == '"' then .nested (depth + 1)
          else .text (depth + 1)) rest)

/-- A string whose opening quote stands at an offset and is followed by a text. -/
def string (start : Nat) (rest : List Char) : Except SyntaxError Lexeme :=
  let (content, ending) := stringContent (.text 0) rest
  match ending with
  | .quote => .ok ⟨.string, '"' :: content ++ ['"'], String.ofList content⟩
  | .lineBreak => .error (.unterminatedString ⟨start, start + 1 + utf8Length content⟩)
  | .endOfSource => .error (.unterminatedString ⟨start, start + 1 + utf8Length rest⟩)

/-! ### Directives and signs -/

/-- A directive whose number sign stands at an offset and is followed by a text. -/
def directive (start : Nat) (rest : List Char) : Except SyntaxError Lexeme :=
  match rest.takeWhile continuesName with
  | [] => .error (.unexpectedCharacter '#' ⟨start, start + 1⟩)
  | name => .ok ⟨.directive, '#' :: name, String.ofList name⟩

/-- The sign at the front of a text. -/
def symbol? (attached : Bool) (text : List Char) : Option Lexeme :=
  (Symbol.longestFirst.find? fun sign =>
    sign.fits attached && sign.spelling.toList.isPrefixOf text).map fun sign =>
      ⟨.symbol sign, sign.spelling.toList, sign.spelling⟩

/-! ### Tokens -/

/-- The lexeme at an offset, where a text starts with a given character. -/
def lexeme (attached : Bool) (start : Nat) (first : Char) (rest : List Char) :
    Except SyntaxError Lexeme :=
  if startsName first then .ok (word first rest)
  else if first.isDigit then .ok (number (first :: rest))
  else if first == '"' then string start rest
  else if first == '#' then directive start rest
  else match symbol? attached (first :: rest) with
    | some lexeme => .ok lexeme
    | none => .error (.unexpectedCharacter first ⟨start, start + first.utf8Size⟩)

/-- Whether something at an offset directly follows the operand that ends with a token. -/
def attachedTo (previous : Option Token) (offset : Nat) : Bool :=
  previous.any fun token => token.span.stop == offset && token.kind.endsOperand

/-- The tokens of a text that starts at an offset, after a previous token. The fuel bounds the
number of tokens that are read before the end. -/
def tokens : Nat → Nat → Option Token → List Char → Except SyntaxError (List Token)
  | fuel, offset, previous, text => do
      let skipped ← gap .blank offset text
      let start := offset + utf8Length skipped
      let newline := skipped.contains '\n'
      match fuel, text.drop skipped.length with
      | fuel + 1, first :: rest =>
          let found ← lexeme (attachedTo previous start) start first rest
          let stop := start + utf8Length found.characters
          let token : Token := ⟨found.kind, ⟨start, stop⟩, found.text, newline⟩
          (token :: ·) <$> tokens fuel stop (some token)
            ((first :: rest).drop found.characters.length)
      | _, _ => .ok [⟨.endOfFile, .point start, "", newline⟩]

end Lexer

/-- The tokens of a source, the last of which is the end of the file. Every token takes at least
one character, so the length of the source bounds their number. -/
def tokenize (source : String) : Except SyntaxError (List Token) :=
  let characters := source.toList
  Lexer.tokens characters.length 0 none characters

end ResultBuilder.Syntax
