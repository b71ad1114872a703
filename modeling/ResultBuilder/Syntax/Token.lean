import ResultBuilder.Source.Span

/-!
# Tokens

The words and signs of the surface language. Keywords and signs know how they are written; the
other kinds of token differ from each other in their text.
-/

namespace ResultBuilder.Syntax

/-- The reserved words. -/
inductive Keyword where
  | struct_
  | class_
  | enum_
  | case_
  | func_
  | static_
  | var_
  | let_
  | if_
  | else_
  | switch_
  | default_
  | for_
  | in_
  | while_
  | repeat_
  | do_
  | return_
  | fallthrough_
  | break_
  | continue_
  | true_
  | false_
  | nil_
  | self_
  deriving DecidableEq, Repr

namespace Keyword

/-- How a keyword is written. -/
def spelling : Keyword → String
  | .struct_ => "struct"
  | .class_ => "class"
  | .enum_ => "enum"
  | .case_ => "case"
  | .func_ => "func"
  | .static_ => "static"
  | .var_ => "var"
  | .let_ => "let"
  | .if_ => "if"
  | .else_ => "else"
  | .switch_ => "switch"
  | .default_ => "default"
  | .for_ => "for"
  | .in_ => "in"
  | .while_ => "while"
  | .repeat_ => "repeat"
  | .do_ => "do"
  | .return_ => "return"
  | .fallthrough_ => "fallthrough"
  | .break_ => "break"
  | .continue_ => "continue"
  | .true_ => "true"
  | .false_ => "false"
  | .nil_ => "nil"
  | .self_ => "self"

/-- All keywords. -/
def all : List Keyword :=
  [.struct_, .class_, .enum_, .case_, .func_, .static_, .var_, .let_, .if_, .else_, .switch_,
    .default_, .for_, .in_, .while_, .repeat_, .do_, .return_, .fallthrough_, .break_, .continue_,
    .true_, .false_, .nil_, .self_]

/-- The list of keywords is complete. -/
theorem mem_all (keyword : Keyword) : keyword ∈ all := by
  cases keyword <;> decide

/-- The keyword written like a word, if there is one. -/
def ofSpelling? (word : String) : Option Keyword :=
  all.find? (·.spelling == word)

/-- A word is read as a keyword only when it is written like it. -/
theorem spelling_of_ofSpelling? {word : String} {keyword : Keyword}
    (found : ofSpelling? word = some keyword) : keyword.spelling = word := by
  have := List.find?_some found
  simpa using this

end Keyword

/-- The signs. A question or exclamation mark directly after an operand is a sign of its own. -/
inductive Symbol where
  | braceOpen
  | braceClose
  | parenOpen
  | parenClose
  | bracketOpen
  | bracketClose
  | comma
  | colon
  | semicolon
  | dot
  | arrow
  | atSign
  | underscore
  | ellipsis
  | question
  | attachedQuestion
  | bang
  | attachedBang
  | assign
  | equal
  | notEqual
  | less
  | greater
  | lessEqual
  | greaterEqual
  | and
  | or
  | plus
  | minus
  | star
  | slash
  | percent
  | coalesce
  deriving DecidableEq, Repr

namespace Symbol

/-- How a sign is written. -/
def spelling : Symbol → String
  | .braceOpen => "\x7b"
  | .braceClose => "\x7d"
  | .parenOpen => "("
  | .parenClose => ")"
  | .bracketOpen => "["
  | .bracketClose => "]"
  | .comma => ","
  | .colon => ":"
  | .semicolon => ";"
  | .dot => "."
  | .arrow => "->"
  | .atSign => "@"
  | .underscore => "_"
  | .ellipsis => "..."
  | .question | .attachedQuestion => "?"
  | .bang | .attachedBang => "!"
  | .assign => "="
  | .equal => "=="
  | .notEqual => "!="
  | .less => "<"
  | .greater => ">"
  | .lessEqual => "<="
  | .greaterEqual => ">="
  | .and => "&&"
  | .or => "||"
  | .plus => "+"
  | .minus => "-"
  | .star => "*"
  | .slash => "/"
  | .percent => "%"
  | .coalesce => "??"

/-- The signs that the lexer looks for, longer ones first. The underscore is not among them: it is
read like a word. -/
def longestFirst : List Symbol :=
  [.ellipsis,
    .arrow, .equal, .notEqual, .lessEqual, .greaterEqual, .and, .or, .coalesce,
    .attachedQuestion, .question, .attachedBang, .bang, .braceOpen, .braceClose, .parenOpen,
    .parenClose, .bracketOpen, .bracketClose, .comma, .colon, .semicolon, .dot, .atSign, .assign,
    .less, .greater, .plus, .minus, .star, .slash, .percent]

/-- Whether a sign can stand at a place that does or does not directly follow an operand. -/
def fits (attached : Bool) : Symbol → Bool
  | .attachedQuestion | .attachedBang => attached
  | .question | .bang | .coalesce => !attached
  | _ => true

end Symbol

/-- What a token is. -/
inductive TokenKind where
  /-- A name. -/
  | identifier
  /-- Digits. -/
  | integer
  /-- Digits with a point among them. -/
  | float
  /-- A quoted text. -/
  | string
  /-- A name after a number sign. -/
  | directive
  /-- A reserved word. -/
  | keyword (word : Keyword)
  /-- A sign. -/
  | symbol (sign : Symbol)
  /-- The end of the source. -/
  | endOfFile
  deriving DecidableEq, Repr

namespace TokenKind

/-- How error messages call a kind of token. -/
def shown : TokenKind → String
  | .identifier => "identifier"
  | .integer => "integer literal"
  | .float => "float literal"
  | .string => "string literal"
  | .directive => "compiler directive"
  | .keyword word => "'" ++ word.spelling ++ "'"
  | .symbol sign => "'" ++ sign.spelling ++ "'"
  | .endOfFile => "end of file"

/-- Whether a token can be the last one of an operand, so that a question or exclamation mark
directly after it is an operator on that operand. -/
def endsOperand : TokenKind → Bool
  | .identifier | .integer | .float | .string => true
  | .keyword .true_ | .keyword .false_ | .keyword .nil_ | .keyword .self_ => true
  | .symbol .parenClose | .symbol .bracketClose | .symbol .braceClose => true
  | .symbol .greater | .symbol .attachedQuestion | .symbol .attachedBang => true
  | _ => false

end TokenKind

/-- A token of the source. -/
structure Token where
  /-- What it is. -/
  kind : TokenKind
  /-- Where it stands. -/
  span : Span
  /-- Its text: for a string what is between the quotes, for a directive the name alone, for a
  number the digits without underscores. -/
  text : String
  /-- Whether a line break separates it from the token before it. -/
  newlineBefore : Bool
  deriving DecidableEq, Repr

end ResultBuilder.Syntax
