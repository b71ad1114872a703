import ResultBuilder.Syntax.Token

/-!
# Syntax errors

Why a source cannot be read, and where.
-/

namespace ResultBuilder.Syntax

/-- The causes for which reading a source stops. -/
inductive SyntaxError where
  /-- A block comment that is not closed. -/
  | unterminatedComment (span : Span)
  /-- A character that starts no token. -/
  | unexpectedCharacter (character : Char) (span : Span)
  /-- A string that is not closed on its line. -/
  | unterminatedString (span : Span)
  /-- A token that does not fit where it stands. -/
  | unexpectedToken (expected : String) (found : TokenKind) (span : Span)
  /-- A statement that starts on the line of the one before it without a semicolon. -/
  | expectedStatementEnd (span : Span)
  /-- A number that is too large. -/
  | invalidLiteral (literal : String) (span : Span)
  /-- A directive other than the known ones. -/
  | unknownDirective (name : String) (span : Span)
  deriving DecidableEq, Repr

namespace SyntaxError

/-- Where the error is. -/
def span : SyntaxError → Span
  | .unterminatedComment span
  | .unexpectedCharacter _ span
  | .unterminatedString span
  | .unexpectedToken _ _ span
  | .expectedStatementEnd span
  | .invalidLiteral _ span
  | .unknownDirective _ span => span

/-- The error in words. -/
def message : SyntaxError → String
  | .unterminatedComment _ => "unterminated '/*' comment"
  | .unexpectedCharacter character _ => s!"invalid character '{character}' in source file"
  | .unterminatedString _ => "unterminated string literal"
  | .unexpectedToken expected found _ => s!"expected {expected}, found {found.shown}"
  | .expectedStatementEnd _ => "consecutive statements on a line must be separated by ';'"
  | .invalidLiteral literal _ => s!"invalid literal '{literal}'"
  | .unknownDirective name _ => s!"unknown compiler directive '#{name}'"

end SyntaxError

end ResultBuilder.Syntax
