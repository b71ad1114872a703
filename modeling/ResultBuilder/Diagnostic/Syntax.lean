import ResultBuilder.Diagnostic.Basic
import ResultBuilder.Syntax.SyntaxError

/-!
# Reporting syntax errors

A syntax error is reported as one diagnostic with one label on its place. A missing separator comes
with the suggestion to insert it.
-/

namespace ResultBuilder.Syntax.SyntaxError

/-- The code of the diagnostic for an error. -/
def code : SyntaxError → Nat
  | .unterminatedComment _ | .unexpectedCharacter _ _ | .unterminatedString _ => 100
  | .unexpectedToken _ _ _ => 101
  | .expectedStatementEnd _ => 102
  | .invalidLiteral _ _ | .unknownDirective _ _ => 103

/-- What is said about the place of an error. -/
def labelMessage : SyntaxError → String
  | .unterminatedComment _ => "comment starts here"
  | .unexpectedCharacter _ _ => "invalid character"
  | .unterminatedString _ => "string starts here"
  | .unexpectedToken _ found _ => "unexpected " ++ found.shown
  | .expectedStatementEnd _ => "statement continues here"
  | .invalidLiteral _ _ => "invalid literal"
  | .unknownDirective _ _ => "unknown directive"

/-- The remarks on an error. -/
def notes : SyntaxError → List Note
  | .expectedStatementEnd span =>
      [.fixIt ⟨"insert ';'", .point span.start, [.insert span.start ";"]⟩]
  | _ => []

/-- The diagnostic for an error. -/
def diagnostic (error : SyntaxError) : Diagnostic :=
  ⟨.error, error.code, error.message, [.primary error.labelMessage error.span], error.notes⟩

end ResultBuilder.Syntax.SyntaxError
