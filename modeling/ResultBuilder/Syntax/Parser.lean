import ResultBuilder.Syntax.Lexer
import ResultBuilder.Syntax.Parser.Statement

/-!
# The parser

The parsers of the single constructs are tied together level by level: what is nested in a construct
is read by the parsers of the level below. A source is read with one level for each of its tokens.
-/

namespace ResultBuilder.Syntax

namespace Parser

/-- The parsers for what is nested at most a number of levels deep. -/
def innerOfDepth : Nat → Inner
  | 0 => .exhausted
  | depth + 1 =>
      let inner := { innerOfDepth depth with bound := depth + 1 }
      { bound := depth + 1
        type := type inner
        expression := expression inner
        ternary := ternary inner
        binary := binary inner
        unary := unary inner
        statement := statement inner
        declaration := declaration inner
        conditional := conditional inner }

/-- The statements of a whole source. -/
def program (inner : Inner) : Parser Program :=
  Program.mk <$> statements inner fun _ => false

end Parser

/-- The program that tokens of a source make up. -/
def Program.ofTokens (source : List Char) (tokens : List Token) : Except SyntaxError Program :=
  (Parser.program (Parser.innerOfDepth tokens.length)).run' (.atStart source tokens)

/-- The program that a source contains. Errors of the lexer come before those of the parser. -/
def parse (source : String) : Except SyntaxError Program := do
  Program.ofTokens source.toList (← tokenize source)

end ResultBuilder.Syntax
