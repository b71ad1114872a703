import ResultBuilder.Syntax.Parser.Inner

/-!
# Parsing patterns

A pattern is a run of tokens up to one that cannot belong to it. It is kept as text, together with
the enum case that it names and whether a value of that case may fail to match.
-/

namespace ResultBuilder.Syntax.Parser

/-- Whether a token opens parentheses or brackets. -/
def opensGroup : TokenKind → Bool
  | .symbol .parenOpen | .symbol .bracketOpen => true
  | _ => false

/-- Whether a token closes parentheses or brackets. -/
def closesGroup : TokenKind → Bool
  | .symbol .parenClose | .symbol .bracketClose => true
  | _ => false

/-- The tokens of a pattern within a number of open groups. It ends at the end of the file, and
outside all groups at a stop, an opening brace or a closing sign. -/
def patternTokens (stops : TokenKind → Bool) : Nat → List Token → List Token
  | _, [] => []
  | depth, token :: rest =>
      if token.kind == .endOfFile then []
      else if opensGroup token.kind && !(depth == 0 && stops token.kind) then
        token :: patternTokens stops (depth + 1) rest
      else match depth with
        | 0 =>
            if token.kind == .symbol .braceOpen || stops token.kind || closesGroup token.kind then
              []
            else token :: patternTokens stops 0 rest
        | outer + 1 =>
            token :: patternTokens stops (if closesGroup token.kind then outer else outer + 1) rest

/-- The parts of a payload that commas separate outside all groups, given the part read so far in
reverse. -/
def payloadParts : Nat → List Token → List Token → List (List Token)
  | _, part, [] => [part.reverse]
  | depth, part, token :: rest =>
      if depth == 0 && token.kind == .symbol .comma then part.reverse :: payloadParts 0 [] rest
      else
        let inside := if opensGroup token.kind then depth + 1
          else if closesGroup token.kind then depth - 1
          else depth
        payloadParts inside (token :: part) rest

/-- Whether a part of a payload matches every value: an underscore, or a binding of a name. -/
def partMatchesAll : List Token → Bool
  | [token] => token.kind == .symbol .underscore
  | [binding, name] =>
      (binding.kind == .keyword .let_ || binding.kind == .keyword .var_) &&
        (name.kind == .identifier || name.kind == .symbol .underscore)
  | _ => false

/-- Whether a payload may fail to match. -/
def payloadIsRefutable (payload : List Token) : Bool :=
  !(payloadParts 0 [] payload).all partMatchesAll

/-- The enum case that the tokens of a pattern name. -/
def namedCase : List Token → Option String
  | dot :: name :: _ =>
      if dot.kind == .symbol .dot && name.kind == .identifier then some name.text else none
  | _ => none

/-- Whether the tokens of a pattern are a single underscore. -/
def isWildcard : List Token → Bool
  | [token] => token.kind == .symbol .underscore
  | _ => false

/-- Whether a value may fail to match the tokens of a pattern, given that it is a value of the case
that they name. A payload in parentheses is looked at part by part. -/
def isRefutable (tokens : List Token) : Bool :=
  match namedCase tokens, tokens with
  | some _, [_, _] => false
  | some _, _ :: _ :: opening :: more =>
      match more.getLast? with
      | some closing =>
          if opening.kind == .symbol .parenOpen && closing.kind == .symbol .parenClose then
            payloadIsRefutable more.dropLast
          else true
      | none => true
  | _, _ => !isWildcard tokens

/-- A pattern up to one of the stops. -/
def pattern (stops : TokenKind → Bool) : Parser Pattern := do
  let cursor ← get
  let tokens := patternTokens stops 0 cursor.rest
  match tokens.head?, tokens.getLast? with
  | some first, some last =>
      let _ ← takeMany tokens.length
      let span : Span := ⟨first.span.start, last.span.stop⟩
      return {
        span
        text := String.ofList (Source.sliceBytes span.start span.stop cursor.source)
        caseName := namedCase tokens
        isWildcard := isWildcard tokens
        isRefutable := isRefutable tokens }
  | _, _ => unexpected "pattern"

end ResultBuilder.Syntax.Parser
