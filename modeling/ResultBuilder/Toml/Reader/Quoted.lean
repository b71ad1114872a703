import ResultBuilder.Toml.Reader.Basic
import ResultBuilder.Toml.Value

/-!
# Reading strings and keys

A string in double quotes holds escapes, one in single quotes does not. Three quotes enclose a
string over several lines, in which every line end counts as a line feed and up to two quotes can
stand before the closing ones.
-/

namespace ResultBuilder.Toml.Reader

/-- The value of a digit in base sixteen. -/
def hexDigit? (c : Char) : Option Nat :=
  if c.isDigit then some (c.toNat - '0'.toNat)
  else if 'a' ≤ c ∧ c ≤ 'f' then some (c.toNat - 'a'.toNat + 10)
  else if 'A' ≤ c ∧ c ≤ 'F' then some (c.toNat - 'A'.toNat + 10)
  else none

/-- The character with a number in base sixteen. -/
def charOfHex? (digits : List Char) : Option Char := do
  let number ← digits.foldlM (fun value c => (hexDigit? c).map (16 * value + ·)) 0
  if number.isValidChar then some (Char.ofNat number) else none

/-- The character of an escape, of which the backslash has been read. -/
def escape? : List Char → Option (Char × List Char)
  | 'b' :: rest => some ('\x08', rest)
  | 't' :: rest => some ('\t', rest)
  | 'n' :: rest => some ('\n', rest)
  | 'f' :: rest => some ('\x0c', rest)
  | 'r' :: rest => some ('\r', rest)
  | '"' :: rest => some ('"', rest)
  | '\\' :: rest => some ('\\', rest)
  | 'u' :: rest => if rest.length < 4 then none else (charOfHex? (rest.take 4)).map (·, rest.drop 4)
  | 'U' :: rest => if rest.length < 8 then none else (charOfHex? (rest.take 8)).map (·, rest.drop 8)
  | _ => none

/-- The text after a backslash that hides the end of its line and the blanks after it. -/
def afterHiddenLineEnd? (text : List Char) : Option (List Char) :=
  (afterLineEnd? (afterSpaces text)).map afterSpaceLines

/-- The content of a string on one line up to its closing quote. -/
def lineBody (quote : Char) (hasEscapes : Bool) : Nat → List Char → Result (List Char)
  | 0, text => .error ⟨"invalid string", text⟩
  | _, [] => .error ⟨"invalid string", []⟩
  | fuel + 1, c :: rest =>
      if c == quote then .ok ([], rest)
      else if hasEscapes && c == '\\' then
        match escape? rest with
        | none => .error ⟨"invalid escape sequence", rest⟩
        | some (escaped, rest) =>
            (lineBody quote hasEscapes fuel rest).map fun (content, rest) =>
              (escaped :: content, rest)
      else if isPlain c then
        (lineBody quote hasEscapes fuel rest).map fun (content, rest) => (c :: content, rest)
      else .error ⟨"invalid string", c :: rest⟩

/-- The content of a string over several lines up to its closing quotes. Of three to five quotes in
a row the last three close the string. -/
def linesBody (quote : Char) (hasEscapes : Bool) : Nat → List Char → Result (List Char)
  | 0, text => .error ⟨"invalid string", text⟩
  | _, [] => .error ⟨"invalid string", []⟩
  | fuel + 1, text@(c :: rest) =>
      let continued (front : List Char) (text : List Char) : Result (List Char) :=
        (linesBody quote hasEscapes fuel text).map fun (content, rest) => (front ++ content, rest)
      if c == quote then
        let quotes := text.takeWhile (· == quote)
        if quotes.length < 3 then continued quotes (text.drop quotes.length)
        else .ok ((quotes.take 5).drop 3, text.drop (min quotes.length 5))
      else if hasEscapes && c == '\\' then
        match afterHiddenLineEnd? rest, escape? rest with
        | some rest, _ => continued [] rest
        | none, some (escaped, rest) => continued [escaped] rest
        | none, none => .error ⟨"invalid escape sequence", rest⟩
      else
        match afterLineEnd? text with
        | some rest => continued ['\n'] rest
        | none => if isPlain c then continued [c] rest else .error ⟨"invalid string", text⟩

/-- Reads a string on one line. -/
def lineString? (text : List Char) : Option (Result (List Char)) :=
  match text with
  | '"' :: rest => some (lineBody '"' true text.length rest)
  | '\'' :: rest => some (lineBody '\'' false text.length rest)
  | _ => none

/-- Reads a string. A line end directly after three opening quotes does not belong to it. -/
def string? (text : List Char) : Option (Result (List Char)) :=
  match text with
  | '"' :: '"' :: '"' :: rest =>
      some (linesBody '"' true text.length ((afterLineEnd? rest).getD rest))
  | '\'' :: '\'' :: '\'' :: rest =>
      some (linesBody '\'' false text.length ((afterLineEnd? rest).getD rest))
  | _ => lineString? text

/-- Whether a character can stand in a key without quotes. -/
def isKeyChar (c : Char) : Bool :=
  c.isAlphanum || c == '_' || c == '-'

/-- Reads a part of a key. -/
def keyPart (text : List Char) : Result String :=
  match lineString? text with
  | some result => result.map fun (content, rest) => (String.ofList content, rest)
  | none =>
      match text.takeWhile isKeyChar with
      | [] => .error ⟨"invalid key", text⟩
      | word => .ok (String.ofList word, text.dropWhile isKeyChar)

/-- Reads a key and the spaces after it: the parts before its last dot, and the last part. -/
def key (total : Nat) : Nat → List Char → Except Stop ((List Key × Key) × List Char)
  | 0, text => .error ⟨"invalid key", text⟩
  | fuel + 1, text => do
      let (name, rest) ← keyPart text
      let part : Key := ⟨name, place total text rest⟩
      match afterSpaces rest with
      | '.' :: more =>
          let ((parts, last), rest) ← key total fuel (afterSpaces more)
          return ((part :: parts, last), rest)
      | rest => return (([], part), rest)

end ResultBuilder.Toml.Reader
