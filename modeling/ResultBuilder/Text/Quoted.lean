import ResultBuilder.Text.Printable

/-!
# Quoted texts

A text between double quotes in which the quote, the backslash and every character that does not
show by itself are written as escapes.
-/

namespace ResultBuilder.Text

/-- The digits of a number in base sixteen, in lower case. -/
def hexadecimal (n : Nat) : String :=
  String.ofList (Nat.toDigits 16 n)

/-- A character as it is written between double quotes. -/
def quotedChar (c : Char) : String :=
  if c == '\x00' then "\\0"
  else if c == '\t' then "\\t"
  else if c == '\r' then "\\r"
  else if c == '\n' then "\\n"
  else if c == '"' then "\\\""
  else if c == '\\' then "\\\\"
  else if isPrintable c then c.toString
  else "\\u\x7b" ++ hexadecimal c.toNat ++ "\x7d"

/-- A text between double quotes. -/
def quoted (text : String) : String :=
  "\"" ++ String.join (text.toList.map quotedChar) ++ "\""

end ResultBuilder.Text
