import ResultBuilder.Text.Quoted

/-!
# JSON values

The values that reports are made of. Objects keep their fields in the order in which they are
given. `Json.pretty` lays a value out over lines, each level indented by two spaces.
-/

namespace ResultBuilder

/-- A JSON value whose numbers are natural. -/
inductive Json where
  | null
  | bool (value : Bool)
  | number (value : Nat)
  | string (value : String)
  | array (items : List Json)
  | object (fields : List (String × Json))
  deriving Repr, Inhabited

namespace Json

/-- An optional value, `null` when it is absent. -/
def ofOption (encode : α → Json) : Option α → Json
  | none => .null
  | some value => encode value

/-- A list of values. -/
def ofList (encode : α → Json) (items : List α) : Json :=
  .array (items.map encode)

/-- A character as it is written in a JSON string. -/
def escapedChar (c : Char) : String :=
  if c == '"' then "\\\""
  else if c == '\\' then "\\\\"
  else if c == '\n' then "\\n"
  else if c == '\r' then "\\r"
  else if c == '\t' then "\\t"
  else if c == '\x08' then "\\b"
  else if c == '\x0c' then "\\f"
  else if c.toNat < 0x10 then "\\u000" ++ Text.hexadecimal c.toNat
  else if c.toNat < 0x20 then "\\u00" ++ Text.hexadecimal c.toNat
  else c.toString

/-- A JSON string. -/
def quoted (text : String) : String :=
  "\"" ++ String.join (text.toList.map escapedChar) ++ "\""

/-- The start of a line at a level of indentation. -/
def newLine (level : Nat) : String :=
  "\n" ++ String.ofList (List.replicate (2 * level) ' ')

/-- The items of a list or object between brackets, one on a line. -/
def enclosed (opening closing : String) (level : Nat) : List String → String
  | [] => opening ++ closing
  | items =>
      opening ++ String.intercalate "," (items.map (newLine (level + 1) ++ ·)) ++
        newLine level ++ closing

mutual

/-- A value over lines, the first of which goes on a line of the given level. -/
def prettyAt (level : Nat) : Json → String
  | .null => "null"
  | .bool value => if value then "true" else "false"
  | .number value => toString value
  | .string value => quoted value
  | .array items => enclosed "[" "]" level (prettyItems (level + 1) items)
  | .object fields => enclosed "\x7b" "\x7d" level (prettyFields (level + 1) fields)

/-- The items of a list, each as at a level. -/
def prettyItems (level : Nat) : List Json → List String
  | [] => []
  | item :: rest => prettyAt level item :: prettyItems level rest

/-- The fields of an object, each as at a level. -/
def prettyFields (level : Nat) : List (String × Json) → List String
  | [] => []
  | (name, value) :: rest =>
      (quoted name ++ ": " ++ prettyAt level value) :: prettyFields level rest

end

/-- A value over lines. -/
def pretty (value : Json) : String :=
  prettyAt 0 value

end Json

end ResultBuilder
