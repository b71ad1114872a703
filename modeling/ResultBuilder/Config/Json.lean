import ResultBuilder.Config.Error
import ResultBuilder.Json

/-!
# Configurations in JSON

A configuration is an object whose fields are all optional and all known, or a list of the same
values in their order. The fields of an object are read in the order of their names, and the first
error counts.
-/

namespace ResultBuilder

namespace Config

/-- How a value is called that is not expected. -/
def foundJson : Json → FoundValue
  | .null => .null
  | .bool value => .boolean value
  | .number value => .integer value
  | .string value => .string value
  | .array _ => .sequence
  | .object _ => .map

/-- Reads a truth value. -/
def decodeBool : Json → Except ConfigError Bool
  | .bool value => .ok value
  | other => .error (.invalidType (foundJson other) "a boolean")

/-- Reads an encoding: its name, or an object with its name as the only key and nothing in it. -/
def decodeEncoding : Json → Except ConfigError EitherEncoding
  | .string name => EitherEncoding.ofName name
  | .object [(name, content)] => do
      let encoding ← EitherEncoding.ofName name
      match content with
      | .null => return encoding
      | other => throw (.invalidType (foundJson other) "unit")
  | .object _ => .error .noSingleKey
  | other => .error (.invalidType (foundJson other) "string or map")

/-- Sets a field of a configuration. -/
def setField (config : Config) (name : String) (value : Json) : Except ConfigError Config :=
  match name with
  | "check_syntactic_uses" => do return { config with checkSyntacticUses := ← decodeBool value }
  | "check_captures" => do return { config with checkCaptures := ← decodeBool value }
  | "either_encoding" => do return { config with eitherEncoding := ← decodeEncoding value }
  | _ => .error (.unknownField name)

/-- Sets fields one after the other. -/
def setFields (config : Config) (fields : List (String × Json)) : Except ConfigError Config :=
  fields.foldlM (fun config (name, value) => config.setField name value) config

/-- The names of the fields, in the order in which a list gives their values. -/
def fieldNames : List String :=
  ["check_syntactic_uses", "check_captures", "either_encoding"]

/-- Reads a configuration. -/
def decode : Json → Except ConfigError Config
  | .object fields =>
      setFields {} (fields.mergeSort fun left right => !decide (right.1 < left.1))
  | .array items => do
      let config ← setFields {} (fieldNames.zip items)
      if fieldNames.length < items.length then throw (.tooManyValues items.length)
      return config
  | other => .error (.invalidType (foundJson other) "struct CompileConfig")

/-- The JSON form of a configuration. -/
def toJson (config : Config) : Json :=
  .object [("check_syntactic_uses", .bool config.checkSyntacticUses),
    ("check_captures", .bool config.checkCaptures),
    ("either_encoding", .string config.eitherEncoding.text)]

end Config

end ResultBuilder
