import ResultBuilder.Config
import ResultBuilder.Text.Quoted

/-!
# What is wrong with a configuration
-/

namespace ResultBuilder

/-- A value of a type that is not expected. -/
inductive FoundValue where
  | null
  | boolean (value : Bool)
  | integer (value : Int)
  /-- A number with a fraction, as it is shown. -/
  | fraction (text : String)
  | string (value : String)
  | sequence
  | map
  deriving DecidableEq, Repr

/-- A value in words. -/
def FoundValue.text : FoundValue → String
  | .null => "null"
  | .boolean value => if value then "boolean `true`" else "boolean `false`"
  | .integer value => s!"integer `{value}`"
  | .fraction text => s!"floating point `{text}`"
  | .string value => "string " ++ Text.quoted value
  | .sequence => "sequence"
  | .map => "map"

/-- Why a value is no configuration. -/
inductive ConfigError where
  /-- A field that no configuration has. -/
  | unknownField (name : String)
  /-- A value of another type than is expected. -/
  | invalidType (found : FoundValue) (expected : String)
  /-- An encoding that does not exist. -/
  | unknownEncoding (name : String)
  /-- An object in place of an encoding that does not have just one field. -/
  | noSingleKey
  /-- A list with too many values. -/
  | tooManyValues (count : Nat)
  deriving DecidableEq, Repr

/-- The error in words. -/
def ConfigError.message : ConfigError → String
  | .unknownField name =>
      "unknown field `" ++ name ++
        "`, expected one of `check_syntactic_uses`, `check_captures`, `either_encoding`"
  | .invalidType found expected => "invalid type: " ++ found.text ++ ", expected " ++ expected
  | .unknownEncoding name =>
      "unknown variant `" ++ name ++ "`, expected `balanced` or `right_nested`"
  | .noSingleKey => "invalid value: map, expected map with a single key"
  | .tooManyValues count =>
      "invalid length " ++ toString count ++ ", expected fewer elements in array"

/-- The encoding of a name. -/
def EitherEncoding.ofName (name : String) : Except ConfigError EitherEncoding :=
  if name == EitherEncoding.balanced.text then .ok .balanced
  else if name == EitherEncoding.rightNested.text then .ok .rightNested
  else .error (.unknownEncoding name)

end ResultBuilder
