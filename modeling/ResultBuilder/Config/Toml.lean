import ResultBuilder.Config.Error
import ResultBuilder.Decimal.Shortest
import ResultBuilder.Toml.Document

/-!
# Configurations in TOML

The keys of a document are the fields of a configuration. They are read in the order in which they
stand in the document, and the first error counts. An error in a value that has no place of its own
is at the place of the whole document.
-/

namespace ResultBuilder

namespace Config

/-- Why an entry of a document is no field of a configuration. -/
inductive EntryError where
  | config (error : ConfigError)
  /-- A value in place of an encoding that is neither a string nor a table. -/
  | notStringOrTable
  /-- A table in place of an encoding that does not have just one key. -/
  | notOneElement (isEmpty : Bool)
  /-- A value below the name of an encoding that is no table. -/
  | notTable (kind : String)
  /-- A table below the name of an encoding that has something in it. -/
  | notEmptyTable
  deriving DecidableEq, Repr

/-- The error in words. -/
def EntryError.message : EntryError → String
  | .config error => error.message
  | .notStringOrTable => "wanted string or table"
  | .notOneElement true => "wanted exactly 1 element, found 0 elements"
  | .notOneElement false => "wanted exactly 1 element, more than 1 element"
  | .notTable kind => "expected table, found " ++ kind
  | .notEmptyTable => "expected empty table"

/-- What is wrong with an entry, and where, if it is at one place. -/
structure EntryFault where
  /-- What is wrong. -/
  error : EntryError
  /-- Where it is. -/
  place : Option Span
  deriving DecidableEq, Repr

/-- The text of a number of binary floating point, with a point in all finite ones. -/
def floatText (isNegative : Bool) (size : Binary64) : String :=
  let text := size.shortestText
  let shown := if size = .infinity || text.contains '.' then text else text ++ ".0"
  if isNegative then "-" ++ shown else shown

/-- How a value without parts is called that is not expected. -/
def foundScalar : Toml.Scalar → FoundValue
  | .boolean value => .boolean value
  | .integer value => .integer value
  | .float isNegative size => .fraction (floatText isNegative size)
  | .notANumber => .fraction "NaN"
  | .string value => .string value
  | .moment => .map

/-- How a value is called that is not expected. -/
def foundToml : Toml.Value → FoundValue
  | .scalar content _ => foundScalar content
  | .array _ _ | .tables _ => .sequence
  | .table _ => .map

/-- Reads a truth value. -/
def boolOfToml : Toml.Value → Except EntryFault Bool
  | .scalar (.boolean value) _ => .ok value
  | other => .error ⟨.config (.invalidType (foundToml other) "a boolean"), other.place⟩

/-- Reads an encoding: its name, or a table with its name as the only key and an empty table. -/
def encodingOfToml (value : Toml.Value) : Except EntryFault EitherEncoding :=
  match value with
  | .scalar (.string name) place =>
      (EitherEncoding.ofName name).mapError fun error => ⟨.config error, some place⟩
  | .table table =>
      match table.entries with
      | [(key, content)] =>
          match EitherEncoding.ofName key.name, content with
          | .error error, _ => .error ⟨.config error, some key.place⟩
          | .ok encoding, .table inner =>
              if inner.entries.isEmpty then .ok encoding
              else .error ⟨.notEmptyTable, inner.place.or table.place⟩
          | .ok _, other => .error ⟨.notTable other.kind, other.place.or table.place⟩
      | entries => .error ⟨.notOneElement entries.isEmpty, table.place⟩
  | other => .error ⟨.notStringOrTable, other.place⟩

/-- Sets the field of an entry. -/
def setEntry (config : Config) (key : Toml.Key) (value : Toml.Value) : Except EntryFault Config :=
  match key.name with
  | "check_syntactic_uses" => do
      return { config with checkSyntacticUses := ← boolOfToml value }
  | "check_captures" => do
      return { config with checkCaptures := ← boolOfToml value }
  | "either_encoding" => do
      return { config with eitherEncoding := ← encodingOfToml value }
  | name => .error ⟨.config (.unknownField name), some key.place⟩

/-- Reads a configuration from the text of a document. -/
def ofToml (source : String) : Except Toml.Fault Config := do
  let document ← Toml.documentOfText source
  let read := document.entries.foldlM (fun config (key, value) => setEntry config key value) {}
  read.mapError fun fault =>
    ⟨fault.error.message, (fault.place.or document.place).getD (.point 0)⟩

end Config

end ResultBuilder
