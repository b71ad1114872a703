import ResultBuilder.Decimal.Binary64
import ResultBuilder.Source.Span

/-!
# Values of a document

Values that are written at one place know it. A table that is only known from longer keys has no
place, and the place of a list of tables reaches from its first table to its last one.
-/

namespace ResultBuilder.Toml

/-- A part of a key. -/
structure Key where
  /-- What the part says. -/
  name : String
  /-- Where it is written. -/
  place : Span
  deriving DecidableEq, Repr

/-- A value without parts. -/
inductive Scalar where
  | boolean (value : Bool)
  | integer (value : Int)
  /-- A number with a fraction or an exponent, by its sign and its size. -/
  | float (isNegative : Bool) (size : Binary64)
  | notANumber
  | string (value : String)
  /-- A date, a time or both. -/
  | moment
  deriving DecidableEq, Repr

/-- How a table came to be. -/
inductive TableForm where
  /-- It is written in braces. -/
  | braces
  /-- It has a header of its own, or is the whole document. -/
  | headed
  /-- It is known from the headers of tables in it. -/
  | outlined
  /-- It is known from keys with several parts. -/
  | dotted
  deriving DecidableEq, Repr

/-- A table with values of some type, in the order in which they were added. -/
structure Table (α : Type) where
  /-- How it came to be. -/
  form : TableForm
  /-- Where it is written, if it is written at one place. -/
  place : Option Span
  /-- Its keys with their values. -/
  entries : List (Key × α)
  deriving Repr

/-- A value. -/
inductive Value where
  | scalar (content : Scalar) (place : Span)
  | array (items : List Value) (place : Span)
  | table (content : Table Value)
  /-- Tables whose headers repeat a key. -/
  | tables (content : List (Table Value))

namespace Value

/-- The place from the start of the first table to the end of the last one. -/
def placeOfTables (tables : List (Table Value)) : Option Span := do
  return ⟨(← (← tables.head?).place).start, (← (← tables.getLast?).place).stop⟩

/-- Where a value is written, if it is written at one place. -/
def place : Value → Option Span
  | scalar _ place | array _ place => some place
  | table content => content.place
  | tables content => placeOfTables content

/-- What a value without parts is called. -/
def scalarKind : Scalar → String
  | .boolean _ => "boolean"
  | .integer _ => "integer"
  | .float _ _ | .notANumber => "float"
  | .string _ => "string"
  | .moment => "datetime"

/-- What a value is called. -/
def kind : Value → String
  | scalar content _ => scalarKind content
  | array _ _ => "array"
  | table content => if content.form = .braces then "inline table" else "table"
  | tables _ => "array of tables"

end Value

end ResultBuilder.Toml
