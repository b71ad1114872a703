import ResultBuilder.Text.Search
import ResultBuilder.Toml.Reader.Scalar
import ResultBuilder.Toml.Table

/-!
# Reading values and the lines of a document

A document is a list of statements: headers of tables, and keys with values.
-/

namespace ResultBuilder.Toml

/-- A statement of a document. Of its key, the part after the last dot is apart from the others. -/
inductive Statement where
  /-- The header of a table; a repeated one adds a table to a list of tables. -/
  | header (isRepeated : Bool) (parts : List Key) (last : Key) (place : Span)
  | assignment (parts : List Key) (last : Key) (value : Value)

namespace Reader

/-- A table in braces without entries. -/
def emptyBraces : Table Value :=
  ⟨.braces, none, []⟩

/-- Adds a value under a key to a table in braces. -/
def addField (table : Table Value) (parts : List Key) (last : Key) (value : Value) :
    Except Conflict (Table Value) :=
  table.alter .braces (fun inner =>
    if (inner.find? last.name).isSome then .error (.duplicate last.name none)
    else .ok (inner.add last value)) [] parts

mutual

/-- Reads a value. -/
def value (total : Nat) : Nat → List Char → Except Stop (Value × List Char)
  | 0, text => .error ⟨"invalid value", text⟩
  | fuel + 1, text =>
      match string? text with
      | some result => result.map fun (content, rest) =>
          (.scalar (.string (String.ofList content)) (place total text rest), rest)
      | none =>
          match text with
          | '[' :: inside => (items total fuel inside).map fun (content, rest) =>
              (.array content (place total text rest), rest)
          | '\x7b' :: inside => do
              let (content, rest) ← match afterSpaces inside with
                | '\x7d' :: rest => .ok (emptyBraces, rest)
                | inside => fields total fuel emptyBraces inside
              return (.table { content with place := some (place total text rest) }, rest)
          | _ =>
              match scalar? text with
              | some (content, rest) => .ok (.scalar content (place total text rest), rest)
              | none => .error ⟨"invalid value", text⟩

/-- Reads the items of an array, of which the opening bracket or a comma has been read. -/
def items (total : Nat) : Nat → List Char → Except Stop (List Value × List Char)
  | 0, text => .error ⟨"invalid array", text⟩
  | fuel + 1, text =>
      match afterBlanks false text with
      | ']' :: rest => .ok ([], rest)
      | text => do
          let (first, rest) ← value total fuel text
          match afterBlanks false rest with
          | ']' :: rest => return ([first], rest)
          | ',' :: rest =>
              let (others, rest) ← items total fuel rest
              return (first :: others, rest)
          | rest => throw ⟨"invalid array", rest⟩

/-- Reads the fields of a table in braces, of which the opening brace or a comma has been read. -/
def fields (total : Nat) :
    Nat → Table Value → List Char → Except Stop (Table Value × List Char)
  | 0, _, text => .error ⟨"invalid inline table", text⟩
  | fuel + 1, table, text => do
      let start := afterSpaces text
      let ((parts, last), rest) ← key total (text.length + 1) start
      match rest with
      | '=' :: rest =>
          let (first, rest) ← value total fuel (afterSpaces rest)
          let table ← (addField table parts last first).mapError fun conflict =>
            ⟨conflict.message, start⟩
          match afterSpaces rest with
          | '\x7d' :: rest => return (table, rest)
          | ',' :: rest => fields total fuel table rest
          | rest => throw ⟨"invalid inline table", rest⟩
      | rest => throw ⟨"expected `.`, `=`", rest⟩

end

/-- Reads a statement with the end of its line. -/
def statement (total : Nat) (text : List Char) : Except Stop (Statement × List Char) :=
  match text with
  | '[' :: inside => do
      let isRepeated := inside.head? == some '['
      let closing := if isRepeated then [']', ']'] else [']']
      let ((parts, last), rest) ←
        key total (text.length + 1) (afterSpaces (text.drop closing.length))
      match Text.after? closing rest with
      | none => throw ⟨"invalid table header", rest⟩
      | some rest =>
          return (.header isRepeated parts last (place total text rest), ← afterLine rest)
  | _ => do
      let ((parts, last), rest) ← key total (text.length + 1) text
      match rest with
      | '=' :: rest =>
          let (first, rest) ← value total (text.length + 1) (afterSpaces rest)
          return (.assignment parts last first, ← afterLine rest)
      | rest => throw ⟨"expected `.`, `=`", rest⟩

/-- Reads the statements of a document up to the first place where that is not possible. -/
def statements (total : Nat) : Nat → List Char → List Statement × Option Stop
  | 0, text => ([], some ⟨"invalid document", text⟩)
  | fuel + 1, text =>
      match afterBlanks false text with
      | [] => ([], none)
      | text =>
          match statement total text with
          | .error stop => ([], some stop)
          | .ok (first, rest) =>
              let (others, stop) := statements total fuel rest
              (first :: others, stop)

end Reader

end ResultBuilder.Toml
