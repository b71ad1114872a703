import ResultBuilder.Toml.Fault
import ResultBuilder.Toml.Reader

/-!
# Documents

A document is a table. Its statements add to it one after the other: a header opens a table, to
which the values after it belong.
-/

namespace ResultBuilder.Toml

/-- What the statements of a document up to one of them amount to. -/
structure Draft where
  /-- The document. -/
  root : Table Value
  /-- The key of the table that is open. -/
  header : List Key

namespace Draft

/-- The document without statements. -/
def empty : Draft :=
  ⟨⟨.headed, some (.point 0), []⟩, []⟩

/-- The table of a header in the table around it. Such a table may be known already from headers of
tables in it, but not from a header of its own. It comes after all others, under the key that is
written last. -/
def openedIn (last : Key) (place : Span) (duplicate : Conflict) (parent : Table Value) :
    Except Conflict (Table Value) :=
  match parent.find? last.name with
  | none => .ok (parent.add last (.table ⟨.headed, some place, []⟩))
  | some (.table inner) =>
      if inner.form = .outlined then
        .ok ((parent.erase last.name).add last
          (.table { inner with form := .headed, place := some place }))
      else .error duplicate
  | some _ => .error duplicate

/-- The table of a repeated header in the table around it, as the last of a list of tables. -/
def repeatedIn (last : Key) (place : Span) (duplicate : Conflict) (parent : Table Value) :
    Except Conflict (Table Value) :=
  let opened : Table Value := ⟨.headed, some place, []⟩
  match parent.find? last.name with
  | none => .ok (parent.add last (.tables [opened]))
  | some (.tables others) => .ok (parent.set last.name (.tables (others ++ [opened])))
  | some _ => .error duplicate

/-- The table that is open with a value under a key. -/
def assignedIn (header : List Key) (parts : List Key) (last : Key) (value : Value)
    (table : Table Value) : Except Conflict (Table Value) := do
  let changed ← table.alter .assignment (fun inner =>
    if !parts.isEmpty && inner.form ≠ .dotted then .error (.duplicate last.name none)
    else if (inner.find? last.name).isSome then
      .error (.duplicate last.name (some (header.map (·.name))))
    else .ok (inner.add last value)) [] parts
  return changed.grown value.place

/-- What the statements amount to after one more of them. -/
def obey (draft : Draft) : Statement → Except Conflict Draft
  | .header isRepeated parts last place => do
      let duplicate := Conflict.duplicate last.name (some (parts.map (·.name)))
      let change := if isRepeated then repeatedIn else openedIn
      let root ← draft.root.alter .header (change last place duplicate) [] parts
      return ⟨root, parts ++ [last]⟩
  | .assignment parts last value => do
      let change := assignedIn draft.header parts last value
      return { draft with root := ← draft.root.alter .header change [] draft.header }

end Draft

/-- Where a statement starts. -/
def Statement.start : Statement → Nat
  | .header _ _ _ place => place.start
  | .assignment parts last _ => (parts.headD last).place.start

/-- The text without the mark of the order of bytes at its start. -/
def withoutByteOrderMark : List Char → List Char
  | '\ufeff' :: rest => rest
  | text => text

/-- Reads a document. -/
def documentOfText (source : String) : Except Fault (Table Value) := do
  let text := source.toList
  let total := Source.utf8Length text
  let (statements, stop) :=
    Reader.statements total (text.length + 1) (withoutByteOrderMark text)
  let draft ← statements.foldlM (fun draft (statement : Statement) =>
    (draft.obey statement).mapError fun conflict =>
      ⟨conflict.message, .point statement.start⟩) Draft.empty
  match stop with
  | none => return draft.root
  | some stop => throw ⟨stop.message, .point (total - Source.utf8Length stop.rest)⟩

end ResultBuilder.Toml
