import ResultBuilder.Toml.Value

/-!
# Tables that grow

A key with several parts leads from a table through tables in it. Those that are missing on the way
are made; a value on the way that is no table is in conflict with the key.

Main statements: `find?_add` and `find?_set` (what is found after a change of one entry).
-/

namespace ResultBuilder.Toml

/-- Why something cannot be added to a table. -/
inductive Conflict where
  /-- The key is taken already, possibly in a table with a name. -/
  | duplicate (key : String) (table : Option (List String))
  /-- A part of a key is the key of a value that is no table. -/
  | notTable (parts : List String) (kind : String)
  deriving DecidableEq, Repr

/-- The conflict in words. -/
def Conflict.message : Conflict → String
  | .duplicate key none => s!"duplicate key `{key}`"
  | .duplicate key (some []) => s!"duplicate key `{key}` in document root"
  | .duplicate key (some table) =>
      s!"duplicate key `{key}` in table `" ++ String.intercalate "." table ++ "`"
  | .notTable parts kind =>
      "dotted key `" ++ String.intercalate "." parts ++
        s!"` attempted to extend non-table type ({kind})"

/-- Where a key with several parts stands. -/
inductive Passage where
  | header
  | assignment
  /-- In a table in braces. -/
  | braces
  deriving DecidableEq, Repr

namespace Passage

/-- The form of the tables that are made on the way. -/
def madeForm : Passage → TableForm
  | header => .outlined
  | assignment | braces => .dotted

/-- Whether the way leads through tables of a form. What is written in braces is complete outside of
them, and a table with a header is not open to keys outside of it. -/
def enters : Passage → TableForm → Bool
  | header, form => form ≠ .braces
  | assignment, form => form = .outlined || form = .dotted
  | braces, form => form = .braces || form = .dotted

end Passage

namespace Table

variable {α : Type}

/-- The value of a key. -/
def find? (table : Table α) (name : String) : Option α :=
  (table.entries.find? (·.1.name == name)).map (·.2)

/-- The table with a new entry at its end. -/
def add (table : Table α) (key : Key) (value : α) : Table α :=
  { table with entries := table.entries ++ [(key, value)] }

/-- The table with another value for a key that it has. -/
def set (table : Table α) (name : String) (value : α) : Table α :=
  { table with
    entries := table.entries.map fun entry =>
      if entry.1.name == name then (entry.1, value) else entry }

/-- The table without the entry of a key. -/
def erase (table : Table α) (name : String) : Table α :=
  { table with entries := table.entries.filter (·.1.name != name) }

/-- A new key is found with its value, and all other keys are found as before. -/
theorem find?_add (table : Table α) (key : Key) (value : α) (name : String)
    (isNew : table.find? key.name = none) :
    (table.add key value).find? name =
      if key.name = name then some value else table.find? name := by
  by_cases same : key.name = name
  · subst same
    have absent : table.entries.find? (·.1.name == key.name) = none := by
      simpa [find?] using isNew
    simp [find?, add, List.find?_append, absent]
  · simp [find?, add, List.find?_append, same]

/-- A key that is found has the value that was set last, and all other keys are found as before. -/
theorem find?_set (table : Table α) (name other : String) (value : α) :
    (table.set name value).find? other =
      if other = name then (table.find? name).map fun _ => value else table.find? other := by
  unfold find? set
  induction table.entries with
  | nil => simp
  | cons entry rest ih =>
      by_cases here : entry.1.name = name <;> by_cases wanted : other = name <;>
        by_cases found : entry.1.name = other <;> simp_all

/-- The place of a table grown by a value that is written after it. -/
def grown (table : Table α) (place : Option Span) : Table α :=
  match table.place, place with
  | some old, some new => { table with place := some ⟨old.start, new.stop⟩ }
  | _, _ => table

/-- Changes the table to which the parts of a key lead. -/
def alter (passage : Passage) (change : Table Value → Except Conflict (Table Value))
    (passed : List String) : List Key → Table Value → Except Conflict (Table Value)
  | [], table => change table
  | key :: rest, table =>
      let passed := passed ++ [key.name]
      match table.find? key.name with
      | none => do
          let made : Table Value := ⟨passage.madeForm, none, []⟩
          return table.add key (.table (← made.alter passage change passed rest))
      | some (.table inner) =>
          if passage.enters inner.form then do
            return table.set key.name (.table (← inner.alter passage change passed rest))
          else if inner.form = .braces then
            .error (.notTable passed (Value.table inner).kind)
          else .error (.duplicate key.name none)
      | some (.tables inner) =>
          match inner.getLast? with
          | none => .error (.duplicate key.name none)
          | some last => do
              let last ← last.alter passage change passed rest
              return table.set key.name (.tables (inner.dropLast ++ [last]))
      | some other => .error (.notTable passed other.kind)

end Table

end ResultBuilder.Toml
