import ResultBuilder.Collaborators

/-!
# Journals

What comes up on the way to a result, in order: diagnostics, questions to collaborators and events.
`Journaled` is a computation that keeps a journal and may fail; what was written before a failure
stays. Its outcome does not depend on its journal: `outcome_bind`.
-/

namespace ResultBuilder

/-- Something that came up. -/
inductive Entry where
  | reported (diagnostic : Diagnostic)
  | asked (question : Question)
  | happened (event : Event)

/-- What came up, in order. -/
abbrev Journal := List Entry

namespace Journal

/-- The diagnostics in a journal. -/
def diagnostics (journal : Journal) : List Diagnostic :=
  journal.filterMap fun
    | .reported diagnostic => some diagnostic
    | _ => none

/-- The questions in a journal. -/
def questions (journal : Journal) : List Question :=
  journal.filterMap fun
    | .asked question => some question
    | _ => none

/-- The events in a journal. -/
def events (journal : Journal) : List Event :=
  journal.filterMap fun
    | .happened event => some event
    | _ => none

@[simp] theorem diagnostics_append (front back : Journal) :
    diagnostics (front ++ back) = diagnostics front ++ diagnostics back :=
  List.filterMap_append

@[simp] theorem questions_append (front back : Journal) :
    questions (front ++ back) = questions front ++ questions back :=
  List.filterMap_append

@[simp] theorem events_append (front back : Journal) :
    events (front ++ back) = events front ++ events back :=
  List.filterMap_append

end Journal

/-- A result or a failure, with the journal of how it came about. -/
structure Journaled (ε α : Type) where
  /-- What came up. -/
  journal : Journal
  /-- The result, or why there is none. -/
  outcome : Except ε α

namespace Journaled

variable {ε α β : Type}

/-- A result about which there is nothing to write. -/
def pure (value : α) : Journaled ε α :=
  ⟨[], .ok value⟩

/-- Goes on with a result, after a failure not at all. -/
def bind (first : Journaled ε α) (next : α → Journaled ε β) : Journaled ε β :=
  match first.outcome with
  | .error error => ⟨first.journal, .error error⟩
  | .ok value => ⟨first.journal ++ (next value).journal, (next value).outcome⟩

instance : Monad (Journaled ε) where
  pure := Journaled.pure
  bind := Journaled.bind

/-- Writes entries. -/
def write (journal : Journal) : Journaled ε Unit :=
  ⟨journal, .ok ()⟩

/-- A result or failure about which there is nothing to write. -/
def ofExcept (outcome : Except ε α) : Journaled ε α :=
  ⟨[], outcome⟩

@[simp] theorem outcome_pure (value : α) : (Pure.pure value : Journaled ε α).outcome = .ok value :=
  rfl

@[simp] theorem journal_pure (value : α) : (Pure.pure value : Journaled ε α).journal = [] :=
  rfl

@[simp] theorem outcome_write (journal : Journal) :
    (write journal : Journaled ε Unit).outcome = .ok () :=
  rfl

@[simp] theorem outcome_ofExcept (outcome : Except ε α) : (ofExcept outcome).outcome = outcome :=
  rfl

/-- The outcome of two steps is that of their outcomes. -/
theorem outcome_bind (first : Journaled ε α) (next : α → Journaled ε β) :
    (first >>= next).outcome = first.outcome >>= fun value => (next value).outcome := by
  show (Journaled.bind first next).outcome = Except.bind first.outcome _
  unfold Journaled.bind Except.bind
  cases first.outcome <;> rfl

/-- A step that gives a result is followed by what the next step writes. -/
theorem journal_bind_of_ok {first : Journaled ε α} {value : α} (next : α → Journaled ε β)
    (ok : first.outcome = .ok value) :
    (first >>= next).journal = first.journal ++ (next value).journal := by
  show (Journaled.bind first next).journal = _
  simp [Journaled.bind, ok]

end Journaled

end ResultBuilder
