import ResultBuilder.Host.Exhaustive
import ResultBuilder.Proofs.Diagnostic.Usable
import ResultBuilder.Proofs.Syntax.Reading.Statement

/-!
# Diagnostics about a program

The places of a diagnostic are usable when they are made from places of nodes of a program that was
read from a source. A diagnostic about missing cases is about one `switch` of the program, whose
closing brace is where it suggests to add them.

* **`Program.IsSound`**: all nodes of a program are sound in a source; so are their places.
* **`Diagnostic.IsAbout`**: a diagnostic about a program of a source.
-/

namespace ResultBuilder

open Syntax

/-! ### Nodes of a program -/

namespace Syntax

/-- **A sound program** of a source: all nodes of it are sound. -/
def Program.IsSound (source : List Char) (program : Program) : Prop :=
  ∀ node : Node, node.WithinProgram program → node.IsSound source

namespace Node.WithinProgram

variable {program : Program} {node part : Node} {source : List Char}

/-- A node within a node of a program is one of the program. -/
theorem within (inside : node.WithinProgram program) (within : part.Within node) :
    part.WithinProgram program := by
  obtain ⟨statement, member, outer⟩ := inside
  exact ⟨statement, member, within.trans outer⟩

/-- A child of a node of a program is one of the program. -/
theorem child (inside : node.WithinProgram program) (member : part ∈ node.children) :
    part.WithinProgram program :=
  inside.within (.child member (.self _))

/-- **The place of a node is usable.** -/
theorem isUsable (inside : node.WithinProgram program) (sound : program.IsSound source) :
    node.span.IsUsable source :=
  let placed := (sound node inside).placed
  Span.isUsable_of_boundaries placed.ordered placed.starts placed.stops

/-- From the start of a node to the end of a part of it. -/
theorem isUsable_upTo (inside : node.WithinProgram program) (sound : program.IsSound source)
    (member : part ∈ node.children) :
    (Span.mk node.span.start part.span.stop).IsUsable source := by
  have usable := (inside.child member).isUsable sound
  have starts := ((sound node inside).placed.inside part member).1
  exact (inside.isUsable sound).upTo usable (starts.trans usable.ordered)

end Node.WithinProgram

/-- A statement of a program is a node of it. -/
theorem Program.withinProgram_statement {program : Program} {statement : Statement}
    (member : statement ∈ program.statements) :
    (Node.statement statement).WithinProgram program :=
  ⟨statement, member, .self _⟩

end Syntax

/-! ### Diagnostics -/

/-- **A diagnostic that adds cases** to a `switch` of a program: it points at the `switch` up to the
end of its subject, and every suggestion inserts a text where the closing brace of the `switch`
stands. -/
def Diagnostic.AddsCases (source : List Char) (program : Program) (diagnostic : Diagnostic) :
    Prop :=
  ∃ (node : Switch) (brace : Nat), (Node.statement (.switch node)).WithinProgram program ∧
    node.span.stop = brace + 1 ∧ StandsAt source '}' brace ∧
    diagnostic.labels.map (·.span) = [⟨node.span.start, node.subject.span.stop⟩] ∧
    ∀ fixIt ∈ diagnostic.fixIts, ∃ text, fixIt.edits = [.insert brace text]

/-- **A diagnostic about a program** of a source. -/
structure Diagnostic.IsAbout (source : List Char) (program : Program) (diagnostic : Diagnostic) :
    Prop where
  usable : diagnostic.IsUsable source
  addsCases : diagnostic.code = DiagnosticCode.exhaustiveness.number →
    diagnostic.AddsCases source program

namespace Diagnostic

variable {source : List Char} {program : Program} {diagnostic : Diagnostic}

/-- A diagnostic that is not about missing cases. -/
theorem IsUsable.isAbout (code : DiagnosticCode) (usable : diagnostic.IsUsable source)
    (isCode : diagnostic.code = code.number) (other : code ≠ .exhaustiveness) :
    diagnostic.IsAbout source program := by
  refine ⟨usable, fun same => absurd ?_ other⟩
  have kinds := congrArg DiagnosticCode.ofNumber? (isCode.symm.trans same)
  rw [DiagnosticCode.ofNumber?_number, DiagnosticCode.ofNumber?_number] at kinds
  exact Option.some.inj kinds

theorem fixIts_withNote_basic (text : String) :
    (diagnostic.withNote (.basic text)).fixIts = diagnostic.fixIts := by
  simp [fixIts, withNote, Note.fixIt?]

/-- A remark without a place changes no places. -/
theorem IsAbout.withNote (about : diagnostic.IsAbout source program) (text : String) :
    (diagnostic.withNote (.basic text)).IsAbout source program where
  usable := ⟨about.usable.labels, by
    rw [fixIts_withNote_basic]
    exact about.usable.fixIts⟩
  addsCases same := by
    obtain ⟨node, brace, inside, ends, stands, labels, edits⟩ := about.addsCases same
    refine ⟨node, brace, inside, ends, stands, labels, ?_⟩
    rw [fixIts_withNote_basic]
    exact edits

end Diagnostic

end ResultBuilder
