import ResultBuilder.Diagnostic.Basic
import ResultBuilder.Proofs.Syntax.Layout

/-!
# Usable places

A place that is reported about a source can be used when it is a place in that source: it does not
end before it starts, and it starts and ends between characters. Then an edit of the place replaces
just what stands there, and its column counts the characters in front of it.

* **`Span.IsUsable`**, **`Span.Cuts`**, **`Span.IsUsable.exists_cuts`**: what a usable place is
  and what it is good for.
* **`Edit.apply_replace`**: what an edit makes of a text that is cut into three parts.
* **`Diagnostic.IsUsable`**: all places of a diagnostic are usable.
-/

namespace ResultBuilder

open Source (utf8Length)
open Syntax (OnBoundary)

/-! ### Spans -/

/-- **A usable span** of a source. -/
structure Span.IsUsable (source : List Char) (span : Span) : Prop where
  /-- It does not end before it starts. -/
  ordered : span.start ≤ span.stop
  /-- It lies within the source. -/
  within : span.stop ≤ utf8Length source
  /-- It starts between characters. -/
  starts : OnBoundary source span.start
  /-- It ends between characters. -/
  stops : OnBoundary source span.stop

/-- **A span cuts a source into three parts**: an edit of the span replaces the middle one, and the
column of the span counts the characters of the front one that are on its last line. -/
structure Span.Cuts (source : String) (span : Span) (front middle back : List Char) : Prop where
  whole : source.toList = front ++ (middle ++ back)
  start : utf8Length front = span.start
  stop : utf8Length (front ++ middle) = span.stop
  apply (replacement : String) : (Edit.replace span replacement).apply source =
    String.ofList front ++ replacement ++ String.ofList back
  column : span.column source = (front.reverse.takeWhile (· ≠ '\n')).length + 1

/-- **A boundary behind the front of a text** cuts what is behind the front. -/
theorem Syntax.OnBoundary.exists_behind {text front rest : List Char} {offset : Nat}
    (boundary : OnBoundary text offset) (whole : text = front ++ rest)
    (behind : utf8Length front ≤ offset) :
    ∃ middle back, rest = middle ++ back ∧ utf8Length (front ++ middle) = offset := by
  obtain ⟨upTo, back, cut, same⟩ := boundary
  rw [whole] at cut
  -- both are fronts of the text, and the longer one is the one that ends later
  obtain ⟨middle, rfl, rfl⟩ | ⟨more, rfl, rfl⟩ := List.append_eq_append_iff.mp cut
  · exact ⟨middle, back, rfl, same⟩
  · have none : utf8Length more = 0 := by
      rw [Source.utf8Length_append] at behind
      omega
    obtain rfl := Syntax.Lexer.utf8Length_eq_zero.mp none
    exact ⟨[], rest, rfl, by simpa using same⟩

/-- **An edit replaces the middle** of a text that is cut into three parts. -/
theorem Edit.apply_replace {text : String} {span : Span} {front middle back : List Char}
    (whole : text.toList = front ++ (middle ++ back)) (start : utf8Length front = span.start)
    (stop : utf8Length (front ++ middle) = span.stop) (replacement : String) :
    (Edit.replace span replacement).apply text =
      String.ofList front ++ replacement ++ String.ofList back := by
  have ordered : span.start ≤ span.stop := by
    rw [← start, ← stop, Source.utf8Length_append]
    exact Nat.le_add_right _ _
  show String.ofList (Source.takeBytes span.start _) ++ replacement ++
    String.ofList (Source.dropBytes (max span.start span.stop) _) = _
  rw [Nat.max_eq_right ordered, ← start, ← stop, whole, Source.takeBytes_utf8Length_append,
    ← List.append_assoc, Source.dropBytes_utf8Length_append]

namespace Span

variable {source : List Char} {first second span : Span}

theorem isUsable_of_boundaries (ordered : span.start ≤ span.stop)
    (starts : OnBoundary source span.start) (stops : OnBoundary source span.stop) :
    span.IsUsable source :=
  ⟨ordered, stops.le, starts, stops⟩

/-- An empty place between characters. -/
theorem isUsable_point {offset : Nat} (boundary : OnBoundary source offset) :
    (Span.point offset).IsUsable source :=
  isUsable_of_boundaries (Nat.le_refl _) boundary boundary

namespace IsUsable

/-- The place in front of a usable one. -/
theorem pointStart (usable : span.IsUsable source) : (Span.point span.start).IsUsable source :=
  isUsable_point usable.starts

/-- The place behind a usable one. -/
theorem pointStop (usable : span.IsUsable source) : (Span.point span.stop).IsUsable source :=
  isUsable_point usable.stops

/-- From the start of one place to the end of another. -/
theorem upTo (starts : first.IsUsable source) (stops : second.IsUsable source)
    (ordered : first.start ≤ second.stop) : (Span.mk first.start second.stop).IsUsable source :=
  isUsable_of_boundaries ordered starts.starts stops.stops

/-- From the start of one place to the start of another. -/
theorem before (starts : first.IsUsable source) (stops : second.IsUsable source)
    (ordered : first.start ≤ second.start) : (Span.mk first.start second.start).IsUsable source :=
  isUsable_of_boundaries ordered starts.starts stops.starts

/-- What covers two usable places is usable. -/
theorem merge (left : first.IsUsable source) (right : second.IsUsable source) :
    (first.merge second).IsUsable source := by
  refine isUsable_of_boundaries ?_ ?_ ?_
  · exact Nat.le_trans (Nat.min_le_left _ _)
      (Nat.le_trans left.ordered (Nat.le_max_left _ _))
  · show OnBoundary source (min _ _)
    rcases Nat.le_total first.start second.start with before | after
    · rw [Nat.min_eq_left before]
      exact left.starts
    · rw [Nat.min_eq_right after]
      exact right.starts
  · show OnBoundary source (max _ _)
    rcases Nat.le_total first.stop second.stop with before | after
    · rw [Nat.max_eq_right before]
      exact right.stops
    · rw [Nat.max_eq_left after]
      exact left.stops

/-- **A usable span cuts its source** between characters. -/
theorem exists_cuts {source : String} (usable : span.IsUsable source.toList) :
    ∃ front middle back, span.Cuts source front middle back := by
  obtain ⟨front, rest, cutStart, start⟩ := usable.starts
  obtain ⟨middle, back, rfl, stop⟩ :=
    usable.stops.exists_behind cutStart (start ▸ usable.ordered)
  refine ⟨front, middle, back, cutStart, start, stop, Edit.apply_replace cutStart start stop, ?_⟩
  rw [Span.column, Source.before, cutStart, ← start, Source.takeBytes_utf8Length_append]

end IsUsable

end Span

/-! ### Diagnostics -/

/-- **A suggestion with usable places**: what it is about and what it changes. -/
structure FixIt.IsUsable (source : List Char) (fixIt : FixIt) : Prop where
  span : fixIt.span.IsUsable source
  edits : ∀ edit ∈ fixIt.edits, edit.span.IsUsable source

/-- A suggestion that consists of one edit. -/
theorem FixIt.isUsable_of_edit {source : List Char} {message : String} {place : Span} {edit : Edit}
    (about : place.IsUsable source) (changes : edit.span.IsUsable source) :
    (FixIt.mk message place [edit]).IsUsable source :=
  ⟨about, List.forall_mem_singleton.mpr changes⟩

/-- **A diagnostic with usable places**: those of its labels and those of its suggestions. -/
structure Diagnostic.IsUsable (source : List Char) (diagnostic : Diagnostic) : Prop where
  labels : ∀ label ∈ diagnostic.labels, label.span.IsUsable source
  fixIts : ∀ fixIt ∈ diagnostic.fixIts, fixIt.IsUsable source

end ResultBuilder
