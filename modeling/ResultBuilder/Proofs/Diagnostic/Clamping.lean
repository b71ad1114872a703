import Mathlib.Order.Bounds.Basic
import ResultBuilder.Diagnostic.Report
import ResultBuilder.Proofs.Diagnostic.Usable

/-!
# Places that are shown

A place that is reported may come from outside: it may end before it starts, reach beyond the source
or cut a character. What is shown of the source is the usable place around it. Each of its ends is
the boundary of characters next to an end of the given place, and is also where a walk ends that
looks for a boundary one byte after the other.

* **`Source.isGreatest_boundaryBelow`**, **`Source.isLeast_boundaryAbove`**: the boundaries next to
  an offset.
* **`Source.WalksDown`**, **`Source.WalksUp`**: the walks to a boundary.
* **`Span.clamp_covers`**: what is shown is usable and covers what the place covers of the source.
-/

namespace ResultBuilder

open Source (utf8Length)
open Syntax (OnBoundary)

/-! ### Boundaries next to an offset -/

/-- The boundaries of a text are its start and those behind its first character. -/
theorem Syntax.onBoundary_cons_iff {c : Char} {rest : List Char} {offset : Nat} :
    OnBoundary (c :: rest) offset ↔
      offset = 0 ∨ ∃ behind, OnBoundary rest behind ∧ offset = c.utf8Size + behind := by
  constructor
  · rintro ⟨front, back, cut, rfl⟩
    cases front with
    | nil => exact .inl rfl
    | cons first more =>
        obtain ⟨rfl, rfl⟩ := List.cons.inj cut
        exact .inr ⟨_, ⟨more, back, rfl, rfl⟩, rfl⟩
  · rintro (rfl | ⟨_, ⟨front, back, rfl, rfl⟩, rfl⟩)
    · exact ⟨[], _, rfl, rfl⟩
    · exact ⟨c :: front, back, rfl, rfl⟩

namespace Source

variable {text : List Char} {offset found : Nat}

/-- **The boundary below an offset** is the last one that does not lie after it. -/
theorem isGreatest_boundaryBelow (offset : Nat) (text : List Char) :
    IsGreatest {boundary | OnBoundary text boundary ∧ boundary ≤ offset}
      (boundaryBelow offset text) := by
  refine ⟨⟨⟨_, _, (takeBytes_append_dropBytes offset text).symm, rfl⟩,
    boundaryBelow_le offset text⟩, ?_⟩
  intro boundary ⟨onBoundary, within⟩
  induction text generalizing offset boundary with
  | nil => exact onBoundary.le
  | cons c rest ih =>
      obtain rfl | ⟨behind, isBehind, rfl⟩ := Syntax.onBoundary_cons_iff.mp onBoundary
      · exact Nat.zero_le _
      · -- a boundary behind the first character leaves room for that character
        have fits : c.utf8Size ≤ offset := by omega
        have below := ih (offset - c.utf8Size) isBehind (by omega)
        rw [boundaryBelow, takeBytes, if_pos fits]
        exact Nat.add_le_add_left below _

/-- The boundary above an offset is one. -/
theorem onBoundary_boundaryAbove (offset : Nat) (text : List Char) :
    OnBoundary text (boundaryAbove offset text) := by
  induction text generalizing offset with
  | nil => exact ⟨[], [], rfl, rfl⟩
  | cons c rest ih =>
      rw [boundaryAbove, Syntax.onBoundary_cons_iff]
      by_cases atStart : offset = 0
      · exact .inl (if_pos atStart)
      · exact .inr ⟨_, ih _, if_neg atStart⟩

/-- **The boundary above an offset** is the first one that does not lie before it, or the end of the
text. -/
theorem isLeast_boundaryAbove (offset : Nat) (text : List Char) :
    IsLeast {boundary | OnBoundary text boundary ∧ min offset (utf8Length text) ≤ boundary}
      (boundaryAbove offset text) := by
  refine ⟨⟨onBoundary_boundaryAbove offset text, le_boundaryAbove offset text⟩, ?_⟩
  intro boundary ⟨onBoundary, within⟩
  induction text generalizing offset boundary with
  | nil => exact Nat.zero_le _
  | cons c rest ih =>
      rw [boundaryAbove]
      by_cases atStart : offset = 0
      · rw [if_pos atStart]
        exact Nat.zero_le _
      · have size := c.utf8Size_pos
        rw [if_neg atStart]
        rw [utf8Length] at within
        obtain rfl | ⟨behind, isBehind, rfl⟩ := Syntax.onBoundary_cons_iff.mp onBoundary
        · -- the start is no boundary above an offset behind it
          omega
        · have above := ih (offset - c.utf8Size) isBehind (by omega)
          exact Nat.add_le_add_left above _

/-! ### Walking to a boundary -/

/-- **A walk down**, one byte after the other, that ends at the first boundary. There is no step
below the start of the text. -/
inductive WalksDown (text : List Char) : Nat → Nat → Prop
  /-- It ends at a boundary. -/
  | here {offset : Nat} (boundary : OnBoundary text offset) : WalksDown text offset offset
  /-- It goes on within a character. -/
  | down {offset found : Nat} (inside : ¬ OnBoundary text (offset + 1))
      (further : WalksDown text offset found) : WalksDown text (offset + 1) found

/-- **A walk up**, one byte after the other, that ends at the first boundary. -/
inductive WalksUp (text : List Char) : Nat → Nat → Prop
  /-- It ends at a boundary. -/
  | here {offset : Nat} (boundary : OnBoundary text offset) : WalksUp text offset offset
  /-- It goes on within a character. -/
  | up {offset found : Nat} (inside : ¬ OnBoundary text offset)
      (further : WalksUp text (offset + 1) found) : WalksUp text offset found

/-- A walk down ends at the last boundary that does not lie after its start. -/
theorem WalksDown.of_isGreatest
    (greatest : IsGreatest {boundary | OnBoundary text boundary ∧ boundary ≤ offset} found) :
    WalksDown text offset found := by
  obtain ⟨⟨boundary, below⟩, largest⟩ := greatest
  induction below with
  | refl => exact .here boundary
  | @step offset below ih =>
      have inside : ¬ OnBoundary text (offset + 1) := by
        intro nearer
        have further : offset + 1 ≤ found := largest ⟨nearer, Nat.le_refl _⟩
        exact Nat.not_succ_le_self _ (further.trans below)
      exact .down inside (ih fun other ⟨isBoundary, before⟩ => largest ⟨isBoundary, before.step⟩)

/-- A walk up ends at the first boundary that does not lie before its start. -/
theorem WalksUp.of_isLeast
    (least : IsLeast {boundary | OnBoundary text boundary ∧ offset ≤ boundary} found) :
    WalksUp text offset found := by
  obtain ⟨⟨boundary, above⟩, smallest⟩ := least
  obtain ⟨steps, rfl⟩ := Nat.exists_eq_add_of_le above
  induction steps generalizing offset with
  | zero => exact .here boundary
  | succ steps ih =>
      have inside : ¬ OnBoundary text offset := by
        intro nearer
        have : offset + (steps + 1) ≤ offset := smallest ⟨nearer, Nat.le_refl _⟩
        omega
      have same : offset + (steps + 1) = offset + 1 + steps := by omega
      rw [same] at boundary smallest ⊢
      refine .up inside (ih ?_ boundary (Nat.le_add_right _ _))
      intro other ⟨isBoundary, after⟩
      exact smallest ⟨isBoundary, Nat.le_of_succ_le after⟩

end Source

/-! ### What is shown -/

namespace Span

variable (source : String) (span : Span)

/-- The start of what is shown is the last boundary that does not lie after the start of the place
or the end of the source. -/
theorem isGreatest_start_clamp :
    IsGreatest {boundary | OnBoundary source.toList boundary ∧
      boundary ≤ min span.start (utf8Length source.toList)} (span.clamp source).start := by
  obtain ⟨⟨boundary, below⟩, largest⟩ :=
    Source.isGreatest_boundaryBelow span.start source.toList
  refine ⟨⟨boundary, Nat.le_min.mpr ⟨below, boundary.le⟩⟩, ?_⟩
  intro other ⟨isBoundary, within⟩
  exact largest ⟨isBoundary, within.trans (Nat.min_le_left _ _)⟩

/-- The end of what is shown is the first boundary that does not lie before both ends of the place,
as far as they lie within the source. -/
theorem isLeast_stop_clamp :
    IsLeast {boundary | OnBoundary source.toList boundary ∧
      max (min span.start (utf8Length source.toList)) (min span.stop (utf8Length source.toList)) ≤
        boundary} (span.clamp source).stop := by
  rw [← Nat.min_max_distrib_right]
  exact Source.isLeast_boundaryAbove (max span.start span.stop) source.toList

/-- **What is shown is usable.** -/
theorem isUsable_clamp : (span.clamp source).IsUsable source.toList := by
  obtain ⟨⟨starts, below⟩, -⟩ := span.isGreatest_start_clamp source
  obtain ⟨⟨stops, above⟩, -⟩ := span.isLeast_stop_clamp source
  exact isUsable_of_boundaries (by omega) starts stops

/-- **A usable place is shown as it is.** -/
theorem IsUsable.clamp_eq {source : String} {span : Span} (usable : span.IsUsable source.toList) :
    span.clamp source = span := by
  obtain ⟨ordered, within, starts, stops⟩ := usable
  obtain ⟨⟨-, below⟩, largest⟩ := span.isGreatest_start_clamp source
  obtain ⟨⟨-, above⟩, smallest⟩ := span.isLeast_stop_clamp source
  have start := largest ⟨starts, by omega⟩
  have stop := smallest ⟨stops, by omega⟩
  rw [Span.mk.injEq]
  omega

/-- **Of any place a usable one is shown**, which covers what the place covers of the source: its
ends are those of a walk down from the start of the place and of a walk up from its end, both taken
within the source. A place that is usable is shown as it is. -/
theorem clamp_covers :
    let text := source.toList
    let shown := span.clamp source
    let start := min span.start (utf8Length text)
    let stop := max start (min span.stop (utf8Length text))
    Source.WalksDown text start shown.start ∧ Source.WalksUp text stop shown.stop ∧
      shown.start ≤ shown.stop ∧ shown.stop ≤ utf8Length text ∧
      OnBoundary text shown.start ∧ OnBoundary text shown.stop ∧
      (∀ offset, span.start ≤ offset → offset < span.stop → offset < utf8Length text →
        shown.start ≤ offset ∧ offset < shown.stop) ∧
      (span.start ≤ span.stop → OnBoundary text span.start → OnBoundary text span.stop →
        shown = span) := by
  intro text shown start stop
  have greatest := span.isGreatest_start_clamp source
  have least := span.isLeast_stop_clamp source
  have usable := span.isUsable_clamp source
  refine ⟨.of_isGreatest greatest, .of_isLeast least, usable.ordered, usable.within, usable.starts,
    usable.stops, ?_, ?_⟩
  · intro offset behindStart beforeStop inside
    have below : shown.start ≤ start := greatest.1.2
    have above : stop ≤ shown.stop := least.1.2
    omega
  · intro ordered starts stops
    exact (isUsable_of_boundaries ordered starts stops).clamp_eq

/-- A place that ends before it starts, both within a letter of two bytes: the letter is shown. -/
example : (Span.mk 2 1).clamp "aéb" = ⟨1, 3⟩ := by decide

end Span

/-- **A report points at a place between characters** of the source, whatever the places of the
diagnostic. -/
theorem Diagnostic.isUsable_location {diagnostic : Diagnostic} {source : String} {place : Span}
    (located : diagnostic.location? source = some place) : place.IsUsable source.toList := by
  obtain ⟨offset, isMin, rfl⟩ := Option.map_eq_some_iff.mp located
  obtain ⟨given, -, rfl⟩ := List.mem_map.mp (List.min?_mem isMin)
  exact (given.isUsable_clamp source).pointStart

end ResultBuilder
