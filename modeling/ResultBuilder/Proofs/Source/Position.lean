import Mathlib.Data.Prod.Lex
import Mathlib.Order.Monotone.Basic
import ResultBuilder.Proofs.Syntax.Layout

/-!
# Lines and columns

The line and the column of a place in a source say the same as its offset. Every further character
moves the place on: a line feed to the next line, any other character to the next column of its line.
Places are therefore in the order of their lines and, on one line, of their columns, however many
bytes the characters have.

* **`Source.positionAfter`**, **`Source.positionAfter_lt_append`**: the line and the column behind a
  text, and that more text moves them on.
* **`Span.strictMonoOn_position`**: they grow with the offset.
* **`Span.start_lt_iff_position_lt`**: they identify the offset.
-/

namespace ResultBuilder

open Source (utf8Length)
open Syntax (OnBoundary)

namespace Source

/-! ### Behind a text -/

/-- The line and the column behind a text, counted from one and ordered line by line. -/
def positionAfter (text : List Char) : ℕ ×ₗ ℕ :=
  toLex (text.count '\n' + 1, (text.reverse.takeWhile (· ≠ '\n')).length + 1)

/-- A line feed leads to the first column of the next line. -/
theorem positionAfter_lineFeed (front : List Char) :
    positionAfter (front ++ ['\n']) = toLex (front.count '\n' + 2, 1) := by
  simp [positionAfter]

/-- Any other character leads to the next column. -/
theorem positionAfter_of_ne {c : Char} (other : c ≠ '\n') (front : List Char) :
    positionAfter (front ++ [c]) =
      toLex (front.count '\n' + 1, (front.reverse.takeWhile (· ≠ '\n')).length + 2) := by
  simp [positionAfter, other]

/-- **One more character moves the place on.** -/
theorem positionAfter_lt_append_singleton (front : List Char) (c : Char) :
    positionAfter front < positionAfter (front ++ [c]) := by
  by_cases isLineFeed : c = '\n'
  · rw [isLineFeed, positionAfter_lineFeed, positionAfter, Prod.Lex.toLex_lt_toLex]
    exact .inl (Nat.lt_succ_self _)
  · rw [positionAfter_of_ne isLineFeed, positionAfter, Prod.Lex.toLex_lt_toLex]
    exact .inr ⟨rfl, Nat.lt_succ_self _⟩

/-- **More text moves the place on**, character by character. -/
theorem positionAfter_lt_append (front : List Char) {more : List Char} (some : more ≠ []) :
    positionAfter front < positionAfter (front ++ more) := by
  induction more generalizing front with
  | nil => exact absurd rfl some
  | cons c rest ih =>
      have step := positionAfter_lt_append_singleton front c
      rw [List.append_cons]
      cases rest with
      | nil => rwa [List.append_nil]
      | cons next rest => exact step.trans (ih (front ++ [c]) (List.cons_ne_nil _ _))

end Source

/-! ### In a source -/

namespace Span

/-- The line and the column on which a span starts, ordered line by line. -/
def position (span : Span) (source : String) : ℕ ×ₗ ℕ :=
  toLex (span.line source, span.column source)

theorem position_eq_positionAfter (span : Span) (source : String) :
    span.position source = Source.positionAfter (Source.before span.start source) := rfl

/-- **Lines and columns grow with the offset**, from one boundary of characters to the next. -/
theorem strictMonoOn_position (source : String) :
    StrictMonoOn (fun offset => (Span.point offset).position source)
      {offset | OnBoundary source.toList offset} := by
  rintro _ ⟨front, back, whole, rfl⟩ _ ⟨longer, rest, wholeToo, rfl⟩ less
  have first : Source.before (utf8Length front) source = front := by
    rw [Source.before, whole, Source.takeBytes_utf8Length_append]
  have second : Source.before (utf8Length longer) source = longer := by
    rw [Source.before, wholeToo, Source.takeBytes_utf8Length_append]
  -- both are fronts of the source, and the one with fewer bytes is a front of the other
  obtain ⟨more, rfl, -⟩ | ⟨more, rfl, -⟩ := List.append_eq_append_iff.mp (whole.symm.trans wholeToo)
  · have some : more ≠ [] := by
      rintro rfl
      rw [List.append_nil] at less
      exact Nat.lt_irrefl _ less
    simpa only [position_eq_positionAfter, point, first, second] using
      Source.positionAfter_lt_append front some
  · rw [Source.utf8Length_append] at less
    omega

/-- A source has one line more than line feeds. -/
theorem line_le (span : Span) (source : String) :
    span.line source ≤ source.toList.count '\n' + 1 := by
  have parts := Source.takeBytes_append_dropBytes span.start source.toList
  have count := congrArg (List.count '\n') parts
  rw [List.count_append] at count
  rw [line, Source.before]
  omega

/-- **The line and the column identify a place**: of two places between characters of a source, the
first lies before the second exactly when its line comes first, or its column does on the same line.
Places with the same line and column are the same, and there are as many lines as line feeds, and
one more. -/
theorem start_lt_iff_position_lt (source : String) {first second : Span}
    (firstStarts : OnBoundary source.toList first.start)
    (secondStarts : OnBoundary source.toList second.start) :
    (first.start < second.start ↔
        toLex (first.line source, first.column source) <
          toLex (second.line source, second.column source)) ∧
      (first.line source = second.line source → first.column source = second.column source →
        first.start = second.start) ∧
      1 ≤ first.line source ∧ first.line source ≤ source.toList.count '\n' + 1 := by
  have grows := strictMonoOn_position source
  refine ⟨(grows.lt_iff_lt firstStarts secondStarts).symm, fun sameLine sameColumn => ?_,
    Nat.le_add_left _ _, first.line_le source⟩
  refine grows.injOn firstStarts secondStarts ?_
  show toLex (first.line source, first.column source) =
    toLex (second.line source, second.column source)
  rw [sameLine, sameColumn]

/-- Behind a letter of two bytes and at the end of the source, which is on an empty last line. -/
theorem start_lt_iff_position_lt_accented :
    let source := "é\nb\n"
    let behindLetter : Span := ⟨2, 2⟩
    let atEnd : Span := ⟨5, 5⟩
    OnBoundary source.toList behindLetter.start ∧ OnBoundary source.toList atEnd.start ∧
      (behindLetter.line source, behindLetter.column source) = (1, 2) ∧
      (atEnd.line source, atEnd.column source) = (3, 1) ∧
      toLex (behindLetter.line source, behindLetter.column source) <
        toLex (atEnd.line source, atEnd.column source) := by
  intro source behindLetter atEnd
  have letterStarts : OnBoundary source.toList behindLetter.start :=
    ⟨['é'], ['\n', 'b', '\n'], by decide, by decide⟩
  have endStarts : OnBoundary source.toList atEnd.start :=
    ⟨['é', '\n', 'b', '\n'], [], by decide, by decide⟩
  obtain ⟨inOrder, -⟩ := start_lt_iff_position_lt source letterStarts endStarts
  exact ⟨letterStarts, endStarts, by decide, by decide, inOrder.mp (by decide)⟩

end Span

end ResultBuilder
