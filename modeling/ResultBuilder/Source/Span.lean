import ResultBuilder.Source.Offset

/-!
# Spans

A span is a range of byte offsets into the source that a node, a token or a diagnostic comes from.
Nothing keeps a span from being reversed: spans may be given from outside.
-/

namespace ResultBuilder

/-- A range of byte offsets into a source, the end excluded. -/
structure Span where
  /-- The offset of the first byte. -/
  start : Nat
  /-- The offset after the last byte. -/
  stop : Nat
  deriving DecidableEq, Repr, Inhabited

namespace Span

/-- The empty span at an offset, where something could be inserted. -/
def point (offset : Nat) : Span :=
  ⟨offset, offset⟩

/-- Whether a span covers no byte. -/
def isEmpty (span : Span) : Bool :=
  decide (span.stop ≤ span.start)

/-- The smallest span that covers two spans. -/
def merge (left right : Span) : Span :=
  ⟨min left.start right.start, max left.stop right.stop⟩

/-- The line on which a span starts, counted from one. -/
def line (span : Span) (source : String) : Nat :=
  (Source.before span.start source).count '\n' + 1

/-- The column at which a span starts: its place in characters within the line, from one. The
program only asks for it between two characters. It would stop inside one, which is taken here for
the start of that character. -/
def column (span : Span) (source : String) : Nat :=
  ((Source.before span.start source).reverse.takeWhile (· ≠ '\n')).length + 1

/-- The text of a span: its two offsets with dots between them. -/
def text (span : Span) : String :=
  s!"{span.start}..{span.stop}"

@[simp] theorem merge_start (left right : Span) :
    (left.merge right).start = min left.start right.start := rfl

@[simp] theorem merge_stop (left right : Span) :
    (left.merge right).stop = max left.stop right.stop := rfl

theorem merge_comm (left right : Span) : left.merge right = right.merge left := by
  simp only [merge, Nat.min_comm, Nat.max_comm]

theorem merge_assoc (left middle right : Span) :
    (left.merge middle).merge right = left.merge (middle.merge right) := by
  simp only [merge, Nat.min_assoc, Nat.max_assoc]

end Span

end ResultBuilder
