import ResultBuilder.Source.Span

/-!
# Boundaries of characters

Spans may be given from outside and need not fit a source. A span is clamped to one that lies within
the source and does not cut a character.
-/

namespace ResultBuilder

namespace Source

/-- The end of the last character that lies wholly within the first `offset` bytes. -/
def boundaryBelow (offset : Nat) (text : List Char) : Nat :=
  utf8Length (takeBytes offset text)

/-- The end of the first characters that cover the first `offset` bytes, or all characters. -/
def boundaryAbove (offset : Nat) : List Char → Nat
  | [] => 0
  | c :: rest =>
      if offset = 0 then 0 else c.utf8Size + boundaryAbove (offset - c.utf8Size) rest

/-- The boundary below an offset does not lie after it. -/
theorem boundaryBelow_le (offset : Nat) (text : List Char) :
    boundaryBelow offset text ≤ offset := by
  induction text generalizing offset with
  | nil => exact Nat.zero_le _
  | cons c rest ih =>
      unfold boundaryBelow takeBytes
      split
      · have := ih (offset - c.utf8Size)
        simp only [boundaryBelow] at this
        simp only [utf8Length]
        omega
      · exact Nat.zero_le _

/-- The boundary above an offset does not lie before it, as far as the text reaches. -/
theorem le_boundaryAbove (offset : Nat) (text : List Char) :
    min offset (utf8Length text) ≤ boundaryAbove offset text := by
  induction text generalizing offset with
  | nil => exact Nat.min_le_right _ _
  | cons c rest ih =>
      have := ih (offset - c.utf8Size)
      rw [boundaryAbove, utf8Length]
      split <;> omega

end Source

/-- The smallest span that lies within a source, begins and ends between characters and covers what
the span covers of the source. A span that ends before it starts counts as empty. -/
def Span.clamp (span : Span) (source : String) : Span :=
  ⟨Source.boundaryBelow span.start source.toList,
    Source.boundaryAbove (max span.start span.stop) source.toList⟩

end ResultBuilder
