/-!
# Byte offsets into a text

Positions in a source are byte offsets into its UTF-8 form, while the text itself is handled as a
list of characters. This module counts bytes and cuts a text at an offset.

Main statements: `takeBytes_append_dropBytes` (cutting loses nothing) and
`utf8Length_append`.
-/

namespace ResultBuilder.Source

/-- The number of bytes of the UTF-8 form of a text. -/
def utf8Length : List Char → Nat
  | [] => 0
  | c :: rest => c.utf8Size + utf8Length rest

/-- The characters that lie wholly within the first `count` bytes. -/
def takeBytes : Nat → List Char → List Char
  | _, [] => []
  | count, c :: rest =>
      if c.utf8Size ≤ count then c :: takeBytes (count - c.utf8Size) rest else []

/-- What is left when the characters within the first `count` bytes are taken away. -/
def dropBytes : Nat → List Char → List Char
  | _, [] => []
  | count, c :: rest =>
      if c.utf8Size ≤ count then dropBytes (count - c.utf8Size) rest else c :: rest

/-- The characters between two byte offsets. -/
def sliceBytes (start stop : Nat) (text : List Char) : List Char :=
  takeBytes (stop - start) (dropBytes start text)

/-- The characters before a byte offset. -/
def before (offset : Nat) (text : String) : List Char :=
  takeBytes offset text.toList

@[simp] theorem utf8Length_append (front back : List Char) :
    utf8Length (front ++ back) = utf8Length front + utf8Length back := by
  induction front with
  | nil => simp [utf8Length]
  | cons c rest ih => simp [utf8Length, ih, Nat.add_assoc]

/-- Cutting a text at an offset loses nothing. -/
theorem takeBytes_append_dropBytes (count : Nat) (text : List Char) :
    takeBytes count text ++ dropBytes count text = text := by
  induction text generalizing count with
  | nil => rfl
  | cons c rest ih =>
      unfold takeBytes dropBytes
      split
      · rw [List.cons_append, ih]
      · rfl

/-- Cutting a text after one of its parts gives that part. -/
@[simp] theorem takeBytes_utf8Length_append (front back : List Char) :
    takeBytes (utf8Length front) (front ++ back) = front := by
  induction front with
  | nil =>
      cases back with
      | nil => rfl
      | cons c rest =>
          have size := c.utf8Size_pos
          simp only [utf8Length, List.nil_append, takeBytes]
          rw [if_neg (by omega)]
  | cons c rest ih => simp [utf8Length, takeBytes, ih]

/-- Cutting a text after one of its parts leaves the rest. -/
@[simp] theorem dropBytes_utf8Length_append (front back : List Char) :
    dropBytes (utf8Length front) (front ++ back) = back := by
  have whole := takeBytes_append_dropBytes (utf8Length front) (front ++ back)
  rw [takeBytes_utf8Length_append] at whole
  exact List.append_cancel_left whole

end ResultBuilder.Source
