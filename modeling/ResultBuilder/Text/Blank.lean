import ResultBuilder.Text.Ranges

/-!
# White space

The property `White_Space` of Unicode, which separates tokens.
-/

namespace ResultBuilder.Text

/-- The characters with the property `White_Space`. -/
def blankRanges : Ranges :=
  [(0x9, 0xD), (0x20, 0x20), (0x85, 0x85), (0xA0, 0xA0), (0x1680, 0x1680), (0x2000, 0x200A),
   (0x2028, 0x2029), (0x202F, 0x202F), (0x205F, 0x205F), (0x3000, 0x3000)]

/-- Whether a character has the property `White_Space`. -/
def isBlank (c : Char) : Bool :=
  blankRanges.contains c

/-- A text without the white space at its start. -/
def trimStart (text : List Char) : List Char :=
  text.dropWhile isBlank

/-- A text without the white space at its start and end. -/
def trim (text : List Char) : List Char :=
  (trimStart (trimStart text).reverse).reverse

theorem length_trimStart_le (text : List Char) : (trimStart text).length ≤ text.length :=
  (List.dropWhile_sublist _).length_le

end ResultBuilder.Text
