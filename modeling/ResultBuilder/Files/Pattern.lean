/-!
# Patterns for paths

In a pattern a question mark stands for any character, a star for any characters, and brackets for
one of the characters listed in them. Two stars stand for directories at any depth and are only
allowed as a whole part of a path.

Main statements: `anyEnd_eq_true_iff` (what a star leaves is some end of the text) and
`matchesName_iff_of_plainName?` (without wildcards only one name matches).
-/

namespace ResultBuilder

/-- What brackets list: a character, or all characters from one to another. -/
structure CharRange where
  /-- The first character. -/
  first : Char
  /-- The last character. -/
  last : Char
  deriving DecidableEq, Repr

/-- Whether a character is in a range. -/
def CharRange.contains (range : CharRange) (c : Char) : Bool :=
  range.first ≤ c && c ≤ range.last

/-- A part of a pattern. -/
inductive Wildcard where
  /-- The character itself. -/
  | char (c : Char)
  | anyChar
  | oneOf (ranges : List CharRange)
  | noneOf (ranges : List CharRange)
  | anyChars
  /-- Directories at any depth. -/
  | anyDepth
  deriving DecidableEq, Repr

/-- Why a text is no pattern. -/
inductive PatternFault where
  /-- There are more than two stars in a row. -/
  | tooManyStars
  /-- Two stars are not a whole part of a path. -/
  | starsInPart
  /-- Brackets are not closed or are empty. -/
  | brackets
  deriving DecidableEq, Repr

/-- What is wrong with a pattern, and after how many characters. -/
structure PatternError where
  /-- What is wrong. -/
  fault : PatternFault
  /-- The number of characters before the fault. -/
  position : Nat
  deriving DecidableEq, Repr

/-- The fault in words. -/
def PatternFault.message : PatternFault → String
  | .tooManyStars => "wildcards are either regular `*` or recursive `**`"
  | .starsInPart => "recursive wildcards must form a single path component"
  | .brackets => "invalid range pattern"

/-- The error in words. -/
def PatternError.message (error : PatternError) : String :=
  s!"Pattern syntax error near position {error.position}: " ++ error.fault.message

namespace Wildcard

/-- The ranges that brackets list. A dash between two characters makes a range of them. -/
def ranges : List Char → List CharRange
  | first :: '-' :: last :: rest => ⟨first, last⟩ :: ranges rest
  | c :: rest => ⟨c, c⟩ :: ranges rest
  | [] => []

/-- What brackets stand for, given the text after the opening one, with the number of characters in
them and the text after the closing one. The first character in brackets is always listed, even if
it is a closing bracket. -/
def ofBrackets? (text : List Char) : Option (Wildcard × Nat × List Char) :=
  match text with
  | '!' :: first :: rest => do
      let listed := first :: rest.takeWhile (· != ']')
      return (noneOf (ranges listed), listed.length + 1, ← (afterClosing? rest))
  | '!' :: [] | [] => none
  | first :: rest => do
      let listed := first :: rest.takeWhile (· != ']')
      return (oneOf (ranges listed), listed.length, ← (afterClosing? rest))
where
  /-- The text after the first closing bracket. -/
  afterClosing? (text : List Char) : Option (List Char) :=
    match text.dropWhile (· != ']') with
    | [] => none
    | _ :: rest => some rest

/-- Reads a pattern within some fuel, given how many characters are before it and the last one of
them. Two stars as a part of a path take the slash after them with them. -/
def read : Nat → Nat → Option Char → List Char → Except PatternError (List Wildcard)
  | 0, position, _, _ => .error ⟨.brackets, position⟩
  | _, _, _, [] => .ok []
  | fuel + 1, position, before, c :: rest =>
      match c with
      | '?' => (read fuel (position + 1) (some c) rest).map (anyChar :: ·)
      | '*' =>
          match rest.takeWhile (· == '*') with
          | [] => (read fuel (position + 1) (some c) rest).map (anyChars :: ·)
          | [_] =>
              if before.any (· != '/') then .error ⟨.starsInPart, position - 1⟩
              else
                match rest.drop 1 with
                | [] => .ok [anyDepth]
                | '/' :: rest => (read fuel (position + 3) (some '/') rest).map (anyDepth :: ·)
                | _ => .error ⟨.starsInPart, position + 2⟩
          | _ => .error ⟨.tooManyStars, position + 2⟩
      | '[' =>
          match ofBrackets? rest with
          | none => .error ⟨.brackets, position⟩
          | some (wildcard, length, rest) =>
              (read fuel (position + length + 2) (some ']') rest).map (wildcard :: ·)
      | c => (read fuel (position + 1) (some c) rest).map (char c :: ·)

/-- Reads a pattern. -/
def ofText (text : String) : Except PatternError (List Wildcard) :=
  read (text.length + 1) 0 none text.toList

/-- Whether some end of a text has a property. -/
def anyEnd (property : List Char → Bool) : List Char → Bool
  | [] => property []
  | c :: rest => property (c :: rest) || anyEnd property rest

/-- Whether a name matches a pattern. -/
def matchesName : List Wildcard → List Char → Bool
  | [], text => text.isEmpty
  | anyChars :: rest, text | anyDepth :: rest, text => anyEnd (matchesName rest) text
  | _ :: _, [] => false
  | char expected :: rest, c :: text => c == expected && matchesName rest text
  | anyChar :: rest, _ :: text => matchesName rest text
  | oneOf ranges :: rest, c :: text => ranges.any (·.contains c) && matchesName rest text
  | noneOf ranges :: rest, c :: text => !ranges.any (·.contains c) && matchesName rest text

/-- The only name that matches a pattern, if it has characters alone. -/
def plainName? : List Wildcard → Option (List Char)
  | [] => some []
  | char c :: rest => (plainName? rest).map (c :: ·)
  | _ :: _ => none

theorem anyEnd_eq_true_iff {property : List Char → Bool} {text : List Char} :
    anyEnd property text = true ↔ ∃ front back, text = front ++ back ∧ property back = true := by
  induction text with
  | nil =>
      simp only [anyEnd, List.nil_eq, List.append_eq_nil_iff]
      constructor
      · exact fun holds => ⟨[], [], ⟨rfl, rfl⟩, holds⟩
      · rintro ⟨_, _, ⟨_, rfl⟩, holds⟩
        exact holds
  | cons c rest ih =>
      simp only [anyEnd, Bool.or_eq_true, ih]
      constructor
      · rintro (whole | ⟨front, back, rfl, holds⟩)
        · exact ⟨[], _, rfl, whole⟩
        · exact ⟨c :: front, back, rfl, holds⟩
      · rintro ⟨front, back, same, holds⟩
        cases front with
        | nil =>
            obtain rfl : c :: rest = back := same
            exact .inl holds
        | cons first front =>
            obtain ⟨rfl, rfl⟩ : c = first ∧ rest = front ++ back := by simpa using same
            exact .inr ⟨front, back, rfl, holds⟩

/-- A pattern of characters alone matches the name that it spells and no other. -/
theorem matchesName_iff_of_plainName? {wildcards : List Wildcard} {name : List Char}
    (isPlain : plainName? wildcards = some name) (text : List Char) :
    matchesName wildcards text = true ↔ text = name := by
  induction wildcards generalizing name text with
  | nil =>
      obtain rfl : [] = name := by simpa [plainName?] using isPlain
      simp [matchesName]
  | cons first rest ih =>
      cases first with
      | char c =>
          obtain ⟨others, found, rfl⟩ := Option.map_eq_some_iff.1 isPlain
          cases text with
          | nil => simp [matchesName]
          | cons d text => simp [matchesName, ih found]
      | _ => simp [plainName?] at isPlain

end Wildcard

/-- A pattern for paths: the patterns of its parts. -/
abbrev PathPattern := List (List Wildcard)

namespace PathPattern

/-- Reads a pattern for paths. It is read as a whole first and then part by part, so that brackets
that go beyond a part are refused too. -/
def ofText (text : String) : Except PatternError PathPattern := do
  let _ ← Wildcard.ofText text
  (text.splitOn "/").mapM Wildcard.ofText

end PathPattern

end ResultBuilder
