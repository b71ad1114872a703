import ResultBuilder.Decimal.Word
import ResultBuilder.Fixture.Expectation
import ResultBuilder.Text.Lines
import ResultBuilder.Text.Search

/-!
# Expectations in comments

The comment at the end of a line holds expectations. Each of them starts with the word `expected-`
and a kind. It may be about another line, which is given after `@` by its number or by the distance
to it, and be expected a number of times. The message and the edits stand in double braces.

Every reader takes what it reads from the start of a text and gives the rest, which is never longer.
-/

namespace ResultBuilder

namespace FixtureComment

/-- What starts an expectation. -/
def marker : List Char := "expected-".toList

/-- The start of a text in braces. -/
def opening : List Char := ['\x7b', '\x7b']

/-- The end of a text in braces. -/
def closing : List Char := ['\x7d', '\x7d']

/-- What is at the start of a text where braces can be. -/
inductive Braced where
  | absent
  | unterminated
  /-- A text in braces and what follows it. -/
  | found (content rest : List Char)

/-- The text in braces at the start of a text. -/
def braced (text : List Char) : Braced :=
  match Text.after? opening text with
  | none => .absent
  | some inside =>
      match Text.cut? closing inside with
      | none => .unterminated
      | some (content, rest) => .found content rest

theorem length_of_braced {text content rest : List Char}
    (found : braced text = .found content rest) :
    rest.length < text.length := by
  unfold braced at found
  split at found
  · cases found
  · rename_i inside opened
    split at found
    · cases found
    · rename_i front back closed
      obtain ⟨-, rfl⟩ : front = content ∧ back = rest := by simpa using found
      have whole := Text.after?_eq_some_iff.1 opened
      have parts := Text.length_of_cut? closed
      rw [whole, List.length_append, parts]
      simp only [opening, closing, List.length_cons, List.length_nil]
      omega

/-- The kind that a word names. -/
def kind? (word : String) : Option ExpectedKind :=
  [ExpectedKind.error, .warning, .note].find? (·.text == word)

/-- The line that an offset means, which has to be one of the lines of the source. -/
def target? (line total : Nat) (offset : List Char) : Option Nat :=
  let meant := match offset with
    | '+' :: distance => (word? distance).map (line + ·)
    | '-' :: distance =>
        (word? distance).bind fun distance =>
          if distance ≤ line then some (line - distance) else none
    | number => word? number
  meant.filter fun target => 1 ≤ target && target ≤ total

/-- Where an offset ends: at white space if there is any, otherwise at braces. -/
def splitOffset (text : List Char) : List Char × List Char :=
  if text.any Text.isBlank then
    (text.takeWhile fun c => !Text.isBlank c, text.dropWhile fun c => !Text.isBlank c)
  else
    match Text.cut? opening text with
    | some (offset, rest) => (offset, opening ++ rest)
    | none => (text, [])

/-- Reads the line that an expectation is about. -/
def readTarget (line total : Nat) (text : List Char) : Except AnnotationError (Nat × List Char) :=
  match text with
  | '@' :: rest =>
      let (offset, rest) := splitOffset rest
      match target? line total offset with
      | some target => .ok (target, rest)
      | none => .error (.invalidOffset line (String.ofList offset))
  | _ => .ok (line, text)

/-- The edit that a text describes. -/
def edit? (text : List Char) : Option ColumnEdit := do
  let (range, replacement) ← Text.cut? ['='] text
  let (start, stop) ← Text.cut? ['-'] range
  return ⟨← word? (Text.trim start), ← word? (Text.trim stop), String.ofList replacement⟩

/-- Reads the edits of an expectation on a line. -/
def readEdits (line : Nat) (text : List Char) :
    Except AnnotationError (List ColumnEdit × List Char) :=
  match found : braced (Text.trimStart text) with
  | .absent => .ok ([], text)
  | .unterminated => .error (.unterminated line)
  | .found content rest =>
      match edit? content with
      | none => .error (.invalidEdit line (String.ofList content))
      | some edit =>
          have := Nat.lt_of_lt_of_le (length_of_braced found) (Text.length_trimStart_le text)
          (readEdits line rest).map fun (edits, rest) => (edit :: edits, rest)
  termination_by text.length

/-- Reads the number of times, the message and the edits of an expectation on a line. -/
def readContent (line : Nat) (kind : ExpectedKind) (target : Nat) (text : List Char) :
    Except AnnotationError (Expectation × List Char) :=
  let text := Text.trimStart text
  match braced (Text.trimStart (text.dropWhile Char.isDigit)) with
  | .absent => .error (.missingMessage line)
  | .unterminated => .error (.unterminated line)
  | .found message rest =>
      (readEdits line rest).map fun (edits, rest) =>
        (⟨kind, target, (wordOfDigits? (text.takeWhile Char.isDigit)).getD 1, String.ofList message,
          edits⟩, rest)

/-- Reads an expectation on a line, of which the marker has been read. -/
def readOne (line total : Nat) (text : List Char) :
    Except AnnotationError (Expectation × List Char) :=
  let word := String.ofList (text.takeWhile Char.isAlpha)
  match kind? word with
  | none => .error (.unknownKind line word)
  | some kind =>
      match readTarget line total (text.dropWhile Char.isAlpha) with
      | .error error => .error error
      | .ok (target, rest) => readContent line kind target rest

/-! ### What is left is never longer -/

theorem length_of_readTarget {line total target : Nat} {text rest : List Char}
    (read : readTarget line total text = .ok (target, rest)) : rest.length ≤ text.length := by
  have split_length (text : List Char) : (splitOffset text).2.length ≤ text.length := by
    unfold splitOffset
    split
    · exact (List.dropWhile_sublist _).length_le
    · split
      · rename_i offset after cut
        have := Text.length_of_cut? cut
        simp only [List.length_append]
        omega
      · exact Nat.zero_le _
  unfold readTarget at read
  split at read
  · rename_i after
    have := split_length after
    simp only at read
    split at read
    · obtain ⟨-, rfl⟩ := Prod.mk.inj (Except.ok.inj read)
      simp only [List.length_cons]
      omega
    · cases read
  · obtain ⟨-, rfl⟩ := Prod.mk.inj (Except.ok.inj read)
    exact Nat.le_refl _

theorem length_of_readEdits {line : Nat} {text rest : List Char} {edits : List ColumnEdit}
    (read : readEdits line text = .ok (edits, rest)) : rest.length ≤ text.length := by
  fun_induction readEdits line text generalizing edits with
  | case1 => obtain ⟨-, rfl⟩ := Prod.mk.inj (Except.ok.inj read); exact Nat.le_refl _
  | case2 => cases read
  | case3 => cases read
  | case4 text content after found edit described _ ih =>
      cases inner : readEdits line after with
      | error => simp [inner, Except.map] at read
      | ok result =>
          obtain ⟨others, final⟩ := result
          simp only [inner, Except.map, Except.ok.injEq, Prod.mk.injEq] at read
          obtain ⟨-, rfl⟩ := read
          have shorter := ih inner
          have := length_of_braced found
          have := Text.length_trimStart_le text
          omega

theorem length_of_readContent {line target : Nat} {kind : ExpectedKind} {text rest : List Char}
    {expectation : Expectation}
    (read : readContent line kind target text = .ok (expectation, rest)) :
    rest.length ≤ text.length := by
  unfold readContent at read
  simp only at read
  split at read
  · cases read
  · cases read
  · rename_i message after found
    cases inner : readEdits line after with
    | error => simp [inner, Except.map] at read
    | ok result =>
        obtain ⟨edits, final⟩ := result
        simp only [inner, Except.map, Except.ok.injEq, Prod.mk.injEq] at read
        obtain ⟨-, rfl⟩ := read
        have := length_of_readEdits inner
        have := length_of_braced found
        have := Text.length_trimStart_le (List.dropWhile Char.isDigit (Text.trimStart text))
        have := (List.dropWhile_sublist Char.isDigit (l := Text.trimStart text)).length_le
        have := Text.length_trimStart_le text
        omega

theorem length_of_readOne {line total : Nat} {text rest : List Char} {expectation : Expectation}
    (read : readOne line total text = .ok (expectation, rest)) : rest.length ≤ text.length := by
  unfold readOne at read
  simp only at read
  split at read
  · cases read
  · split at read
    · cases read
    · rename_i target after targeted
      have := length_of_readContent read
      have := length_of_readTarget targeted
      have := (List.dropWhile_sublist Char.isAlpha (l := text)).length_le
      omega

theorem length_of_marked {comment front text : List Char}
    (marked : Text.cut? marker comment = some (front, text)) : text.length < comment.length := by
  have := Text.length_of_cut? marked
  have : marker.length = 9 := by decide
  omega

/-! ### Lines and sources -/

/-- Reads the expectations in the comment of a line. -/
def readComment (line total : Nat) (comment : List Char) :
    Except AnnotationError (List Expectation) :=
  match marked : Text.cut? marker comment with
  | none => .ok []
  | some (_, text) =>
      match read : readOne line total text with
      | .error error => .error error
      | .ok (expectation, rest) =>
          have := length_of_readOne read
          have := length_of_marked marked
          (readComment line total rest).map (expectation :: ·)
  termination_by comment.length

/-- Reads the expectations of a line, which are in the comment at its end. -/
def readLine (line total : Nat) (text : List Char) : Except AnnotationError (List Expectation) :=
  match Text.cut? ['/', '/'] text with
  | none => .ok []
  | some (_, comment) => readComment line total comment

/-- Reads the expectations of lines, the first of which has a given number. -/
def readLines (total line : Nat) : List (List Char) → Except AnnotationError (List Expectation)
  | [] => .ok []
  | text :: rest => do
      let first ← readLine line total text
      let others ← readLines total (line + 1) rest
      return first ++ others

end FixtureComment

/-- The expectations that are annotated in a source. -/
def Expectation.ofSource (source : String) : Except AnnotationError (List Expectation) :=
  let lines := Text.lines source.toList
  FixtureComment.readLines lines.length 1 lines

end ResultBuilder
