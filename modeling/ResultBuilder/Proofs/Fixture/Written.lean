import Mathlib.Data.List.Basic
import ResultBuilder.Fixture.Comment
import ResultBuilder.Proofs.Syntax.Printing.Pieces

/-!
# Annotations as they are written

An annotation names a kind and, each if there is one, a line, a count, a message and edits. Its parts
may have any white space between them. This module says what the text of an annotation is and that
each part is read as it is written, whatever follows it.

* **`WrittenExpectation`**, **`WrittenExpectation.text`**, **`WrittenExpectation.expectation`**:
  annotations, how they are written and what they ask for.
* **`Numeral.word?_digits`**, **`LineOffset.target?_text`**: numbers and lines.
* **`braced_enclosed`**, **`readEdits_text`**, **`readContent_text`**: texts in braces, edits, and all
  that comes behind the line.
-/

namespace ResultBuilder.FixtureComment

open Text (isBlank trimStart)
open Syntax.Lexer (takeWhile_append_of_stops dropWhile_append_of_stops isBlank_of_isDigit)

/-! ### White space -/

/-- White space, possibly none. -/
def IsBlank (text : List Char) : Prop :=
  ∀ c ∈ text, isBlank c = true

theorem isDigit_of_isBlank {c : Char} (blank : isBlank c = true) : c.isDigit = false :=
  Bool.eq_false_iff.mpr fun digit => by simp [isBlank_of_isDigit digit] at blank

/-- White space in front of something else is trimmed. -/
theorem trimStart_append {gap rest : List Char} (isGap : IsBlank gap)
    (solid : ∀ c ∈ rest.head?, isBlank c = false) : trimStart (gap ++ rest) = rest :=
  dropWhile_append_of_stops isGap solid

/-- A text without white space has none at its ends. -/
theorem trim_eq_self {text : List Char} (solid : ∀ c ∈ text, isBlank c = false) :
    Text.trim text = text := by
  have trimmed (text : List Char) (solid : ∀ c ∈ text, isBlank c = false) :
      trimStart text = text :=
    @trimStart_append [] text (List.forall_mem_nil _) fun c first =>
      solid c (List.mem_of_mem_head? first)
  rw [Text.trim, trimmed text solid, trimmed text.reverse (by simpa using solid),
    List.reverse_reverse]

/-! ### Numbers -/

/-- **A number as it is written**: decimal digits, of a number that fits a machine word. -/
structure Numeral where
  digits : List Char
  ne_nil : digits ≠ []
  areDigits : ∀ c ∈ digits, c.isDigit = true
  fits : digitsValue digits < Nat.pow 2 64

namespace Numeral

variable (numeral : Numeral)

/-- The number. -/
def value : Nat :=
  digitsValue numeral.digits

theorem wordOfDigits?_digits : wordOfDigits? numeral.digits = some numeral.value := by
  rw [wordOfDigits?, if_pos ⟨numeral.ne_nil, List.all_eq_true.mpr numeral.areDigits, numeral.fits⟩]
  rfl

/-- **A number is read as it is written.** -/
theorem word?_digits : word? numeral.digits = some numeral.value := by
  rw [← numeral.wordOfDigits?_digits, word?.eq_2]
  intro rest signed
  have digit := numeral.areDigits '+' (by rw [signed]; exact List.mem_cons_self)
  cases digit

theorem solid : ∀ c ∈ numeral.digits, isBlank c = false :=
  fun c member => isBlank_of_isDigit (numeral.areDigits c member)

/-- A character that is no digit is none of the digits. -/
theorem ne_of_mem {c other : Char} (member : c ∈ numeral.digits) (notDigit : other.isDigit = false) :
    c ≠ other := by
  rintro rfl
  rw [numeral.areDigits c member] at notDigit
  cases notDigit

end Numeral

/-- A text with a character that can be in no number denotes none. -/
theorem word?_eq_none {text : List Char} {c : Char} (member : c ∈ text) (notDigit : c.isDigit = false)
    (notPlus : c ≠ '+') : word? text = none := by
  have noDigits {digits : List Char} (member : c ∈ digits) : wordOfDigits? digits = none := by
    rw [wordOfDigits?, if_neg]
    rintro ⟨-, all, -⟩
    rw [List.all_eq_true.mp all c member] at notDigit
    cases notDigit
  unfold word?
  split
  · exact noDigits ((List.mem_cons.mp member).resolve_left notPlus)
  · exact noDigits member

/-! ### Lines -/

/-- **A line as it is written**: its number, or the distance to it. -/
inductive LineOffset where
  /-- So many lines below the annotation. -/
  | below (distance : Numeral)
  /-- So many lines above the annotation. -/
  | above (distance : Numeral)
  /-- The line of a number. -/
  | absolute (number : Numeral)

namespace LineOffset

/-- How a line is written. -/
def text : LineOffset → List Char
  | below distance => '+' :: distance.digits
  | above distance => '-' :: distance.digits
  | absolute number => number.digits

/-- Which line is meant on a given line. -/
def Means (line target : Nat) : LineOffset → Prop
  | below distance => target = line + distance.value
  | above distance => target + distance.value = line
  | absolute number => target = number.value

variable {offset : LineOffset} {line target total : Nat}

/-- **A line is read as it is written**, if it is one of the lines of the source. -/
theorem target?_text (means : offset.Means line target) (isLine : 1 ≤ target ∧ target ≤ total) :
    target? line total offset.text = some target := by
  have inside : (decide (1 ≤ target) && decide (target ≤ total)) = true := by simpa using isLine
  cases offset with
  | below distance =>
      obtain rfl : target = line + distance.value := means
      simp only [text, target?, distance.word?_digits, Option.map_some]
      rw [Option.filter_some, if_pos inside]
  | above distance =>
      obtain rfl : target + distance.value = line := means
      simp only [text, target?, distance.word?_digits, Option.bind_some]
      rw [if_pos (Nat.le_add_left _ _), Nat.add_sub_cancel, Option.filter_some, if_pos inside]
  | absolute number =>
      obtain rfl : target = number.value := means
      have first {sign : Char} (notDigit : sign.isDigit = false) (rest : List Char)
          (signed : number.digits = sign :: rest) : False :=
        number.ne_of_mem (signed ▸ List.mem_cons_self) notDigit rfl
      have isNumber : target? line total number.digits =
          (word? number.digits).filter fun target => 1 ≤ target && target ≤ total := by
        unfold target?
        split
        · next distance signed => exact (first (by decide) distance signed).elim
        · next distance signed => exact (first (by decide) distance signed).elim
        · rfl
      rw [text, isNumber, number.word?_digits, Option.filter_some, if_pos inside]

/-- How a line is written is without white space and braces. -/
theorem solid (offset : LineOffset) : ∀ c ∈ offset.text, isBlank c = false ∧ c ≠ '\x7b' := by
  have ofNumber (number : Numeral) : ∀ c ∈ number.digits, isBlank c = false ∧ c ≠ '\x7b' :=
    fun c member => ⟨number.solid c member, number.ne_of_mem member (by decide)⟩
  cases offset with
  | below distance => exact List.forall_mem_cons.mpr ⟨by decide, ofNumber distance⟩
  | above distance => exact List.forall_mem_cons.mpr ⟨by decide, ofNumber distance⟩
  | absolute number => exact ofNumber number

end LineOffset

/-- What has a brace in it means no line. -/
theorem target?_eq_none {line total : Nat} {text : List Char} (brace : '\x7b' ∈ text) :
    target? line total text = none := by
  have noWord {text : List Char} (brace : '\x7b' ∈ text) : word? text = none :=
    word?_eq_none brace (by decide) (by decide)
  unfold target?
  split
  · next distance =>
      have inDistance : '\x7b' ∈ distance := by simpa using brace
      simp [noWord inDistance]
  · next distance =>
      have inDistance : '\x7b' ∈ distance := by simpa using brace
      simp [noWord inDistance]
  · simp [noWord brace]

/-! ### Texts in braces -/

/-- **A text that can stand in braces**: it neither holds nor runs into what closes them. -/
structure Enclosable (text : List Char) : Prop where
  unclosed : ¬ closing <:+: text
  open_end : text.getLast? ≠ some '\x7d'

/-- A text in braces. -/
def enclosed (text : List Char) : List Char :=
  opening ++ (text ++ closing)

/-- The first closing braces behind the start of a text in braces are its own. -/
theorem Enclosable.first {text : List Char} (enclosable : Enclosable text) :
    ¬ closing <:+: text ++ closing.dropLast := by
  rintro ⟨front, back, whole⟩
  -- the closing braces lie within the text, or all but the last one does, which ends the text
  obtain rfl | ⟨back, c, rfl⟩ := back.eq_nil_or_concat'
  · refine enclosable.open_end ?_
    have ends : (front ++ ['\x7d']) ++ ['\x7d'] = text ++ ['\x7d'] := by
      simpa [closing] using whole
    rw [← List.append_cancel_right ends, List.getLast?_append]
    rfl
  · refine enclosable.unclosed ⟨front, back, ?_⟩
    have ends : (front ++ closing ++ back) ++ [c] = text ++ ['\x7d'] := by
      simpa [closing] using whole
    exact (List.append_inj' ends rfl).1

/-- What has no braces can stand in front of a text in braces. -/
theorem Enclosable.append {front text : List Char} (enclosable : Enclosable text)
    (clear : ∀ c ∈ front, c ≠ '\x7d') : Enclosable (front ++ text) := by
  induction front with
  | nil => exact enclosable
  | cons c front ih =>
      obtain ⟨ofFirst, ofOthers⟩ := List.forall_mem_cons.mp clear
      have inner := ih ofOthers
      refine ⟨fun closed => ?_, fun ends => ?_⟩
      · rcases List.infix_cons_iff.mp closed with ⟨back, atStart⟩ | behind
        · exact ofFirst (List.cons.inj atStart).1.symm
        · exact inner.unclosed behind
      · rw [List.cons_append, List.getLast?_cons] at ends
        cases last : (front ++ text).getLast? with
        | none => exact ofFirst (by simpa [last] using ends)
        | some other => exact inner.open_end (by simpa [last] using ends)

/-- **A text in braces is read as it is written.** -/
theorem braced_enclosed {text : List Char} (enclosable : Enclosable text) (rest : List Char) :
    braced (enclosed text ++ rest) = .found text rest := by
  have opened : Text.after? opening (enclosed text ++ rest) =
      some (text ++ (closing ++ rest)) := by
    rw [Text.after?_eq_some_iff, enclosed, List.append_assoc, List.append_assoc]
  unfold braced
  rw [opened]
  dsimp only
  rw [Text.cut?_append_of_first rest enclosable.first]

/-- What does not start with braces has no text in braces. -/
theorem braced_of_apart {text : List Char} (apart : ¬ opening <+: text) :
    braced text = .absent := by
  cases opened : Text.after? opening text with
  | none => rw [braced, opened]
  | some inside => exact absurd ⟨inside, (Text.after?_eq_some_iff.mp opened).symm⟩ apart

/-- A text in braces starts with a brace, which is no white space. -/
theorem isBlank_head?_enclosed (text rest : List Char) :
    ∀ c ∈ (enclosed text ++ rest).head?, isBlank c = false := by
  rintro c ⟨⟩
  decide

/-- White space in front of a text in braces is trimmed. -/
theorem trimStart_enclosed {gap : List Char} (isGap : IsBlank gap) (text rest : List Char) :
    trimStart (gap ++ (enclosed text ++ rest)) = enclosed text ++ rest :=
  trimStart_append isGap (isBlank_head?_enclosed text rest)

/-! ### Edits -/

/-- **An edit as it is written**, with the white space in front of it. -/
structure WrittenEdit where
  gap : List Char
  start : Numeral
  stop : Numeral
  replacement : List Char
  isGap : IsBlank gap
  enclosable : Enclosable replacement

namespace WrittenEdit

variable (edit : WrittenEdit)

/-- What stands in the braces. -/
def content : List Char :=
  edit.start.digits ++ ('-' :: edit.stop.digits) ++ '=' :: edit.replacement

/-- How the edit is written. -/
def text : List Char :=
  edit.gap ++ enclosed edit.content

/-- The edit that is meant. -/
def columnEdit : ColumnEdit :=
  ⟨edit.start.value, edit.stop.value, String.ofList edit.replacement⟩

/-- What stands in the braces, cut at the sign between the columns and the replacement. -/
theorem content_eq : edit.content =
    (edit.start.digits ++ '-' :: edit.stop.digits) ++ (['='] ++ edit.replacement) := by
  simp [content]

/-- The columns are written without a sign that is neither a digit nor between them. -/
theorem ne_of_mem_columns {c other : Char} (notDigit : other.isDigit = false) (notDash : other ≠ '-')
    (member : c ∈ edit.start.digits ++ '-' :: edit.stop.digits) : c ≠ other := by
  rcases List.mem_append.mp member with inStart | behind
  · exact edit.start.ne_of_mem inStart notDigit
  rcases List.mem_cons.mp behind with rfl | inStop
  · exact notDash.symm
  · exact edit.stop.ne_of_mem inStop notDigit

theorem enclosable_content : Enclosable edit.content := by
  rw [content_eq, ← List.append_assoc]
  refine edit.enclosable.append fun c member => ?_
  rcases List.mem_append.mp member with inColumns | isSign
  · exact edit.ne_of_mem_columns (by decide) (by decide) inColumns
  · rw [List.mem_singleton.mp isSign]
    decide

/-- **The edit in the braces is read as it is written.** -/
theorem edit?_content : edit? edit.content = some edit.columnEdit := by
  have range : Text.cut? ['='] edit.content =
      some (edit.start.digits ++ '-' :: edit.stop.digits, edit.replacement) := by
    rw [content_eq]
    refine Text.cut?_append_of_first _ fun found => ?_
    have member : '=' ∈ edit.start.digits ++ '-' :: edit.stop.digits := by
      simpa using found.subset List.mem_cons_self
    exact edit.ne_of_mem_columns (by decide) (by decide) member rfl
  have columns : Text.cut? ['-'] (edit.start.digits ++ '-' :: edit.stop.digits) =
      some (edit.start.digits, edit.stop.digits) := by
    have first : ¬ ['-'] <:+: edit.start.digits ++ ['-'].dropLast := fun found => by
      have member : '-' ∈ edit.start.digits := by
        simpa using found.subset List.mem_cons_self
      exact edit.start.ne_of_mem member (by decide) rfl
    exact Text.cut?_append_of_first _ first
  rw [edit?, range]
  simp only [Option.bind_eq_bind, Option.bind_some, columns, trim_eq_self edit.start.solid,
    trim_eq_self edit.stop.solid, Numeral.word?_digits]
  rfl

end WrittenEdit

section Edits

variable {line : Nat} {text rest : List Char}

theorem readEdits_of_absent (absent : braced (trimStart text) = .absent) :
    readEdits line text = .ok ([], text) := by
  rw [readEdits]
  split
  · rfl
  · next unterminated => cases absent.symm.trans unterminated
  · next found => cases absent.symm.trans found

theorem readEdits_of_found {content : List Char} {edit : ColumnEdit}
    (found : braced (trimStart text) = .found content rest) (described : edit? content = some edit) :
    readEdits line text = (readEdits line rest).map fun (edits, rest) => (edit :: edits, rest) := by
  rw [readEdits]
  split
  · next absent => cases found.symm.trans absent
  · next unterminated => cases found.symm.trans unterminated
  · next foundToo =>
      cases found.symm.trans foundToo
      rw [described]

/-- **Edits are read as they are written**, up to something that is not in braces. -/
theorem readEdits_text (edits : List WrittenEdit) (apart : ¬ opening <+: trimStart rest) :
    readEdits line (edits.flatMap (·.text) ++ rest) = .ok (edits.map (·.columnEdit), rest) := by
  induction edits with
  | nil => exact readEdits_of_absent (braced_of_apart apart)
  | cons edit edits ih =>
      have found : braced (trimStart (edit.text ++ (edits.flatMap (·.text) ++ rest))) =
          .found edit.content (edits.flatMap (·.text) ++ rest) := by
        rw [WrittenEdit.text, List.append_assoc, trimStart_enclosed edit.isGap,
          braced_enclosed edit.enclosable_content]
      rw [List.flatMap_cons, List.append_assoc, readEdits_of_found found edit.edit?_content, ih]
      rfl

end Edits

/-! ### Annotations -/

/-- **An annotation as it is written**, without the word that starts it. -/
structure WrittenExpectation where
  kind : ExpectedKind
  /-- The line that it is about, if that is another one. -/
  offset : Option LineOffset
  /-- The white space behind the kind or the line. -/
  gap : List Char
  /-- The count, if there is one, with the white space behind it. -/
  count : Option (Numeral × List Char)
  message : List Char
  edits : List WrittenEdit
  isGap : IsBlank gap
  isGapBehind : ∀ counted ∈ count, IsBlank counted.2
  /-- A line and a count are kept apart. -/
  spaced : offset.isSome → count.isSome → gap ≠ []
  enclosable : Enclosable message

namespace WrittenExpectation

variable (written : WrittenExpectation)

/-- How the line is written. -/
def offsetText : List Char :=
  match written.offset with
  | none => []
  | some offset => '@' :: offset.text

/-- How the count is written. -/
def countText : List Char :=
  match written.count with
  | none => []
  | some (count, gap) => count.digits ++ gap

/-- How the message and the edits are written. -/
def braces : List Char :=
  enclosed written.message ++ written.edits.flatMap (·.text)

/-- How the annotation is written. -/
def text : List Char :=
  written.kind.text.toList ++
    (written.offsetText ++ (written.gap ++ (written.countText ++ written.braces)))

/-- Which line the annotation is about on a given line. -/
def IsAbout (line target : Nat) : Prop :=
  match written.offset with
  | none => target = line
  | some offset => offset.Means line target

/-- What the annotation asks for on a line. -/
def expectation (target : Nat) : Expectation where
  kind := written.kind
  line := target
  count := (written.count.map (·.1.value)).getD 1
  message := String.ofList written.message
  edits := written.edits.map (·.columnEdit)

end WrittenExpectation

section Content

variable {line : Nat} {text rest : List Char}

/-- Digits, if there are any, are read as the count, and the text in the braces behind them as the
message. -/
theorem readContent_counted {kind : ExpectedKind} {target : Nat}
    {gap digits gapBehind message behind : List Char} (isGap : IsBlank gap)
    (areDigits : ∀ c ∈ digits, c.isDigit = true) (isGapBehind : IsBlank gapBehind)
    (attached : digits = [] → gapBehind = []) (enclosable : Enclosable message) :
    readContent line kind target
        (gap ++ (digits ++ (gapBehind ++ (enclosed message ++ behind)))) =
      (readEdits line behind).map fun (edits, rest) =>
        (⟨kind, target, (wordOfDigits? digits).getD 1, String.ofList message, edits⟩, rest) := by
  have solid : ∀ c ∈ (digits ++ (gapBehind ++ (enclosed message ++ behind))).head?,
      isBlank c = false := by
    cases digits with
    | nil =>
        rw [attached rfl, List.nil_append, List.nil_append]
        exact isBlank_head?_enclosed message behind
    | cons digit digits =>
        rintro c ⟨⟩
        exact isBlank_of_isDigit (areDigits _ List.mem_cons_self)
  have stops : ∀ c ∈ (gapBehind ++ (enclosed message ++ behind)).head?, c.isDigit = false := by
    cases gapBehind with
    | nil =>
        rintro c ⟨⟩
        decide
    | cons blank gapBehind =>
        rintro c ⟨⟩
        exact isDigit_of_isBlank (isGapBehind _ List.mem_cons_self)
  have trimmed := trimStart_append isGap solid
  have inBraces : braced (trimStart ((digits ++ (gapBehind ++ (enclosed message ++ behind))).dropWhile
      Char.isDigit)) = .found message behind := by
    rw [dropWhile_append_of_stops areDigits stops, trimStart_enclosed isGapBehind,
      braced_enclosed enclosable]
  unfold readContent
  simp only [trimmed, inBraces, takeWhile_append_of_stops areDigits stops]

/-- **The count, the message and the edits are read as they are written.** -/
theorem readContent_text (written : WrittenExpectation) (target : Nat)
    (apart : ¬ opening <+: trimStart rest) :
    readContent line written.kind target
        (written.gap ++ (written.countText ++ (written.braces ++ rest))) =
      .ok (written.expectation target, rest) := by
  rw [WrittenExpectation.braces, List.append_assoc]
  cases count : written.count with
  | none =>
      rw [WrittenExpectation.countText, WrittenExpectation.expectation, count]
      refine (@readContent_counted line written.kind target written.gap [] [] _ _ written.isGap
        (List.forall_mem_nil _) (List.forall_mem_nil _) (fun _ => rfl) written.enclosable).trans ?_
      rw [readEdits_text written.edits apart]
      rfl
  | some counted =>
      obtain ⟨number, gapBehind⟩ := counted
      rw [WrittenExpectation.countText, WrittenExpectation.expectation, count]
      dsimp only
      rw [List.append_assoc, readContent_counted written.isGap number.areDigits
        (written.isGapBehind _ count) (fun none => absurd none number.ne_nil) written.enclosable,
        readEdits_text written.edits apart, number.wordOfDigits?_digits]
      rfl

end Content

end ResultBuilder.FixtureComment
