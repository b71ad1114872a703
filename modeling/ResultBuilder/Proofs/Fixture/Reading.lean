import ResultBuilder.Proofs.Fixture.Written

/-!
# Annotations in a source

An annotation on a line of a source is read as it is written, and after it the other annotations of
the line, with one exception. A line that the annotation names ends at the first white space behind
it, and at the braces only if there is no white space at all. Braces that follow it directly are taken
for a part of it when there is white space in them or behind them, and what they are a part of names
no line.

* **`WrittenExpectation.IsTorn`**: the exception.
* **`readOne_text`**, **`readOne_of_isTorn`**: what is read of the text of an annotation.
* **`readLine_of_marked`**: an annotation on a line.
* **`Expectation.ofSource_annotated_iff`**: an annotation in a source.
-/

namespace ResultBuilder.FixtureComment

open Text (isBlank trimStart)
open Syntax.Lexer (takeWhile_append_of_stops dropWhile_append_of_stops)

variable {written : WrittenExpectation} {line target total : Nat} {front text rest : List Char}

/-! ### The line that an annotation is about -/

/-- **An annotation that is torn**: it names a line, directly followed by braces, and there is white
space in the braces or behind them. -/
structure WrittenExpectation.IsTorn (written : WrittenExpectation) (rest : List Char) : Prop where
  namesLine : written.offset.isSome
  attached : written.gap = []
  blank : ∃ c ∈ written.braces ++ rest, isBlank c = true

/-- The message stands in the first braces. -/
theorem WrittenExpectation.opening_prefix_braces (written : WrittenExpectation) (rest : List Char) :
    opening <+: written.braces ++ rest := by
  rw [WrittenExpectation.braces, enclosed, List.append_assoc, List.append_assoc]
  exact List.prefix_append _ _

/-- There is no count directly behind a line. -/
theorem WrittenExpectation.countText_eq_nil (written : WrittenExpectation)
    (namesLine : written.offset.isSome) (attached : written.gap = []) : written.countText = [] := by
  cases count : written.count with
  | none => rw [WrittenExpectation.countText, count]
  | some counted =>
      have isCounted : written.count.isSome := by rw [count]; rfl
      exact absurd attached (written.spaced namesLine isCounted)

/-- Where a line ends: at white space directly behind it, or at braces if there is no white space. -/
theorem splitOffset_eq {other : List Char} (solid : ∀ c ∈ front, isBlank c = false ∧ c ≠ '\x7b')
    (ends : (∃ c ∈ other.head?, isBlank c = true) ∨
      opening <+: other ∧ ∀ c ∈ other, isBlank c = false) :
    splitOffset (front ++ other) = (front, other) := by
  unfold splitOffset
  rcases ends with ⟨blank, first, isBlank⟩ | ⟨⟨rest, rfl⟩, solidToo⟩
  · have some : (front ++ other).any Text.isBlank = true :=
      List.any_eq_true.mpr ⟨blank, List.mem_append_right _ (List.mem_of_mem_head? first), isBlank⟩
    have inside : ∀ c ∈ front, (!Text.isBlank c) = true := fun c member => by
      simp [(solid c member).1]
    have stops : ∀ c ∈ other.head?, (!Text.isBlank c) = false := fun c isFirst => by
      rw [Option.mem_unique isFirst first, isBlank]
      rfl
    rw [if_pos some, takeWhile_append_of_stops inside stops, dropWhile_append_of_stops inside stops]
  · have none : (front ++ (opening ++ rest)).any Text.isBlank = false :=
      List.any_eq_false.mpr fun c member => by
        rcases List.mem_append.mp member with inFront | behind
        · simp [(solid c inFront).1]
        · simp [solidToo c behind]
    have first : ¬ opening <:+: front ++ opening.dropLast := by
      intro found
      have few := found.sublist.count_le '\x7b'
      have noneInFront : front.count '\x7b' = 0 :=
        List.count_eq_zero.mpr fun member => (solid _ member).2 rfl
      rw [List.count_append, noneInFront] at few
      exact absurd few (by decide)
    rw [if_neg (by rw [none]; exact Bool.false_ne_true), Text.cut?_append_of_first rest first]

/-- Braces that directly follow a line are taken for a part of it when there is white space. -/
theorem brace_mem_splitOffset {other : List Char}
    (solid : ∀ c ∈ front, isBlank c = false ∧ c ≠ '\x7b') (opened : opening <+: other)
    (blank : ∃ c ∈ other, isBlank c = true) : '\x7b' ∈ (splitOffset (front ++ other)).1 := by
  obtain ⟨c, member, isBlank⟩ := blank
  obtain ⟨rest, rfl⟩ := opened
  have some : (front ++ (opening ++ rest)).any Text.isBlank = true :=
    List.any_eq_true.mpr ⟨c, List.mem_append_right _ member, isBlank⟩
  have inside : ∀ c ∈ front, (!Text.isBlank c) = true := fun c member => by
    simp [(solid c member).1]
  have brace : (opening ++ rest).takeWhile (fun c => !Text.isBlank c) =
      '\x7b' :: ('\x7b' :: rest).takeWhile (fun c => !Text.isBlank c) :=
    List.takeWhile_cons_of_pos (by decide)
  rw [splitOffset, if_pos some, List.takeWhile_append_of_pos inside, brace]
  exact List.mem_append_right _ List.mem_cons_self

/-- What stands behind a kind or a line: white space, a digit or a brace. -/
theorem mem_head?_behind (written : WrittenExpectation) (rest : List Char) :
    ∀ c ∈ (written.gap ++ (written.countText ++ (written.braces ++ rest))).head?,
      isBlank c = true ∨ c.isDigit = true ∨ c = '\x7b' := by
  cases isGap : written.gap with
  | cons blank gap =>
      rintro c ⟨⟩
      exact .inl (written.isGap _ (isGap ▸ List.mem_cons_self))
  | nil =>
      cases count : written.count with
      | none =>
          rw [WrittenExpectation.countText, count]
          rintro c ⟨⟩
          exact .inr (.inr rfl)
      | some counted =>
          obtain ⟨number, gapBehind⟩ := counted
          rw [WrittenExpectation.countText, count]
          dsimp only
          rw [List.nil_append, List.append_assoc, List.head?_append_of_ne_nil _ number.ne_nil]
          exact fun c first => .inr (.inl (number.areDigits c (List.mem_of_mem_head? first)))

theorem readTarget_at : readTarget line total ('@' :: text) =
    match target? line total (splitOffset text).1 with
    | some target => .ok (target, (splitOffset text).2)
    | none => .error (.invalidOffset line (String.ofList (splitOffset text).1)) := rfl

/-- **The line is read as it is written**, unless the annotation is torn. -/
theorem readTarget_text (about : written.IsAbout line target)
    (isLine : 1 ≤ target ∧ target ≤ total) (whole : ¬ written.IsTorn rest) :
    readTarget line total (written.offsetText ++
        (written.gap ++ (written.countText ++ (written.braces ++ rest)))) =
      .ok (target, written.gap ++ (written.countText ++ (written.braces ++ rest))) := by
  have behind := mem_head?_behind written rest
  cases offset : written.offset with
  | none =>
      obtain rfl : target = line := by rwa [WrittenExpectation.IsAbout, offset] at about
      rw [WrittenExpectation.offsetText, offset, List.nil_append, readTarget]
      rintro other named
      rw [named] at behind
      rcases behind '@' rfl with isBlank | isDigit | isBrace
      · exact absurd isBlank (by decide)
      · exact absurd isDigit (by decide)
      · exact absurd isBrace (by decide)
  | some place =>
      have means : place.Means line target := by rwa [WrittenExpectation.IsAbout, offset] at about
      have ends : (∃ c ∈ (written.gap ++ (written.countText ++
            (written.braces ++ rest))).head?, isBlank c = true) ∨
          opening <+: written.gap ++ (written.countText ++ (written.braces ++ rest)) ∧
            ∀ c ∈ written.gap ++ (written.countText ++ (written.braces ++ rest)),
              isBlank c = false := by
        cases isGap : written.gap with
        | cons blank gap => exact .inl ⟨blank, rfl, written.isGap _ (isGap ▸ List.mem_cons_self)⟩
        | nil =>
            -- there is no white space behind the line, or else the annotation would be torn
            have namesLine : written.offset.isSome := by rw [offset]; rfl
            rw [written.countText_eq_nil namesLine isGap, List.nil_append, List.nil_append]
            refine .inr ⟨written.opening_prefix_braces rest, fun c member => ?_⟩
            exact Bool.eq_false_iff.mpr fun isBlank => whole ⟨namesLine, isGap, c, member, isBlank⟩
      rw [WrittenExpectation.offsetText, offset]
      dsimp only
      rw [List.cons_append, readTarget_at, splitOffset_eq place.solid ends]
      simp only [place.target?_text means isLine]

/-- **A torn annotation names no line.** -/
theorem readTarget_of_isTorn (torn : written.IsTorn rest) :
    ∃ offset, readTarget line total (written.offsetText ++
        (written.gap ++ (written.countText ++ (written.braces ++ rest)))) =
      .error (.invalidOffset line offset) := by
  obtain ⟨place, offset⟩ := Option.isSome_iff_exists.mp torn.namesLine
  have brace := brace_mem_splitOffset place.solid (written.opening_prefix_braces rest) torn.blank
  refine ⟨String.ofList (splitOffset (place.text ++ (written.braces ++ rest))).1, ?_⟩
  rw [torn.attached, written.countText_eq_nil torn.namesLine torn.attached, List.nil_append,
    List.nil_append, WrittenExpectation.offsetText, offset]
  dsimp only
  rw [List.cons_append, readTarget_at, target?_eq_none brace]

/-! ### Annotations -/

/-- Neither what can stand behind a kind nor the sign in front of a line is a letter. -/
theorem isAlpha_of_mem_head? (written : WrittenExpectation) (rest : List Char) :
    ∀ c ∈ (written.offsetText ++ (written.gap ++ (written.countText ++
      (written.braces ++ rest)))).head?, c.isAlpha = false := by
  have noLetter {ranges : Text.Ranges} {c : Char} (inside : ranges.contains c = true)
      (apart : ∀ one ∈ ranges, ∀ other ∈ ([(0x41, 0x5A), (0x61, 0x7A)] : Text.Ranges),
        one.2 < other.1 ∨ other.2 < one.1) : c.isAlpha = false := by
    rw [Text.isAlpha_eq_contains]
    exact Text.Ranges.contains_eq_false apart inside
  cases offset : written.offset with
  | some place =>
      rw [WrittenExpectation.offsetText, offset]
      rintro c ⟨⟩
      decide
  | none =>
      rw [WrittenExpectation.offsetText, offset, List.nil_append]
      intro c first
      rcases mem_head?_behind written rest c first with isBlank | isDigit | rfl
      · exact noLetter isBlank (by decide)
      · have inside : Text.Ranges.contains [(0x30, 0x39)] c = true := by
          simpa [Text.Ranges.contains, Char.isDigit, UInt32.le_iff_toNat_le] using isDigit
        exact noLetter inside (by decide)
      · decide

/-- The kind is read as it is written. -/
theorem kind?_text (kind : ExpectedKind) : kind? (String.ofList kind.text.toList) = some kind := by
  cases kind <;> rfl

theorem readOne_eq (written : WrittenExpectation) (rest : List Char) :
    readOne line total (written.text ++ rest) =
      (readTarget line total (written.offsetText ++
        (written.gap ++ (written.countText ++ (written.braces ++ rest))))).bind
          fun (target, rest) => readContent line written.kind target rest := by
  have letters : ∀ c ∈ written.kind.text.toList, c.isAlpha = true :=
    List.all_eq_true.mp (by cases written.kind <;> decide)
  have stops := isAlpha_of_mem_head? written rest
  rw [WrittenExpectation.text, List.append_assoc, List.append_assoc, List.append_assoc,
    List.append_assoc]
  unfold readOne
  simp only [takeWhile_append_of_stops letters stops, dropWhile_append_of_stops letters stops,
    kind?_text]
  split
  · next failed => rw [failed]; rfl
  · next read => rw [read]; rfl

/-- **An annotation is read as it is written**, unless it is torn. -/
theorem readOne_text (about : written.IsAbout line target)
    (isLine : 1 ≤ target ∧ target ≤ total) (whole : ¬ written.IsTorn rest)
    (apart : ¬ opening <+: trimStart rest) :
    readOne line total (written.text ++ rest) = .ok (written.expectation target, rest) := by
  rw [readOne_eq, readTarget_text about isLine whole]
  exact readContent_text written target apart

/-- **A torn annotation is refused** for the line that it seems to name. -/
theorem readOne_of_isTorn (torn : written.IsTorn rest) :
    ∃ offset, readOne line total (written.text ++ rest) = .error (.invalidOffset line offset) := by
  obtain ⟨offset, failed⟩ := @readTarget_of_isTorn written line total rest torn
  refine ⟨offset, ?_⟩
  rw [readOne_eq, failed]
  rfl

/-! ### Lines -/

/-- What is read behind the word that starts an annotation, and after it the rest of the line. -/
theorem readComment_of_marked (marked : Text.cut? marker text = some (front, rest)) :
    readComment line total text = (readOne line total rest).bind fun (expectation, others) =>
      (readComment line total others).map (expectation :: ·) := by
  rw [readComment]
  split
  · next none => cases marked.symm.trans none
  · next some =>
      cases marked.symm.trans some
      split
      · next failed =>
          rw [failed]
          rfl
      · next read =>
          conv_rhs => rw [read]
          rfl

/-- The word that starts an annotation ends with a character that is not in it before. -/
theorem marker_not_infix_append (first : ¬ marker <:+: front) :
    ¬ marker <:+: front ++ marker.dropLast := by
  rintro ⟨before, behind, whole⟩
  -- the word ends within the front, or its last character would be one of the others
  rw [List.append_eq_append_iff] at whole
  rcases whole with ⟨more, isFront, -⟩ | ⟨more, isWord, others⟩
  · exact first ⟨before, more, isFront.symm⟩
  · obtain rfl | ⟨more, last, rfl⟩ := more.eq_nil_or_concat'
    · exact first ⟨before, [], by simpa using isWord⟩
    · have isLast : last = '-' := by
        have ends := congrArg List.getLast? isWord
        rw [← List.append_assoc, List.getLast?_concat, List.getLast?_append] at ends
        exact (Option.some.inj ends).symm
      have inOthers : last ∈ marker.dropLast := by rw [others]; simp
      rw [isLast] at inOthers
      exact absurd inOthers (by decide)

/-- **The first annotation of a line** is read behind the first word that starts one. -/
theorem readLine_of_marked (commented : ['/', '/'] <:+: front) (first : ¬ marker <:+: front) :
    readLine line total (front ++ (marker ++ text)) =
      (readOne line total text).bind fun (expectation, others) =>
        (readComment line total others).map (expectation :: ·) := by
  obtain ⟨⟨code, comment⟩, cut⟩ :=
    Option.isSome_iff_exists.mp (Text.contains_eq_true_iff.mpr commented)
  have inComment : ¬ marker <:+: comment := fun found => first (by
    rw [Text.eq_append_of_cut? cut]
    exact found.trans (List.suffix_append _ _).isInfix)
  rw [readLine, Text.cut?_append cut]
  exact readComment_of_marked (Text.cut?_append_of_first text (marker_not_infix_append inComment))

/-- Lines are read one after the other. -/
theorem readLines_append (first second : List (List Char)) :
    readLines total line (first ++ second) = (readLines total line first).bind fun earlier =>
      (readLines total (line + first.length) second).map (earlier ++ ·) := by
  induction first generalizing line with
  | nil =>
      rw [List.nil_append, List.length_nil, Nat.add_zero, readLines]
      cases readLines total line second <;> rfl
  | cons text first ih =>
      have shifted : line + 1 + first.length = line + (text :: first).length := by
        rw [List.length_cons]
        omega
      rw [List.cons_append, readLines, readLines, ih, shifted]
      cases readLine line total text with
      | error => rfl
      | ok own =>
          cases readLines total (line + 1) first with
          | error => rfl
          | ok earlier =>
              cases readLines total (line + (text :: first).length) second with
              | error => rfl
              | ok later => exact congrArg Except.ok (List.append_assoc _ _ _).symm

/-- What is read of one line stands between what is read of the others. -/
theorem readLines_middle {before after : List (List Char)} {earlier later : List Expectation}
    (readEarlier : readLines total line before = .ok earlier)
    (readLater : readLines total (line + before.length + 1) after = .ok later) :
    readLines total line (before ++ text :: after) =
      (readLine (line + before.length) total text).map (earlier ++ · ++ later) := by
  rw [readLines_append, readEarlier, readLines, readLater]
  cases readLine (line + before.length) total text with
  | error => rfl
  | ok own => exact congrArg Except.ok (List.append_assoc _ _ _).symm

end ResultBuilder.FixtureComment

namespace ResultBuilder.Expectation

open FixtureComment

/-! ### Sources -/

/-- **Annotations are read as they are written.** On a line of a source, behind the slashes of its
comment and in front of other annotations, an annotation that is about a line of the source asks for
what it says, and what is read of the rest of the line follows; this is so exactly when it is not
torn. -/
theorem ofSource_annotated_iff (written : WrittenExpectation) (source : String)
    {before after : List (List Char)} {front rest : List Char} {target : Nat}
    {earlier others later : List Expectation}
    (lines : Text.lines source.toList =
      before ++ (front ++ (marker ++ (written.text ++ rest))) :: after)
    (commented : ['/', '/'] <:+: front) (first : ¬ marker <:+: front)
    (about : written.IsAbout (before.length + 1) target)
    (isLine : 1 ≤ target ∧ target ≤ (Text.lines source.toList).length)
    (apart : ¬ opening <+: Text.trimStart rest)
    (readEarlier : readLines (Text.lines source.toList).length 1 before = .ok earlier)
    (readOthers : readComment (before.length + 1) (Text.lines source.toList).length rest = .ok others)
    (readLater : readLines (Text.lines source.toList).length (before.length + 2) after = .ok later) :
    Expectation.ofSource source = .ok (earlier ++ written.expectation target :: others ++ later) ↔
      ¬ written.IsTorn rest := by
  have read : Expectation.ofSource source =
      ((readOne (before.length + 1) (Text.lines source.toList).length (written.text ++ rest)).bind
        fun (expectation, behind) =>
          (readComment (before.length + 1) (Text.lines source.toList).length behind).map
            (expectation :: ·)).map (earlier ++ · ++ later) := by
    rw [← readLine_of_marked commented first, Nat.add_comm before.length 1,
      ← readLines_middle readEarlier (by rw [Nat.add_comm 1]; exact readLater), ← lines]
    rfl
  rw [read]
  constructor
  · intro isRead torn
    obtain ⟨offset, failed⟩ := @readOne_of_isTorn written (before.length + 1)
      (Text.lines source.toList).length rest torn
    rw [failed] at isRead
    cases isRead
  · intro whole
    rw [readOne_text about isLine whole apart]
    dsimp only [Except.bind]
    rw [readOthers]
    rfl

/-- A note on the line below, expected twice, of which the message has a brace of its own, and with an
edit: `@+1 2 {{a } b}} {{10-12=<y=z>}}`. -/
def noteBelow : WrittenExpectation where
  kind := .note
  offset := some (.below ⟨['1'], by decide, List.all_eq_true.mp rfl, by decide⟩)
  gap := [' ']
  count := some (⟨['2'], by decide, List.all_eq_true.mp rfl, by decide⟩, [' '])
  message := "a \x7d b".toList
  edits := [⟨[' '], ⟨['1', '0'], by decide, List.all_eq_true.mp rfl, by decide⟩,
    ⟨['1', '2'], by decide, List.all_eq_true.mp rfl, by decide⟩, "<y=z>".toList,
    List.all_eq_true.mp rfl, ⟨by decide, by decide⟩⟩]
  isGap := List.all_eq_true.mp rfl
  isGapBehind := by
    rintro _ ⟨⟩
    exact List.all_eq_true.mp rfl
  spaced := by decide
  enclosable := ⟨by decide, by decide⟩

/-- An error on the line itself. -/
def errorHere : WrittenExpectation where
  kind := .error
  offset := none
  gap := []
  count := none
  message := ['c']
  edits := []
  isGap := List.forall_mem_nil _
  isGapBehind := nofun
  spaced := by decide
  enclosable := ⟨by decide, by decide⟩

/-- The annotation is read, and the one behind it on the line as well. -/
theorem ofSource_annotated_iff_noteBelow :
    let source := "x // expected-note@+1 2 \x7b\x7ba \x7d b\x7d\x7d \x7b\x7b10-12=<y=z>\x7d\x7d " ++
      "expected-error\x7b\x7bc\x7d\x7d\ny\n"
    let rest := " expected-error\x7b\x7bc\x7d\x7d".toList
    Text.lines source.toList =
        [] ++ ("x // ".toList ++ (marker ++ (noteBelow.text ++ rest))) :: [['y']] ∧
      ¬ noteBelow.IsTorn rest ∧
      Expectation.ofSource source = .ok [⟨.note, 2, 2, "a \x7d b", [⟨10, 12, "<y=z>"⟩]⟩,
        ⟨.error, 1, 1, "c", []⟩] := by
  intro source rest
  have lines : Text.lines source.toList =
      [] ++ ("x // ".toList ++ (marker ++ (noteBelow.text ++ rest))) :: [['y']] := by
    decide
  have whole : ¬ noteBelow.IsTorn rest := fun torn => absurd torn.attached (by decide)
  have others : readComment 1 (Text.lines source.toList).length rest =
      .ok [⟨.error, 1, 1, "c", []⟩] := by
    have marked : Text.cut? marker rest = some ([' '], errorHere.text ++ []) := by decide
    have about : errorHere.IsAbout 1 1 := rfl
    have untorn : ¬ errorHere.IsTorn [] := fun torn => absurd torn.namesLine (by decide)
    rw [readComment_of_marked marked, readOne_text about (by decide) untorn (by decide)]
    dsimp only [Except.bind]
    rw [readComment]
    rfl
  have read := (@ofSource_annotated_iff noteBelow source [] [['y']] "x // ".toList rest 2
    [] _ [] lines (by decide) (by decide) rfl (by decide) (by decide) rfl others rfl).mpr whole
  exact ⟨lines, whole, read⟩

/-- An error on the line of a number, of which the message has a space. -/
def errorAt : WrittenExpectation where
  kind := .error
  offset := some (.absolute ⟨['1'], by decide, List.all_eq_true.mp rfl, by decide⟩)
  gap := []
  count := none
  message := "a b".toList
  edits := []
  isGap := List.all_eq_true.mp rfl
  isGapBehind := nofun
  spaced := by decide
  enclosable := ⟨by decide, by decide⟩

/-- **A torn annotation**: the message up to its space is taken for a part of the line. -/
theorem ofSource_tornError :
    let source := "// expected-error@1\x7b\x7ba b\x7d\x7d\n"
    Text.lines source.toList = ["// ".toList ++ (marker ++ errorAt.text)] ∧
      errorAt.IsAbout 1 1 ∧ errorAt.IsTorn [] ∧
      Expectation.ofSource source = .error (.invalidOffset 1 "1\x7b\x7ba") ∧
      Expectation.ofSource source ≠ .ok [errorAt.expectation 1] := by
  intro source
  have lines : Text.lines source.toList = ["// ".toList ++ (marker ++ errorAt.text)] := by decide
  have refused : readOne 1 1 errorAt.text = .error (.invalidOffset 1 "1\x7b\x7ba") := by decide
  have failed : Expectation.ofSource source = .error (.invalidOffset 1 "1\x7b\x7ba") := by
    show readLines (Text.lines source.toList).length 1 (Text.lines source.toList) = _
    rw [lines, readLines, readLine_of_marked (by decide) (by decide), List.length_singleton, refused]
    rfl
  refine ⟨lines, rfl, ⟨rfl, rfl, ' ', by decide, by decide⟩, failed, ?_⟩
  rw [failed]
  exact nofun

end ResultBuilder.Expectation
