import ResultBuilder.Syntax.Lexer

/-!
# Lexemes and gaps

What the lexer takes at the front of a text, without the offsets that only its errors report:
`Skips` for a gap and `Opens` for a lexeme. Both look at most at the characters after the ones they
take that come before the next space.

Main statements: `lexeme_eq_ok_iff`, `Skips.replace` and `Opens.replace`.
-/

namespace ResultBuilder.Syntax.Lexer

/-! ### Gaps -/

attribute [simp] gap

/-- **A gap** at the front of a text, wherever the text starts. -/
def Skips (text skipped : List Char) : Prop :=
  ∀ offset, gap .blank offset text = .ok skipped

/-- States between which only the place of an open comment differs. -/
inductive GapState.Alike : GapState → GapState → Prop
  | blank : Alike .blank .blank
  | lineComment : Alike .lineComment .lineComment
  | blockComment (start place : Nat) : Alike (.blockComment start) (.blockComment place)

theorem map_eq_ok {α β : Type} {f : α → β} {attempt : Except SyntaxError α} {result : β} :
    f <$> attempt = .ok result ↔ ∃ value, attempt = .ok value ∧ f value = result := by
  cases attempt <;> simp [Functor.map, Except.map]

theorem toOption_map {α β : Type} {f : α → β} {attempt : Except SyntaxError α} :
    (f <$> attempt).toOption = attempt.toOption.map f := by
  cases attempt <;> rfl

/-- Offsets have no part in what a gap holds. -/
theorem toOption_gap {state other : GapState} {offset place : Nat} {text : List Char}
    (alike : state.Alike other) :
    (gap state offset text).toOption = (gap other place text).toOption := by
  fun_induction gap state offset text generalizing other place with
  | case1 offset rest ih =>
      cases alike
      rw [gap, toOption_map, toOption_map, ih .lineComment]
  | case2 offset rest ih =>
      cases alike
      rw [gap, toOption_map, toOption_map, ih (.blockComment _ _)]
  | case3 offset c rest noLine noBlock isBlank ih =>
      cases alike
      rw [gap, if_pos isBlank, toOption_map, toOption_map, ih .blank]
      all_goals assumption
  | case4 offset c rest noLine noBlock notBlank =>
      cases alike
      rw [gap, if_neg notBlank]
      all_goals assumption
  | case5 offset rest ih =>
      cases alike
      rw [gap, toOption_map, toOption_map, ih .blank]
  | case6 offset c rest notEnd ih =>
      cases alike
      rw [gap, toOption_map, toOption_map, ih .lineComment]
      exact notEnd
  | case7 start offset rest ih =>
      cases alike
      rw [gap, toOption_map, toOption_map, ih .blank]
  | case8 start offset c rest notEnd ih =>
      cases alike
      rw [gap, toOption_map, toOption_map, ih (.blockComment _ _)]
      exact notEnd
  | case9 start offset =>
      cases alike
      rfl
  | case10 state offset notBlock =>
      cases alike with
      | blank | lineComment => rfl
      | blockComment start place => exact absurd rfl (notBlock start)

theorem skips_of_gap_eq_ok {offset : Nat} {text skipped : List Char}
    (scanned : gap .blank offset text = .ok skipped) : Skips text skipped := by
  intro place
  have same := @toOption_gap .blank .blank offset place text .blank
  rw [scanned] at same
  cases found : gap .blank place text with
  | error failure => rw [found] at same; cases same
  | ok other => rw [found] at same; cases same; rfl

/-- A block comment that is open takes at least the signs that close it. -/
theorem gap_blockComment_ne_nil {start offset : Nat} {text skipped : List Char}
    (scanned : gap (.blockComment start) offset text = .ok skipped) : skipped ≠ [] := by
  rw [gap.eq_def] at scanned
  split at scanned <;> simp_all [map_eq_ok]
  all_goals
    obtain ⟨inside, -, rfl⟩ := scanned
    exact List.cons_ne_nil _ _

/-- **A gap is a part of the text**, and when what follows it is replaced by another text, it goes on
with the gap that starts that. A line comment at the end of the source is the exception: it would go
on. -/
theorem gap_parts {state : GapState} {offset : Nat} {text skipped : List Char}
    (scanned : gap state offset text = .ok skipped) :
    ∃ rest, text = skipped ++ rest ∧
      (rest ≠ [] → Skips rest [] ∧
        ∀ other found, Skips other found →
          gap state offset (skipped ++ other) = .ok (skipped ++ found)) := by
  fun_induction gap state offset text generalizing skipped with
  | case1 offset rest ih =>
      obtain ⟨inside, found, rfl⟩ := map_eq_ok.mp scanned
      obtain ⟨tail, rfl, again⟩ := ih found
      refine ⟨tail, rfl, fun more => ⟨(again more).1, fun other next settled => ?_⟩⟩
      exact map_eq_ok.mpr ⟨inside ++ next, (again more).2 other next settled, rfl⟩
  | case2 offset rest ih =>
      obtain ⟨inside, found, rfl⟩ := map_eq_ok.mp scanned
      obtain ⟨tail, rfl, again⟩ := ih found
      refine ⟨tail, rfl, fun more => ⟨(again more).1, fun other next settled => ?_⟩⟩
      exact map_eq_ok.mpr ⟨inside ++ next, (again more).2 other next settled, rfl⟩
  | case3 offset c rest noLine noBlock isBlank ih =>
      obtain ⟨inside, found, rfl⟩ := map_eq_ok.mp scanned
      obtain ⟨tail, rfl, again⟩ := ih found
      refine ⟨tail, rfl, fun more => ⟨(again more).1, fun other next settled => ?_⟩⟩
      -- a slash is not white space, so that no comment starts here whatever follows
      have noSlash : c ≠ '/' := by
        rintro rfl
        exact absurd isBlank (by decide)
      rw [List.cons_append, gap, if_pos isBlank]
      · exact map_eq_ok.mpr ⟨inside ++ next, (again more).2 other next settled, rfl⟩
      · exact fun _ same => absurd same noSlash
      · exact fun _ same => absurd same noSlash
  | case4 offset c rest noLine noBlock notBlank =>
      cases scanned
      refine ⟨c :: rest, rfl, fun _ => ⟨fun place => ?_, fun other next settled => settled offset⟩⟩
      rw [gap, if_neg notBlank]
      all_goals assumption
  | case5 offset rest ih =>
      obtain ⟨inside, found, rfl⟩ := map_eq_ok.mp scanned
      obtain ⟨tail, rfl, again⟩ := ih found
      refine ⟨tail, rfl, fun more => ⟨(again more).1, fun other next settled => ?_⟩⟩
      exact map_eq_ok.mpr ⟨inside ++ next, (again more).2 other next settled, rfl⟩
  | case6 offset c rest notEnd ih =>
      obtain ⟨inside, found, rfl⟩ := map_eq_ok.mp scanned
      obtain ⟨tail, rfl, again⟩ := ih found
      refine ⟨tail, rfl, fun more => ⟨(again more).1, fun other next settled => ?_⟩⟩
      rw [List.cons_append, gap]
      · exact map_eq_ok.mpr ⟨inside ++ next, (again more).2 other next settled, rfl⟩
      · exact notEnd
  | case7 start offset rest ih =>
      obtain ⟨inside, found, rfl⟩ := map_eq_ok.mp scanned
      obtain ⟨tail, rfl, again⟩ := ih found
      refine ⟨tail, rfl, fun more => ⟨(again more).1, fun other next settled => ?_⟩⟩
      exact map_eq_ok.mpr ⟨inside ++ next, (again more).2 other next settled, rfl⟩
  | case8 start offset c rest notEnd ih =>
      obtain ⟨inside, found, rfl⟩ := map_eq_ok.mp scanned
      obtain ⟨tail, rfl, again⟩ := ih found
      refine ⟨tail, rfl, fun more => ⟨(again more).1, fun other next settled => ?_⟩⟩
      have goesOn := gap_blockComment_ne_nil found
      obtain ⟨d, inside, rfl⟩ := List.exists_cons_of_ne_nil goesOn
      rw [List.cons_append, gap]
      · exact map_eq_ok.mpr ⟨d :: inside ++ next, (again more).2 other next settled, rfl⟩
      · rintro rest' rfl same
        cases same
        exact notEnd _ rfl rfl
  | case9 start offset => cases scanned
  | case10 state offset notBlock =>
      cases scanned
      exact ⟨[], rfl, fun more => absurd rfl more⟩


/-- **What follows a gap** starts with no gap. -/
theorem Skips.settled {skipped rest : List Char} (skips : Skips (skipped ++ rest) skipped)
    (more : rest ≠ []) : Skips rest [] := by
  obtain ⟨tail, cut, again⟩ := gap_parts (skips 0)
  obtain rfl := List.append_cancel_left cut
  exact (again more).1

/-- **Another text after a gap** adds its own gap to it. -/
theorem Skips.append {skipped rest other next : List Char} (skips : Skips (skipped ++ rest) skipped)
    (more : rest ≠ []) (found : Skips other next) : Skips (skipped ++ other) (skipped ++ next) := by
  obtain ⟨tail, cut, again⟩ := gap_parts (skips 0)
  obtain rfl := List.append_cancel_left cut
  exact skips_of_gap_eq_ok ((again more).2 other next found)

/-- **Another text after a gap** leaves the gap as it is when no gap starts it. -/
theorem Skips.replace {skipped rest other : List Char} (skips : Skips (skipped ++ rest) skipped)
    (more : rest ≠ []) (settled : Skips other []) : Skips (skipped ++ other) skipped := by
  have found := skips.append more settled
  rwa [List.append_nil] at found

/-- No gap starts with a character that is not white space and opens no comment. -/
theorem skips_nil_iff {c : Char} {rest : List Char} :
    Skips (c :: rest) [] ↔ Text.isBlank c = false ∧
      ¬ ['/', '/'] <+: c :: rest ∧ ¬ ['/', '*'] <+: c :: rest := by
  constructor
  · intro skips
    refine ⟨Bool.eq_false_iff.mpr fun isBlank => ?_, ?_, ?_⟩
    · -- a slash is not white space, so that the character itself would be taken
      have noSlash : c ≠ '/' := by
        rintro rfl
        exact absurd isBlank (by decide)
      have scanned := skips 0
      rw [gap, if_pos isBlank] at scanned
      · obtain ⟨inside, -, same⟩ := map_eq_ok.mp scanned
        cases same
      · exact fun _ same => absurd same noSlash
      · exact fun _ same => absurd same noSlash
    · rintro ⟨more, same⟩
      have scanned := skips 0
      rw [← same] at scanned
      obtain ⟨inside, -, same⟩ := map_eq_ok.mp scanned
      cases same
    · rintro ⟨more, same⟩
      have scanned := skips 0
      rw [← same] at scanned
      obtain ⟨inside, -, same⟩ := map_eq_ok.mp scanned
      cases same
  · rintro ⟨solid, noLine, noBlock⟩ offset
    rw [gap, if_neg (by simp [solid])]
    · rintro more rfl rfl
      exact noLine ⟨more, rfl⟩
    · rintro more rfl rfl
      exact noBlock ⟨more, rfl⟩

/-- A gap is empty before a character that is neither white space nor a slash. -/
theorem skips_nil_of_solid {c : Char} (solid : Text.isBlank c = false) (noSlash : c ≠ '/')
    (rest : List Char) : Skips (c :: rest) [] := by
  refine skips_nil_iff.mpr ⟨solid, ?_, ?_⟩
  all_goals
    rintro ⟨more, same⟩
    exact noSlash (List.cons.inj same).1.symm

/-- A space belongs to the gap. -/
theorem Skips.space {text skipped : List Char} (skips : Skips text skipped) :
    Skips (' ' :: text) (' ' :: skipped) := by
  intro offset
  rw [gap, if_pos (by decide)]
  · exact map_eq_ok.mpr ⟨skipped, skips _, rfl⟩
  · exact fun _ same => absurd same (by decide)
  · exact fun _ same => absurd same (by decide)

/-! ### Texts that go on less far -/

/-- Characters that no longer lexeme goes on with: a space and signs that always stand alone. -/
def separators : List Char :=
  [' ', ',', ':']

theorem forall_mem_separators {P : Char → Prop} :
    (∀ c ∈ separators, P c) ↔ P ' ' ∧ P ',' ∧ P ':' := by
  simp [separators]

/-- What may go on a lexeme: a character, or two of which the first is a point or a slash. -/
inductive Joins : List Char → Prop
  | nil : Joins []
  | one (c : Char) : Joins [c]
  | two {c : Char} (isSign : c = '.' ∨ c = '/') (d : Char) : Joins [c, d]

/-- **A milder text** has nothing in front that may go on a lexeme and that the other text lacks, up to
its first separator. -/
def Milder (other text : List Char) : Prop :=
  ∀ front, Joins front → (∀ c ∈ front, c ∉ separators) → front <+: other → front <+: text

theorem Joins.tail {c : Char} {front : List Char} (joins : Joins (c :: front)) : Joins front := by
  cases joins with
  | one => exact .nil
  | two _ d => exact .one d

/-- Behind a character that is neither a point nor a slash all texts are alike. -/
theorem milder_cons {c : Char} (noPoint : c ≠ '.') (noSlash : c ≠ '/') (other text : List Char) :
    Milder (c :: other) (c :: text) := by
  intro start joins clean found
  cases joins with
  | nil => exact List.nil_prefix
  | one d =>
      obtain ⟨rfl, -⟩ := List.cons_prefix_cons.mp found
      exact List.cons_prefix_cons.mpr ⟨rfl, List.nil_prefix⟩
  | two isSign d =>
      obtain ⟨rfl, -⟩ := List.cons_prefix_cons.mp found
      exact (isSign.elim noPoint noSlash).elim

theorem milder_separator {c : Char} (separates : c ∈ separators) (other text : List Char) :
    Milder (c :: other) text := by
  intro start joins clean found
  rcases List.prefix_cons_iff.mp found with rfl | ⟨tail, rfl, -⟩
  · exact List.nil_prefix
  · exact absurd separates (clean c List.mem_cons_self)

theorem milder_blank (other text : List Char) : Milder (' ' :: other) text :=
  milder_separator (by decide) other text

theorem Milder.append_left {other text : List Char} (milder : Milder other text)
    (front : List Char) : Milder (front ++ other) (front ++ text) := by
  intro start joins clean found
  induction front generalizing start with
  | nil => exact milder start joins clean found
  | cons c front ih =>
      rcases List.prefix_cons_iff.mp found with rfl | ⟨tail, rfl, shorter⟩
      · exact List.nil_prefix
      · have := ih tail joins.tail (List.forall_mem_cons.mp clean).2 shorter
        exact List.prefix_cons_iff.mpr (.inr ⟨tail, rfl, this⟩)

/-- No gap starts a milder text with the same first character, if none starts the other. -/
theorem Skips.nil_of_milder {c : Char} {text other : List Char} (skips : Skips (c :: text) [])
    (milder : Milder (c :: other) (c :: text)) : Skips (c :: other) [] := by
  obtain ⟨solid, noLine, noBlock⟩ := skips_nil_iff.mp skips
  refine skips_nil_iff.mpr ⟨solid, fun found => noLine ?_, fun found => noBlock ?_⟩
  · exact milder _ (.two (.inr rfl) _) (by simp [separators]) found
  · exact milder _ (.two (.inr rfl) _) (by simp [separators]) found

/-- A milder text than what stopped a run stops the run too. -/
theorem Milder.stops {p : Char → Bool} (apart : ∀ c ∈ separators, p c = false)
    {text other : List Char} (milder : Milder other (text.dropWhile p)) : ∀ c ∈ other.head?, p c = false := by
  intro c first
  obtain ⟨tail, rfl⟩ := List.head?_eq_some_iff.mp first
  refine Bool.eq_false_iff.mpr fun continues => ?_
  have clean : c ∉ separators := fun separates => by
    rw [apart c separates] at continues
    cases continues
  obtain ⟨more, same⟩ := milder [c] (.one c) (List.forall_mem_singleton.mpr clean) ⟨tail, rfl⟩
  have stopped := List.head?_dropWhile_not p text
  rw [← same] at stopped
  simp [continues] at stopped

/-- A run that is stopped by what follows it is found whole. -/
theorem takeWhile_append_of_stops {p : Char → Bool} {run other : List Char}
    (inside : ∀ c ∈ run, p c = true) (stops : ∀ c ∈ other.head?, p c = false) :
    (run ++ other).takeWhile p = run := by
  rw [List.takeWhile_append_of_pos inside]
  cases other with
  | nil => simp
  | cons c tail => simp [stops c rfl]

/-- What follows a run that it stops is left over. -/
theorem dropWhile_append_of_stops {p : Char → Bool} {run other : List Char}
    (inside : ∀ c ∈ run, p c = true) (stops : ∀ c ∈ other.head?, p c = false) :
    (run ++ other).dropWhile p = other := by
  rw [List.dropWhile_append_of_pos inside]
  cases other with
  | nil => rfl
  | cons c tail => simp [stops c rfl]

theorem forall_mem_takeWhile {p : Char → Bool} (text : List Char) :
    ∀ c ∈ text.takeWhile p, p c = true :=
  List.all_eq_true.mp List.all_takeWhile

/-! ### Lexemes -/

/-- **A lexeme at the front of a text**, after a token that it may be attached to. -/
inductive Opens (attached : Bool) : List Char → Lexeme → Prop
  /-- A name, a keyword or the underscore. -/
  | word {first rest} (starts : startsName first = true) :
      Opens attached (first :: rest) (Lexer.word first rest)
  /-- A number. -/
  | number {first rest} (noName : startsName first = false) (digit : first.isDigit = true) :
      Opens attached (first :: rest) (Lexer.number (first :: rest))
  /-- A string that is closed. -/
  | string {rest content} (closed : stringContent (.text 0) rest = (content, .quote)) :
      Opens attached ('"' :: rest) ⟨.string, '"' :: content ++ ['"'], String.ofList content⟩
  /-- A directive. -/
  | directive {rest} (named : rest.takeWhile continuesName ≠ []) :
      Opens attached ('#' :: rest)
        ⟨.directive, '#' :: rest.takeWhile continuesName,
          String.ofList (rest.takeWhile continuesName)⟩
  /-- A sign. -/
  | sign {first rest found} (noName : startsName first = false) (noDigit : first.isDigit = false)
      (noQuote : first ≠ '"') (noDirective : first ≠ '#')
      (sign : symbol? attached (first :: rest) = some found) : Opens attached (first :: rest) found

/-- **The lexer finds** the lexeme that opens a text. -/
theorem lexeme_eq_ok_iff {attached : Bool} {start : Nat} {first : Char} {rest : List Char}
    {found : Lexeme} :
    lexeme attached start first rest = .ok found ↔ Opens attached (first :: rest) found := by
  unfold lexeme
  constructor
  · intro scanned
    split at scanned
    case isTrue starts => cases scanned; exact .word starts
    split at scanned
    case isTrue noName digit => cases scanned; exact .number (by simpa using noName) digit
    split at scanned
    case isTrue quote =>
      obtain rfl := eq_of_beq quote
      unfold string at scanned
      rcases scan : stringContent (.text 0) rest with ⟨content, _ | _ | _⟩ <;>
        rw [scan] at scanned <;> cases scanned
      exact .string scan
    split at scanned
    case isTrue sharp =>
      obtain rfl := eq_of_beq sharp
      unfold directive at scanned
      split at scanned <;> cases scanned
      exact .directive ‹_›
    split at scanned <;> cases scanned
    exact .sign (by simp_all) (by simp_all) (by simp_all) (by simp_all) ‹_›
  · intro opens
    cases opens with
    | word starts => rw [if_pos starts]
    | number noName digit => rw [if_neg (by simp [noName]), if_pos digit]
    | string closed =>
        rw [if_neg (by decide), if_neg (by decide), if_pos (beq_self_eq_true _), string, closed]
    | directive named =>
        rw [if_neg (by decide), if_neg (by decide), if_neg (by decide), if_pos (beq_self_eq_true _), directive]
        split
        · contradiction
        · rfl
    | sign noName noDigit noQuote noDirective sign =>
        rw [if_neg (by simp [noName]), if_neg (by simp [noDigit]), if_neg (by simpa using noQuote),
          if_neg (by simpa using noDirective), sign]



/-! #### Strings -/

theorem prepend_eq_iff {front content : List Char} {scan : List Char × StringEnd} :
    prepend front scan = (content, .quote) ↔
      ∃ inside, scan = (inside, .quote) ∧ content = front ++ inside := by
  obtain ⟨inside, ending⟩ := scan
  constructor
  · intro same
    obtain ⟨rfl, rfl⟩ := Prod.mk.inj same
    exact ⟨inside, rfl, rfl⟩
  · rintro ⟨_, same, rfl⟩
    cases same
    rfl

/-- **A closed string is closed whatever follows it.** -/
theorem stringContent_append {state : StringState} {text content : List Char}
    (closed : stringContent state text = (content, .quote)) :
    ∃ rest, text = content ++ '"' :: rest ∧
      ∀ other, stringContent state (content ++ '"' :: other) = (content, .quote) := by
  fun_induction stringContent state text generalizing content with
  | case1 => cases closed
  | case2 depth c rest ih | case3 depth rest ih | case4 depth c rest noParen ih =>
      obtain ⟨inside, scanned, rfl⟩ := prepend_eq_iff.mp closed
      obtain ⟨tail, rfl, again⟩ := ih scanned
      refine ⟨tail, rfl, fun other => ?_⟩
      rw [List.append_assoc]
      simp only [List.cons_append, List.nil_append]
      rw [stringContent]
      · exact prepend_eq_iff.mpr ⟨inside, again other, rfl⟩
      all_goals assumption
  | case5 rest => cases closed
  | case6 rest =>
      cases closed
      exact ⟨rest, rfl, fun other => by rw [List.nil_append, stringContent]⟩
  | case7 c rest noParen noEscape noBreak noQuote ih =>
      obtain ⟨inside, scanned, rfl⟩ := prepend_eq_iff.mp closed
      obtain ⟨tail, rfl, again⟩ := ih scanned
      refine ⟨tail, rfl, fun other => ?_⟩
      rw [List.append_assoc]
      simp only [List.cons_append, List.nil_append]
      have noBackslash : c ≠ '\\' := by
        rintro rfl
        cases inside <;> exact noEscape _ _ rfl rfl
      rw [stringContent]
      · exact prepend_eq_iff.mpr ⟨inside, again other, rfl⟩
      · exact fun _ same => absurd same noBackslash
      · exact fun _ _ same => absurd same noBackslash
      · exact noBreak
      · exact noQuote
  | case8 depth c rest noParen noEscape ih =>
      obtain ⟨inside, scanned, rfl⟩ := prepend_eq_iff.mp closed
      obtain ⟨tail, rfl, again⟩ := ih scanned
      refine ⟨tail, rfl, fun other => ?_⟩
      rw [List.append_assoc]
      simp only [List.cons_append, List.nil_append]
      have noBackslash : c ≠ '\\' := by
        rintro rfl
        cases inside <;> exact noEscape _ _ rfl rfl
      rw [stringContent]
      · exact prepend_eq_iff.mpr ⟨inside, again other, rfl⟩
      · exact fun _ same => absurd same noBackslash
      · exact fun _ _ same => absurd same noBackslash


/-! #### Signs -/

theorem spelling_ne_nil (sign : Symbol) : sign.spelling.toList ≠ [] := by
  cases sign <;> decide

/-- A sign has no separator behind its first character, and what is there may go on a lexeme. -/
theorem joins_spelling (sign : Symbol) : ∃ first rest, sign.spelling.toList = first :: rest ∧
    Joins rest ∧ ∀ c ∈ rest, c ∉ separators := by
  have joins : Joins sign.spelling.toList.tail := by
    cases sign with
    | ellipsis => exact .two (.inl rfl) '.'
    | arrow | equal | notEqual | lessEqual | greaterEqual | and | or | coalesce => exact .one _
    | _ => exact .nil
  have clean : ∀ c ∈ sign.spelling.toList.tail, c ∉ separators := by
    cases sign <;> simp [Symbol.spelling, separators]
  obtain ⟨first, rest, spelled⟩ := List.exists_cons_of_ne_nil (spelling_ne_nil sign)
  rw [spelled] at joins clean
  exact ⟨first, rest, spelled, joins, clean⟩

/-- A sign at the front of a milder text after another sign stands there before any text that the
milder one replaces. -/
theorem Milder.spelling {before sign : Symbol} {after other : List Char} (milder : Milder other after)
    (found : before.spelling.toList <+: sign.spelling.toList ++ other) :
    before.spelling.toList <+: sign.spelling.toList ++ after := by
  obtain ⟨first, rest, spelled, joins, clean⟩ := joins_spelling before
  obtain ⟨c, more, isSign⟩ := List.exists_cons_of_ne_nil (spelling_ne_nil sign)
  rw [spelled, isSign, List.cons_append] at found ⊢
  obtain ⟨rfl, behind⟩ := List.cons_prefix_cons.mp found
  exact List.cons_prefix_cons.mpr ⟨rfl, milder.append_left more rest joins clean behind⟩

/-- **A sign that is found** is found before any milder text. -/
theorem symbol?_eq_some {attached : Bool} {text : List Char} {found : Lexeme}
    (read : symbol? attached text = some found) :
    ∃ sign after, found = ⟨.symbol sign, sign.spelling.toList, sign.spelling⟩ ∧
      sign.fits attached ∧ text = sign.spelling.toList ++ after ∧
      ∀ other, Milder other after → symbol? attached (sign.spelling.toList ++ other) = some found := by
  obtain ⟨sign, first, rfl⟩ := Option.map_eq_some_iff.mp read
  obtain ⟨fitting, earlier, later, order, skipped⟩ := List.find?_eq_some_iff_append.mp first
  simp only [Bool.and_eq_true] at fitting
  obtain ⟨after, rfl⟩ := List.isPrefixOf_iff_prefix.mp fitting.2
  refine ⟨sign, after, rfl, fitting.1, rfl, fun other milder => ?_⟩
  refine Option.map_eq_some_iff.mpr ⟨sign, ?_, rfl⟩
  refine List.find?_eq_some_iff_append.mpr ⟨?_, earlier, later, order, fun before member => ?_⟩
  · rw [fitting.1, Bool.true_and]
    exact List.isPrefixOf_iff_prefix.mpr ⟨other, rfl⟩
  · -- an earlier sign at the front of the new text would stand at the front of the old one
    have := skipped before member
    simp only [Bool.not_eq_true', Bool.and_eq_false_iff] at this ⊢
    refine this.imp_right fun notPrefix => Bool.eq_false_iff.mpr fun isPrefix => ?_
    have moved := milder.spelling (List.isPrefixOf_iff_prefix.mp isPrefix)
    rw [List.isPrefixOf_iff_prefix.mpr moved] at notPrefix
    cases notPrefix


/-! #### Numbers -/

/-- Whether a text goes on with a point and a digit. -/
def GoesOnAsFloat (text : List Char) : Prop :=
  ∃ next rest, text = '.' :: next :: rest ∧ next.isDigit = true

/-- The lexeme of the digits of a number. -/
def digitsLexeme (kind : TokenKind) (characters : List Char) : Lexeme :=
  ⟨kind, characters, String.ofList (characters.filter (· != '_'))⟩

theorem number_of_float {text : List Char} {next : Char} {rest : List Char}
    (point : text.dropWhile continuesNumber = '.' :: next :: rest) (digit : next.isDigit = true) :
    number text = digitsLexeme .float
      (text.takeWhile continuesNumber ++ '.' :: (next :: rest).takeWhile continuesNumber) := by
  unfold number
  rw [point]
  simp only [digit, if_true, digitsLexeme]

theorem number_of_integer {text : List Char}
    (noPoint : ¬ GoesOnAsFloat (text.dropWhile continuesNumber)) :
    number text = digitsLexeme .integer (text.takeWhile continuesNumber) := by
  unfold number
  split
  · next next rest point =>
      rw [if_neg]
      · rfl
      · intro digit
        exact noPoint ⟨next, rest, point, digit⟩
  · rfl

theorem Milder.not_goesOnAsFloat {other text : List Char} (milder : Milder other text)
    (noPoint : ¬ GoesOnAsFloat text) : ¬ GoesOnAsFloat other := by
  rintro ⟨next, more, rfl, digit⟩
  have noDigit : ∀ c ∈ separators, c.isDigit = false :=
    forall_mem_separators.mpr (by decide)
  have clean : ∀ c ∈ ['.', next], c ∉ separators := by
    refine List.forall_mem_cons.mpr ⟨by decide, List.forall_mem_singleton.mpr fun separates => ?_⟩
    rw [noDigit next separates] at digit
    cases digit
  obtain ⟨tail, same⟩ := milder ['.', next] (.two (.inl rfl) next) clean ⟨more, rfl⟩
  exact noPoint ⟨next, tail, same.symm, digit⟩

/-- **A number is the same** before any milder text. -/
theorem number_parts (text : List Char) : ∃ after, text = (number text).characters ++ after ∧
    ∀ other, Milder other after → number ((number text).characters ++ other) = number text := by
  have whole := text.takeWhile_append_dropWhile (p := continuesNumber)
  have inside := forall_mem_takeWhile (p := continuesNumber) text
  by_cases point : GoesOnAsFloat (text.dropWhile continuesNumber)
  · obtain ⟨next, rest, point, digit⟩ := point
    rw [number_of_float point digit]
    refine ⟨(next :: rest).dropWhile continuesNumber, ?_, fun other milder => ?_⟩
    · simp only [digitsLexeme, List.append_assoc, List.cons_append,
        List.takeWhile_append_dropWhile]
      rw [← point, whole]
    · have stops := milder.stops (forall_mem_separators.mpr (by decide))
      have run := takeWhile_append_of_stops (forall_mem_takeWhile (next :: rest)) stops
      have continues : continuesNumber next = true := by simp [continuesNumber, digit]
      have split : (next :: rest).takeWhile continuesNumber =
          next :: rest.takeWhile continuesNumber := List.takeWhile_cons_of_pos continues
      have pointStops : ∀ c ∈ ('.' :: ((next :: rest).takeWhile continuesNumber ++ other)).head?,
          continuesNumber c = false := by
        rintro c ⟨⟩
        decide
      simp only [digitsLexeme, List.append_assoc, List.cons_append]
      have cut := dropWhile_append_of_stops inside pointStops
      rw [split, List.cons_append] at cut
      rw [split, List.cons_append, number_of_float cut digit, ← List.cons_append, ← split, run,
        takeWhile_append_of_stops inside pointStops, digitsLexeme]
  · rw [number_of_integer point]
    refine ⟨text.dropWhile continuesNumber, whole.symm, fun other milder => ?_⟩
    have stops := milder.stops (forall_mem_separators.mpr (by decide))
    have noPoint := milder.not_goesOnAsFloat point
    simp only [digitsLexeme]
    rw [number_of_integer (by rwa [dropWhile_append_of_stops inside stops]),
      takeWhile_append_of_stops inside stops, digitsLexeme]

/-! #### All lexemes -/


theorem number_ne_nil {first : Char} {rest : List Char} (digit : first.isDigit = true) :
    (number (first :: rest)).characters ≠ [] := by
  have continues : continuesNumber first = true := by simp [continuesNumber, digit]
  by_cases point : GoesOnAsFloat ((first :: rest).dropWhile continuesNumber)
  · obtain ⟨next, more, point, isDigit⟩ := point
    simp [number_of_float point isDigit, digitsLexeme]
  · simp [number_of_integer point, digitsLexeme, List.takeWhile_cons_of_pos continues]

/-- **A lexeme is a part of the text**, and stays the same before any milder text. -/
theorem Opens.parts {attached : Bool} {text : List Char} {found : Lexeme}
    (opens : Opens attached text found) :
    found.characters ≠ [] ∧ ∃ after, text = found.characters ++ after ∧
      ∀ other, Milder other after → Opens attached (found.characters ++ other) found := by
  cases opens with
  | @word first rest starts =>
      refine ⟨List.cons_ne_nil _ _, rest.dropWhile continuesName, by simp [Lexer.word], ?_⟩
      intro other milder
      have stops := milder.stops (forall_mem_separators.mpr (by decide))
      have same := takeWhile_append_of_stops (forall_mem_takeWhile rest) stops
      have opens := @Opens.word attached first (rest.takeWhile continuesName ++ other) starts
      simpa [Lexer.word, same] using opens
  | @number first rest noName digit =>
      obtain ⟨after, cut, again⟩ := number_parts (first :: rest)
      have taken := @number_ne_nil first rest digit
      refine ⟨taken, after, cut, fun other milder => ?_⟩
      obtain ⟨c, tail, same⟩ := List.exists_cons_of_ne_nil taken
      have found := again other milder
      rw [same, List.cons_append] at found cut
      obtain ⟨rfl, -⟩ := List.cons.inj cut
      rw [same, List.cons_append, ← found]
      exact .number noName digit
  | @string rest content closed =>
      obtain ⟨tail, rfl, again⟩ := stringContent_append closed
      refine ⟨List.cons_ne_nil _ _, tail, by simp, fun other _ => ?_⟩
      simpa using Opens.string (again other)
  | @directive rest named =>
      refine ⟨List.cons_ne_nil _ _, rest.dropWhile continuesName, by simp, ?_⟩
      intro other milder
      have stops := milder.stops (forall_mem_separators.mpr (by decide))
      have same := takeWhile_append_of_stops (forall_mem_takeWhile rest) stops
      have opens := @Opens.directive attached (rest.takeWhile continuesName ++ other)
      rw [same] at opens
      exact opens named
  | @sign first rest found noName noDigit noQuote noDirective read =>
      obtain ⟨sign, after, rfl, -, cut, again⟩ := symbol?_eq_some read
      refine ⟨spelling_ne_nil sign, after, cut, fun other milder => ?_⟩
      obtain ⟨c, tail, spelled⟩ := List.exists_cons_of_ne_nil (spelling_ne_nil sign)
      have found := again other milder
      show Opens attached (sign.spelling.toList ++ other) _
      rw [spelled, List.cons_append] at cut found ⊢
      obtain ⟨rfl, -⟩ := List.cons.inj cut
      exact .sign noName noDigit noQuote noDirective found

theorem Opens.ne_nil {attached : Bool} {text : List Char} {found : Lexeme}
    (opens : Opens attached text found) : found.characters ≠ [] :=
  opens.parts.1

/-- **A milder text after a lexeme** leaves the lexeme as it is. -/
theorem Opens.replace {attached : Bool} {after other : List Char} {found : Lexeme}
    (opens : Opens attached (found.characters ++ after) found) (milder : Milder other after) :
    Opens attached (found.characters ++ other) found := by
  obtain ⟨-, tail, cut, again⟩ := opens.parts
  obtain rfl := List.append_cancel_left cut
  exact again other milder

end ResultBuilder.Syntax.Lexer
