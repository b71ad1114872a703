import Mathlib.Order.Nat
import ResultBuilder.Proofs.Syntax.Legible

/-!
# Pieces that are printed

Words, numbers, strings and signs after a number of spaces. They are cut as they are printed, when
the text after them does not go on with them.

Main statements: `symbol?_spelling` and the `lexes_` equivalences, one for each kind of piece.
-/

namespace ResultBuilder

/-! ### Classes of characters -/

/-- Sets that no interval of one shares with an interval of the other have no common character. -/
theorem Text.Ranges.contains_eq_false {first second : Text.Ranges} {c : Char}
    (apart : ∀ one ∈ first, ∀ other ∈ second, one.2 < other.1 ∨ other.2 < one.1)
    (inside : first.contains c = true) : second.contains c = false := by
  obtain ⟨one, member, within⟩ := List.any_eq_true.mp inside
  have within := of_decide_eq_true within
  refine List.any_eq_false.mpr fun other listed held => ?_
  have held := of_decide_eq_true held
  have := apart one member other listed
  omega

/-- Letters in the first block of characters. -/
theorem Text.isAlpha_eq_contains (c : Char) :
    c.isAlpha = Text.Ranges.contains [(0x41, 0x5A), (0x61, 0x7A)] c := by
  show (decide (65 ≤ c.val ∧ c.val ≤ 90) || decide (97 ≤ c.val) && decide (c.val ≤ 122)) = _
  simp [Text.Ranges.contains, UInt32.le_iff_toNat_le]

/-- White space is no letter. -/
theorem Text.isAlphabetic_of_isBlank {c : Char} (isBlank : Text.isBlank c = true) :
    Text.isAlphabetic c = false := by
  unfold Text.isAlphabetic
  split
  · rw [Text.isAlpha_eq_contains]
    exact Text.Ranges.contains_eq_false (by decide) isBlank
  · exact Text.Ranges.contains_eq_false (by decide +kernel) isBlank

namespace Syntax

/-! ### Signs -/

/-- Whether a sign and a character after it would be taken together, as a longer sign or as the
start of a comment. -/
def Symbol.joins : Symbol → Char → Bool
  | .dot, c => c == '.'
  | .minus, c => c == '>'
  | .bang, c | .attachedBang, c | .less, c | .greater, c | .assign, c => c == '='
  | .question, c => c == '?'
  | .slash, c => c == '/' || c == '*'
  | _, _ => false

/-- The signs that nothing before or after them is taken together with. -/
def Symbol.isSolid : Symbol → Bool
  | .braceOpen | .braceClose | .parenOpen | .parenClose | .bracketOpen | .bracketClose | .comma
  | .colon | .semicolon => true
  | _ => false

namespace Lexer

/-- White space does not start a name. -/
theorem isBlank_of_startsName {c : Char} (starts : startsName c = true) :
    Text.isBlank c = false := by
  refine Bool.eq_false_iff.mpr fun isBlank => ?_
  simp only [startsName, Text.isAlphabetic_of_isBlank isBlank, Bool.or_false, Bool.or_eq_true,
    beq_iff_eq] at starts
  rcases starts with rfl | rfl <;> exact absurd isBlank (by decide)

/-- A digit does not start a name. -/
theorem startsName_of_isDigit {c : Char} (digit : c.isDigit = true) : startsName c = false := by
  have inside : Text.Ranges.contains [(0x30, 0x39)] c = true := by
    simpa [Text.Ranges.contains, Char.isDigit, UInt32.le_iff_toNat_le] using digit
  have noLetter : Text.Ranges.contains [(0x24, 0x24), (0x41, 0x5A), (0x5F, 0x5F), (0x61, 0x7A)] c =
      false :=
    Text.Ranges.contains_eq_false (by decide) inside
  have ascii : c.toNat < 0x80 := by
    simp [Text.Ranges.contains] at inside
    omega
  refine Bool.eq_false_iff.mpr fun starts => ?_
  simp only [startsName, Text.isAlphabetic, ascii, if_true, Bool.or_eq_true, beq_iff_eq] at starts
  rcases starts with (rfl | letter) | rfl
  · exact absurd digit (by decide)
  · rw [Text.isAlpha_eq_contains] at letter
    simp [Text.Ranges.contains] at noLetter letter
    omega
  · exact absurd digit (by decide)

theorem isBlank_of_isDigit {c : Char} (digit : c.isDigit = true) : Text.isBlank c = false := by
  refine Bool.eq_false_iff.mpr fun isBlank => ?_
  have notDigit : Text.Ranges.contains [(0x30, 0x39)] c = false :=
      Text.Ranges.contains_eq_false (by decide) isBlank
  simp [Text.Ranges.contains, Char.isDigit, UInt32.le_iff_toNat_le] at notDigit digit
  omega

/-- Alone, a sign is found wherever it fits. -/
theorem symbol?_alone : ∀ sign ∈ Symbol.longestFirst, ∀ attached, sign.fits attached = true →
    symbol? attached sign.spelling.toList =
      some ⟨.symbol sign, sign.spelling.toList, sign.spelling⟩ := by
  decide

/-- A sign that goes on longer than another does so with a character that joins. -/
theorem joins_of_longer : ∀ sign ∈ Symbol.longestFirst, ∀ other ∈ Symbol.longestFirst, ∀ attached,
    sign.fits attached = true → other.fits attached = true →
    sign.spelling.toList.isPrefixOf other.spelling.toList = true →
    sign.spelling = other.spelling ∨
      (other.spelling.toList.drop sign.spelling.toList.length).head?.any sign.joins = true := by
  decide

theorem mem_longestFirst {sign : Symbol} (isSign : sign ≠ .underscore) :
    sign ∈ Symbol.longestFirst := by
  cases sign <;> first | exact absurd rfl isSign | decide

/-- **A sign is found** where it fits and nothing after it joins it. -/
theorem symbol?_spelling {attached : Bool} {sign : Symbol} {following : List Char}
    (isSign : sign ≠ .underscore) (fits : sign.fits attached = true)
    (apart : ∀ c ∈ following.head?, sign.joins c = false) :
    symbol? attached (sign.spelling.toList ++ following) =
      some ⟨.symbol sign, sign.spelling.toList, sign.spelling⟩ := by
  have alone := symbol?_alone sign (mem_longestFirst isSign) attached fits
  obtain ⟨found, first, same⟩ := Option.map_eq_some_iff.mp alone
  obtain rfl : found = sign := by
    injection same with kind
    exact TokenKind.symbol.inj kind
  obtain ⟨-, earlier, later, order, skipped⟩ := List.find?_eq_some_iff_append.mp first
  refine Option.map_eq_some_iff.mpr ⟨found, List.find?_eq_some_iff_append.mpr
    ⟨?_, earlier, later, order, fun before member => ?_⟩, rfl⟩
  · rw [fits, Bool.true_and]
    exact List.isPrefixOf_iff_prefix.mpr (List.prefix_append _ _)
  · -- an earlier sign at the front of the text is longer and goes on with a character that joins
    have missed := skipped before member
    simp only [Bool.not_eq_true', Bool.and_eq_false_iff] at missed ⊢
    by_cases beforeFits : before.fits attached = true
    · refine .inr (Bool.eq_false_iff.mpr fun isFront => ?_)
      have notFront := missed.resolve_left (by simp [beforeFits])
      rcases List.prefix_or_prefix_of_prefix (List.isPrefixOf_iff_prefix.mp isFront)
        (List.prefix_append found.spelling.toList following) with shorter | longer
      · rw [List.isPrefixOf_iff_prefix.mpr shorter] at notFront
        cases notFront
      · have listed : before ∈ Symbol.longestFirst := by rw [order]; simp [member]
        rcases joins_of_longer found (mem_longestFirst isSign) before listed attached fits
          beforeFits (List.isPrefixOf_iff_prefix.mpr longer) with same | joined
        · rw [← same, List.isPrefixOf_iff_prefix.mpr (List.prefix_refl _)] at notFront
          cases notFront
        · obtain ⟨c, next, joins⟩ := (Option.any_eq_true _ _).mp joined
          obtain ⟨rest, split⟩ := longer
          rw [← split, List.drop_left] at next
          obtain ⟨tail, rfl⟩ := List.head?_eq_some_iff.mp next
          obtain ⟨more, whole⟩ := List.isPrefixOf_iff_prefix.mp isFront
          rw [← split, List.append_assoc] at whole
          obtain rfl := List.append_cancel_left whole
          rw [apart c rfl] at joins
          cases joins
    · exact .inl (by simpa using beforeFits)

/-! ### What follows -/

/-- **A loose text** is one that no word, number or sign that ends an operand goes on with. -/
structure Loose (following : List Char) : Prop where
  word : ∀ c ∈ following.head?, continuesName c = false
  sign : ∀ c ∈ following.head?, c ≠ '='
  number : ¬ GoesOnAsFloat following

theorem loose_nil : Loose [] where
  word := nofun
  sign := nofun
  number := nofun

/-- A text is loose by its first character, unless that is a point. -/
theorem loose_cons {c : Char} (word : continuesName c = false) (sign : c ≠ '=') (number : c ≠ '.')
    (tail : List Char) : Loose (c :: tail) where
  word := by rintro _ ⟨⟩; exact word
  sign := by rintro _ ⟨⟩; exact sign
  number := by rintro ⟨_, _, same, -⟩; exact number (List.cons.inj same).1

/-- A point with a name after it is loose. -/
theorem loose_cons_point {c : Char} (starts : startsName c = true) (tail : List Char) :
    Loose ('.' :: c :: tail) where
  word := by rintro _ ⟨⟩; decide
  sign := by rintro _ ⟨⟩; decide
  number := by
    rintro ⟨_, _, same, digit⟩
    cases same
    rw [startsName_of_isDigit digit] at starts
    cases starts

/-! ### Pieces -/

namespace Piece

/-- A lexeme after a number of spaces. -/
def spaced (gap : Nat) (lexeme : Lexeme) : Piece :=
  ⟨List.replicate gap ' ', lexeme⟩

/-- A sign after a number of spaces. -/
def sign (gap : Nat) (sign : Symbol) : Piece :=
  spaced gap ⟨.symbol sign, sign.spelling.toList, sign.spelling⟩

/-- A name, a keyword or an underscore after a number of spaces. -/
def word (gap : Nat) (text : String) : Piece :=
  spaced gap ⟨wordKind text, text.toList, text⟩

/-- A string after a number of spaces. -/
def string (gap : Nat) (content : String) : Piece :=
  spaced gap ⟨.string, '"' :: content.toList ++ ['"'], content⟩

/-- A natural number after a number of spaces. -/
def number (gap value : Nat) : Piece :=
  spaced gap ⟨.integer, (toString value).toList, toString value⟩

/-- A directive after a number of spaces. -/
def directive (gap : Nat) (name : String) : Piece :=
  spaced gap ⟨.directive, '#' :: name.toList, name⟩

end Piece

variable {afterOperand : Bool} {gap : Nat} {lexeme : Lexeme} {pieces : List Piece}
  {following : List Char}

theorem skips_spaces {text : List Char} (skips : Skips text []) :
    Skips (List.replicate gap ' ' ++ text) (List.replicate gap ' ') := by
  induction gap with
  | zero => exact skips
  | succ gap ih => exact ih.space

theorem lexes_spaced (skips : Skips (lexeme.characters ++ (render pieces ++ following)) [])
    (opens : Opens (afterOperand && gap == 0) (lexeme.characters ++ (render pieces ++ following))
      lexeme) : Lexes afterOperand (.spaced gap lexeme :: pieces) following ↔
      Lexes lexeme.kind.endsOperand pieces following := by
  have noGap : (List.replicate gap ' ').isEmpty = (gap == 0) := by cases gap <;> rfl
  constructor
  · rintro ⟨-, -, rest⟩
    exact rest
  · intro rest
    refine ⟨skips_spaces skips, ?_, rest⟩
    simp only [Piece.spaced, noGap]
    exact opens

/-- A sign starts like no other lexeme; only a slash starts like a comment. -/
theorem first_of_spelling : ∀ sign ∈ Symbol.longestFirst, ∀ first ∈ sign.spelling.toList.head?,
    startsName first = false ∧ first.isDigit = false ∧ first ≠ '"' ∧ first ≠ '#' ∧
      Text.isBlank first = false ∧ (first = '/' → sign = .slash) := by
  have checked : ∀ sign ∈ Symbol.longestFirst, sign.spelling.toList.head?.all (fun first =>
      decide (startsName first = false ∧ first.isDigit = false ∧ first ≠ '"' ∧ first ≠ '#' ∧
        Text.isBlank first = false ∧ (first = '/' → sign = .slash))) = true := by
    decide
  intro sign listed first isFirst
  exact of_decide_eq_true ((Option.all_eq_true _ _).mp (checked sign listed) first isFirst)

/-- **A sign is cut as it is printed** where it fits and nothing after it joins it. -/
theorem lexes_sign {sign : Symbol} (isSign : sign ≠ .underscore)
    (fits : sign.fits (afterOperand && gap == 0) = true)
    (apart : ∀ c ∈ (render pieces ++ following).head?, sign.joins c = false) :
    Lexes afterOperand (.sign gap sign :: pieces) following ↔
      Lexes (TokenKind.symbol sign).endsOperand pieces following := by
  have found := symbol?_spelling isSign fits apart
  obtain ⟨first, tail, spelled⟩ := List.exists_cons_of_ne_nil (spelling_ne_nil sign)
  obtain ⟨noName, noDigit, noQuote, noDirective, solid, noComment⟩ :=
    first_of_spelling sign (mem_longestFirst isSign) first (by rw [spelled]; rfl)
  refine lexes_spaced ?_ ?_
  · show Skips (sign.spelling.toList ++ (render pieces ++ following)) []
    rw [spelled, List.cons_append]
    by_cases slash : first = '/'
    · obtain rfl := noComment slash
      have alone : Symbol.slash.spelling.toList = ['/'] := by decide
      obtain ⟨rfl, rfl⟩ := List.cons.inj (alone.symm.trans spelled)
      refine skips_nil_iff.mpr ⟨solid, ?_, ?_⟩
      all_goals
        rintro ⟨more, same⟩
        have next : _ = render pieces ++ following := (List.cons.inj same).2
        rw [← next] at apart
        cases apart _ rfl
    · exact skips_nil_of_solid solid slash _
  · show Opens (afterOperand && gap == 0) (sign.spelling.toList ++ (render pieces ++ following)) _
    rw [spelled, List.cons_append] at found ⊢
    exact .sign noName noDigit noQuote noDirective found

theorem Symbol.of_isSolid {sign : Symbol} (solid : sign.isSolid = true) :
    sign ≠ .underscore ∧ (∀ attached, sign.fits attached = true) ∧ (∀ c, sign.joins c = false) ∧
      ∃ first ∈ sign.spelling.toList.head?,
        continuesName first = false ∧ first ≠ '=' ∧ first ≠ '>' ∧ first ≠ '.' := by
  cases sign
  all_goals first
    | exact absurd solid (by decide)
    | exact ⟨by decide, by decide, fun _ => rfl, _, rfl, by decide⟩

/-- **A solid sign is cut as it is printed**, whatever stands beside it. -/
theorem lexes_solid {sign : Symbol} (solid : sign.isSolid = true) :
    Lexes afterOperand (.sign gap sign :: pieces) following ↔
      Lexes (TokenKind.symbol sign).endsOperand pieces following := by
  obtain ⟨isSign, fits, apart, -⟩ := Symbol.of_isSolid solid
  exact lexes_sign isSign (fits _) fun c _ => apart c

/-- **A word is cut as it is printed** when what follows does not go on with it. -/
theorem lexes_word {kind : TokenKind} {text : String} (isWord : IsWord kind text)
    (stops : ∀ c ∈ (render pieces ++ following).head?, continuesName c = false) :
    Lexes afterOperand (.word gap text :: pieces) following ↔
      Lexes kind.endsOperand pieces following := by
  obtain ⟨first, rest, starts, continues, rfl, rfl⟩ := isWord
  have run := takeWhile_append_of_stops continues stops
  have opens := @Opens.word (afterOperand && gap == 0) first
    (rest ++ (render pieces ++ following)) starts
  rw [Lexer.word, run] at opens
  have noSlash : first ≠ '/' := by
    rintro rfl
    exact absurd starts (by decide)
  refine lexes_spaced ?_ ?_
  · simpa using skips_nil_of_solid (isBlank_of_startsName starts) noSlash _
  · simpa using opens

/-- **A string is cut as it is printed.** -/
theorem lexes_string {content : String} (quotable : IsQuotable content) :
    Lexes afterOperand (.string gap content :: pieces) following ↔ Lexes true pieces following := by
  have opens := @Opens.string (afterOperand && gap == 0) _ _
    (quotable (render pieces ++ following))
  refine lexes_spaced ?_ ?_
  · exact skips_nil_of_solid (by decide) (by decide) _
  · simpa using opens

/-! #### Numbers -/

/-- A natural number is printed in digits. -/
theorem isDigit_of_mem_toString {value : Nat} {c : Char} (member : c ∈ (toString value).toList) :
    c.isDigit = true := by
  rw [Nat.toString_eq_repr, Nat.toList_repr] at member
  exact Nat.isDigit_of_mem_toDigits (by decide) (by decide) member

/-- A printed natural number denotes itself. -/
theorem digitsValue_toString (value : Nat) : digitsValue (toString value).toList = value := by
  rw [Nat.toString_eq_repr, Nat.toList_repr]
  exact (Nat.ofDigitChars_eq_foldl).symm.trans Nat.ofDigitChars_ten_toDigits

theorem continuesNumber_of_not_continuesName {c : Char} (stops : continuesName c = false) :
    continuesNumber c = false := by
  simp only [continuesName, Bool.or_eq_false_iff] at stops
  refine Bool.or_eq_false_iff.mpr ⟨Bool.eq_false_iff.mpr fun digit => ?_, stops.1⟩
  have ascii : c.toNat < 0x80 := by
    simp [Char.isDigit, UInt32.le_iff_toNat_le] at digit
    omega
  have alphanumeric : Text.isAlphanumeric c = true := by
    simp [Text.isAlphanumeric, ascii, Char.isAlphanum, digit]
  exact absurd (stops.2.symm.trans alphanumeric) Bool.false_ne_true

/-- **A number is cut as it is printed** when what follows does not go on with it. -/
theorem lexes_number {value : Nat} (loose : Loose (render pieces ++ following)) :
    Lexes afterOperand (.number gap value :: pieces) following ↔ Lexes true pieces following := by
  have digits := @isDigit_of_mem_toString value
  obtain ⟨first, rest, spelled⟩ := List.exists_cons_of_ne_nil
    (show (toString value).toList ≠ [] by simp)
  have digit : first.isDigit = true := digits (by rw [spelled]; exact List.mem_cons_self)
  have continues : ∀ c ∈ first :: rest, continuesNumber c = true := fun c member => by
    simp [continuesNumber, digits (by rwa [spelled])]
  have stops : ∀ c ∈ (render pieces ++ following).head?, continuesNumber c = false :=
    fun c isFirst => continuesNumber_of_not_continuesName (loose.word c isFirst)
  have noSlash : first ≠ '/' := by
    rintro rfl
    exact absurd digit (by decide)
  have found : Lexer.number (first :: rest ++ (render pieces ++ following)) =
      ⟨.integer, (toString value).toList, toString value⟩ := by
    have noUnderscore : ∀ c ∈ first :: rest, (c != '_') = true := fun c member => by
      have digit := digits (by rwa [spelled])
      rw [bne_iff_ne]
      rintro rfl
      exact absurd digit (by decide)
    rw [number_of_integer, digitsLexeme, takeWhile_append_of_stops continues stops,
      List.filter_eq_self.mpr noUnderscore, ← spelled, String.ofList_toList]
    rw [dropWhile_append_of_stops continues stops]
    exact loose.number
  refine lexes_spaced ?_ ?_
  · show Skips ((toString value).toList ++ _) []
    rw [spelled]
    exact skips_nil_of_solid (isBlank_of_isDigit digit) noSlash _
  · have opens := @Opens.number (afterOperand && gap == 0) first
      (rest ++ (render pieces ++ following)) (startsName_of_isDigit digit) digit
    rw [← List.cons_append, found, ← spelled] at opens
    exact opens

/-- **A directive is cut as it is printed** when what follows does not go on with its name. -/
theorem lexes_directive {name : String} (nonempty : name ≠ "")
    (named : ∀ c ∈ name.toList, continuesName c = true)
    (stops : ∀ c ∈ (render pieces ++ following).head?, continuesName c = false) :
    Lexes afterOperand (.directive gap name :: pieces) following ↔
      Lexes false pieces following := by
  have run := takeWhile_append_of_stops named stops
  have opens := @Opens.directive (afterOperand && gap == 0)
    (name.toList ++ (render pieces ++ following))
  rw [run, String.ofList_toList] at opens
  exact lexes_spaced (skips_nil_of_solid (by decide) (by decide) _)
    (opens (by simpa using nonempty))

/-! ### Printed texts -/

/-- Nothing is joined with a space. -/
theorem joins_blank (sign : Symbol) : sign.joins ' ' = false := by
  cases sign <;> rfl

/-- A lexeme of one of some kinds, which a sign that may stand directly before it does not join. -/
def Lexeme.Starts (kinds : TokenKind → Bool) (lexeme : Lexeme) : Prop :=
  kinds lexeme.kind = true ∧ ∃ c ∈ lexeme.characters.head?, c ≠ '=' ∧ c ≠ '>'

/-- The kind of the piece of a word. -/
theorem wordKind_of_isWord {kind : TokenKind} {word : String} (isWord : IsWord kind word) :
    wordKind word = kind := by
  obtain ⟨-, -, -, -, -, isKind⟩ := isWord
  exact isKind

theorem starts_word {kinds : TokenKind → Bool} {kind : TokenKind} {word : String}
    (isWord : IsWord kind word) (starts : kinds kind = true) :
    Lexeme.Starts kinds ⟨wordKind word, word.toList, word⟩ := by
  refine ⟨(congrArg kinds (wordKind_of_isWord isWord)).trans starts, ?_⟩
  obtain ⟨first, rest, isStart, -, rfl, -⟩ := isWord
  refine ⟨first, by simp, ?_, ?_⟩
  all_goals
    rintro rfl
    exact absurd isStart (by decide)

/-- **A text that is printed as pieces** after a number of spaces and starts with a lexeme of one of
some kinds. It is cut into these pieces before every loose text, unless a mark at its start would be
attached to what is before it. -/
structure Printed (kinds : TokenKind → Bool) (gap : Nat) (text : String) (pieces : List Piece) :
    Prop where
  text : render pieces = List.replicate gap ' ' ++ text.toList
  opens : ∃ lexeme rest, pieces = .spaced gap lexeme :: rest ∧ lexeme.Starts kinds
  lexes : ∀ {afterOperand following}, (afterOperand = true → 0 < gap) → Loose following →
    Lexes afterOperand pieces following

variable {kinds : TokenKind → Bool} {text : String}

theorem loose_spaced (some : 0 < gap) : Loose (render (.spaced gap lexeme :: pieces) ++ following) := by
  obtain ⟨gap, rfl⟩ := Nat.exists_eq_succ_of_ne_zero some.ne'
  exact loose_cons (by decide) (by decide) (by decide) _

/-- Signs that a point or an equals sign does not start are loose. -/
theorem loose_sign {sign : Symbol} (loose : sign.spelling.toList.head?.all (fun c =>
    !continuesName c && c != '=' && c != '.') = true) :
    Loose (render (.sign gap sign :: pieces) ++ following) := by
  cases gap with
  | zero =>
      obtain ⟨first, tail, spelled⟩ := List.exists_cons_of_ne_nil (spelling_ne_nil sign)
      have first_loose := (Option.all_eq_true _ _).mp loose first (by rw [spelled]; rfl)
      simp only [Bool.and_eq_true, Bool.not_eq_true', bne_iff_ne] at first_loose
      obtain ⟨⟨word, noEqual⟩, noPoint⟩ := first_loose
      simp only [render_cons, Piece.sign, Piece.spaced, spelled]
      exact loose_cons word noEqual noPoint _
  | succ gap => exact loose_spaced (Nat.succ_pos gap)

theorem loose_solid {sign : Symbol} (solid : sign.isSolid = true) :
    Loose (render (.sign gap sign :: pieces) ++ following) := by
  obtain ⟨-, -, -, first, isFirst, word, noEqual, -, noPoint⟩ := Symbol.of_isSolid solid
  refine loose_sign ((Option.all_eq_true _ _).mpr fun c same => ?_)
  obtain rfl := Option.mem_unique isFirst same
  simp [word, noEqual, noPoint]

/-- A word starts a name. -/
theorem exists_first_of_word {kind : TokenKind} {word : String} (isWord : IsWord kind word) :
    ∃ first tail, render (.word 0 word :: pieces) ++ following = first :: tail ∧
      startsName first = true := by
  obtain ⟨first, rest, starts, -, rfl, -⟩ := isWord
  exact ⟨first, _, by simp [Piece.word, Piece.spaced]; rfl, starts⟩

/-- A point with a word after it is loose. -/
theorem loose_point {kind : TokenKind} {word : String} (isWord : IsWord kind word) :
    Loose (render (.sign 0 .dot :: .word 0 word :: pieces) ++ following) := by
  obtain ⟨first, tail, same, starts⟩ := exists_first_of_word isWord
  rw [render_cons, List.append_assoc, List.append_assoc, same]
  exact loose_cons_point starts tail

/-- No word starts with what a sign is joined with. -/
theorem joins_of_startsName {c : Char} (sign : Symbol) (starts : startsName c = true) :
    sign.joins c = false := by
  refine Bool.eq_false_iff.mpr fun joins => ?_
  cases sign <;> simp only [Symbol.joins, Bool.or_eq_true, beq_iff_eq, Bool.false_eq_true] at joins
  all_goals first
    | exact absurd starts (by rw [joins]; decide)
    | rcases joins with rfl | rfl <;> exact absurd starts (by decide)

/-- A sign stays apart from a word after it. -/
theorem apart_word {kind : TokenKind} {word : String} {sign : Symbol} (isWord : IsWord kind word) :
    ∀ c ∈ (render (.word gap word :: pieces) ++ following).head?, sign.joins c = false := by
  cases gap with
  | zero =>
      obtain ⟨first, tail, same, starts⟩ := exists_first_of_word isWord
      rw [same]
      rintro c ⟨⟩
      exact joins_of_startsName sign starts
  | succ gap =>
      rintro c ⟨⟩
      exact joins_blank sign

/-- A mark directly after an operand is cut as one. -/
theorem lexes_mark {sign : Symbol} (isMark : sign = .attachedQuestion ∨ sign = .attachedBang)
    (loose : Loose (render pieces ++ following)) :
    Lexes true (.sign 0 sign :: pieces) following ↔ Lexes true pieces following := by
  rcases isMark with rfl | rfl
  · exact lexes_sign (by decide) rfl fun _ _ => rfl
  · exact lexes_sign (by decide) rfl fun c first => beq_eq_false_iff_ne.mpr (loose.sign c first)

namespace Printed

theorem mono {wider : TokenKind → Bool} (printed : Printed kinds gap text pieces)
    (more : ∀ kind, kinds kind = true → wider kind = true) : Printed wider gap text pieces where
  text := printed.text
  opens := by
    obtain ⟨lexeme, rest, rfl, starts, first⟩ := printed.opens
    exact ⟨lexeme, rest, rfl, more _ starts, first⟩
  lexes := printed.lexes

theorem loose (printed : Printed kinds gap text pieces) (some : 0 < gap) :
    Loose (render pieces ++ following) := by
  obtain ⟨lexeme, rest, rfl, -⟩ := printed.opens
  exact loose_spaced some

/-- A sign stays apart from a printed text after it. -/
theorem apart {sign : Symbol} (printed : Printed kinds gap text pieces)
    (alone : 0 < gap ∨ ∀ c, c ≠ '=' → c ≠ '>' → sign.joins c = false) :
    ∀ c ∈ (render pieces ++ following).head?, sign.joins c = false := by
  obtain ⟨lexeme, rest, rfl, -, first, isFirst, noEqual, noGreater⟩ := printed.opens
  obtain ⟨tail, same⟩ := List.head?_eq_some_iff.mp isFirst
  cases gap with
  | zero =>
      simp only [render_cons, Piece.spaced, same]
      rintro c ⟨⟩
      exact (alone.resolve_left (lt_irrefl 0)) first noEqual noGreater
  | succ gap =>
      rintro c ⟨⟩
      exact joins_blank sign

/-- A word that is printed. -/
theorem word {kind : TokenKind} {word : String} (isWord : IsWord kind word)
    (starts : kinds kind = true) : Printed kinds gap word [.word gap word] := by
  refine ⟨by simp [Piece.word, Piece.spaced], ⟨_, _, rfl, starts_word isWord starts⟩,
    fun _ loose => ?_⟩
  exact (@lexes_word _ _ [] _ _ _ isWord loose.word).mpr trivial

/-- Two printed texts with a space between them. -/
theorem append {others : TokenKind → Bool} {other : String} {more : List Piece}
    (printed : Printed kinds gap text pieces) (next : Printed others 1 other more) :
    Printed kinds gap (text ++ " " ++ other) (pieces ++ more) := by
  obtain ⟨lexeme, rest, rfl, starts⟩ := printed.opens
  refine ⟨?_, ⟨lexeme, _, rfl, starts⟩, fun space following => ?_⟩
  · rw [render_append, printed.text, next.text]
    simp
  · exact lexes_append.mpr ⟨printed.lexes space (next.loose Nat.one_pos),
      next.lexes (fun _ => Nat.one_pos) following⟩

end Printed

/-! ### Printed lists -/

/-- **A printed list**: items with a sign directly after each but the last, and a space after the
sign. -/
inductive Listed {α : Type} (sign : Symbol) (prints : Nat → α → List Piece → Prop) :
    Nat → List α → List Piece → Prop
  /-- A single item. -/
  | single {gap item pieces} (first : prints gap item pieces) :
      Listed sign prints gap [item] pieces
  /-- An item before others. -/
  | cons {gap item items pieces more} (first : prints gap item pieces)
      (rest : Listed sign prints 1 items more) :
      Listed sign prints gap (item :: items) (pieces ++ .sign 0 sign :: more)

variable {α : Type} {sign : Symbol} {prints : Nat → α → List Piece → Prop} {items : List α}

/-- Lists are printed when their items are. -/
theorem exists_listed (each : ∀ item ∈ items, ∀ gap, ∃ pieces, prints gap item pieces)
    (some : items ≠ []) (gap : Nat) : ∃ pieces, Listed sign prints gap items pieces := by
  induction items generalizing gap with
  | nil => exact absurd rfl some
  | cons item items ih =>
      obtain ⟨pieces, first⟩ := each item List.mem_cons_self gap
      by_cases last : items = []
      · exact ⟨pieces, last ▸ .single first⟩
      · obtain ⟨more, rest⟩ := ih (fun item member => each item (List.mem_cons_of_mem _ member))
          last 1
        exact ⟨_, .cons first rest⟩

theorem Listed.ne_nil (listed : Listed sign prints gap items pieces) : items ≠ [] := by
  cases listed <;> exact List.cons_ne_nil _ _

/-- There are signs between the items. -/
theorem Listed.length_le (listed : Listed sign prints gap items pieces) :
    items.length ≤ pieces.length + 1 := by
  induction listed with
  | single first => simp
  | cons first rest ih =>
      simp only [List.length_cons, List.length_append]
      omega

/-- The pieces of a printed list are those of its items and the signs between them. -/
theorem Listed.forall_mem {P : Piece → Prop} (listed : Listed sign prints gap items pieces)
    (each : ∀ {gap item pieces}, prints gap item pieces → ∀ piece ∈ pieces, P piece)
    (separator : P (.sign 0 sign)) : ∀ piece ∈ pieces, P piece := by
  induction listed with
  | single first => exact each first
  | cons first rest ih =>
      exact List.forall_mem_append.mpr ⟨each first, List.forall_mem_cons.mpr ⟨separator, ih⟩⟩

/-- **The text of a printed list** is that of its items with the sign and a space between them. -/
theorem Listed.printed {print : α → String} (listed : Listed sign prints gap items pieces)
    (each : ∀ {gap item pieces}, prints gap item pieces → Printed kinds gap (print item) pieces)
    (solid : sign.isSolid = true) : Printed kinds gap (String.intercalate (sign.spelling ++ " ") (items.map print)) pieces := by
  induction listed with
  | single first =>
      rw [List.map_singleton, String.intercalate_singleton]
      exact each first
  | cons first rest ih =>
      have printed := each first
      refine ⟨?_, ?_, fun space following => ?_⟩
      · rw [List.map_cons, String.intercalate_cons_of_ne_nil (by simpa using rest.ne_nil),
          render_append, printed.text, render_cons, ih.text]
        simp [Piece.sign, Piece.spaced]
      · obtain ⟨lexeme, rest, rfl, starts⟩ := printed.opens
        exact ⟨lexeme, _, rfl, starts⟩
      · refine lexes_append.mpr ⟨printed.lexes space (loose_solid solid), ?_⟩
        exact (lexes_solid solid).mpr (ih.lexes (fun _ => Nat.one_pos) following)

/-! ### Lists in brackets -/

/-- **A printed list in brackets**: an opening sign, any number of items with commas between them and
a closing sign. -/
def Enclosed (opening closing : Symbol) (prints : Nat → α → List Piece → Prop) (gap : Nat)
    (items : List α) (pieces : List Piece) : Prop :=
  ∃ inside, pieces = .sign gap opening :: (inside ++ [.sign 0 closing]) ∧
    (items = [] ∧ inside = [] ∨ Listed .comma prints 0 items inside)

variable {opening closing : Symbol}

/-- Lists in brackets are printed when their items are. -/
theorem exists_enclosed (each : ∀ item ∈ items, ∀ gap, ∃ pieces, prints gap item pieces)
    (gap : Nat) : ∃ pieces, Enclosed opening closing prints gap items pieces := by
  by_cases none : items = []
  · exact ⟨_, [], rfl, .inl ⟨none, rfl⟩⟩
  · obtain ⟨inside, listed⟩ := @exists_listed _ .comma _ _ each none 0
    exact ⟨_, inside, rfl, .inr listed⟩

/-- The pieces of a list in brackets are those of its items and signs. -/
theorem Enclosed.forall_mem {P : Piece → Prop}
    (enclosed : Enclosed opening closing prints gap items pieces)
    (each : ∀ {gap item pieces}, prints gap item pieces → ∀ piece ∈ pieces, P piece)
    (opens : P (.sign gap opening)) (separator : P (.sign 0 .comma)) (closes : P (.sign 0 closing)) :
    ∀ piece ∈ pieces, P piece := by
  obtain ⟨inside, rfl, filled⟩ := enclosed
  refine List.forall_mem_cons.mpr ⟨opens, List.forall_mem_append.mpr ⟨?_, by simpa using closes⟩⟩
  rcases filled with ⟨rfl, rfl⟩ | listed
  · exact List.forall_mem_nil _
  · exact listed.forall_mem each separator

/-- What is in brackets ends with the closing one. -/
theorem Enclosed.endsOperand_eq (enclosed : Enclosed opening closing prints gap items pieces) :
    endsOperand afterOperand pieces = (TokenKind.symbol closing).endsOperand := by
  obtain ⟨inside, rfl, -⟩ := enclosed
  show endsOperand _ (inside ++ [.sign 0 closing]) = _
  rw [endsOperand_append]
  rfl

/-- **The text of a list in brackets** is that of the list between the brackets. -/
theorem Enclosed.printed {print : α → String}
    (enclosed : Enclosed opening closing prints gap items pieces)
    (each : ∀ {gap item pieces}, prints gap item pieces → Printed kinds gap (print item) pieces)
    (opens : opening.isSolid = true) (noOperand : (TokenKind.symbol opening).endsOperand = false)
    (closes : closing.isSolid = true) :
    Printed (· == .symbol opening) gap (opening.spelling ++
      String.intercalate ", " (items.map print) ++ closing.spelling) pieces := by
  obtain ⟨inside, rfl, inside⟩ := enclosed
  refine ⟨?_, ⟨_, _, rfl, beq_self_eq_true _, ?_⟩, fun _ loose => (lexes_solid opens).mpr ?_⟩
  · rcases inside with ⟨rfl, rfl⟩ | listed
    · simp [Piece.sign, Piece.spaced]
    · have text := (listed.printed each rfl).text
      simp only [render_cons, render_append, text]
      simp [Piece.sign, Piece.spaced, Symbol.spelling]
  · obtain ⟨-, -, -, first, isFirst, -, noEqual, noGreater, -⟩ := Symbol.of_isSolid opens
    exact ⟨first, isFirst, noEqual, noGreater⟩
  · refine lexes_append.mpr ⟨?_, (lexes_solid closes).mpr trivial⟩
    rcases inside with ⟨rfl, rfl⟩ | listed
    · trivial
    · refine (listed.printed each rfl).lexes (fun attached => ?_) (loose_solid closes)
      exact absurd (noOperand.symm.trans attached) Bool.false_ne_true

end Lexer

end Syntax

end ResultBuilder
