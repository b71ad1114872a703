import Mathlib.Data.List.Nodup
import ResultBuilder.Proofs.Diagnostic.Removing
import ResultBuilder.Proofs.Syntax.Printing.Pieces
import ResultBuilder.Proofs.Syntax.Returns.Shedding
import ResultBuilder.Synthesis.Failure

/-!
# Cutting a source without some returns

When returns are removed from a source, the rest of it is cut into the tokens that it had. In front
of a keyword there is a gap, which stays there, or a sign that stands alone, so that nothing grows
together with what comes from behind the keyword.

* **`milder_gap`**, **`Opens.alone`**: a lexeme before a gap and a sign before anything.
* **`exists_cut`**: the pieces that are left, and their text.
-/

namespace ResultBuilder.Syntax

open Source (utf8Length utf8Bytes bytesOutside utf8Bytes_append length_utf8Bytes)
open Lexer (Piece Lexeme render tokensFrom endToken Lexes Skips Opens Milder continuesName)

namespace Lexer

/-! ### Gaps -/

/-- Behind two characters all texts are alike. -/
theorem milder_two (c d : Char) (other text : List Char) :
    Milder (c :: d :: other) (c :: d :: text) := by
  intro start joins clean found
  cases joins with
  | nil => exact List.nil_prefix
  | one e =>
      obtain ⟨rfl, -⟩ := List.cons_prefix_cons.mp found
      exact List.cons_prefix_cons.mpr ⟨rfl, List.nil_prefix⟩
  | two _ e =>
      obtain ⟨rfl, behind⟩ := List.cons_prefix_cons.mp found
      obtain ⟨rfl, -⟩ := List.cons_prefix_cons.mp behind
      exact ⟨text, rfl⟩

/-- A gap is white space or starts with a sign of two characters. -/
theorem Skips.starts {gap text : List Char} (skips : Skips text gap) (some : gap ≠ []) :
    ∃ c tail, gap = c :: tail ∧ (c ≠ '.' ∧ c ≠ '/' ∨ ∃ d rest, tail = d :: rest) := by
  obtain ⟨c, tail, rfl⟩ := List.exists_cons_of_ne_nil some
  refine ⟨c, tail, rfl, ?_⟩
  by_cases more : tail = []
  · subst more
    obtain ⟨rest, rfl, -⟩ := gap_parts (skips 0)
    -- one sign of a comment does not skip anything on its own
    have goesOn : ¬ Skips (c :: rest) [] := fun none => by
      have same := (none 0).symm.trans (skips 0)
      cases same
    have scanned := skips 0
    refine .inl ⟨?_, ?_⟩
    · rintro rfl
      exact goesOn (skips_nil_of_solid (by decide) (by decide) rest)
    · rintro rfl
      refine goesOn (skips_nil_iff.mpr ⟨by decide, ?_, ?_⟩) <;>
      · rintro ⟨more, same⟩
        rw [List.singleton_append, ← same] at scanned
        obtain ⟨inside, -, same⟩ := map_eq_ok.mp scanned
        cases same
  · exact .inr (List.exists_cons_of_ne_nil more)

/-- **Behind a gap all texts are alike.** -/
theorem milder_gap {gap text : List Char} (skips : Skips text gap) (some : gap ≠ [])
    (other another : List Char) : Milder (gap ++ other) (gap ++ another) := by
  obtain ⟨c, tail, rfl, apart | ⟨d, rest, rfl⟩⟩ := skips.starts some
  · exact milder_cons apart.1 apart.2 _ _
  · exact milder_two _ _ _ _

/-- Whether a gap can stand in front of any text. -/
def Whole (gap : List Char) : Prop :=
  ∀ ⦃text found⦄, Skips text found → Skips (gap ++ text) (gap ++ found)

theorem whole_nil : Whole [] :=
  fun _ _ => id

theorem Whole.append {front back : List Char} (whole : Whole front) (wholeBack : Whole back) :
    Whole (front ++ back) := by
  intro text found skips
  rw [List.append_assoc, List.append_assoc]
  exact whole (wholeBack skips)

theorem Skips.whole {gap rest : List Char} (skips : Skips (gap ++ rest) gap) (more : rest ≠ []) :
    Whole gap :=
  fun _ _ => skips.append more

/-! ### Lexemes before other texts -/

variable {attached : Bool} {text after other : List Char} {found : Lexeme}

theorem Opens.characters_of_keyword {word : Keyword} (opens : Opens attached text found)
    (isKeyword : found.kind = .keyword word) : found.characters = word.spelling.toList := by
  cases opens with
  | @word first rest starts =>
      simp only [Lexer.word, wordKind] at isKeyword ⊢
      split at isKeyword
      · cases isKeyword
      · split at isKeyword
        · next isWord =>
            cases isKeyword
            rw [Keyword.spelling_of_ofSpelling? isWord, String.toList_ofList]
        · cases isKeyword
  | number noName digit =>
      rcases kind_number _ with kind | kind <;> rw [kind] at isKeyword <;> cases isKeyword
  | string closed => cases isKeyword
  | directive named => cases isKeyword
  | sign noName noDigit noQuote noDirective read =>
      obtain ⟨sign, after, rfl, -⟩ := symbol?_eq_some read
      cases isKeyword

/-- A keyword ends before a character that goes on no word. -/
theorem Opens.stops_of_keyword {word : Keyword}
    (opens : Opens attached (found.characters ++ after) found)
    (isKeyword : found.kind = .keyword word) : ∀ c ∈ after.head?, continuesName c = false := by
  generalize cut : found.characters ++ after = text at opens
  cases opens with
  | @word first rest starts =>
      have same : after = rest.dropWhile continuesName := by
        have whole := (List.cons.inj cut).2.trans
          (@List.takeWhile_append_dropWhile _ continuesName rest).symm
        exact List.append_cancel_left whole
      intro c isFirst
      rw [same] at isFirst
      have stops := List.head?_dropWhile_not continuesName rest
      rw [isFirst] at stops
      simpa using stops
  | number noName digit =>
      rcases kind_number _ with kind | kind <;> rw [kind] at isKeyword <;> cases isKeyword
  | string closed => cases isKeyword
  | directive named => cases isKeyword
  | sign noName noDigit noQuote noDirective read =>
      obtain ⟨sign, after, rfl, -⟩ := symbol?_eq_some read
      cases isKeyword

/-- **A sign behind which a statement may start** is the same before any text. -/
theorem Opens.alone (opens : Opens attached text found) (starts : found.kind.opensStatement = true)
    (noWord : found.kind ≠ .keyword .in_) (other : List Char) :
    (∃ c, found.characters = [c] ∧ c ≠ '.' ∧ c ≠ '/') ∧
      Opens attached (found.characters ++ other) found := by
  cases opens with
  | @word first rest startsName =>
      -- the one word behind which a statement may start is excluded
      have isWord := isWord_kind_word first rest
      unfold TokenKind.opensStatement at starts
      split at starts
      case h_4 isKind => exact absurd isKind noWord
      case h_5 => cases starts
      all_goals
        next isKind =>
          rw [isKind] at isWord
          cases isWord
  | number noName digit =>
      rcases kind_number _ with kind | kind <;> rw [kind] at starts <;> cases starts
  | string closed => cases starts
  | directive named => cases starts
  | sign noName noDigit noQuote noDirective read =>
      obtain ⟨sign, after, rfl, -, cut, -⟩ := symbol?_eq_some read
      have solid : sign.isSolid = true := by
        unfold TokenKind.opensStatement at starts
        split at starts
        case h_5 => cases starts
        case h_4 isKind => cases isKind
        all_goals
          next isSign =>
            cases isSign
            rfl
      -- such a sign has one character and grows together with no other
      obtain ⟨isSign, fits, apart, -⟩ := Symbol.of_isSolid solid
      have again := @symbol?_spelling attached sign other isSign (fits attached) fun d _ => apart d
      obtain ⟨c, spelled, alone⟩ : ∃ c, sign.spelling.toList = [c] ∧ c ≠ '.' ∧ c ≠ '/' := by
        cases sign <;> first | exact absurd solid (by decide) | exact ⟨_, rfl, by decide⟩
      rw [spelled] at cut
      obtain ⟨rfl, -⟩ := List.cons.inj cut
      refine ⟨⟨_, spelled, alone⟩, ?_⟩
      show Opens attached (sign.spelling.toList ++ other) _
      rw [spelled] at again ⊢
      exact .sign noName noDigit noQuote noDirective again

/-- A lexeme stays the same, and what starts with it is milder, before a milder text, or as a sign
that stands alone before a word. -/
theorem Opens.before (opens : Opens attached (found.characters ++ after) found)
    (apart : Milder other after ∨
      found.kind.opensStatement = true ∧ ∃ c ∈ after.head?, continuesName c = true) :
    Milder (found.characters ++ other) (found.characters ++ after) ∧
      Opens attached (found.characters ++ other) found := by
  rcases apart with milder | ⟨starts, c, first, continues⟩
  · exact ⟨milder.append_left _, opens.replace milder⟩
  · have noWord : found.kind ≠ .keyword .in_ := fun isWord => by
      rw [opens.stops_of_keyword isWord c first] at continues
      cases continues
    obtain ⟨⟨d, alone, noPoint, noSlash⟩, again⟩ := opens.alone starts noWord other
    refine ⟨?_, again⟩
    rw [alone]
    exact milder_cons noPoint noSlash _ _

end Lexer

/-! ### Places -/

theorem start_of_mem_tokensFrom {final : List Char} {offset : Nat} {pieces : List Piece} :
    ∀ token ∈ tokensFrom final offset pieces, offset ≤ token.span.start := by
  induction pieces generalizing offset with
  | nil => exact List.forall_mem_singleton.mpr (Nat.le_add_right _ _)
  | cons piece pieces ih =>
      refine List.forall_mem_cons.mpr ⟨Nat.le_add_right _ _, fun token member => ?_⟩
      exact Nat.le_trans (Nat.le_add_right _ _) (ih token member)

/-- Where a return is removed. -/
def ReturnSite.removed (site : ReturnSite) : Span :=
  ⟨site.keyword.start, (site.value.map (·.start)).getD site.keyword.stop⟩

variable {sites : List ReturnSite} {final : List Char} {offset : Nat}

/-- Bytes in front of all places are kept. -/
theorem bytesOutside_kept {places : List Span} {front text : List Char}
    (behind : ∀ place ∈ places, offset + utf8Length front ≤ place.start) :
    bytesOutside places offset (utf8Bytes (front ++ text)) =
      utf8Bytes front ++ bytesOutside places (offset + utf8Length front) (utf8Bytes text) := by
  rw [utf8Bytes_append, Source.bytesOutside_append, Source.length_utf8Bytes,
    Source.bytesOutside_of_before]
  rwa [Source.length_utf8Bytes]

/-- Bytes inside the first place are not. -/
theorem bytesOutside_removed {place : Span} {places : List Span} {front inside text : List Char}
    (starts : place.start = offset + utf8Length front)
    (stops : place.stop = offset + utf8Length (front ++ inside))
    (behind : ∀ other ∈ places, place.start ≤ other.start) :
    bytesOutside (place :: places) offset (utf8Bytes (front ++ (inside ++ text))) =
      utf8Bytes front ++ bytesOutside places place.stop (utf8Bytes text) := by
  have before : ∀ other ∈ place :: places, offset + utf8Length front ≤ other.start :=
    List.forall_mem_cons.mpr ⟨starts.ge, fun other listed => starts ▸ behind other listed⟩
  rw [bytesOutside_kept before, utf8Bytes_append, Source.bytesOutside_append,
    Source.length_utf8Bytes, Source.bytesOutside_of_inside List.mem_cons_self starts.le,
    List.nil_append]
  · rw [Nat.add_assoc, ← Source.utf8Length_append, ← stops,
      Source.bytesOutside_cons_of_behind (Nat.le_refl _)]
  · rw [Source.length_utf8Bytes, Nat.add_assoc, ← Source.utf8Length_append, stops]

/-! ### What stands before pieces -/

/-- **What stands before some pieces** that are cut: whether returns were shed right before, whether
a statement may start, whether an operand ends there in the source and in what is left of it, and
the gaps that are put together. -/
structure Behind (pending : Option Bool) (opens after afterOther : Bool) (front : List Char) :
    Prop where
  /-- The gaps can stand in front of what comes. -/
  whole : Lexer.Whole front
  /-- There are gaps only where returns were shed. -/
  empty : pending = none → front = []
  /-- A line break before the returns is in the gaps. -/
  breaks : pending = some true → '\n' ∈ front
  /-- A sign is attached to what is before it in both or in neither. -/
  attach : ∀ gap, (afterOther && (front ++ gap).isEmpty) = (after && gap.isEmpty)
  /-- No statement starts right behind an operand. -/
  quiet : opens = true → after = false

namespace Behind

theorem start : Behind none true false false [] where
  whole := Lexer.whole_nil
  empty _ := rfl
  breaks := nofun
  attach _ := rfl
  quiet _ := rfl

/-- Behind a lexeme that is kept nothing was shed. -/
theorem kept (kind : TokenKind) :
    Behind none kind.opensStatement kind.endsOperand kind.endsOperand [] where
  whole := Lexer.whole_nil
  empty _ := rfl
  breaks := nofun
  attach _ := rfl
  quiet opens := by
    unfold TokenKind.opensStatement at opens
    split at opens <;> first | rfl | cases opens

variable {pending : Option Bool} {opens after afterOther : Bool} {front gap : List Char}

/-- Behind a return the gap in front of it is put to the others. -/
theorem shed (behind : Behind pending opens after afterOther front) (whole : Lexer.Whole gap)
    (starts : (opens || gap.contains '\n') = true) :
    Behind (some (pending.getD (gap.contains '\n'))) false false afterOther (front ++ gap) where
  whole := behind.whole.append whole
  empty := nofun
  breaks isTrue := by
    cases pending with
    | none => exact List.mem_append_right _ (List.contains_iff_mem.mp (Option.some.inj isTrue))
    | some newline => exact List.mem_append_left _ (behind.breaks isTrue)
  attach next := by
    rw [List.append_assoc, behind.attach, Bool.false_and]
    cases gap with
    | nil => rw [behind.quiet (by simpa using starts), Bool.false_and]
    | cons c rest => exact Bool.and_false _
  quiet := nofun

end Behind

/-! ### Pieces that are left -/

/-- **What is ahead**: all keywords of returns that are listed count, and they are those of some of
the returns, in order. -/
structure Ahead (sites found : List ReturnSite) (opens : Bool) (final : List Char) (offset : Nat)
    (pieces : List Piece) : Prop where
  counted : ReturnSite.AllCount sites opens (tokensFrom final offset pieces)
  keywords : found.map (·.keyword) =
    ((tokensFrom final offset pieces).filter (·.isReturnOf sites)).map (·.span)
  listed : ∀ site ∈ found, site ∈ sites

namespace Ahead

variable {found : List ReturnSite} {opens : Bool} {piece : Piece} {pieces : List Piece}

theorem starts (ahead : Ahead sites found opens final offset pieces) {place : Nat}
    (before : ∀ token ∈ tokensFrom final offset pieces,
      token.isReturnOf sites = true → place ≤ token.span.start) :
    ∀ removed ∈ found.map ReturnSite.removed, place ≤ removed.start := by
  intro removed member
  obtain ⟨site, isFound, rfl⟩ := List.mem_map.mp member
  have keyword : site.keyword ∈ found.map (·.keyword) := List.mem_map_of_mem isFound
  rw [ahead.keywords] at keyword
  obtain ⟨token, isReturn, same⟩ := List.mem_map.mp keyword
  obtain ⟨member, isReturn⟩ := List.mem_filter.mp isReturn
  show place ≤ site.keyword.start
  rw [← same]
  exact before token member isReturn

theorem kept (ahead : Ahead sites found opens final offset (piece :: pieces))
    (kept : (piece.token offset).isReturnOf sites = false) :
    Ahead sites found piece.lexeme.kind.opensStatement final (offset + utf8Length piece.characters)
      pieces where
  counted := ahead.counted.2
  keywords := by
    have keywords := ahead.keywords
    rwa [tokensFrom, List.filter_cons_of_neg (by simpa using kept)] at keywords
  listed := ahead.listed

/-- The first return that is ahead is that of the first keyword. -/
theorem shed (unique : (sites.map (·.keyword)).Nodup)
    (ahead : Ahead sites found opens final offset (piece :: pieces))
    (isReturn : (piece.token offset).isReturnOf sites = true) :
    ∃ site others, found = site :: others ∧ site.keyword = (piece.token offset).span ∧
      (opens || piece.gap.contains '\n') = true ∧
      (∀ place ∈ site.value,
        ∀ token ∈ (tokensFrom final (offset + utf8Length piece.characters) pieces).head?,
          token.span.start = place.start ∧ token.kind ≠ .keyword .return_) ∧
      Ahead sites others false final (offset + utf8Length piece.characters) pieces := by
  have keywords := ahead.keywords
  rw [tokensFrom, List.filter_cons_of_pos isReturn, List.map_cons] at keywords
  obtain ⟨site, others, rfl, same, keywords⟩ := List.map_eq_cons_iff.mp keywords
  have isSite := ahead.counted.1 isReturn
  have starts := (Token.isReturnOf_of_isSiteOf isSite).1
  simp only [Token.isSiteOf, Bool.and_eq_true, List.any_eq_true, beq_iff_eq] at isSite
  obtain ⟨-, other, listed, isKeyword, value⟩ := isSite
  obtain rfl : site = other :=
    List.inj_on_of_nodup_map unique (ahead.listed _ List.mem_cons_self) listed
      (same.trans isKeyword.symm)
  refine ⟨site, others, rfl, same, starts, fun place isPlace token isNext => ?_, ?_, keywords,
    (List.forall_mem_cons.mp ahead.listed).2⟩
  · have follows := (Option.all_eq_true _ _).mp ((Option.all_eq_true _ _).mp value place isPlace)
      token isNext
    simpa using follows
  · have counted := ahead.counted.2
    rwa [show (piece.token offset).kind = .keyword .return_ from Token.kind_of_isReturnOf isReturn]
      at counted

end Ahead

/-- **What is left of pieces** and of their last gap: others, with the lexemes of those that are
kept, and the bytes outside of the returns. -/
structure Cut (sites found : List ReturnSite) (final : List Char) (offset : Nat)
    (pending : Option Bool) (afterOther : Bool) (front : List Char) (pieces others : List Piece)
    (other : List Char) : Prop where
  shed : Shed sites final other offset pending pieces others
  lexes : Lexes afterOther others other
  ends : Skips other other
  starts : front <+: render others ++ other
  bytes : utf8Bytes (render others ++ other) = utf8Bytes front ++
    bytesOutside (found.map ReturnSite.removed) offset (utf8Bytes (render pieces ++ final))

namespace Cut

variable {found : List ReturnSite} {pending : Option Bool} {opens after afterOther : Bool}
  {front gap other : List Char} {lexeme : Lexeme} {pieces others : List Piece}

/-- A piece that is kept has the gaps in front of it, if what comes behind it is milder or it is a
sign that stands alone. -/
theorem keep (behind : Behind pending opens after afterOther front)
    (lexes : Lexes after (⟨gap, lexeme⟩ :: pieces) final)
    (ahead : Ahead sites found opens final offset (⟨gap, lexeme⟩ :: pieces))
    (kept : ((⟨gap, lexeme⟩ : Piece).token offset).isReturnOf sites = false)
    (rest : Cut sites found final (offset + utf8Length (gap ++ lexeme.characters)) none
      lexeme.kind.endsOperand [] pieces others other)
    (milder : Milder (lexeme.characters ++ (render others ++ other))
      (lexeme.characters ++ (render pieces ++ final)))
    (opensOther : Opens (after && gap.isEmpty) (lexeme.characters ++ (render others ++ other))
      lexeme) :
    Cut sites found final offset pending afterOther front (⟨gap, lexeme⟩ :: pieces)
      (⟨front ++ gap, lexeme⟩ :: others) other where
  shed := .keep kept (fun none => by rw [behind.empty none, List.nil_append])
    (fun some => List.mem_append_left _ (behind.breaks some)) rest.shed
  lexes := by
    obtain ⟨skips, opens, -⟩ := lexes
    refine ⟨?_, ?_, rest.lexes⟩
    · obtain ⟨c, tail, same⟩ := List.exists_cons_of_ne_nil opens.ne_nil
      rw [List.append_assoc]
      refine behind.whole ?_
      rw [same, List.cons_append] at skips milder ⊢
      -- nothing is skipped where the lexeme starts, also before a milder text
      have settled := skips.settled (List.cons_ne_nil _ _)
      exact skips.replace (List.cons_ne_nil _ _) (settled.nil_of_milder milder)
    · rw [behind.attach]
      exact opensOther
  ends := rest.ends
  starts := ⟨gap ++ (lexeme.characters ++ (render others ++ other)), by simp⟩
  bytes := by
    have apart : ∀ place ∈ found.map ReturnSite.removed,
        offset + utf8Length (gap ++ lexeme.characters) ≤ place.start :=
      (ahead.kept kept).starts fun token member _ => start_of_mem_tokensFrom token member
    have bytes := rest.bytes
    rw [show utf8Bytes [] = [] from rfl, List.nil_append] at bytes
    have whole : render (⟨gap, lexeme⟩ :: pieces) ++ final =
        gap ++ lexeme.characters ++ (render pieces ++ final) := by simp
    have wholeOther : render (⟨front ++ gap, lexeme⟩ :: others) ++ other =
        front ++ (gap ++ lexeme.characters ++ (render others ++ other)) := by simp
    rw [whole, wholeOther, bytesOutside_kept apart, utf8Bytes_append front,
      utf8Bytes_append (gap ++ _), bytes]

/-- A return that is shed leaves the gap in front of it. What is dropped behind it stands before its
value. -/
theorem drop {site : ReturnSite} (dropped text : List Char)
    (isReturn : ((⟨gap, lexeme⟩ : Piece).token offset).isReturnOf sites = true)
    (keyword : site.keyword = ((⟨gap, lexeme⟩ : Piece).token offset).span)
    (stop : (ReturnSite.removed site).stop =
      offset + utf8Length (gap ++ (lexeme.characters ++ dropped)))
    (ahead : Ahead sites found false final (offset + utf8Length (gap ++ lexeme.characters)) pieces)
    (cut : render pieces ++ final = dropped ++ text)
    (more : Shed sites final other (offset + utf8Length (gap ++ lexeme.characters))
      (some (pending.getD (gap.contains '\n'))) pieces others)
    (lexes : Lexes afterOther others other) (ends : Skips other other)
    (starts : front ++ gap <+: render others ++ other)
    (bytes : utf8Bytes (render others ++ other) = utf8Bytes (front ++ gap) ++
      bytesOutside (found.map ReturnSite.removed) (ReturnSite.removed site).stop (utf8Bytes text)) :
    Cut sites (site :: found) final offset pending afterOther front (⟨gap, lexeme⟩ :: pieces) others
      other where
  shed := .shed isReturn more
  lexes := lexes
  ends := ends
  starts := (List.prefix_append front gap).trans starts
  bytes := by
    have start : (ReturnSite.removed site).start = offset + utf8Length gap :=
      congrArg Span.start keyword
    have whole : render (⟨gap, lexeme⟩ :: pieces) ++ final =
        gap ++ (lexeme.characters ++ dropped ++ text) := by
      rw [Lexer.render_cons, List.append_assoc, List.append_assoc, cut, List.append_assoc]
    have apart : ∀ place ∈ found.map ReturnSite.removed,
        (ReturnSite.removed site).start ≤ place.start := by
      refine ahead.starts fun token member _ =>
        Nat.le_trans ?_ (start_of_mem_tokensFrom token member)
      rw [start, Source.utf8Length_append]
      omega
    rw [whole, List.map_cons, bytesOutside_removed start stop apart, bytes, utf8Bytes_append,
      List.append_assoc]

/-- Where no pieces are left there are the gaps. -/
theorem stop (behind : Behind pending opens after afterOther front) (ends : Skips final final)
    (ahead : Ahead sites found opens final offset []) :
    Cut sites found final offset pending afterOther front [] [] (front ++ final) where
  shed := .done (fun none => by rw [behind.empty none, List.nil_append])
    fun some => List.mem_append_left _ (behind.breaks some)
  lexes := trivial
  ends := behind.whole ends
  starts := List.prefix_append _ _
  bytes := by
    have none : found = [] := by
      simpa [tokensFrom, endToken, Token.isReturnOf] using ahead.keywords
    rw [none, Lexer.render_nil, List.nil_append, List.nil_append, List.map_nil, utf8Bytes_append,
      Source.bytesOutside_of_before (List.forall_mem_nil _)]

end Cut

/-- What is left starts with the gap in front of a return that is shed, or the return stands where a
statement may start. -/
theorem Behind.apart {pending : Option Bool} {opens after afterOther : Bool}
    {front gap text : List Char} {lexeme : Lexeme} {pieces : List Piece}
    (behind : Behind pending opens after afterOther front)
    (lexes : Lexes after (⟨gap, lexeme⟩ :: pieces) final)
    (isReturn : lexeme.kind = .keyword .return_) (starts : (opens || gap.contains '\n') = true)
    (holds : front ++ gap <+: text) (none : pending = none) :
    Milder text (render (⟨gap, lexeme⟩ :: pieces) ++ final) ∨ opens = true ∧
      ∃ c ∈ (render (⟨gap, lexeme⟩ :: pieces) ++ final).head?, continuesName c = true := by
  obtain ⟨skips, opensHere, -⟩ := lexes
  rw [behind.empty none, List.nil_append] at holds
  obtain ⟨tail, rfl⟩ := holds
  rw [Lexer.render_cons, List.append_assoc, List.append_assoc]
  by_cases noGap : gap = []
  · subst noGap
    refine .inr ⟨by simpa using starts, 'r', ?_, by decide⟩
    rw [opensHere.characters_of_keyword isReturn]
    rfl
  · exact .inl (Lexer.milder_gap skips noGap _ _)

/-- Behind a return that is shed the gap in front of its value may be missing. -/
theorem Shed.drop_gap {other gap : List Char} {lexeme : Lexeme} {newline : Bool}
    {pieces others : List Piece} (kept : lexeme.kind ≠ .keyword .return_)
    (shed : Shed sites final other (offset + utf8Length gap) (some newline) (⟨[], lexeme⟩ :: pieces)
      others) :
    Shed sites final other offset (some newline) (⟨gap, lexeme⟩ :: pieces) others := by
  cases shed with
  | shed isReturn => exact absurd (Token.kind_of_isReturnOf isReturn) kept
  | keep _ _ breaks more =>
      refine .keep (Token.isReturnOf_of_kind kept) nofun breaks ?_
      rw [Source.utf8Length_append, ← Nat.add_assoc]
      exact more

theorem Ahead.drop_gap {found : List ReturnSite} {gap : List Char} {lexeme : Lexeme}
    {pieces : List Piece} {opens : Bool} (kept : lexeme.kind ≠ .keyword .return_)
    (ahead : Ahead sites found opens final offset (⟨gap, lexeme⟩ :: pieces)) :
    Ahead sites found opens final (offset + utf8Length gap) (⟨[], lexeme⟩ :: pieces) := by
  have isKept {place : Nat} {gap : List Char} :
      ((⟨gap, lexeme⟩ : Piece).token place).isReturnOf sites = false :=
    Token.isReturnOf_of_kind kept
  have offsets : offset + utf8Length gap + utf8Length (⟨[], lexeme⟩ : Piece).characters =
      offset + utf8Length (⟨gap, lexeme⟩ : Piece).characters := by
    rw [Lexer.Piece.characters, Lexer.Piece.characters, List.nil_append, Source.utf8Length_append,
      Nat.add_assoc]
  have rest := ahead.kept isKept
  rw [← offsets] at rest
  refine ⟨⟨fun isReturn => ?_, rest.counted⟩, ?_, ahead.listed⟩
  · rw [isKept] at isReturn
    cases isReturn
  · rw [tokensFrom, List.filter_cons_of_neg (by simp [isKept])]
    exact rest.keywords

theorem Lexer.Lexes.drop_gap {gap : List Char} {lexeme : Lexeme} {pieces : List Piece}
    (lexes : Lexes false (⟨gap, lexeme⟩ :: pieces) final) :
    Lexes false (⟨[], lexeme⟩ :: pieces) final := by
  obtain ⟨skips, opens, rest⟩ := lexes
  refine ⟨skips.settled fun none => ?_, opens, rest⟩
  exact opens.ne_nil (List.append_eq_nil_iff.mp none).1

/-! ### Returns that are dropped -/

section Dropping

variable {found : List ReturnSite} {site : ReturnSite} {place : Span} {pending : Option Bool}
  {afterOther : Bool} {front gap nextGap other : List Char} {lexeme next : Lexeme}
  {pieces others : List Piece}

/-- Of a return without a value the keyword goes. -/
theorem Cut.dropBare (isReturn : ((⟨gap, lexeme⟩ : Piece).token offset).isReturnOf sites = true)
    (keyword : site.keyword = ((⟨gap, lexeme⟩ : Piece).token offset).span)
    (noValue : site.value = none)
    (ahead : Ahead sites found false final (offset + utf8Length (gap ++ lexeme.characters)) pieces)
    (cut : Cut sites found final (offset + utf8Length (gap ++ lexeme.characters))
      (some (pending.getD (gap.contains '\n'))) afterOther (front ++ gap) pieces others other) :
    Cut sites (site :: found) final offset pending afterOther front (⟨gap, lexeme⟩ :: pieces) others
      other := by
  refine .drop [] (render pieces ++ final) isReturn keyword ?_ ahead (List.nil_append _).symm
    cut.shed cut.lexes cut.ends cut.starts ?_
  · rw [ReturnSite.removed, noValue, keyword, List.append_nil]
    rfl
  · rw [ReturnSite.removed, noValue, keyword]
    exact cut.bytes

/-- If the value would start at the end of the source, the last gap goes as well. -/
theorem Cut.dropLast (isReturn : ((⟨gap, lexeme⟩ : Piece).token offset).isReturnOf sites = true)
    (keyword : site.keyword = ((⟨gap, lexeme⟩ : Piece).token offset).span)
    (isValue : site.value = some place)
    (starts : offset + utf8Length (gap ++ lexeme.characters) + utf8Length final = place.start)
    (ahead : Ahead sites found false final (offset + utf8Length (gap ++ lexeme.characters)) [])
    (behind : Behind (some (pending.getD (gap.contains '\n'))) false false afterOther
      (front ++ gap)) :
    Cut sites (site :: found) final offset pending afterOther front [⟨gap, lexeme⟩] []
      (front ++ gap) := by
  have skips : Skips (front ++ gap ++ []) (front ++ gap ++ []) := behind.whole fun _ => rfl
  rw [List.append_nil] at skips
  refine .drop final [] isReturn keyword ?_ ahead (List.append_nil _).symm
    (.done nofun behind.breaks) trivial skips (List.prefix_refl _) (List.append_nil _).symm
  rw [ReturnSite.removed, isValue, ← List.append_assoc, Source.utf8Length_append, ← Nat.add_assoc]
  exact starts.symm

/-- The gap in front of a value goes with the keyword. -/
theorem Cut.dropValued (isReturn : ((⟨gap, lexeme⟩ : Piece).token offset).isReturnOf sites = true)
    (keyword : site.keyword = ((⟨gap, lexeme⟩ : Piece).token offset).span)
    (isValue : site.value = some place)
    (starts : offset + utf8Length (gap ++ lexeme.characters) + utf8Length nextGap = place.start)
    (kept : next.kind ≠ .keyword .return_)
    (ahead : Ahead sites found false final (offset + utf8Length (gap ++ lexeme.characters))
      (⟨nextGap, next⟩ :: pieces))
    (cut : Cut sites found final
      (offset + utf8Length (gap ++ lexeme.characters) + utf8Length nextGap)
      (some (pending.getD (gap.contains '\n'))) afterOther (front ++ gap) (⟨[], next⟩ :: pieces)
      others other) :
    Cut sites (site :: found) final offset pending afterOther front
      (⟨gap, lexeme⟩ :: ⟨nextGap, next⟩ :: pieces) others other := by
  have stop : (ReturnSite.removed site).stop =
      offset + utf8Length (gap ++ lexeme.characters) + utf8Length nextGap := by
    rw [ReturnSite.removed, isValue]
    exact starts.symm
  refine .drop nextGap (render (⟨[], next⟩ :: pieces) ++ final) isReturn keyword ?_ ahead (by simp)
    (cut.shed.drop_gap kept) cut.lexes cut.ends cut.starts ?_
  · rw [stop, ← List.append_assoc, Source.utf8Length_append _ nextGap, Nat.add_assoc]
  · rw [stop]
    exact cut.bytes

end Dropping

/-- **What is left of pieces is cut again as it was.** -/
theorem exists_cut {found : List ReturnSite} {pending : Option Bool} {opens after afterOther : Bool}
    {front : List Char} {pieces : List Piece} (unique : (sites.map (·.keyword)).Nodup)
    (ends : Skips final final) (behind : Behind pending opens after afterOther front)
    (lexes : Lexes after pieces final)
    (ahead : Ahead sites found opens final offset pieces) :
    ∃ others other, Cut sites found final offset pending afterOther front pieces others other ∧
      (pending = none → Milder (render others ++ other) (render pieces ++ final) ∨
        opens = true ∧ ∃ c ∈ (render pieces ++ final).head?, continuesName c = true) := by
  -- on the number of pieces and not on the list, as the piece behind a return loses its gap
  induction size : pieces.length using Nat.strongRecOn
    generalizing found pending opens after afterOther front pieces offset with
  | ind _ ih =>
      cases pieces with
      | nil =>
          refine ⟨[], front ++ final, .stop behind ends ahead, fun none => ?_⟩
          rw [behind.empty none]
          exact .inl fun _ _ _ found => found
      | cons piece pieces =>
          obtain ⟨gap, lexeme⟩ := piece
          obtain ⟨skips, opensHere, lexesRest⟩ := lexes
          have shorter : pieces.length < (⟨gap, lexeme⟩ :: pieces : List Piece).length :=
            Nat.lt_succ_self _
          cases isReturn : ((⟨gap, lexeme⟩ : Piece).token offset).isReturnOf sites with
          | false =>
              obtain ⟨others, other, rest, apart⟩ :=
                ih _ (size ▸ shorter) (.kept lexeme.kind) lexesRest (ahead.kept isReturn) rfl
              -- what comes behind is milder or the lexeme stands alone, so that it ends as it did
              obtain ⟨milder, again⟩ := opensHere.before (apart rfl)
              refine ⟨_, other, .keep behind ⟨skips, opensHere, lexesRest⟩ ahead isReturn rest
                milder again, fun none => .inl ?_⟩
              rw [behind.empty none, List.nil_append, Lexer.render_cons, Lexer.render_cons]
              simp only [List.append_assoc]
              exact milder.append_left gap
          | true =>
              obtain ⟨site, found, rfl, keyword, starts, value, rest⟩ := ahead.shed unique isReturn
              have kind : lexeme.kind = .keyword .return_ := Token.kind_of_isReturnOf isReturn
              have goesOn : lexeme.characters ++ (render pieces ++ final) ≠ [] := fun none =>
                opensHere.ne_nil (List.append_eq_nil_iff.mp none).1
              have behindRest := behind.shed (skips.whole goesOn) starts
              have apart {text : List Char} (holds : front ++ gap <+: text) :=
                behind.apart ⟨skips, opensHere, lexesRest⟩ kind starts holds
              rw [kind] at lexesRest
              cases isValue : site.value with
              | none =>
                  obtain ⟨others, other, cut, -⟩ :=
                    ih _ (size ▸ shorter) behindRest lexesRest rest rfl
                  exact ⟨others, other, cut.dropBare isReturn keyword isValue rest,
                    apart cut.starts⟩
              | some place =>
                  cases pieces with
                  | nil =>
                      have starts := (value place isValue _ rfl).1
                      exact ⟨[], front ++ gap,
                        .dropLast isReturn keyword isValue starts rest behindRest,
                        apart (List.prefix_refl _)⟩
                  | cons next pieces =>
                      obtain ⟨starts, kept⟩ := value place isValue _ rfl
                      obtain ⟨others, other, cut, -⟩ :=
                        ih _ (size ▸ shorter) behindRest lexesRest.drop_gap (rest.drop_gap kept) rfl
                      exact ⟨others, other,
                        cut.dropValued isReturn keyword isValue starts kept rest,
                        apart cut.starts⟩

end ResultBuilder.Syntax
