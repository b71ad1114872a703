import ResultBuilder.Proofs.Syntax.Returns.Tracking

/-!
# Steps of parsers that track others

What is taken by a parser that reads a source is taken by the one that reads what is left of it, and
what the first asks of the next token the other finds as well, as long as enough is known of the
place.

* **`Parser.TracksAt.afterTake`**, **`TracksAt.eat`**, **`TracksAt.peek`**: single tokens.
* **`Cursor.Follows.goesOn_iff`**: what goes on with an expression.
* **`Parser.tracks_separated`** to **`Parser.tracks_repeatedUntil`**: lists.
-/

namespace ResultBuilder.Syntax

variable {sites : List ReturnSite} {α β : Type} [ParserValue α] [ParserValue β]

@[simp] theorem worth_none : worth sites (none : Option α) = 0 := rfl

@[simp] theorem worth_some (value : α) : worth sites (some value) = worth sites value := by
  simp [worth, ParserValue.nodes]

@[simp] theorem worth_nil : worth sites ([] : List α) = 0 := rfl

@[simp] theorem worth_cons (value : α) (rest : List α) :
    worth sites (value :: rest) = worth sites value + worth sites rest := by
  simp [worth, ParserValue.nodes]

/-- The returns in nodes that are made from values. -/
theorem tallies_map {wrap : α → Node} (single : ∀ item, (wrap item).tally sites = worth sites item)
    (items : List α) : Node.tallies sites (items.map wrap) = worth sites items := by
  induction items with
  | nil => rfl
  | cons item rest ih => rw [List.map_cons, Node.tallies_cons, ih, worth_cons, single]

/-- Values that hold no returns. -/
theorem worth_eq_zero (free : ∀ value : α, worth sites value = 0) (values : List α) :
    worth sites values = 0 := by
  induction values with
  | nil => rfl
  | cons value rest ih => rw [worth_cons, ih, free]

theorem Lasts.some {value other : α} (lasts : Lasts sites value other) :
    Lasts sites (some value) (some other) :=
  congrArg Option.some lasts

theorem Lasts.none : Lasts sites (none : Option α) none :=
  rfl

theorem Lasts.nil : Lasts sites ([] : List α) [] :=
  rfl

theorem Lasts.cons {value other : α} {rest others : List α} (lasts : Lasts sites value other)
    (more : Lasts sites rest others) : Lasts sites (value :: rest) (other :: others) :=
  congrArg₂ List.cons lasts more

/-- Names stay the same. -/
theorem Lasts.text {name other : Name} (same : Lasts sites name other) : other.text = name.text :=
  show other.bare.text = name.bare.text from congrArg Name.text same

namespace Cursor

variable {c d : Cursor} {fresh : Bool} {ground : Ground}

/-- Both see the same line breaks where enough is known. -/
theorem Follows.newlineBefore_eq (follows : c.Follows sites false d)
    (settled : c.Settled sites .loose) : d.next.newlineBefore = c.next.newlineBefore := by
  cases isReturn : c.next.isReturnOf sites with
  | false => exact follows.newlineBefore_next isReturn
  | true =>
      have newline := (settled isReturn).1
      rw [newline, follows.breaks newline]

end Cursor

/-- What has to be known behind an expression in a region. -/
def Region.ground (region : Region) : Ground :=
  if region.breaksLines then .loose else .firm

instance (region : Region) : region.ground.Plain :=
  ⟨by cases region <;> decide⟩

theorem Region.ground_le_firm (region : Region) : region.ground.rank ≤ Ground.firm.rank := by
  cases region <;> decide

theorem Region.loose_le_ground (region : Region) : Ground.loose.rank ≤ region.ground.rank := by
  cases region <;> decide

/-- What starts is read anywhere behind a token. -/
theorem Footing.covers_start (ground : Ground) [ground.Plain] :
    (Footing.behind ground).Covers (.start .signed) :=
  ⟨fun no => absurd no Bool.false_ne_true, id, Ground.Plain.rank_le⟩

/-- **Whether something goes on** with an expression is the same for both. -/
theorem Cursor.Follows.goesOn_iff {c d : Cursor} {region : Region} {kind : TokenKind}
    (follows : c.Follows sites false d) (settled : c.Settled sites region.ground)
    (other : kind ≠ .keyword .return_) :
    (d.next.kind = kind ∧ d.breaks region = false) ↔
      (c.next.kind = kind ∧ c.breaks region = false) := by
  have sameBreaks : d.breaks region = c.breaks region := by
    unfold Cursor.breaks
    rw [follows.newlineBefore_eq (settled.mono region.loose_le_ground)]
  rw [sameBreaks]
  cases isReturn : c.next.isReturnOf sites with
  | false => rw [follows.kind_next isReturn]
  | true =>
      have isKind := Token.kind_of_isReturnOf isReturn
      refine iff_of_false (fun goesOn => ?_) fun goesOn => other (goesOn.1.symm.trans isKind)
      cases breaksLines : region.breaksLines with
      | false =>
          have firm := settled.firm (by rw [Region.ground, breaksLines]; decide)
          rw [firm] at isReturn
          cases isReturn
      | true =>
          -- a return that is shed starts a line, and that ends what goes on within lines
          have newline := ((settled.mono region.loose_le_ground) isReturn).1
          have stays := goesOn.2
          rw [Cursor.breaks, breaksLines, newline] at stays
          cases stays

namespace Parser

variable {s : Footing} {t : α → Footing} {u : β → Footing} {credit : Nat} {opens : Bool}
  {ground : Ground} {c d : Cursor} {p q p' q' : Parser α} {kind : TokenKind}

/-! ### Taking -/

/-- **Behind a token that both take** the one tracks the other. -/
theorem TracksAt.afterTake {o : Bool} {g : Ground} (notEnd : c.next.kind ≠ .endOfFile)
    (kept : c.next.isReturnOf sites = false) (settled : c.Settled sites s.ground)
    (starts : o = true → c.next.kind.opensStatement = true)
    (rest : TracksAt sites ⟨false, o, g⟩ t credit c.advance d.advance p' q')
    (first : ∀ value c', p.Yields c value c' → p'.Yields c.advance value c')
    (second : d.next.bare = c.next.bare →
      ∀ other d', q'.Yields d.advance other d' → q.Yields d other d') :
    TracksAt sites s t credit c d p q := by
  intro value c' yields
  obtain ⟨pays, tracks⟩ := rest (first value c' yields)
  have taken := @Cursor.left_advance_of_kept sites s.opens c notEnd kept
  have less := @Cursor.left_le sites _ _ c.advance starts
  refine ⟨by simp only at pays; omega, fun exact counted => ?_⟩
  simp only at pays tracks
  obtain ⟨counted', back⟩ := tracks (by omega) ((counted.advance notEnd).weaken (by omega))
  refine ⟨counted', fun settledLast => ⟨settled, fun follows => ?_⟩⟩
  obtain ⟨other, d', read, rest⟩ := (back settledLast).2 (follows.advance kept notEnd)
  exact ⟨other, d', second (follows.bare_next kept) other d' read, rest⟩

theorem isFirm_ne {kind : TokenKind} (firm : kind.isFirm = true) :
    kind ≠ .endOfFile ∧ kind ≠ .keyword .return_ := by
  constructor <;> rintro rfl <;> cases firm

/-- **Parsers of a single token.** -/
theorem TracksAt.ofTake [s.ground.Plain] (make : Token → α) (admits : Token → Prop)
    (reads : ∀ c value c', p.Yields c value c' ↔
      admits c.next ∧ value = make c.next ∧ c' = c.advance)
    (firm : admits c.next → c.next.kind.isFirm = true)
    (starts : opens = true → admits c.next → c.next.kind.opensStatement = true)
    (free : ∀ token, worth sites (make token) = 0)
    (same : ∀ token other : Token, other.bare = token.bare → admits token →
      admits other ∧ Lasts sites (make token) (make other)) :
    TracksAt sites s (fun _ => ⟨false, opens, ground⟩) 0 c d p p := by
  intro value c' yields
  obtain ⟨isAdmitted, rfl, rfl⟩ := (reads c value c').mp yields
  have isFirm := firm isAdmitted
  obtain ⟨notEnd, noReturn⟩ := isFirm_ne isFirm
  have kept := @Token.isReturnOf_of_kind sites _ noReturn
  have taken := @Cursor.left_advance sites s.opens c notEnd noReturn
  have less := @Cursor.left_le sites _ _ c.advance fun isOpen => starts isOpen isAdmitted
  dsimp only
  rw [free c.next]
  refine ⟨by omega, fun exact counted => ?_⟩
  refine ⟨(counted.advance notEnd).weaken (by omega), fun settled =>
    ⟨Cursor.settled_of_kind isFirm, fun follows => ?_⟩⟩
  obtain ⟨isAdmitted', lasts⟩ := same _ _ (follows.bare_next kept) isAdmitted
  exact ⟨_, _, (reads d _ _).mpr ⟨isAdmitted', rfl, rfl⟩, lasts, follows.advance kept notEnd⟩

theorem kind_eq_of_bare {token other : Token} (same : other.bare = token.bare) :
    other.kind = token.kind := by
  rw [← Token.kind_bare, same, Token.kind_bare]

theorem text_eq_of_bare {token other : Token} (same : other.bare = token.bare) :
    other.text = token.text := by
  rw [← Token.text_bare, same, Token.text_bare]

/-- The token that is next is taken. -/
theorem tracks_take {g : Ground} [s.ground.Plain] (firm : c.next.kind.isFirm = true) :
    TracksAt sites s (fun _ => .behind g) 0 c d take take :=
  .ofTake id (fun _ => True) (fun _ _ _ => by simp) (fun _ => firm) nofun
    (fun _ => rfl) fun _ _ same _ => ⟨trivial, same⟩

/-- The token that is next is taken where enough is known of it. -/
theorem tracks_takeSettled {g : Ground} (notEnd : c.next.kind ≠ .endOfFile)
    (kept : c.next.isReturnOf sites = false) (settled : c.Settled sites s.ground) :
    TracksAt sites s (fun _ => .behind g) 0 c d take take := by
  intro token c' yields
  obtain ⟨rfl, rfl⟩ := yields_take.mp yields
  have taken := @Cursor.left_advance_of_kept sites s.opens c notEnd kept
  have less := @Cursor.left_le sites false c.next.kind.opensStatement c.advance nofun
  have free : worth sites c.next = 0 := rfl
  dsimp only
  rw [free]
  refine ⟨by omega, fun exact counted => ⟨(counted.advance notEnd).weaken (by omega), fun _ =>
    ⟨settled, fun follows => ?_⟩⟩⟩
  exact ⟨_, _, yields_take.mpr ⟨rfl, rfl⟩, follows.bare_next kept, follows.advance kept notEnd⟩

theorem tracks_expect {o : Bool} {g : Ground} [s.ground.Plain] (firm : kind.isFirm = true)
    (starts : o = true → kind.opensStatement = true) :
    TracksAt sites s (fun _ => ⟨false, o, g⟩) 0 c d (expect kind) (expect kind) :=
  .ofTake id (fun token => token.kind = kind) (fun _ _ _ => yields_expect)
    (fun isNext => isNext ▸ firm) (fun isOpen isNext => isNext ▸ starts isOpen) (fun _ => rfl)
    fun _ _ same isNext => ⟨(kind_eq_of_bare same).trans isNext, same⟩

theorem tracks_expectSymbol {g : Ground} [s.ground.Plain] (sign : Symbol)
    (firm : (TokenKind.symbol sign).isFirm = true) :
    TracksAt sites s (fun _ => .behind g) 0 c d (expectSymbol sign) (expectSymbol sign) :=
  tracks_expect firm nofun

theorem tracks_expectKeyword {g : Ground} [s.ground.Plain] (word : Keyword)
    (firm : (TokenKind.keyword word).isFirm = true) :
    TracksAt sites s (fun _ => .behind g) 0 c d (expectKeyword word) (expectKeyword word) :=
  tracks_expect firm nofun

theorem tracks_identifier {g : Ground} [s.ground.Plain] :
    TracksAt sites s (fun _ => .behind g) 0 c d identifier identifier :=
  .ofTake (fun token => ⟨token.span, token.text⟩) (fun token => token.kind = .identifier)
    (fun _ _ _ => yields_identifier) (fun isNext => isNext ▸ rfl) nofun (fun _ => rfl)
    fun _ _ same isNext => ⟨(kind_eq_of_bare same).trans isNext,
      congrArg (Name.mk (.point 0)) (text_eq_of_bare same)⟩

/-- The name that a token is, if it is a name or an underscore. -/
def nameOf (token : Token) : Name :=
  ⟨token.span, if token.kind = .symbol .underscore then "_" else token.text⟩

theorem tracks_nameOrUnderscore {g : Ground} [s.ground.Plain] :
    TracksAt sites s (fun _ => .behind g) 0 c d nameOrUnderscore nameOrUnderscore := by
  refine .ofTake nameOf (fun token => token.kind = .symbol .underscore ∨ token.kind = .identifier)
    (fun c name c' => ?_) (fun isNext => ?_) nofun (fun _ => rfl)
    fun token other same isNext => ⟨by rwa [kind_eq_of_bare same], ?_⟩
  · rw [yields_nameOrUnderscore, nameOf]
    by_cases isUnderscore : c.next.kind = .symbol .underscore
    · simp [isUnderscore, and_comm]
    · simp [isUnderscore]
      tauto
  · rcases isNext with isNext | isNext <;> rw [isNext] <;> rfl
  · show Name.bare (nameOf other) = Name.bare (nameOf token)
    simp [nameOf, Name.bare, kind_eq_of_bare same, text_eq_of_bare same]

theorem tracks_memberName {g : Ground} [s.ground.Plain] :
    TracksAt sites s (fun _ => .behind g) 0 c d memberName memberName :=
  .ofTake (fun token => ⟨token.span, token.text⟩)
    (fun token => token.kind = .identifier ∨ token.kind = .keyword .self_ ∨ token.kind = .integer)
    (fun _ _ _ => yields_memberName.trans (by rw [and_congr_right_iff]; exact fun _ => and_comm))
    (fun isNext => by rcases isNext with isNext | isNext | isNext <;> rw [isNext] <;> rfl) nofun
    (fun _ => rfl) fun _ _ same isNext => ⟨by rwa [kind_eq_of_bare same],
      congrArg (Name.mk (.point 0)) (text_eq_of_bare same)⟩

/-! ### Looking -/

/-- **What is next** for both, where it is known to be kept. -/
theorem TracksAt.peek {f g : Token → Parser α} (firm : 2 ≤ s.ground.rank)
    (rest : ∀ token : Token, token.bare = c.next.bare →
      TracksAt sites s t credit c d (f c.next) (g token)) :
    TracksAt sites s t credit c d (peek >>= f) (peek >>= g) := by
  refine .looks (fun _ => rfl) (fun _ => rfl) ?_
  intro value c' yields
  obtain ⟨pays, tracks⟩ := rest c.next rfl yields
  refine ⟨pays, fun exact counted => ?_⟩
  obtain ⟨counted', back⟩ := tracks exact counted
  refine ⟨counted', fun settledLast => ?_⟩
  have settled := (back settledLast).1
  refine ⟨settled, fun follows => ?_⟩
  have again := rest d.next (follows.bare_next (settled.firm firm)) yields
  exact ((again.2 exact counted).2 settledLast).2 follows

theorem TracksAt.isAt {f g : Bool → Parser α} (asks : s.ground.Asks kind)
    (other : kind ≠ .keyword .return_)
    (rest : TracksAt sites s t credit c d (f (c.next.kind == kind)) (g (c.next.kind == kind))) :
    TracksAt sites s t credit c d (isAt kind >>= f) (isAt kind >>= g) := by
  refine .looks (fun _ => rfl) (fun _ => rfl)
    (rest.revise fun _ _ _ _ settled follows last d' read => ?_)
  have same : (d.next.kind == kind) = (c.next.kind == kind) := by
    rw [Bool.eq_iff_iff, beq_iff_eq, beq_iff_eq]
    exact follows.isNext_iff settled asks other
  rwa [same]

/-- Where the next token starts. -/
theorem TracksAt.here {f g : Nat → Parser α}
    (rest : TracksAt sites s t credit c d (f c.next.span.start) (g d.next.span.start)) :
    TracksAt sites s t credit c d (here >>= f) (here >>= g) :=
  .looks (fun _ => rfl) (fun _ => rfl) rest

/-- **Parsers that may take a token** before they go on. -/
theorem TracksAt.eat [s.ground.Plain] {g : Ground} {next other : Bool → Parser α}
    (asks : s.ground.Asks kind) (firm : kind.isFirm = true)
    (found : c.next.kind = kind →
      TracksAt sites (.behind g) t credit c.advance d.advance (next true) (other true))
    (absent : c.next.kind ≠ kind → TracksAt sites s t credit c d (next false) (other false)) :
    TracksAt sites s t credit c d (Parser.eat kind >>= next) (Parser.eat kind >>= other) := by
  by_cases isNext : c.next.kind = kind
  · obtain ⟨notEnd, noReturn⟩ := isFirm_ne (isNext ▸ firm)
    refine .afterTake notEnd (Token.isReturnOf_of_kind noReturn)
      (Cursor.settled_of_kind (isNext ▸ firm)) (fun no => absurd no Bool.false_ne_true)
      (found isNext) (fun value c' yields => ?_) fun same value d' read => ?_
    · rwa [yields_eat_bind, if_pos isNext] at yields
    · rwa [yields_eat_bind, if_pos ((kind_eq_of_bare same).trans isNext)]
  · have skipped : TracksAt sites s t credit c d (Parser.eat kind >>= next) (other false) :=
      (absent isNext).congr fun value c' yields => by rwa [yields_eat_bind, if_neg isNext] at yields
    refine skipped.revise fun _ _ _ _ settled follows value d' read => ?_
    have absent' := mt (follows.isNext_iff settled asks (isFirm_ne firm).2).mp isNext
    rwa [yields_eat_bind, if_neg absent']

theorem tracks_eat {fresh : Bool} {ground : Ground} [ground.Plain] (firm : kind.isFirm = true)
    (asks : ground.Asks kind) :
    TracksAt sites ⟨fresh, false, ground⟩ (fun _ => ⟨fresh, false, ground⟩) 0 c d
      (Parser.eat kind) (Parser.eat kind) := by
  rw [← bind_pure (Parser.eat kind)]
  exact .eat (g := ground) asks firm (fun _ => .pure (Nat.le_refl 0) rfl ⟨nofun, id, Nat.le_refl _⟩)
    fun _ => .pure (Nat.le_refl 0) rfl (.refl _)

/-- **Parsers that may read something** before they go on. -/
theorem TracksAt.optional {condition condition' : Prop} [Decidable condition] [Decidable condition']
    {given given' : Parser α} {w : Option α → Footing} {next other : Option α → Parser β}
    (same : c.Settled sites s.ground → c.Follows sites s.fresh d → (condition' ↔ condition))
    (found : condition → TracksAt sites s (fun value => w (some value)) 0 c d given given')
    (covers : s.Covers (w none))
    (rest : ∀ value? other? c' d', Lasts sites value? other? →
      TracksAt sites (w value?) u (credit + worth sites value?) c' d' (next value?)
      (other other?)) :
    TracksAt sites s u credit c d
      (if condition then (some <$> given) >>= next else Pure.pure none >>= next)
      (if condition' then (some <$> given') >>= other else Pure.pure none >>= other) := by
  refine .ite same (fun isSo => ?_) fun _ => ?_
  · exact ((found isSo).map (fun value => by rw [worth_some, Nat.zero_add])
      (fun _ _ => Lasts.some) fun value => .refl _).bind rest
  · exact (TracksAt.pure (Nat.le_refl 0) Lasts.none covers).bind rest

/-- Parsers that may take a token with something behind it before they go on. -/
theorem TracksAt.eatOptional [s.ground.Plain] {g : Ground} {given given' : Parser α}
    {w : Option α → Footing} {next other : Option α → Parser β}
    (asks : s.ground.Asks kind) (firm : kind.isFirm = true)
    (found : c.next.kind = kind → TracksAt sites (.behind g) (fun value => w (some value)) 0
      c.advance d.advance given given')
    (covers : s.Covers (w none))
    (rest : ∀ value? other? c' d', Lasts sites value? other? →
      TracksAt sites (w value?) u (credit + worth sites value?) c' d' (next value?)
      (other other?)) :
    TracksAt sites s u credit c d
      (Parser.eat kind >>= fun found =>
        if found then (some <$> given) >>= next else Pure.pure none >>= next)
      (Parser.eat kind >>= fun found =>
        if found then (some <$> given') >>= other else Pure.pure none >>= other) := by
  refine .eat (g := g) asks firm (fun isNext => ?_) fun _ => ?_
  · rw [if_pos rfl, if_pos rfl]
    exact ((found isNext).map (fun value => by rw [worth_some, Nat.zero_add])
      (fun _ _ => Lasts.some) fun value => .refl _).bind rest
  · rw [if_neg Bool.false_ne_true, if_neg Bool.false_ne_true]
    exact (TracksAt.pure (Nat.le_refl 0) Lasts.none covers).bind rest

/-! ### Lists -/

section Lists

variable {item item' : Parser α} {first last : Ground}

/-- Items with commas between them. -/
theorem tracks_separated [last.Plain] (asks : 1 ≤ last.rank) (less : first.rank ≤ last.rank)
    (items : ∀ c d, TracksAt sites (.behind first) (fun _ => .behind last) 0 c d item item')
    (bound : Nat) : TracksAt sites (.behind first) (fun _ => .behind last) 0 c d
      (separated item bound) (separated item' bound) := by
  have covers : (Footing.behind first).Covers (.behind last) := ⟨id, id, less⟩
  induction bound generalizing c d with
  | zero => exact .pure (Nat.le_refl 0) .nil covers
  | succ bound ih =>
      refine (items c d).bind fun value other c' d' same =>
        .eat (g := first) (.inr ⟨asks, rfl⟩) rfl (fun _ => ?_) fun _ => ?_
      · exact ih.bind fun rest others _ _ more => .pure (by simp) (same.cons more) (.refl _)
      · exact .pure (by simp) (same.cons .nil) (.refl _)

/-- Items with commas between them up to a closing sign. -/
theorem tracks_itemsUntil {ground : Ground} [ground.Plain] (firm : 2 ≤ ground.rank) (close : Symbol)
    (items : ∀ c d, TracksAt sites (.behind ground) (fun _ => .behind ground) 0 c d item item')
    (bound : Nat) : TracksAt sites (.behind ground) (fun _ => .behind ground) 0 c d
      (itemsUntil close item bound) (itemsUntil close item' bound) := by
  induction bound generalizing c d with
  | zero => exact .pure (Nat.le_refl 0) .nil (.refl _)
  | succ bound ih =>
      refine .isAt (.inl firm) nofun (.ite (fun _ _ => .rfl)
        (fun _ => .pure (Nat.le_refl 0) .nil (.refl _)) fun _ => ?_)
      refine (items c d).bind fun value other c' d' same =>
        .eat (g := ground) (.inl firm) rfl (fun _ => ?_) fun _ => ?_
      · exact ih.bind fun rest others _ _ more => .pure (by simp) (same.cons more) (.refl _)
      · exact .pure (by simp) (same.cons .nil) (.refl _)

/-- Items with commas between them and the closing sign. -/
theorem tracks_closedBy {ground g : Ground} [ground.Plain] (firm : 2 ≤ ground.rank) {close : Symbol}
    (isSign : (TokenKind.symbol close).isFirm = true)
    (items : ∀ c d, TracksAt sites (.behind ground) (fun _ => .behind ground) 0 c d item item')
    (bound : Nat) : TracksAt sites (.behind ground) (fun _ => .behind g) 0 c d
      (closedBy close item bound) (closedBy close item' bound) :=
  (tracks_itemsUntil firm close items bound).bind fun _ _ _ _ same =>
    (tracks_expectSymbol close isSign).bind fun _ _ _ _ _ => .pure (by simp) same (.refl _)

/-- Items up to a closing sign, behind which returns may have been shed. -/
theorem tracks_repeatedUntil {ground : Ground} (firm : 2 ≤ ground.rank) (close : Symbol)
    (items : ∀ c d, TracksAt sites (.start ground) (fun _ => .start ground) 0 c d item item')
    (bound : Nat) : TracksAt sites (.start ground) (fun _ => .start ground) 0 c d
      (repeatedUntil close item bound) (repeatedUntil close item' bound) := by
  induction bound generalizing c d with
  | zero => exact .pure (Nat.le_refl 0) .nil (.refl _)
  | succ bound ih =>
      refine .isAt (.inl firm) nofun (.ite (fun _ _ => .rfl)
        (fun _ => .pure (Nat.le_refl 0) .nil (.refl _)) fun _ => ?_)
      exact (items c d).bind fun value other c' d' same => ih.bind fun rest others _ _ more =>
        .pure (by simp) (same.cons more) (.refl _)

end Lists

end Parser

/-! ### Runs of tokens -/

namespace Cursor

variable {c d : Cursor} {chooses : Token → Bool}

theorem advance_eq_skip (notEnd : c.next.kind ≠ .endOfFile) : c.advance = c.skip 1 := by
  rw [advance, if_neg (mt beq_iff_eq.mp notEnd)]

theorem skip_succ (notEnd : c.next.kind ≠ .endOfFile) (count : Nat) :
    c.skip (count + 1) = c.advance.skip count := by
  rw [advance_eq_skip notEnd, skip_skip, Nat.add_comm]

/-- A run of tokens begins with the next one. -/
theorem takeWhile_rest (ends : ∀ token : Token, token.kind = .endOfFile → chooses token = false) :
    c.rest.takeWhile chooses =
      if chooses c.next then c.next :: c.advance.rest.takeWhile chooses else [] := by
  split
  · next chosen =>
      have notEnd : c.next.kind ≠ .endOfFile := fun isEnd => by simp [ends _ isEnd] at chosen
      rw [rest_eq_cons notEnd, List.takeWhile_cons_of_pos chosen]
  · next other =>
      unfold next at other
      cases rest : c.rest with
      | nil => rfl
      | cons token tokens =>
          rw [rest] at other
          exact List.takeWhile_cons_of_neg other

/-- **A run of tokens that are kept**, and one behind them, is as long for both. -/
theorem Follows.takeWhile (follows : c.Follows sites false d)
    (alike : ∀ token other : Token, other.bare = token.bare →
      other.newlineBefore = token.newlineBefore → chooses other = chooses token)
    (ends : ∀ token : Token, token.kind = .endOfFile → chooses token = false)
    (kept : ∀ token ∈ c.rest.takeWhile chooses, token.isReturnOf sites = false)
    (last : (c.skip (c.rest.takeWhile chooses).length).next.isReturnOf sites = false) :
    (c.skip (c.rest.takeWhile chooses).length).Follows sites false
        (d.skip (d.rest.takeWhile chooses).length) ∧
      (d.rest.takeWhile chooses).map Token.bare = (c.rest.takeWhile chooses).map Token.bare := by
  -- on the run, with one step of both cursors for each token of it
  induction run : c.rest.takeWhile chooses generalizing c d with
  | nil =>
      rw [run] at last
      have nextKept : c.next.isReturnOf sites = false := by rwa [List.length_nil, skip_zero] at last
      have none : chooses c.next ≠ true := fun chosen => by
        rw [takeWhile_rest ends, if_pos chosen] at run
        cases run
      rw [takeWhile_rest (c := d) ends, alike _ _ (follows.bare_next nextKept)
        (follows.newlineBefore_next nextKept), if_neg none, List.length_nil, skip_zero, skip_zero]
      exact ⟨follows, rfl⟩
  | cons token tokens ih =>
      rw [run] at last
      have chosen : chooses c.next = true := by
        by_contra other
        rw [takeWhile_rest ends, if_neg other] at run
        cases run
      have notEnd : c.next.kind ≠ .endOfFile := fun isEnd => by simp [ends _ isEnd] at chosen
      have nextKept := kept c.next
        (by rw [takeWhile_rest ends, if_pos chosen]; exact List.mem_cons_self)
      have sameNext := follows.bare_next nextKept
      have chosen' : chooses d.next = true := by
        rw [alike _ _ sameNext (follows.newlineBefore_next nextKept), chosen]
      have notEnd' : d.next.kind ≠ .endOfFile := by rwa [follows.kind_next nextKept]
      rw [takeWhile_rest ends, if_pos chosen, List.cons.injEq] at run
      obtain ⟨rfl, run⟩ := run
      rw [takeWhile_rest (c := d) ends, if_pos chosen', List.length_cons, List.length_cons,
        skip_succ notEnd, skip_succ notEnd', List.map_cons, List.map_cons, sameNext]
      rw [List.length_cons, skip_succ notEnd] at last
      have more := ih (follows.advance nextKept notEnd)
        (fun token member => kept token (by
          rw [takeWhile_rest ends, if_pos chosen]; exact List.mem_cons_of_mem _ member))
        (by rwa [run]) run
      exact ⟨more.1, congrArg _ more.2⟩

end Cursor

/-- Lists of values that hold no returns. -/
theorem lasts_list {values others : List α}
    (same : ∀ keywords (value : α), ParserValue.without keywords value = value) :
    Lasts sites values others ↔ others.map ParserValue.bare = values.map ParserValue.bare := by
  show others.map _ = (values.map _).map _ ↔ _
  rw [List.map_congr_left fun value _ => same _ value, List.map_id']

namespace Parser

variable {c d : Cursor} {chooses : Token → Bool} {ground : Ground}

/-- **A run of tokens** is taken, where the first of them is no return. -/
theorem tracks_run [ground.Plain] (firm : 2 ≤ ground.rank)
    (alike : ∀ token other : Token, other.bare = token.bare →
      other.newlineBefore = token.newlineBefore → chooses other = chooses token)
    (ends : ∀ token : Token, token.kind = .endOfFile → chooses token = false)
    (starts : chooses c.next = true → c.next.kind.isFirm = true) :
    TracksAt sites (.behind ground) (fun _ => .behind ground) 0 c d
      (takeMany (c.rest.takeWhile chooses).length)
      (takeMany (d.rest.takeWhile chooses).length) := by
  intro tokens c' yields
  obtain ⟨rfl, rfl⟩ := yields_takeMany.mp yields
  rw [worth_eq_zero (fun _ => rfl), Nat.zero_add, Nat.zero_add]
  refine ⟨ReturnSite.left_drop_le _, fun same counted => ?_⟩
  -- as many keywords are left behind the run as before it
  have kept := ReturnSite.isReturnOf_of_left_drop counted same
  refine ⟨ReturnSite.AllCount.drop counted same, fun settled => ⟨?_, fun follows => ?_⟩⟩
  · by_cases chosen : chooses c.next = true
    · exact Cursor.settled_of_kind (starts chosen)
    · rwa [Cursor.takeWhile_rest ends, if_neg chosen, List.length_nil, Cursor.skip_zero] at settled
  · have run := List.prefix_iff_eq_take.mp (@List.takeWhile_prefix _ c.rest chooses)
    have run' := List.prefix_iff_eq_take.mp (@List.takeWhile_prefix _ d.rest chooses)
    obtain ⟨follows', same⟩ := follows.takeWhile alike ends (by rwa [run]) (settled.firm firm)
    exact ⟨_, _, yields_takeMany.mpr ⟨rfl, rfl⟩, (lasts_list fun _ _ => rfl).mpr
      (by rw [← run, ← run']; exact same), follows'⟩

/-! ### Ends -/

theorem tracks_skipSemicolons : TracksAt sites (.behind .signed) (fun _ => .behind .signed) 0 c d
    skipSemicolons skipSemicolons := by
  have run : TracksAt sites (.behind .signed) (fun _ => .behind .signed) 0 c d
      (takeMany (c.rest.takeWhile (·.kind == .symbol .semicolon)).length)
      (takeMany (d.rest.takeWhile (·.kind == .symbol .semicolon)).length) :=
    tracks_run (by decide) (fun _ _ same _ => by rw [kind_eq_of_bare same])
      (fun _ isEnd => by rw [isEnd]; rfl) fun isSign => by rw [beq_iff_eq.mp isSign]; rfl
  exact .looks (fun _ => rfl) (fun _ => rfl)
    (run.bind fun _ _ _ _ _ => .pure (Nat.zero_le _) rfl (.refl _))

theorem tracks_endStatement : TracksAt sites (.behind .signed) (fun _ => .behind .signed) 0 c d
    endStatement endStatement := by
  refine .eat (g := .signed) (.inl (by decide)) rfl
    (fun _ => .pure (Nat.zero_le _) rfl (.refl _)) fun _ => ?_
  refine .looks (fun _ => rfl) (fun _ => rfl) (.ite (fun settled follows => ?_)
    (fun _ => .pure (Nat.zero_le _) rfl (.refl _)) fun _ => .fails fun _ _ => not_yields_throw)
  have kept := settled.firm (by decide)
  rw [follows.newlineBefore_next kept, follows.kind_next kept]

/-- Items that start and end where what is next is known. -/
theorem tracks_members {item item' : Parser α} {stops : TokenKind → Bool}
    (items : ∀ c d, TracksAt sites (.behind .signed) (fun _ => .behind .signed) 0 c d item item')
    (bound : Nat) : TracksAt sites (.behind .signed) (fun _ => .behind .signed) 0 c d
      (sequence stops item bound) (sequence stops item' bound) := by
  induction bound generalizing c d with
  | zero => exact .pure (Nat.le_refl 0) .nil (.refl _)
  | succ bound ih =>
      refine tracks_skipSemicolons.bind fun _ _ c' d' _ => .looks (fun _ => rfl) (fun _ => rfl)
        (.ite (fun settled follows => by rw [follows.kind_next (settled.firm (by decide))])
          (fun _ => .pure (Nat.le_refl 0) .nil (.refl _)) fun _ => ?_)
      exact (items _ _).bind fun first other _ _ same => tracks_endStatement.bind fun _ _ _ _ _ =>
        ih.bind fun rest others _ _ more =>
          .pure (by rw [worth_cons]; omega) (same.cons more) (.refl _)

end Parser

end ResultBuilder.Syntax
