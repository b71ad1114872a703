import ResultBuilder.Proofs.Syntax.Returns.Steps

/-!
# Types that are tracked

Where a type is read it stays the same without the returns around it. A type may go on with a dot
and a name on the next line, so that more has to be known behind it than behind an expression.

* **`Parser.Inner.Tracks`**: the parsers of what is further in track themselves.
* **`Parser.tracks_type`**: types.
-/

namespace ResultBuilder.Syntax

variable {sites : List ReturnSite}

/-- What has to be known behind a declaration. -/
def Declaration.ground (declaration : Declaration) : Ground :=
  if declaration.endsWithSignature then .signed else .loose

/-- What has to be known behind a statement. -/
def Statement.ground (statement : Statement) : Ground :=
  if statement.endsWithSignature then .signed else .loose

namespace Parser

/-- A parser that tracks itself from where something starts. -/
abbrev Tracks {α : Type} [ParserValue α] (sites : List ReturnSite) (last : α → Ground)
    (parser : Parser α) : Prop :=
  ∀ c d, TracksAt sites (.start .signed) (fun value => .behind (last value)) 0 c d parser parser

/-- What a parser of statements reads at a return, given the parser of its value. -/
def ReadsReturn (value : Parser Expr) (statement : Statement) (c c' : Cursor) : Prop :=
  if endsReturn c.advance.next then
    c' = c.advance ∧ statement = .returning (c.advance.spanFrom c.next.span.start) c.next.span none
  else ∃ node, value.Yields c.advance node c' ∧
    statement = .returning (c'.spanFrom c.next.span.start) c.next.span (some node)

/-- **Parsers of what is further in** that track themselves, and what they read where a return may
be. -/
structure Inner.Tracks (sites : List ReturnSite) (inner : Inner) : Prop where
  type : Parser.Tracks sites (fun _ => .signed) inner.type
  typeOpens : ∀ ⦃c type c'⦄, inner.type.Yields c type c' → startsType c.next.kind = true
  typeHalts : ∀ ⦃c type c'⦄, inner.type.Yields c type c' → c.next.kind = .identifier →
    c.advance.next.kind = .keyword .return_ → c' = c.advance
  expression : ∀ region, Parser.Tracks sites (fun _ => region.ground) (inner.expression region)
  expressionHalts : ∀ ⦃region c node c'⦄, (inner.expression region).Yields c node c' →
    namesParam c.next.kind = true → haltsName c.advance.next.kind = true → c' = c.advance
  ternary : ∀ region, Parser.Tracks sites (fun _ => region.ground) (inner.ternary region)
  binary : ∀ region least, Parser.Tracks sites (fun _ => region.ground) (inner.binary region least)
  unary : ∀ region, Parser.Tracks sites (fun _ => region.ground) (inner.unary region)
  declaration : Parser.Tracks sites Declaration.ground inner.declaration
  conditional : Parser.Tracks sites (fun _ => .loose) inner.conditional
  statementStarts : ∀ ⦃c statement c'⦄, inner.statement.Yields c statement c' →
    goesOn c.next.kind = false ∧ ∀ span keyword value, statement = .returning span keyword value →
      c.next.kind = .keyword .return_ ∧ keyword = c.next.span
  statement : ∀ c d, c.next.isReturnOf sites = false →
    TracksAt sites ⟨true, true, .signed⟩ (fun statement => .behind statement.ground) 0 c d
      inner.statement inner.statement
  returns : ∃ value : Parser Expr, Parser.Tracks sites (fun _ => .loose) value ∧
    (∀ c node c', value.Yields c node c' →
      opensExpr c.next.kind = true ∧ node.span.start = c.next.span.start) ∧
    (∀ c node c', value.Yields c node c' → namesParam c.next.kind = true →
      haltsName c.advance.next.kind = true → c' = c.advance) ∧
    (∀ c statement c', c.next.kind = .keyword .return_ → inner.statement.Yields c statement c' →
      ReadsReturn value statement c c') ∧
    ∀ c statement c', opensExpr c.next.kind = true → (inner.statement.Yields c statement c' ↔
      ∃ node, value.Yields c node c' ∧ statement = .expression node)

end Parser

namespace Cursor

variable {c : Cursor} {kind : TokenKind}

/-- The second token is the one behind the next, where that is another one. -/
theorem second_kind_iff (notLast : c.next.kind ≠ .endOfFile) (other : c.next.kind ≠ kind)
    (notEnd : kind ≠ .endOfFile) : c.second.kind = kind ↔ c.advance.next.kind = kind := by
  rw [advance_eq_skip notLast]
  unfold next second skip at *
  rcases rest : c.rest with - | ⟨token, - | ⟨other, tokens⟩⟩
  · rw [rest] at notLast
    exact absurd rfl notLast
  · rw [rest] at other
    refine iff_of_false ?_ notEnd.symm
    show ¬ (c.rest.headD c.finalToken).kind = kind
    rwa [rest]
  · rfl

end Cursor

namespace Parser

variable {c d : Cursor} {ground : Ground}

theorem skip_two (notEnd : c.next.kind ≠ .endOfFile) (notEnd' : c.advance.next.kind ≠ .endOfFile) :
    c.skip 2 = c.advance.advance := by
  rw [Cursor.skip_succ notEnd, Cursor.skip_succ notEnd', Cursor.skip_zero]

/-! ### Attributes -/

theorem tracks_attributes [ground.Plain] (firm : 2 ≤ ground.rank) {fresh : Bool} (bound : Nat) :
    TracksAt sites ⟨fresh, false, ground⟩ (fun _ => ⟨fresh, false, ground⟩) 0 c d
      (attributes bound) (attributes bound) := by
  induction bound generalizing fresh c d with
  | zero => exact .pure (Nat.le_refl 0) .nil (.refl _)
  | succ bound ih =>
      refine .isAt (.inl firm) nofun (.ite (fun _ _ => .rfl) (fun isSign => ?_)
        fun _ => .pure (Nat.le_refl 0) .nil (.refl _))
      refine (tracks_take (g := ground) (by rw [beq_iff_eq.mp isSign]; rfl)).bind fun _ _ _ _ _ =>
        (tracks_identifier (g := ground)).bind fun name name' _ _ same =>
          .looks (fun _ => rfl) (fun _ => rfl) ?_
      refine (@ih _ _ false).bind fun rest rest' _ _ more =>
        .pure (Nat.le_add_left _ _) (.cons ?_ more) ⟨nofun, nofun, Nat.le_refl _⟩
      exact congrArg (Attribute.mk (.point 0)) same.text

theorem yields_attributes_of_other {bound : Nat} {marks : List Attribute} {c' : Cursor}
    (other : c.next.kind ≠ .symbol .atSign) (yields : (attributes bound).Yields c marks c') :
    c' = c := by
  cases bound with
  | zero => exact (yields_pure.mp yields).2
  | succ bound =>
      rw [yields_attributes, if_neg other] at yields
      exact yields.2

/-! ### Names with dots -/

/-- Names with dots begin with the next two tokens. -/
theorem dottedNames_rest (c : Cursor) : dottedNames c.rest =
    if c.next.kind = .symbol .dot ∧ c.advance.next.kind = .identifier then
      c.advance.next :: dottedNames c.advance.advance.rest else [] := by
  by_cases isDot : c.next.kind = .symbol .dot
  · have cut := c.rest_eq_cons (by rw [isDot]; exact nofun)
    by_cases isName : c.advance.next.kind = .identifier
    · rw [if_pos ⟨isDot, isName⟩, cut, c.advance.rest_eq_cons (by rw [isName]; exact nofun)]
      simp [dottedNames, isDot, isName]
    · rw [if_neg fun both => isName both.2, cut]
      unfold Cursor.next at isName
      cases more : c.advance.rest with
      | nil => rfl
      | cons token tokens =>
          rw [more] at isName
          have other : ¬ token.kind = .identifier := isName
          simp [dottedNames, other]
  · rw [if_neg fun both => isDot both.1]
    unfold Cursor.next at isDot
    rcases more : c.rest with - | ⟨token, - | ⟨name, tokens⟩⟩
    · rfl
    · rfl
    · rw [more] at isDot
      have other : ¬ token.kind = .symbol .dot := isDot
      simp [dottedNames, other]

/-- The names that follow with a dot before each. -/
def dottedPath : Parser (List String) := do
  let parts := dottedNames (← get).rest
  let _ ← takeMany (2 * parts.length)
  return parts.map (·.text)

theorem yields_dottedPath {texts : List String} {c' : Cursor} :
    dottedPath.Yields c texts c' ↔ texts = (dottedNames c.rest).map (·.text) ∧
      c' = c.skip (2 * (dottedNames c.rest).length) := by
  simp [dottedPath, and_comm]

/-- **Names with dots are the same for both**, where a dot behind them is no part of a value. -/
theorem follows_dottedNames (follows : c.Follows sites false d)
    (settled : (c.skip (2 * (dottedNames c.rest).length)).Settled sites .signed) :
    (c.skip (2 * (dottedNames c.rest).length)).Follows sites false
        (d.skip (2 * (dottedNames d.rest).length)) ∧
      (dottedNames d.rest).map (·.text) = (dottedNames c.rest).map (·.text) := by
  induction run : dottedNames c.rest generalizing c d with
  | nil =>
      rw [run] at settled
      rw [List.length_nil, Nat.mul_zero, Cursor.skip_zero] at settled ⊢
      rw [dottedNames_rest, if_neg, List.length_nil, Nat.mul_zero, Cursor.skip_zero]
      · exact ⟨follows, rfl⟩
      -- a dot and a name that come next for the other are kept, and come next here
      rintro ⟨isDot, isName⟩
      rw [follows.kind_next settled.1] at isDot
      have behind := follows.advance settled.1 (by rw [isDot]; exact nofun)
      rw [behind.kind_next (settled.2 isDot)] at isName
      rw [dottedNames_rest, if_pos ⟨isDot, isName⟩] at run
      cases run
  | cons name names ih =>
      rw [run] at settled
      by_cases goesOn : c.next.kind = .symbol .dot ∧ c.advance.next.kind = .identifier
      · rw [dottedNames_rest, if_pos goesOn, List.cons.injEq] at run
        obtain ⟨isDot, isName⟩ := goesOn
        obtain ⟨rfl, run⟩ := run
        have kept := @Token.isReturnOf_of_kind sites _
          (isDot ▸ nofun : c.next.kind ≠ .keyword .return_)
        have keptName := @Token.isReturnOf_of_kind sites _
          (isName ▸ nofun : c.advance.next.kind ≠ .keyword .return_)
        have notEnd : c.next.kind ≠ .endOfFile := isDot ▸ nofun
        have notEndName : c.advance.next.kind ≠ .endOfFile := isName ▸ nofun
        have behind := follows.advance kept notEnd
        have isDot' := (follows.kind_next kept).trans isDot
        have isName' := (behind.kind_next keptName).trans isName
        rw [List.length_cons, Nat.mul_succ, Cursor.skip_succ notEnd, Cursor.skip_succ notEndName]
          at settled
        obtain ⟨follows', same⟩ := ih (behind.advance keptName notEndName) (by rwa [run]) run
        rw [dottedNames_rest d, if_pos ⟨isDot', isName'⟩, List.length_cons, List.length_cons,
          Nat.mul_succ, Nat.mul_succ, Cursor.skip_succ notEnd, Cursor.skip_succ notEndName,
          Cursor.skip_succ (isDot' ▸ nofun), Cursor.skip_succ (isName' ▸ nofun), List.map_cons,
          List.map_cons, same, behind.text_next keptName]
        exact ⟨follows', rfl⟩
      · rw [dottedNames_rest, if_neg goesOn] at run
        cases run

theorem tracks_dottedPath : TracksAt sites (.behind .signed) (fun _ => .behind .signed) 0 c d
    dottedPath dottedPath := by
  intro texts c' yields
  obtain ⟨rfl, rfl⟩ := yields_dottedPath.mp yields
  rw [worth_eq_zero (fun _ => rfl), Nat.zero_add, Nat.zero_add]
  refine ⟨ReturnSite.left_drop_le _, fun same counted =>
    ⟨ReturnSite.AllCount.drop counted same, fun settled => ⟨?_, fun follows => ?_⟩⟩⟩
  · by_cases goesOn : c.next.kind = .symbol .dot ∧ c.advance.next.kind = .identifier
    · exact ⟨Token.isReturnOf_of_kind (goesOn.1 ▸ nofun), fun _ =>
        Token.isReturnOf_of_kind (goesOn.2 ▸ nofun)⟩
    · rwa [dottedNames_rest, if_neg goesOn, List.length_nil, Nat.mul_zero, Cursor.skip_zero]
        at settled
  · obtain ⟨follows', same⟩ := follows_dottedNames follows settled
    refine ⟨_, _, yields_dottedPath.mpr ⟨rfl, rfl⟩, (lasts_list fun _ _ => rfl).mpr ?_, follows'⟩
    rw [same]

/-! ### Types -/

variable {inner : Inner} {type : DeclaredType} {c' : Cursor}

/-- A name that is a type of its own ends where something follows that no type goes on with. -/
theorem halts_type (opens : ∀ ⦃c type c'⦄, inner.type.Yields c type c' →
    startsType c.next.kind = true)
    (yields : (Parser.type inner).Yields c type c') (isName : c.next.kind = .identifier)
    (isReturn : c.advance.next.kind = .keyword .return_) : c' = c.advance := by
  obtain ⟨base, middle, read, rfl, -⟩ := yields_type.mp yields
  have read := yields_unmarkedType.mp read
  rw [isName] at read
  dsimp only at read
  split at read
  · obtain ⟨bound, readBound, -⟩ := read
    have starts := opens readBound
    rw [isReturn] at starts
    cases starts
  -- neither a dot nor a mark comes behind the name
  · have none : dottedNames c.advance.rest = [] := by
      rw [dottedNames_rest, if_neg fun goesOn => by rw [isReturn] at goesOn; cases goesOn.1]
    rw [none, List.length_nil, Nat.mul_zero, Cursor.skip_zero, isReturn, if_neg nofun] at read
    obtain ⟨-, rfl⟩ := read
    rw [Cursor.takeWhile_rest (fun token isEnd => by simp [marksOptional, isEnd]),
      if_neg (by simp [marksOptional, isReturn]), List.length_nil, Cursor.skip_zero]

/-- Whether a label comes next, in terms of the next tokens. -/
theorem labelled_iff : labelled c = true ↔
    namesParam c.next.kind = true ∧ c.advance.next.kind = .symbol .colon := by
  rw [labelled, Bool.and_eq_true, beq_iff_eq]
  refine and_congr_right fun isName => ?_
  rcases Bool.or_eq_true_iff.mp isName with isKind | isKind <;> rw [beq_iff_eq] at isKind <;>
    exact Cursor.second_kind_iff (isKind.trans_ne (by decide)) (isKind.trans_ne (by decide))
      (by decide)

variable (tracks : inner.Tracks sites)
include tracks

/-- Attributes, which are dropped, and a type. -/
theorem tracks_markedType : TracksAt sites (.behind .signed) (fun _ => .behind .signed) 0 c d
    (attributes inner.bound >>= fun _ => inner.type)
    (attributes inner.bound >>= fun _ => inner.type) := by
  refine (tracks_attributes (by decide) inner.bound).bind fun marks _ c d _ => ?_
  exact (tracks.type c d).prior (by decide)

/-- Where the other finds a label there is one: a return that is shed behind the name would be
behind the whole type. -/
theorem labelled_of_follows
    (yields : (attributes inner.bound >>= fun _ => inner.type).Yields c type c')
    (settled : c'.Settled sites .signed) (before : c.Settled sites .signed)
    (follows : c.Follows sites false d) (labelled' : labelled d = true) : labelled c = true := by
  obtain ⟨isName, isColon⟩ := labelled_iff.mp labelled'
  rw [follows.kind_next before.1] at isName
  have notEnd : c.next.kind ≠ .endOfFile := fun isEnd => by rw [isEnd] at isName; cases isName
  refine labelled_iff.mpr ⟨isName, ?_⟩
  cases isReturn : c.advance.next.isReturnOf sites with
  | false => rw [← (follows.advance before.1 notEnd).kind_next isReturn, isColon]
  | true =>
      exfalso
      -- the type would be the name alone, and no return may follow a type
      obtain ⟨marks, middle, readMarks, readType⟩ := yields_bind.mp yields
      have isKind : c.next.kind = .identifier ∨ c.next.kind = .symbol .underscore := by
        simpa [namesParam] using isName
      obtain rfl := yields_attributes_of_other
        (by rcases isKind with kind | kind <;> rw [kind] <;> decide) readMarks
      have isIdentifier : middle.next.kind = .identifier := by
        refine isKind.resolve_right fun isUnderscore => ?_
        have starts := tracks.typeOpens readType
        rw [isUnderscore] at starts
        cases starts
      obtain rfl := tracks.typeHalts readType isIdentifier (Token.kind_of_isReturnOf isReturn)
      rw [settled.1] at isReturn
      cases isReturn

theorem tracks_typeElement : TracksAt sites (.behind .signed) (fun _ => .behind .signed) 0 c d
    (typeElement inner) (typeElement inner) := by
  have labels (c : Cursor) {β : Type} (yes no : Parser β) :
      (if (c.next.kind == .identifier || c.next.kind == .symbol .underscore) &&
          c.second.kind == .symbol .colon then yes else no) = if labelled c then yes else no := rfl
  refine .looks (fun _ => rfl) (fun _ => rfl) ?_
  rw [labels, labels]
  by_cases label : labelled c = true
  · rw [if_pos label]
    obtain ⟨isName, isColon⟩ := labelled_iff.mp label
    have firm : c.next.kind.isFirm = true := by
      rcases Bool.or_eq_true_iff.mp isName with isKind | isKind <;>
        rw [beq_iff_eq.mp isKind] <;> rfl
    obtain ⟨notEnd, noReturn⟩ := isFirm_ne firm
    have behind : TracksAt sites (.behind .signed) (fun _ => .behind .signed) 0 c.advance d.advance
        (expectSymbol .colon >>= fun _ => attributes inner.bound >>= fun _ => inner.type)
        (expectSymbol .colon >>= fun _ => attributes inner.bound >>= fun _ => inner.type) :=
      .bind (tracks_expectSymbol (g := .signed) .colon rfl) fun _ _ _ _ _ =>
        (tracks_markedType tracks).prior (.refl _)
    refine .afterTake (o := false) notEnd (Token.isReturnOf_of_kind noReturn)
      (Cursor.settled_of_kind firm) (fun no => absurd no Bool.false_ne_true) behind
      (fun type c' yields => ?_) fun same type d' read => ?_
    · obtain ⟨_, _, two, more⟩ := yields_bind.mp yields
      obtain ⟨-, rfl⟩ := yields_takeMany.mp two
      rw [skip_two notEnd (isColon.trans_ne (by decide))] at more
      exact yields_bind.mpr ⟨_, _, yields_expectSymbol.mpr ⟨isColon, rfl, rfl⟩, more⟩
    · obtain ⟨_, _, colon, more⟩ := yields_bind.mp read
      obtain ⟨isColon', -, rfl⟩ := yields_expectSymbol.mp colon
      have isName' : namesParam d.next.kind = true := by rwa [kind_eq_of_bare same]
      have notEnd' : d.next.kind ≠ .endOfFile := by rwa [kind_eq_of_bare same]
      rw [if_pos (labelled_iff.mpr ⟨isName', isColon'⟩)]
      rw [← skip_two notEnd' (isColon'.trans_ne (by decide))] at more
      exact yields_bind.mpr ⟨_, _, yields_takeMany.mpr ⟨rfl, rfl⟩, more⟩
  · rw [if_neg label]
    refine (tracks_markedType tracks).revise
      fun type c' yields settled before follows other d' read => ?_
    rwa [if_neg fun labelled' => label
      (labelled_of_follows tracks yields settled before follows labelled')]

theorem tracks_typeList {g : Ground} : TracksAt sites (.start .signed) (fun _ => .behind g) 0 c d
    (typeList inner) (typeList inner) :=
  .bind (tracks_expectSymbol (g := .signed) .parenOpen rfl) fun _ _ _ _ _ =>
    (tracks_closedBy (by decide) rfl (fun _ _ => tracks_typeElement tracks) _).prior (.refl _)

omit tracks in
theorem lasts_type {type other : DeclaredType} : Lasts sites type other ↔ other.bare = type.bare :=
  .rfl

/-- A name with dots and the types in brackets behind it. -/
def namedType (inner : Inner) (start : Nat) (first : String) (texts : List String) :
    Parser DeclaredType := do
  let name := String.intercalate "." (first :: texts)
  if ← eatSymbol .less then
    let args ← separated inner.type inner.bound
    let _ ← expectSymbol .greater
    return .named (.point start) name args
  else
    return .named (.point start) name []

theorem tracks_namedType {start start' : Nat} {first : String} (texts : List String) :
    TracksAt sites (.behind .signed) (fun _ => .behind .signed) 0 c d
      (namedType inner start first texts) (namedType inner start' first texts) := by
  refine .eat (g := .signed) (.inl (by decide)) rfl (fun _ => ?_) fun _ =>
    .pure (Nat.zero_le _) rfl (.refl _)
  have types : ∀ c d, TracksAt sites (.behind .signed) (fun _ => .behind .signed) 0 c d
      inner.type inner.type := fun c d => (tracks.type c d).prior (by decide)
  refine .bind (tracks_separated (by decide) (by decide) types _) fun args args' _ _ same =>
    .bind (tracks_expectSymbol (g := .signed) .greater rfl) fun _ _ _ _ _ =>
      .pure (Nat.zero_le _) (lasts_type.mpr ?_) (.refl _)
  rw [DeclaredType.bare_named, DeclaredType.bare_named]
  exact congrArg _ ((lasts_list fun _ _ => rfl).mp same)

/-- A type before its marks. -/
theorem tracks_unmarkedType : TracksAt sites (.start .signed) (fun _ => .behind .signed) 0 c d
    (unmarkedType inner) (unmarkedType inner) := by
  refine .here (.peek (by decide) fun token same => ?_)
  rw [kind_eq_of_bare same, text_eq_of_bare same]
  split
  case h_1 isName =>
    refine .bind (tracks_take (g := .signed) (by rw [isName]; rfl)) fun _ _ c d _ =>
      .ite (fun _ _ => .rfl) (fun _ => ?_) fun _ => ?_
    · exact ((tracks.type c d).prior (by decide)).bind fun bound bound' _ _ same =>
        .pure (Nat.zero_le _) (congrArg (DeclaredType.someOf (.point 0)) same) (.refl _)
    · show TracksAt sites _ _ _ c d (dottedPath >>= namedType inner _ _)
        (dottedPath >>= namedType inner _ _)
      refine .bind tracks_dottedPath fun texts texts' c d same => ?_
      have sameTexts : texts'.map id = texts.map id := (lasts_list fun _ _ => rfl).mp same
      rw [List.map_id, List.map_id] at sameTexts
      subst sameTexts
      exact (tracks_namedType tracks _).prior (.refl _)
  case h_2 isOpen =>
    refine .bind (tracks_typeList (g := .signed) tracks) fun elements elements' c d same => ?_
    have sameBare := (lasts_list fun _ _ => rfl).mp same
    refine .eat (g := .signed) (.inl (by decide)) rfl (fun _ => ?_) fun _ => ?_
    · refine ((tracks.type _ _).prior (by decide)).bind
        fun result result' _ _ more => .pure (Nat.zero_le _) (lasts_type.mpr ?_) (.refl _)
      rw [DeclaredType.bare_function, DeclaredType.bare_function, lasts_type.mp more]
      exact congrArg (DeclaredType.function _ · _) sameBare
    · rw [if_neg Bool.false_ne_true, if_neg Bool.false_ne_true]
      rcases elements with - | ⟨first, - | ⟨second, rest⟩⟩ <;>
        rcases elements' with - | ⟨first', - | ⟨second', rest'⟩⟩ <;>
        first | (cases sameBare; done) | (cases (List.cons.inj sameBare).2; done) | skip
      · exact .pure (Nat.zero_le _) rfl (.refl _)
      · exact .pure (Nat.zero_le _) (List.cons.inj sameBare).1 (.refl _)
      · refine .pure (Nat.zero_le _) (lasts_type.mpr ?_) (.refl _)
        rw [DeclaredType.bare_tuple, DeclaredType.bare_tuple]
        exact congrArg _ sameBare
  case h_3 => exact .fails fun _ _ => not_yields_unexpected

theorem tracks_type : Tracks sites (fun _ => .signed) (Parser.type inner) := by
  intro c d
  refine .here (.bind (tracks_unmarkedType tracks) fun base base' c d same =>
    .looks (fun _ => rfl) (fun _ => rfl) (.looks (fun _ => rfl) (fun _ => rfl) ?_))
  refine .bind (tracks_run (show 2 ≤ Ground.signed.rank by decide) (fun token other same _ => ?_)
    (fun token isEnd => by simp [marksOptional, isEnd]) fun isMark => ?_)
    fun marks marks' _ _ sameMarks => .pure (Nat.zero_le _) (lasts_type.mpr ?_) (.refl _)
  · rw [marksOptional, marksOptional, kind_eq_of_bare same]
  · rcases Bool.or_eq_true_iff.mp isMark with isKind | isKind <;> rw [beq_iff_eq.mp isKind] <;> rfl
  · have length := congrArg List.length ((lasts_list fun _ _ => rfl).mp sameMarks)
    rw [List.length_map, List.length_map] at length
    rw [bare_markedOptional, bare_markedOptional, length, DeclaredType.bare_relocate,
      DeclaredType.bare_relocate, lasts_type.mp same]

end Parser

end ResultBuilder.Syntax
