import ResultBuilder.Proofs.Syntax.Returns.Declarations

/-!
# Statements that are tracked

Behind a statement that ends with its signature more has to be known than behind others. A return
that is kept ends where its value does, and also without a value it goes on when the next token is
on its line.

* **`Parser.tracks_pattern`**: patterns, which hold no returns.
* **`Parser.tracks_statement`**: statements.
-/

namespace ResultBuilder.Syntax

variable {sites : List ReturnSite}

namespace Parser

variable {stops : TokenKind → Bool} {c c' d : Cursor}

/-! ### Patterns -/

/-- The tokens of a pattern that are kept are a pattern for the other as well. -/
theorem follows_patternTokens (follows : c.Follows sites false d)
    (kept : ∀ token ∈ patternTokens stops 0 c.rest, token.isReturnOf sites = false)
    (nextKept : (c.skip (patternTokens stops 0 c.rest).length).next.isReturnOf sites = false) :
    patternTokens stops 0 d.rest = d.rest.take (patternTokens stops 0 c.rest).length := by
  obtain ⟨more, rest⟩ := (@patternTokens_isFront stops 0 c.rest).1
  have less := @length_patternTokens stops 0 c follows.sound
  -- the tokens of a pattern depend on those behind them by the kind of the next one only
  have again := @patternTokens_map_bare stops 0 c.rest
  have front := (@patternTokens_isFront stops 0 d.rest).1
  have again' := @patternTokens_map_bare stops 0 d.rest
  generalize patternTokens stops 0 c.rest = tokens at *
  have isTake : c.rest.take tokens.length = tokens := by rw [← rest, List.take_left]
  obtain ⟨follows', less', same, -⟩ := follows.skip less (by rwa [isTake])
  rw [isTake] at same
  have kind := follows'.kind_next nextKept
  have cut := List.take_append_drop tokens.length d.rest
  have rest' := (d.skip_rest tokens.length).symm
  have isMore : (c.skip tokens.length).rest = more := by
    rw [Cursor.skip_rest, ← rest, List.drop_left]
  rw [Cursor.next, Cursor.next, isMore] at kind
  cases more with
  | nil => exact absurd less (by rw [← rest, List.append_nil]; exact Nat.lt_irrefl _)
  | cons token more =>
      cases others : (d.skip tokens.length).rest with
      | nil =>
          rw [others] at rest'
          exact absurd less' (Nat.not_lt.mpr (List.drop_eq_nil_iff.mp rest'))
      | cons other others' =>
          rw [others] at kind rest'
          have sameKind : other.kind = token.kind := kind
          rw [← rest, List.map_append, List.map_cons] at again
          have found := @patternTokens_append stops 0 _ _ (others'.map Token.bare) token.bare
            other.bare
            (fun depth => by rw [Token.kind_bare, Token.kind_bare, sameKind]; exact id) again
          rw [← same, ← List.map_cons, ← List.map_append, ← rest', cut, again'] at found
          have length := congrArg List.length found
          rw [List.length_map, List.length_map, List.length_take,
            Nat.min_eq_left (Nat.le_of_lt less')] at length
          rw [List.prefix_iff_eq_take.mp front, length]

theorem lasts_pattern {pattern other : Pattern} :
    Lasts sites pattern other ↔ other.bare = pattern.bare :=
  .rfl

/-- **Patterns** hold no returns, and none is right behind them. -/
theorem tracks_pattern : TracksAt sites (.behind .firm) (fun _ => .behind .firm) 0 c d
    (pattern stops) (pattern stops) := by
  intro value c' yields
  obtain ⟨first, last, isFirst, isLast, rfl, rfl⟩ := yields_pattern.mp yields
  have run := List.prefix_iff_eq_take.mp (@patternTokens_isFront stops 0 c.rest).1
  have free (pattern : Pattern) : worth sites pattern = 0 := Node.tallies_nil sites
  rw [free, Nat.zero_add, Nat.zero_add]
  refine ⟨ReturnSite.left_drop_le _, fun same counted => ?_⟩
  -- nothing is left in the tree of the tokens of a pattern, so that none of them is paid for
  have kept := ReturnSite.isReturnOf_of_left_drop counted same
  rw [← run] at kept
  have keptFirst : c.next.isReturnOf sites = false := by
    obtain ⟨more, rest⟩ := (@patternTokens_isFront stops 0 c.rest).1
    rw [Cursor.next, ← rest, List.headD_eq_head?_getD, List.head?_append, isFirst]
    exact kept _ (List.mem_of_mem_head? isFirst)
  refine ⟨ReturnSite.AllCount.drop counted same, fun settled => ⟨keptFirst, fun follows => ?_⟩⟩
  have sameTokens := follows_patternTokens follows kept settled
  obtain ⟨follows', less, sameBare, slices⟩ :=
    follows.skip (length_patternTokens follows.sound) (by rwa [← run])
  rw [← run, ← sameTokens] at sameBare
  have length := congrArg List.length sameBare
  rw [List.length_map, List.length_map] at length
  obtain ⟨first', isFirst'⟩ : ∃ first', (patternTokens stops 0 d.rest).head? = some first' := by
    have heads := congrArg List.head? sameBare
    rw [List.head?_map, List.head?_map, isFirst] at heads
    exact (Option.map_eq_some_iff.mp heads).imp fun _ => And.left
  obtain ⟨last', isLast'⟩ : ∃ last', (patternTokens stops 0 d.rest).getLast? = some last' := by
    have lasts := congrArg List.getLast? sameBare
    rw [List.getLast?_map, List.getLast?_map, isLast] at lasts
    exact (Option.map_eq_some_iff.mp lasts).imp fun _ => And.left
  refine ⟨_, _, yields_pattern.mpr ⟨first', last', isFirst', isLast', rfl, rfl⟩, ?_,
    by rwa [length]⟩
  obtain ⟨-, start, stop⟩ := span_patternTokens follows.sound isFirst isLast
  obtain ⟨-, start', stop'⟩ := span_patternTokens follows.sound' isFirst' isLast'
  have text := slices (List.length_pos_of_mem (List.mem_of_mem_head? isFirst))
  rw [start, stop, ← length, start', stop'] at text
  refine lasts_pattern.mpr ?_
  rw [Pattern.bare, Pattern.bare, text, ← namedCase_map_bare, ← isWildcard_map_bare,
    ← isRefutable_map_bare, sameBare, namedCase_map_bare, isWildcard_map_bare,
    isRefutable_map_bare]

end Parser

/-! ### What is in statements -/

theorem worth_condition (node : Condition) :
    worth sites node = Node.tallies sites (Node.ofCondition node) := by
  show Node.tallies sites [_] = _
  rw [Node.tallies_cons, Node.tally_condition]
  rfl

theorem worth_conditional {span : Span} {conditions : List Condition} {thenBlock : Block}
    {otherwise : Option Alternative} :
    worth sites (Conditional.mk span conditions thenBlock otherwise) =
      worth sites conditions + worth sites thenBlock + worth sites otherwise := by
  show Node.tallies sites [_] = _
  rw [Node.tallies_cons, Node.tally_statement, Node.ofStatement, Node.tallies_append,
    Node.tallies_cons, tallies_map fun _ => rfl]
  cases otherwise <;> simp [worth, ParserValue.nodes, Nat.add_assoc]

theorem worth_switchCase {span place : Span} {label : CaseLabel} {body : List Statement} :
    worth sites (SwitchCase.mk span label ⟨place, body⟩) = worth sites body := by
  show Node.tallies sites [_] = _
  rw [Node.tallies_cons, Node.tally_switchCase]
  exact worth_block

theorem worth_switch {span : Span} {subject : Expr} {cases : List SwitchCase} :
    worth sites (Switch.mk span subject cases) = worth sites subject + worth sites cases := by
  show Node.tallies sites [_] = _
  rw [Node.tallies_cons, Node.tally_statement, Node.ofStatement, Node.tallies_cons,
    tallies_map fun _ => rfl]
  rfl

theorem worth_loop {span : Span} {form : LoopForm} {header : Expr} {body : Block} :
    worth sites (Loop.mk span form header body) = worth sites header + worth sites body := by
  show Node.tallies sites [_] = _
  rw [Node.tallies_cons, Node.tally_statement, Node.ofStatement]
  cases form <;> simp [Node.ofLoop, worth, ParserValue.nodes, Nat.add_comm]

namespace Parser

variable {inner : Inner} {c c' d : Cursor} {g : Ground} (tracks : inner.Tracks sites)
include tracks

/-! ### Conditions -/

theorem tracks_condition : Tracks sites (fun _ => .loose) (condition inner) := by
  intro c d
  refine .here (.peek (by decide) fun token same => ?_)
  rw [kind_eq_of_bare same]
  split
  case h_1 isKind | h_2 isKind =>
    refine .bind (tracks_take (g := .firm) (isKind ▸ rfl)) fun _ _ _ _ _ =>
      .bind (tracks_pattern.prior (.refl _)) fun pattern pattern' _ _ samePattern =>
        .bind (tracks_expectSymbol (g := .loose) .assign rfl) fun _ _ _ _ _ =>
          .bind ((tracks_expression tracks .header _ _).prior (Footing.covers_start _))
            fun value value' _ _ same => .spanned (fun span => ?_) (fun _ _ => ?_) fun _ => .refl _
    · rw [worth_condition, Node.ofCondition, Node.tallies_cons, Node.tally_pattern, Nat.zero_add]
      exact Nat.le_add_left _ _
    · exact congrArg₂ (Condition.binding (.point 0) _) samePattern same
  case h_3 =>
    refine .bind ((tracks_expression tracks .header _ _).prior (.refl _))
      fun value value' _ _ same => .pure ?_ (congrArg Condition.expression same) (.refl _)
    rw [worth_condition]
    exact Nat.le_add_left _ _

omit tracks in
theorem lasts_conditional {span span' : Span} {conditions conditions' : List Condition}
    {thenBlock thenBlock' : Block} {otherwise otherwise' : Option Alternative}
    (sameConditions : Lasts sites conditions conditions')
    (sameThen : Lasts sites thenBlock thenBlock') (same : Lasts sites otherwise otherwise') :
    Lasts sites (Conditional.mk span conditions thenBlock otherwise)
      ⟨span', conditions', thenBlock', otherwise'⟩ := by
  have sameConditions : conditions'.map (·.rebuild .plain) =
      (conditions.map (·.without (sites.map ReturnSite.keyword))).map (·.rebuild .plain) :=
    sameConditions
  have sameThen : thenBlock'.rebuild .plain =
      (thenBlock.without (sites.map ReturnSite.keyword)).rebuild .plain := sameThen
  have same : otherwise'.map (·.rebuild .plain) =
      (otherwise.map (·.without (sites.map ReturnSite.keyword))).map (·.rebuild .plain) := same
  show Conditional.rebuild .plain _ = Conditional.rebuild .plain (Conditional.without _ _)
  rw [Conditional.without, Conditional.rebuild, Conditional.rebuild, Condition.rebuilds_eq_map,
    Condition.rebuilds_eq_map, Condition.withoutAll_eq_map, Alternative.rebuildOption_eq_map,
    Alternative.rebuildOption_eq_map, Alternative.withoutOption_eq_map, sameConditions, sameThen,
    same]

/-- An `if` statement, behind which no `else` is behind a return that is shed. -/
theorem tracks_conditional : Tracks sites (fun _ => .loose) (Parser.conditional inner) := by
  intro c d
  have conditions (c d : Cursor) : TracksAt sites (.behind .loose) (fun _ => .behind .loose) 0 c d
      (separated (condition inner) inner.bound) (separated (condition inner) inner.bound) :=
    tracks_separated (by decide) (by decide)
      (fun c d => (tracks_condition tracks c d).prior (Footing.covers_start _)) _
  refine .bind (tracks_expectKeyword (g := .loose) .if_ rfl) fun _ _ _ _ _ =>
    .bind ((conditions _ _).prior (.refl _)) fun conditions conditions' _ _ sameConditions =>
      .bind ((tracks_block (g := .loose) tracks).prior (Footing.covers_start _))
        fun thenBlock thenBlock' _ _ sameThen => ?_
  -- the statement is made alike whatever is done otherwise
  have made {otherwise otherwise' : Option Alternative} (same : Lasts sites otherwise otherwise')
      {credit start start' : Nat} (c d : Cursor)
      (paid : worth sites conditions + worth sites thenBlock + worth sites otherwise ≤ credit) :
      TracksAt sites (.behind .loose) (fun _ => .behind .loose) credit c d
        (do return (⟨← spanFrom start, conditions, thenBlock, otherwise⟩ : Conditional))
        (do return (⟨← spanFrom start', conditions', thenBlock', otherwise'⟩ : Conditional)) :=
    .spanned (fun _ => by rwa [worth_conditional])
      (fun _ _ => lasts_conditional sameConditions sameThen same) fun _ => .refl _
  have given {α : Type} [ParserValue α] {parser : Parser α} {make : α → Alternative}
      {c d : Cursor}
      (tracks : TracksAt sites (.start .signed) (fun _ => .behind .loose) 0 c d parser parser)
      (paid : ∀ value, worth sites (make value) = worth sites value)
      (lasts : ∀ value other, Lasts sites value other → Lasts sites (make value) (make other)) :
      TracksAt sites (.behind .signed) (fun _ : Option Alternative => .behind .loose) 0 c d
        (some <$> (make <$> parser)) (some <$> (make <$> parser)) := by
    have made : TracksAt sites (.behind .signed) (fun _ => .behind .loose) 0 c d
        (make <$> parser) (make <$> parser) :=
      (tracks.prior (by decide)).map (fun value => by rw [paid, Nat.zero_add]) lasts
        fun _ => .refl _
    exact made.map (fun value => by rw [worth_some, Nat.zero_add]) (fun _ _ => .some)
      fun _ => .refl _
  -- behind a return that is shed nothing goes on with what is before it, and so no else
  refine .eat (g := .signed) (.inr ⟨by decide, rfl⟩) rfl (fun _ => .isAt asks_signed nofun
    (.ite (fun _ _ => .rfl) (fun _ => ?_) fun _ => ?_)) fun _ => ?_
  · exact .bind (given (tracks.conditional _ _) (fun _ => rfl)
      fun _ _ => congrArg Alternative.chained)
      fun otherwise otherwise' c d same => made same c d (by omega)
  · exact .bind (given (tracks_block (g := .loose) tracks) (fun _ => rfl)
      fun _ _ => congrArg Alternative.block)
      fun otherwise otherwise' c d same => made same c d (by omega)
  · exact .bind (t := fun _ => .behind .loose) (.pure (Nat.le_refl 0) .none (.refl _))
      fun otherwise otherwise' c d same => made same c d (by omega)

/-! ### Switches -/

omit tracks in
theorem lasts_patterns {listed others : List Pattern} (same : Lasts sites listed others) :
    Lasts sites (CaseLabel.patterns listed) (.patterns others) :=
  congrArg CaseLabel.patterns ((lasts_list fun _ _ => rfl).mp same)

omit tracks in
/-- What stands before the colon of a case starts with a token at which statements end. -/
theorem tracks_caseLabel {fresh : Bool} :
    TracksAt sites ⟨fresh, false, .closed⟩ (fun _ => .behind .firm) 0 c d
      (caseLabel inner) (caseLabel inner) := by
  refine .peek (by decide : 2 ≤ Ground.closed.rank) fun token same => ?_
  rw [kind_eq_of_bare same]
  have known {p q : Parser CaseLabel} (closes : closesStatement c.next.kind = true)
      (tracks : TracksAt sites ⟨fresh, false, .anywhere⟩ (fun _ => .behind .firm) 0 c d p q) :
      TracksAt sites ⟨fresh, false, .closed⟩ (fun _ => .behind .firm) 0 c d p q :=
    .known tracks (show c.Settled sites .closed from closes)
  split
  case h_1 isKind =>
    have patterns (c d : Cursor) : TracksAt sites (.behind .firm) (fun _ => .behind .firm) 0 c d
        (separated (pattern endsCasePattern) inner.bound)
        (separated (pattern endsCasePattern) inner.bound) :=
      tracks_separated (by decide) (by decide) (fun _ _ => tracks_pattern) _
    exact known (isKind ▸ rfl) (.bind (tracks_take (g := .firm) (isKind ▸ rfl)) fun _ _ _ _ _ =>
      .bind ((patterns _ _).prior (.refl _)) fun listed others _ _ same =>
        .pure (Nat.zero_le _) (lasts_patterns same) (.refl _))
  case h_2 isKind =>
    exact known (isKind ▸ rfl) (.bind (tracks_take (g := .firm) (isKind ▸ rfl)) fun _ _ _ _ _ =>
      .pure (Nat.zero_le _) rfl (.refl _))
  case h_3 => exact .fails fun _ _ => not_yields_unexpected

omit tracks in
theorem lasts_switchCase {span span' place place' : Span} {label label' : CaseLabel}
    {body body' : List Statement} (sameLabel : label'.bare = label.bare)
    (same : Lasts sites body body') :
    Lasts sites (SwitchCase.mk span label ⟨place, body⟩) ⟨span', label', ⟨place', body'⟩⟩ := by
  have same : (Block.mk place' body').rebuild .plain =
      ((Block.mk place body).without (sites.map ReturnSite.keyword)).rebuild .plain :=
    lasts_block same
  show SwitchCase.rebuild .plain _ = SwitchCase.rebuild .plain (SwitchCase.without _ _)
  rw [SwitchCase.without, SwitchCase.rebuild, SwitchCase.rebuild, same, sameLabel]

omit tracks in
/-- Whether the statements of a case stop at a token. -/
def stopsCase (kind : TokenKind) : Bool :=
  kind == .endOfFile || endsCase kind

omit tracks in
theorem stopsCase_of_settled (c : Cursor) (settled : c.Settled sites .closed) :
    stopsCase c.next.kind = true := by
  have closes : closesStatement c.next.kind = true := settled
  unfold closesStatement at closes
  split at closes
  case h_5 => cases closes
  all_goals
    next isKind =>
      rw [isKind]
      rfl

omit tracks in
theorem closes_of_stopsCase (kind : TokenKind) (stops : stopsCase kind = true) :
    closesStatement kind = true := by
  rcases Bool.or_eq_true_iff.mp stops with isEnd | ends
  · rw [beq_iff_eq.mp isEnd]
    rfl
  · unfold endsCase at ends
    split at ends
    case h_4 => cases ends
    all_goals rfl

/-- A case ends where the next one starts, or at the brace behind them all. -/
theorem tracks_switchCase : TracksAt sites (.start .closed) (fun _ => .start .closed) 0 c d
    (switchCase inner) (switchCase inner) := by
  refine .here (.bind tracks_caseLabel fun label label' _ _ sameLabel =>
    .bind (tracks_expect (o := true) (g := .anywhere) rfl fun _ => rfl) fun _ _ _ _ _ =>
      .bind ((tracks_statements tracks stopsCase_of_settled closes_of_stopsCase rfl rfl).prior
        (.refl _)) fun body body' _ _ same =>
          .spanned (fun _ => ?_) (fun _ _ => lasts_switchCase sameLabel same) fun _ => .refl _)
  rw [worth_switchCase]
  exact Nat.le_add_left _ _

theorem tracks_switch : Tracks sites (fun _ => .loose) (Parser.switch inner) := by
  intro c d
  have cases (c d : Cursor) : TracksAt sites (.start .closed) (fun _ => .start .closed) 0 c d
      (repeatedUntil .braceClose (switchCase inner) inner.bound)
      (repeatedUntil .braceClose (switchCase inner) inner.bound) :=
    tracks_repeatedUntil (by decide) .braceClose (fun _ _ => tracks_switchCase tracks) _
  refine .bind (tracks_expectKeyword (g := .loose) .switch_ rfl) fun _ _ _ _ _ =>
    .bind ((tracks_expression tracks .header _ _).prior (Footing.covers_start _))
      fun subject subject' _ _ sameSubject =>
        .bind (tracks_expectSymbol (g := .closed) .braceOpen rfl) fun _ _ _ _ _ =>
          .bind ((cases _ _).prior (by decide)) fun cases cases' _ _ same =>
            .bind (tracks_braceClose (g := .loose) fun c isNext => ?_) fun _ _ _ _ _ =>
              .spanned (fun _ => ?_) (fun _ _ => ?_) fun _ => .refl _
  · show closesStatement c.next.kind = true
    rw [isNext]
    rfl
  · rw [worth_switch]
    omega
  · have sameSubject := lasts_expr.mp sameSubject
    have same : cases'.map (·.rebuild .plain) =
        (cases.map (·.without (sites.map ReturnSite.keyword))).map (·.rebuild .plain) := same
    show Switch.rebuild .plain _ = Switch.rebuild .plain (Switch.without _ _)
    rw [Switch.without, Switch.rebuild, Switch.rebuild, SwitchCase.rebuilds_eq_map,
      SwitchCase.rebuilds_eq_map, SwitchCase.withoutAll_eq_map, sameSubject, same]

/-! ### Loops -/

omit tracks in
theorem lasts_loop {span span' : Span} {form form' : LoopForm} {header header' : Expr}
    {body body' : Block} (sameForm : form'.bare = form.bare)
    (sameHeader : Lasts sites header header')
    (same : Lasts sites body body') :
    Lasts sites (Loop.mk span form header body) ⟨span', form', header', body'⟩ := by
  have sameHeader := lasts_expr.mp sameHeader
  have same : body'.rebuild .plain = (body.without (sites.map ReturnSite.keyword)).rebuild .plain :=
    same
  show Loop.rebuild .plain _ = Loop.rebuild .plain (Loop.without _ _)
  rw [Loop.without, Loop.rebuild, Loop.rebuild, sameForm, sameHeader, same]

/-- A loop with its condition or sequence in front of its body. -/
theorem tracks_headedLoop {start start' : Nat} {form form' : LoopForm}
    (sameForm : form'.bare = form.bare) :
    TracksAt sites (.start .signed) (fun _ => .behind .loose) 0 c d
      (do
        let header ← Parser.expression inner .header
        let body ← block inner
        return (⟨← spanFrom start, form, header, body⟩ : Loop))
      (do
        let header ← Parser.expression inner .header
        let body ← block inner
        return (⟨← spanFrom start', form', header, body⟩ : Loop)) := by
  refine .bind (tracks_expression tracks .header _ _) fun header header' _ _ sameHeader =>
    .bind ((tracks_block (g := .loose) tracks).prior (Footing.covers_start _))
      fun body body' _ _ same => .spanned (fun _ => ?_)
        (fun _ _ => lasts_loop sameForm sameHeader same) fun _ => .refl _
  rw [worth_loop]
  omega

theorem tracks_loop (firm : c.next.kind.isFirm = true) :
    TracksAt sites (.start .signed) (fun _ => .behind .loose) 0 c d
      (Parser.loop inner) (Parser.loop inner) := by
  refine .bind (tracks_take (g := .firm) firm) fun token token' _ _ same => ?_
  have sameKind : token'.kind = token.kind := kind_eq_of_bare same
  rw [sameKind]
  split
  case h_1 =>
    refine .bind (tracks_pattern.prior (.refl _)) fun element element' _ _ sameElement =>
      .bind (tracks_expectKeyword (g := .loose) .in_ rfl) fun _ _ _ _ _ => ?_
    have sameForm : (LoopForm.forIn element').bare = (LoopForm.forIn element).bare :=
      congrArg LoopForm.forIn sameElement
    exact (tracks_headedLoop tracks sameForm).prior (by decide)
  case h_2 =>
    exact (tracks_headedLoop tracks rfl).prior (Footing.covers_start .firm)
  case h_3 =>
    refine .bind ((tracks_block (g := .loose) tracks).prior (Footing.covers_start _))
      fun body body' _ _ sameBody =>
        .bind (tracks_expectKeyword (g := .loose) .while_ rfl) fun _ _ _ _ _ =>
          .bind ((tracks_expression tracks .header _ _).prior (Footing.covers_start _))
            fun header header' _ _ sameHeader => .spanned (fun _ => ?_)
              (fun _ _ => lasts_loop rfl sameHeader sameBody) fun _ => .refl _
    rw [worth_loop]
    omega

/-! ### Statements -/

omit tracks in
/-- Where a return ends without a value is the same for both. -/
theorem endsReturn_eq (settled : c.Settled sites .loose) (follows : c.Follows sites false d) :
    endsReturn d.next = endsReturn c.next := by
  rw [endsReturn, endsReturn, follows.newlineBefore_eq settled]
  cases isReturn : c.next.isReturnOf sites with
  | false => rw [follows.kind_next isReturn]
  | true => rw [(settled isReturn).1, Bool.true_or, Bool.true_or]

omit tracks in
theorem lasts_returning {span span' keyword keyword' : Span} {value value' : Option Expr}
    (kept : keyword ∉ sites.map ReturnSite.keyword) (same : Lasts sites value value') :
    Lasts sites (Statement.returning span keyword value) (.returning span' keyword' value') := by
  have same : value'.map (·.rebuild .plain) =
      (value.map (·.without (sites.map ReturnSite.keyword))).map (·.rebuild .plain) := same
  show Statement.rebuild .plain _ = Statement.rebuild .plain ((Statement.without _ _).headD _)
  rw [Statement.without, if_neg kept, List.headD_cons, Statement.rebuild, Statement.rebuild,
    Expr.rebuildOption_eq_map, Expr.rebuildOption_eq_map, Expr.withoutOption_eq_map, same]

omit tracks in
theorem worth_returning {span keyword : Span} {value : Option Expr}
    (kept : keyword ∉ sites.map ReturnSite.keyword) :
    worth sites (Statement.returning span keyword value) = worth sites value := by
  have notSite : (Statement.returning span keyword value).isSiteOf sites = false :=
    decide_eq_false fun listed => kept (List.mem_map_of_mem listed)
  rw [worth_statement, notSite, if_neg Bool.false_ne_true, Nat.zero_add]
  cases value <;> simp [Node.ofStatement, worth, ParserValue.nodes]

omit tracks in
/-- What follows the keyword of a return. -/
def returnValue (inner : Inner) (keyword : Span) : Parser Statement := do
  let token ← peek
  let value ← if endsReturn token then pure none else some <$> Parser.expression inner .statement
  return .returning (← spanFrom keyword.start) keyword value

omit tracks in
theorem yields_returning_iff {statement : Statement} :
    (returning inner).Yields c statement c' ↔ c.next.kind = .keyword .return_ ∧
      (returnValue inner c.next.span).Yields c.advance statement c' := by
  show (do
    let keyword := (← expectKeyword .return_).span
    returnValue inner keyword : Parser Statement).Yields c statement c' ↔ _
  simp [and_assoc]

/-- A value behind a return that is kept, or none where the next line starts with a return that is
shed. -/
theorem tracks_returnValue {keyword keyword' : Span}
    (kept : keyword ∉ sites.map ReturnSite.keyword) :
    TracksAt sites (.behind .loose) (fun statement => .behind statement.ground) 0 c d
      (returnValue inner keyword) (returnValue inner keyword') := by
  have made {value value' : Option Expr} (same : Lasts sites value value') (c d : Cursor) :
      TracksAt sites (.behind .loose) (fun statement : Statement => .behind statement.ground)
        (0 + worth sites value) c d (do return .returning (← spanFrom keyword.start) keyword value)
        (do return .returning (← spanFrom keyword'.start) keyword' value') :=
    .spanned (fun _ => by rw [worth_returning kept, Nat.zero_add])
      (fun _ _ => lasts_returning kept same) fun _ => .refl _
  have value : TracksAt sites (.behind .loose) (fun _ => .behind .loose) 0 c d
      (Parser.expression inner .statement) (Parser.expression inner .statement) :=
    (tracks_expression tracks .statement _ _).prior (Footing.covers_start _)
  refine .looks (fun _ => rfl) (fun _ => rfl)
    (.ite (fun settled follows => ?_) (fun _ => ?_) fun _ => ?_)
  · rw [endsReturn_eq settled follows]
  · exact .bind (t := fun _ => .behind .loose) (.pure (Nat.le_refl 0) .none (.refl _))
      fun _ _ c d same => made same c d
  · exact .bind (t := fun _ => .behind .loose) (value.map (fun value => by rw [worth_some,
      Nat.zero_add]) (fun _ _ => .some) fun _ => .refl _) fun _ _ c d same => made same c d

/-- A return that is kept. -/
theorem tracks_returning (kept : c.next.isReturnOf sites = false)
    (settled : c.Settled sites .signed) (isReturn : c.next.kind = .keyword .return_) :
    TracksAt sites ⟨true, true, .signed⟩ (fun statement => .behind statement.ground) 0 c d
      (returning inner) (returning inner) := by
  have notListed : c.next.span ∉ sites.map ReturnSite.keyword :=
    (isReturnOf_eq_false_iff isReturn).mp kept
  have rest : TracksAt sites (.behind .loose) (fun statement => .behind statement.ground) 0
      c.advance d.advance (returnValue inner c.next.span) (returnValue inner d.next.span) :=
    tracks_returnValue tracks notListed
  refine .afterTake (o := false) (isReturn ▸ nofun) kept settled nofun rest
    (fun _ _ yields => (yields_returning_iff.mp yields).2) fun same statement d' yields => ?_
  exact yields_returning_iff.mpr ⟨(kind_eq_of_bare same).trans isReturn, yields⟩

omit tracks in
theorem tracks_directive (firm : c.next.kind.isFirm = true) :
    TracksAt sites (.start .signed) (fun _ => .behind .loose) 0 c d directive directive := by
  refine .bind (tracks_take (g := .loose) firm) fun token token' _ _ same => ?_
  have sameText : token'.text = token.text := text_eq_of_bare same
  rw [sameText]
  have rest (kind : DirectiveKind) (c d : Cursor) :
      TracksAt sites (.behind .loose) (fun _ => .behind .loose) 0 c d
        (do
          let _ ← expectSymbol .parenOpen
          let message ← expect .string
          let _ ← expectSymbol .parenClose
          return (⟨← spanFrom token.span.start, kind, message.text, message.span⟩ : Directive))
        (do
          let _ ← expectSymbol .parenOpen
          let message ← expect .string
          let _ ← expectSymbol .parenClose
          return (⟨← spanFrom token'.span.start, kind, message.text, message.span⟩ :
            Directive)) := by
    refine .bind (tracks_expectSymbol (g := .loose) .parenOpen rfl) fun _ _ _ _ _ =>
      .bind (tracks_expect (o := false) (g := .loose) rfl nofun) fun message _ _ _ sameMessage =>
        .bind (tracks_expectSymbol (g := .loose) .parenClose rfl) fun _ _ _ _ _ =>
          .spanned (fun _ => Nat.zero_le _) (fun _ _ => ?_) fun _ => .refl _
    exact congrArg (Directive.mk (.point 0) kind · (.point 0)) (text_eq_of_bare sameMessage)
  split
  · rw [pure_bind, pure_bind]
    exact rest _ _ _
  · rw [pure_bind, pure_bind]
    exact rest _ _ _
  · refine .fails fun value c' yields => ?_
    obtain ⟨kind, middle, unknown, -⟩ := yields_bind.mp yields
    exact not_yields_throw unknown

omit tracks in
/-- Statements that are a single keyword. -/
theorem tracks_keywordStatement {start start' : Nat} {made : Span → Statement}
    (free : ∀ span, worth sites (made span) = 0)
    (same : ∀ span span', Lasts sites (made span) (made span'))
    (loose : ∀ span, (made span).ground = .loose) (firm : c.next.kind.isFirm = true) :
    TracksAt sites ⟨true, true, .signed⟩ (fun statement => .behind statement.ground) 0 c d
      (do let _ ← take; return made (← spanFrom start))
      (do let _ ← take; return made (← spanFrom start')) :=
  .bind (tracks_take (g := .loose) firm) fun _ _ _ _ _ =>
    .spanned (fun span => (free span).le) same fun span => by
      rw [loose]
      exact .refl _

omit tracks in
/-- Statements that consist of something else. -/
theorem tracks_wrapped {α : Type} [ParserValue α] {parser : Parser α} {last : α → Ground}
    {make : α → Statement} (tracks : TracksAt sites (.start .signed)
      (fun value => .behind (last value)) 0 c d parser parser)
    (paid : ∀ value, worth sites (make value) = worth sites value)
    (lasts : ∀ value other, Lasts sites value other → Lasts sites (make value) (make other))
    (ground : ∀ value, (make value).ground = last value) :
    TracksAt sites ⟨true, true, .signed⟩ (fun statement => .behind statement.ground) 0 c d
      (do return make (← parser)) (do return make (← parser)) :=
  .bind (tracks.prior (by decide)) fun value value' _ _ same =>
    .pure (by rw [paid]; exact Nat.le_add_left _ _) (lasts _ _ same) (by rw [ground]; exact .refl _)

omit tracks in
/-- Statements that are no returns are worth what is in them. -/
theorem worth_parts {statement : Statement} (other : statement.isSiteOf sites = false) :
    worth sites statement = Node.tallies sites (Node.ofStatement statement) := by
  rw [worth_statement, other, if_neg Bool.false_ne_true, Nat.zero_add]

omit tracks in
theorem worth_node {statement : Statement} (other : statement.isSiteOf sites = false) :
    worth sites statement = Node.tallies sites [.statement statement] := by
  rw [worth_parts other, Node.tallies_cons, Node.tally_statement]
  rfl

/-- **Statements** but returns that are shed. -/
theorem tracks_statement (kept : c.next.isReturnOf sites = false) :
    TracksAt sites ⟨true, true, .signed⟩ (fun statement => .behind statement.ground) 0 c d
      (Parser.statement inner) (Parser.statement inner) := by
  refine .here (.peek (by decide) fun token same => ?_)
  rw [kind_eq_of_bare same]
  split
  case h_9 =>
    exact tracks_wrapped (tracks_conditional tracks _ _) (fun _ => worth_node rfl)
      (fun _ _ => congrArg Statement.conditional) fun _ => rfl
  case h_10 =>
    exact tracks_wrapped (tracks_switch tracks _ _) (fun _ => worth_node rfl)
      (fun _ _ => congrArg Statement.switch) fun _ => rfl
  case h_11 isKind =>
    refine .bind (tracks_take (g := .loose) (isKind ▸ rfl)) fun _ _ _ _ _ =>
      .bind ((tracks_block (g := .loose) tracks).prior (Footing.covers_start _))
        fun body body' _ _ same => .spanned (fun _ => ?_)
          (fun _ _ => congrArg (Statement.doBlock (.point 0)) same) fun _ => .refl _
    rw [worth_parts rfl]
    exact Nat.le_add_left _ _
  case h_12 isKind | h_13 isKind | h_14 isKind =>
    exact tracks_wrapped (tracks_loop tracks (isKind ▸ rfl)) (fun _ => worth_node rfl)
      (fun _ _ => congrArg Statement.loop) fun _ => rfl
  case h_15 isKind =>
    refine tracks_returning tracks kept ⟨kept, fun isDot => ?_⟩ isKind
    rw [isDot] at isKind
    cases isKind
  case h_16 isKind | h_17 isKind | h_18 isKind =>
    exact tracks_keywordStatement (fun _ => worth_parts rfl) (fun _ _ => rfl) (fun _ => rfl)
      (isKind ▸ rfl)
  case h_19 isKind =>
    exact tracks_wrapped (tracks_directive (isKind ▸ rfl))
      (fun _ => (worth_parts rfl).trans (Node.tally_mark sites _))
      (fun _ _ => congrArg Statement.directive) fun _ => rfl
  case h_20 =>
    exact tracks_wrapped (tracks_expression tracks .statement _ _) (fun _ => worth_parts rfl)
      (fun _ _ => congrArg Statement.expression) fun _ => rfl
  all_goals
    exact tracks_wrapped (tracks_declaration tracks _ _) (fun _ => worth_parts rfl)
      (fun _ _ => congrArg Statement.declaration) fun _ => rfl

omit tracks in
/-- A statement that is a return starts with its keyword. -/
theorem keyword_of_returning {span keyword : Span} {value : Option Expr}
    (yields : (Parser.statement inner).Yields c (.returning span keyword value) c') :
    c.next.kind = .keyword .return_ ∧ keyword = c.next.span := by
  have yields := yields_statement.mp yields
  dsimp only at yields
  split at yields
  case h_15 isKind =>
    obtain ⟨-, value⟩ := yields_returning.mp yields
    split at value
    · obtain ⟨-, same⟩ := value
      exact ⟨isKind, (Statement.returning.inj same).2.1⟩
    · obtain ⟨node, last, -, -, same⟩ := value
      exact ⟨isKind, (Statement.returning.inj same).2.1⟩
  all_goals simp only [reduceCtorEq, and_false, exists_false] at yields

omit tracks in
/-- What is read at a return. -/
theorem readsReturn_of_statement {statement : Statement}
    (isReturn : c.next.kind = .keyword .return_)
    (yields : (Parser.statement inner).Yields c statement c') :
    ReadsReturn (Parser.expression inner .statement) statement c c' := by
  have yields := yields_statement.mp yields
  rw [isReturn] at yields
  obtain ⟨-, value⟩ := yields_returning.mp yields
  unfold ReadsReturn
  split
  · next ends => rwa [if_pos ends] at value
  · next goesOn =>
      rw [if_neg goesOn] at value
      obtain ⟨node, last, read, rfl, same⟩ := value
      exact ⟨node, read, same⟩

/-! ### Levels -/

/-- **What parsers of a level read** is tracked where that of the level below is. -/
theorem Inner.Tracks.succ (bound : Nat) : Inner.Tracks sites {
    bound
    type := Parser.type inner
    expression := Parser.expression inner
    ternary := Parser.ternary inner
    binary := Parser.binary inner
    unary := Parser.unary inner
    statement := Parser.statement inner
    declaration := Parser.declaration inner
    conditional := Parser.conditional inner } where
  type := tracks_type tracks
  typeOpens _ _ _ := opens_type
  typeHalts _ _ _ := halts_type tracks.typeOpens
  expression := tracks_expression tracks
  expressionHalts _ _ _ _ yields isName halts := halts_expression isName halts yields
  ternary := tracks_ternary tracks
  binary := tracks_binary tracks
  unary := tracks_unary tracks
  declaration := tracks_declaration tracks
  conditional := tracks_conditional tracks
  statementStarts _ _ _ yields :=
    ⟨goesOn_statement yields, fun _ _ _ same => keyword_of_returning (same ▸ yields)⟩
  statement _ _ kept := tracks_statement tracks kept
  returns := ⟨_, tracks_expression tracks .statement, fun _ _ _ => opens_expression,
    fun _ _ _ yields isName halts => halts_expression isName halts yields,
    fun _ _ _ => readsReturn_of_statement, fun _ _ _ => yields_statement_of_opensExpr⟩

omit tracks in
theorem Inner.Tracks.exhausted : Inner.exhausted.Tracks sites where
  type _ _ := .fails fun _ _ => not_yields_unexpected
  typeOpens _ _ _ yields := (not_yields_unexpected yields).elim
  typeHalts _ _ _ yields := (not_yields_unexpected yields).elim
  expression _ _ _ := .fails fun _ _ => not_yields_unexpected
  expressionHalts _ _ _ _ yields := (not_yields_unexpected yields).elim
  ternary _ _ _ := .fails fun _ _ => not_yields_unexpected
  binary _ _ _ _ := .fails fun _ _ => not_yields_unexpected
  unary _ _ _ := .fails fun _ _ => not_yields_unexpected
  declaration _ _ := .fails fun _ _ => not_yields_unexpected
  conditional _ _ := .fails fun _ _ => not_yields_unexpected
  statementStarts _ _ _ yields := (not_yields_unexpected yields).elim
  statement _ _ _ := .fails fun _ _ => not_yields_unexpected
  returns := ⟨unexpected "expression", fun _ _ => .fails fun _ _ => not_yields_unexpected,
    fun _ _ _ yields => (not_yields_unexpected yields).elim,
    fun _ _ _ yields => (not_yields_unexpected yields).elim,
    fun _ _ _ _ yields => (not_yields_unexpected yields).elim,
    fun _ _ _ _ => ⟨fun yields => (not_yields_unexpected yields).elim,
      fun ⟨_, yields, _⟩ => (not_yields_unexpected yields).elim⟩⟩

omit tracks in
/-- **At every depth** what is read is tracked. -/
theorem tracks_innerOfDepth (depth : Nat) : (innerOfDepth depth).Tracks sites := by
  induction depth with
  | zero => exact .exhausted
  | succ depth ih =>
      have bounded : Inner.Tracks sites { innerOfDepth depth with bound := depth + 1 } :=
        ⟨ih.type, ih.typeOpens, ih.typeHalts, ih.expression, ih.expressionHalts, ih.ternary,
          ih.binary, ih.unary, ih.declaration, ih.conditional, ih.statementStarts, ih.statement,
          ih.returns⟩
      exact bounded.succ _

end Parser

end ResultBuilder.Syntax
