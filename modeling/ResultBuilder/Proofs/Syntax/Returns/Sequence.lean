import ResultBuilder.Proofs.Syntax.Returns.Types

/-!
# Statements that are tracked

A return that is shed leaves its value as a statement, or nothing. Where the statements before it
end without it they end without it there as well, unless they end with a signature; but then the
return does not count.

* **`worthBehind`**: the returns among statements.
* **`Parser.tracks_sequence`**, **`Parser.tracks_statements`**: statements up to a token at which
  they stop.
-/

namespace ResultBuilder.Syntax

variable {sites : List ReturnSite}

/-! ### Statements that are left -/

/-- A statement that is not removed stays one statement. -/
theorem Statement.without_eq_singleton {keywords : List Span} {statement : Statement}
    (stays : ∀ span keyword value, statement = .returning span keyword value → keyword ∉ keywords) :
    statement.without keywords = [(statement.without keywords).headD statement] := by
  cases statement with
  | returning span keyword value => simp [Statement.without, stays span keyword value rfl]
  | _ => simp [Statement.without]

theorem keyword_of_isReturnOf {token : Token} (isReturn : token.isReturnOf sites = true) :
    token.span ∈ sites.map ReturnSite.keyword := by
  simpa [Token.isReturnOf, Token.kind_of_isReturnOf isReturn] using isReturn

theorem isReturnOf_eq_false_iff {token : Token} (isReturn : token.kind = .keyword .return_) :
    token.isReturnOf sites = false ↔ token.span ∉ sites.map ReturnSite.keyword := by
  simp [Token.isReturnOf, isReturn]

/-- How many of the returns that are listed are in some statements, given whether a declaration that
ends with its signature is before them. -/
def worthBehind (sites : List ReturnSite) (behind : Bool) (statements : List Statement) : Nat :=
  Statement.countReturns sites behind statements + Node.tallies sites (statements.map .statement)

theorem worth_statements (statements : List Statement) :
    worth sites statements = worthBehind sites false statements := by
  show Node.tallies sites [_] = _
  rw [Node.tallies_cons, Node.tally_block]
  rfl

theorem worthBehind_cons (behind : Bool) (statement : Statement) (rest : List Statement) :
    worthBehind sites behind (statement :: rest) =
      (if !behind && statement.isSiteOf sites then 1 else 0) +
        Node.tallies sites (Node.ofStatement statement) +
        worthBehind sites statement.endsWithSignature rest := by
  rw [worthBehind, worthBehind, Statement.countReturns, List.map_cons, Node.tallies_cons,
    Node.tally_statement]
  omega

theorem worth_statement (statement : Statement) :
    worth sites statement = (if statement.isSiteOf sites then 1 else 0) +
      Node.tallies sites (Node.ofStatement statement) := by
  show Node.tallies sites [_] = _
  rw [Node.tallies_cons, Node.tally_block]
  show worthBehind sites false [statement] + 0 = _
  rw [worthBehind_cons]
  rfl

/-! ### Where statements are read -/

namespace Cursor

variable {c c' d : Cursor}

/-- Behind the end of a statement another may start. -/
theorem left_endStatement (ends : Parser.endStatement.Yields c () c') :
    c'.left sites true = c.left sites false := by
  rw [Parser.yields_endStatement] at ends
  split at ends
  · next isSign =>
      rw [ends, @left_advance sites false c (isSign ▸ nofun) (isSign ▸ nofun), isSign]
      rfl
  · obtain ⟨ends, rfl⟩ := ends
    rcases Bool.or_eq_true_iff.mp ends with newline | closes
    · exact left_eq_of_newline newline
    · exact left_eq fun isReturn => by rw [isReturn] at closes; cases closes

theorem Counted.advance_return {opens : Bool} (counted : c.Counted sites opens)
    (isReturn : c.next.kind = .keyword .return_) : c.advance.Counted sites false := by
  have behind := counted.advance (isReturn ▸ nofun)
  rwa [isReturn] at behind

theorem Counted.endStatement (counted : c.Counted sites false)
    (ends : Parser.endStatement.Yields c () c') : c'.Counted sites true := by
  have same := @left_endStatement sites _ _ ends
  rw [Parser.yields_endStatement] at ends
  split at ends
  · next isSign =>
      have behind := counted.advance (isSign ▸ nofun)
      rw [isSign] at behind
      rwa [ends]
  · obtain ⟨-, rfl⟩ := ends
    exact counted.weaken same

/-! ### Semicolons -/

theorem pastSemicolons_advance (isSign : c.next.kind = .symbol .semicolon) :
    c.pastSemicolons = c.advance.pastSemicolons := by
  have ends (token : Token) (isEnd : token.kind = .endOfFile) :
      (token.kind == .symbol .semicolon) = false := by rw [isEnd]; rfl
  rw [pastSemicolons, takeWhile_rest ends, if_pos (beq_iff_eq.mpr isSign), List.length_cons,
    skip_succ (isSign.trans_ne (by decide))]
  rfl

/-- Induction over semicolons. -/
theorem semicolons_induction {P : Cursor → Prop}
    (other : ∀ c, c.next.kind ≠ .symbol .semicolon → P c)
    (step : ∀ c, c.next.kind = .symbol .semicolon → P c.advance → P c) (c : Cursor) : P c := by
  induction size : c.rest.length generalizing c with
  | zero =>
      refine other c fun isSign => ?_
      rw [rest_eq_cons (isSign ▸ nofun)] at size
      cases size
  | succ size ih =>
      by_cases isSign : c.next.kind = .symbol .semicolon
      · rw [rest_eq_cons (isSign ▸ nofun)] at size
        exact step c isSign (ih _ (Nat.succ.inj size))
      · exact other c isSign

theorem kind_pastSemicolons (c : Cursor) : c.pastSemicolons.next.kind ≠ .symbol .semicolon := by
  induction c using semicolons_induction with
  | other c other => rwa [pastSemicolons_eq other]
  | step c isSign ih => rwa [pastSemicolons_advance isSign]

theorem left_pastSemicolons (c : Cursor) :
    c.pastSemicolons.left sites true = c.left sites true := by
  induction c using semicolons_induction with
  | other c other => rw [pastSemicolons_eq other]
  | step c isSign ih =>
      rw [pastSemicolons_advance isSign, ih,
        @left_advance sites true c (isSign ▸ nofun) (isSign ▸ nofun), isSign]
      rfl

theorem Counted.pastSemicolons (counted : c.Counted sites true) :
    c.pastSemicolons.Counted sites true := by
  induction c using semicolons_induction with
  | other c other => rwa [pastSemicolons_eq other]
  | step c isSign ih =>
      have behind := counted.advance (isSign ▸ nofun)
      rw [isSign] at behind
      rw [pastSemicolons_advance isSign]
      exact ih behind

/-- Behind the semicolons that both take, the other may have more of them. -/
theorem Follows.pastSemicolons (follows : c.Follows sites true d) :
    ∃ other, c.pastSemicolons.Follows sites true other ∧
      other.pastSemicolons = d.pastSemicolons := by
  induction c using semicolons_induction generalizing d with
  | other c other => exact ⟨d, by rwa [pastSemicolons_eq other], rfl⟩
  | step c isSign ih =>
      have kept := @Token.isReturnOf_of_kind sites _
        (isSign ▸ nofun : c.next.kind ≠ .keyword .return_)
      have behind := (follows.advance kept (isSign ▸ nofun)).weaken fun _ => rfl
      obtain ⟨other, follows', same⟩ := ih behind
      rw [pastSemicolons_advance isSign,
        @pastSemicolons_advance d ((follows.kind_next kept).trans isSign)]
      exact ⟨other, follows', same⟩

end Cursor

namespace Parser

variable {α : Type} {item : Parser α} {stops : TokenKind → Bool} {bound : Nat} {c c' d d' : Cursor}
  {items : List α}

/-! ### Statements one after the other -/

/-- What is listed does not depend on the semicolons before it. -/
theorem yields_sequence_of_same (same : c.pastSemicolons = d.pastSemicolons)
    (yields : (sequence stops item (bound + 1)).Yields c items c') :
    (sequence stops item (bound + 1)).Yields d items c' := by
  rw [yields_sequence] at yields ⊢
  rwa [← same]

/-- A list that stopped is the same when more items may follow. -/
theorem yields_sequence_succ (stopped : stops c'.next.kind = true)
    (other : c'.next.kind ≠ .symbol .semicolon)
    (yields : (sequence stops item bound).Yields c items c') :
    (sequence stops item (bound + 1)).Yields c items c' := by
  induction bound generalizing c items with
  | zero =>
      obtain ⟨rfl, rfl⟩ := yields_pure.mp yields
      rw [yields_sequence, Cursor.pastSemicolons_eq other, if_pos stopped]
      exact ⟨rfl, rfl⟩
  | succ bound ih =>
      rw [yields_sequence] at yields ⊢
      split at yields
      · next stops => rwa [if_pos stops]
      · next goesOn =>
          obtain ⟨first, middle, read, _, ended, ends, rest, more, rfl⟩ := yields
          rw [if_neg goesOn]
          exact ⟨first, middle, read, (), ended, ends, rest, ih more, rfl⟩

/-! ### Where statements end -/

theorem goesOn_of_closes {kind : TokenKind} (closes : closesStatement kind = true) :
    goesOn kind = false := by
  unfold goesOn
  split <;> first | rfl | exact absurd closes (by decide)

theorem not_opensExpr_of_closes {kind : TokenKind} (closes : closesStatement kind = true) :
    ¬ opensExpr kind = true := by
  unfold closesStatement at closes
  split at closes <;> first | decide | cases closes

theorem keptKind_of_kind {kind : TokenKind} (isNext : c.next.kind = kind)
    (other : kind ≠ .keyword .return_) : c.keptKind sites = kind := by
  rw [Cursor.keptKind_eq (Token.isReturnOf_of_kind (isNext ▸ other)), isNext]

/-- Where a statement ends nothing goes on with it, if nothing goes on behind its end. -/
theorem goesOn_of_endStatement (ends : endStatement.Yields c () c')
    (fresh : goesOn (c'.keptKind sites) = false) : goesOn (c.keptKind sites) = false := by
  rw [yields_endStatement] at ends
  split at ends
  · next isSign =>
      rw [keptKind_of_kind isSign nofun]
      rfl
  · rwa [← ends.2]

theorem loose_of_endStatement (ends : endStatement.Yields c () c')
    (fresh : goesOn (c'.keptKind sites) = false) : c.Settled sites .loose := by
  intro isReturn
  have kind := Token.kind_of_isReturnOf isReturn
  refine ⟨?_, goesOn_of_endStatement ends fresh⟩
  rw [yields_endStatement, if_neg (kind ▸ nofun), kind] at ends
  simpa [closesStatement] using ends.1

theorem signed_of_endStatement (ends : endStatement.Yields c () c')
    (signed : c'.Settled sites .signed) : c.Settled sites .signed := by
  rw [yields_endStatement] at ends
  split at ends
  · next isSign => exact Cursor.settled_of_kind (isSign ▸ rfl)
  · rwa [← ends.2]

/-- **A statement ends for the other where it ends**, but for a semicolon behind returns that are
shed: that comes next for the other. -/
theorem ends_of_follows {ended : Cursor} (ends : endStatement.Yields c () ended)
    (loose : c.Settled sites .loose) (follows : c.Follows sites false d) :
    (∃ d', endStatement.Yields d () d' ∧ ended.Follows sites true d') ∨
      ended = c ∧ c.next.isReturnOf sites = true ∧ d.next.kind = .symbol .semicolon := by
  rw [yields_endStatement] at ends
  split at ends
  · next isSign =>
      have kept := @Token.isReturnOf_of_kind sites _
        (isSign.trans_ne (by decide) : c.next.kind ≠ .keyword .return_)
      have behind := (follows.advance kept (isSign.trans_ne (by decide))).weaken fun _ => rfl
      refine .inl ⟨d.advance, ?_, ends ▸ behind⟩
      rw [yields_endStatement, if_pos ((follows.kind_next kept).trans isSign)]
  · next other =>
      obtain ⟨ends, rfl⟩ := ends
      cases isReturn : ended.next.isReturnOf sites with
      | false =>
          refine .inl ⟨d, ?_, follows.weaken fun _ => rfl⟩
          rw [yields_endStatement, follows.kind_next isReturn, follows.newlineBefore_next isReturn,
            if_neg other]
          exact ⟨ends, rfl⟩
      | true =>
          by_cases isSign : d.next.kind = .symbol .semicolon
          · exact .inr ⟨rfl, rfl, isSign⟩
          · -- the return starts a line, which the other sees as well
            have newline := follows.breaks (loose isReturn).1
            refine .inl ⟨d, ?_, follows.weaken fun _ => rfl⟩
            rw [yields_endStatement, if_neg isSign, newline]
            exact ⟨rfl, rfl⟩

/-- Behind the end of a statement the other has the semicolons that it had before, or one less. -/
theorem follows_behind_end {ended : Cursor} (ends : endStatement.Yields c () ended)
    (follows : c.Follows sites true d) :
    ∃ d', ended.Follows sites true d' ∧ d'.pastSemicolons = d.pastSemicolons := by
  rw [yields_endStatement] at ends
  split at ends
  · next isSign =>
      have kept := @Token.isReturnOf_of_kind sites _
        (isSign.trans_ne (by decide) : c.next.kind ≠ .keyword .return_)
      have isSign' := (follows.kind_next kept).trans isSign
      have behind := (follows.advance kept (isSign.trans_ne (by decide))).weaken fun _ => rfl
      exact ⟨d.advance, ends ▸ behind, (Cursor.pastSemicolons_advance isSign').symm⟩
  · obtain ⟨-, rfl⟩ := ends
    exact ⟨d, follows, rfl⟩

/-- What is known of the place before statements: when a declaration that ends with its signature is
before them, they do not go on with that. -/
def startGround (behind : Bool) : Ground :=
  if behind then .signed else .anywhere

instance (behind : Bool) : (startGround behind).Plain :=
  ⟨by cases behind <;> decide⟩

/-- What has to be known behind a statement. -/
def endGround (behind : Bool) : Ground :=
  if behind then .signed else .loose

/-- **Statements that a parser gave are tracked** by another, given whether a declaration that ends
with its signature is before them. -/
def GivesBehind (sites : List ReturnSite) (last : Ground) (behind : Bool) (s : Footing)
    (c d : Cursor) (q : Parser (List Statement)) (rest : List Statement) (c' : Cursor) : Prop :=
  worthBehind sites behind rest + c'.left sites false ≤ c.left sites s.opens ∧
  (worthBehind sites behind rest + c'.left sites false = c.left sites s.opens →
    c.Counted sites s.opens → c'.Counted sites false ∧
    (c'.Settled sites last → c.Settled sites s.ground ∧
      (c.Follows sites s.fresh d → ∃ others d', q.Yields d others d' ∧ Lasts sites rest others ∧
        c'.Follows sites true d')))

/-- A parser of statements and one that tracks it. -/
def TracksBehind (sites : List ReturnSite) (last : Ground) (behind : Bool) (s : Footing)
    (c d : Cursor) (p q : Parser (List Statement)) : Prop :=
  ∀ ⦃rest : List Statement⦄ ⦃c' : Cursor⦄, p.Yields c rest c' →
    GivesBehind sites last behind s c d q rest c'

/-- **A return is paid for with its keyword.** -/
theorem pays_return {value? : Option Expr} {span : Span}
    (isReturn : c.next.kind = .keyword .return_)
    (follows : ∀ value, value? = some value → opensExpr c.advance.next.kind = true ∧
      value.span.start = c.advance.next.span.start) :
    (if (Statement.returning span c.next.span value?).isSiteOf sites then 1 else 0) +
      c.advance.left sites false ≤ c.left sites true := by
  split
  · next isSite =>
      have listed : ⟨c.next.span, value?.map (·.span)⟩ ∈ sites := of_decide_eq_true isSite
      rw [Nat.add_comm]
      refine Cursor.left_advance_lt isReturn listed fun place isPlace => ?_
      obtain ⟨value, isValue, rfl⟩ := Option.map_eq_some_iff.mp isPlace
      obtain ⟨opens, starts⟩ := follows value isValue
      exact ⟨starts.symm, ne_return_of_opensExpr opens⟩
  · rw [Nat.zero_add]
    exact Cursor.left_advance_le

theorem worthBehind_returning {behind : Bool} {value? : Option Expr} {span keyword : Span}
    {rest : List Statement} :
    worthBehind sites behind (.returning span keyword value? :: rest) =
      (if !behind && (Statement.returning span keyword value?).isSiteOf sites then 1 else 0) +
        worth sites value? + worthBehind sites false rest := by
  have parts : Node.tallies sites (Node.ofStatement (.returning span keyword value?)) =
      worth sites value? := by
    cases value? with
    | none => exact Node.tally_mark sites keyword
    | some value =>
        rw [worth_some]
        show Node.tallies sites [_, _] = Node.tallies sites [_]
        rw [Node.tallies_cons, Node.tally_mark, Nat.zero_add]
  rw [worthBehind_cons, parts]
  rfl

/-- Nothing is left of a return without a value. -/
theorem lasts_shedBare {span : Span} {rest others : List Statement}
    (isReturn : c.next.isReturnOf sites = true) (lasts : Lasts sites rest others) :
    Lasts sites (.returning span c.next.span none :: rest) others := by
  have removed := keyword_of_isReturnOf isReturn
  show others.map _ = ((Statement.returning span c.next.span none :: rest).flatMap _).map _
  rw [List.flatMap_cons, Statement.without, if_pos removed]
  exact lasts

/-- The value is left of a return. -/
theorem lasts_shedValue {span : Span} {value other : Expr} {rest others : List Statement}
    (isReturn : c.next.isReturnOf sites = true) (same : Lasts sites value other)
    (lasts : Lasts sites rest others) :
    Lasts sites (.returning span c.next.span (some value) :: rest)
      (.expression other :: others) := by
  have removed := keyword_of_isReturnOf isReturn
  show (Statement.expression other :: others).map _ =
    ((Statement.returning span c.next.span (some value) :: rest).flatMap _).map _
  rw [List.flatMap_cons, Statement.without, if_pos removed, List.map_append, List.map_cons]
  exact congrArg₂ List.cons (congrArg Statement.expression same) lasts

/-- A return counts only if no declaration that ends with its signature is before it. -/
theorem counts_le {behind isSite : Bool} :
    (if !behind && isSite then 1 else 0) ≤ if isSite then 1 else 0 := by
  cases behind <;> cases isSite <;> decide

theorem behind_of_counts {behind : Bool} (isSite : Bool)
    (counts : (if !behind && isSite then 1 else 0) = 1) : behind = false := by
  cases behind
  · rfl
  · cases counts

section Statements

variable {inner : Inner} {last : Ground} (tracks : inner.Tracks sites)
  (stopped : ∀ c : Cursor, c.Settled sites last → stops c.next.kind = true)
  (closes : ∀ kind, stops kind = true → closesStatement kind = true)

include stopped closes in
theorem settled_closed (settled : c.Settled sites last) : c.Settled sites .closed :=
  closes _ (stopped c settled)

include stopped closes in
/-- Where statements stop, they stop for the other as well. -/
theorem stops_of_follows (settled : c.Settled sites last) (follows : c.Follows sites true d) :
    stops d.next.kind = true ∧ d.next.kind ≠ .symbol .semicolon := by
  have closed : c.Settled sites .closed := settled_closed stopped closes settled
  have kind := follows.kind_next (closed.firm (by decide))
  refine ⟨kind ▸ stopped c settled, fun isSign => ?_⟩
  have closing : closesStatement c.next.kind = true := closed
  rw [← kind, isSign] at closing
  cases closing

include tracks stopped closes

/-- **Nothing goes on with what is before statements**: the first token that is kept starts one. -/
theorem goesOn_sequence {statements : List Statement}
    (yields : (sequence stops inner.statement bound).Yields c statements c')
    (settled : c'.Settled sites last) : goesOn (c.keptKind sites) = false := by
  have isStop {c : Cursor} (closed : closesStatement c.next.kind = true) :
      goesOn (c.keptKind sites) = false := by
    rw [keptKind_of_kind rfl fun isReturn => by rw [isReturn] at closed; cases closed]
    exact goesOn_of_closes closed
  induction bound generalizing c statements with
  | zero =>
      obtain ⟨-, rfl⟩ := yields_pure.mp yields
      exact isStop (settled_closed stopped closes settled)
  | succ bound ih =>
      by_cases isSign : c.next.kind = .symbol .semicolon
      · rw [keptKind_of_kind isSign nofun]
        rfl
      rw [yields_sequence, Cursor.pastSemicolons_eq isSign] at yields
      split at yields
      · next stops => exact isStop (closes _ stops)
      obtain ⟨first, middle, read, _, ended, ends, rest, more, -⟩ := yields
      cases isReturn : c.next.isReturnOf sites with
      | false =>
          rw [Cursor.keptKind_eq isReturn]
          exact (tracks.statementStarts read).1
      | true =>
          rw [Cursor.keptKind_advance isReturn]
          -- behind a return that is shed comes its value, or what follows its statement
          obtain ⟨value, -, opens, -, reads, -⟩ := tracks.returns
          have read := reads _ _ _ (Token.kind_of_isReturnOf isReturn) read
          unfold ReadsReturn at read
          split at read
          · rw [← read.1]
            exact goesOn_of_endStatement ends (ih more)
          · obtain ⟨node, readValue, -⟩ := read
            have isOpen := (opens _ _ _ readValue).1
            rw [keptKind_of_kind rfl (ne_return_of_opensExpr isOpen)]
            exact goesOn_of_opensExpr isOpen

/-- The end of a statement and the statements behind it. -/
theorem tracks_ended {behind : Bool}
    (rest : ∀ c d, TracksBehind sites last behind ⟨true, true, startGround behind⟩ c d
      (sequence stops inner.statement bound) (sequence stops inner.statement bound)) :
    TracksBehind sites last behind (.behind (endGround behind)) c d
      (endStatement >>= fun _ => sequence stops inner.statement bound)
      (endStatement >>= fun _ => sequence stops inner.statement bound) := by
  intro statements c' yields
  obtain ⟨_, ended, ends, more⟩ := yields_bind.mp yields
  have left := @Cursor.left_endStatement sites _ _ ends
  refine ⟨left ▸ (rest ended d more).1, fun same counted => ?_⟩
  have onward (d : Cursor) := (rest ended d more).2 (left ▸ same) (counted.endStatement ends)
  refine ⟨(onward d).1, fun settled => ?_⟩
  have fresh := goesOn_sequence tracks stopped closes more settled
  have loose := loose_of_endStatement ends fresh
  refine ⟨?_, fun follows => ?_⟩
  · cases behind with
    | false => exact loose
    | true => exact signed_of_endStatement ends ((onward d).2 settled).1
  rcases ends_of_follows ends loose follows with ⟨d', ends', follows'⟩ | ⟨rfl, isReturn, isSign⟩
  · obtain ⟨others, d'', read, result⟩ := ((onward d').2 settled).2 follows'
    exact ⟨others, d'', yields_bind.mpr ⟨(), d', ends', read⟩, result⟩
  -- the other has the end of a return that is shed for its own
  obtain ⟨others, d'', read, result⟩ := ((onward d).2 settled).2 (follows.weaken fun _ => rfl)
  cases bound with
  | zero =>
      obtain ⟨-, rfl⟩ := yields_pure.mp more
      have closed : closesStatement c'.next.kind = true := settled_closed stopped closes settled
      rw [Token.kind_of_isReturnOf isReturn] at closed
      cases closed
  | succ bound =>
      refine ⟨others, d'', yields_bind.mpr ⟨(), d.advance, ?_, ?_⟩, result⟩
      · rw [yields_endStatement, if_pos isSign]
      · exact yields_sequence_of_same (Cursor.pastSemicolons_advance isSign) read

omit stopped closes in
/-- A statement that is kept, and those behind it. -/
theorem tracks_keptStatement {behind : Bool} {statement : Statement} {rest : List Statement}
    {middle : Cursor} (kept : c.next.isReturnOf sites = false)
    (goesOn : stops c.next.kind = false) (other : c.next.kind ≠ .symbol .semicolon)
    (read : inner.statement.Yields c statement middle)
    (tail : ∀ d, GivesBehind sites last statement.endsWithSignature
      (.behind (endGround statement.endsWithSignature)) middle d
      (endStatement >>= fun _ => sequence stops inner.statement bound) rest c') :
    GivesBehind sites last behind ⟨true, true, startGround behind⟩ c d
      (sequence stops inner.statement (bound + 1)) (statement :: rest) c' := by
  obtain ⟨pays, follow⟩ := tracks.statement c d kept read
  obtain ⟨paysRest, -⟩ := tail d
  have fewer := @counts_le behind (statement.isSiteOf sites)
  rw [worth_statement] at pays follow
  unfold GivesBehind
  rw [worthBehind_cons]
  dsimp only at pays follow paysRest ⊢
  refine ⟨by omega, fun same counted => ?_⟩
  obtain ⟨counted', back⟩ := follow (by omega) counted
  have onward (d : Cursor) := (tail d).2 (by dsimp only; omega) counted'
  refine ⟨(onward d).1, fun settled => ?_⟩
  obtain ⟨signed, follows'⟩ := back ((onward d).2 settled).1
  refine ⟨signed.mono Ground.Plain.rank_le, fun follows => ?_⟩
  obtain ⟨statement', d', read', lasts, after⟩ := follows' follows
  obtain ⟨rest', d'', more', lastsRest, afterRest⟩ := ((onward d').2 settled).2 after
  obtain ⟨_, ended, ends, listed⟩ := yields_bind.mp more'
  have kind := follows.kind_next kept
  refine ⟨statement' :: rest', d'', ?_, ?_, afterRest⟩
  · refine yields_sequence_cons ?_ ?_ ends listed
    · rwa [Cursor.pastSemicolons_eq (kind ▸ other), kind]
    · rwa [Cursor.pastSemicolons_eq (kind ▸ other)]
  -- a return that is kept stays a return
  · have stays : ∀ span keyword value, statement = .returning span keyword value →
        keyword ∉ sites.map ReturnSite.keyword := fun span keyword value isReturn => by
      obtain ⟨atReturn, rfl⟩ := (tracks.statementStarts read).2 _ _ _ isReturn
      exact (isReturnOf_eq_false_iff atReturn).mp kept
    show (statement' :: rest').map _ = ((statement :: rest).flatMap _).map _
    rw [List.flatMap_cons, Statement.without_eq_singleton stays, List.map_cons,
      List.singleton_append, List.map_cons]
    exact congrArg₂ List.cons lasts lastsRest

omit tracks in
/-- A return without a value that is shed, and the statements behind it. -/
theorem tracks_shedBare {behind : Bool} {span : Span} {rest : List Statement} {ended : Cursor}
    (isReturn : c.next.isReturnOf sites = true) (ends : endStatement.Yields c.advance () ended)
    (listed : ∀ d, GivesBehind sites last false ⟨true, true, startGround false⟩ ended d
      (sequence stops inner.statement bound) rest c') :
    GivesBehind sites last behind ⟨true, true, startGround behind⟩ c d
      (sequence stops inner.statement (bound + 1)) (.returning span c.next.span none :: rest)
      c' := by
  have kind := Token.kind_of_isReturnOf isReturn
  have pays := @pays_return sites c none span kind nofun
  have fewer := @counts_le behind ((Statement.returning span c.next.span none).isSiteOf sites)
  have paysRest := (listed d).1
  unfold GivesBehind
  rw [worthBehind_returning, worth_none]
  dsimp only at paysRest ⊢
  rw [Cursor.left_endStatement ends] at paysRest
  refine ⟨by omega, fun same counted => ?_⟩
  have taken := counted.left_advance isReturn
  have onward (d : Cursor) := (listed d).2
    (by dsimp only; rw [Cursor.left_endStatement ends]; omega)
    ((counted.advance_return kind).endStatement ends)
  refine ⟨(onward d).1, fun settled => ?_⟩
  -- it is paid for, so that no declaration that ends with its signature is before it
  have first : behind = false :=
    behind_of_counts ((Statement.returning span c.next.span none).isSiteOf sites) (by omega)
  refine ⟨first ▸ trivial, fun follows => ?_⟩
  obtain ⟨d', behindEnd, sameSigns⟩ := follows_behind_end ends (follows.shed isReturn)
  obtain ⟨others, d'', read, lasts, after⟩ := ((onward d').2 settled).2 behindEnd
  -- the statement that the other does not have leaves room for one more step
  obtain ⟨stop, noSign⟩ := stops_of_follows stopped closes settled after
  exact ⟨others, d'', yields_sequence_of_same sameSigns (yields_sequence_succ stop noSign read),
    lasts_shedBare isReturn lasts, after⟩

omit tracks stopped in
/-- A return with a value that is shed, and the statements behind it. -/
theorem tracks_shedValue {behind : Bool} {value : Parser Expr} {node : Expr} {span : Span}
    {rest : List Statement} {middle : Cursor} (isReturn : c.next.isReturnOf sites = true)
    (tracksValue : Tracks sites (fun _ => .loose) value)
    (opens : ∀ c node c', value.Yields c node c' →
      opensExpr c.next.kind = true ∧ node.span.start = c.next.span.start)
    (reads : ∀ c statement c', opensExpr c.next.kind = true →
      (inner.statement.Yields c statement c' ↔ ∃ node, value.Yields c node c' ∧
        statement = .expression node))
    (read : value.Yields c.advance node middle)
    (tail : ∀ d, GivesBehind sites last false (.behind (endGround false)) middle d
      (endStatement >>= fun _ => sequence stops inner.statement bound) rest c') :
    GivesBehind sites last behind ⟨true, true, startGround behind⟩ c d
      (sequence stops inner.statement (bound + 1))
      (.returning span c.next.span (some node) :: rest) c' := by
  have kind := Token.kind_of_isReturnOf isReturn
  have found := opens _ _ _ read
  have pays := @pays_return sites c (some node) span kind fun _ isValue => by
    cases isValue
    exact found
  have fewer := @counts_le behind
    ((Statement.returning span c.next.span (some node)).isSiteOf sites)
  obtain ⟨paysValue, follow⟩ := tracksValue c.advance d read
  have paysRest := (tail d).1
  unfold GivesBehind
  rw [worthBehind_returning, worth_some]
  dsimp only at paysValue follow paysRest ⊢
  refine ⟨by omega, fun same counted => ?_⟩
  have taken := counted.left_advance isReturn
  obtain ⟨counted', back⟩ := follow (by omega) (counted.advance_return kind)
  have onward (d : Cursor) := (tail d).2 (by dsimp only; omega) counted'
  refine ⟨(onward d).1, fun settled => ?_⟩
  have first : behind = false := behind_of_counts
    ((Statement.returning span c.next.span (some node)).isSiteOf sites) (by omega)
  obtain ⟨signed, follows'⟩ := back ((onward d).2 settled).1
  refine ⟨first ▸ trivial, fun follows => ?_⟩
  have follows := follows.shed isReturn
  obtain ⟨other, d', read', lasts, after⟩ := follows' follows
  obtain ⟨rest', d'', more', lastsRest, afterRest⟩ := ((onward d').2 settled).2 after
  obtain ⟨_, ended, ends, listed⟩ := yields_bind.mp more'
  -- the other reads the value as a statement of its own
  have isOpen : opensExpr d.next.kind = true := by rw [follows.kind_next signed.1]; exact found.1
  have noSign : d.next.kind ≠ .symbol .semicolon :=
    fun isSign => by rw [isSign] at isOpen; cases isOpen
  refine ⟨.expression other :: rest', d'', ?_, lasts_shedValue isReturn lasts lastsRest, afterRest⟩
  refine yields_sequence_cons ?_ ?_ ends listed
  · rw [Cursor.pastSemicolons_eq noSign]
    refine Bool.eq_false_iff.mpr fun stops => ?_
    exact absurd isOpen (not_opensExpr_of_closes (closes _ stops))
  · rw [Cursor.pastSemicolons_eq noSign]
    exact (reads _ _ _ isOpen).mpr ⟨other, read', rfl⟩

omit tracks in
/-- No statements are left. -/
theorem tracks_stopped {behind : Bool} {q : Parser (List Statement)}
    (stops : c.Settled sites last → c.Follows sites true d → q.Yields d [] d) :
    GivesBehind sites last behind ⟨true, true, startGround behind⟩ c d q [] c := by
  unfold GivesBehind
  have none : worthBehind sites behind [] = 0 := rfl
  have less := @Cursor.left_le sites false true c nofun
  rw [none]
  refine ⟨by dsimp only; omega, fun same counted =>
    ⟨counted.weaken (by simpa using same), fun settled => ?_⟩⟩
  have closed : c.Settled sites .closed := settled_closed stopped closes settled
  refine ⟨closed.mono (Ground.Plain.rank_le.trans (by decide)), fun follows => ?_⟩
  exact ⟨[], d, stops settled follows, rfl, follows⟩

omit tracks stopped closes in
/-- Semicolons before statements. -/
theorem tracks_pastSemicolons {behind : Bool}
    (rest : ∀ d, TracksBehind sites last behind ⟨true, true, startGround behind⟩ c.pastSemicolons d
      (sequence stops inner.statement (bound + 1)) (sequence stops inner.statement (bound + 1))) :
    TracksBehind sites last behind ⟨true, true, startGround behind⟩ c d
      (sequence stops inner.statement (bound + 1))
      (sequence stops inner.statement (bound + 1)) := by
  intro items c' yields
  have yields := yields_sequence_of_same
    (Cursor.pastSemicolons_eq c.kind_pastSemicolons).symm yields
  have given (d : Cursor) := rest d yields
  unfold GivesBehind at given ⊢
  dsimp only at given ⊢
  rw [Cursor.left_pastSemicolons] at given
  refine ⟨(given d).1, fun same counted => ?_⟩
  have onward (d : Cursor) := (given d).2 same counted.pastSemicolons
  refine ⟨(onward d).1, fun settled => ⟨?_, fun follows => ?_⟩⟩
  · by_cases isSign : c.next.kind = .symbol .semicolon
    · exact Cursor.settled_of_kind (isSign ▸ rfl)
    · have before := ((onward d).2 settled).1
      rwa [Cursor.pastSemicolons_eq isSign] at before
  · obtain ⟨d', follows', sameRest⟩ := follows.pastSemicolons
    obtain ⟨others, d'', read, result⟩ := ((onward d').2 settled).2 follows'
    exact ⟨others, d'', yields_sequence_of_same sameRest read, result⟩

/-- **Statements are tracked** up to a token at which they stop. -/
theorem tracks_sequence (bound : Nat) (behind : Bool) (c d : Cursor) :
    TracksBehind sites last behind ⟨true, true, startGround behind⟩ c d
      (sequence stops inner.statement bound) (sequence stops inner.statement bound) := by
  induction bound generalizing behind c d with
  | zero =>
      intro items c' yields
      obtain ⟨rfl, rfl⟩ := yields_pure.mp yields
      exact tracks_stopped stopped closes fun _ _ => yields_pure.mpr ⟨rfl, rfl⟩
  | succ bound ih =>
      have tail (behind : Bool) (c d : Cursor) :=
        tracks_ended (c := c) (d := d) tracks stopped closes (ih behind)
      -- behind the semicolons comes a statement or a token to stop at
      refine tracks_pastSemicolons fun d => ?_
      have other := c.kind_pastSemicolons
      generalize c.pastSemicolons = c at other ⊢
      intro items c' yields
      rw [yields_sequence, Cursor.pastSemicolons_eq other] at yields
      split at yields
      · next isStop =>
          obtain ⟨rfl, rfl⟩ := yields
          refine tracks_stopped stopped closes fun settled follows => ?_
          have closed : c'.Settled sites .closed := settled_closed stopped closes settled
          have kind := follows.kind_next (closed.firm (by decide))
          rw [yields_sequence, Cursor.pastSemicolons_eq (kind ▸ other), kind, if_pos isStop]
          exact ⟨rfl, rfl⟩
      · next goesOn =>
          obtain ⟨statement, middle, read, _, ended, ends, rest, more, rfl⟩ := yields
          have listed : (endStatement >>= fun _ =>
              sequence stops inner.statement bound).Yields middle rest c' :=
            yields_bind.mpr ⟨(), ended, ends, more⟩
          cases isReturn : c.next.isReturnOf sites with
          | false =>
              exact tracks_keptStatement tracks isReturn (Bool.eq_false_iff.mpr goesOn) other read
                fun d => tail _ middle d listed
          | true =>
              obtain ⟨value, tracksValue, opens, -, reads, readsValue⟩ := tracks.returns
              have read := reads _ _ _ (Token.kind_of_isReturnOf isReturn) read
              unfold ReadsReturn at read
              split at read
              · obtain ⟨rfl, rfl⟩ := read
                exact tracks_shedBare stopped closes isReturn ends fun d => ih false ended d more
              · obtain ⟨node, readValue, rfl⟩ := read
                exact tracks_shedValue closes isReturn tracksValue opens readsValue readValue
                  fun d => tail false middle d listed

/-- Statements that start where one may start. -/
theorem tracks_statements {s : Footing} (opens : s.opens = true) (ground : s.ground = .anywhere) :
    TracksAt sites s (fun _ => ⟨true, false, last⟩) 0 c d
      (sequence stops inner.statement bound) (sequence stops inner.statement bound) := by
  intro statements c' yields
  obtain ⟨pays, follow⟩ := tracks_sequence tracks stopped closes bound false c d yields
  rw [worth_statements, opens, ground, Nat.zero_add]
  refine ⟨pays, fun same counted => (follow same counted).imp id fun back settled =>
    (back settled).imp id fun tracked follows => tracked (follows.weaken fun _ => rfl)⟩

end Statements

end Parser

end ResultBuilder.Syntax
