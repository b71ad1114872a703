import ResultBuilder.Proofs.Syntax.Returns.Sequence

/-!
# Closures and expressions that are tracked

A closure may have parameters before its statements. Statements never start like parameters, also
where returns are shed from them. An expression ends where a return that is shed comes next: that
starts a line, and with it its value.

* **`Parser.tracks_block`**, **`Parser.tracks_closure`**: blocks and closures.
* **`Parser.tracks_primary`** to **`Parser.tracks_expression`**: the parsers of expressions.
-/

namespace ResultBuilder.Syntax

variable {sites : List ReturnSite}

/-! ### Blocks -/

theorem lasts_statements {body body' : List Statement} : Lasts sites body body' ↔
    body'.map (·.rebuild .plain) =
      (body.flatMap (·.without (sites.map ReturnSite.keyword))).map (·.rebuild .plain) :=
  .rfl

theorem lasts_block {span span' : Span} {body body' : List Statement}
    (same : Lasts sites body body') : Lasts sites (Block.mk span body) ⟨span', body'⟩ := by
  show Block.rebuild .plain _ = Block.rebuild .plain (Block.without _ _)
  rw [Block.without, Block.rebuild, Block.rebuild, Statement.rebuilds_eq_map,
    Statement.rebuilds_eq_map, Statement.withoutAll_eq_flatMap, lasts_statements.mp same]

theorem worth_block {span : Span} {body : List Statement} :
    worth sites (Block.mk span body) = worth sites body := by
  show Node.tallies sites [_] = Node.tallies sites [_]
  rw [Node.tallies_cons, Node.tallies_cons, Node.tally_block, Node.tally_block]

namespace Parser

variable {inner : Inner} {c c' d : Cursor} {g : Ground} (tracks : inner.Tracks sites)

/-- Whether statements between braces stop at a token. -/
def closesBlock (kind : TokenKind) : Bool :=
  kind == .endOfFile || kind == .symbol .braceClose

theorem settled_braced (closes : closesBlock c.next.kind = true) : c.Settled sites .braced :=
  (Bool.or_eq_true_iff.mp closes).symm.imp beq_iff_eq.mp beq_iff_eq.mp

theorem closesBlock_of_settled (c : Cursor) (settled : c.Settled sites .braced) :
    closesBlock c.next.kind = true := by
  rcases settled with isNext | isNext <;> rw [isNext] <;> rfl

theorem closes_of_closesBlock (kind : TokenKind) (closes : closesBlock kind = true) :
    closesStatement kind = true := by
  rcases Bool.or_eq_true_iff.mp closes with isKind | isKind <;> rw [beq_iff_eq.mp isKind] <;> rfl

/-- The brace behind statements, where it is known to come next. -/
theorem tracks_braceClose {fresh : Bool} {ground : Ground}
    (settles : ∀ c : Cursor, c.next.kind = .symbol .braceClose → c.Settled sites ground) :
    TracksAt sites ⟨fresh, false, ground⟩ (fun _ => .behind g) 0 c d
      (expectSymbol .braceClose) (expectSymbol .braceClose) := by
  intro token c' yields
  have tracks : TracksAt sites ⟨fresh, false, .anywhere⟩ (fun _ => .behind g) 0 c d
      (expectSymbol .braceClose) (expectSymbol .braceClose) := tracks_expectSymbol .braceClose rfl
  exact tracks.known (settles c (yields_expectSymbol.mp yields).1) yields

include tracks

/-- The statements of a block. -/
theorem tracks_body :
    TracksAt sites ⟨false, true, .anywhere⟩ (fun _ => ⟨true, false, .braced⟩) 0 c d
      (statements inner (· == .symbol .braceClose))
      (statements inner (· == .symbol .braceClose)) :=
  tracks_statements tracks closesBlock_of_settled closes_of_closesBlock rfl rfl

theorem tracks_block : TracksAt sites (.start .signed) (fun _ => .behind g) 0 c d
    (block inner) (block inner) := by
  refine .bind (tracks_expect (o := true) (g := .anywhere) rfl fun _ => rfl) fun _ _ c d _ =>
    .bind ((tracks_body tracks).prior (.refl _)) fun body body' c d same =>
      .bind (tracks_braceClose (g := g) fun _ => .inl) fun _ _ c d _ =>
        .looks (fun _ => rfl) (fun _ => rfl) (.pure ?_ (lasts_block same) (.refl _))
  rw [worth_block]
  omega

/-! ### Parameters of closures -/

omit tracks in
theorem closureNames_rest (c : Cursor) : closureNames c.rest =
    if namesParam c.next.kind then
      if c.advance.next.kind = .keyword .in_ then some [c.next]
      else if c.advance.next.kind = .symbol .comma then
        (c.next :: ·) <$> closureNames c.advance.advance.rest
      else none
    else none := by
  by_cases isName : namesParam c.next.kind = true
  · have cut := c.rest_eq_cons fun isEnd => by rw [isEnd] at isName; cases isName
    rw [if_pos isName, cut]
    have isKind : (c.next.kind == .identifier || c.next.kind == .symbol .underscore) = true :=
      isName
    by_cases isIn : c.advance.next.kind = .keyword .in_
    · rw [if_pos isIn, c.advance.rest_eq_cons (isIn.trans_ne (by decide)), closureNames,
        if_pos isKind, isIn]
    · rw [if_neg isIn]
      by_cases isComma : c.advance.next.kind = .symbol .comma
      · rw [if_pos isComma, c.advance.rest_eq_cons (isComma.trans_ne (by decide)), closureNames,
          if_pos isKind, isComma]
      · rw [if_neg isComma]
        -- neither sign is behind the name, so that this is no list of parameters
        unfold Cursor.next at isIn isComma
        cases more : c.advance.rest with
        | nil => rfl
        | cons token tokens =>
            rw [more] at isIn isComma
            have noIn : ¬ token.kind = .keyword .in_ := isIn
            have noComma : ¬ token.kind = .symbol .comma := isComma
            rw [closureNames, if_pos isKind]
            split
            · next isIn => exact absurd isIn noIn
            · next isComma => exact absurd isComma noComma
            · rfl
  · rw [if_neg isName]
    unfold Cursor.next at isName
    rcases more : c.rest with - | ⟨token, - | ⟨other, tokens⟩⟩
    · rfl
    · rfl
    · rw [more] at isName
      exact if_neg isName

omit tracks in
/-- A list of parameters starts with a name and what separates it. -/
theorem separates_of_closureNames (names : closureNames c.rest ≠ none) :
    namesParam c.next.kind = true ∧ haltsName c.advance.next.kind = true ∧
      goesOn c.advance.next.kind = true := by
  rw [closureNames_rest] at names
  split at names
  · next isName =>
      refine ⟨isName, ?_⟩
      split at names
      · next isIn => rw [isIn]; exact ⟨rfl, rfl⟩
      · split at names
        · next isComma => rw [isComma]; exact ⟨rfl, rfl⟩
        · exact absurd rfl names
  · exact absurd rfl names

/-- A statement that is a name does not start parameters. -/
theorem no_names_of_value {value : Parser Expr} {node : Expr} {bound : Nat} {middle ended : Cursor}
    {rest : List Statement}
    (halts : ∀ c node c', value.Yields c node c' → namesParam c.next.kind = true →
      haltsName c.advance.next.kind = true → c' = c.advance)
    (opens : opensExpr c.next.kind = true)
    (read : value.Yields c node middle) (ends : endStatement.Yields middle () ended)
    (more : (sequence closesBlock inner.statement bound).Yields ended rest c')
    (settled : c'.Settled sites .braced) (follows : c.Follows sites true d) :
    closureNames d.rest = none := by
  by_contra names
  obtain ⟨isName, -, goesOn⟩ := separates_of_closureNames names
  have kept := @Token.isReturnOf_of_kind sites _ (ne_return_of_opensExpr opens)
  have behind := follows.advance kept fun isEnd => by rw [isEnd] at opens; cases opens
  rw [behind.kind_kept] at goesOn
  have halting : haltsName c.advance.next.kind = true := by
    cases isReturn : c.advance.next.isReturnOf sites with
    | true => rw [Token.kind_of_isReturnOf isReturn]; rfl
    | false =>
        rw [← behind.kind_next isReturn]
        exact (separates_of_closureNames names).2.1
  rw [follows.kind_next kept] at isName
  -- the value is the name alone, but what would separate it goes on with a statement
  obtain rfl := halts _ _ _ read isName halting
  have fresh := goesOn_sequence tracks closesBlock_of_settled closes_of_closesBlock more settled
  rw [goesOn_of_endStatement ends fresh] at goesOn
  cases goesOn

omit tracks in
theorem no_names_of_kept (follows : c.Follows sites true d) (kept : c.next.isReturnOf sites = false)
    (other : ¬ namesParam c.next.kind = true) : closureNames d.rest = none := by
  by_contra names
  have isName := (separates_of_closureNames names).1
  rw [follows.kind_next kept] at isName
  exact other isName

omit tracks in
theorem no_names_of_stop (follows : c.Follows sites true d)
    (stops : closesBlock c.next.kind = true) : closureNames d.rest = none := by
  refine no_names_of_kept follows ((settled_braced stops).firm (by decide)) fun isName => ?_
  rcases Bool.or_eq_true_iff.mp isName with isKind | isKind <;>
    rw [beq_iff_eq.mp isKind] at stops <;> cases stops

/-- **Statements do not start like parameters**, also where returns are shed. -/
theorem no_names_of_statements {bound : Nat} {statements : List Statement}
    (yields : (sequence closesBlock inner.statement bound).Yields c statements c')
    (settled : c'.Settled sites .braced) (follows : c.Follows sites true d) :
    closureNames d.rest = none := by
  induction bound generalizing c d statements with
  | zero =>
      obtain ⟨-, rfl⟩ := yields_pure.mp yields
      exact no_names_of_stop follows (closesBlock_of_settled _ settled)
  | succ bound ih =>
      by_cases isSign : c.next.kind = .symbol .semicolon
      · exact no_names_of_kept follows (Token.isReturnOf_of_kind (isSign ▸ nofun)) (isSign ▸ nofun)
      rw [yields_sequence, Cursor.pastSemicolons_eq isSign] at yields
      split at yields
      · next stops => exact no_names_of_stop follows stops
      obtain ⟨first, middle, read, _, ended, ends, rest, more, -⟩ := yields
      obtain ⟨value, -, opens, halts, reads, readsValue⟩ := tracks.returns
      cases isReturn : c.next.isReturnOf sites with
      | false =>
          by_cases isOpen : opensExpr c.next.kind = true
          · obtain ⟨node, readValue, -⟩ := (readsValue _ _ _ isOpen).mp read
            exact no_names_of_value tracks halts isOpen readValue ends more settled follows
          · exact no_names_of_kept follows isReturn fun isName => isOpen (by
              rcases Bool.or_eq_true_iff.mp isName with isKind | isKind <;>
                rw [beq_iff_eq.mp isKind] <;> rfl)
      | true =>
          -- for the other the value comes first, or what is behind the return
          have follows' := follows.shed isReturn
          have read := reads _ _ _ (Token.kind_of_isReturnOf isReturn) read
          unfold ReadsReturn at read
          split at read
          · obtain ⟨rfl, -⟩ := read
            rw [yields_endStatement] at ends
            split at ends
            · next isSign =>
                exact no_names_of_kept follows' (Token.isReturnOf_of_kind (isSign ▸ nofun))
                  (isSign ▸ nofun)
            · obtain ⟨-, rfl⟩ := ends
              exact ih more follows'
          · obtain ⟨node, readValue, -⟩ := read
            exact no_names_of_value tracks halts (opens _ _ _ readValue).1 readValue ends more
              settled follows'

omit tracks in
/-- A name and the token behind it are taken by both. -/
theorem follows_separated (isName : namesParam c.next.kind = true)
    (separates : goesOn c.advance.next.kind = true) :
    (∀ count, c.skip (count + 2) = c.advance.advance.skip count) ∧
      (∀ opens, c.left sites opens =
        c.advance.advance.left sites c.advance.next.kind.opensStatement) ∧
      (∀ opens, c.Counted sites opens →
        c.advance.advance.Counted sites c.advance.next.kind.opensStatement) ∧
      (c.Follows sites false d → d.next.bare = c.next.bare ∧
        d.advance.next.bare = c.advance.next.bare ∧
        c.advance.advance.Follows sites false d.advance.advance) := by
  have kind : c.next.kind = .identifier ∨ c.next.kind = .symbol .underscore := by
    simpa [namesParam] using isName
  have other {kind : TokenKind} (isPart : goesOn kind = true) :
      kind ≠ .endOfFile ∧ kind ≠ .keyword .return_ :=
    ⟨(by rintro rfl; cases isPart), (by rintro rfl; cases isPart)⟩
  obtain ⟨notEnd, noReturn, closed⟩ : c.next.kind ≠ .endOfFile ∧ c.next.kind ≠ .keyword .return_ ∧
      c.next.kind.opensStatement = false := by
    rcases kind with kind | kind <;> rw [kind] <;> exact ⟨by decide, by decide, rfl⟩
  obtain ⟨notEnd', noReturn'⟩ := other separates
  refine ⟨fun count => ?_, fun opens => ?_, fun opens counted => ?_, fun follows => ?_⟩
  · rw [Cursor.skip_succ notEnd, Cursor.skip_succ notEnd']
  · rw [Cursor.left_advance notEnd noReturn, Cursor.left_advance notEnd' noReturn']
  · exact (counted.advance notEnd).advance notEnd'
  · have kept := @Token.isReturnOf_of_kind sites _ noReturn
    have kept' := @Token.isReturnOf_of_kind sites _ noReturn'
    have behind := follows.advance kept notEnd
    exact ⟨follows.bare_next kept, behind.bare_next kept', behind.advance kept' notEnd'⟩

omit tracks in
/-- **Parameters are the same for both.** -/
theorem follows_closureNames {names : List Token} (isList : closureNames c.rest = some names) :
    (∀ opens, (c.skip (2 * names.length)).left sites true = c.left sites opens) ∧
      (∀ opens, c.Counted sites opens → (c.skip (2 * names.length)).Counted sites true) ∧
      (c.Follows sites false d → ∃ others, closureNames d.rest = some others ∧
        others.map (·.text) = names.map (·.text) ∧
        (c.skip (2 * names.length)).Follows sites false (d.skip (2 * others.length))) := by
  -- on the number of names, a name and what separates it at a time
  induction size : names.length using Nat.strongRecOn generalizing c d names with | ind _ ih => ?_
  subst size
  obtain ⟨isName, -, separates⟩ := separates_of_closureNames (by rw [isList]; nofun)
  obtain ⟨skips, left, counts, pairs⟩ := @follows_separated sites c d isName separates
  rw [closureNames_rest, if_pos isName] at isList
  have again {other : Cursor} (same : other.next.bare = c.next.bare) :
      other.next.text = c.next.text ∧ namesParam other.next.kind = true :=
    ⟨text_eq_of_bare same, by rwa [kind_eq_of_bare same]⟩
  split at isList
  · next isIn =>
      obtain rfl := Option.some.inj isList
      rw [show 2 * [c.next].length = 0 + 2 from rfl, skips, Cursor.skip_zero]
      rw [isIn] at left counts
      refine ⟨fun opens => (left opens).symm, counts, fun follows => ?_⟩
      obtain ⟨same, sameIn, behind⟩ := pairs follows
      obtain ⟨text, isName'⟩ := again same
      have isIn' := (kind_eq_of_bare sameIn).trans isIn
      refine ⟨[d.next], ?_, congrArg (· :: []) text, ?_⟩
      · rw [closureNames_rest, if_pos isName', if_pos isIn']
      · rwa [show 2 * [d.next].length = 0 + 2 from rfl,
          (@follows_separated sites d d isName' (isIn' ▸ rfl)).1, Cursor.skip_zero]
  · split at isList
    · next noIn isComma =>
        obtain ⟨more, isMore, rfl⟩ := Option.map_eq_some_iff.mp isList
        obtain ⟨leftMore, countsMore, follow⟩ :=
          @ih _ (Nat.lt_succ_self _) _ d.advance.advance _ isMore rfl
        rw [List.length_cons, Nat.mul_succ, skips]
        refine ⟨fun opens => (leftMore _).trans (left opens).symm,
          fun opens counted => countsMore _ (counts opens counted), fun follows => ?_⟩
        obtain ⟨same, sameComma, behind⟩ := pairs follows
        obtain ⟨text, isName'⟩ := again same
        have isComma' := (kind_eq_of_bare sameComma).trans isComma
        obtain ⟨others, isOthers, sameTexts, last⟩ := follow behind
        refine ⟨d.next :: others, ?_, congrArg₂ List.cons text sameTexts, ?_⟩
        · rw [closureNames_rest, if_pos isName', if_neg (isComma' ▸ nofun), if_pos isComma',
            isOthers]
          rfl
        · rwa [List.length_cons, Nat.mul_succ,
            (@follows_separated sites d d isName' (isComma' ▸ rfl)).1]
    · cases isList

omit tracks in
theorem lasts_closure {span span' : Span} {names names' : List Name} {body body' : List Statement}
    (sameNames : names'.map (·.text) = names.map (·.text)) (same : Lasts sites body body') :
    Lasts sites (Closure.mk span names ⟨span, body⟩) ⟨span', names', ⟨span', body'⟩⟩ := by
  show Closure.rebuild .plain _ = Closure.rebuild .plain (Closure.without _ _)
  rw [Closure.without, Closure.rebuild, Closure.rebuild]
  congr 1
  · have bare (names : List Name) :
        names.map (·.bare) = (names.map (·.text)).map (Name.mk (.point 0)) := by
      rw [List.map_map]
      rfl
    rw [bare, bare, sameNames]
  · exact lasts_block same

omit tracks in
theorem worth_closure {span : Span} {names : List Name} {body : Block} :
    worth sites (Closure.mk span names body) = worth sites body := by
  show Node.tallies sites [_] = Node.tallies sites [_]
  rw [Node.tallies_cons, Node.tallies_cons, Node.tally_closure]

omit tracks in
/-- The statements of a closure with parameters, and the brace behind them. -/
def closureBody (inner : Inner) (start : Nat) (names : List Name) : Parser Closure := do
  let body ← statements inner (· == .symbol .braceClose)
  let _ ← expectSymbol .braceClose
  let span ← spanFrom start
  return ⟨span, names, ⟨span, body⟩⟩

theorem tracks_closureBody {start start' : Nat} {names names' : List Name}
    (sameNames : names'.map (·.text) = names.map (·.text)) :
    TracksAt sites ⟨false, true, .anywhere⟩ (fun _ => .behind g) 0 c d
      (closureBody inner start names) (closureBody inner start' names') := by
  refine .bind (tracks_body tracks) fun body body' c d same =>
    .bind (tracks_braceClose (g := g) fun _ => .inl) fun _ _ c d _ =>
      .looks (fun _ => rfl) (fun _ => rfl) (.pure ?_ (lasts_closure sameNames same) (.refl _))
  rw [worth_closure, worth_block]
  omega

/-- The parameters of a closure and the rest of it. -/
theorem tracks_closureRest {start start' : Nat} :
    TracksAt sites ⟨false, true, .anywhere⟩ (fun _ => .behind g) 0 c d
      (closureParams >>= closureBody inner start) (closureParams >>= closureBody inner start') := by
  cases names : closureNames c.rest with
  | none =>
      -- without parameters here, the other must not find any where a return was shed
      have yieldsNone {c c' : Cursor} {start : Nat} {node : Closure}
          (none : closureNames c.rest = none) :
          (closureParams >>= closureBody inner start).Yields c node c' ↔
            (closureBody inner start []).Yields c node c' := by
        simp [yields_bind, yields_closureParams, none, and_assoc]
      refine ((tracks_closureBody tracks rfl).congr fun node c' => (yieldsNone names).mp).revise
        fun node c' yields _ _ follows other d' => (yieldsNone ?_).mpr
      obtain ⟨body, last, read, closing⟩ := yields_bind.mp ((yieldsNone names).mp yields)
      obtain ⟨_, _, brace, -⟩ := yields_bind.mp closing
      have settled : last.Settled sites .braced := Or.inl (yields_expectSymbol.mp brace).1
      exact no_names_of_statements tracks read settled (follows.weaken fun _ => rfl)
  | some tokens =>
      obtain ⟨left, counts, follow⟩ := @follows_closureNames sites c d tokens names
      intro node c' yields
      obtain ⟨params, middle, read, rest⟩ := yields_bind.mp yields
      rw [yields_closureParams, names] at read
      obtain ⟨rfl, rfl⟩ := read
      have body (d : Cursor) {names' : List Name} (same : names'.map (·.text) = _) :=
        (show TracksAt sites ⟨false, true, .anywhere⟩ (fun _ => .behind g) 0 _ d
            (closureBody inner start _) (closureBody inner start' names') from
          tracks_closureBody tracks same) rest
      obtain ⟨pays, -⟩ := body d rfl
      dsimp only at pays ⊢
      rw [left true] at pays
      refine ⟨pays, fun same counted => ?_⟩
      have onward (d : Cursor) {names' : List Name} (sameNames : names'.map (·.text) = _) :=
        (body d sameNames).2 (by dsimp only; rw [left true]; exact same) (counts _ counted)
      refine ⟨(onward d rfl).1, fun settled => ⟨trivial, fun follows => ?_⟩⟩
      obtain ⟨others, isOthers, texts, follows'⟩ := follow follows
      have sameNames : (others.map fun token => (⟨token.span, token.text⟩ : Name)).map (·.text) =
          (tokens.map fun token => (⟨token.span, token.text⟩ : Name)).map (·.text) := by
        rw [List.map_map, List.map_map]
        exact texts
      obtain ⟨other, d', readRest, result⟩ := ((onward _ sameNames).2 settled).2 follows'
      refine ⟨other, d', yields_bind.mpr ⟨_, _, ?_, readRest⟩, result⟩
      rw [yields_closureParams, isOthers]
      exact ⟨rfl, rfl⟩

/-- **A closure** with its parameters and its statements. -/
theorem tracks_closure : TracksAt sites (.start .signed) (fun _ => .behind g) 0 c d
    (closure inner) (closure inner) :=
  .bind (tracks_expect (o := true) (g := .anywhere) rfl fun _ => rfl) fun _ _ _ _ _ =>
    (tracks_closureRest tracks).prior (.refl _)

end Parser

/-! ### Expressions -/

theorem worth_expr (expr : Expr) : worth sites expr = Node.tallies sites (Node.ofExpr expr) := by
  show Node.tallies sites [_] = _
  rw [Node.tallies_cons, Node.tally_expression]
  rfl

theorem worth_argument {span : Span} {label : Option Name} {value : Expr} :
    worth sites (Argument.mk span label value) = worth sites value := by
  show Node.tallies sites [_] = Node.tallies sites [_]
  rw [Node.tallies_cons, Node.tallies_cons, Node.tally_argument, Node.tally_expression]

theorem worth_arguments (args : List Argument) :
    worth sites args = Node.tallies sites (args.map .argument) :=
  (tallies_map (fun _ => rfl) args).symm

theorem worth_elements (args : List Argument) :
    Node.tallies sites ((args.map (·.value)).map .expression) = worth sites args := by
  rw [List.map_map]
  refine @tallies_map sites _ _ (Node.expression ∘ Argument.value) (fun argument => ?_) args
  obtain ⟨span, label, value⟩ := argument
  rw [worth_argument]
  rfl

theorem lasts_expr {expr other : Expr} : Lasts sites expr other ↔
    other.rebuild .plain = (expr.without (sites.map ReturnSite.keyword)).rebuild .plain :=
  .rfl

theorem lasts_argument {argument other : Argument} : Lasts sites argument other ↔
    other.rebuild .plain = (argument.without (sites.map ReturnSite.keyword)).rebuild .plain :=
  .rfl

theorem lasts_arguments {args others : List Argument} : Lasts sites args others ↔
    others.map (·.rebuild .plain) =
      (args.map (·.without (sites.map ReturnSite.keyword))).map (·.rebuild .plain) :=
  .rfl

namespace Parser

variable {inner : Inner} {c c' d : Cursor} {g : Ground} {region : Region}
  (tracks : inner.Tracks sites)
include tracks

/-! ### Arguments -/

omit tracks in
/-- A value and what makes an argument of it. -/
def argumentValue (inner : Inner) (start : Nat) (label : Option Name) : Parser Argument := do
  let value ← inner.expression .delimited
  return ⟨← spanFrom start, label, value⟩

theorem tracks_argumentValue (start start' : Nat) {label label' : Option Name}
    (same : label'.map (·.bare) = label.map (·.bare)) :
    TracksAt sites (.behind .firm) (fun _ => .behind .firm) 0 c d
      (argumentValue inner start label) (argumentValue inner start' label') := by
  refine ((tracks.expression .delimited c d).prior (by decide)).bind
    fun value value' _ _ lasts => .spanned (fun span => ?_) (fun span span' => ?_) fun _ => .refl _
  · rw [worth_argument]
    omega
  · rw [lasts_argument, Argument.without, Argument.rebuild, Argument.rebuild, same,
      lasts_expr.mp lasts]

/-- Where the other finds a label there is one: a return that is shed behind the name would be
behind the whole value. -/
theorem named_of_follows {start : Nat} {label : Option Name} {node : Argument}
    (yields : (argumentValue inner start label).Yields c node c')
    (settled : c'.Settled sites .firm) (before : c.Settled sites .firm)
    (follows : c.Follows sites false d)
    (named : d.next.kind = .identifier ∧ d.advance.next.kind = .symbol .colon) :
    c.next.kind = .identifier ∧ c.advance.next.kind = .symbol .colon := by
  obtain ⟨isName, isColon⟩ := named
  rw [follows.kind_next before] at isName
  refine ⟨isName, ?_⟩
  cases isReturn : c.advance.next.isReturnOf sites with
  | false =>
      rw [← (follows.advance before (isName.trans_ne (by decide))).kind_next isReturn, isColon]
  | true =>
      exfalso
      -- the value would be the name alone, and no return may follow an argument
      obtain ⟨value, middle, readValue, rest⟩ := yields_bind.mp yields
      obtain ⟨span, last, spanned, made⟩ := yields_bind.mp rest
      obtain ⟨-, rfl⟩ := yields_spanFrom.mp spanned
      obtain ⟨-, rfl⟩ := yields_pure.mp made
      obtain rfl := tracks.expressionHalts readValue (by rw [isName]; rfl)
        (by rw [Token.kind_of_isReturnOf isReturn]; rfl)
      have kept : c.advance.next.isReturnOf sites = false := settled
      rw [kept] at isReturn
      cases isReturn

theorem tracks_argument : TracksAt sites (.behind .firm) (fun _ => .behind .firm) 0 c d
    (argument inner) (argument inner) := by
  have labels {c : Cursor} :
      (c.next.kind == .identifier && c.second.kind == .symbol .colon) = true ↔
      c.next.kind = .identifier ∧ c.advance.next.kind = .symbol .colon := by
    rw [Bool.and_eq_true, beq_iff_eq, beq_iff_eq]
    exact and_congr_right fun isName =>
      Cursor.second_kind_iff (isName ▸ nofun) (isName ▸ nofun) nofun
  refine .here (.looks (fun _ => rfl) (fun _ => rfl) ?_)
  by_cases label : (c.next.kind == .identifier && c.second.kind == .symbol .colon) = true
  · rw [if_pos label]
    have named : TracksAt sites (.behind .firm) (fun _ => .behind .firm) 0 c d
        (identifier >>= fun label => expectSymbol .colon >>= fun _ =>
          argumentValue inner c.next.span.start (some label))
        (identifier >>= fun label => expectSymbol .colon >>= fun _ =>
          argumentValue inner d.next.span.start (some label)) :=
      .bind (tracks_identifier (g := .firm)) fun label label' _ _ same =>
        .bind (tracks_expectSymbol (g := .firm) .colon rfl) fun _ _ _ _ _ =>
          have sameLabel : (some label').map (·.bare) = (some label).map (·.bare) :=
            congrArg some same
          (tracks_argumentValue tracks _ _ sameLabel).prior (.refl _)
    refine (named.congr fun node c' yields => ?_).revise fun _ _ _ _ _ _ other d' read => ?_
    · obtain ⟨label, middle, isName, rest⟩ := yields_bind.mp yields
      obtain ⟨_, _, colon, value⟩ := yields_bind.mp rest
      obtain ⟨-, rfl⟩ := yields_take.mp colon
      have isColon := (labels.mp (by assumption)).2
      obtain ⟨-, -, rfl⟩ := yields_identifier.mp isName
      exact yields_bind.mpr ⟨_, _, isName, yields_bind.mpr
        ⟨_, _, yields_expectSymbol.mpr ⟨isColon, rfl, rfl⟩, value⟩⟩
    · obtain ⟨label', middle, isName, rest⟩ := yields_bind.mp read
      obtain ⟨_, _, colon, value⟩ := yields_bind.mp rest
      obtain ⟨isColon, -, rfl⟩ := yields_expectSymbol.mp colon
      obtain ⟨nameNext, -, rfl⟩ := yields_identifier.mp isName
      rw [if_pos (labels.mpr ⟨nameNext, isColon⟩)]
      exact yields_bind.mpr
        ⟨_, _, isName, yields_bind.mpr ⟨_, _, yields_take.mpr ⟨rfl, rfl⟩, value⟩⟩
  · rw [if_neg label]
    refine (tracks_argumentValue tracks c.next.span.start d.next.span.start rfl).revise
      fun node c' yields settled before follows other d' read => ?_
    rwa [if_neg fun labelled => label (labels.mpr
      (named_of_follows tracks yields settled before follows (labels.mp labelled)))]

theorem tracks_arguments {opening closing : Symbol}
    (opens : (TokenKind.symbol opening).isFirm = true)
    (closes : (TokenKind.symbol closing).isFirm = true) :
    TracksAt sites (.start .signed) (fun _ => .behind g) 0 c d
      (arguments inner opening closing) (arguments inner opening closing) :=
  .bind (tracks_expectSymbol (g := .firm) opening opens) fun _ _ _ _ _ =>
    (tracks_closedBy (by decide) closes (fun _ _ => tracks_argument tracks) _).prior (.refl _)

/-! ### Operands -/

omit tracks in
/-- A token that is an operand. -/
theorem tracks_leaf {make make' : Span → Expr} (firm : c.next.kind.isFirm = true)
    (start start' : Nat) (free : ∀ span, Node.ofExpr (make span) = [])
    (same : ∀ span span', Lasts sites (make span) (make' span')) :
    TracksAt sites (.start .signed) (fun _ => .behind g) 0 c d
      (do let _ ← take; return make (← spanFrom start))
      (do let _ ← take; return make' (← spanFrom start')) :=
  .bind (tracks_take (g := g) firm) fun _ _ _ _ _ => .spanned
    (fun span => by rw [worth_expr, free]; exact Nat.zero_le _) same fun _ => .refl _

omit tracks in
/-- A dot and a name. -/
theorem tracks_implicitMember {start start' : Nat} (isDot : c.next.kind = .symbol .dot) :
    TracksAt sites (.start .signed) (fun _ => .behind g) 0 c d
      (do
        let _ ← take
        let name ← identifier
        return Expr.implicitMember (← spanFrom start) name)
      (do
        let _ ← take
        let name ← identifier
        return Expr.implicitMember (← spanFrom start') name) := by
  have named (c d : Cursor) : TracksAt sites (.behind .signed) (fun _ => .behind g) 0 c d
      (do let name ← identifier; return Expr.implicitMember (← spanFrom start) name)
      (do let name ← identifier; return Expr.implicitMember (← spanFrom start') name) :=
    .bind (tracks_identifier (g := g)) fun name name' _ _ same => .spanned
      (fun _ => by
        rw [worth_expr, Node.ofExpr, Node.tallies_cons, Node.tally_name]
        exact Nat.zero_le _)
      (fun _ _ => congrArg (Expr.implicitMember (.point 0)) same) fun _ => .refl _
  intro node c' yields
  obtain ⟨_, _, taken, rest⟩ := yields_bind.mp yields
  obtain ⟨-, rfl⟩ := yields_take.mp taken
  obtain ⟨_, _, isName, -⟩ := yields_bind.mp rest
  have kindName := (yields_identifier.mp isName).1
  have signed : c.Settled sites .signed := ⟨
    Token.isReturnOf_of_kind (isDot.trans_ne (by decide)),
    fun _ => Token.isReturnOf_of_kind (kindName.trans_ne (by decide))⟩
  refine TracksAt.afterTake (o := false) (isDot.trans_ne (by decide)) signed.1 signed
    (fun no => absurd no Bool.false_ne_true) (named c.advance d.advance)
    (fun node c' yields => ?_) (fun _ node d' read => ?_) yields
  · obtain ⟨_, _, taken, rest⟩ := yields_bind.mp yields
    obtain ⟨-, rfl⟩ := yields_take.mp taken
    exact rest
  · exact yields_bind.mpr ⟨_, _, yields_take.mpr ⟨rfl, rfl⟩, read⟩

omit tracks in
theorem lasts_values {args others : List Argument} (same : Lasts sites args others) :
    (others.map (·.value)).map (·.rebuild .plain) =
      ((args.map (·.value)).map (·.without (sites.map ReturnSite.keyword))).map
        (·.rebuild .plain) := by
  have rebuilt (argument : Argument) :
      (argument.rebuild .plain).value = argument.value.rebuild .plain := by
    cases argument; rfl
  have without (argument : Argument) :
      (argument.without (sites.map ReturnSite.keyword)).value =
        argument.value.without (sites.map ReturnSite.keyword) := by
    cases argument; rfl
  have values := congrArg (List.map (·.value)) (lasts_arguments.mp same)
  simpa [Function.comp_def, rebuilt, without] using values

omit tracks in
theorem worth_parenthesized {span : Span} {elements : List Argument} :
    worth sites (parenthesized span elements) = worth sites elements := by
  unfold parenthesized
  split
  · rw [worth_cons, worth_argument, worth_expr]
    rfl
  · rw [worth_expr, worth_arguments]
    rfl

omit tracks in
theorem lasts_parenthesized {span span' : Span} {elements elements' : List Argument}
    (same : Lasts sites elements elements') :
    Lasts sites (parenthesized span elements) (parenthesized span' elements') := by
  have tuple : Lasts sites (Expr.tuple span elements) (Expr.tuple span' elements') := by
    rw [lasts_expr, Expr.without, Expr.rebuild, Expr.rebuild, Argument.withoutAll_eq_map,
      Argument.rebuilds_eq_map, Argument.rebuilds_eq_map, lasts_arguments.mp same]
  have same := lasts_arguments.mp same
  rcases elements with - | ⟨⟨place, label, value⟩, - | ⟨second, rest⟩⟩ <;>
    rcases elements' with - | ⟨⟨place', label', value'⟩, - | ⟨second', rest'⟩⟩ <;>
    first | exact tuple | cases same | (cases (List.cons.inj same).2; done) |
      (cases label <;> cases label' <;> exact tuple) | skip
  have same := (List.cons.inj same).1
  simp only [Argument.without, Argument.rebuild, Argument.mk.injEq, true_and] at same
  cases label with
  | none =>
      cases label' with
      | none => exact congrArg (Expr.paren (.point 0)) same.2
      | some name => cases same.1
  | some name =>
      cases label' with
      | none => cases same.1
      | some name' => exact tuple

theorem tracks_primary : TracksAt sites (.start .signed) (fun _ => .behind g) 0 c d
    (primary inner) (primary inner) := by
  refine .here (.peek (by decide) fun token same => ?_)
  rw [kind_eq_of_bare same, text_eq_of_bare same]
  split
  case h_1 isNext =>
    refine .bind (tracks_take (g := g) (isNext ▸ rfl)) fun _ _ c d _ => ?_
    refine .ite (fun _ _ => .rfl) (fun _ => ?_) fun _ => .fails fun _ _ => not_yields_throw
    exact .spanned (fun span => by rw [worth_expr]; exact Nat.zero_le _) (fun _ _ => rfl)
      fun _ => .refl _
  case h_2 isNext | h_3 isNext | h_4 isNext | h_5 isNext | h_6 isNext | h_7 isNext | h_8 isNext
      | h_9 isNext =>
    exact tracks_leaf (isNext ▸ rfl) _ _ (fun _ => rfl) fun _ _ => rfl
  case h_10 isNext => exact tracks_implicitMember isNext
  case h_11 isNext =>
    refine .bind (tracks_arguments (g := g) tracks rfl rfl) fun elements elements' c' d' same => ?_
    rw [Nat.zero_add]
    have made := @TracksAt.spanned sites _ _ (.behind g) (fun _ => .behind g) _ c' d'
      c.next.span.start d.next.span.start (fun span => parenthesized span elements)
      (fun span => parenthesized span elements') (fun _ => worth_parenthesized.le)
      (fun _ _ => lasts_parenthesized same) fun _ => .refl _
    refine (made.congr fun _ _ => ?_).revise fun _ _ _ _ _ _ _ _ => ?_
    · unfold parenthesized
      split <;> simp
    · unfold parenthesized
      split <;> simp
  case h_12 isNext =>
    refine .bind (tracks_arguments (g := g) tracks rfl rfl) fun elements elements' _ _ same =>
      .spanned (fun span => ?_) (fun span span' => ?_) fun _ => .refl _
    · rw [worth_expr, Node.ofExpr, worth_elements]
      omega
    · rw [lasts_expr, Expr.without, Expr.rebuild, Expr.rebuild, Expr.withoutAll_eq_map,
        Expr.rebuilds_eq_map, Expr.rebuilds_eq_map, lasts_values same]
  case h_13 =>
    refine .bind (tracks_closure (g := g) tracks) fun node node' _ _ same => .pure ?_ ?_ (.refl _)
    · rw [worth_expr]
      exact Nat.le_add_left _ _
    · exact congrArg Expr.closure same
  case h_14 => exact .fails fun _ _ => not_yields_unexpected

/-! ### What goes on an operand -/

theorem tracks_trailingClosure? :
    TracksAt sites (.behind region.ground) (fun _ => .behind region.ground) 0 c d
      (trailingClosure? inner region) (trailingClosure? inner region) := by
  refine .looks (fun _ => rfl) (fun _ => rfl) (.looks (fun _ => rfl) (fun _ => rfl) ?_)
  refine .ite (fun settled follows => ?_) (fun opens => ?_)
    fun _ => .pure (Nat.zero_le _) .none (.refl _)
  · have same := @Cursor.Follows.goesOn_iff sites c d region (.symbol .braceOpen) follows
      settled nofun
    simp only [Bool.and_eq_true, beq_iff_eq, Bool.not_eq_true']
    rw [and_right_comm, @and_right_comm (c.next.kind = _)]
    exact and_congr_left fun _ => same
  · exact ((tracks_closure (g := region.ground) tracks).prior (Footing.covers_start _)).bind
      fun node node' _ _ same => .pure (by rw [worth_some]; omega) same.some (.refl _)

omit tracks in
/-- Whether something goes on an operand. -/
def continuesOperand (region : Region) (c : Cursor) : Prop :=
  match c.next.kind with
  | .symbol .parenOpen | .symbol .bracketOpen | .symbol .dot => c.breaks region = false
  | .symbol .braceOpen => c.breaks region = false ∧ region.allowsTrailing = true
  | .symbol .attachedQuestion | .symbol .attachedBang => True
  | _ => False

omit tracks in
/-- An operand with what goes on it at a token of a kind. -/
def longerOperand (inner : Inner) (region : Region) (start : Nat) (operand : Expr) :
    TokenKind → Parser Expr
  | .symbol .parenOpen => do
      let args ← arguments inner .parenOpen .parenClose
      let trailing ← trailingClosure? inner region
      return .call (← spanFrom start) operand args trailing
  | .symbol .braceOpen => do
      let trailing ← trailingClosure? inner region
      return .call (← spanFrom start) operand [] trailing
  | .symbol .bracketOpen => do
      let args ← arguments inner .bracketOpen .bracketClose
      return .subscript (← spanFrom start) operand args
  | .symbol .dot => do
      let _ ← take
      let name ← memberName
      return .member (← spanFrom start) operand name
  | .symbol .attachedQuestion => do
      let _ ← take
      return .postfixed (← spanFrom start) operand .optional
  | .symbol .attachedBang => do
      let _ ← take
      return .postfixed (← spanFrom start) operand .force
  | _ => return operand

omit tracks in
theorem yields_postfixStep_of_continues {start : Nat} {operand : Expr} {longer? : Option Expr}
    (continues : continuesOperand region c) :
    (postfixStep inner region start operand).Yields c longer? c' ↔ ∃ longer,
      (longerOperand inner region start operand c.next.kind).Yields c longer c' ∧
        longer? = some longer := by
  rw [yields_postfixStep]
  unfold continuesOperand at continues
  split at continues
  case h_7 => exact continues.elim
  all_goals
    next isNext => simp [isNext, longerOperand, continues, and_assoc]

omit tracks in
theorem yields_postfixStep_of_ends {start : Nat} {operand : Expr} {longer? : Option Expr}
    (ends : ¬ continuesOperand region c) :
    (postfixStep inner region start operand).Yields c longer? c' ↔ longer? = none ∧ c' = c := by
  rw [yields_postfixStep]
  unfold continuesOperand at ends
  split <;> (next isNext => simp_all)

omit tracks in
theorem continuesOperand_iff_or : continuesOperand region c ↔
    (c.next.kind = .symbol .parenOpen ∧ c.breaks region = false) ∨
      (c.next.kind = .symbol .bracketOpen ∧ c.breaks region = false) ∨
      (c.next.kind = .symbol .dot ∧ c.breaks region = false) ∨
      (c.next.kind = .symbol .braceOpen ∧ c.breaks region = false ∧ region.allowsTrailing = true) ∨
      c.next.kind = .symbol .attachedQuestion ∨ c.next.kind = .symbol .attachedBang := by
  unfold continuesOperand
  split <;> simp_all

omit tracks in
/-- **Whether something goes on an operand** is the same for both. -/
theorem continuesOperand_iff (settled : c.Settled sites region.ground)
    (follows : c.Follows sites false d) :
    (continuesOperand region d ↔ continuesOperand region c) ∧
      (continuesOperand region c → d.next.kind = c.next.kind) := by
  have goesOn {kind : TokenKind} := @Cursor.Follows.goesOn_iff sites c d region kind follows settled
  have marks {kind : TokenKind} (isPart : Syntax.goesOn kind = true)
      (other : kind ≠ .keyword .return_) :
      d.next.kind = kind ↔ c.next.kind = kind :=
    follows.isNext_iff settled (.inr ⟨region.loose_le_ground, isPart⟩) other
  constructor
  · simp only [continuesOperand_iff_or, ← and_assoc]
    exact or_congr (goesOn nofun) (or_congr (goesOn nofun) (or_congr (goesOn nofun)
      (or_congr (and_congr_left fun _ => goesOn nofun)
        (or_congr (marks rfl nofun) (marks rfl nofun)))))
  · intro continues
    refine follows.kind_next (Token.isReturnOf_of_kind fun isReturn => ?_)
    rw [continuesOperand, isReturn] at continues
    exact continues

omit tracks in
theorem lasts_call {span span' : Span} {callee callee' : Expr} {args args' : List Argument}
    {trailing trailing' : Option Closure} (sameCallee : Lasts sites callee callee')
    (sameArgs : Lasts sites args args') (sameTrailing : Lasts sites trailing trailing') :
    Lasts sites (Expr.call span callee args trailing)
      (Expr.call span' callee' args' trailing') := by
  have sameTrailing : trailing'.map (·.rebuild .plain) =
      (trailing.map (·.without (sites.map ReturnSite.keyword))).map (·.rebuild .plain) :=
    sameTrailing
  simp only [lasts_expr, Expr.without, Expr.rebuild, Argument.withoutAll_eq_map,
    Argument.rebuilds_eq_map, Closure.withoutOption_eq_map, Closure.rebuildOption_eq_map]
    at sameCallee ⊢
  rw [sameCallee, lasts_arguments.mp sameArgs, sameTrailing]

omit tracks in
theorem worth_call {span : Span} {callee : Expr} {args : List Argument}
    {trailing : Option Closure} : worth sites (Expr.call span callee args trailing) =
      worth sites callee + worth sites args + worth sites trailing := by
  rw [worth_expr, Node.ofExpr, worth_arguments, List.cons_append, Node.tallies_cons,
    Node.tallies_append]
  cases trailing with
  | none => rfl
  | some closure =>
      rw [worth_some]
      show _ + (_ + (Node.tally sites (.closure closure) + 0)) =
        _ + _ + (Node.tally sites (.closure closure) + 0)
      rw [← Nat.add_assoc]
      rfl

omit tracks in
/-- A sign behind an operand. -/
theorem tracks_postfixed {start start' : Nat} {operand operand' : Expr} (op : PostfixOp)
    (firm : c.next.kind.isFirm = true) (same : Lasts sites operand operand') :
    TracksAt sites (.behind region.ground) (fun _ => .behind region.ground)
      (worth sites operand) c d
      (do let _ ← take; return Expr.postfixed (← spanFrom start) operand op)
      (do let _ ← take; return Expr.postfixed (← spanFrom start') operand' op) := by
  refine .bind (tracks_take (g := region.ground) firm) fun _ _ _ _ _ =>
    .spanned (fun span => ?_) (fun _ _ => ?_) fun _ => .refl _
  · rw [worth_expr]
    exact Nat.le_add_right _ _
  · exact congrArg (Expr.postfixed (.point 0) · op) same

/-- **What goes on an operand is tracked.** -/
theorem tracks_longerOperand {start start' : Nat} {operand operand' : Expr} {kind : TokenKind}
    (isNext : c.next.kind = kind) (same : Lasts sites operand operand') :
    TracksAt sites (.behind region.ground) (fun _ => .behind region.ground)
      (worth sites operand) c d
      (longerOperand inner region start operand kind)
      (longerOperand inner region start' operand' kind) := by
  have args (opening closing : Symbol) (opens : (TokenKind.symbol opening).isFirm = true)
      (closes : (TokenKind.symbol closing).isFirm = true) :
      TracksAt sites (.behind region.ground) (fun _ => .behind region.ground) 0 c d
        (arguments inner opening closing) (arguments inner opening closing) :=
    (tracks_arguments (g := region.ground) tracks opens closes).prior (Footing.covers_start _)
  unfold longerOperand
  split
  · refine .bind (args _ _ rfl rfl) fun args args' _ _ sameArgs =>
      .bind (tracks_trailingClosure? tracks) fun trailing trailing' _ _ sameTrailing =>
        .spanned (fun span => ?_) (fun _ _ => lasts_call same sameArgs sameTrailing)
          fun _ => .refl _
    rw [worth_call]
  · refine .bind (tracks_trailingClosure? tracks) fun trailing trailing' _ _ sameTrailing =>
      .spanned (fun span => ?_) (fun _ _ => lasts_call same .nil sameTrailing) fun _ => .refl _
    rw [worth_call, worth_nil, Nat.add_zero]
  · refine .bind (args _ _ rfl rfl) fun args args' _ _ sameArgs =>
      .spanned (fun span => ?_) (fun _ _ => ?_) fun _ => .refl _
    · rw [worth_expr, Node.ofExpr, Node.tallies_cons, worth_arguments]
      exact Nat.le_refl _
    · have same := lasts_expr.mp same
      rw [lasts_expr, Expr.without, Expr.rebuild, Expr.rebuild, Argument.withoutAll_eq_map,
        Argument.rebuilds_eq_map, Argument.rebuilds_eq_map, lasts_arguments.mp sameArgs, same]
  · have kept : c.Settled sites .firm :=
      Token.isReturnOf_of_kind (isNext.trans_ne (by decide))
    refine .bind (tracks_takeSettled (g := .firm) (isNext.trans_ne (by decide)) kept
      (kept.mono region.ground_le_firm)) fun _ _ _ _ _ =>
        .bind (tracks_memberName (g := region.ground)) fun name name' _ _ sameName =>
          .spanned (fun span => ?_) (fun _ _ => ?_) fun _ => .refl _
    · rw [worth_expr, Node.ofExpr, Node.tallies_cons, Node.tallies_cons, Node.tally_name]
      exact Nat.le_refl _
    · exact congrArg₂ (Expr.member (.point 0)) same sameName
  · exact tracks_postfixed .optional (isNext ▸ rfl) same
  · exact tracks_postfixed .force (isNext ▸ rfl) same
  · exact .pure (Nat.le_refl _) same (.refl _)

/-- An operand with everything that goes on it. -/
theorem tracks_postfixChain {start start' : Nat} {operand operand' : Expr} (bound : Nat)
    (same : Lasts sites operand operand') :
    TracksAt sites (.behind region.ground) (fun _ => .behind region.ground)
      (worth sites operand) c d
      (postfixChain inner region start operand bound)
      (postfixChain inner region start' operand' bound) := by
  induction bound generalizing c d operand operand' with
  | zero => exact .pure (Nat.le_refl _) same (.refl _)
  | succ bound ih =>
      by_cases continues : continuesOperand region c
      · have longer : TracksAt sites (.behind region.ground) (fun _ => .behind region.ground)
            (worth sites operand) c d
            (longerOperand inner region start operand c.next.kind >>= fun longer =>
              postfixChain inner region start longer bound)
            (longerOperand inner region start' operand' c.next.kind >>= fun longer =>
              postfixChain inner region start' longer bound) := by
          rw [← Nat.zero_add (worth sites operand)]
          refine (tracks_longerOperand tracks rfl same).bindPaid
            fun longer longer' _ _ sameLonger => ?_
          rw [Nat.zero_add]
          exact ih sameLonger
        refine (longer.congr fun expr c' yields => ?_).revise
          fun _ _ _ _ settled follows other d' read => ?_
        · obtain ⟨longer?, middle, step, rest⟩ := yields_postfixChain.mp yields
          obtain ⟨longer, readLonger, rfl⟩ := (yields_postfixStep_of_continues continues).mp step
          exact yields_bind.mpr ⟨longer, middle, readLonger, rest⟩
        · obtain ⟨sameContinues, sameKind⟩ := continuesOperand_iff settled follows
          obtain ⟨longer, middle, readLonger, rest⟩ := yields_bind.mp read
          rw [← sameKind continues] at readLonger
          exact yields_postfixChain.mpr ⟨some longer, middle,
            (yields_postfixStep_of_continues (sameContinues.mpr continues)).mpr
              ⟨longer, readLonger, rfl⟩, rest⟩
      · refine .idle (fun expr c' yields => ?_) (fun settled follows => ?_) (Nat.le_refl _) same
          (.refl _)
        · obtain ⟨longer?, middle, step, rest⟩ := yields_postfixChain.mp yields
          obtain ⟨rfl, rfl⟩ := (yields_postfixStep_of_ends continues).mp step
          exact rest
        · have ends := mt (continuesOperand_iff settled follows).1.mp continues
          exact yields_postfixChain.mpr ⟨none, d, (yields_postfixStep_of_ends ends).mpr ⟨rfl, rfl⟩,
            rfl, rfl⟩

/-! ### Operators -/

theorem tracks_unary (region : Region) :
    Tracks sites (fun _ => region.ground) (Parser.unary inner region) := by
  intro c d
  refine .here (.peek (by decide) fun token same => ?_)
  rw [kind_eq_of_bare same]
  dsimp only
  split
  case h_1 op isOp =>
    have firm : c.next.kind.isFirm = true := by
      split at isOp <;> first | (next isNext => rw [isNext]; rfl) | cases isOp
    refine .bind (tracks_take (g := .signed) firm) fun _ _ _ _ _ =>
      .bind ((tracks.unary region _ _).prior (by decide)) fun operand operand' _ _ same =>
        .spanned (fun span => ?_) (fun _ _ => ?_) fun _ => .refl _
    · rw [worth_expr]
      exact Nat.le_add_left _ _
    · exact congrArg (Expr.unary (.point 0) op) same
  case h_2 =>
    exact .bind (tracks_primary (g := region.ground) tracks) fun operand operand' _ _ same =>
      (Nat.zero_add (worth sites operand)).symm ▸ tracks_postfixChain tracks inner.bound same

omit tracks in
/-- Whether an operator that binds tightly enough goes on a left operand, and which. -/
def continuesChain (region : Region) (least : Nat) (c : Cursor) (op : BinaryOp) : Prop :=
  binaryOp? c.next.kind = some op ∧ ¬ op.precedence < least ∧ c.breaks region = false

omit tracks in
theorem yields_binaryChain_of_continues {start least bound : Nat} {left expr : Expr} {op : BinaryOp}
    (continues : continuesChain region least c op) :
    (binaryChain inner region start least left (bound + 1)).Yields c expr c' ↔
      ∃ right middle, (inner.binary region (op.precedence + 1)).Yields c.advance right middle ∧
        (binaryChain inner region start least (.binary (middle.spanFrom start) left op right)
          bound).Yields middle expr c' := by
  obtain ⟨isOp, binds, stays⟩ := continues
  rw [yields_binaryChain, isOp]
  dsimp only
  rw [if_neg (not_or.mpr ⟨binds, by rw [stays]; exact Bool.false_ne_true⟩)]

omit tracks in
theorem yields_binaryChain_of_ends {start least bound : Nat} {left expr : Expr}
    (ends : ∀ op, ¬ continuesChain region least c op) :
    (binaryChain inner region start least left (bound + 1)).Yields c expr c' ↔
      expr = left ∧ c' = c := by
  rw [yields_binaryChain]
  cases isOp : binaryOp? c.next.kind with
  | none => rfl
  | some op =>
      dsimp only
      rw [if_pos]
      by_contra goesOn
      rw [not_or, Bool.not_eq_true] at goesOn
      exact ends op ⟨isOp, goesOn⟩

omit tracks in
theorem continuesChain_iff {least : Nat} {op : BinaryOp} (settled : c.Settled sites region.ground)
    (follows : c.Follows sites false d) :
    continuesChain region least d op ↔ continuesChain region least c op := by
  have goesOn (kind : TokenKind) (isOp : binaryOp? kind = some op) :
      (d.next.kind = kind ∧ d.breaks region = false) ↔
        (c.next.kind = kind ∧ c.breaks region = false) :=
    follows.goesOn_iff settled fun isReturn => by rw [isReturn] at isOp; cases isOp
  constructor
  · rintro ⟨isOp, binds, stays⟩
    obtain ⟨kind, stays⟩ := (goesOn _ isOp).mp ⟨rfl, stays⟩
    exact ⟨kind ▸ isOp, binds, stays⟩
  · rintro ⟨isOp, binds, stays⟩
    obtain ⟨kind, stays⟩ := (goesOn _ isOp).mpr ⟨rfl, stays⟩
    exact ⟨kind ▸ isOp, binds, stays⟩

/-- A left operand with the operators behind it. -/
theorem tracks_binaryChain {start start' least : Nat} {left left' : Expr} (bound : Nat)
    (same : Lasts sites left left') :
    TracksAt sites (.behind region.ground) (fun _ => .behind region.ground) (worth sites left) c d
      (binaryChain inner region start least left bound)
      (binaryChain inner region start' least left' bound) := by
  induction bound generalizing c d left left' with
  | zero => exact .pure (Nat.le_refl _) same (.refl _)
  | succ bound ih =>
      by_cases continues : ∃ op, continuesChain region least c op
      · obtain ⟨op, continues⟩ := continues
        -- an operator comes next, which is the same for both
        have firm : c.next.kind.isFirm = true := by
          have isOp := continues.1
          unfold binaryOp? at isOp
          split at isOp <;> first | (next isNext => rw [isNext]; rfl) | cases isOp
        have rest (c d : Cursor) :
            TracksAt sites (.behind region.ground) (fun _ => .behind region.ground)
              (worth sites left) c d
              (inner.binary region (op.precedence + 1) >>= fun right =>
                spanFrom start >>= fun span =>
                  binaryChain inner region start least (.binary span left op right) bound)
              (inner.binary region (op.precedence + 1) >>= fun right =>
                spanFrom start' >>= fun span =>
                  binaryChain inner region start' least (.binary span left' op right) bound) := by
          refine .bind ((tracks.binary region _ c d).prior (Footing.covers_start _))
            fun right right' _ _ sameRight => .looks (fun _ => rfl) (fun _ => rfl) ?_
          have paid (span : Span) : worth sites (Expr.binary span left op right) =
              worth sites left + worth sites right := by rw [worth_expr]; rfl
          rw [← paid]
          exact ih (congrArg₂ (Expr.binary (.point 0) · op ·) same sameRight)
        have taken := TracksAt.bind (tracks_take (s := .behind region.ground)
          (g := region.ground) (c := c) (d := d) firm) fun _ _ c d _ => rest c d
        refine (taken.congr fun expr c' yields => ?_).revise
          fun _ _ _ _ settled follows other d' read => ?_
        · obtain ⟨right, middle, readRight, more⟩ :=
            (yields_binaryChain_of_continues continues).mp yields
          exact yields_bind.mpr ⟨_, _, yields_take.mpr ⟨rfl, rfl⟩, yields_bind.mpr
            ⟨right, middle, readRight, yields_bind.mpr
              ⟨_, _, yields_spanFrom.mpr ⟨rfl, rfl⟩, more⟩⟩⟩
        · obtain ⟨_, _, isTaken, rest⟩ := yields_bind.mp read
          obtain ⟨-, rfl⟩ := yields_take.mp isTaken
          obtain ⟨right, middle, readRight, rest⟩ := yields_bind.mp rest
          obtain ⟨_, _, spanned, more⟩ := yields_bind.mp rest
          obtain ⟨rfl, rfl⟩ := yields_spanFrom.mp spanned
          exact (yields_binaryChain_of_continues
            ((continuesChain_iff settled follows).mpr continues)).mpr ⟨right, _, readRight, more⟩
      · refine .idle (fun expr c' => (yields_binaryChain_of_ends (not_exists.mp continues)).mp)
          (fun settled follows => ?_) (Nat.le_refl _) same (.refl _)
        refine (yields_binaryChain_of_ends fun op goesOn => continues ⟨op, ?_⟩).mpr ⟨rfl, rfl⟩
        exact (continuesChain_iff settled follows).mp goesOn

theorem tracks_binary (region : Region) (least : Nat) :
    Tracks sites (fun _ => region.ground) (Parser.binary inner region least) := by
  intro c d
  refine .here (.bind (tracks_unary tracks region c d) fun left left' _ _ same => ?_)
  exact (Nat.zero_add (worth sites left)).symm ▸ tracks_binaryChain tracks inner.bound same

theorem tracks_ternary (region : Region) :
    Tracks sites (fun _ => region.ground) (Parser.ternary inner region) := by
  intro c d
  refine .here (.bind (tracks_binary tracks region 1 c d) fun condition condition' c d same =>
    .looks (fun _ => rfl) (fun _ => rfl) (.looks (fun _ => rfl) (fun _ => rfl) ?_))
  refine .ite (fun settled follows => ?_)
    (fun _ => .pure (Nat.le_add_left _ _) same (.refl _)) fun goesOn => ?_
  · have goesOn := @Cursor.Follows.goesOn_iff sites c d region (.symbol .question) follows
      settled nofun
    have ends (c : Cursor) : (!(c.next.kind == .symbol .question) ||
        region.breaksLines && c.next.newlineBefore) = true ↔
          ¬ (c.next.kind = .symbol .question ∧ c.breaks region = false) := by
      by_cases isNext : c.next.kind = .symbol .question <;> simp [isNext, Cursor.breaks]
    rw [ends, ends]
    exact not_congr goesOn
  · have isNext : c.next.kind = .symbol .question := by
      by_contra other
      exact goesOn (by simp [other])
    have operand (c d : Cursor) : TracksAt sites (.behind region.ground)
        (fun _ => .behind region.ground) 0 c d (inner.ternary region) (inner.ternary region) :=
      (tracks.ternary region c d).prior (Footing.covers_start _)
    refine .bind (tracks_take (g := region.ground) (isNext ▸ rfl)) fun _ _ _ _ _ =>
      .bind (operand _ _) fun thenValue thenValue' _ _ sameThen =>
        .bind (tracks_expectSymbol (g := region.ground) .colon rfl) fun _ _ _ _ _ =>
          .bind (operand _ _) fun elseValue elseValue' _ _ sameElse =>
            .spanned (fun span => ?_) (fun _ _ => ?_) fun _ => .refl _
    · rw [worth_expr, Node.ofExpr, Node.tallies_cons, Node.tallies_cons, Node.tallies_cons,
        Node.tallies_nil]
      show _ ≤ 0 + (Node.tally sites (.expression condition) + 0) + 0 +
        (Node.tally sites (.expression thenValue) + 0) + 0 +
          (Node.tally sites (.expression elseValue) + 0)
      omega
    · have sameTest := lasts_expr.mp same
      rw [lasts_expr, Expr.without, Expr.rebuild, Expr.rebuild, lasts_expr.mp sameThen,
        lasts_expr.mp sameElse, sameTest]

theorem tracks_expression (region : Region) :
    Tracks sites (fun _ => region.ground) (Parser.expression inner region) := by
  intro c d
  refine .here (.bind (tracks_ternary tracks region c d) fun target target' c d same =>
    .looks (fun _ => rfl) (fun _ => rfl) (.looks (fun _ => rfl) (fun _ => rfl) ?_))
  refine .ite (fun settled follows => ?_) (fun goesOn => ?_)
    fun _ => .pure (Nat.le_add_left _ _) same (.refl _)
  · have goesOn := @Cursor.Follows.goesOn_iff sites c d region (.symbol .assign) follows
      settled nofun
    simp only [Bool.and_eq_true, beq_iff_eq, Bool.not_eq_true']
    exact goesOn
  · have isNext : c.next.kind = .symbol .assign := by simp at goesOn; exact goesOn.1
    refine .bind (tracks_take (g := region.ground) (isNext ▸ rfl)) fun sign sign' _ _ _ =>
      .bind ((tracks.expression region _ _).prior (Footing.covers_start _))
        fun value value' _ _ sameValue => .spanned (fun span => ?_) (fun _ _ => ?_) fun _ => .refl _
    · rw [worth_expr, Node.ofExpr, Node.tallies_cons, Node.tallies_cons, Node.tallies_cons,
        Node.tally_mark, Node.tallies_nil]
      show _ ≤ 0 + (Node.tally sites (.expression target) + 0) + 0 +
        (Node.tally sites (.expression value) + 0)
      omega
    · exact congrArg₂ (Expr.assign (.point 0) · (.point 0) ·) same sameValue

end Parser

end ResultBuilder.Syntax
