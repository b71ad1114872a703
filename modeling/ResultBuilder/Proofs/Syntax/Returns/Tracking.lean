import ResultBuilder.Proofs.Syntax.Returns.Shedding

/-!
# Parsers that read on without some returns

A parser that reads a source in which returns are listed is compared with the same parser where the
returns are shed. What it gives pays for the keywords that it takes, and where it pays for all of
them the other gives the same without the returns. The two stay together as long as the first token
behind what was read is known well enough, which what is read after it decides.

* **`ParserValue`**, **`Lasts`**: what parsers give, and what lasts of it without the returns.
* **`Footing`**: what is known of the place between two tokens.
* **`Parser.TracksAt`**, **`TracksAt.bind`**: a parser and one that tracks it.
-/

namespace ResultBuilder.Syntax

/-! ### Values -/

/-- **What parsers give**: the nodes that are in it, and it without its places and without the
returns of certain keywords. -/
class ParserValue (α : Type) where
  /-- The nodes that a value consists of. -/
  nodes : α → List Node
  /-- The value without its places. -/
  bare : α → α
  /-- The value without the returns of certain keywords. -/
  without : List Span → α → α

namespace ParserValue

/-- A value without nodes that hold returns. -/
abbrev plain {α : Type} (bare : α → α) : ParserValue α :=
  ⟨fun _ => [], bare, fun _ => id⟩

instance : ParserValue Unit := plain id
instance : ParserValue Bool := plain id
instance : ParserValue String := plain id
instance : ParserValue Token := plain Token.bare
instance : ParserValue Name := plain Name.bare
instance : ParserValue Attribute := plain Attribute.bare
instance : ParserValue DeclaredType := plain DeclaredType.bare
instance : ParserValue GenericParam := plain GenericParam.bare
instance : ParserValue Param := plain Param.bare
instance : ParserValue EnumCase := plain EnumCase.bare
instance : ParserValue EnumDecl := plain EnumDecl.bare
instance : ParserValue Pattern := plain Pattern.bare
instance : ParserValue CaseLabel := plain CaseLabel.bare
instance : ParserValue Directive := plain Directive.bare

instance : ParserValue Expr :=
  ⟨fun node => [.expression node], (·.rebuild .plain), fun keywords => (·.without keywords)⟩
instance : ParserValue Argument :=
  ⟨fun node => [.argument node], (·.rebuild .plain), fun keywords => (·.without keywords)⟩
instance : ParserValue Closure :=
  ⟨fun node => [.closure node], (·.rebuild .plain), fun keywords => (·.without keywords)⟩
instance : ParserValue Block :=
  ⟨fun node => [.block node], (·.rebuild .plain), fun keywords => (·.without keywords)⟩
instance : ParserValue Conditional :=
  ⟨fun node => [.statement (.conditional node)], (·.rebuild .plain),
    fun keywords => (·.without keywords)⟩
instance : ParserValue Condition :=
  ⟨fun node => [.condition node], (·.rebuild .plain), fun keywords => (·.without keywords)⟩
instance : ParserValue Alternative :=
  ⟨fun node => [Node.ofAlternative node], (·.rebuild .plain), fun keywords => (·.without keywords)⟩
instance : ParserValue Switch :=
  ⟨fun node => [.statement (.switch node)], (·.rebuild .plain),
    fun keywords => (·.without keywords)⟩
instance : ParserValue SwitchCase :=
  ⟨fun node => [.switchCase node], (·.rebuild .plain), fun keywords => (·.without keywords)⟩
instance : ParserValue Loop :=
  ⟨fun node => [.statement (.loop node)], (·.rebuild .plain), fun keywords => (·.without keywords)⟩
instance : ParserValue Declaration :=
  ⟨fun node => [.declaration node], (·.rebuild .plain), fun keywords => (·.without keywords)⟩
instance : ParserValue VariableDecl :=
  ⟨fun node => [.declaration (.variable node)], (·.rebuild .plain),
    fun keywords => (·.without keywords)⟩
instance : ParserValue FunctionDecl :=
  ⟨fun node => [.declaration (.function node)], (·.rebuild .plain),
    fun keywords => (·.without keywords)⟩
instance : ParserValue TypeDecl :=
  ⟨fun node => [.declaration (.type node)], (·.rebuild .plain),
    fun keywords => (·.without keywords)⟩

/-- A statement that is no return without a value leaves one statement. -/
instance : ParserValue Statement :=
  ⟨fun node => [.block ⟨.point 0, [node]⟩], (·.bare),
    fun keywords node => (node.without keywords).headD node⟩

instance {α : Type} [ParserValue α] : ParserValue (Option α) :=
  ⟨fun value? => value?.toList.flatMap nodes, Option.map bare, fun keywords =>
    Option.map (without keywords)⟩

instance (priority := low) {α : Type} [ParserValue α] : ParserValue (List α) :=
  ⟨fun values => values.flatMap nodes, List.map bare, fun keywords => List.map (without keywords)⟩

/-- Statements that are listed are those of a block. -/
instance : ParserValue (List Statement) :=
  ⟨fun nodes => [.block ⟨.point 0, nodes⟩], List.map (·.bare),
    fun keywords nodes => nodes.flatMap (·.without keywords)⟩

end ParserValue

variable (sites : List ReturnSite) {α β γ : Type} [ParserValue α] [ParserValue β]

/-- **What lasts of a value** when the returns that are listed are shed, wherever it is written. -/
def Lasts (value other : α) : Prop :=
  ParserValue.bare other =
    ParserValue.bare (ParserValue.without (sites.map ReturnSite.keyword) value)

/-- How many of the returns that are listed are in a value. -/
def worth (value : α) : Nat :=
  Node.tallies sites (ParserValue.nodes value)

/-! ### Places -/

/-- How much is known of the next token. -/
inductive Ground where
  /-- Nothing. -/
  | anywhere
  /-- If it is a return that is shed, it starts a line and nothing goes on behind it. -/
  | loose
  /-- It is kept. -/
  | firm
  /-- It is kept, and the one behind it too if it is a dot. -/
  | signed
  /-- A statement ends before it on the same line. -/
  | closed
  /-- It is a closing brace or the end of the file. -/
  | braced
  /-- It is the end of the file. -/
  | ended
  deriving DecidableEq

/-- Grounds by how much is known. -/
def Ground.rank : Ground → Nat
  | .anywhere => 0
  | .loose => 1
  | .firm => 2
  | .signed => 3
  | .closed => 4
  | .braced => 5
  | .ended => 6

/-- The ground of which a little less is known. -/
def Ground.below : Ground → Ground
  | .anywhere | .loose => .anywhere
  | .firm => .loose
  | .signed => .firm
  | .closed => .signed
  | .braced => .closed
  | .ended => .braced

/-- **What is known of the next token.** -/
def Cursor.Settled (c : Cursor) : Ground → Prop
  | .anywhere => True
  | .loose => c.next.isReturnOf sites = true →
      c.next.newlineBefore = true ∧ goesOn (c.keptKind sites) = false
  | .firm => c.next.isReturnOf sites = false
  | .signed => c.next.isReturnOf sites = false ∧
      (c.next.kind = .symbol .dot → c.advance.next.isReturnOf sites = false)
  | .closed => Parser.closesStatement c.next.kind = true
  | .braced => c.next.kind = .symbol .braceClose ∨ c.next.kind = .endOfFile
  | .ended => c.next.kind = .endOfFile

theorem Ground.rank_below (ground : Ground) : ground.below.rank = ground.rank - 1 := by
  cases ground <;> rfl

theorem Ground.eq_of_rank {less ground : Ground} (same : less.rank = ground.rank) :
    less = ground := by
  cases less <;> cases ground <;> first | rfl | cases same

/-- Grounds that are known of the next token for its kind. -/
class Ground.Plain (ground : Ground) : Prop where
  rank_le : ground.rank ≤ 3

instance : Ground.anywhere.Plain := ⟨by decide⟩
instance : Ground.loose.Plain := ⟨by decide⟩
instance : Ground.firm.Plain := ⟨by decide⟩
instance : Ground.signed.Plain := ⟨by decide⟩

/-- Whether a token of a kind is neither a return nor a dot nor the end of the file. -/
def TokenKind.isFirm : TokenKind → Bool
  | .keyword .return_ | .symbol .dot | .endOfFile => false
  | _ => true

/-- **What is known of a place between two tokens**: whether returns may have been shed right
before, whether a statement may start, and what is known of the next token. -/
structure Footing where
  /-- Whether returns may have been shed right before. -/
  fresh : Bool
  /-- Whether a statement may start without a line break. -/
  opens : Bool
  /-- What is known of the next token. -/
  ground : Ground

namespace Footing

/-- Right behind a token that is kept. -/
abbrev behind (ground : Ground) : Footing :=
  ⟨false, false, ground⟩

/-- Where a construct starts. -/
abbrev start (ground : Ground) : Footing :=
  ⟨true, false, ground⟩

/-- Whether less is known at one place than at another. -/
structure Covers (s t : Footing) : Prop where
  fresh : s.fresh = true → t.fresh = true
  opens : t.opens = true → s.opens = true
  ground : s.ground.rank ≤ t.ground.rank

instance (s t : Footing) : Decidable (s.Covers t) :=
  decidable_of_iff ((s.fresh = true → t.fresh = true) ∧ (t.opens = true → s.opens = true) ∧
      s.ground.rank ≤ t.ground.rank)
    ⟨fun ⟨fresh, opens, ground⟩ => ⟨fresh, opens, ground⟩, fun h => ⟨h.1, h.2, h.3⟩⟩

theorem Covers.refl (s : Footing) : s.Covers s :=
  ⟨id, id, Nat.le_refl _⟩

theorem Covers.trans {s t u : Footing} (first : s.Covers t) (second : t.Covers u) : s.Covers u :=
  ⟨second.fresh ∘ first.fresh, first.opens ∘ second.opens, first.ground.trans second.ground⟩

end Footing

section Settled

variable {sites} {c d : Cursor} {ground less : Ground} {fresh : Bool}

theorem Cursor.Settled.below (settled : c.Settled sites ground) : c.Settled sites ground.below := by
  cases ground with
  | anywhere | loose => trivial
  | firm => exact fun isReturn => absurd isReturn (Bool.eq_false_iff.mp settled)
  | signed => exact settled.1
  | closed =>
      have closes : Parser.closesStatement c.next.kind = true := settled
      refine ⟨Token.isReturnOf_of_kind fun isReturn => ?_, fun isDot => ?_⟩
      · rw [isReturn] at closes
        cases closes
      · rw [isDot] at closes
        cases closes
  | braced =>
      show Parser.closesStatement c.next.kind = true
      rcases settled with isNext | isNext <;> rw [isNext] <;> rfl
  | ended => exact .inr settled

theorem Cursor.Settled.mono (settled : c.Settled sites ground) (fewer : less.rank ≤ ground.rank) :
    c.Settled sites less := by
  induction gap : ground.rank - less.rank generalizing ground with
  | zero => rwa [Ground.eq_of_rank (by omega : less.rank = ground.rank)]
  | succ gap ih =>
      have lower := ground.rank_below
      exact ih settled.below (by omega) (by omega)

theorem Cursor.Settled.firm (settled : c.Settled sites ground) (firm : 2 ≤ ground.rank) :
    c.next.isReturnOf sites = false :=
  @Cursor.Settled.mono sites c ground .firm settled firm

theorem Cursor.settled_of_kind [ground.Plain] (firm : c.next.kind.isFirm = true) :
    c.Settled sites ground := by
  have kept : c.next.isReturnOf sites = false :=
    Token.isReturnOf_of_kind fun isReturn => by rw [isReturn] at firm; cases firm
  have signed : c.Settled sites .signed := ⟨kept, fun isDot => by rw [isDot] at firm; cases firm⟩
  exact signed.mono Ground.Plain.rank_le

/-- **A token that may be next** at a place is next there for both. -/
def Ground.Asks (ground : Ground) (kind : TokenKind) : Prop :=
  2 ≤ ground.rank ∨ (1 ≤ ground.rank ∧ goesOn kind = true)

theorem Cursor.Follows.isNext_iff {kind : TokenKind} (follows : c.Follows sites fresh d)
    (settled : c.Settled sites ground) (asks : ground.Asks kind)
    (other : kind ≠ .keyword .return_) : d.next.kind = kind ↔ c.next.kind = kind := by
  cases isReturn : c.next.isReturnOf sites with
  | false => rw [follows.kind_next isReturn]
  | true =>
      rcases asks with firm | ⟨loose, isPart⟩
      · rw [settled.firm firm] at isReturn
        cases isReturn
      · rw [Token.kind_of_isReturnOf isReturn, follows.kind_kept]
        have apart := ((@Cursor.Settled.mono sites c ground .loose settled loose) isReturn).2
        refine iff_of_false (fun same => ?_) other.symm
        rw [same, isPart] at apart
        cases apart

end Settled

/-! ### Parsers that track others -/

namespace Parser

/-- **A parser and one that tracks it** from two cursors. What the first gives is paid for with the
keywords that it takes and with what was given before. If it is paid for with all of them, what is
known of the place behind it is known before, and then the other gives what lasts of it. -/
def TracksAt (s : Footing) (t : α → Footing) (credit : Nat) (c d : Cursor) (p q : Parser α) :
    Prop :=
  ∀ ⦃value : α⦄ ⦃c' : Cursor⦄, p.Yields c value c' →
    worth sites value + c'.left sites (t value).opens ≤ credit + c.left sites s.opens ∧
    (worth sites value + c'.left sites (t value).opens = credit + c.left sites s.opens →
      c.Counted sites s.opens → c'.Counted sites (t value).opens ∧
      (c'.Settled sites (t value).ground → c.Settled sites s.ground ∧
        (c.Follows sites s.fresh d → ∃ other d', q.Yields d other d' ∧ Lasts sites value other ∧
          c'.Follows sites (t value).fresh d')))

variable {sites} {s s' : Footing} {t t' : α → Footing} {u : β → Footing} {credit : Nat}
  {c d : Cursor} {p q q' : Parser α} {f g : α → Parser β}

/-! ### Putting parsers together -/

/-- **One after the other**, where some of what was given before is for the first. -/
theorem TracksAt.bindPaid {given : Nat} (first : TracksAt sites s t given c d p q)
    (rest : ∀ value other c' d', Lasts sites value other →
      TracksAt sites (t value) u (credit + worth sites value) c' d' (f value) (g other)) :
    TracksAt sites s u (credit + given) c d (p >>= f) (q >>= g) := by
  intro result c'' yields
  obtain ⟨value, c', read, more⟩ := yields_bind.mp yields
  obtain ⟨pays, tracks⟩ := first read
  -- what is paid for does not depend on what lasts
  obtain ⟨paysRest, -⟩ :=
    rest value (ParserValue.without (sites.map ReturnSite.keyword) value) c' d rfl more
  refine ⟨by omega, fun same counted => ?_⟩
  obtain ⟨counted', back⟩ := tracks (by omega) counted
  have onward (other : α) (d' : Cursor) (lasts : Lasts sites value other) :=
    (rest value other c' d' lasts more).2 (by omega) counted'
  refine ⟨(onward _ d rfl).1, fun settled => ?_⟩
  -- what is known comes from behind, so that the second is asked first
  obtain ⟨before, follow⟩ := back ((onward _ d rfl).2 settled).1
  refine ⟨before, fun follows => ?_⟩
  obtain ⟨other, d', readOther, lasts, follows'⟩ := follow follows
  obtain ⟨last, d'', readLast, lasts', follows''⟩ := ((onward other d' lasts).2 settled).2 follows'
  exact ⟨last, d'', yields_bind.mpr ⟨other, d', readOther, readLast⟩, lasts', follows''⟩

/-- **One after the other.** -/
theorem TracksAt.bind (first : TracksAt sites s t 0 c d p q)
    (rest : ∀ value other c' d', Lasts sites value other →
      TracksAt sites (t value) u (credit + worth sites value) c' d' (f value) (g other)) :
    TracksAt sites s u credit c d (p >>= f) (q >>= g) :=
  first.bindPaid rest

/-- Less may be known before and behind, and more may have been given. -/
theorem TracksAt.cover (tracks : TracksAt sites s' t' 0 c d p q) (before : s.Covers s')
    (behind : ∀ value, (t' value).Covers (t value)) : TracksAt sites s t credit c d p q := by
  intro value c' yields
  obtain ⟨pays, follow⟩ := tracks yields
  have less := @Cursor.left_le sites _ _ c before.opens
  have less' := @Cursor.left_le sites _ _ c' (behind value).opens
  refine ⟨by omega, fun same counted => ?_⟩
  -- exact payment leaves no room between the counts here and there
  obtain ⟨counted', back⟩ := follow (by omega) (counted.weaken (by omega))
  refine ⟨counted'.weaken (by omega), fun settled => ?_⟩
  obtain ⟨settled', follows⟩ := back (settled.mono (behind value).ground)
  refine ⟨settled'.mono before.ground, fun start => ?_⟩
  obtain ⟨other, d', read, lasts, follows'⟩ := follows (start.weaken before.fresh)
  exact ⟨other, d', read, lasts, follows'.weaken (behind value).fresh⟩

/-- More may be known before, and more may have been given. -/
theorem TracksAt.prior (tracks : TracksAt sites s' t 0 c d p q) (before : s.Covers s') :
    TracksAt sites s t credit c d p q :=
  tracks.cover before fun _ => .refl _

/-- What is known before need not come from behind. -/
theorem TracksAt.known {fresh opens : Bool} {ground less : Ground}
    (tracks : TracksAt sites ⟨fresh, opens, less⟩ t credit c d p q)
    (settled : c.Settled sites ground) :
    TracksAt sites ⟨fresh, opens, ground⟩ t credit c d p q := by
  intro value c' yields
  obtain ⟨pays, follow⟩ := tracks yields
  exact ⟨pays, fun exact counted => (follow exact counted).imp id fun back settledLast =>
    ⟨settled, (back settledLast).2⟩⟩

/-- **Parsers that read nothing.** -/
theorem TracksAt.idle {value other : α}
    (only : ∀ result c', p.Yields c result c' → result = value ∧ c' = c)
    (again : c.Settled sites s.ground → c.Follows sites s.fresh d → q.Yields d other d)
    (paid : worth sites value ≤ credit) (lasts : Lasts sites value other)
    (covers : s.Covers (t value)) : TracksAt sites s t credit c d p q := by
  intro result c' yields
  obtain ⟨rfl, rfl⟩ := only result c' yields
  have less := @Cursor.left_le sites _ _ c' covers.opens
  refine ⟨by omega, fun same counted => ⟨counted.weaken (by omega), fun settled => ?_⟩⟩
  have before := settled.mono covers.ground
  exact ⟨before, fun follows =>
    ⟨other, d, again before follows, lasts, follows.weaken covers.fresh⟩⟩

theorem TracksAt.pure {value other : α} (paid : worth sites value ≤ credit)
    (lasts : Lasts sites value other) (covers : s.Covers (t value)) :
    TracksAt sites s t credit c d (Pure.pure value) (Pure.pure other) :=
  .idle (fun _ _ => yields_pure.mp) (fun _ _ => yields_pure.mpr ⟨rfl, rfl⟩) paid lasts covers

theorem TracksAt.fails (none : ∀ value c', ¬ p.Yields c value c') :
    TracksAt sites s t credit c d p q :=
  fun value c' yields => (none value c' yields).elim

/-- The parser that tracks may be another one that does the same there. -/
theorem TracksAt.revise (tracks : TracksAt sites s t credit c d p q)
    (same : ∀ value c', p.Yields c value c' → c'.Settled sites (t value).ground →
      c.Settled sites s.ground → c.Follows sites s.fresh d →
        ∀ other d', q.Yields d other d' → q'.Yields d other d') :
    TracksAt sites s t credit c d p q' := by
  intro value c' yields
  obtain ⟨pays, follow⟩ := tracks yields
  refine ⟨pays, fun exact counted => ?_⟩
  obtain ⟨counted', back⟩ := follow exact counted
  refine ⟨counted', fun settled => ?_⟩
  obtain ⟨settled', follows⟩ := back settled
  refine ⟨settled', fun start => ?_⟩
  obtain ⟨other, d', read, rest⟩ := follows start
  exact ⟨other, d', same value c' yields settled settled' start other d' read, rest⟩

/-- What is tracked may be another parser that does the same there. -/
theorem TracksAt.congr {p' : Parser α} (tracks : TracksAt sites s t credit c d p q)
    (same : ∀ value c', p'.Yields c value c' → p.Yields c value c') :
    TracksAt sites s t credit c d p' q :=
  fun value c' yields => tracks (same value c' yields)

/-- **Parsers that only look** before they go on. -/
theorem TracksAt.looks {parser parser' : Parser γ} {answer answer' : Cursor → γ}
    {next other : γ → Parser α} (asks : ∀ c, parser c = .ok (answer c, c))
    (asks' : ∀ c, parser' c = .ok (answer' c, c))
    (rest : TracksAt sites s t credit c d (next (answer c)) (other (answer' d))) :
    TracksAt sites s t credit c d (parser >>= next) (parser' >>= other) := by
  have found {parser : Parser γ} {answer : Cursor → γ} (next : γ → Parser α) (c : Cursor)
      (asks : ∀ c, parser c = .ok (answer c, c)) : (parser >>= next) c = next (answer c) c := by
    show (do let (value, middle) ← parser c; next value middle : Except SyntaxError _) = _
    rw [asks c]
    rfl
  intro value c' yields
  rw [Yields, found next c asks] at yields
  obtain ⟨pays, follow⟩ := rest yields
  refine ⟨pays, fun exact counted => (follow exact counted).imp id fun back settled =>
    (back settled).imp id fun follows start => ?_⟩
  obtain ⟨last, d', read, rest⟩ := follows start
  exact ⟨last, d', by rw [Yields, found other d asks']; exact read, rest⟩

/-- Two ways to go on, of which both take the same. -/
theorem TracksAt.ite {condition condition' : Prop} [Decidable condition] [Decidable condition']
    {yes no yes' no' : Parser α}
    (same : c.Settled sites s.ground → c.Follows sites s.fresh d → (condition' ↔ condition))
    (holds : condition → TracksAt sites s t credit c d yes yes')
    (fails : ¬ condition → TracksAt sites s t credit c d no no') :
    TracksAt sites s t credit c d (if condition then yes else no)
      (if condition' then yes' else no') := by
  split
  · next isSo =>
      refine (holds isSo).revise fun _ _ _ _ settled follows other d' read => ?_
      rwa [if_pos ((same settled follows).mpr isSo)]
  · next isNot =>
      refine (fails isNot).revise fun _ _ _ _ settled follows other d' read => ?_
      rwa [if_neg (mt (same settled follows).mp isNot)]

theorem TracksAt.map {make make' : α → β} (first : TracksAt sites s t 0 c d p q)
    (paid : ∀ value, worth sites (make value) ≤ credit + worth sites value)
    (lasts : ∀ value other, Lasts sites value other → Lasts sites (make value) (make' other))
    (covers : ∀ value, (t value).Covers (u (make value))) :
    TracksAt sites s u credit c d (make <$> p) (make' <$> q) := by
  rw [← bind_pure_comp, ← bind_pure_comp]
  exact first.bind fun value other _ _ same => .pure (paid value) (lasts _ _ same) (covers value)

/-- Something that is made from the span up to here. -/
theorem TracksAt.spanned {start start' : Nat} {make make' : Span → α}
    (paid : ∀ span, worth sites (make span) ≤ credit)
    (lasts : ∀ span span', Lasts sites (make span) (make' span'))
    (covers : ∀ span, s.Covers (t (make span))) :
    TracksAt sites s t credit c d (spanFrom start >>= fun span => Pure.pure (make span))
      (spanFrom start' >>= fun span => Pure.pure (make' span)) :=
  .looks (fun _ => rfl) (fun _ => rfl) (.pure (paid _) (lasts _ _) (covers _))

end Parser

end ResultBuilder.Syntax
