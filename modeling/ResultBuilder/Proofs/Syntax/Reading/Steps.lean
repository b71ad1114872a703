import Mathlib.Order.Nat
import ResultBuilder.Proofs.Syntax.Legible

/-!
# What is read between two cursors

`c.Reads nodes c'` says that the tokens between two cursors are those of nodes, one after the other,
which are sound at any depth. Steps of a parser are put together by `Reads.trans` and closed to a
node by `Reads.node`; the parsers of lists build on the parsers of their items.

Main statements: `Reads.node` (what makes up the children of a node makes up the node) and the
lemmas for lists, `Parser.Builds.separated` to `Parser.Builds.sequence`.
-/

namespace ResultBuilder.Syntax

/-! ### Rows of nodes -/

/-- **Nodes in a row** between two offsets. -/
def Spread : Nat → List Node → Nat → Prop
  | start, [], stop => start ≤ stop
  | start, node :: nodes, stop =>
      start ≤ node.span.start ∧ node.span.start ≤ node.span.stop ∧ Spread node.span.stop nodes stop

namespace Spread

variable {start stop : Nat} {nodes more : List Node}

theorem le (spread : Spread start nodes stop) : start ≤ stop := by
  induction nodes generalizing start with
  | nil => exact spread
  | cons node nodes ih => exact spread.1.trans (spread.2.1.trans (ih spread.2.2))

theorem mono {earlier later : Nat} (spread : Spread start nodes stop) (before : earlier ≤ start)
    (after : stop ≤ later) : Spread earlier nodes later := by
  induction nodes generalizing start earlier with
  | nil => exact before.trans (Nat.le_trans spread after)
  | cons node nodes ih => exact ⟨before.trans spread.1, spread.2.1, ih spread.2.2 (Nat.le_refl _)⟩

theorem append {middle : Nat} (first : Spread start nodes middle)
    (second : Spread middle more stop) : Spread start (nodes ++ more) stop := by
  induction nodes generalizing start with
  | nil => exact second.mono first (Nat.le_refl _)
  | cons node nodes ih => exact ⟨first.1, first.2.1, ih first.2.2⟩

theorem inside (spread : Spread start nodes stop) :
    ∀ node ∈ nodes, start ≤ node.span.start ∧ node.span.stop ≤ stop := by
  induction nodes generalizing start with
  | nil => exact List.forall_mem_nil _
  | cons node nodes ih =>
      refine List.forall_mem_cons.mpr ⟨⟨spread.1, spread.2.2.le⟩, fun other member => ?_⟩
      obtain ⟨starts, stops⟩ := ih spread.2.2 other member
      exact ⟨spread.1.trans (spread.2.1.trans starts), stops⟩

theorem apart (spread : Spread start nodes stop) :
    nodes.Pairwise fun first second => first.span.stop ≤ second.span.start := by
  induction nodes generalizing start with
  | nil => exact .nil
  | cons node nodes ih =>
      exact .cons (fun other member => (spread.2.2.inside other member).1) (ih spread.2.2)

/-- Nodes that lie apart from each other between two offsets are in a row. -/
theorem of_apart (ordered : start ≤ stop) (apart : nodes.Pairwise fun first second =>
      first.span.stop ≤ second.span.start)
    (each : ∀ node ∈ nodes, start ≤ node.span.start ∧ node.span.start ≤ node.span.stop ∧
      node.span.stop ≤ stop) : Spread start nodes stop := by
  induction nodes generalizing start with
  | nil => exact ordered
  | cons node nodes ih =>
      obtain ⟨before, among⟩ := List.pairwise_cons.mp apart
      obtain ⟨⟨starts, order, stops⟩, others⟩ := List.forall_mem_cons.mp each
      exact ⟨starts, order, ih stops among fun other member =>
        ⟨before other member, (others other member).2⟩⟩

/-- Nodes in a row stand from the start of the first to the end of the last. -/
theorem tighten {last : Node} (spread : Spread start nodes stop) (isLast : nodes.getLast? = some last) :
    last.span.stop ≤ stop ∧ ∀ first ∈ nodes.head?, Spread first.span.start nodes last.span.stop := by
  induction nodes generalizing start with
  | nil => cases isLast
  | cons node nodes ih =>
      obtain ⟨starts, ordered, rest⟩ := spread
      cases nodes with
      | nil =>
          obtain rfl : node = last := Option.some.inj isLast
          refine ⟨rest, ?_⟩
          rintro first ⟨⟩
          exact ⟨Nat.le_refl _, ordered, Nat.le_refl _⟩
      | cons second nodes =>
          rw [List.getLast?_cons_cons] at isLast
          obtain ⟨stops, tight⟩ := ih rest isLast
          refine ⟨stops, ?_⟩
          rintro first ⟨⟩
          exact ⟨Nat.le_refl _, ordered, (tight second rfl).mono rest.1 (Nat.le_refl _)⟩

end Spread

namespace Cursor

/-- Behind a token the place is where the token ends. -/
theorem IsSound.lastEnd_advance {c : Cursor} (sound : c.IsSound)
    (notEnd : c.next.kind ≠ .endOfFile) : c.advance.lastEnd = c.next.span.stop := by
  obtain ⟨afterOperand, pieces, final, faces⟩ := sound
  cases pieces with
  | nil => exact absurd (by rw [faces.next_nil]; rfl) notEnd
  | cons piece pieces =>
      rw [faces.advance_cons, faces.lastEnd_skip_one, faces.next_cons]
      rfl

/-- The span of the next token is that of taking it. -/
theorem IsSound.spanFrom_advance {c : Cursor} (sound : c.IsSound)
    (notEnd : c.next.kind ≠ .endOfFile) : c.advance.spanFrom c.next.span.start = c.next.span := by
  rw [spanFrom, sound.lastEnd_advance notEnd, Nat.max_eq_left sound.next_place.2.1]

/-! ### Reading -/

/-- **What is read between two cursors**: nodes that stand in a row and are sound at any depth. At
least one token is read. -/
structure Reads (c : Cursor) (nodes : List Node) (c' : Cursor) : Prop where
  sound : c.IsSound
  reaches : c.Reaches c'
  fewer : c'.rest.length < c.rest.length
  spread : Spread c.next.span.start nodes c'.lastEnd
  good : ∀ node ∈ nodes, node.Everywhere (·.IsSound c.source)

/-- **What is read between two cursors, if anything is.** -/
def Passes (c : Cursor) (nodes : List Node) (c' : Cursor) : Prop :=
  nodes = [] ∧ c' = c ∨ c.Reads nodes c'

variable {c c' c'' : Cursor} {nodes more : List Node} {node : Node}

namespace Reads

theorem sound' (reads : c.Reads nodes c') : c'.IsSound :=
  reads.sound.of_reaches reads.reaches

theorem passes (reads : c.Reads nodes c') : c.Passes nodes c' :=
  .inr reads

/-- **One reading after the other.** -/
theorem trans (first : c.Reads nodes c') (second : c'.Reads more c'') :
    c.Reads (nodes ++ more) c'' where
  sound := first.sound
  reaches := first.reaches.trans second.reaches
  fewer := second.fewer.trans first.fewer
  spread := (first.spread.mono (Nat.le_refl _) first.sound'.next_place.1).append second.spread
  good := List.forall_mem_append.mpr
    ⟨first.good, first.reaches.source_eq ▸ second.good⟩

/-- A reading after one that may have read nothing. -/
theorem andPasses (first : c.Reads nodes c') (second : c'.Passes more c'') :
    c.Reads (nodes ++ more) c'' := by
  rcases second with ⟨rfl, rfl⟩ | second
  · rwa [List.append_nil]
  · exact first.trans second

/-- Some of the nodes, in their order. -/
theorem sublist (reads : c.Reads nodes c') (some : more.Sublist nodes)
    (spread : Spread c.next.span.start more c'.lastEnd) : c.Reads more c' :=
  { reads with
    spread
    good := fun node member => reads.good node (some.subset member) }

/-- Nodes that are read and forgotten. -/
theorem forget (reads : c.Reads nodes c') : c.Reads [] c' :=
  reads.sublist (List.nil_sublist _) reads.spread.le

/-- Tokens that are no nodes. -/
theorem of_reaches (sound : c.IsSound) (reaches : c.Reaches c')
    (fewer : c'.rest.length < c.rest.length) : c.Reads [] c' where
  sound
  reaches
  fewer
  spread := sound.next_place.2.1.trans ((sound.le_lastEnd reaches).2 fewer)
  good := List.forall_mem_nil _

/-- A token that is no node. -/
theorem take (sound : c.IsSound) (notEnd : c.next.kind ≠ .endOfFile) : c.Reads [] c.advance :=
  of_reaches sound sound.reaches_advance (sound.length_advance notEnd)

/-- A sign that is no node. -/
theorem takeSymbol {sign : Symbol} (sound : c.IsSound) (isSign : c.next.kind = .symbol sign) :
    c.Reads [] c.advance :=
  take sound (by rw [isSign]; exact nofun)

/-- A keyword that is no node. -/
theorem takeKeyword {word : Keyword} (sound : c.IsSound) (isWord : c.next.kind = .keyword word) :
    c.Reads [] c.advance :=
  take sound (by rw [isWord]; exact nofun)

/-- **A node of what was read**: its children are in a row where it stands. -/
theorem isPlaced (reads : c.Reads nodes c') (span : node.span = c'.spanFrom c.next.span.start)
    (children : ∀ child ∈ node.children, child ∈ nodes ∨ child.span = node.span)
    (row : node.row = nodes) : node.IsPlaced c.source := by
  have start : node.span.start = c.next.span.start := by rw [span]; rfl
  have stop : node.span.stop = c'.lastEnd := by
    rw [span]
    exact Nat.max_eq_left reads.spread.le
  refine ⟨?_, ?_, ?_, fun child member => ?_, row ▸ reads.spread.apart, row ▸ children⟩
  · rw [start]
    exact reads.sound.next_place.2.2.2.1
  · rw [stop, ← reads.reaches.source_eq]
    exact reads.sound'.next_place.2.2.1
  · rw [start, stop]
    exact reads.spread.le
  · rcases children child member with member | same
    · rw [start, stop]
      exact reads.spread.inside child member
    · rw [same]
      exact ⟨Nat.le_refl _, Nat.le_refl _⟩

/-- A node with the extent of what was read takes some of the source. -/
theorem isFilled (reads : c.Reads nodes c') (span : node.span = c'.spanFrom c.next.span.start) :
    node.IsFilled := by
  have some : node.span.start < node.span.stop := by
    rw [span]
    exact Nat.lt_of_lt_of_le (reads.sound.start_lt_lastEnd reads.reaches reads.fewer)
      (Nat.le_max_left _ _)
  cases node with
  | name | expression | closure => exact some
  | _ => trivial

/-- A node with the extent of what was read. -/
theorem single (reads : c.Reads nodes c') (span : node.span = c'.spanFrom c.next.span.start)
    (good : node.Everywhere (·.IsSound c.source)) : c.Reads [node] c' where
  sound := reads.sound
  reaches := reads.reaches
  fewer := reads.fewer
  spread := by
    have start : node.span.start = c.next.span.start := by rw [span]; rfl
    have stop : node.span.stop = c'.lastEnd := by
      rw [span]
      exact Nat.max_eq_left reads.spread.le
    exact ⟨start.ge, good.here.placed.ordered, stop.le⟩
  good := List.forall_mem_singleton.mpr good

/-- **What makes up the children of a node makes up the node.** -/
theorem close (reads : c.Reads nodes c') (children : node.children = nodes) (row : node.row = nodes)
    (span : node.span = c'.spanFrom c.next.span.start) (legible : node.IsLegible)
    (spelled : node.IsSpelled c.source) : c.Reads [node] c' := by
  have placed := reads.isPlaced span (fun _ member => .inl (children ▸ member)) row
  exact reads.single span
    (Node.everywhere_iff.mpr
      ⟨⟨placed, legible, spelled, reads.isFilled span⟩, children ▸ reads.good⟩)

/-- A node that is the next token. -/
theorem leaf (sound : c.IsSound) (notEnd : c.next.kind ≠ .endOfFile)
    (span : node.span = c.next.span) (children : node.children = []) (row : node.row = [])
    (legible : node.IsLegible) (spelled : node.IsSpelled c.source) :
    c.Reads [node] c.advance :=
  (take sound notEnd).close children row (span.trans (sound.spanFrom_advance notEnd).symm) legible
    spelled

/-- A node with one child that stands where the child stands. -/
theorem wrap {child : Node} (reads : c.Reads [child] c') (children : node.children = [child])
    (row : node.row = [child]) (span : node.span = child.span) (legible : node.IsLegible)
    (spelled : node.IsSpelled c.source) (filled : node.IsFilled) : c.Reads [node] c' := by
  have everywhere := reads.good child (List.mem_singleton_self child)
  obtain ⟨placed, -⟩ := everywhere.here
  refine { reads with
    spread := ?_
    good := List.forall_mem_singleton.mpr
      (Node.everywhere_iff.mpr ⟨⟨?_, legible, spelled, filled⟩, ?_⟩) }
  · obtain ⟨starts, ordered, stops⟩ := reads.spread
    exact ⟨span ▸ starts, span ▸ ordered, span ▸ stops⟩
  · refine ⟨span ▸ placed.starts, span ▸ placed.stops, span ▸ placed.ordered, ?_, ?_, ?_⟩
    · rw [children, span]
      exact List.forall_mem_singleton.mpr ⟨Nat.le_refl _, Nat.le_refl _⟩
    · rw [row]
      exact List.pairwise_singleton _ _
    · rw [children, row]
      exact fun child member => .inl member
  · rw [children]
    exact reads.good

/-- **The children of a node** in place of the node. -/
theorem children (reads : c.Reads [node] c') (row : node.row = node.children) :
    c.Reads node.children c' := by
  have everywhere := reads.good node (List.mem_singleton_self node)
  obtain ⟨placed, -⟩ := everywhere.here
  have below := (Node.everywhere_iff.mp everywhere).2
  have spread : Spread node.span.start node.children node.span.stop :=
    .of_apart placed.ordered (row ▸ placed.apart) fun child member =>
      ⟨(placed.inside child member).1, (below child member).here.placed.ordered,
        (placed.inside child member).2⟩
  exact { reads with
    spread := spread.mono reads.spread.1 reads.spread.2.2
    good := below }

/-- A child of each node in place of the node. -/
theorem map_child {α : Type} {whole part : α → Node} {items : List α}
    (reads : c.Reads (items.map whole) c')
    (child : ∀ item ∈ items, part item ∈ (whole item).children) :
    c.Reads (items.map part) c' := by
  have inside : ∀ item ∈ items, (part item).Everywhere (·.IsSound c.source) := fun item member =>
    (reads.good _ (List.mem_map_of_mem member)).child (child item member)
  refine { reads with
    spread := .of_apart reads.spread.le ?_ ?_
    good := List.forall_mem_map.mpr inside }
  · refine List.pairwise_map.mpr ((List.pairwise_map.mp reads.spread.apart).imp_of_mem ?_)
    intro first second isFirst isSecond apart
    have before := (reads.good _ (List.mem_map_of_mem isFirst)).here.placed.inside _
      (child first isFirst)
    have after := (reads.good _ (List.mem_map_of_mem isSecond)).here.placed.inside _
      (child second isSecond)
    exact before.2.trans (apart.trans after.1)
  · refine List.forall_mem_map.mpr fun item member => ?_
    have outside := reads.spread.inside _ (List.mem_map_of_mem member)
    have place := (reads.good _ (List.mem_map_of_mem member)).here.placed.inside _
      (child item member)
    exact ⟨outside.1.trans place.1, (inside item member).here.placed.ordered,
      place.2.trans outside.2⟩

end Reads

namespace Passes

theorem reaches (passes : c.Passes nodes c') (sound : c.IsSound) : c.Reaches c' := by
  rcases passes with ⟨-, rfl⟩ | reads
  · exact sound.reaches_self
  · exact reads.reaches

theorem sound' (passes : c.Passes nodes c') (sound : c.IsSound) : c'.IsSound :=
  sound.of_reaches (passes.reaches sound)

theorem length_le (passes : c.Passes nodes c') : c'.rest.length ≤ c.rest.length := by
  rcases passes with ⟨-, rfl⟩ | reads
  · exact Nat.le_refl _
  · exact reads.fewer.le

theorem reads (first : c.Passes nodes c') (second : c'.Reads more c'') :
    c.Reads (nodes ++ more) c'' := by
  rcases first with ⟨rfl, rfl⟩ | first
  · exact second
  · exact first.trans second

theorem trans (first : c.Passes nodes c') (second : c'.Passes more c'') :
    c.Passes (nodes ++ more) c'' := by
  rcases first with ⟨rfl, rfl⟩ | first
  · exact second
  · exact .inr (first.andPasses second)

theorem forget (passes : c.Passes nodes c') : c.Passes [] c' := by
  rcases passes with ⟨-, rfl⟩ | reads
  · exact .inl ⟨rfl, rfl⟩
  · exact .inr reads.forget

end Passes

/-- A number of tokens that are no nodes. -/
theorem Passes.skip {count : Nat} (sound : c.IsSound) (less : count < c.rest.length) :
    c.Passes [] (c.skip count) := by
  cases count with
  | zero => exact .inl ⟨rfl, c.skip_zero⟩
  | succ count =>
      refine .inr (.of_reaches sound ⟨_, less, rfl⟩ ?_)
      rw [skip_rest, List.length_drop]
      omega

/-- The end of the file is among the tokens that are left. -/
theorem IsSound.exists_endOfFile (sound : c.IsSound) : ∃ token ∈ c.rest, token.kind = .endOfFile := by
  obtain ⟨afterOperand, pieces, final, faces⟩ := sound
  have last (offset : Nat) : ∃ token ∈ Lexer.tokensFrom final offset pieces,
      token.kind = .endOfFile := by
    induction pieces generalizing offset c afterOperand with
    | nil => exact ⟨_, List.mem_singleton_self _, rfl⟩
    | cons piece pieces ih =>
        obtain ⟨token, member, isEnd⟩ := ih _ faces.skip_one _
        exact ⟨token, List.mem_cons_of_mem _ member, isEnd⟩
  rw [faces.rest]
  exact last _

/-- A run of tokens that the end of the file ends is not all that is left. -/
theorem IsSound.length_takeWhile {continues : Token → Bool} (sound : c.IsSound)
    (ends : ∀ token : Token, token.kind = .endOfFile → continues token = false) :
    (c.rest.takeWhile continues).length < c.rest.length := by
  obtain ⟨token, member, isEnd⟩ := sound.exists_endOfFile
  have front := @List.takeWhile_prefix _ c.rest continues
  refine Nat.lt_of_le_of_ne front.length_le fun same => ?_
  have all := List.all_eq_true.mp (@List.all_takeWhile _ continues c.rest)
  rw [front.eq_of_length same] at all
  exact absurd (all token member) (by rw [ends token isEnd]; exact Bool.false_ne_true)

theorem Passes.skip_takeWhile {continues : Token → Bool} (sound : c.IsSound)
    (ends : ∀ token : Token, token.kind = .endOfFile → continues token = false) :
    c.Passes [] (c.skip (c.rest.takeWhile continues).length) :=
  .skip sound (sound.length_takeWhile ends)

end Cursor

/-! ### Parsers of lists -/

namespace Parser

open Cursor (Reads Passes)

/-- **A parser builds nodes**: what it yields from few enough tokens, it reads. -/
def Builds {α : Type} (fuel : Nat) (nodes : α → List Node) (parser : Parser α) : Prop :=
  ∀ ⦃c : Cursor⦄, c.IsSound → c.rest.length ≤ fuel →
    ∀ ⦃value : α⦄ ⦃c' : Cursor⦄, parser.Yields c value c' → c.Reads (nodes value) c'

theorem passes_pastSemicolons {c : Cursor} (sound : c.IsSound) : c.Passes [] c.pastSemicolons :=
  .skip_takeWhile sound fun token isEnd => by rw [isEnd]; rfl

theorem passes_endStatement {c c' : Cursor} {answer : Unit} (sound : c.IsSound)
    (yields : endStatement.Yields c answer c') : c.Passes [] c' := by
  have yields := yields_endStatement.mp yields
  split at yields
  · next semicolon =>
      subst yields
      exact (Reads.takeSymbol sound semicolon).passes
  · exact .inl ⟨rfl, yields.2⟩

/-- Items with commas between them are at least one. -/
theorem separated_ne_nil {α : Type} {item : Parser α} {bound : Nat} {items : List α}
    {c c' : Cursor} (some : 0 < bound) (yields : (separated item bound).Yields c items c') :
    items ≠ [] := by
  obtain ⟨bound, rfl⟩ := Nat.exists_eq_succ_of_ne_zero some.ne'
  obtain ⟨first, middle, -, rest⟩ := yields_separated.mp yields
  split at rest
  · obtain ⟨others, -, rfl⟩ := rest
    exact List.cons_ne_nil _ _
  · rw [rest.1]
    exact List.cons_ne_nil _ _

namespace Builds

variable {α : Type} {fuel bound : Nat} {nodes : α → List Node} {item : Parser α}
  {c c' : Cursor} {items : List α}

/-- Items with commas between them. -/
theorem separated (builds : item.Builds fuel nodes) (enough : fuel ≤ bound) :
    (Parser.separated item bound).Builds fuel (·.flatMap nodes) := by
  intro c sound few items c' yields
  replace enough := few.trans enough
  induction bound generalizing c items with
  | zero => exact absurd sound.length_pos (by omega)
  | succ bound ih =>
      obtain ⟨first, middle, read, rest⟩ := yields_separated.mp yields
      have reads := builds sound few read
      split at rest
      · next comma =>
          obtain ⟨others, more, rfl⟩ := rest
          have past := Reads.takeSymbol reads.sound' comma
          have fewer := past.fewer.trans reads.fewer
          exact reads.trans (past.trans (ih past.sound' (by omega) more (by omega)))
      · obtain ⟨rfl, rfl⟩ := rest
        simpa using reads

/-- Items with commas between them up to a closing sign. -/
theorem itemsUntil {close : Symbol} (builds : item.Builds fuel nodes) (sound : c.IsSound)
    (few : c.rest.length ≤ fuel) (enough : c.rest.length ≤ bound)
    (yields : (Parser.itemsUntil close item bound).Yields c items c') :
    c.Passes (items.flatMap nodes) c' := by
  induction bound generalizing c items with
  | zero => exact absurd sound.length_pos (by omega)
  | succ bound ih =>
      have yields := yields_itemsUntil.mp yields
      split at yields
      · exact .inl ⟨by rw [yields.1]; rfl, yields.2⟩
      · obtain ⟨first, middle, read, rest⟩ := yields
        have reads := builds sound few read
        split at rest
        · next comma =>
            obtain ⟨others, more, rfl⟩ := rest
            have past := Reads.takeSymbol reads.sound' comma
            have fewer := past.fewer.trans reads.fewer
            exact .inr (reads.trans (past.andPasses
              (ih past.sound' (by omega) (by omega) more)))
        · obtain ⟨rfl, rfl⟩ := rest
          exact .inr (by simpa using reads)

/-- Items with commas between them and a closing sign. -/
theorem closedBy {close : Symbol} (builds : item.Builds fuel nodes) (enough : fuel ≤ bound) :
    (Parser.closedBy close item bound).Builds fuel (·.flatMap nodes) := by
  intro c sound few items c' yields
  obtain ⟨last, read, closes, rfl⟩ := yields_closedBy.mp yields
  have passes := builds.itemsUntil sound few (few.trans enough) read
  simpa using passes.reads (.takeSymbol (passes.sound' sound) closes)

/-- Items one after the other up to a closing sign. -/
theorem repeatedUntil {close : Symbol} (builds : item.Builds fuel nodes) (sound : c.IsSound)
    (few : c.rest.length ≤ fuel) (enough : c.rest.length ≤ bound)
    (yields : (Parser.repeatedUntil close item bound).Yields c items c') :
    c.Passes (items.flatMap nodes) c' := by
  induction bound generalizing c items with
  | zero => exact absurd sound.length_pos (by omega)
  | succ bound ih =>
      have yields := yields_repeatedUntil.mp yields
      split at yields
      · exact .inl ⟨by rw [yields.1]; rfl, yields.2⟩
      · obtain ⟨first, middle, read, others, more, rfl⟩ := yields
        have reads := builds sound few read
        have fewer := reads.fewer
        exact .inr (reads.andPasses (ih reads.sound' (by omega) (by omega) more))

/-- Items that end like statements. -/
theorem sequence {stops : TokenKind → Bool} (builds : item.Builds fuel nodes) (sound : c.IsSound)
    (few : c.rest.length ≤ fuel) (enough : c.rest.length ≤ bound)
    (yields : (Parser.sequence stops item bound).Yields c items c') :
    c.Passes (items.flatMap nodes) c' := by
  induction bound generalizing c items with
  | zero => exact absurd sound.length_pos (by omega)
  | succ bound ih =>
      have yields := yields_sequence.mp yields
      have past := passes_pastSemicolons sound
      have fewer := past.length_le
      split at yields
      · obtain ⟨rfl, rfl⟩ := yields
        exact past
      · obtain ⟨first, middle, read, answer, ended, ends, others, more, rfl⟩ := yields
        have reads := builds (past.sound' sound) (by omega) read
        have ending := passes_endStatement reads.sound' ends
        have fewer' := reads.fewer
        have fewer'' := ending.length_le
        have rest := ih (ending.sound' reads.sound') (by omega) (by omega) more
        exact .inr (past.reads (reads.andPasses (ending.trans rest)))

end Builds

end Parser

/-! ### Parsers of what is further in -/

/-- Whether no operator that binds at least as tightly as a number says goes on what was read. -/
def Cursor.Stops (c : Cursor) (region : Region) (least : Nat) : Prop :=
  ∀ op, Parser.binaryOp? c.next.kind = some op → c.breaks region = false → op.precedence < least

/-- **An expression that is read** in a region: it binds tightly enough, and no closure in it takes
the braces after it. -/
structure Cursor.ReadsExpr (c : Cursor) (region : Region) (least : Nat) (expr : Expr) (c' : Cursor) :
    Prop where
  reads : c.Reads [.expression expr] c'
  rank : least ≤ expr.rank
  fits : region.allowsTrailing = false → expr.FitsHeader

namespace Parser

/-- **A parser builds expressions** in a region that bind at least as tightly as a number says. -/
def BuildsExpr (fuel : Nat) (region : Region) (least : Nat) (parser : Parser Expr) : Prop :=
  ∀ ⦃c : Cursor⦄, c.IsSound → c.rest.length ≤ fuel →
    ∀ ⦃expr : Expr⦄ ⦃c' : Cursor⦄, parser.Yields c expr c' → c.ReadsExpr region least expr c'

/-- **The parsers of what is further in build nodes** from few enough tokens. -/
structure Inner.Builds (inner : Inner) (depth : Nat) : Prop where
  bound : depth < inner.bound
  type : inner.type.Builds depth fun node => [.type node]
  expression : ∀ region, (inner.expression region).BuildsExpr depth region 0
  ternary : ∀ region, (inner.ternary region).BuildsExpr depth region 1
  binary : ∀ region least, least ≤ 7 →
    (inner.binary region least).BuildsExpr depth region (least + 1) ∧
      ∀ ⦃c : Cursor⦄, c.IsSound → c.rest.length ≤ depth → ∀ ⦃expr c'⦄,
        (inner.binary region least).Yields c expr c' → c'.Stops region least
  unary : ∀ region, (inner.unary region).BuildsExpr depth region 8
  statement : inner.statement.Builds depth fun node => [.statement node]
  declaration : inner.declaration.Builds depth fun node => [.declaration node]
  conditional : inner.conditional.Builds depth fun node => [.statement (.conditional node)]

end Parser

end ResultBuilder.Syntax
