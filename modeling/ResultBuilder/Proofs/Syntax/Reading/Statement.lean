import ResultBuilder.Proofs.Syntax.Reading.Declaration
import ResultBuilder.Proofs.Syntax.Reading.Pattern

/-!
# Statements that are read

The last part of the parser, and what follows for a whole source: what is read at one depth is read
one level further out, so that it is read at every depth.

Main statements: `Parser.builds_innerOfDepth` (the parsers of every depth build nodes),
`Program.isSound_of_parse` (every node of a parsed source is placed, legible,
spelled and filled) and `isPlaced_of_parse` (where the nodes of a source stand).
-/

namespace ResultBuilder.Syntax

open Cursor (Reads Passes)

/-- **A statement from what it is made of**, with the extent of what was read. -/
theorem Cursor.Reads.statement {c c' : Cursor} {statement : Statement}
    (reads : c.Reads (Node.ofStatement statement) c')
    (span : statement.span = c'.spanFrom c.next.span.start) (legible : statement.IsLegible)
    (spelled : (Node.statement statement).IsSpelled c.source) :
    c.Reads [.statement statement] c' :=
  reads.close rfl rfl span legible spelled

/-- What stands behind the next token follows what that token ends. -/
theorem Cursor.IsSound.faces_advance {c : Cursor} (sound : c.IsSound)
    (notEnd : c.next.kind ≠ .endOfFile) :
    ∃ pieces final, c.advance.Faces c.next.kind.endsOperand pieces final := by
  obtain ⟨afterOperand, pieces, final, faces⟩ := sound
  cases pieces with
  | nil => exact absurd (by rw [faces.next_nil]; rfl) notEnd
  | cons piece pieces =>
      rw [faces.advance_cons, faces.next_cons]
      exact ⟨_, _, faces.skip_one⟩

namespace Parser

variable {c c' : Cursor} {inner : Inner} {depth : Nat}

/-- A pattern behind a token that ends no operand. -/
theorem isLegible_of_behind {stops : TokenKind → Bool} {pattern : Pattern} (sound : c.IsSound)
    (isBefore : c.next.kind ≠ .endOfFile) (noOperand : c.next.kind.endsOperand = false)
    (yields : (Parser.pattern stops).Yields c.advance pattern c')
    (notEnd : c'.next.kind ≠ .endOfFile) : pattern.IsLegible stops := by
  obtain ⟨pieces, final, faces⟩ := sound.faces_advance isBefore
  rw [noOperand] at faces
  exact isLegible_of_yields_pattern faces yields notEnd

/-- Patterns with commas between them, behind a token that ends no operand. -/
theorem isLegible_of_separated {bound : Nat} {patterns : List Pattern} (sound : c.IsSound)
    (isBefore : c.next.kind ≠ .endOfFile) (noOperand : c.next.kind.endsOperand = false)
    (yields : (Parser.separated (Parser.pattern endsCasePattern) bound).Yields c.advance patterns c')
    (notEnd : c'.next.kind ≠ .endOfFile) :
    ∀ pattern ∈ patterns, pattern.IsLegible endsCasePattern := by
  induction bound generalizing c patterns with
  | zero =>
      obtain ⟨rfl, -⟩ := yields_pure.mp yields
      exact List.forall_mem_nil _
  | succ bound ih =>
      obtain ⟨first, middle, read, rest⟩ := yields_separated.mp yields
      split at rest
      · next comma =>
          obtain ⟨others, more, rfl⟩ := rest
          have isComma : middle.next.kind ≠ .endOfFile := by rw [comma]; exact nofun
          have past := reads_pattern (Reads.take sound isBefore).sound' read
          exact List.forall_mem_cons.mpr ⟨isLegible_of_behind sound isBefore noOperand read isComma,
            ih past.sound' isComma (by rw [comma]; rfl) more⟩
      · obtain ⟨rfl, rfl⟩ := rest
        exact List.forall_mem_singleton.mpr (isLegible_of_behind sound isBefore noOperand read notEnd)

namespace Inner.Builds

/-! ### Conditions -/

/-- An expression before a brace. -/
theorem readsHeader {expr : Expr} (builds : inner.Builds depth) (sound : c.IsSound)
    (few : c.rest.length ≤ depth + 1)
    (yields : (Parser.expression inner .header).Yields c expr c') :
    c.Reads [.expression expr] c' ∧ expr.FitsHeader := by
  obtain ⟨reads, -, fits⟩ := builds.readsExpression sound few yields
  exact ⟨reads, fits rfl⟩

/-- A condition that binds a pattern. -/
theorem readsBinding {word : Keyword} {condition : Condition} {pattern : Pattern} {middle : Cursor}
    {isMutable : Bool} (builds : inner.Builds depth) (sound : c.IsSound)
    (few : c.rest.length ≤ depth + 1) (isKeyword : c.next.kind = .keyword word)
    (noOperand : (TokenKind.keyword word).endsOperand = false)
    (readPattern : (Parser.pattern (· == .symbol .assign)).Yields c.advance pattern middle)
    (sign : middle.next.kind = .symbol .assign) {value : Expr}
    (readValue : (Parser.expression inner .header).Yields middle.advance value c')
    (same : condition = .binding (c'.spanFrom c.next.span.start) isMutable pattern value) :
    c.Reads [.condition condition] c' := by
  subst same
  have keyword := Reads.takeKeyword sound isKeyword
  have bound := keyword.trans (reads_pattern keyword.sound' readPattern)
  have past := bound.trans (.takeSymbol bound.sound' sign)
  have fewer := past.fewer
  obtain ⟨reads, fits⟩ := builds.readsHeader past.sound' (by omega) readValue
  exact (past.trans reads).close rfl rfl rfl
    ⟨isLegible_of_behind sound (by rw [isKeyword]; exact nofun) (by rw [isKeyword, noOperand])
      readPattern (by rw [sign]; exact nofun), fits⟩ trivial

/-- **Conditions are read** as nodes. -/
theorem readsCondition (builds : inner.Builds depth) :
    (Parser.condition inner).Builds (depth + 1) fun node => [.condition node] := by
  intro c sound few condition c' yields
  have yields := yields_condition.mp yields
  split at yields
  · next kind =>
      obtain ⟨pattern, middle, readPattern, sign, value, last, readValue, rfl, same⟩ := yields
      exact builds.readsBinding sound few kind rfl readPattern sign readValue same
  · next kind =>
      obtain ⟨pattern, middle, readPattern, sign, value, last, readValue, rfl, same⟩ := yields
      exact builds.readsBinding sound few kind rfl readPattern sign readValue same
  · obtain ⟨value, read, rfl⟩ := yields
    obtain ⟨reads, fits⟩ := builds.readsHeader sound few read
    exact reads.wrap rfl rfl rfl fits trivial trivial

/-! ### Statements with conditions -/

/-- **Conditional statements are read** as nodes. -/
theorem readsConditional (builds : inner.Builds depth) :
    (Parser.conditional inner).Builds (depth + 1) fun node => [.statement (.conditional node)] := by
  intro c sound few conditional c' yields
  obtain ⟨isKeyword, conditions, opening, readConditions, thenBlock, middle, readBlock, rest⟩ :=
    yields_conditional.mp yields
  have bound := builds.bound
  have keyword := Reads.takeKeyword sound isKeyword
  have toConditions := keyword.fewer
  have some := separated_ne_nil (by omega) readConditions
  have withConditions : c.Reads (conditions.map .condition) opening := by
    rw [List.map_eq_flatMap]
    exact keyword.trans
      (builds.readsCondition.separated builds.bound keyword.sound' (by omega) readConditions)
  have toBlock := withConditions.fewer
  have withBlock := withConditions.trans
    (builds.readsBlock withConditions.sound' (by omega) readBlock)
  have toElse := withBlock.fewer
  split at rest
  · next isElse =>
      have past := withBlock.trans (.takeKeyword withBlock.sound' isElse)
      have toAlternative := past.fewer
      split at rest
      · obtain ⟨chained, last, read, rfl, rfl⟩ := rest
        have whole := past.trans (builds.conditional past.sound' (by omega) read)
        exact .statement (by simpa [Node.ofStatement, Node.ofAlternative] using whole) rfl some trivial
      · obtain ⟨block, last, read, rfl, rfl⟩ := rest
        have whole := past.trans (builds.readsBlock past.sound' (by omega) read)
        exact .statement (by simpa [Node.ofStatement, Node.ofAlternative] using whole) rfl some trivial
  · obtain ⟨rfl, rfl⟩ := rest
    exact .statement (by simpa [Node.ofStatement] using withBlock) rfl some trivial

/-- **Loops are read** as nodes. -/
theorem readsLoop (builds : inner.Builds depth) (sound : c.IsSound)
    (few : c.rest.length ≤ depth + 1) (notEnd : c.next.kind ≠ .endOfFile) {loop : Loop}
    (yields : (Parser.loop inner).Yields c loop c') : c.Reads [.statement (.loop loop)] c' := by
  have keyword := Reads.take sound notEnd
  have toFirst := keyword.fewer
  have yields := yields_loop.mp yields
  split at yields
  · next kind =>
      obtain ⟨element, middle, readElement, isIn, header, opening, readHeader, body, last, readBody,
        rfl, rfl⟩ := yields
      have withElement := keyword.trans (reads_pattern keyword.sound' readElement)
      have past := withElement.trans (.takeKeyword withElement.sound' isIn)
      have toHeader := past.fewer
      obtain ⟨reads, fits⟩ := builds.readsHeader past.sound' (by omega) readHeader
      have withHeader := past.trans reads
      have toBody := withHeader.fewer
      have whole := withHeader.trans (builds.readsBlock withHeader.sound' (by omega) readBody)
      refine .statement (by simpa [Node.ofStatement, Node.ofLoop] using whole) rfl ⟨fits, ?_⟩ trivial
      rintro pattern ⟨⟩
      exact isLegible_of_behind sound notEnd (by rw [kind]; rfl) readElement (by rw [isIn]; decide)
  · obtain ⟨header, opening, readHeader, body, last, readBody, rfl, rfl⟩ := yields
    obtain ⟨reads, fits⟩ := builds.readsHeader keyword.sound' (by omega) readHeader
    have withHeader := keyword.trans reads
    have toBody := withHeader.fewer
    have whole := withHeader.trans (builds.readsBlock withHeader.sound' (by omega) readBody)
    exact .statement (by simpa [Node.ofStatement, Node.ofLoop] using whole) rfl
      ⟨fits, by rintro pattern ⟨⟩⟩ trivial
  · obtain ⟨body, middle, readBody, isWhile, header, last, readHeader, rfl, rfl⟩ := yields
    have withBody := keyword.trans (builds.readsBlock keyword.sound' (by omega) readBody)
    have past := withBody.trans (.takeKeyword withBody.sound' isWhile)
    have toHeader := past.fewer
    obtain ⟨reads, fits⟩ := builds.readsHeader past.sound' (by omega) readHeader
    have whole := past.trans reads
    exact .statement (by simpa [Node.ofStatement, Node.ofLoop] using whole) rfl
      ⟨fits, by rintro pattern ⟨⟩⟩ trivial

/-! ### Switch statements -/

/-- What stands before the colon of a case. -/
theorem readsLabel {label : CaseLabel} (builds : inner.Builds depth) (sound : c.IsSound)
    (few : c.rest.length ≤ depth + 1) (yields : (caseLabel inner).Yields c label c') :
    c.Reads (Node.ofLabel label) c' := by
  have yields := yields_caseLabel.mp yields
  split at yields
  · next isCase =>
      obtain ⟨patterns, read, rfl⟩ := yields
      have past := Reads.takeKeyword sound isCase
      have fewer := past.fewer
      rw [Node.ofLabel, List.map_eq_flatMap]
      have building : (Parser.pattern fun kind => kind == .symbol .colon || kind == .symbol .comma).Builds
          depth fun node => [.pattern node] :=
        fun c sound _ pattern c' yields => reads_pattern sound yields
      exact past.trans (building.separated builds.bound.le past.sound' (by omega) read)
  · next isDefault =>
      obtain ⟨rfl, rfl⟩ := yields
      exact .takeKeyword sound isDefault
  · exact yields.elim

/-- The patterns before the colon of a case are legible. -/
theorem isLegible_label {label : CaseLabel} {patterns : List Pattern} (builds : inner.Builds depth)
    (sound : c.IsSound) (yields : (caseLabel inner).Yields c label c')
    (isColon : c'.next.kind = .symbol .colon) (listed : label = .patterns patterns) :
    patterns ≠ [] ∧ ∀ pattern ∈ patterns, pattern.IsLegible endsCasePattern := by
  have notEnd : c'.next.kind ≠ .endOfFile := by rw [isColon]; exact nofun
  have yields := yields_caseLabel.mp yields
  split at yields
  · next isCase =>
      obtain ⟨found, read, rfl⟩ := yields
      cases listed
      exact ⟨separated_ne_nil (Nat.zero_lt_of_lt builds.bound) read,
        isLegible_of_separated sound (by rw [isCase]; exact nofun) (by rw [isCase]; rfl) read notEnd⟩
  · rw [yields.2] at listed
    cases listed
  · exact yields.elim

/-- **The body of a case** spans its statements, or is empty where the colon ends. -/
theorem passes_caseBody {body : List Statement} (sound : c.IsSound)
    (passes : c.Passes (body.map .statement) c') :
    Spread c.lastEnd [.block ⟨caseBodySpan c.lastEnd body, body⟩] c'.lastEnd ∧
      (Node.block ⟨caseBodySpan c.lastEnd body, body⟩).Everywhere (·.IsSound c.source) := by
  cases body with
  | nil =>
      refine ⟨⟨Nat.le_refl _, Nat.le_refl _, (sound.le_lastEnd (passes.reaches sound)).1⟩,
        Node.everywhere_iff.mpr ⟨⟨⟨?_, ?_, Nat.le_refl _, List.forall_mem_nil _, .nil, List.forall_mem_nil _⟩,
          trivial, trivial, trivial⟩, List.forall_mem_nil _⟩⟩
      · exact sound.next_place.2.2.1
      · exact sound.next_place.2.2.1
  | cons first rest =>
      obtain ⟨⟨⟩, -⟩ | reads := passes
      obtain ⟨last, isLast⟩ : ∃ last, (first :: rest).getLast? = some last :=
        ⟨_, List.getLast?_eq_some_getLast (List.cons_ne_nil _ _)⟩
      have member := List.mem_map_of_mem (f := Node.statement) (List.mem_of_getLast? isLast)
      obtain ⟨stops, tight⟩ := reads.spread.tighten (by rw [List.getLast?_map, isLast]; rfl)
      have row := tight (.statement first) rfl
      have span : caseBodySpan c.lastEnd (first :: rest) = ⟨first.span.start, last.span.stop⟩ := by
        have firstInside := row.inside (.statement first) List.mem_cons_self
        have lastInside := row.inside (.statement last) member
        rw [caseBodySpan, isLast]
        exact Span.mk.injEq .. ▸ ⟨Nat.min_eq_left lastInside.1, Nat.max_eq_right firstInside.2⟩
      rw [span]
      refine ⟨⟨sound.next_place.1.trans reads.spread.1, row.le, stops⟩,
        Node.everywhere_iff.mpr ⟨⟨⟨?_, ?_, row.le, row.inside, row.apart,
          fun _ member => .inl member⟩, trivial, trivial, trivial⟩, reads.good⟩⟩
      · exact (reads.good _ List.mem_cons_self).here.placed.starts
      · exact (reads.good _ member).here.placed.stops

/-- **Cases are read** as nodes. -/
theorem readsSwitchCase (builds : inner.Builds depth) :
    (Parser.switchCase inner).Builds depth fun node => [.switchCase node] := by
  intro c sound few switchCase c' yields
  obtain ⟨label, colon, readLabel, isColon, body, last, readBody, rfl, rfl⟩ :=
    yields_switchCase.mp yields
  have labelled := builds.readsLabel sound (by omega) readLabel
  have past := Reads.takeSymbol labelled.sound' isColon
  have toBody := past.fewer
  have toColon := labelled.fewer
  have statements := builds.passesStatements past.sound' (by omega) readBody
  have place := labelled.sound'.lastEnd_advance (by rw [isColon]; exact nofun)
  obtain ⟨spread, good⟩ := passes_caseBody past.sound' statements
  rw [place] at spread good
  have before := labelled.trans past
  have whole : c.Reads (Node.ofLabel label ++ [.block ⟨caseBodySpan colon.next.span.stop body, body⟩])
      c' :=
    { before.andPasses statements.forget with
      spread := by
        have := before.spread
        rw [List.append_nil, place] at this
        exact this.append spread
      good := List.forall_mem_append.mpr ⟨labelled.good, List.forall_mem_singleton.mpr
        (before.reaches.source_eq ▸ good)⟩ }
  have legible : SwitchCase.IsLegible ⟨c'.spanFrom c.next.span.start, label,
      ⟨caseBodySpan colon.next.span.stop body, body⟩⟩ :=
    fun patterns listed => builds.isLegible_label sound readLabel isColon listed
  exact whole.close rfl rfl rfl legible trivial

/-- **Switch statements are read** as nodes. -/
theorem readsSwitch (builds : inner.Builds depth) (sound : c.IsSound)
    (few : c.rest.length ≤ depth + 1) {switch : Switch}
    (yields : (Parser.switch inner).Yields c switch c') : c.Reads [.statement (.switch switch)] c' := by
  obtain ⟨isKeyword, subject, opening, readSubject, opens, cases, closing, readCases, closes, rfl,
    rfl⟩ := yields_switch.mp yields
  have bound := builds.bound
  have keyword := Reads.takeKeyword sound isKeyword
  have toSubject := keyword.fewer
  obtain ⟨reads, fits⟩ := builds.readsHeader keyword.sound' (by omega) readSubject
  have withSubject := keyword.trans reads
  have opened := withSubject.trans (.takeSymbol withSubject.sound' opens)
  have toCases := opened.fewer
  have withCases := opened.andPasses
    (builds.readsSwitchCase.repeatedUntil opened.sound' (by omega) (by omega) readCases)
  have whole := withCases.trans (.takeSymbol withCases.sound' closes)
  obtain ⟨brace, oneByte⟩ := withCases.sound'.standsAt_next closes rfl
  have ends : closing.advance.lastEnd = closing.next.span.start + 1 :=
    (withCases.sound'.lastEnd_advance (by rw [closes]; exact nofun)).trans oneByte
  refine .statement (by simpa [Node.ofStatement, List.map_eq_flatMap] using whole) rfl fits
    ⟨closing.next.span.start, ?_, withCases.reaches.source_eq ▸ brace⟩
  show max _ _ = _
  rw [Nat.max_eq_left whole.spread.le, ends]

/-! ### Other statements -/

/-- **Returns are read** as nodes. -/
theorem readsReturning (builds : inner.Builds depth) (sound : c.IsSound)
    (few : c.rest.length ≤ depth + 1) {statement : Statement}
    (yields : (Parser.returning inner).Yields c statement c') :
    c.Reads [.statement statement] c' := by
  obtain ⟨isKeyword, rest⟩ := yields_returning.mp yields
  have keyword : c.Reads [.mark c.next.span] c.advance :=
    .leaf sound (by rw [isKeyword]; exact nofun) rfl rfl rfl trivial trivial
  have fewer := keyword.fewer
  have spelled := sound.standsIn_next isKeyword
  split at rest
  · obtain ⟨rfl, rfl⟩ := rest
    exact .statement keyword rfl trivial spelled
  · obtain ⟨value, last, read, rfl, rfl⟩ := rest
    have reads := (builds.readsExpression keyword.sound' (by omega) read).reads
    exact .statement (keyword.trans reads) rfl trivial spelled

/-- **Directives are read** as nodes. -/
theorem reads_directive (sound : c.IsSound) (notEnd : c.next.kind ≠ .endOfFile)
    {directive : Directive} (yields : Parser.directive.Yields c directive c') :
    c.Reads [.statement (.directive directive)] c' := by
  obtain ⟨kind, -, opens, isString, closes, rfl, rfl⟩ := yields_directive.mp yields
  have named := Reads.take sound notEnd
  have opened := named.trans (.takeSymbol named.sound' opens)
  have message : c.advance.advance.Reads [.mark c.advance.advance.next.span]
      c.advance.advance.advance :=
    .leaf opened.sound' (by rw [isString]; exact nofun) rfl rfl rfl trivial trivial
  have whole := (opened.trans message).trans (.takeSymbol message.sound' closes)
  exact .statement whole rfl (opened.sound'.isQuotable_next isString) trivial

/-- **Statements are read** as nodes. -/
theorem readsStatement (builds : inner.Builds depth) :
    (Parser.statement inner).Builds (depth + 1) fun node => [.statement node] := by
  intro c sound few statement c' yields
  have yields := yields_statement.mp yields
  dsimp only at yields
  split at yields
  case h_9 =>
    obtain ⟨node, read, rfl⟩ := yields
    exact builds.readsConditional sound few read
  case h_10 =>
    obtain ⟨node, read, rfl⟩ := yields
    exact builds.readsSwitch sound few read
  case h_11 kind =>
    obtain ⟨body, last, read, rfl, rfl⟩ := yields
    have keyword := Reads.takeKeyword sound kind
    have fewer := keyword.fewer
    have whole := keyword.trans (builds.readsBlock keyword.sound' (by omega) read)
    exact .statement whole rfl trivial trivial
  case h_12 kind | h_13 kind | h_14 kind =>
    obtain ⟨node, read, rfl⟩ := yields
    exact builds.readsLoop sound few (by rw [kind]; exact nofun) read
  case h_15 => exact builds.readsReturning sound few yields
  case h_16 kind | h_17 kind | h_18 kind =>
    obtain ⟨rfl, rfl⟩ := yields
    exact .statement (.takeKeyword sound kind) rfl trivial trivial
  case h_19 kind =>
    obtain ⟨node, read, rfl⟩ := yields
    exact reads_directive sound (by rw [kind]; exact nofun) read
  case h_20 =>
    obtain ⟨node, read, rfl⟩ := yields
    exact (builds.readsExpression sound few read).reads.wrap rfl rfl rfl trivial trivial trivial
  all_goals
    obtain ⟨node, read, rfl⟩ := yields
    exact (builds.readsDeclaration sound few read).wrap rfl rfl rfl trivial trivial trivial

end Inner.Builds

/-! ### All depths -/

/-- **The parsers of every depth build nodes.** -/
theorem builds_innerOfDepth (depth : Nat) :
    Inner.Builds { innerOfDepth depth with bound := depth + 1 } depth := by
  induction depth with
  | zero =>
      -- at the innermost level every parser fails
      exact
        { bound := Nat.one_pos
          type := fun _ _ _ _ _ yields => (not_yields_unexpected yields).elim
          expression := fun _ _ _ _ _ _ yields => (not_yields_unexpected yields).elim
          ternary := fun _ _ _ _ _ _ yields => (not_yields_unexpected yields).elim
          binary := fun _ _ _ => ⟨fun _ _ _ _ _ yields => (not_yields_unexpected yields).elim,
            fun _ _ _ _ _ yields => (not_yields_unexpected yields).elim⟩
          unary := fun _ _ _ _ _ _ yields => (not_yields_unexpected yields).elim
          statement := fun _ _ _ _ _ yields => (not_yields_unexpected yields).elim
          declaration := fun _ _ _ _ _ yields => (not_yields_unexpected yields).elim
          conditional := fun _ _ _ _ _ yields => (not_yields_unexpected yields).elim }
  | succ depth ih =>
      exact
        { bound := Nat.lt_succ_self _
          type := ih.readsType
          expression := fun region => ih.readsExpression
          ternary := fun region => ih.readsTernary
          binary := fun region least little => ih.readsBinary little
          unary := fun region => ih.readsUnary
          statement := ih.readsStatement
          declaration := ih.readsDeclaration
          conditional := ih.readsConditional }

end Parser

/-- What a source that parses is read as. -/
theorem parse_eq_ok_iff {source : String} {program : Program} :
    parse source = .ok program ↔ ∃ tokens, tokenize source = .ok tokens ∧ ∃ c',
      (Parser.statements (Parser.innerOfDepth tokens.length) fun _ => false).Yields
        (.atStart source.toList tokens) program.statements c' := by
  have whole : parse source = .ok program ↔ ∃ tokens, tokenize source = .ok tokens ∧
      Program.ofTokens source.toList tokens = .ok program := by
    unfold parse
    cases tokenize source <;> simp [bind, Except.bind]
  rw [whole]
  refine exists_congr fun tokens => and_congr_right fun _ => Parser.run_eq_ok_iff.trans ?_
  refine exists_congr fun c' => ?_
  rw [Parser.program, Parser.yields_map]
  exact ⟨fun ⟨statements, read, same⟩ => same ▸ read, fun read => ⟨_, read, rfl⟩⟩

/-- **Every node of a parsed source is sound**, and its statements are in a row. -/
theorem Program.isSound_of_parse {source : String} {program : Program}
    (parsed : parse source = .ok program) :
    (∀ node : Node, node.WithinProgram program → node.IsSound source.toList) ∧
      program.statements.Pairwise fun first second => first.span.stop ≤ second.span.start := by
  obtain ⟨tokens, cut, c', yields⟩ := parse_eq_ok_iff.mp parsed
  have sound := Cursor.IsSound.of_tokenize cut
  obtain ⟨depth, some⟩ := Nat.exists_eq_succ_of_ne_zero sound.length_pos.ne'
  change tokens.length = depth + 1 at some
  rw [some] at yields
  have builds := Parser.builds_innerOfDepth (depth + 1)
  have passes := builds.statement.sequence sound some.le some.le yields
  rw [← List.map_eq_flatMap] at passes
  obtain ⟨none, -⟩ | reads := passes
  · have empty := List.map_eq_nil_iff.mp none
    refine ⟨fun node => ?_, by rw [empty]; exact .nil⟩
    rintro ⟨statement, member, -⟩
    rw [empty] at member
    cases member
  · refine ⟨?_, List.pairwise_map.mp reads.spread.apart⟩
    rintro node ⟨statement, member, within⟩
    exact reads.good _ (List.mem_map_of_mem member) node within

/-!
### Where the nodes of a source stand

Diagnostics point at the nodes of a source, and their texts are cut out of it, so that every span has
to be a place in the source, of whatever characters it is made. The body of a closure is the one
child that does not stand beside the others: it has the span of the closure, with its braces and its
parameters.
-/

/-- A source is parsed by cutting it into tokens and reading these. -/
theorem parse_of_ofTokens {source : String} {tokens : List Token} {program : Program}
    (cut : tokenize source = .ok tokens)
    (read : Program.ofTokens source.toList tokens = .ok program) : parse source = .ok program := by
  rw [parse, cut]
  exact read

/-- **The nodes of a parsed source are placed**: each starts and ends between characters of the
source and not before it starts, its children lie inside it, and those of its row follow each other,
as the statements of the source do. The row is all children but the body of a closure; that has the
span of the closure and shows its statements. -/
theorem isPlaced_of_parse {source : String} {program : Program}
    (parsed : parse source = .ok program) :
    (∀ node : Node, node.WithinProgram program → node.IsPlaced source.toList) ∧
      (∀ closure, (Node.closure closure).WithinProgram program →
        closure.body.span = closure.span) ∧
      program.statements.Pairwise fun first second => first.span.stop ≤ second.span.start := by
  obtain ⟨sound, apart⟩ := Program.isSound_of_parse parsed
  refine ⟨fun node within => (sound node within).placed, fun closure within => ?_, apart⟩
  have body : Node.block closure.body ∈ (Node.closure closure).children :=
    List.mem_append_right _ (List.mem_singleton_self _)
  refine ((sound _ within).placed.shown _ body).resolve_left fun shown => ?_
  -- a row of a closure holds names and statements, no block
  rcases List.mem_append.mp shown with member | member
  · obtain ⟨name, -, same⟩ := List.mem_map.mp member
    cases same
  · obtain ⟨statement, -, same⟩ := List.mem_map.mp member
    cases same

/-- A declaration whose name takes more bytes than characters. -/
def accentedVariable : VariableDecl :=
  ⟨⟨0, 10⟩, [], false, ⟨⟨4, 6⟩, "é"⟩, none, some (.literal ⟨9, 10⟩ (.integer 1)), none⟩

/-- The name and the value of the declaration follow each other inside it, where their bytes are. -/
theorem isPlaced_of_accentedProgram :
    parse "let é = 1" = .ok ⟨[.declaration (.variable accentedVariable)]⟩ ∧
      (Node.declaration (.variable accentedVariable)).children =
        [.name ⟨⟨4, 6⟩, "é"⟩, .expression (.literal ⟨9, 10⟩ (.integer 1))] ∧
      (Node.declaration (.variable accentedVariable)).IsPlaced "let é = 1".toList := by
  have cut : tokenize "let é = 1" = .ok [⟨.keyword .let_, ⟨0, 3⟩, "let", false⟩,
      ⟨.identifier, ⟨4, 6⟩, "é", false⟩, ⟨.symbol .assign, ⟨7, 8⟩, "=", false⟩,
      ⟨.integer, ⟨9, 10⟩, "1", false⟩, ⟨.endOfFile, ⟨10, 10⟩, "", false⟩] := by
    decide +kernel
  have parsed : parse _ = .ok ⟨[.declaration (.variable accentedVariable)]⟩ :=
    parse_of_ofTokens cut rfl
  have within : (Node.declaration (.variable accentedVariable)).WithinProgram
      ⟨[.declaration (.variable accentedVariable)]⟩ :=
    ⟨_, List.mem_singleton_self _, .child (List.mem_singleton_self _) (.self _)⟩
  exact ⟨parsed, rfl, (isPlaced_of_parse parsed).1 _ within⟩

/-- A closure with a parameter and a body. -/
def namingClosure : Closure :=
  ⟨⟨0, 10⟩, [⟨⟨2, 3⟩, "a"⟩], ⟨⟨0, 10⟩, [.expression (.ident ⟨7, 8⟩ "b")]⟩⟩

/-- **The body of a closure is not beside its parameters**: it starts before them, with the braces
of the closure. -/
theorem children_not_apart_of_namingClosure :
    parse "\x7b a in b \x7d" = .ok ⟨[.expression (.closure namingClosure)]⟩ ∧
      (Node.closure namingClosure).WithinProgram ⟨[.expression (.closure namingClosure)]⟩ ∧
      ¬ (Node.closure namingClosure).children.Pairwise fun first second =>
        first.span.stop ≤ second.span.start := by
  have cut : tokenize "\x7b a in b \x7d" = .ok [⟨.symbol .braceOpen, ⟨0, 1⟩, "\x7b", false⟩,
      ⟨.identifier, ⟨2, 3⟩, "a", false⟩, ⟨.keyword .in_, ⟨4, 6⟩, "in", false⟩,
      ⟨.identifier, ⟨7, 8⟩, "b", false⟩, ⟨.symbol .braceClose, ⟨9, 10⟩, "\x7d", false⟩,
      ⟨.endOfFile, ⟨10, 10⟩, "", false⟩] := by
    decide +kernel
  refine ⟨parse_of_ofTokens cut rfl, ⟨_, List.mem_singleton_self _,
    .child (List.mem_singleton_self _) (.child (List.mem_singleton_self _) (.self _))⟩, ?_⟩
  intro apart
  have before : 3 ≤ 0 := (List.pairwise_cons.mp apart).1 (.block namingClosure.body)
    (List.mem_singleton_self _)
  exact absurd before (by decide)

end ResultBuilder.Syntax
