import ResultBuilder.Proofs.Syntax.Reading.Type

/-!
# Expressions that are read

Besides being placed and legible, an expression that is read binds at least as tightly as its parser
was asked for. A chain of operators carries one invariant: the next operator binds less tightly than
what stands to the left of it.

Main statements: the lemmas `Parser.Inner.Builds.readsPrimary` to
`Parser.Inner.Builds.readsExpression`, one for each level of expressions.
-/

namespace ResultBuilder.Syntax

open Cursor (Reads Passes ReadsExpr)

/-- **An expression from what it is made of**, with the extent of what was read. -/
theorem Cursor.Reads.expr {c c' : Cursor} {expr : Expr} (reads : c.Reads (Node.ofExpr expr) c')
    (span : expr.span = c'.spanFrom c.next.span.start) (legible : expr.IsLegible) :
    c.Reads [.expression expr] c' :=
  reads.close rfl rfl span legible trivial

/-- Products bind the most tightly. -/
theorem BinaryOp.precedence_le (op : BinaryOp) : op.precedence ≤ 6 := by
  cases op <;> decide

/-- Nothing binds more tightly than an operand. -/
theorem Expr.rank_le (expr : Expr) : expr.rank ≤ 9 := by
  cases expr with
  | binary span left op right =>
      have := op.precedence_le
      rw [rank]
      omega
  | _ => simp [rank]

namespace Parser

variable {c c' start : Cursor} {inner : Inner} {depth : Nat} {region : Region}

/-! ### Closures -/

theorem closureNames_cons {name next : Token} {rest names : List Token} :
    closureNames (name :: next :: rest) = some names ↔
      (name.kind = .identifier ∨ name.kind = .symbol .underscore) ∧
      (next.kind = .keyword .in_ ∧ names = [name] ∨
        next.kind = .symbol .comma ∧ ∃ more, closureNames rest = some more ∧
          names = name :: more) := by
  rw [closureNames]
  split
  · next isName =>
      simp only [Bool.or_eq_true, beq_iff_eq] at isName
      split
      · next kind => simp [kind, isName, @eq_comm _ names]
      · next kind => simp [kind, isName, @eq_comm _ names]
      · next noIn noComma =>
          simp only [reduceCtorEq, false_iff]
          rintro ⟨-, ⟨kind, -⟩ | ⟨kind, -⟩⟩
          · exact noIn kind
          · exact noComma kind
  · next noName =>
      simp only [Bool.or_eq_true, beq_iff_eq] at noName
      simp [noName]

theorem closureNames_eq_some {tokens names : List Token} (found : closureNames tokens = some names) :
    ∃ name next rest, tokens = name :: next :: rest := by
  match tokens with
  | [] | [_] => simp [closureNames] at found
  | name :: next :: rest => exact ⟨name, next, rest, rfl⟩

/-- The names of the parameters of a closure, with a comma or the keyword after each. -/
theorem reads_closureNames {tokens : List Token} (sound : c.IsSound)
    (found : closureNames c.rest = some tokens) :
    c.Reads (tokens.map fun token => .name ⟨token.span, token.text⟩) (c.skip (2 * tokens.length)) ∧
      ∀ token ∈ tokens, IsParamName token.text := by
  induction tokens generalizing c with
  | nil =>
      obtain ⟨name, next, rest, left⟩ := closureNames_eq_some found
      rw [left] at found
      obtain ⟨-, ⟨-, none⟩ | ⟨-, more, -, none⟩⟩ := closureNames_cons.mp found <;> cases none
  | cons token tokens ih =>
      obtain ⟨name, next, rest, left⟩ := closureNames_eq_some found
      rw [left] at found
      obtain ⟨isName, ending⟩ := closureNames_cons.mp found
      have first : c.next = name := by rw [Cursor.next, left]; rfl
      have second : c.second = next := by rw [Cursor.second, left]
      have goesOn : c.second.kind ≠ .endOfFile := by
        rw [second]
        rcases ending with ⟨kind, -⟩ | ⟨kind, -⟩ <;> rw [kind] <;> rintro ⟨⟩
      have notEnd : c.next.kind ≠ .endOfFile := by
        rw [first]
        rcases isName with kind | kind <;> rw [kind] <;> rintro ⟨⟩
      have paramName : IsParamName name.text := by
        rw [← first] at isName ⊢
        exact isName.imp sound.isName_next (sound.text_of_underscore sound.next_mem)
      have leaf : c.Reads [.name ⟨name.span, name.text⟩] c.advance :=
        .leaf sound notEnd (by rw [first]; rfl) rfl rfl trivial trivial
      have reads := leaf.trans (.take leaf.sound' (by rwa [sound.next_advance notEnd]))
      rw [← sound.skip_two notEnd goesOn] at reads
      rcases ending with ⟨-, same⟩ | ⟨-, more, others, same⟩
      · cases same
        exact ⟨reads, List.forall_mem_singleton.mpr paramName⟩
      · cases same
        obtain ⟨later, names⟩ := ih reads.sound' (by rwa [Cursor.skip_rest, left])
        have both := reads.trans later
        rw [Cursor.skip_skip, Nat.add_comm] at both
        exact ⟨both, List.forall_mem_cons.mpr ⟨paramName, names⟩⟩

/-- The parameters of a closure. -/
theorem passes_closureParams {names : List Name} (sound : c.IsSound)
    (yields : closureParams.Yields c names c') :
    c.Passes (names.map .name) c' ∧ ∀ name ∈ names, IsParamName name.text := by
  have yields := yields_closureParams.mp yields
  split at yields
  · obtain ⟨rfl, rfl⟩ := yields
    exact ⟨.inl ⟨rfl, rfl⟩, List.forall_mem_nil _⟩
  · next tokens found =>
      obtain ⟨rfl, rfl⟩ := yields
      obtain ⟨reads, names⟩ := reads_closureNames sound found
      refine ⟨.inr ?_, List.forall_mem_map.mpr names⟩
      rw [List.map_map]
      exact reads

namespace Inner.Builds

/-- Statements up to a token at which they stop. -/
theorem passesStatements {stops : TokenKind → Bool} {statements : List Statement}
    (builds : inner.Builds depth) (sound : c.IsSound) (few : c.rest.length ≤ depth)
    (yields : (Parser.statements inner stops).Yields c statements c') :
    c.Passes (statements.map .statement) c' := by
  rw [List.map_eq_flatMap]
  exact builds.statement.sequence sound few (few.trans builds.bound.le) yields

/-- **Blocks are read** as nodes. -/
theorem readsBlock (builds : inner.Builds depth) :
    (Parser.block inner).Builds (depth + 1) fun node => [.block node] := by
  intro c sound few block c' yields
  obtain ⟨opens, body, last, read, closes, rfl, rfl⟩ := yields_block.mp yields
  have past := Reads.takeSymbol sound opens
  have fewer := past.fewer
  have inside := past.andPasses (builds.passesStatements past.sound' (by omega) read)
  exact (inside.trans (.takeSymbol inside.sound' closes)).close (by simp [Node.children])
    (by simp [Node.row, Node.children]) rfl trivial trivial

/-- **Closures are read** as nodes. -/
theorem readsClosure (builds : inner.Builds depth) :
    (Parser.closure inner).Builds (depth + 1) fun node => [.closure node] := by
  intro c sound few closure c' yields
  obtain ⟨opens, params, middle, named, body, last, read, closes, rfl, rfl⟩ :=
    yields_closure.mp yields
  have past := Reads.takeSymbol sound opens
  have fewer := past.fewer
  obtain ⟨names, areNames⟩ := passes_closureParams past.sound' named
  have fewer' := names.length_le
  have bare := past.andPasses names.forget
  have statements := builds.passesStatements bare.sound' (by omega) read
  have inside := bare.andPasses statements
  have block : c.Reads [.block ⟨last.advance.spanFrom c.next.span.start, body⟩] last.advance :=
    (inside.trans (.takeSymbol inside.sound' closes)).close (by simp [Node.children])
      (by simp [Node.row, Node.children]) rfl trivial trivial
  -- the body has the span of the closure, so that its statements stand in its place in the row
  have row := (past.andPasses names).andPasses statements
  have whole := row.trans (.takeSymbol row.sound' closes)
  simp only [List.nil_append, List.append_nil] at whole
  have spelled := (sound.standsAt_next opens rfl).1
  refine whole.single rfl
    (Node.everywhere_iff.mpr ⟨⟨whole.isPlaced rfl ?_ rfl, areNames, spelled, whole.isFilled rfl⟩, ?_⟩)
  · refine List.forall_mem_append.mpr ⟨fun name member => .inl ?_, ?_⟩
    · exact List.mem_append_left _ member
    · exact List.forall_mem_singleton.mpr (.inr rfl)
  · exact List.forall_mem_append.mpr
      ⟨fun name member => whole.good name (List.mem_append_left _ member), block.good⟩

/-- A closure after an operand. -/
theorem passesTrailing {trailing : Option Closure} (builds : inner.Builds depth) (sound : c.IsSound)
    (few : c.rest.length ≤ depth + 1) (yields : (trailingClosure? inner region).Yields c trailing c') :
    c.Passes (trailing.toList.map .closure) c' ∧
      (region.allowsTrailing = false → trailing = none) := by
  have yields := yields_trailingClosure.mp yields
  split at yields
  · next opens =>
      obtain ⟨closure, read, rfl⟩ := yields
      exact ⟨.inr (builds.readsClosure sound few read), fun forbidden => by simp [forbidden] at opens⟩
  · obtain ⟨rfl, rfl⟩ := yields
    exact ⟨.inl ⟨rfl, rfl⟩, fun _ => rfl⟩

/-! ### Arguments -/

/-- **Arguments are read** as nodes. -/
theorem readsArgument (builds : inner.Builds depth) :
    (Parser.argument inner).Builds depth fun node => [.argument node] := by
  intro c sound few argument c' yields
  have yields := yields_argument.mp yields
  split at yields
  · next label =>
      obtain ⟨value, last, read, rfl, rfl⟩ := yields
      have notEnd : c.next.kind ≠ .endOfFile := by rw [label.1]; exact nofun
      have named : c.Reads [.name ⟨c.next.span, c.next.text⟩] c.advance :=
        .leaf sound notEnd rfl rfl rfl trivial trivial
      have colon : c.advance.next.kind = .symbol .colon := by
        rw [sound.next_advance notEnd, label.2]
      have past := named.trans (.takeSymbol named.sound' colon)
      have fewer := past.fewer
      have reads := past.trans (builds.expression _ past.sound' (by omega) read).reads
      refine reads.close rfl rfl rfl (fun name same => ?_) trivial
      cases same
      exact sound.isName_next label.1
  · obtain ⟨value, last, read, rfl, rfl⟩ := yields
    exact (builds.expression _ sound few read).reads.close rfl rfl rfl nofun trivial

/-- The arguments between two signs. -/
theorem readsArguments {opening closing : Symbol} (builds : inner.Builds depth) :
    (Parser.arguments inner opening closing).Builds (depth + 1) (·.map .argument) := by
  intro c sound few args c' yields
  obtain ⟨opens, read⟩ := yields_arguments.mp yields
  have past := Reads.takeSymbol sound opens
  have fewer := past.fewer
  show c.Reads (args.map .argument) c'
  rw [List.map_eq_flatMap]
  exact past.trans (builds.readsArgument.closedBy builds.bound.le past.sound' (by omega) read)

/-! ### Operands -/

/-- The expression that arguments between parentheses make up. -/
theorem reads_parenthesized {elements : List Argument} (reads : c.Reads (elements.map .argument) c') :
    c.ReadsExpr region 9 (parenthesized (c'.spanFrom c.next.span.start) elements) c' := by
  unfold parenthesized
  split
  · next span value =>
      have inside : c.Reads [.expression value] c' := reads.children rfl
      exact ⟨inside.expr rfl trivial, Nat.le_refl _, fun _ => trivial⟩
  · next several =>
      exact ⟨reads.expr rfl fun span value same => several span value same, Nat.le_refl _,
        fun _ => trivial⟩

/-- An operand that is one token. -/
theorem readsExpr_token {expr : Expr} (sound : c.IsSound) (notEnd : c.next.kind ≠ .endOfFile)
    (parts : Node.ofExpr expr = []) (rank : expr.rank = 9) (fits : expr.FitsHeader)
    (span : expr.span = c.advance.spanFrom c.next.span.start) (legible : expr.IsLegible) :
    c.ReadsExpr region 9 expr c.advance :=
  ⟨.expr (parts ▸ .take sound notEnd) span legible, rank.ge, fun _ => fits⟩

/-- **Operands are read.** -/
theorem readsPrimary (builds : inner.Builds depth) :
    (Parser.primary inner).BuildsExpr (depth + 1) region 9 := by
  intro c sound few expr c' yields
  have yields := yields_primary.mp yields
  dsimp only at yields
  split at yields
  · next kind =>
      obtain ⟨fits, rfl, rfl⟩ := yields
      exact readsExpr_token sound (by rw [kind]; exact nofun) rfl rfl trivial rfl fits
  · next kind =>
      obtain ⟨rfl, rfl⟩ := yields
      exact readsExpr_token sound (by rw [kind]; exact nofun) rfl rfl trivial rfl trivial
  · next kind =>
      obtain ⟨rfl, rfl⟩ := yields
      exact readsExpr_token sound (by rw [kind]; exact nofun) rfl rfl trivial rfl
        (sound.isQuotable_next kind)
  iterate 3
    next kind =>
      obtain ⟨rfl, rfl⟩ := yields
      exact readsExpr_token sound (by rw [kind]; exact nofun) rfl rfl trivial rfl trivial
  · next kind =>
      obtain ⟨rfl, rfl⟩ := yields
      exact readsExpr_token sound (by rw [kind]; exact nofun) rfl rfl trivial rfl
        (.inl (sound.isName_next kind))
  · next kind =>
      obtain ⟨rfl, rfl⟩ := yields
      exact readsExpr_token sound (by rw [kind]; exact nofun) rfl rfl trivial rfl
        (.inr (.inl (sound.text_of_keyword sound.next_mem kind)))
  · next kind =>
      obtain ⟨rfl, rfl⟩ := yields
      exact readsExpr_token sound (by rw [kind]; exact nofun) rfl rfl trivial rfl
        (.inr (.inr (sound.text_of_underscore sound.next_mem kind)))
  · next kind =>
      obtain ⟨isName, rfl, rfl⟩ := yields
      have past := Reads.takeSymbol sound kind
      have named : c.advance.Reads [.name ⟨c.advance.next.span, c.advance.next.text⟩]
          c.advance.advance :=
        .leaf past.sound' (by rw [isName]; exact nofun) rfl rfl rfl trivial trivial
      exact ⟨(past.trans named).expr rfl (past.sound'.isName_next isName), Nat.le_refl _,
        fun _ => trivial⟩
  · obtain ⟨elements, last, read, rfl, rfl⟩ := yields
    exact reads_parenthesized (builds.readsArguments sound few read)
  · obtain ⟨elements, last, read, rfl, rfl⟩ := yields
    have values : c.Reads (elements.map fun argument => .expression argument.value) c' :=
      (builds.readsArguments sound few read).map_child fun argument _ => by simp [Node.children]
    refine ⟨Reads.expr ?_ rfl trivial, Nat.le_refl _, fun _ => trivial⟩
    rw [Node.ofExpr, List.map_map]
    exact values
  · obtain ⟨closure, read, rfl⟩ := yields
    have span : closure.span = c'.spanFrom c.next.span.start := by
      obtain ⟨-, _, _, -, _, _, -, -, rfl, rfl⟩ := yields_closure.mp read
      rfl
    exact ⟨(builds.readsClosure sound few read).expr span trivial, Nat.le_refl _, fun _ => trivial⟩
  · exact yields.elim

/-! ### What goes on an operand -/

/-- The name of a member. -/
theorem reads_memberName {name : Name} (sound : c.IsSound) (yields : memberName.Yields c name c') :
    c.Reads [.name name] c' ∧
      (IsName name.text ∨ name.text = "self" ∨ startsWithDigit name.text = true) := by
  obtain ⟨kind, rfl, rfl⟩ := yields_memberName.mp yields
  refine ⟨.leaf sound ?_ rfl rfl rfl trivial trivial, ?_⟩
  · rcases kind with kind | kind | kind <;> rw [kind] <;> exact nofun
  · exact kind.imp sound.isName_next
      (Or.imp (sound.text_of_keyword sound.next_mem) sound.startsWithDigit_next)

/-- Whether a mark directly after an operand is read as one: not after an underscore. -/
def TakesMarks (operand : Expr) (c : Cursor) : Prop :=
  (c.next.kind = .symbol .attachedQuestion ∨ c.next.kind = .symbol .attachedBang) →
    ∀ span, operand ≠ .ident span "_"

/-- An operand without operators takes marks unless it is an underscore. -/
theorem takesMarks_of_yields_primary {operand : Expr} (sound : c.IsSound)
    (yields : (Parser.primary inner).Yields c operand c') : TakesMarks operand c' := by
  rintro attached span rfl
  have yields := yields_primary.mp yields
  dsimp only at yields
  split at yields
  case h_7 kind =>
    have text := (Expr.ident.inj yields.2).2
    obtain ⟨_, _, -, -, -, noUnderscore⟩ := text ▸ sound.isName_next kind
    exact absurd noUnderscore (by decide)
  case h_8 kind =>
    have text := (Expr.ident.inj yields.2).2
    have isSelf := sound.text_of_keyword sound.next_mem kind
    exact absurd (text.trans isSelf) (by decide)
  case h_9 kind =>
    obtain ⟨rfl, -⟩ := yields
    have := sound.not_attached (by rw [kind]; exact nofun) (by rw [kind]; rfl)
    exact attached.elim this.1 this.2
  case h_11 =>
    obtain ⟨elements, last, -, -, same⟩ := yields
    unfold parenthesized at same
    split at same <;> cases same
  all_goals simp at yields

/-- What goes on an operand makes up a longer one with it. -/
theorem readsPostfixStep {operand longer : Expr} (builds : inner.Builds depth)
    (before : start.ReadsExpr region 9 operand c) (few : start.rest.length ≤ depth + 1)
    (marks : TakesMarks operand c)
    (yields : (postfixStep inner region start.next.span.start operand).Yields c (some longer) c') :
    start.ReadsExpr region 9 longer c' ∧ TakesMarks longer c' := by
  obtain ⟨reads, rank, fits⟩ := before
  have sound := reads.sound'
  have fewer := reads.fewer
  replace rank := operand.rank_le.antisymm rank
  have yields := yields_postfixStep.mp yields
  split at yields
  · split at yields
    · exact absurd yields.1 nofun
    · obtain ⟨args, middle, read, trailing, last, readTrailing, rfl, same⟩ := yields
      cases same
      have arguments := builds.readsArguments sound (by omega) read
      have toTrailing := arguments.fewer
      obtain ⟨closure, none⟩ := builds.passesTrailing arguments.sound' (by omega) readTrailing
      refine ⟨⟨.expr ((reads.trans arguments).andPasses closure) rfl rank, Nat.le_refl _,
        fun forbidden => ⟨by rw [none forbidden]; rfl, fits forbidden⟩⟩, fun _ => nofun⟩
  · split at yields
    · exact absurd yields.1 nofun
    · next allowed =>
        obtain ⟨trailing, last, readTrailing, rfl, same⟩ := yields
        cases same
        obtain ⟨closure, -⟩ := builds.passesTrailing sound (by omega) readTrailing
        refine ⟨⟨.expr (reads.andPasses closure) rfl rank, Nat.le_refl _,
          fun forbidden => ?_⟩, fun _ => nofun⟩
        simp [forbidden] at allowed
  · split at yields
    · exact absurd yields.1 nofun
    · obtain ⟨args, last, read, rfl, same⟩ := yields
      cases same
      have arguments := builds.readsArguments sound (by omega) read
      exact ⟨⟨.expr (reads.trans arguments) rfl rank, Nat.le_refl _, fits⟩, fun _ => nofun⟩
  · next dot =>
      split at yields
      · exact absurd yields.1 nofun
      · obtain ⟨name, last, read, rfl, same⟩ := yields
        cases same
        have past := Reads.takeSymbol sound dot
        obtain ⟨named, isMember⟩ := reads_memberName past.sound' read
        exact ⟨⟨.expr (reads.trans (past.trans named)) rfl ⟨rank, isMember⟩, Nat.le_refl _, fits⟩,
          fun _ => nofun⟩
  · next mark =>
      obtain ⟨rfl, same⟩ := yields
      cases same
      exact ⟨⟨.expr (reads.trans (.takeSymbol sound mark)) rfl ⟨rank, marks (.inl mark)⟩,
        Nat.le_refl _, fits⟩, fun _ => nofun⟩
  · next mark =>
      obtain ⟨rfl, same⟩ := yields
      cases same
      exact ⟨⟨.expr (reads.trans (.takeSymbol sound mark)) rfl ⟨rank, marks (.inr mark)⟩,
        Nat.le_refl _, fits⟩, fun _ => nofun⟩
  · exact absurd yields.1 nofun

/-- Where nothing goes on an operand, nothing is read. -/
theorem eq_of_postfixStep_none {start : Nat} {operand : Expr}
    (yields : (postfixStep inner region start operand).Yields c none c') : c' = c := by
  have yields := yields_postfixStep.mp yields
  split at yields
  case h_5 | h_6 => cases yields.2
  case h_7 => exact yields.2
  all_goals
    split at yields
    · exact yields.2
    · simp at yields

/-- An operand with everything that goes on it. -/
theorem readsPostfixChain {operand expr : Expr} {bound : Nat} (builds : inner.Builds depth)
    (before : start.ReadsExpr region 9 operand c) (few : start.rest.length ≤ depth + 1)
    (marks : TakesMarks operand c)
    (yields : (postfixChain inner region start.next.span.start operand bound).Yields c expr c') :
    start.ReadsExpr region 9 expr c' := by
  induction bound generalizing c operand with
  | zero =>
      obtain ⟨rfl, rfl⟩ := yields_pure.mp yields
      exact before
  | succ bound ih =>
      obtain ⟨longer, middle, step, rest⟩ := yields_postfixChain.mp yields
      cases longer with
      | none =>
          obtain ⟨rfl, rfl⟩ := rest
          rwa [eq_of_postfixStep_none step]
      | some longer =>
          obtain ⟨reads, again⟩ := builds.readsPostfixStep before few marks step
          exact ih reads again rest

/-! ### Operators -/

/-- **Operands with their operators before and after them are read.** -/
theorem readsUnary (builds : inner.Builds depth) :
    (Parser.unary inner region).BuildsExpr (depth + 1) region 8 := by
  intro c sound few expr c' yields
  have yields := yields_unary.mp yields
  split at yields
  · next op isOp =>
      obtain ⟨operand, last, read, rfl, rfl⟩ := yields
      have past := Reads.take sound (fun isEnd => by rw [isEnd] at isOp; cases isOp)
      have fewer := past.fewer
      obtain ⟨reads, rank, fits⟩ := builds.unary region past.sound' (by omega) read
      exact ⟨(past.trans reads).expr rfl rank, Nat.le_refl _, fits⟩
  · obtain ⟨operand, middle, read, rest⟩ := yields
    have before := @readsPrimary _ _ region builds _ sound few _ _ read
    obtain ⟨reads, rank, fits⟩ := builds.readsPostfixChain before few
      (takesMarks_of_yields_primary sound read) rest
    exact ⟨reads, (by decide : 8 ≤ 9).trans rank, fits⟩

/-- **A chain of operators is read** when the next operator binds less tightly than what is to its
left. -/
theorem readsBinaryChain {left expr : Expr} {least bound : Nat} (builds : inner.Builds depth)
    (before : start.ReadsExpr region (least + 1) left c) (stops : c.Stops region left.rank)
    (few : start.rest.length ≤ depth + 1) (enough : c.rest.length ≤ bound)
    (yields : (binaryChain inner region start.next.span.start least left bound).Yields c expr c') :
    start.ReadsExpr region (least + 1) expr c' ∧ c'.Stops region least := by
  induction bound generalizing c left with
  | zero => exact absurd before.reads.sound'.length_pos (by omega)
  | succ bound ih =>
      obtain ⟨reads, rank, fits⟩ := before
      have sound := reads.sound'
      have yields := yields_binaryChain.mp yields
      split at yields
      · next none =>
          obtain ⟨rfl, rfl⟩ := yields
          exact ⟨⟨reads, rank, fits⟩, fun op some => by rw [none] at some; cases some⟩
      · next op isOp =>
          split at yields
          · next ends =>
              obtain ⟨rfl, rfl⟩ := yields
              refine ⟨⟨reads, rank, fits⟩, fun other some goesOn => ?_⟩
              rw [isOp] at some
              cases some
              exact ends.resolve_right (by simp [goesOn])
          · next goesOn =>
              obtain ⟨right, middle, read, rest⟩ := yields
              simp only [not_or, Nat.not_lt, Bool.not_eq_true] at goesOn
              have tighter := stops op isOp goesOn.2
              have past := Reads.take sound (fun isEnd => by rw [isEnd] at isOp; cases isOp)
              have toOp := reads.fewer
              have toRight := past.fewer
              have precedence := op.precedence_le
              obtain ⟨building, stopping⟩ := builds.binary region (op.precedence + 1) (by omega)
              obtain ⟨reads', rank', fits'⟩ := building past.sound' (by omega) read
              have toEnd := reads'.fewer
              have whole : start.ReadsExpr region (least + 1)
                  (.binary (middle.spanFrom start.next.span.start) left op right) middle :=
                ⟨.expr (reads.trans (past.trans reads')) rfl ⟨tighter, rank'⟩,
                  Nat.succ_le_succ goesOn.1, fun forbidden => ⟨fits forbidden, fits' forbidden⟩⟩
              exact ih whole (stopping past.sound' (by omega) read) (by omega) rest

/-- **Operations are read**, up to an operator that binds less tightly. -/
theorem readsBinary {least : Nat} (builds : inner.Builds depth) (little : least ≤ 7) :
    (Parser.binary inner region least).BuildsExpr (depth + 1) region (least + 1) ∧
      ∀ ⦃c : Cursor⦄, c.IsSound → c.rest.length ≤ depth + 1 → ∀ ⦃expr c'⦄,
        (Parser.binary inner region least).Yields c expr c' → c'.Stops region least := by
  have both {c c' : Cursor} {expr : Expr} (sound : c.IsSound) (few : c.rest.length ≤ depth + 1)
      (yields : (Parser.binary inner region least).Yields c expr c') :
      c.ReadsExpr region (least + 1) expr c' ∧ c'.Stops region least := by
    obtain ⟨left, middle, read, rest⟩ := yields_binary.mp yields
    obtain ⟨reads, rank, fits⟩ := @readsUnary _ _ region builds _ sound few _ _ read
    have bound := builds.bound
    have fewer := reads.fewer
    refine builds.readsBinaryChain ⟨reads, by omega, fits⟩ (fun op _ _ => ?_) few (by omega) rest
    exact op.precedence_le.trans_lt (by omega)
  exact ⟨fun c sound few expr c' yields => (both sound few yields).1,
    fun c sound few expr c' yields => (both sound few yields).2⟩

/-- **Conditional expressions are read.** -/
theorem readsTernary (builds : inner.Builds depth) :
    (Parser.ternary inner region).BuildsExpr (depth + 1) region 1 := by
  intro c sound few expr c' yields
  obtain ⟨condition, middle, read, rest⟩ := yields_ternary.mp yields
  obtain ⟨reads, rank, fits⟩ := (builds.readsBinary (by decide)).1 sound few read
  have toQuestion := reads.fewer
  split at rest
  · obtain ⟨rfl, rfl⟩ := rest
    exact ⟨reads, (by decide : 1 ≤ 2).trans rank, fits⟩
  · next goesOn =>
      obtain ⟨thenValue, colon, readThen, isColon, elseValue, last, readElse, rfl, rfl⟩ := rest
      simp only [ne_eq, not_or, not_not] at goesOn
      have question := Reads.takeSymbol reads.sound' goesOn.1
      have toThen := question.fewer
      obtain ⟨reads₁, rank₁, fits₁⟩ := builds.ternary region question.sound' (by omega) readThen
      have past := Reads.takeSymbol reads₁.sound' isColon
      have toColon := reads₁.fewer
      have toElse := past.fewer
      obtain ⟨reads₂, rank₂, fits₂⟩ := builds.ternary region past.sound' (by omega) readElse
      exact ⟨.expr (reads.trans (question.trans (reads₁.trans (past.trans reads₂)))) rfl
        ⟨rank, rank₁, rank₂⟩, Nat.le_refl _,
        fun forbidden => ⟨fits forbidden, fits₁ forbidden, fits₂ forbidden⟩⟩

/-- **Expressions are read.** -/
theorem readsExpression (builds : inner.Builds depth) :
    (Parser.expression inner region).BuildsExpr (depth + 1) region 0 := by
  intro c sound few expr c' yields
  obtain ⟨target, middle, read, rest⟩ := yields_expression.mp yields
  obtain ⟨reads, rank, fits⟩ := builds.readsTernary sound few read
  have toSign := reads.fewer
  split at rest
  · next sign =>
      obtain ⟨value, last, readValue, rfl, rfl⟩ := rest
      have mark : middle.Reads [.mark middle.next.span] middle.advance :=
        .leaf reads.sound' (by rw [sign.1]; exact nofun) rfl rfl rfl trivial trivial
      have toValue := mark.fewer
      obtain ⟨reads', -, fits'⟩ := builds.expression region mark.sound' (by omega) readValue
      exact ⟨.expr (reads.trans (mark.trans reads')) rfl rank, Nat.zero_le _,
        fun forbidden => ⟨fits forbidden, fits' forbidden⟩⟩
  · obtain ⟨rfl, rfl⟩ := rest
    exact ⟨reads, Nat.zero_le _, fits⟩

end Inner.Builds

end Parser

end ResultBuilder.Syntax
