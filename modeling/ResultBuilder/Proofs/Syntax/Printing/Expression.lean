import ResultBuilder.Proofs.Syntax.Reread
import ResultBuilder.Syntax.Printer

/-!
# Expressions that are printed and read back

An expression is read back level by level. At the levels of operators and of what goes on an operand
the parser takes one operator or one part after the other, so that what is before the last of them
leads it to a place in a chain and not to a result.

Main statements: the lemmas `Expr.Prints.literal` to `Expr.Prints.assign`, one for each kind of
expression.
-/

namespace ResultBuilder.Syntax

open Lexer (Piece Lexeme render Lexes Loose Printed Listed Enclosed endsOperand)
open Cursor (headKind)

namespace Parser

/-! ### Where expressions stop -/

/-- How tightly the expressions bind that go on with a token: those in which it stands after an
operand the most, then those that it is an operator of. -/
def goingOnRank (region : Region) : TokenKind → Option Nat
  | .symbol .parenOpen | .symbol .bracketOpen | .symbol .dot | .symbol .attachedQuestion
  | .symbol .attachedBang => some 9
  | .symbol .braceOpen => if region.allowsTrailing then some 9 else none
  | .symbol .question => some 1
  | .symbol .assign => some 0
  | kind => (binaryOp? kind).map (·.precedence + 1)

/-- **An expression stops** at a token when nothing that binds as tightly as asked for goes on with
it. -/
def Stops (region : Region) (rank : Nat) (kind : TokenKind) : Prop :=
  ∀ other ∈ goingOnRank region kind, other < rank

variable {region : Region} {rank : Nat} {kind : TokenKind}

theorem Stops.mono {other : Nat} (stops : Stops region rank kind) (less : rank ≤ other) :
    Stops region other kind :=
  fun found isFound => Nat.lt_of_lt_of_le (stops found isFound) less

theorem Stops.binaryOp {op : BinaryOp} (stops : Stops region rank kind)
    (found : binaryOp? kind = some op) : op.precedence + 1 < rank := by
  refine stops _ ?_
  unfold binaryOp? at found
  unfold goingOnRank
  split at found <;> first | (cases found; rfl) | contradiction

/-! ### Chains -/

/-- **Pieces lead to a place in a chain**: whatever is read from there on, with the result so far and
what is left of the fuel, is read by the chain from the start of the pieces. -/
def LeadsTo (first : Parser Expr) (chain : Expr → Nat → Parser Expr) (pieces more : List Piece)
    (result : Expr) : Prop :=
  ∀ (c : Cursor) (bound : Nat), c.Sees (pieces ++ more) → pieces.length + more.length ≤ bound →
    ∃ value c' fuel, c'.Sees more ∧ more.length ≤ fuel ∧ value.rebuild .plain = result ∧
      ∀ {whole c''}, (chain value fuel).Yields c' whole c'' →
        (first >>= (chain · bound)).Yields c whole c''

variable {first : Parser Expr} {chain : Expr → Nat → Parser Expr} {pieces front more : List Piece}
  {base result : Expr} {inner : Inner} {start : Nat}

/-- What is recovered is the first operand of a chain. -/
theorem LeadsTo.of_recovers (recovers : first.Recovers (Expr.rebuild .plain) pieces more result) :
    LeadsTo first chain pieces more result := by
  intro c bound sees enough
  obtain ⟨value, c', yields, sees', same⟩ := recovers c sees
  exact ⟨value, c', bound, sees', by omega, same, fun rest =>
    yields_bind.mpr ⟨value, c', yields, rest⟩⟩

/-- **A chain goes one step further.** -/
theorem LeadsTo.step (leads : LeadsTo first chain pieces (front ++ more) base)
    (nonempty : front ≠ [])
    (step : ∀ {value c fuel}, value.rebuild .plain = base → c.Sees (front ++ more) →
      ∃ longer c', c'.Sees more ∧ longer.rebuild .plain = result ∧
        ∀ {whole c''}, (chain longer fuel).Yields c' whole c'' →
          (chain value (fuel + 1)).Yields c whole c'') :
    LeadsTo first chain (pieces ++ front) more result := by
  intro c bound sees enough
  have taken := List.length_pos_iff.mpr nonempty
  rw [List.append_assoc] at sees
  simp only [List.length_append] at enough
  obtain ⟨value, middle, fuel, sees', left, same, read⟩ := leads c bound sees
    (by simp only [List.length_append]; omega)
  simp only [List.length_append] at left
  obtain ⟨fuel, rfl⟩ : ∃ less, fuel = less + 1 := ⟨fuel - 1, by omega⟩
  obtain ⟨longer, c', sees'', same', goesOn⟩ := step same sees'
  exact ⟨longer, c', fuel, sees'', by omega, same', fun rest => read (goesOn rest)⟩

/-- **A chain that stops** has recovered what it was led to. -/
theorem LeadsTo.recovers {bound : Nat} (leads : LeadsTo first chain pieces more result)
    (enough : pieces.length + more.length ≤ bound)
    (stops : ∀ {value c fuel}, c.Sees more → (chain value fuel).Yields c value c) :
    (first >>= (chain · bound)).Recovers (Expr.rebuild .plain) pieces more result := by
  intro c sees
  obtain ⟨value, c', fuel, sees', -, same, read⟩ := leads c bound sees enough
  exact ⟨value, c', read (stops sees'), sees', same⟩

/-! #### What goes on an operand -/

/-- Nothing goes on an operand where it stops. -/
theorem yields_postfixStep_none {c : Cursor} {operand : Expr} (stops : Stops region 9 c.next.kind) :
    (postfixStep inner region start operand).Yields c none c := by
  refine yields_postfixStep.mpr ?_
  have never (isRank : goingOnRank region c.next.kind = some 9) : False :=
    lt_irrefl 9 (stops 9 isRank)
  split
  case h_2 found =>
    have noBrace : region.allowsTrailing = false :=
      Bool.eq_false_iff.mpr fun allowed => never (by rw [found, goingOnRank, if_pos allowed])
    simp [noBrace]
  all_goals next found => first | exact ⟨rfl, rfl⟩ | exact (never (by rw [found]; rfl)).elim

theorem yields_postfixChain_stops {c : Cursor} {operand : Expr} {fuel : Nat}
    (stops : Stops region 9 c.next.kind) :
    (postfixChain inner region start operand fuel).Yields c operand c := by
  cases fuel with
  | zero => rfl
  | succ fuel =>
      exact yields_postfixChain.mpr ⟨none, c, yields_postfixStep_none stops, rfl, rfl⟩

/-- **What goes on an operand** is a step of the chain. -/
theorem LeadsTo.postfix
    (leads : LeadsTo (primary inner) (postfixChain inner region start) pieces (front ++ more) base)
    (nonempty : front ≠ [])
    (step : ∀ {value c}, value.rebuild .plain = base → c.Sees (front ++ more) →
      ∃ longer c', (postfixStep inner region start value).Yields c (some longer) c' ∧
        c'.Sees more ∧ longer.rebuild .plain = result) :
    LeadsTo (primary inner) (postfixChain inner region start) (pieces ++ front) more result := by
  refine leads.step nonempty fun same sees => ?_
  obtain ⟨longer, c', yields, sees', same'⟩ := step same sees
  exact ⟨longer, c', sees', same', fun rest =>
    yields_postfixChain.mpr ⟨_, c', yields, rest⟩⟩

/-! #### Operators between operands -/

theorem yields_binaryChain_stops {c : Cursor} {operand : Expr} {least fuel : Nat}
    (stops : Stops region (least + 1) c.next.kind) :
    (binaryChain inner region start least operand fuel).Yields c operand c := by
  cases fuel with
  | zero => rfl
  | succ fuel =>
      refine yields_binaryChain.mpr ?_
      cases found : binaryOp? c.next.kind with
      | none => exact ⟨rfl, rfl⟩
      | some op =>
          have loose := stops.binaryOp found
          have isLoose : op.precedence < least ∨ c.breaks region = true := .inl (by omega)
          show if _ then _ else _
          rw [if_pos isLoose]
          exact ⟨rfl, rfl⟩

end Parser

/-! ### Starts -/

/-- Whether an operand without operators before it starts with a token. -/
def startsOperand : TokenKind → Bool
  | .identifier | .integer | .string | .keyword .true_ | .keyword .false_ | .keyword .nil_
  | .keyword .self_ | .symbol .underscore | .symbol .dot | .symbol .parenOpen
  | .symbol .bracketOpen | .symbol .braceOpen => true
  | _ => false

/-- Whether an expression that binds as tightly as a rank starts with a token. -/
def startsExpr (rank : Nat) (kind : TokenKind) : Bool :=
  startsOperand kind || rank < 9 && (Parser.unaryOp? kind).isSome

theorem startsExpr_of_startsOperand {rank : Nat} {kind : TokenKind}
    (starts : startsOperand kind = true) : startsExpr rank kind = true := by
  rw [startsExpr, starts, Bool.true_or]

theorem startsExpr_mono {rank other : Nat} (less : other ≤ rank) {kind : TokenKind}
    (starts : startsExpr rank kind = true) : startsExpr other kind = true := by
  simp only [startsExpr, Bool.or_eq_true, Bool.and_eq_true, decide_eq_true_eq] at starts ⊢
  exact starts.imp_right fun ⟨loose, isUnary⟩ => ⟨by omega, isUnary⟩

theorem unaryOp?_of_startsExpr {kind : TokenKind} (starts : startsExpr 9 kind = true) :
    Parser.unaryOp? kind = none := by
  unfold Parser.unaryOp?
  split <;> first | rfl | exact absurd starts (by decide)

/-- Whether a token stands between names: between a label and its value, or after the name of a
closure parameter. -/
def separatesNames : TokenKind → Bool
  | .symbol .colon | .symbol .comma | .keyword .in_ => true
  | _ => false

theorem separatesNames_of_startsExpr {rank : Nat} {kind : TokenKind}
    (starts : startsExpr rank kind = true) : separatesNames kind = false := by
  unfold separatesNames
  split <;> first | rfl | simp [startsExpr, startsOperand, Parser.unaryOp?] at starts

/-- **Pieces of which the second is none that stands between names**, so that the first is not taken
for a label or for the parameter of a closure. -/
def SecondApart (pieces : List Piece) : Prop :=
  ∀ ⦃kind : TokenKind⦄ ⦃more : List Piece⦄, separatesNames kind = true → headKind more ≠ kind →
    headKind (pieces ++ more).tail ≠ kind

namespace SecondApart

variable {pieces front : List Piece} {piece second : Piece}

theorem single (piece : Piece) : SecondApart [piece] :=
  fun _ _ _ other => other

theorem cons (apart : separatesNames second.lexeme.kind = false) :
    SecondApart (piece :: second :: pieces) := by
  rintro kind more separates - same
  have same : second.lexeme.kind = kind := same
  rw [same, separates] at apart
  cases apart

theorem append (apart : SecondApart pieces) (next : separatesNames piece.lexeme.kind = false) :
    SecondApart (pieces ++ piece :: front) := by
  intro kind more separates _
  rw [List.append_assoc]
  refine apart separates fun same => ?_
  have same : piece.lexeme.kind = kind := same
  rw [same, separates] at next
  cases next

/-- Before a piece that does not stand between names the second piece does not either. -/
theorem separates (apart : SecondApart pieces) (next : separatesNames piece.lexeme.kind = false) :
    separatesNames (headKind (pieces ++ piece :: front).tail) = false := by
  refine Bool.eq_false_iff.mpr fun separates => ?_
  refine apart separates (fun same => ?_) rfl
  have same : piece.lexeme.kind = _ := same
  rw [← same, next] at separates
  cases separates

end SecondApart

/-! ### Reading expressions back -/

namespace Expr

/-- **An expression fits a region** when no closure in it is taken for the braces after it. -/
def Fits (region : Region) (expr : Expr) : Prop :=
  region.allowsTrailing = true ∨ expr.FitsHeader

/-- An operand is read back with what goes on it. A closure that comes next must not be taken by the
operand. -/
def LeadsOperand (expr : Expr) (pieces : List Piece) : Prop :=
  ∀ ⦃depth : Nat⦄ ⦃region : Region⦄ ⦃start : Nat⦄ ⦃more : List Piece⦄,
    pieces.length + more.length ≤ depth + 1 → expr.Fits region →
    (region.allowsTrailing = true → headKind more = .symbol .braceOpen →
      expr.takesClosure = false) →
    Parser.LeadsTo (Parser.primary (Parser.innerBelow depth))
      (Parser.postfixChain (Parser.innerBelow depth) region start) pieces more
      expr.reread

/-- An operand is read back with the operators before it. -/
def RecoversUnary (expr : Expr) (pieces : List Piece) : Prop :=
  ∀ ⦃depth : Nat⦄ ⦃region : Region⦄ ⦃more : List Piece⦄,
    pieces.length + more.length ≤ depth + 1 → expr.Fits region →
    Parser.Stops region 8 (headKind more) →
    (Parser.unary (Parser.innerBelow depth) region).Recovers (Expr.rebuild .plain) pieces more
      expr.reread

/-- Operands with operators between them are read back, as far as they bind as tightly as asked
for. -/
def LeadsBinary (expr : Expr) (pieces : List Piece) : Prop :=
  ∀ ⦃depth : Nat⦄ ⦃region : Region⦄ ⦃start least : Nat⦄ ⦃more : List Piece⦄,
    pieces.length + more.length ≤ depth + 1 → expr.Fits region → least + 1 ≤ expr.rank →
    Parser.Stops region (min (expr.rank + 1) 8) (headKind more) →
    Parser.LeadsTo (Parser.unary (Parser.innerBelow depth) region)
      (Parser.binaryChain (Parser.innerBelow depth) region start least) pieces more
      expr.reread

/-- An expression that is no assignment is read back. -/
def RecoversTernary (expr : Expr) (pieces : List Piece) : Prop :=
  ∀ ⦃depth : Nat⦄ ⦃region : Region⦄ ⦃more : List Piece⦄,
    pieces.length + more.length ≤ depth + 1 → expr.Fits region →
    Parser.Stops region 1 (headKind more) →
    (Parser.ternary (Parser.innerBelow depth) region).Recovers (Expr.rebuild .plain) pieces more
      expr.reread

/-- An expression is read back. -/
def RecoversWhole (expr : Expr) (pieces : List Piece) : Prop :=
  ∀ ⦃depth : Nat⦄ ⦃region : Region⦄ ⦃more : List Piece⦄,
    pieces.length + more.length ≤ depth + 1 → expr.Fits region →
    Parser.Stops region 0 (headKind more) →
    (Parser.expression (Parser.innerBelow depth) region).Recovers (Expr.rebuild .plain) pieces more
      expr.reread

/-- **An expression is printed as pieces** when these make up its text and are read back at every
level at which it binds tightly enough. -/
structure Prints (gap : Nat) (expr : Expr) (pieces : List Piece) : Prop where
  printed : Printed (startsExpr expr.rank) gap expr.text pieces
  second : SecondApart pieces
  closes : expr.rank = 9 → (∀ span, expr ≠ .ident span "_") →
    ∀ afterOperand, endsOperand afterOperand pieces = true
  operand : expr.rank = 9 → expr.LeadsOperand pieces
  unary : 8 ≤ expr.rank → expr.RecoversUnary pieces
  binary : 2 ≤ expr.rank → expr.LeadsBinary pieces
  ternary : 1 ≤ expr.rank → expr.RecoversTernary pieces
  whole : expr.RecoversWhole pieces

/-! #### From level to level -/

variable {expr : Expr} {gap : Nat} {pieces more : List Piece}

theorem LeadsOperand.unary (leads : expr.LeadsOperand pieces)
    (noOperator : Parser.unaryOp? (headKind pieces) = none) (nonempty : pieces ≠ []) :
    expr.RecoversUnary pieces := by
  intro depth region more few fits stops c sees
  have noBrace : region.allowsTrailing = true → headKind more = .symbol .braceOpen →
      expr.takesClosure = false := by
    intro allowed isBrace
    refine absurd (stops 9 ?_) (by decide)
    rw [isBrace, Parser.goingOnRank, if_pos allowed]
    rfl
  obtain ⟨value, c', yields, sees', same⟩ := (@leads _ _ c.next.span.start _ few fits noBrace).recovers few
    (fun sees' => Parser.yields_postfixChain_stops (sees'.kind ▸ stops.mono (by decide))) c sees
  obtain ⟨operand, middle, first, rest⟩ := Parser.yields_bind.mp yields
  refine ⟨value, c', Parser.yields_unary.mpr ?_, sees', same⟩
  obtain ⟨piece, others, rfl⟩ := List.exists_cons_of_ne_nil nonempty
  rw [show c.next.kind = headKind (piece :: others) from sees.kind, noOperator]
  exact ⟨operand, middle, first, rest⟩

theorem RecoversUnary.binary (recovers : expr.RecoversUnary pieces) : expr.LeadsBinary pieces := by
  intro depth region start least more few fits _ stops
  exact .of_recovers (recovers few fits (stops.mono (Nat.min_le_right _ _)))

/-- Operands with operators between them are read up to one that binds less tightly. -/
theorem LeadsBinary.recovers (leads : expr.LeadsBinary pieces) {depth least : Nat} {region : Region}
    (few : pieces.length + more.length ≤ depth + 1) (fits : expr.Fits region)
    (tight : least + 1 ≤ expr.rank) (small : least ≤ 7)
    (stops : Parser.Stops region (least + 1) (headKind more)) :
    (Parser.binary (Parser.innerBelow depth) region least).Recovers (Expr.rebuild .plain) pieces more
      expr.reread := by
  intro c sees
  have stopsLater : Parser.Stops region (min (expr.rank + 1) 8) (headKind more) :=
    stops.mono (by omega)
  obtain ⟨value, c', yields, sees', same⟩ := (leads few fits tight stopsLater).recovers few
    (fun sees' => Parser.yields_binaryChain_stops (sees'.kind ▸ stops)) c sees
  obtain ⟨left, middle, first, rest⟩ := Parser.yields_bind.mp yields
  exact ⟨value, c', Parser.yields_binary.mpr ⟨left, middle, first, rest⟩, sees', same⟩

theorem LeadsBinary.ternary (leads : expr.LeadsBinary pieces) (tight : 2 ≤ expr.rank) :
    expr.RecoversTernary pieces := by
  intro depth region more few fits stops c sees
  obtain ⟨value, c', yields, sees', same⟩ :=
    leads.recovers few fits tight (by decide) (stops.mono (by decide)) c sees
  refine ⟨value, c', Parser.yields_ternary.mpr ⟨value, c', yields, ?_⟩, sees', same⟩
  rw [if_pos]
  · exact ⟨rfl, rfl⟩
  · refine .inl fun isQuestion => absurd (stops 1 ?_) (by decide)
    rw [← sees'.kind, isQuestion]
    rfl

theorem RecoversTernary.whole (recovers : expr.RecoversTernary pieces) :
    expr.RecoversWhole pieces := by
  intro depth region more few fits stops c sees
  obtain ⟨value, c', yields, sees', same⟩ :=
    recovers few fits (stops.mono (by decide)) c sees
  refine ⟨value, c', Parser.yields_expression.mpr ⟨value, c', yields, ?_⟩, sees', same⟩
  rw [if_neg]
  · exact ⟨rfl, rfl⟩
  · rintro ⟨isAssign, -⟩
    refine absurd (stops 0 ?_) (by decide)
    rw [← sees'.kind, isAssign]
    rfl

namespace Prints

/-! #### Prints from levels -/

theorem of_operand (isOperand : expr.rank = 9) (printed : Printed startsOperand gap expr.text pieces)
    (second : SecondApart pieces)
    (closes : (∀ span, expr ≠ .ident span "_") →
      ∀ afterOperand, endsOperand afterOperand pieces = true)
    (operand : expr.LeadsOperand pieces) : Prints gap expr pieces := by
  have starts := printed.mono fun kind => @startsExpr_of_startsOperand expr.rank kind
  have unary : expr.RecoversUnary pieces := by
    obtain ⟨lexeme, rest, rfl, isStart, -⟩ := printed.opens
    exact operand.unary (unaryOp?_of_startsExpr (startsExpr_of_startsOperand isStart))
      (List.cons_ne_nil _ _)
  have ternary := unary.binary.ternary (by omega)
  exact ⟨starts, second, fun _ => closes, fun _ => operand, fun _ => unary, fun _ => unary.binary,
    fun _ => ternary, ternary.whole⟩

theorem of_unary (isUnary : expr.rank = 8) (printed : Printed (startsExpr 8) gap expr.text pieces)
    (second : SecondApart pieces) (unary : expr.RecoversUnary pieces) :
    Prints gap expr pieces := by
  have ternary := unary.binary.ternary (by omega)
  exact ⟨isUnary ▸ printed, second, by omega, by omega, fun _ => unary, fun _ => unary.binary,
    fun _ => ternary, ternary.whole⟩

theorem of_binary (tight : 2 ≤ expr.rank) (loose : expr.rank < 8)
    (printed : Printed (startsExpr expr.rank) gap expr.text pieces) (second : SecondApart pieces)
    (binary : expr.LeadsBinary pieces) : Prints gap expr pieces := by
  have ternary := binary.ternary tight
  exact ⟨printed, second, by omega, by omega, by omega, fun _ => binary,
    fun _ => ternary, ternary.whole⟩

theorem of_ternary (isTernary : expr.rank = 1)
    (printed : Printed (startsExpr 1) gap expr.text pieces) (second : SecondApart pieces)
    (ternary : expr.RecoversTernary pieces) : Prints gap expr pieces :=
  ⟨isTernary ▸ printed, second, by omega, by omega, by omega, by omega, fun _ => ternary,
    ternary.whole⟩

theorem of_whole (isWhole : expr.rank = 0)
    (printed : Printed (startsExpr 0) gap expr.text pieces) (second : SecondApart pieces)
    (whole : expr.RecoversWhole pieces) : Prints gap expr pieces :=
  ⟨isWhole ▸ printed, second, by omega, by omega, by omega, by omega, by omega, whole⟩

/-! #### One level further in -/

variable {depth : Nat} {region : Region}

theorem length_pos (prints : Prints gap expr pieces) : 0 < pieces.length := by
  obtain ⟨lexeme, rest, rfl, -⟩ := prints.printed.opens
  exact Nat.succ_pos _

theorem headKind_append (prints : Prints gap expr pieces) (others : List Piece) :
    startsExpr expr.rank (headKind (pieces ++ others)) = true := by
  obtain ⟨lexeme, rest, rfl, starts, -⟩ := prints.printed.opens
  exact starts

theorem innerUnary (prints : Prints gap expr pieces) (tight : 8 ≤ expr.rank)
    (few : pieces.length + more.length ≤ depth) (fits : expr.Fits region)
    (stops : Parser.Stops region 8 (headKind more)) :
    ((Parser.innerOfDepth depth).unary region).Recovers (Expr.rebuild .plain) pieces more
      expr.reread := by
  have some := prints.length_pos
  obtain ⟨depth, rfl⟩ : ∃ less, depth = less + 1 := ⟨depth - 1, by omega⟩
  exact prints.unary tight few fits stops

theorem innerBinary {least : Nat} (prints : Prints gap expr pieces) (tight : least + 1 ≤ expr.rank)
    (few : pieces.length + more.length ≤ depth) (fits : expr.Fits region) (small : least ≤ 7)
    (binds : 1 ≤ least) (stops : Parser.Stops region (least + 1) (headKind more)) :
    ((Parser.innerOfDepth depth).binary region least).Recovers (Expr.rebuild .plain) pieces more
      expr.reread := by
  have some := prints.length_pos
  obtain ⟨depth, rfl⟩ : ∃ less, depth = less + 1 := ⟨depth - 1, by omega⟩
  exact (prints.binary (by omega)).recovers few fits tight small stops

theorem innerTernary (prints : Prints gap expr pieces) (tight : 1 ≤ expr.rank)
    (few : pieces.length + more.length ≤ depth) (fits : expr.Fits region)
    (stops : Parser.Stops region 1 (headKind more)) :
    ((Parser.innerOfDepth depth).ternary region).Recovers (Expr.rebuild .plain) pieces more
      expr.reread := by
  have some := prints.length_pos
  obtain ⟨depth, rfl⟩ : ∃ less, depth = less + 1 := ⟨depth - 1, by omega⟩
  exact prints.ternary tight few fits stops

theorem innerExpression (prints : Prints gap expr pieces)
    (few : pieces.length + more.length ≤ depth) (fits : expr.Fits region)
    (stops : Parser.Stops region 0 (headKind more)) :
    ((Parser.innerOfDepth depth).expression region).Recovers (Expr.rebuild .plain) pieces more
      expr.reread := by
  have some := prints.length_pos
  obtain ⟨depth, rfl⟩ : ∃ less, depth = less + 1 := ⟨depth - 1, by omega⟩
  exact prints.whole few fits stops

end Prints

end Expr

/-! ### Operators -/

/-- The sign of an operator before an operand. -/
def UnaryOp.sign : UnaryOp → Symbol
  | .not => .bang
  | .negate => .minus

/-- The sign of an operator between two operands. -/
def BinaryOp.sign : BinaryOp → Symbol
  | .or => .or
  | .and => .and
  | .equal => .equal
  | .notEqual => .notEqual
  | .less => .less
  | .greater => .greater
  | .lessEqual => .lessEqual
  | .greaterEqual => .greaterEqual
  | .coalesce => .coalesce
  | .add => .plus
  | .subtract => .minus
  | .multiply => .star
  | .divide => .slash
  | .remainder => .percent

theorem UnaryOp.of_sign (op : UnaryOp) :
    Parser.unaryOp? (.symbol op.sign) = some op ∧ op.sign ≠ .underscore ∧
      op.sign.fits false = true ∧ op.sign.spelling = op.text ∧
      (TokenKind.symbol op.sign).endsOperand = false ∧
      (∀ c, c ≠ '=' → c ≠ '>' → op.sign.joins c = false) ∧
      ∃ c ∈ op.sign.spelling.toList.head?, c ≠ '=' ∧ c ≠ '>' := by
  cases op
  · exact ⟨rfl, nofun, rfl, rfl, rfl, fun c noEqual _ => beq_eq_false_iff_ne.mpr noEqual,
      '!', rfl, by decide⟩
  · exact ⟨rfl, nofun, rfl, rfl, rfl, fun c _ noGreater => beq_eq_false_iff_ne.mpr noGreater,
      '-', rfl, by decide⟩

theorem BinaryOp.of_sign (op : BinaryOp) :
    Parser.binaryOp? (.symbol op.sign) = some op ∧
      (∀ region, Parser.goingOnRank region (.symbol op.sign) = some (op.precedence + 1)) ∧
      op.sign ≠ .underscore ∧ op.sign.fits false = true ∧ op.sign.spelling = op.text ∧
      separatesNames (.symbol op.sign) = false ∧ op.precedence ≤ 6 := by
  cases op <;> exact ⟨rfl, fun _ => rfl, nofun, rfl, rfl, rfl, by decide⟩

/-- Two printed texts with a sign between them that stands between spaces. -/
theorem Lexer.Printed.operator {kinds others : TokenKind → Bool} {gap : Nat} {left right : String}
    {pieces more : List Piece} (sign : Symbol) (leftPrinted : Printed kinds gap left pieces)
    (rightPrinted : Printed others 1 right more) (isSign : sign ≠ .underscore)
    (fits : sign.fits false = true) :
    Printed kinds gap (left ++ " " ++ sign.spelling ++ " " ++ right)
      (pieces ++ .sign 1 sign :: more) := by
  obtain ⟨lexeme, rest, rfl, starts⟩ := leftPrinted.opens
  refine ⟨?_, ⟨lexeme, _, rfl, starts⟩, fun space following => ?_⟩
  · rw [Lexer.render_append, leftPrinted.text, Lexer.render_cons, rightPrinted.text]
    simp [Piece.sign, Piece.spaced]
  · refine Lexer.lexes_append.mpr ⟨leftPrinted.lexes space (Lexer.loose_spaced Nat.one_pos), ?_⟩
    rw [Lexer.lexes_sign isSign (by simpa using fits) (rightPrinted.apart (.inl Nat.one_pos))]
    exact rightPrinted.lexes (fun _ => Nat.one_pos) following

/-- No line break is before a printed piece. -/
theorem Cursor.Sees.breaks {c : Cursor} {gap : Nat} {lexeme : Lexeme} {pieces : List Piece}
    {region : Region} (sees : c.Sees (.spaced gap lexeme :: pieces)) : c.breaks region = false := by
  rw [Cursor.breaks, sees.newlineBefore, Bool.and_false]

/-! ### Texts -/

section Texts

variable (span : Span)

theorem Argument.text_labelled (label : Name) (value : Expr) :
    (Argument.mk span (some label) value).text = label.text ++ ": " ++ value.text := rfl

namespace Expr

theorem text_literal (value : Literal) : (literal span value).text = value.text := rfl

theorem text_implicitMember (name : Name) : (implicitMember span name).text = "." ++ name.text := rfl

theorem text_member (base : Expr) (name : Name) :
    (member span base name).text = base.text ++ "." ++ name.text := rfl

theorem text_call_closure (callee : Expr) (closure : Closure) :
    (call span callee [] (some closure)).text = callee.text ++ " " ++ closure.text := rfl

theorem text_subscript (base : Expr) (args : List Argument) :
    (subscript span base args).text =
      base.text ++ "[" ++ commaSeparated (Argument.texts args) ++ "]" := rfl

theorem text_array (elements : List Expr) :
    (array span elements).text = "[" ++ commaSeparated (texts elements) ++ "]" := rfl

theorem text_unary (op : UnaryOp) (operand : Expr) :
    (unary span op operand).text = op.text ++ operand.text := rfl

theorem text_ternary (test thenValue elseValue : Expr) :
    (ternary span test thenValue elseValue).text =
      test.text ++ " ? " ++ thenValue.text ++ " : " ++ elseValue.text := rfl

theorem text_assign (target value : Expr) (sign : Span) :
    (assign span target sign value).text = target.text ++ " = " ++ value.text := rfl

end Expr

end Texts

namespace Expr.Prints

variable {gap : Nat} {pieces others more : List Piece} {depth : Nat} {region : Region}

/-- An operation with one operand. -/
theorem unaryOperation {operand : Expr} {op : UnaryOp} (prints : Prints 0 operand pieces)
    (tight : 8 ≤ operand.rank) (span : Span) :
    Prints gap (.unary span op operand) (.sign gap op.sign :: pieces) := by
  obtain ⟨isOp, isSign, fits, spelled, noOperand, alone, first⟩ := op.of_sign
  refine of_unary rfl ⟨?_, ⟨_, _, rfl, ?_, first⟩, fun space following => ?_⟩ ?_ ?_
  · rw [Lexer.render_cons, prints.printed.text]
    simp [text_unary, Piece.sign, Piece.spaced, spelled]
  · simp [startsExpr, isOp]
  · rw [Lexer.lexes_sign isSign _ (prints.printed.apart (.inr alone)), noOperand]
    · exact prints.printed.lexes (fun after => absurd after Bool.false_ne_true) following
    · rwa [Bool.and_eq_false_imp.mpr]
      intro after
      simpa using (space after).ne'
  · obtain ⟨lexeme, rest, rfl, starts, -⟩ := prints.printed.opens
    exact .cons (separatesNames_of_startsExpr starts)
  · intro depth region more few fits stops c sees
    have few : pieces.length + more.length ≤ depth := by
      simp only [List.length_cons] at few
      omega
    obtain ⟨value, c', yields, sees', same⟩ :=
      prints.innerUnary tight few fits stops c.advance sees.advance
    refine ⟨.unary (c'.spanFrom c.next.span.start) op value, c', Parser.yields_unary.mpr ?_, sees', congrArg _ same⟩
    rw [show c.next.kind = .symbol op.sign from sees.kind, isOp]
    exact ⟨value, c', yields, rfl, rfl⟩

/-- An operation with two operands. -/
theorem binaryOperation {left right : Expr} {op : BinaryOp} (leftPrints : Prints gap left pieces)
    (rightPrints : Prints 1 right others) (tightLeft : op.precedence + 1 ≤ left.rank)
    (tightRight : op.precedence + 2 ≤ right.rank) (span : Span) :
    Prints gap (.binary span left op right) (pieces ++ .sign 1 op.sign :: others) := by
  obtain ⟨isOp, isRank, isSign, fits, spelled, apart, small⟩ := op.of_sign
  have binds := op.precedence_pos
  have rank : (Expr.binary span left op right).rank = op.precedence + 1 := rfl
  refine of_binary (by omega) (by omega) ?_ (leftPrints.second.append apart) ?_
  · have printed := leftPrints.printed.operator op.sign rightPrints.printed isSign fits
    rw [spelled] at printed
    exact printed.mono fun kind => startsExpr_mono tightLeft
  · intro depth region start least more few fits tight stops
    simp only [List.length_append, List.length_cons] at few
    have fewLeft : pieces.length + (.sign 1 op.sign :: others ++ more).length ≤ depth + 1 := by
      simp only [List.length_append, List.length_cons]
      omega
    have stopsLeft : Parser.Stops region (min (left.rank + 1) 8) (.symbol op.sign) := by
      intro other isOther
      rw [isRank] at isOther
      cases isOther
      omega
    have fewRight : others.length + more.length ≤ depth := by omega
    have stopsRight := stops.mono (show _ ≤ op.precedence + 1 + 1 by omega)
    refine (leftPrints.binary (by omega) fewLeft (fits.imp_right And.left) (by omega)
      stopsLeft).step (List.cons_ne_nil _ _) fun {value c fuel} same sees => ?_
    obtain ⟨found, c', yields, sees', same'⟩ := rightPrints.innerBinary tightRight fewRight
      (fits.imp_right And.right) (by omega) (by omega) stopsRight c.advance sees.advance
    refine ⟨.binary (c'.spanFrom start) value op found, c', sees', by rw [rebuild, same, same']; rfl,
      fun rest => Parser.yields_binaryChain.mpr ?_⟩
    have noBreak : c.breaks region = false := sees.breaks
    have goesOn : ¬ (op.precedence < least ∨ c.breaks region = true) := by
      simp only [noBreak, Bool.false_eq_true, or_false]
      omega
    rw [show c.next.kind = .symbol op.sign from sees.kind, isOp]
    show if _ then _ else _
    rw [if_neg goesOn]
    exact ⟨found, c', yields, rest⟩

/-- A conditional operator. -/
theorem conditionalOperator {test thenValue elseValue : Expr} {elses : List Piece}
    (testPrints : Prints gap test pieces) (thenPrints : Prints 1 thenValue others)
    (elsePrints : Prints 1 elseValue elses) (tightTest : 2 ≤ test.rank)
    (tightThen : 1 ≤ thenValue.rank) (tightElse : 1 ≤ elseValue.rank) (span : Span) :
    Prints gap (.ternary span test thenValue elseValue)
      (pieces ++ .sign 1 .question :: (others ++ .sign 1 .colon :: elses)) := by
  refine of_ternary rfl ?_ (testPrints.second.append rfl) ?_
  · have values := thenPrints.printed.operator .colon elsePrints.printed nofun rfl
    have printed := testPrints.printed.operator .question values nofun rfl
    have same : (Expr.ternary span test thenValue elseValue).text = test.text ++ " " ++ "?" ++ " " ++
        (thenValue.text ++ " " ++ ":" ++ " " ++ elseValue.text) := by
      simp [text_ternary, ← String.toList_inj]
    rw [same]
    exact printed.mono fun kind => startsExpr_mono (Nat.le_of_succ_le tightTest)
  · intro depth region more few fits stops c sees
    simp only [List.length_append, List.length_cons] at few
    rw [List.append_assoc] at sees
    have fewTest : pieces.length +
        (.sign 1 .question :: (others ++ .sign 1 .colon :: elses) ++ more).length ≤ depth + 1 := by
      simp only [List.length_append, List.length_cons]
      omega
    obtain ⟨testFound, question, testYields, atQuestion, sameTest⟩ :=
      (testPrints.binary tightTest).recovers fewTest (fits.imp_right And.left) tightTest
        (by decide) (by rintro _ ⟨⟩; decide) c sees
    have fewThen : others.length + (.sign 1 .colon :: elses ++ more).length ≤ depth := by
      simp only [List.length_append, List.length_cons]
      omega
    have seesThen := atQuestion.advance
    rw [List.append_eq, List.append_assoc] at seesThen
    obtain ⟨thenFound, colon, thenYields, atColon, sameThen⟩ := thenPrints.innerTernary tightThen
      fewThen (fits.imp_right fun both => both.2.1) nofun question.advance seesThen
    have fewElse : elses.length + more.length ≤ depth := by omega
    obtain ⟨elseFound, c', elseYields, sees', sameElse⟩ := elsePrints.innerTernary tightElse
      fewElse (fits.imp_right fun both => both.2.2) stops colon.advance atColon.advance
    refine ⟨.ternary (c'.spanFrom c.next.span.start) testFound thenFound elseFound, c',
      Parser.yields_ternary.mpr ⟨testFound, question, testYields, ?_⟩, sees', ?_⟩
    · have isQuestion : question.next.kind = .symbol .question := atQuestion.kind
      have noBreak : question.breaks region = false := atQuestion.breaks
      rw [if_neg (by simp [isQuestion, noBreak])]
      exact ⟨thenFound, colon, thenYields, atColon.kind, elseFound, c', elseYields, rfl, rfl⟩
    · rw [rebuild, sameTest, sameThen, sameElse]
      rfl

/-- An assignment. -/
theorem assignment {target value : Expr} (targetPrints : Prints gap target pieces)
    (valuePrints : Prints 1 value others) (tight : 1 ≤ target.rank) (span sign : Span) :
    Prints gap (.assign span target sign value) (pieces ++ .sign 1 .assign :: others) := by
  refine of_whole rfl ?_ (targetPrints.second.append rfl) ?_
  · have printed := targetPrints.printed.operator .assign valuePrints.printed nofun rfl
    have same : (Expr.assign span target sign value).text =
        target.text ++ " " ++ "=" ++ " " ++ value.text := by
      simp [text_assign, ← String.toList_inj]
    rw [same]
    exact printed.mono fun kind => startsExpr_mono (Nat.zero_le _)
  · intro depth region more few fits stops c sees
    simp only [List.length_append, List.length_cons] at few
    rw [List.append_assoc] at sees
    have fewTarget : pieces.length + (.sign 1 .assign :: others ++ more).length ≤ depth + 1 := by
      simp only [List.length_append, List.length_cons]
      omega
    obtain ⟨targetFound, middle, targetYields, atSign, sameTarget⟩ :=
      targetPrints.ternary tight fewTarget (fits.imp_right And.left)
        (by rintro _ ⟨⟩; decide) c sees
    have fewValue : others.length + more.length ≤ depth := by omega
    obtain ⟨valueFound, c', valueYields, sees', sameValue⟩ := valuePrints.innerExpression
      fewValue (fits.imp_right And.right) stops middle.advance atSign.advance
    refine ⟨.assign (c'.spanFrom c.next.span.start) targetFound middle.next.span valueFound, c',
      Parser.yields_expression.mpr ⟨targetFound, middle, targetYields, ?_⟩, sees', ?_⟩
    · rw [if_pos ⟨atSign.kind, atSign.breaks⟩]
      exact ⟨valueFound, c', valueYields, rfl, rfl⟩
    · rw [rebuild, sameTarget, sameValue]
      rfl

end Expr.Prints

/-! ### Operands of one word -/

/-- Keywords are words. -/
theorem isWord_spelling (word : Keyword) : IsWord (.keyword word) word.spelling := by
  have checked : ∀ word ∈ Keyword.all, word.spelling.toList.head?.any Lexer.startsName = true ∧
      (word.spelling.toList.tail.all Lexer.continuesName = true) ∧
      Lexer.wordKind word.spelling = .keyword word := by
    decide +kernel
  obtain ⟨starts, continues, kind⟩ := checked word (Keyword.mem_all word)
  obtain ⟨first, isFirst, starts⟩ := (Option.any_eq_true _ _).mp starts
  obtain ⟨rest, spelled⟩ := List.head?_eq_some_iff.mp isFirst
  rw [spelled] at continues
  refine ⟨first, rest, starts, List.all_eq_true.mp continues, ?_, kind⟩
  rw [← spelled, String.ofList_toList]

/-- The underscore is a word. -/
theorem isWord_underscore : IsWord (.symbol .underscore) "_" :=
  ⟨'_', [], by decide, List.forall_mem_nil _, rfl, by decide⟩

namespace Expr.Prints

variable {gap : Nat} {expr : Expr} {pieces : List Piece}

/-- **An operand of one lexeme.** -/
theorem atom {lexeme : Lexeme} (isOperand : expr.rank = 9)
    (spelled : lexeme.characters = expr.text.toList) (starts : lexeme.Starts startsOperand)
    (lexes : ∀ {afterOperand following}, Loose following →
      Lexes afterOperand [.spaced gap lexeme] following)
    (closes : (∀ span, expr ≠ .ident span "_") → lexeme.kind.endsOperand = true)
    (reads : ∀ {inner : Parser.Inner} {c : Cursor}, c.next.kind = lexeme.kind →
      c.next.text = lexeme.text → ∃ value, (Parser.primary inner).Yields c value c.advance ∧
        value.rebuild .plain = expr.reread) :
    Prints gap expr [.spaced gap lexeme] := by
  refine of_operand isOperand ⟨?_, ⟨_, _, rfl, starts⟩, fun _ loose => lexes loose⟩ (.single _)
    (fun notUnderscore _ => closes notUnderscore) ?_
  · simp [Piece.spaced, spelled]
  · intro depth region start more few _ _
    refine .of_recovers fun c sees => ?_
    obtain ⟨value, yields, same⟩ := reads (sees.kind) sees.text
    exact ⟨value, c.advance, yields, sees.advance, same⟩

/-- An operand of one word. -/
theorem word {kind : TokenKind} (isOperand : expr.rank = 9) (isWord : IsWord kind expr.text)
    (starts : startsOperand kind = true)
    (closes : (∀ span, expr ≠ .ident span "_") → kind.endsOperand = true)
    (reads : ∀ {inner : Parser.Inner} {c : Cursor}, c.next.kind = kind → c.next.text = expr.text →
      ∃ value, (Parser.primary inner).Yields c value c.advance ∧
        value.rebuild .plain = expr.reread) :
    Prints gap expr [.word gap expr.text] := by
  have isKind := Lexer.wordKind_of_isWord isWord
  refine atom isOperand rfl (Lexer.starts_word isWord starts) (fun loose => ?_)
    (fun notUnderscore => isKind ▸ closes notUnderscore) (fun kind text => reads (isKind ▸ kind) text)
  exact (@Lexer.lexes_word _ _ [] _ _ _ isWord loose.word).mpr trivial

/-- A name, the keyword for the enclosing object, or an underscore. -/
theorem ident {name : String} (isName : IsName name ∨ name = "self" ∨ name = "_") (span : Span) :
    Prints gap (.ident span name) [.word gap name] := by
  rcases isName with isName | rfl | rfl
  · refine word rfl isName rfl (fun _ => rfl) fun {inner c} kind text => ?_
    exact ⟨.ident (c.advance.spanFrom c.next.span.start) c.next.text,
      Parser.yields_primary.mpr (by rw [kind]; exact ⟨rfl, rfl⟩), by rw [text]; rfl⟩
  · refine word rfl (isWord_spelling .self_) rfl (fun _ => rfl) fun {inner c} kind text => ?_
    exact ⟨.ident (c.advance.spanFrom c.next.span.start) c.next.text,
      Parser.yields_primary.mpr (by rw [kind]; exact ⟨rfl, rfl⟩), by rw [text]; rfl⟩
  · refine word rfl isWord_underscore rfl (fun other => absurd rfl (other span)) fun {inner c} kind text => ?_
    exact ⟨.ident (c.advance.spanFrom c.next.span.start) c.next.text,
      Parser.yields_primary.mpr (by rw [kind]; exact ⟨rfl, rfl⟩), by rw [text]; rfl⟩

/-- A literal value, unless it has a point in it. -/
theorem literal {span : Span} {value : Literal} (legible : (Expr.literal span value).IsLegible)
    (noFloat : ∀ decimal, value ≠ .float decimal) (gap : Nat) :
    ∃ pieces, Prints gap (.literal span value) pieces := by
  cases value with
  | integer value =>
      obtain ⟨first, rest, spelled⟩ := List.exists_cons_of_ne_nil
        (show (toString value).toList ≠ [] by simp)
      have digit : first.isDigit = true :=
        Lexer.isDigit_of_mem_toString (by rw [spelled]; exact List.mem_cons_self)
      refine ⟨[.number gap value], atom rfl rfl ⟨rfl, first, by rw [spelled]; rfl, ?_, ?_⟩
        (fun loose => (@Lexer.lexes_number _ _ [] _ _ loose).mpr trivial) (fun _ => rfl)
        fun {inner c} kind text => ?_⟩
      · rintro rfl
        exact absurd digit (by decide)
      · rintro rfl
        exact absurd digit (by decide)
      · have denotes : digitsValue c.next.text.toList = value := by
          rw [text]
          exact Lexer.digitsValue_toString value
        refine ⟨.literal (c.advance.spanFrom c.next.span.start) (.integer value),
          Parser.yields_primary.mpr ?_, rfl⟩
        simp only [kind, denotes]
        exact ⟨legible, trivial, trivial⟩
  | float decimal => exact absurd rfl (noFloat decimal)
  | string content =>
      refine ⟨[.string gap content], atom rfl ?_ ⟨rfl, '"', rfl, by decide⟩
        (fun _ => (@Lexer.lexes_string _ _ [] _ _ legible).mpr trivial) (fun _ => rfl)
        fun {inner c} kind text => ?_⟩
      · simp [text_literal, Literal.text]
      · refine ⟨.literal (c.advance.spanFrom c.next.span.start) (.string c.next.text),
          Parser.yields_primary.mpr (by rw [kind]; exact ⟨rfl, rfl⟩), by rw [text]; rfl⟩
  | boolean value =>
      cases value
      · refine ⟨_, word rfl (isWord_spelling .false_) rfl (fun _ => rfl) fun {inner c} kind _ => ?_⟩
        exact ⟨.literal (c.advance.spanFrom c.next.span.start) (.boolean false),
          Parser.yields_primary.mpr (by rw [kind]; exact ⟨rfl, rfl⟩), rfl⟩
      · refine ⟨_, word rfl (isWord_spelling .true_) rfl (fun _ => rfl) fun {inner c} kind _ => ?_⟩
        exact ⟨.literal (c.advance.spanFrom c.next.span.start) (.boolean true),
          Parser.yields_primary.mpr (by rw [kind]; exact ⟨rfl, rfl⟩), rfl⟩
  | nil =>
      refine ⟨_, word rfl (isWord_spelling .nil_) rfl (fun _ => rfl) fun {inner c} kind _ => ?_⟩
      exact ⟨.literal (c.advance.spanFrom c.next.span.start) .nil,
        Parser.yields_primary.mpr (by rw [kind]; exact ⟨rfl, rfl⟩), rfl⟩

/-- A member of the type that the context asks for. -/
theorem implicitMember {name : Name} (isName : IsName name.text) (span : Span) :
    Prints gap (.implicitMember span name) [.sign gap .dot, .word 0 name.text] := by
  have isKind := Lexer.wordKind_of_isWord isName
  refine of_operand rfl ⟨?_, ⟨_, _, rfl, rfl, '.', rfl, by decide⟩, fun _ loose => ?_⟩
    (.cons (by rw [show (Piece.word 0 name.text).lexeme.kind = _ from isKind]; rfl))
    (fun _ _ => by show (Lexer.wordKind name.text).endsOperand = true; rw [isKind]; rfl) ?_
  · simp [text_implicitMember, Piece.sign, Piece.word, Piece.spaced, Symbol.spelling]
  · refine (@Lexer.lexes_sign _ gap _ _ .dot (by decide) rfl (Lexer.apart_word isName)).mpr ?_
    exact (@Lexer.lexes_word _ _ [] _ _ _ isName loose.word).mpr trivial
  · intro depth region start more few _ _
    refine .of_recovers fun c sees => ?_
    have named : c.advance.next.kind = .identifier := sees.advance.kind.trans isKind
    have text : c.advance.next.text = name.text := sees.advance.text
    refine ⟨.implicitMember (c.advance.advance.spanFrom c.next.span.start)
      ⟨c.advance.next.span, c.advance.next.text⟩, c.advance.advance,
      Parser.yields_primary.mpr ?_, sees.advance.advance, by rw [text]; rfl⟩
    rw [show c.next.kind = .symbol .dot from sees.kind]
    exact ⟨named, rfl, rfl⟩

end Expr.Prints

/-! ### Arguments -/

/-- Whether an argument ends at a token. -/
def endsArgument : TokenKind → Bool
  | .symbol .comma | .symbol .parenClose | .symbol .bracketClose => true
  | _ => false

theorem stops_of_endsArgument {kind : TokenKind} (ends : endsArgument kind = true)
    (region : Region) : Parser.Stops region 0 kind := by
  unfold endsArgument at ends
  split at ends <;> first | contradiction | exact nofun

namespace Argument

/-- **An argument is printed as pieces** when these make up its text and are read back. -/
structure Prints (gap : Nat) (argument : Argument) (pieces : List Piece) : Prop where
  printed : Printed (startsExpr 0) gap argument.text pieces
  recovers : ∀ ⦃depth : Nat⦄ ⦃more : List Piece⦄, pieces.length + more.length ≤ depth →
    endsArgument (headKind more) = true →
    (Parser.argument (Parser.innerBelow depth)).Recovers (Argument.rebuild .plain) pieces more
      argument.reread

variable {gap depth : Nat} {pieces more : List Piece} {value : Expr}

/-- An argument without a label. -/
theorem Prints.unlabelled (prints : Expr.Prints gap value pieces) (span : Span) :
    Prints gap ⟨span, none, value⟩ pieces where
  printed := prints.printed.mono fun kind => startsExpr_mono (Nat.zero_le _)
  recovers depth more few ends c sees := by
    obtain ⟨found, c', yields, sees', same⟩ :=
      prints.innerExpression few (.inl rfl) (stops_of_endsArgument ends .delimited) c sees
    have noColon : ¬ (c.next.kind = .identifier ∧ c.second.kind = .symbol .colon) := by
      rintro ⟨-, isColon⟩
      obtain ⟨lexeme, rest, rfl, -⟩ := prints.printed.opens
      have isColon : headKind (rest ++ more) = .symbol .colon := sees.second.symm.trans isColon
      refine prints.second rfl (fun other => ?_) isColon
      rw [other] at ends
      cases ends
    refine ⟨⟨c'.spanFrom c.next.span.start, none, found⟩, c', Parser.yields_argument.mpr ?_, sees', ?_⟩
    · rw [if_neg noColon]
      exact ⟨found, c', yields, rfl, rfl⟩
    · rw [rebuild, same]
      rfl

/-- An argument with a label. -/
theorem Prints.labelled {label : Name} (isName : IsName label.text)
    (prints : Expr.Prints 1 value pieces) (span : Span) :
    Prints gap ⟨span, some label, value⟩ (.word gap label.text :: .sign 0 .colon :: pieces) where
  printed := by
    refine ⟨?_, ⟨_, _, rfl, Lexer.starts_word isName rfl⟩, fun _ loose => ?_⟩
    · rw [Lexer.render_cons, Lexer.render_cons, prints.printed.text]
      simp [text_labelled, Piece.sign, Piece.word, Piece.spaced, Symbol.spelling]
    · rw [Lexer.lexes_word isName (Lexer.loose_solid rfl).word, Lexer.lexes_solid rfl]
      exact prints.printed.lexes (fun _ => Nat.one_pos) loose
  recovers depth more few ends c sees := by
    simp only [List.length_cons] at few
    have isLabel : c.next.kind = .identifier ∧ c.second.kind = .symbol .colon :=
      ⟨sees.kind.trans (Lexer.wordKind_of_isWord isName), sees.second⟩
    have text : c.next.text = label.text := sees.text
    obtain ⟨found, c', yields, sees', same⟩ := prints.innerExpression
      (show pieces.length + more.length ≤ depth by omega) (.inl rfl)
      (stops_of_endsArgument ends .delimited) c.advance.advance sees.advance.advance
    refine ⟨⟨c'.spanFrom c.next.span.start, some ⟨c.next.span, c.next.text⟩, found⟩, c',
      Parser.yields_argument.mpr ?_, sees', ?_⟩
    · rw [if_pos isLabel]
      exact ⟨found, c', yields, rfl, rfl⟩
    · rw [rebuild, same, text]
      rfl

theorem Prints.headKind_append {argument : Argument} (prints : Prints gap argument pieces)
    (others : List Piece) : startsExpr 0 (headKind (pieces ++ others)) = true := by
  obtain ⟨lexeme, rest, rfl, starts, -⟩ := prints.printed.opens
  exact starts

@[simp] theorem value_rebuild (form : CallForm) (argument : Argument) :
    (argument.rebuild form).value = argument.value.rebuild form := by
  cases argument
  rfl

theorem texts_eq_map (args : List Argument) : Argument.texts args = args.map text := by
  induction args with
  | nil => rfl
  | cons argument rest ih => rw [texts, ih, List.map_cons]

/-- **Arguments in brackets** are read back. -/
theorem recovers_arguments {opening closing : Symbol} {args : List Argument}
    (enclosed : Enclosed opening closing Prints gap args pieces)
    (few : pieces.length + more.length ≤ depth + 1)
    (closes : endsArgument (.symbol closing) = true) (notComma : closing ≠ .comma)
    (noStart : startsExpr 0 (.symbol closing) = false) :
    (Parser.arguments (Parser.innerBelow depth) opening closing).Recovers
      (List.map (Argument.rebuild .plain)) pieces more (args.map Argument.reread) := by
  intro c sees
  have items : (Parser.argument (Parser.innerBelow depth)).RecoversItems (Argument.rebuild .plain)
      depth (endsArgument · = true) Prints Argument.reread :=
    fun _ prints few ends => prints.recovers few ends
  obtain ⟨opens, values, c', yields, sees', same⟩ := items.enclosed
    (fun prints others isClosing => by
      have starts := prints.headKind_append others
      rw [isClosing, noStart] at starts
      cases starts)
    enclosed few rfl closes notComma (Nat.le_succ depth) sees
  exact ⟨values, c', Parser.yields_arguments.mpr ⟨opens, yields⟩, sees', same⟩

/-- The text of arguments in brackets. -/
theorem printed_arguments {opening closing : Symbol} {args : List Argument}
    (enclosed : Enclosed opening closing Prints gap args pieces)
    (opens : opening.isSolid = true) (noOperand : (TokenKind.symbol opening).endsOperand = false)
    (closes : closing.isSolid = true) :
    Printed (· == .symbol opening) gap
      (opening.spelling ++ commaSeparated (Argument.texts args) ++ closing.spelling) pieces := by
  rw [texts_eq_map]
  exact enclosed.printed (fun prints => prints.printed) opens noOperand closes

/-- The piece after the opening bracket of arguments is none that stands between names. -/
theorem second_arguments {opening closing : Symbol} {args : List Argument}
    (enclosed : Enclosed opening closing Prints gap args pieces)
    (apart : separatesNames (.symbol closing) = false) : SecondApart pieces := by
  obtain ⟨inside, rfl, ⟨rfl, rfl⟩ | listed⟩ := enclosed
  · exact .cons apart
  · obtain ⟨lexeme, rest, rfl, starts, -⟩ := (listed.printed (fun prints => prints.printed) rfl).opens
    exact .cons (separatesNames_of_startsExpr starts)

end Argument

/-! ### Closures -/

/-- **A closure is printed as pieces** when these make up its text and are read back. -/
structure Closure.Prints (gap : Nat) (closure : Closure) (pieces : List Piece) : Prop where
  printed : Printed (· == .symbol .braceOpen) gap closure.text pieces
  second : SecondApart pieces
  closes : ∀ afterOperand, endsOperand afterOperand pieces = true
  recovers : ∀ ⦃depth : Nat⦄ ⦃more : List Piece⦄, pieces.length + more.length ≤ depth + 1 →
    (Parser.closure (Parser.innerBelow depth)).Recovers (Closure.rebuild .plain) pieces more
      closure.reread

namespace Expr.Prints

variable {gap : Nat} {pieces others : List Piece}

/-! ### Operands in brackets -/

/-- An operand in brackets or braces. -/
theorem bracketed {opening : Symbol} {expr : Expr} (isOperand : expr.rank = 9)
    (starts : startsOperand (.symbol opening) = true)
    (printed : Printed (· == .symbol opening) gap expr.text pieces) (second : SecondApart pieces)
    (closes : ∀ afterOperand, endsOperand afterOperand pieces = true)
    (recovers : ∀ ⦃depth : Nat⦄ ⦃more : List Piece⦄, pieces.length + more.length ≤ depth + 1 →
      (Parser.primary (Parser.innerBelow depth)).Recovers (Expr.rebuild .plain) pieces more
        expr.reread) : Prints gap expr pieces :=
  of_operand isOperand (printed.mono fun _ isOpening => beq_iff_eq.mp isOpening ▸ starts) second
    (fun _ => closes) fun _ _ _ _ few _ _ => .of_recovers (recovers few)

/-- The kind of the first of pieces in brackets. -/
theorem headKind_enclosed {α : Type} {opening closing : Symbol}
    {prints : Nat → α → List Piece → Prop} {items : List α}
    (enclosed : Enclosed opening closing prints gap items pieces) (more : List Piece) :
    Cursor.headKind (pieces ++ more) = .symbol opening := by
  obtain ⟨inside, rfl, -⟩ := enclosed
  rfl

/-- Elements between parentheses, of which there is not just one without a label. -/
theorem tuple {span : Span} {elements : List Argument}
    (legible : (Expr.tuple span elements).IsLegible)
    (enclosed : Enclosed .parenOpen .parenClose Argument.Prints gap elements pieces) :
    Prints gap (.tuple span elements) pieces := by
  refine bracketed rfl rfl (Argument.printed_arguments enclosed rfl rfl rfl)
    (Argument.second_arguments enclosed rfl) (fun _ => enclosed.endsOperand_eq) ?_
  intro depth more few c sees
  obtain ⟨found, c', yields, sees', same⟩ :=
    Argument.recovers_arguments enclosed few rfl (by decide) rfl c sees
  have several : Parser.parenthesized (c'.spanFrom c.next.span.start) found =
      .tuple (c'.spanFrom c.next.span.start) found := by
    unfold Parser.parenthesized
    split
    · next place value =>
        rcases elements with _ | ⟨⟨_, _ | label, _⟩, _ | _⟩
        case cons.none.nil => exact absurd rfl (legible _ _)
        all_goals simp [Argument.rebuild, Argument.reread_mk] at same
    · rfl
  refine ⟨.tuple (c'.spanFrom c.next.span.start) found, c', Parser.yields_primary.mpr ?_, sees', ?_⟩
  · rw [show c.next.kind = .symbol .parenOpen from sees.kind.trans (headKind_enclosed enclosed _)]
    exact ⟨found, c', yields, rfl, several.symm⟩
  · rw [rebuild, reread_tuple, Argument.rebuilds_eq_map]
    exact congrArg _ same

/-- An expression between parentheses. -/
theorem paren {inner : Expr} (prints : Prints 0 inner pieces) (span : Span) :
    Prints gap (.paren span inner) (.sign gap .parenOpen :: (pieces ++ [.sign 0 .parenClose])) := by
  have enclosed : Enclosed .parenOpen .parenClose Argument.Prints gap [⟨span, none, inner⟩] _ :=
    ⟨pieces, rfl, .inr (.single (Argument.Prints.unlabelled prints span))⟩
  refine @bracketed gap _ .parenOpen _ rfl rfl ?_ (Argument.second_arguments enclosed rfl)
    (fun _ => enclosed.endsOperand_eq) ?_
  · exact Argument.printed_arguments enclosed rfl rfl rfl
  · intro depth more few c sees
    obtain ⟨found, c', yields, sees', same⟩ :=
      Argument.recovers_arguments enclosed few rfl (by decide) rfl c sees
    obtain ⟨place, value, rfl, sameValue⟩ : ∃ place value, found = [⟨place, none, value⟩] ∧
        value.rebuild .plain = inner.reread := by
      rcases found with _ | ⟨⟨place, _ | label, value⟩, _ | _⟩ <;>
        simp only [List.map_cons, List.map_nil, Argument.rebuild, Argument.reread_mk,
          Option.map_none, Option.map_some, List.cons.injEq, Argument.mk.injEq, reduceCtorEq, true_and, and_true, and_false,
          false_and] at same
      exact ⟨place, value, rfl, same⟩
    refine ⟨.paren (c'.spanFrom c.next.span.start) value, c', Parser.yields_primary.mpr ?_,
      sees', congrArg (Expr.paren (.point 0)) sameValue⟩
    rw [show c.next.kind = .symbol .parenOpen from sees.kind]
    exact ⟨_, c', yields, rfl, rfl⟩

theorem texts_eq_map (exprs : List Expr) :
    Expr.texts exprs = exprs.map Expr.text := by
  induction exprs with
  | nil => rfl
  | cons expr rest ih => rw [Expr.texts, ih, List.map_cons]

/-- Elements between brackets, whose labels are not kept. -/
theorem array {elements : List Expr} (span : Span)
    (enclosed : Enclosed .bracketOpen .bracketClose Argument.Prints gap
      (elements.map (⟨.point 0, none, ·⟩)) pieces) : Prints gap (.array span elements) pieces := by
  refine @bracketed gap _ .bracketOpen _ rfl rfl ?_ (Argument.second_arguments enclosed rfl)
    (fun _ => enclosed.endsOperand_eq) ?_
  · have printed := Argument.printed_arguments enclosed rfl rfl rfl
    rw [Argument.texts_eq_map, List.map_map] at printed
    rw [text_array, texts_eq_map]
    exact printed
  · intro depth more few c sees
    obtain ⟨found, c', yields, sees', same⟩ :=
      Argument.recovers_arguments enclosed few rfl (by decide) rfl c sees
    refine ⟨.array (c'.spanFrom c.next.span.start) (found.map (·.value)), c',
      Parser.yields_primary.mpr ?_, sees', ?_⟩
    · rw [show c.next.kind = .symbol .bracketOpen from sees.kind.trans (headKind_enclosed enclosed _)]
      exact ⟨found, c', yields, rfl, rfl⟩
    · have values := congrArg (List.map (·.value)) same
      simp only [List.map_map, Function.comp_def, Argument.value_rebuild,
        Argument.value_reread] at values
      rw [rebuild, reread_array, Expr.rebuilds_eq_map, List.map_map]
      exact congrArg _ values

/-- A closure that is read back is read back as an operand. -/
theorem recovers_closure {closure : Closure} {depth : Nat} {more : List Piece}
    (isOpening : Cursor.headKind (pieces ++ more) = .symbol .braceOpen)
    (recovers : (Parser.closure (Parser.innerBelow depth)).Recovers (Closure.rebuild .plain) pieces
      more closure.reread) :
    (Parser.primary (Parser.innerBelow depth)).Recovers (Expr.rebuild .plain) pieces more
      (Expr.closure closure).reread := by
  intro c sees
  obtain ⟨found, c', yields, sees', same⟩ := recovers c sees
  refine ⟨.closure found, c', Parser.yields_primary.mpr ?_, sees', congrArg Expr.closure same⟩
  rw [show c.next.kind = .symbol .braceOpen from sees.kind.trans isOpening]
  exact ⟨found, yields, rfl⟩

/-- A closure. -/
theorem closure {closure : Closure} (prints : Closure.Prints gap closure pieces) :
    Prints gap (.closure closure) pieces :=
  bracketed rfl rfl prints.printed prints.second prints.closes fun _ more few =>
    recovers_closure (beq_iff_eq.mp (prints.printed.headKind_append more)) (prints.recovers few)

/-! ### What stands after an operand -/

/-- **An operand with one more part after it** is printed as its pieces and those of the part, when
the parser takes the part in one step. -/
theorem extend {operand expr : Expr} {front : List Piece} {piece : Piece} (added : String)
    (prints : Prints gap operand pieces) (isOperand : operand.rank = 9) (extends' : expr.rank = 9)
    (same : front = piece :: others) (apart : separatesNames piece.lexeme.kind = false)
    (spelled : expr.text = operand.text ++ added) (rendered : render front = added.toList)
    (loose : ∀ {following}, Loose (render front ++ following))
    (lexes : ∀ {afterOperand following}, Loose following →
      Lexes (endsOperand afterOperand pieces) front following)
    (closes : ∀ afterOperand, endsOperand afterOperand front = true)
    (fits : ∀ {region}, expr.Fits region → operand.Fits region)
    (unmerged : piece.lexeme.kind = .symbol .braceOpen → operand.takesClosure = false)
    (steps : ∀ ⦃depth : Nat⦄ ⦃region : Region⦄ ⦃start : Nat⦄ ⦃more : List Piece⦄,
      front.length + more.length ≤ depth → expr.Fits region →
      (region.allowsTrailing = true → headKind more = .symbol .braceOpen →
        expr.takesClosure = false) →
      ∀ {value c}, value.rebuild .plain = operand.reread → c.Sees (front ++ more) →
        ∃ longer c', (Parser.postfixStep (Parser.innerBelow depth) region start value).Yields c
          (some longer) c' ∧ c'.Sees more ∧ longer.rebuild .plain = expr.reread) :
    Prints gap expr (pieces ++ front) := by
  have printed : Printed (startsExpr 9) gap operand.text pieces := isOperand ▸ prints.printed
  refine of_operand extends' ?_ (same ▸ prints.second.append apart)
    (fun _ after => by rw [Lexer.endsOperand_append, closes]) ?_
  · obtain ⟨lexeme, rest, rfl, starts, first⟩ := printed.opens
    refine ⟨?_, ⟨lexeme, _, rfl, ?_, first⟩, fun space following => ?_⟩
    · rw [Lexer.render_append, printed.text, rendered, spelled, String.toList_append,
        List.append_assoc]
    · simpa [startsExpr] using starts
    · exact Lexer.lexes_append.mpr ⟨printed.lexes space loose, lexes following⟩
  · intro depth region start more few fitting noBrace
    have some := prints.length_pos
    simp only [List.length_append] at few
    have fewOperand : pieces.length + (front ++ more).length ≤ depth + 1 := by
      rw [List.length_append]
      omega
    have leads := @prints.operand isOperand depth region start (front ++ more) fewOperand
      (fits fitting) fun _ isBrace => unmerged (by rw [same] at isBrace; exact isBrace)
    refine leads.postfix (same ▸ List.cons_ne_nil _ _) fun sameValue sees => ?_
    exact steps (by omega) fitting noBrace sameValue sees

/-- A member. -/
theorem member {base : Expr} {name : Name} (prints : Prints gap base pieces)
    (isOperand : base.rank = 9) (isName : IsName name.text ∨ name.text = "self") (span : Span) :
    Prints gap (.member span base name) (pieces ++ [.sign 0 .dot, .word 0 name.text]) := by
  obtain ⟨kind, isWord, isMember, ends⟩ : ∃ kind, IsWord kind name.text ∧
      (kind = .identifier ∨ kind = .keyword .self_ ∨ kind = .integer) ∧ kind.endsOperand = true := by
    rcases isName with isName | isSelf
    · exact ⟨_, isName, .inl rfl, rfl⟩
    · exact ⟨_, isSelf ▸ isWord_spelling .self_, .inr (.inl rfl), rfl⟩
  have isKind := Lexer.wordKind_of_isWord isWord
  refine prints.extend ("." ++ name.text) isOperand rfl rfl rfl ?_ ?_ (Lexer.loose_point isWord)
    (fun loose => ?_) (fun _ => (congrArg TokenKind.endsOperand isKind).trans ends) (fun fits => fits)
    (fun isBrace => by cases isBrace) ?_
  · simp [text_member, ← String.toList_inj]
  · simp [Piece.sign, Piece.word, Piece.spaced, Symbol.spelling]
  · refine (@Lexer.lexes_sign _ 0 _ _ .dot (by decide) rfl (Lexer.apart_word isWord)).mpr ?_
    exact (@Lexer.lexes_word _ _ [] _ _ _ isWord loose.word).mpr trivial
  · intro depth region start more few _ _ value c same sees
    have named : c.advance.next.kind = kind := sees.advance.kind.trans isKind
    have text : c.advance.next.text = name.text := sees.advance.text
    refine ⟨.member (c.advance.advance.spanFrom start) value ⟨c.advance.next.span, c.advance.next.text⟩,
      c.advance.advance, Parser.yields_postfixStep.mpr ?_, sees.advance.advance, ?_⟩
    · rw [show c.next.kind = .symbol .dot from sees.kind]
      show if _ then _ else _
      rw [sees.breaks, if_neg Bool.false_ne_true]
      exact ⟨_, _, Parser.yields_memberName.mpr ⟨named ▸ isMember, rfl, rfl⟩, rfl, rfl⟩
    · rw [rebuild, same, text]
      rfl

/-- A mark after an operand. -/
theorem mark {operand : Expr} {op : PostfixOp} (prints : Prints gap operand pieces)
    (isOperand : operand.rank = 9) (notUnderscore : ∀ span, operand ≠ .ident span "_") (span : Span) :
    ∃ sign, Prints gap (.postfixed span operand op) (pieces ++ [.sign 0 sign]) := by
  have closes := prints.closes isOperand notUnderscore
  cases op with
  | optional =>
      refine ⟨.attachedQuestion, prints.extend "?" isOperand rfl rfl rfl rfl rfl
        (Lexer.loose_sign (by decide)) (fun loose => ?_) (fun _ => rfl) (fun fits => fits)
    (fun isBrace => by cases isBrace) ?_⟩
      · rw [closes]
        exact (@Lexer.lexes_mark [] _ _ (.inl rfl) loose).mpr trivial
      · intro depth region start more few _ _ value c same sees
        refine ⟨.postfixed (c.advance.spanFrom start) value .optional, c.advance,
          Parser.yields_postfixStep.mpr ?_, sees.advance, by rw [rebuild, same]; rfl⟩
        rw [show c.next.kind = .symbol .attachedQuestion from sees.kind]
        exact ⟨rfl, rfl⟩
  | force =>
      refine ⟨.attachedBang, prints.extend "!" isOperand rfl rfl rfl rfl rfl
        (Lexer.loose_sign (by decide)) (fun loose => ?_) (fun _ => rfl) (fun fits => fits)
    (fun isBrace => by cases isBrace) ?_⟩
      · rw [closes]
        exact (@Lexer.lexes_mark [] _ _ (.inr rfl) loose).mpr trivial
      · intro depth region start more few _ _ value c same sees
        refine ⟨.postfixed (c.advance.spanFrom start) value .force, c.advance,
          Parser.yields_postfixStep.mpr ?_, sees.advance, by rw [rebuild, same]; rfl⟩
        rw [show c.next.kind = .symbol .attachedBang from sees.kind]
        exact ⟨rfl, rfl⟩

/-- A subscript. -/
theorem subscript {base : Expr} {args : List Argument} (prints : Prints gap base pieces)
    (isOperand : base.rank = 9)
    (enclosed : Enclosed .bracketOpen .bracketClose Argument.Prints 0 args others) (span : Span) :
    Prints gap (.subscript span base args) (pieces ++ others) := by
  have printed := Argument.printed_arguments enclosed rfl rfl rfl
  obtain ⟨inside, same, -⟩ := id enclosed
  refine prints.extend _ isOperand rfl same rfl ?_ printed.text ?_ (fun loose => ?_)
    (fun _ => enclosed.endsOperand_eq) (fun fits => fits)
    (fun isBrace => by cases isBrace) ?_
  · simp [text_subscript, Symbol.spelling, ← String.toList_inj]
  · rw [same]
    exact Lexer.loose_solid rfl
  · have lexes := printed.lexes (fun after => absurd after Bool.false_ne_true) loose
    rw [same, Lexer.lexes_solid rfl] at lexes ⊢
    exact lexes
  · intro depth region start more few _ _ value c sameValue sees
    obtain ⟨found, c', yields, sees', sameArgs⟩ :=
      Argument.recovers_arguments enclosed (Nat.le_succ_of_le few) rfl (by decide) rfl c sees
    refine ⟨.subscript (c'.spanFrom start) value found, c', Parser.yields_postfixStep.mpr ?_, sees', ?_⟩
    · rw [show c.next.kind = .symbol .bracketOpen from sees.kind.trans (headKind_enclosed enclosed _)]
      show if _ then _ else _
      rw [same] at sees
      rw [sees.breaks, if_neg Bool.false_ne_true]
      exact ⟨found, c', yields, rfl, rfl⟩
    · rw [rebuild, reread_subscript, Argument.rebuilds_eq_map, sameValue]
      exact congrArg _ sameArgs

end Expr.Prints

/-! ### Calls -/

namespace Closure

/-- The pieces of a closure after an operand, none when there is none. -/
def Follows : Option Closure → List Piece → Prop
  | none, pieces => pieces = []
  | some closure, pieces => Prints 1 closure pieces

/-- The text of a closure after an operand. -/
def followingText : Option Closure → String
  | none => ""
  | some closure => " " ++ closure.text

namespace Follows

variable {trailing : Option Closure} {pieces more : List Piece}

theorem rendered (follows : Follows trailing pieces) :
    render pieces = (followingText trailing).toList := by
  cases trailing with
  | none => rw [show pieces = [] from follows]; rfl
  | some closure =>
      rw [follows.printed.text]
      simp [followingText]

theorem lexes (follows : Follows trailing pieces) {following : List Char}
    (loose : Loose following) :
    Loose (render pieces ++ following) ∧ ∀ {afterOperand}, Lexes afterOperand pieces following := by
  cases trailing with
  | none =>
      rw [show pieces = [] from follows]
      exact ⟨loose, trivial⟩
  | some closure =>
      exact ⟨follows.printed.loose Nat.one_pos, follows.printed.lexes (fun _ => Nat.one_pos) loose⟩

theorem closes (follows : Follows trailing pieces) {afterOperand : Bool}
    (before : afterOperand = true) : endsOperand afterOperand pieces = true := by
  cases trailing with
  | none => rw [show pieces = [] from follows]; exact before
  | some closure => exact follows.closes _

/-- **A closure after an operand is read back**, and none where there is none. -/
theorem recovers (follows : Follows trailing pieces) {depth : Nat} {region : Region}
    (few : pieces.length + more.length ≤ depth + 1)
    (allowed : trailing.isSome = true → region.allowsTrailing = true)
    (noBrace : trailing = none → region.allowsTrailing = true →
      headKind more ≠ .symbol .braceOpen) :
    (Parser.trailingClosure? (Parser.innerBelow depth) region).Recovers
      (Option.map (Closure.rebuild .plain)) pieces more
      (trailing.map Closure.reread) := by
  intro c sees
  cases trailing with
  | none =>
      rw [show pieces = [] from follows] at sees
      have noClosure : ¬ (c.next.kind = .symbol .braceOpen ∧ region.allowsTrailing = true ∧
          c.breaks region = false) := fun ⟨isBrace, allows, _⟩ =>
        noBrace rfl allows (sees.kind.symm.trans isBrace)
      refine ⟨none, c, Parser.yields_trailingClosure.mpr ?_, sees, rfl⟩
      rw [if_neg noClosure]
      exact ⟨rfl, rfl⟩
  | some closure =>
      obtain ⟨found, c', yields, sees', same⟩ := follows.recovers few c sees
      refine ⟨some found, c', Parser.yields_trailingClosure.mpr ?_, sees', congrArg some same⟩
      obtain ⟨lexeme, rest, rfl, isOpening, -⟩ := follows.printed.opens
      rw [if_pos ⟨sees.kind.trans (beq_iff_eq.mp isOpening), allowed rfl, sees.breaks⟩]
      exact ⟨found, yields, rfl⟩

end Follows

end Closure

namespace Expr.Prints

variable {gap : Nat} {pieces others tail : List Piece}

/-- **Arguments in parentheses after an operand**, with or without a closure after them, make up a
call of the operand. -/
theorem withArguments {callee expr : Expr} {args : List Argument} {trailing : Option Closure}
    (prints : Prints gap callee pieces) (isOperand : callee.rank = 9)
    (enclosed : Enclosed .parenOpen .parenClose Argument.Prints 0 args others)
    (follows : Closure.Follows trailing tail) (isCall : expr.rank = 9)
    (spelled : expr.text = callee.text ++ ("(" ++ commaSeparated (Argument.texts args) ++ ")" ++
      Closure.followingText trailing))
    (fits : ∀ {region}, expr.Fits region → callee.Fits region)
    (allowed : ∀ {region}, expr.Fits region → trailing.isSome = true →
      region.allowsTrailing = true)
    (takes : trailing = none → expr.takesClosure = true)
    (same : expr.reread = .call (.point 0) callee.reread
      (args.map Argument.reread) (trailing.map Closure.reread)) :
    Prints gap expr (pieces ++ (others ++ tail)) := by
  have printed := Argument.printed_arguments enclosed rfl rfl rfl
  obtain ⟨inside, opens, -⟩ := id enclosed
  have first : others ++ tail = .sign 0 .parenOpen :: (inside ++ [.sign 0 .parenClose] ++ tail) := by
    rw [opens, List.cons_append]
  refine prints.extend _ isOperand isCall first rfl spelled ?_ ?_ (fun loose => ?_)
    (fun _ => ?_) fits (fun isBrace => by cases isBrace) ?_
  · rw [Lexer.render_append, printed.text, follows.rendered]
    simp [Symbol.spelling]
  · rw [opens]
    exact Lexer.loose_solid rfl
  · obtain ⟨looseTail, lexesTail⟩ := follows.lexes loose
    refine Lexer.lexes_append.mpr ⟨?_, lexesTail⟩
    have lexes := printed.lexes (fun after => absurd after Bool.false_ne_true) looseTail
    rw [opens, Lexer.lexes_solid rfl] at lexes ⊢
    exact lexes
  · rw [Lexer.endsOperand_append]
    exact follows.closes enclosed.endsOperand_eq
  · intro depth region start more few fitting noBrace value c sameValue sees
    simp only [List.length_append] at few
    rw [List.append_assoc] at sees
    have fewArgs : others.length + (tail ++ more).length ≤ depth + 1 := by
      rw [List.length_append]
      omega
    obtain ⟨found, middle, yieldsArgs, seesTail, sameArgs⟩ :=
      Argument.recovers_arguments enclosed fewArgs rfl (by decide) rfl c sees
    have fewTail : tail.length + more.length ≤ depth + 1 := by omega
    obtain ⟨closure, c', yieldsClosure, sees', sameClosure⟩ := follows.recovers fewTail
      (allowed fitting) (fun isNone allows isBrace => by
        have := noBrace allows isBrace
        rw [takes isNone] at this
        cases this) middle seesTail
    refine ⟨.call (c'.spanFrom start) value found closure, c', Parser.yields_postfixStep.mpr ?_,
      sees', ?_⟩
    · rw [show c.next.kind = .symbol .parenOpen from sees.kind.trans (headKind_enclosed enclosed _)]
      show if _ then _ else _
      rw [opens] at sees
      rw [sees.breaks, if_neg Bool.false_ne_true]
      exact ⟨found, middle, yieldsArgs, closure, c', yieldsClosure, rfl, rfl⟩
    · rw [same, rebuild, Argument.rebuilds_eq_map, Closure.rebuildOption_eq_map, sameValue,
        ← sameArgs, ← sameClosure]
      rfl

/-- **A closure after an operand** that does not take it makes up a call of the operand. -/
theorem withClosure {callee : Expr} {closure : Closure} (prints : Prints gap callee pieces)
    (isOperand : callee.rank = 9) (apart : callee.takesClosure = false)
    (follows : Closure.Prints 1 closure tail) (span : Span) :
    Prints gap (.call span callee [] (some closure)) (pieces ++ tail) := by
  obtain ⟨lexeme, rest, opens, isOpening, -⟩ := follows.printed.opens
  have isOpening : lexeme.kind = .symbol .braceOpen := beq_iff_eq.mp isOpening
  have follows' : Closure.Follows (some closure) tail := follows
  refine prints.extend (Closure.followingText (some closure)) isOperand rfl opens
    (by rw [Piece.spaced, isOpening]; rfl) ?_ follows'.rendered (follows.printed.loose Nat.one_pos)
    (fun loose => (follows'.lexes loose).2) follows.closes
    (fun fits => fits.imp_right And.right) (fun _ => apart) ?_
  · simp [text_call_closure, Closure.followingText, ← String.toList_inj]
  · intro depth region start more few fits _ value c sameValue sees
    have allowed : region.allowsTrailing = true := fits.resolve_right fun header => by
      cases header.1
    obtain ⟨found, c', yields, sees', same⟩ := follows'.recovers (Nat.le_succ_of_le few)
      (fun _ => allowed) (fun isNone => by cases isNone) c sees
    refine ⟨.call (c'.spanFrom start) value [] found, c', Parser.yields_postfixStep.mpr ?_, sees', ?_⟩
    · rw [opens] at sees
      rw [show c.next.kind = .symbol .braceOpen from sees.kind.trans isOpening]
      show if _ then _ else _
      rw [sees.breaks, allowed, if_neg (by decide)]
      exact ⟨found, c', yields, rfl, rfl⟩
    · have unmerged : (Expr.call span callee [] (some closure)).reread =
          .call (.point 0) callee.reread [] (some closure.reread) :=
        reread_call fun _ _ => apart
      rw [unmerged, rebuild, Closure.rebuildOption_eq_map, sameValue, same]
      rfl

end Expr.Prints

end ResultBuilder.Syntax
