import ResultBuilder.Proofs.Syntax.Depth.Agreement

/-!
# Enough depth

The parsers are tied together level by level, with as many levels as there are tokens. What is
nested is read after at least one token was taken, so the levels never run out: parsers of any two
depths do the same when there are no more tokens left than either is deep.

* **`Parser.Inner.Agree`**, **`Parser.agree_innerOfDepth`**: the parsers of any two depths.
-/

namespace ResultBuilder.Syntax.Parser

variable {α : Type} {knows : Cursor → Prop} {before : Nat}

/-- **The parsers of what is further in agree**, where there are no more tokens left than said. -/
structure Inner.Agree (inner other : Inner) (depth : Nat) : Prop where
  bound : depth < inner.bound
  otherBound : depth < other.bound
  type : AgreeBelow depth inner.type other.type
  expression : ∀ region, AgreeBelow depth (inner.expression region) (other.expression region)
  ternary : ∀ region, AgreeBelow depth (inner.ternary region) (other.ternary region)
  binary : ∀ region least, AgreeBelow depth (inner.binary region least) (other.binary region least)
  unary : ∀ region, AgreeBelow depth (inner.unary region) (other.unary region)
  statement : AgreeBelow depth inner.statement other.statement
  declaration : AgreeBelow depth inner.declaration other.declaration
  conditional : AgreeBelow depth inner.conditional other.conditional

variable {inner other : Inner} {depth : Nat} {region : Region}

variable (agree : inner.Agree other depth)
include agree

/-! ### Lists -/

section Lists

variable {item another : Parser α}

theorem Inner.Agree.separated (items : AgreeBelow depth item another) (few : before ≤ depth) :
    Parser.Agree knows before (fun _ => before - 1) (Parser.separated item inner.bound)
      (Parser.separated another other.bound) :=
  agree_separated (items.mono few) (few.trans agree.bound.le) (few.trans agree.otherBound.le)

theorem Inner.Agree.closedBy (items : AgreeBelow depth item another) (close : Symbol)
    (few : before ≤ depth) :
    Parser.Agree knows before (fun _ => before) (Parser.closedBy close item inner.bound)
      (Parser.closedBy close another other.bound) :=
  agree_closedBy (items.mono few) close (few.trans agree.bound.le) (few.trans agree.otherBound.le)

theorem Inner.Agree.sequence (items : AgreeBelow depth item another) (stops : TokenKind → Bool)
    (few : before ≤ depth) :
    Parser.Agree knows before (fun _ => before) (Parser.sequence stops item inner.bound)
      (Parser.sequence stops another other.bound) :=
  agree_sequence (items.mono few) stops (few.trans agree.bound.le) (few.trans agree.otherBound.le)

end Lists

theorem agree_statements (stops : TokenKind → Bool) (few : before ≤ depth) :
    Agree knows before (fun _ => before) (statements inner stops) (statements other stops) :=
  agree.sequence agree.statement _ few

theorem agree_block : AgreeBelow (depth + 1) (block inner) (block other) :=
  fun _ few => (agree_expectSymbol .braceOpen).bind fun _ =>
    (agree_statements agree _ (Nat.sub_le_of_le_add few)).bind fun _ =>
      (agree_expectSymbol .braceClose).stays.bind fun _ => agree_spanned _ _

/-! ### Types -/

omit agree in
/-- Attributes are listed alike when the bounds leave room for them. -/
theorem agree_attributes {bound most : Nat} (enough : before ≤ bound) (alsoEnough : before ≤ most) :
    Agree knows before (fun _ => before) (attributes bound) (attributes most) := by
  induction before generalizing knows bound most with
  | zero => exact .ofNone
  | succ before ih =>
      obtain ⟨bound, rfl⟩ := Nat.exists_eq_add_of_le' enough
      obtain ⟨most, rfl⟩ := Nat.exists_eq_add_of_le' alsoEnough
      have others := @ih wherever _ _ (Nat.le_add_left _ bound) (Nat.le_add_left _ most)
      refine .looks (fun _ => rfl) fun c _ => .ite (fun isSign => ?_) fun _ => .pure le_rfl
      exact (agree_takeAt (beq_iff_eq.mp isSign) nofun).bind fun _ =>
        agree_identifier.stays.bind fun _ => .looks (fun _ => rfl) fun _ _ =>
          others.always.bind fun _ => .pure (Nat.le_succ _)

theorem agree_typeElement (few : before ≤ depth) :
    Agree knows before (fun _ => before - 1) (typeElement inner) (typeElement other) := by
  have rest : Agree wherever before (fun _ => before - 1)
      (attributes inner.bound >>= fun _ => inner.type)
      (attributes other.bound >>= fun _ => other.type) :=
    (agree_attributes (few.trans agree.bound.le) (few.trans agree.otherBound.le)).bind
      fun _ => agree.type _ few
  refine .looks (fun _ => rfl) fun c _ => .ite
    (fun labelled => (agree_takeMany fun here sound isHere => ?_).bind fun _ => rest)
    fun _ => rest.always
  rw [isHere] at sound ⊢
  rw [Bool.and_eq_true, Bool.or_eq_true, beq_iff_eq, beq_iff_eq, beq_iff_eq] at labelled
  refine (Cursor.Reads.takeTwo sound ?_ (by rw [labelled.2]; exact nofun)).passes
  rcases labelled.1 with kind | kind <;> rw [kind] <;> exact nofun

theorem agree_typeList : AgreeBelow (depth + 1) (typeList inner) (typeList other) :=
  fun _ few =>
    have fewer := Nat.sub_le_of_le_add few
    (agree_expectSymbol .parenOpen).bind fun _ =>
      agree.closedBy (fun _ few => agree_typeElement agree few) .parenClose fewer

theorem agree_unmarkedType : AgreeBelow (depth + 1) (unmarkedType inner) (unmarkedType other) := by
  intro before few
  have fewer := Nat.sub_le_of_le_add few
  have evenFewer := (Nat.sub_le (before - 1) 1).trans fewer
  have args : Agree wherever (before - 1 - 1) (fun _ => before - 1 - 1 - 1)
      (separated inner.type inner.bound) (separated other.type other.bound) :=
    agree.separated agree.type evenFewer
  refine .looks (fun _ => rfl) fun _ _ => .looks (fun _ => rfl) fun c isHere => ?_
  subst isHere
  split
  case h_1 isName =>
    refine (agree_takeAt isName nofun).bind fun _ => .ite
      (fun _ => (agree.type _ fewer).stays.bind fun _ => .pure le_rfl) fun _ =>
        .looks (fun _ => rfl) fun c _ => (agree_takeMany fun here sound isHere => ?_).bind fun _ =>
          .eat nofun (args.stays.bind fun _ => (agree_expectSymbol .greater).stays.bind fun _ =>
            .pure (Nat.sub_le _ _)) (.pure le_rfl)
    subst isHere
    simpa using (passes_dottedNames sound).1
  case h_2 =>
    refine (agree_typeList agree _ few).always.bind fun elements => .eat nofun
      ((agree.type _ evenFewer).stays.bind fun _ => .pure (Nat.sub_le _ _)) (.ite nofun fun _ => ?_)
    split <;> exact .pure le_rfl
  case h_3 => exact .fails fun _ _ _ => not_yields_unexpected

theorem agree_type : AgreeBelow (depth + 1) (type inner) (type other) := by
  intro before few
  refine .looks (fun _ => rfl) fun _ _ => (agree_unmarkedType agree _ few).always.bind fun _ =>
    .looks (fun _ => rfl) fun _ _ => .looks (fun _ => rfl) fun c _ =>
      (agree_takeMany fun here sound isHere => ?_).bind fun _ => .pure le_rfl
  subst isHere
  exact .skip_takeWhile sound fun token isEnd => by simp [marksOptional, isEnd]

/-! ### Expressions -/

theorem agree_closure : AgreeBelow (depth + 1) (closure inner) (closure other) :=
  fun _ few => (agree_expectSymbol .braceOpen).bind fun _ =>
    (Agree.ofPasses fun _ sound _ _ _ yields => (passes_closureParams sound yields).1).bind fun _ =>
      (agree_statements agree _ (Nat.sub_le_of_le_add few)).bind fun _ =>
        (agree_expectSymbol .braceClose).stays.bind fun _ => agree_spanned _ _

theorem agree_trailingClosure? (few : before ≤ depth + 1) :
    Agree knows before (fun _ => before) (trailingClosure? inner region)
      (trailingClosure? other region) :=
  .looks (fun _ => rfl) fun _ _ => .looks (fun _ => rfl) fun _ _ => .ite
    (fun _ => (agree_closure agree _ few).stays.bind fun _ => .pure le_rfl) fun _ => .pure le_rfl

theorem agree_argument : AgreeBelow depth (argument inner) (argument other) := by
  intro before few
  have value {before : Nat} (few : before ≤ depth) (start : Nat) (label : Option Name) :
      Agree wherever before (fun _ => before - 1)
        (do
          let value ← inner.expression .delimited
          return Argument.mk (← spanFrom start) label value)
        (do
          let value ← other.expression .delimited
          return Argument.mk (← spanFrom start) label value) :=
    (agree.expression _ _ few).always.bind fun _ => agree_spanned _ _
  exact .looks (fun _ => rfl) fun _ _ => .looks (fun _ => rfl) fun c _ => .ite
    (fun _ => agree_identifier.bind fun label => agree_takeAny.bind fun _ =>
      (value ((Nat.sub_le _ 1).trans few) _ (some label)).stays)
    fun _ => (value few _ none).always

theorem agree_arguments (opening closing : Symbol) :
    AgreeBelow (depth + 1) (arguments inner opening closing) (arguments other opening closing) :=
  fun _ few =>
    have fewer := Nat.sub_le_of_le_add few
    (agree_expectSymbol opening).bind fun _ =>
      agree.closedBy (agree_argument agree) closing fewer

theorem agree_primary : AgreeBelow (depth + 1) (primary inner) (primary other) := by
  intro before few
  refine .looks (fun _ => rfl) fun start _ => .looks (fun _ => rfl) fun c isHere => ?_
  subst isHere
  have leaf {kind : TokenKind} (isNext : c.next.kind = kind) (notEnd : kind ≠ .endOfFile)
      (make : Span → Expr) : Agree (fun here => here = c) before (fun _ => before - 1)
        (do let _ ← take; return make (← spanFrom c.next.span.start))
        (do let _ ← take; return make (← spanFrom c.next.span.start)) :=
    (agree_takeAt isNext notEnd).bind fun _ => agree_spanned _ _
  split
  case h_1 isNext =>
    refine (agree_takeAt isNext nofun).bind fun _ => ?_
    extract_lets value
    exact .ite (fun _ => agree_spanned _ _) fun _ => .fails fun _ _ _ => not_yields_throw
  case h_2 isNext | h_3 isNext | h_4 isNext | h_5 isNext | h_6 isNext | h_7 isNext | h_8 isNext
      | h_9 isNext => exact leaf isNext nofun _
  case h_10 isNext =>
    exact (agree_takeAt isNext nofun).bind fun _ =>
      agree_identifier.stays.bind fun _ => agree_spanned _ _
  case h_11 =>
    refine (agree_arguments agree _ _ _ few).always.bind fun elements => ?_
    split <;> exact agree_spanned _ _
  case h_12 => exact (agree_arguments agree _ _ _ few).always.bind fun _ => agree_spanned _ _
  case h_13 => exact (agree_closure agree _ few).always.bind fun _ => .pure le_rfl
  case h_14 => exact .fails fun _ _ _ => not_yields_unexpected

omit agree in
theorem agree_memberName : Agree knows before (fun _ => before - 1) memberName memberName := by
  refine .looks (fun _ => rfl) fun c _ => ?_
  split
  case h_1 isNext | h_2 isNext | h_3 isNext =>
    exact (agree_takeAt isNext nofun).bind fun _ => .pure le_rfl
  case h_4 => exact .fails fun _ _ _ => not_yields_unexpected

/-- A closure that was found to come next is taken. -/
theorem agree_trailingClosure_taken {c : Cursor} (few : before ≤ depth + 1)
    (opens : c.next.kind = .symbol .braceOpen) (allows : region.allowsTrailing = true)
    (stays : c.breaks region = false) :
    Agree (fun here => here = c) before (fun _ => before - 1) (trailingClosure? inner region)
      (trailingClosure? other region) := by
  refine .looks (fun _ => rfl) fun here isHere => ?_
  subst isHere
  refine .looks (fun _ => rfl) fun again isHere => ?_
  subst isHere
  refine .ite (fun _ => (agree_closure agree _ few).always.bind fun _ => .pure le_rfl)
    fun no => absurd ?_ no
  rw [opens, allows, show (region.breaksLines && again.next.newlineBefore) = false from stays]
  rfl

/-- How many tokens are left behind what may go on an operand. -/
def leftBehind (before : Nat) (longer : Option Expr) : Nat :=
  if longer.isSome then before - 1 else before

theorem agree_postfixStep (start : Nat) (operand : Expr) (few : before ≤ depth + 1) :
    Agree knows before (leftBehind before) (postfixStep inner region start operand)
      (postfixStep other region start operand) := by
  have fewer := Nat.sub_le_of_le_add few
  have spanned {knows : Cursor → Prop} (make : Span → Expr) :
      Agree knows (before - 1) (leftBehind before)
        (do return some (make (← spanFrom start))) (do return some (make (← spanFrom start))) :=
    .looks (fun _ => rfl) fun _ _ => .pure le_rfl
  refine .looks (fun _ => rfl) fun c _ => .looks (fun _ => rfl) fun c isHere => ?_
  subst isHere
  have none : Agree (fun here => here = c) before (leftBehind before)
      (Pure.pure none) (Pure.pure none) := .pure le_rfl
  -- whatever goes on the operand takes a token, so that the chain can go on with fewer
  split
  case h_1 =>
    exact .ite (fun _ => none) fun _ => (agree_arguments agree _ _ _ few).always.bind fun args =>
      (agree_trailingClosure? agree (fewer.trans (Nat.le_succ _))).bind fun _ => spanned _
  case h_2 isNext =>
    refine .ite (fun _ => none) fun goesOn => ?_
    obtain ⟨stays, allows⟩ : c.breaks region = false ∧ region.allowsTrailing = true := by
      simpa [Cursor.breaks] using goesOn
    exact (agree_trailingClosure_taken agree few isNext allows stays).bind fun _ => spanned _
  case h_3 =>
    exact .ite (fun _ => none) fun _ => (agree_arguments agree _ _ _ few).always.bind fun args =>
      spanned _
  case h_4 isNext =>
    exact .ite (fun _ => none) fun _ => (agree_takeSign isNext).bind fun _ =>
      agree_memberName.stays.bind fun _ => spanned _
  case h_5 isNext | h_6 isNext => exact (agree_takeSign isNext).bind fun _ => spanned _
  case h_7 => exact none

/-- What goes on an operand is read alike when the bounds leave room for it. -/
theorem agree_postfixChain (start : Nat) (operand : Expr) {bound most : Nat} (few : before ≤ depth)
    (enough : before ≤ bound) (alsoEnough : before ≤ most) :
    Agree knows before (fun _ => before) (postfixChain inner region start operand bound)
      (postfixChain other region start operand most) := by
  induction before generalizing knows operand bound most with
  | zero => exact .ofNone
  | succ before ih =>
      obtain ⟨bound, rfl⟩ := Nat.exists_eq_add_of_le' enough
      obtain ⟨most, rfl⟩ := Nat.exists_eq_add_of_le' alsoEnough
      refine (agree_postfixStep agree start operand (few.trans (Nat.le_succ _))).bind fun
        | none => .pure le_rfl
        | some longer => ?_
      exact (ih longer (Nat.le_of_succ_le few) (Nat.le_add_left _ bound)
        (Nat.le_add_left _ most)).weaken (fun _ _ => trivial) le_rfl fun _ => Nat.le_succ _

theorem agree_unary (region : Region) :
    AgreeBelow (depth + 1) (unary inner region) (unary other region) := by
  intro before few
  have fewer := Nat.sub_le_of_le_add few
  refine .looks (fun _ => rfl) fun start _ => .looks (fun _ => rfl) fun c isHere => ?_
  subst isHere
  dsimp only
  split
  case h_1 op isOp =>
    have notEnd : c.next.kind ≠ .endOfFile := fun isEnd => by simp [isEnd] at isOp
    exact (agree_takeAt rfl notEnd).bind fun _ => (agree.unary _ _ fewer).stays.bind fun _ =>
      agree_spanned _ _
  case h_2 =>
    exact (agree_primary agree _ few).always.bind fun _ =>
      agree_postfixChain agree _ _ fewer (fewer.trans agree.bound.le)
        (fewer.trans agree.otherBound.le)

omit agree in
theorem notEnd_of_binaryOp? {kind : TokenKind} {op : BinaryOp} (isOp : binaryOp? kind = some op) :
    kind ≠ .endOfFile := by
  rintro rfl
  cases isOp

theorem agree_binaryChain (start least : Nat) (left : Expr) {bound most : Nat}
    (few : before ≤ depth + 1) (enough : before ≤ bound) (alsoEnough : before ≤ most) :
    Agree knows before (fun _ => before) (binaryChain inner region start least left bound)
      (binaryChain other region start least left most) := by
  induction before generalizing knows left bound most with
  | zero => exact .ofNone
  | succ before ih =>
      obtain ⟨bound, rfl⟩ := Nat.exists_eq_add_of_le' enough
      obtain ⟨most, rfl⟩ := Nat.exists_eq_add_of_le' alsoEnough
      refine .looks (fun _ => rfl) fun c isHere => ?_
      split
      case h_1 => exact .pure le_rfl
      case h_2 op isOp =>
        exact .looks (fun _ => rfl) fun here isHere => .ite (fun _ => .pure le_rfl) fun _ =>
          (agree_takeAt (isHere ▸ rfl) (notEnd_of_binaryOp? isOp)).bind fun _ =>
            (agree.binary _ _ _ (Nat.le_of_succ_le_succ few)).stays.bind fun right =>
              .looks (fun _ => rfl) fun _ _ =>
                (ih _ (Nat.le_of_succ_le few) (Nat.le_add_left _ bound)
                  (Nat.le_add_left _ most)).weaken (fun _ _ => trivial) le_rfl
                    fun _ => Nat.le_succ _

theorem agree_binary (region : Region) (least : Nat) :
    AgreeBelow (depth + 1) (binary inner region least) (binary other region least) :=
  fun _ few =>
    have fewer := Nat.sub_le_of_le_add few
    .looks (fun _ => rfl) fun _ _ => (agree_unary agree region _ few).always.bind fun _ =>
      agree_binaryChain agree _ _ _ (fewer.trans (Nat.le_succ _)) (fewer.trans agree.bound.le)
        (fewer.trans agree.otherBound.le)

theorem agree_ternary (region : Region) :
    AgreeBelow (depth + 1) (ternary inner region) (ternary other region) := by
  intro before few
  have fewer := Nat.sub_le_of_le_add few
  have evenFewer := (Nat.sub_le (before - 1) 1).trans fewer
  exact .looks (fun _ => rfl) fun _ _ => (agree_binary agree region _ _ few).always.bind fun _ =>
    .looks (fun _ => rfl) fun _ _ => .looks (fun _ => rfl) fun _ _ => .ite (fun _ => .pure le_rfl)
      fun _ => agree_takeAny.bind fun _ => (agree.ternary region _ fewer).stays.bind fun _ =>
        (agree_expectSymbol .colon).bind fun _ =>
          (agree.ternary region _ evenFewer).stays.bind fun _ =>
            (agree_spanned _ _).weaken (fun _ _ => trivial) le_rfl fun _ => Nat.sub_le _ _

theorem agree_expression (region : Region) :
    AgreeBelow (depth + 1) (expression inner region) (expression other region) := by
  intro before few
  have fewer := Nat.sub_le_of_le_add few
  exact .looks (fun _ => rfl) fun _ _ => (agree_ternary agree region _ few).always.bind fun _ =>
    .looks (fun _ => rfl) fun _ _ => .looks (fun _ => rfl) fun _ _ => .ite
      (fun _ => agree_takeAny.bind fun _ => (agree.expression region _ fewer).stays.bind fun _ =>
        agree_spanned _ _)
      fun _ => .pure le_rfl

/-! ### Declarations -/

theorem agree_generics (few : before ≤ depth + 1) :
    Agree knows before (fun _ => before) (generics inner) (generics other) := by
  have fewer := Nat.sub_le_of_le_add few
  have bound : AgreeBelow depth (genericParam inner) (genericParam other) := fun most few =>
    have fewer : most - 1 - 1 ≤ depth := by omega
    .looks (fun _ => rfl) fun c _ => agree_identifier.bind fun name =>
      .eatOptional nofun (agree.type _ fewer).stays fun _ => agree_spanned _ _
  exact .eat nofun ((agree.closedBy bound .greater fewer).weaken (fun _ _ => trivial) le_rfl
    fun _ => Nat.sub_le _ _) (.pure le_rfl)

theorem agree_conformances (few : before ≤ depth + 1) :
    Agree knows before (fun _ => before) (conformances inner) (conformances other) := by
  have fewer := Nat.sub_le_of_le_add few
  refine .eat nofun ?_ (.pure le_rfl)
  exact (agree.separated agree.type fewer).stays.bind fun _ => .pure (Nat.sub_le _ _)

omit agree in
theorem agree_skipWhereClause :
    Agree knows before (fun _ => before) skipWhereClause skipWhereClause :=
  .ofPasses fun c sound _ _ c' yields => by
    obtain rfl := yields_skipWhereClause.mp yields
    exact passes_pastWhereClause sound

theorem agree_param : AgreeBelow depth (param inner) (param other) := by
  intro before few
  have fewer := (Nat.sub_le before 1).trans few
  have evenFewer := (Nat.sub_le (before - 1) 1).trans fewer
  have marks {knows : Cursor → Prop} {before : Nat} (few : before ≤ depth) :
      Agree knows before (fun _ => before) (attributes inner.bound) (attributes other.bound) :=
    agree_attributes (few.trans agree.bound.le) (few.trans agree.otherBound.le)
  refine .looks (fun _ => rfl) fun _ _ => (marks few).bind fun _ =>
    agree_nameOrUnderscore.bind fun first => ?_
  extract_lets label
  refine .looks (fun _ => rfl) fun _ _ => .looks (fun _ => rfl) fun _ _ => ?_
  extract_lets named
  refine .either (fun _ => agree_nameOrUnderscore.stays) (fun _ => .pure le_rfl) fun name => ?_
  refine (agree_expectSymbol .colon).bind fun _ => (marks evenFewer).bind fun _ =>
    (agree.type _ evenFewer).stays.bind fun _ => agree_eat.bind fun _ => .eat nofun ?_ ?_
  · exact (agree.expression .delimited _ ((Nat.sub_le _ 1).trans evenFewer)).stays.bind fun _ =>
      (agree_spanned _ _).weaken (fun _ _ => trivial) le_rfl fun _ => by omega
  · exact (agree_spanned _ _).weaken (fun _ _ => trivial) le_rfl fun _ => by omega

theorem agree_functionDecl (start : Nat) (marks : List Attribute) (isStatic : Bool)
    (few : before ≤ depth + 1) :
    Agree knows before (fun _ => before - 1) (functionDecl inner start marks isStatic)
      (functionDecl other start marks isStatic) := by
  have fewer := Nat.sub_le_of_le_add few
  have evenFewer := (Nat.sub_le (before - 1) 1).trans fewer
  refine agree_eat.bind fun _ => agree_identifier.bind fun _ =>
    (agree_generics agree (fewer.trans (Nat.le_succ _))).bind fun _ =>
      (agree_expectSymbol .parenOpen).bind fun _ =>
        (agree.closedBy (agree_param agree) .parenClose evenFewer).bind fun _ =>
            .eatOptional nofun (agree.type _ ((Nat.sub_le _ 1).trans evenFewer)).stays fun _ =>
              agree_skipWhereClause.bind fun _ => .looks (fun _ => rfl) fun _ _ =>
                .either (fun _ => ((agree_block agree _ (evenFewer.trans (Nat.le_succ _))).stays.map
                  some)) (fun _ => .pure le_rfl) fun _ =>
                    (agree_spanned _ _).weaken (fun _ _ => trivial) le_rfl fun _ => Nat.sub_le _ _

theorem agree_variableDecl (start : Nat) (marks : List Attribute) (few : before ≤ depth + 1)
    (notEnd : ∀ c, knows c → c.next.kind ≠ .endOfFile) :
    Agree knows before (fun _ => before - 1) (variableDecl inner start marks)
      (variableDecl other start marks) := by
  have fewer := Nat.sub_le_of_le_add few
  have evenFewer := (Nat.sub_le (before - 1) 1).trans fewer
  refine (agree_take notEnd).bind fun token => ?_
  extract_lets isMutable
  refine agree_nameOrUnderscore.stays.bind fun _ =>
    .eatOptional nofun (agree.type _ evenFewer).stays fun _ =>
      .eatOptional nofun
        (agree_expression agree .statement _ (evenFewer.trans (Nat.le_succ _))).stays fun _ =>
          .looks (fun _ => rfl) fun _ _ => .looks (fun _ => rfl) fun _ _ => ?_
  extract_lets opens
  exact .either (fun _ => (agree_block agree _ (fewer.trans (Nat.le_succ _))).stays.map some)
    (fun _ => .pure le_rfl) fun _ => agree_spanned _ _

theorem agree_enumCase : AgreeBelow depth (enumCase inner) (enumCase other) := by
  intro before few
  have fewer := (Nat.sub_le before 1).trans few
  exact .looks (fun _ => rfl) fun _ _ => agree_identifier.bind fun _ =>
    .looks (fun _ => rfl) fun _ _ =>
      .either (fun _ => (agree_typeList agree _ (fewer.trans (Nat.le_succ _))).stays)
        (fun _ => .pure le_rfl) fun _ => agree_spanned _ _

theorem agree_enumDecl (start : Nat) (few : before ≤ depth + 1) :
    Agree knows before (fun _ => before - 1) (enumDecl inner start) (enumDecl other start) := by
  have fewer := Nat.sub_le_of_le_add few
  refine (agree_expectKeyword _).bind fun _ => agree_identifier.stays.bind fun _ =>
    (agree_generics agree (fewer.trans (Nat.le_succ _))).bind fun _ =>
      (agree_conformances agree (fewer.trans (Nat.le_succ _))).bind fun _ =>
        (agree_expectSymbol .braceOpen).stays.bind fun _ =>
          (agree.sequence (fun least few => ?_) _ fewer).bind fun _ =>
            (agree_expectSymbol .braceClose).stays.bind fun _ => agree_spanned _ _
  exact (agree_expectKeyword .case_).bind fun _ =>
    (agree.separated (agree_enumCase agree) ((Nat.sub_le _ _).trans few)).stays

theorem agree_typeDecl (start : Nat) (marks : List Attribute) (few : before ≤ depth + 1)
    (notEnd : ∀ c, knows c → c.next.kind ≠ .endOfFile) :
    Agree knows before (fun _ => before - 1) (typeDecl inner start marks)
      (typeDecl other start marks) := by
  have fewer := Nat.sub_le_of_le_add few
  refine (agree_take notEnd).bind fun token => ?_
  extract_lets kind
  exact agree_identifier.stays.bind fun _ =>
    (agree_generics agree (fewer.trans (Nat.le_succ _))).bind fun _ =>
      (agree_conformances agree (fewer.trans (Nat.le_succ _))).bind fun _ =>
        agree_skipWhereClause.bind fun _ => (agree_expectSymbol .braceOpen).stays.bind fun _ =>
          (agree.sequence agree.declaration _ fewer).bind fun _ =>
            (agree_expectSymbol .braceClose).stays.bind fun _ => agree_spanned _ _

theorem agree_declaration : AgreeBelow (depth + 1) (declaration inner) (declaration other) := by
  intro before few
  refine .looks (fun _ => rfl) fun start _ => (agree_attributes (few.trans agree.bound)
    (few.trans agree.otherBound)).bind fun marks => agree_eat.bind fun isStatic =>
      .looks (fun _ => rfl) fun c _ => ?_
  have function : Agree (fun here => here = c) before (fun _ => before - 1)
      (functionDecl inner start.next.span.start marks isStatic)
      (functionDecl other start.next.span.start marks isStatic) :=
    agree_functionDecl agree _ marks isStatic few
  have notEnd {kind : TokenKind} (isNext : c.next.kind = kind) (notEnd : kind ≠ .endOfFile)
      (here : Cursor) (isHere : here = c) : here.next.kind ≠ .endOfFile := by
    rwa [isHere, isNext]
  split
  case h_1 isNext | h_2 isNext =>
    exact (agree_typeDecl agree _ _ few (notEnd isNext nofun)).bind fun _ => .pure le_rfl
  case h_3 => exact (agree_enumDecl agree _ few).bind fun _ => .pure le_rfl
  case h_4 => exact function.bind fun _ => .pure le_rfl
  case h_5 =>
    exact .ite (fun _ => function.bind fun _ => .pure le_rfl)
      fun _ => .fails fun _ _ _ => not_yields_unexpected
  case h_6 isNext | h_7 isNext =>
    exact (agree_variableDecl agree _ _ few (notEnd isNext nofun)).bind fun _ => .pure le_rfl
  case h_8 => exact .fails fun _ _ _ => not_yields_unexpected

/-! ### Statements -/

omit agree in
theorem agree_pattern (stops : TokenKind → Bool) :
    Agree knows before (fun _ => before - 1) (pattern stops) (pattern stops) :=
  .ofReads fun _ sound _ _ _ yields => reads_pattern sound yields

theorem agree_condition : AgreeBelow depth (condition inner) (condition other) := by
  intro before few
  have value {before : Nat} (few : before ≤ depth) :
      Agree wherever before (fun _ => before - 1) (expression inner .header)
        (expression other .header) :=
    agree_expression agree .header _ (few.trans (Nat.le_succ _))
  refine .looks (fun _ => rfl) fun _ _ => .looks (fun _ => rfl) fun c _ => ?_
  split
  case h_1 isNext | h_2 isNext =>
    exact (agree_takeAt isNext nofun).bind fun _ => (agree_pattern _).stays.bind fun _ =>
      (agree_expectSymbol .assign).stays.bind fun _ =>
        (value ((Nat.sub_le _ 1).trans few)).stays.bind fun _ => agree_spanned _ _
  case h_3 => exact (value few).always.bind fun _ => .pure le_rfl

theorem agree_conditional : AgreeBelow (depth + 1) (conditional inner) (conditional other) := by
  intro before few
  have fewer := Nat.sub_le_of_le_add few
  have evenFewer := (Nat.sub_le (before - 1) 1).trans fewer
  have body {knows : Cursor → Prop} : Agree knows (before - 1) (fun _ => before - 1)
      (block inner) (block other) := (agree_block agree _ (fewer.trans (Nat.le_succ _))).stays
  refine (agree_expectKeyword .if_).bind fun keyword =>
    (agree.separated (agree_condition agree) fewer).stays.bind fun conditions =>
      body.bind fun thenBlock => agree_eat.bind fun _ => ?_
  have rest (otherwise : Option Alternative) : Agree wherever (before - 1) (fun _ => before - 1)
      (do return Conditional.mk (← spanFrom keyword.span.start) conditions thenBlock otherwise)
      (do return Conditional.mk (← spanFrom keyword.span.start) conditions thenBlock otherwise) :=
    agree_spanned _ _
  refine .ite (fun _ => .looks (fun _ => rfl) fun _ _ => ?_) fun _ => (Agree.pure le_rfl).bind rest
  exact .either (fun _ => ((agree.conditional _ fewer).stays.map _).map _)
    (fun _ => (body.map _).map _) rest

theorem agree_caseLabel (few : before ≤ depth + 1) :
    Agree knows before (fun _ => before - 1) (caseLabel inner) (caseLabel other) := by
  have fewer := Nat.sub_le_of_le_add few
  refine .looks (fun _ => rfl) fun c _ => ?_
  split
  case h_1 isNext =>
    refine (agree_takeAt isNext nofun).bind fun _ => ?_
    extract_lets stops
    exact (agree.separated (fun _ _ => agree_pattern stops) fewer).stays.bind fun _ =>
      .pure le_rfl
  case h_2 isNext => exact (agree_takeAt isNext nofun).bind fun _ => .pure le_rfl
  case h_3 => exact .fails fun _ _ _ => not_yields_unexpected

theorem agree_switchCase : AgreeBelow depth (switchCase inner) (switchCase other) :=
  fun _ few => .looks (fun _ => rfl) fun _ _ =>
    (agree_caseLabel agree (few.trans (Nat.le_succ _))).bind fun _ =>
      (agree_expectSymbol .colon).stays.bind fun _ =>
        (agree_statements agree _ ((Nat.sub_le _ _).trans few)).bind fun _ => agree_spanned _ _

theorem agree_switch (few : before ≤ depth + 1) :
    Agree knows before (fun _ => before - 1) (switch inner) (switch other) :=
  have fewer := Nat.sub_le_of_le_add few
  (agree_expectKeyword .switch_).bind fun _ =>
    (agree_expression agree .header _ (fewer.trans (Nat.le_succ _))).stays.bind fun _ =>
      (agree_expectSymbol .braceOpen).stays.bind fun _ =>
        (agree_repeatedUntil ((agree_switchCase agree).mono fewer) .braceClose
          (fewer.trans agree.bound.le) (fewer.trans agree.otherBound.le)).bind fun _ =>
            (agree_expectSymbol .braceClose).stays.bind fun _ => agree_spanned _ _

theorem agree_loop (few : before ≤ depth + 1)
    (notEnd : ∀ c, knows c → c.next.kind ≠ .endOfFile) :
    Agree knows before (fun _ => before - 1) (loop inner) (loop other) := by
  have fewer := (Nat.sub_le_of_le_add few).trans (Nat.le_succ _)
  have header : Agree wherever (before - 1) (fun _ => before - 1) (expression inner .header)
      (expression other .header) := (agree_expression agree .header _ fewer).stays
  have body : Agree wherever (before - 1) (fun _ => before - 1) (block inner) (block other) :=
    (agree_block agree _ fewer).stays
  refine (agree_take notEnd).bind fun keyword => ?_
  dsimp only
  split
  · exact (agree_pattern _).stays.bind fun _ => (agree_expectKeyword .in_).stays.bind fun _ =>
      header.bind fun _ => body.bind fun _ => agree_spanned _ _
  · exact header.bind fun _ => body.bind fun _ => agree_spanned _ _
  · exact body.bind fun _ => (agree_expectKeyword .while_).stays.bind fun _ =>
      header.bind fun _ => agree_spanned _ _

theorem agree_returning (few : before ≤ depth + 1) :
    Agree knows before (fun _ => before - 1) (returning inner) (returning other) := by
  have fewer := (Nat.sub_le_of_le_add few).trans (Nat.le_succ _)
  refine (agree_expectKeyword .return_).bind fun keyword => .looks (fun _ => rfl) fun _ _ => ?_
  extract_lets keyword ends
  exact .either (fun _ => .pure le_rfl)
    (fun _ => (agree_expression agree .statement _ fewer).stays.map some) fun _ => agree_spanned _ _

omit agree in
theorem agree_directive (notEnd : ∀ c, knows c → c.next.kind ≠ .endOfFile) :
    Agree knows before (fun _ => before - 1) directive directive :=
  .ofReads fun c sound known _ _ yields =>
    Inner.Builds.reads_directive sound (notEnd c known) yields

theorem agree_statement : AgreeBelow (depth + 1) (statement inner) (statement other) := by
  intro before few
  have fewer := (Nat.sub_le_of_le_add few).trans (Nat.le_succ _)
  refine .looks (fun _ => rfl) fun _ _ => .looks (fun _ => rfl) fun c _ => ?_
  have notEnd {kind : TokenKind} (isNext : c.next.kind = kind) (notEnd : kind ≠ .endOfFile)
      (here : Cursor) (isHere : here = c) : here.next.kind ≠ .endOfFile := by
    rwa [isHere, isNext]
  split
  case h_9 => exact (agree_conditional agree _ few).always.bind fun _ => .pure le_rfl
  case h_10 => exact (agree_switch agree few).bind fun _ => .pure le_rfl
  case h_11 isNext =>
    exact (agree_takeAt isNext nofun).bind fun _ => (agree_block agree _ fewer).stays.bind fun _ =>
      agree_spanned _ _
  case h_12 isNext | h_13 isNext | h_14 isNext =>
    exact (agree_loop agree few (notEnd isNext nofun)).bind fun _ => .pure le_rfl
  case h_15 => exact agree_returning agree few
  case h_16 isNext | h_17 isNext | h_18 isNext =>
    exact (agree_takeAt isNext nofun).bind fun _ => agree_spanned _ _
  case h_19 isNext =>
    exact (agree_directive (notEnd isNext nofun)).bind fun _ => .pure le_rfl
  case h_20 => exact (agree_expression agree .statement _ few).always.bind fun _ => .pure le_rfl
  all_goals exact (agree_declaration agree _ few).always.bind fun _ => .pure le_rfl

/-! ### All depths -/

omit agree in
/-- **Depth does not matter**: the parsers of any two depths agree where there are no more tokens
left than either is deep. -/
theorem agree_innerOfDepth {least depth more : Nat} (enough : least ≤ depth)
    (alsoEnough : least ≤ more) :
    Inner.Agree { innerOfDepth depth with bound := depth + 1 }
      { innerOfDepth more with bound := more + 1 } least := by
  induction least generalizing depth more with
  | zero =>
      -- a sound cursor has the end of the file in front of it, so there is no such cursor
      have none {α : Type} {first second : Parser α} : AgreeBelow 0 first second :=
        fun few fewer => Nat.le_zero.mp fewer ▸ .ofNone
      exact
        { bound := Nat.succ_pos _
          otherBound := Nat.succ_pos _
          type := none
          expression := fun _ => none
          ternary := fun _ => none
          binary := fun _ _ => none
          unary := fun _ => none
          statement := none
          declaration := none
          conditional := none }
  | succ least ih =>
      obtain ⟨depth, rfl⟩ := Nat.exists_eq_add_of_le' enough
      obtain ⟨more, rfl⟩ := Nat.exists_eq_add_of_le' alsoEnough
      -- the parsers of a level are made from those of the next, which see a token less
      have further := ih (Nat.le_add_left least depth) (Nat.le_add_left least more)
      exact
        { bound := Nat.lt_succ_of_le enough
          otherBound := Nat.lt_succ_of_le alsoEnough
          type := agree_type further
          expression := agree_expression further
          ternary := agree_ternary further
          binary := agree_binary further
          unary := agree_unary further
          statement := agree_statement further
          declaration := agree_declaration further
          conditional := agree_conditional further }

end ResultBuilder.Syntax.Parser
