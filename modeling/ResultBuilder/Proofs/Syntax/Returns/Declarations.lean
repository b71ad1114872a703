import ResultBuilder.Proofs.Syntax.Returns.Expressions

/-!
# Declarations that are tracked

A declaration that ends with its signature may go on on the next line; what is known behind it has
to rule that out.

* **`Parser.tracks_declaration`**: declarations.
-/

namespace ResultBuilder.Syntax

variable {sites : List ReturnSite}

/-! ### What is in declarations -/

theorem worth_functionDecl (decl : FunctionDecl) : worth sites decl = worth sites decl.body := by
  show Node.tallies sites [_] = _
  rw [Node.tallies_cons, Node.tally_declaration, Node.ofDeclaration]
  cases body : decl.body <;> simp [worth, ParserValue.nodes]

theorem worth_variableDecl (decl : VariableDecl) :
    worth sites decl = worth sites decl.value + worth sites decl.body := by
  show Node.tallies sites [_] = _
  rw [Node.tallies_cons, Node.tally_declaration, Node.ofDeclaration]
  cases value : decl.value <;> cases body : decl.body <;> simp [worth, ParserValue.nodes]

theorem worth_typeDecl (decl : TypeDecl) : worth sites decl = worth sites decl.members := by
  show Node.tallies sites [_] = _
  rw [Node.tallies_cons, Node.tally_declaration, Node.ofDeclaration]
  simp only [Node.tallies_append, Node.tallies_cons, Node.tallies_nil, Node.tally_name,
    Node.tallies_map_eq_zero sites (Node.tally_attribute sites),
    Node.tallies_map_eq_zero sites (Node.tally_generic sites), Nat.zero_add, Nat.add_zero]
  exact tallies_map (fun _ => rfl) decl.members

theorem worth_enumDecl (decl : EnumDecl) : worth sites (Declaration.enum decl) = 0 := by
  show Node.tallies sites [_] = _
  rw [Node.tallies_cons, Node.tally_declaration, Node.ofDeclaration]
  simp

theorem lasts_typeOption {type other : Option DeclaredType} (same : Lasts sites type other) :
    other.map (·.bare) = type.map (·.bare) := by
  have same : other.map (·.bare) = (type.map id).map (·.bare) := same
  rwa [Option.map_id, id_eq] at same

theorem lasts_param {param other : Param} : Lasts sites param other ↔ other.bare = param.bare :=
  .rfl

namespace Parser

variable {inner : Inner} {c c' d : Cursor} {g : Ground} (tracks : inner.Tracks sites)
include tracks

/-! ### Parts of declarations -/

omit tracks in
theorem asks_signed {kind : TokenKind} : Ground.signed.Asks kind :=
  .inl (by decide)

theorem tracks_genericParam : TracksAt sites (.behind .signed) (fun _ => .behind .signed) 0 c d
    (genericParam inner) (genericParam inner) := by
  refine .here (.bind (tracks_identifier (g := .signed)) fun name name' _ _ sameName =>
    .eatOptional (g := .signed) (w := fun _ => .behind .signed) (.inl (by decide)) rfl
      (fun _ => (tracks.type _ _).prior (by decide)) (.refl _) fun bound bound' _ _ same =>
        .spanned (fun _ => Nat.zero_le _) (fun _ _ => ?_) fun _ => .refl _)
  show GenericParam.mk _ _ _ = GenericParam.mk _ _ _
  rw [lasts_typeOption same]
  exact congrArg (GenericParam.mk (.point 0) · _) sameName

theorem tracks_generics : TracksAt sites (.behind .signed) (fun _ => .behind .signed) 0 c d
    (generics inner) (generics inner) :=
  .eat (g := .signed) (.inl (by decide)) rfl
    (fun _ => tracks_closedBy (by decide) rfl (fun _ _ => tracks_genericParam tracks) _)
    fun _ => .pure (Nat.le_refl 0) .nil (.refl _)

theorem tracks_conformances : TracksAt sites (.behind .signed) (fun _ => .behind .signed) 0 c d
    (conformances inner) (conformances inner) := by
  refine .eat (g := .signed) (.inl (by decide)) rfl (fun _ => ?_)
    fun _ => .pure (Nat.le_refl 0) rfl (.refl _)
  exact .bind (tracks_separated (by decide) (by decide)
    (fun c d => (tracks.type c d).prior (by decide)) _)
    fun _ _ _ _ _ => .pure (Nat.zero_le _) rfl (.refl _)

omit tracks in
theorem tracks_skipWhereClause : TracksAt sites (.behind .signed) (fun _ => .behind .signed) 0 c d
    skipWhereClause skipWhereClause := by
  refine .looks (fun _ => rfl) (fun _ => rfl) (.ite (fun settled follows => ?_) (fun isWhere => ?_)
    fun _ => .pure (Nat.le_refl 0) rfl (.refl _))
  · rw [follows.kind_next settled.1, follows.text_next settled.1]
  · have isName : c.next.kind = .identifier := beq_iff_eq.mp (Bool.and_eq_true_iff.mp isWhere).1
    refine .bind (tracks_run (by decide) (fun token other same breaks => ?_) (fun token isEnd => ?_)
      fun _ => isName ▸ rfl) fun _ _ _ _ _ => .pure (Nat.zero_le _) rfl (.refl _)
    · rw [continuesClause, continuesClause, kind_eq_of_bare same, breaks]
    · rw [continuesClause, isEnd]

/-- What follows the names of a parameter. -/
theorem tracks_paramRest {start start' : Nat} {before before' : List Attribute}
    {first first' name name' : Name}
    (sameMarks : before'.map (·.bare) = before.map (·.bare)) (sameFirst : first'.bare = first.bare)
    (sameName : name'.bare = name.bare) :
    TracksAt sites (.behind .signed) (fun _ => .behind .signed) 0 c d
      (paramRest inner start before first name) (paramRest inner start' before' first' name') := by
  have sameText : first'.text = first.text := @Lasts.text sites _ _ sameFirst
  refine .bind (tracks_expectSymbol (g := .signed) .colon rfl) fun _ _ _ _ _ =>
    .bind (tracks_attributes (by decide) inner.bound) fun after after' _ _ sameAfter =>
      .bind ((tracks.type _ _).prior (by decide)) fun type type' _ _ sameType => ?_
  -- a parameter is made alike with a default value, which is dropped, and without one
  have made {pre : Ground} (low : pre.rank ≤ 3) (isVariadic : Bool) (credit : Nat) (c d : Cursor) :
      TracksAt sites (.behind pre) (fun _ => .behind .signed) credit c d
        (do return (⟨← spanFrom start, before ++ after,
          if first.text == "_" then none else some first, name, type, isVariadic⟩ : Param))
        (do return (⟨← spanFrom start', before' ++ after',
          if first'.text == "_" then none else some first', name', type',
          isVariadic⟩ : Param)) := by
    refine .spanned (fun _ => Nat.zero_le _) (fun _ _ => ?_) fun _ => ⟨id, id, low⟩
    have sameAfter : after'.map (·.bare) = after.map (·.bare) :=
      (lasts_list fun _ _ => rfl).mp sameAfter
    have sameType : type'.bare = type.bare := sameType
    have sameLabel : (if (first.text == "_") = true then none else some first').map (·.bare) =
        (if (first.text == "_") = true then none else some first).map (·.bare) := by
      split
      · rfl
      · exact congrArg some sameFirst
    refine lasts_param.mpr ?_
    rw [Param.bare, Param.bare, List.map_append, List.map_append, sameMarks, sameAfter, sameText,
      sameName, sameType, sameLabel]
  have rest (isVariadic : Bool) (credit : Nat) (c d : Cursor) :
      TracksAt sites (.behind .signed) (fun _ => .behind .signed) credit c d
        (do
          if ← eatSymbol .assign then
            let _ ← inner.expression .delimited
          return (⟨← spanFrom start, before ++ after,
            if first.text == "_" then none else some first, name, type, isVariadic⟩ : Param))
        (do
          if ← eatSymbol .assign then
            let _ ← inner.expression .delimited
          return (⟨← spanFrom start', before' ++ after',
            if first'.text == "_" then none else some first', name', type',
            isVariadic⟩ : Param)) := by
    refine .eat (g := .signed) (.inl (by decide)) rfl (fun _ => ?_)
      fun _ => made (by decide) isVariadic _ _ _
    exact .bind ((tracks.expression .delimited _ _).prior (by decide)) fun _ _ _ _ _ =>
      made (by decide : Ground.firm.rank ≤ 3) isVariadic _ _ _
  exact .eat (g := .signed) asks_signed rfl (fun _ => rest true _ _ _) fun _ => rest false _ _ _

/-- A parameter. -/
theorem tracks_param : TracksAt sites (.behind .signed) (fun _ => .behind .signed) 0 c d
    (param inner) (param inner) := by
  refine .here (.bind (tracks_attributes (by decide) _) fun before before' _ _ sameMarks =>
    .bind (tracks_nameOrUnderscore (g := .signed)) fun first first' _ _ sameFirst =>
      .isAt asks_signed nofun (.isAt asks_signed nofun ?_))
  have rest {name name' : Name} (sameName : name'.bare = name.bare) (credit : Nat)
      (other other' : Cursor) :
      TracksAt sites (.behind .signed) (fun _ => .behind .signed) credit other other'
        (paramRest inner c.next.span.start before first name)
        (paramRest inner d.next.span.start before' first' name') :=
    (tracks_paramRest tracks ((lasts_list fun _ _ => rfl).mp sameMarks) sameFirst sameName).prior
      (.refl _)
  refine .ite (fun _ _ => .rfl) (fun _ => ?_) fun _ => ?_
  · exact .bind (tracks_nameOrUnderscore (g := .signed)) fun name name' _ _ sameName =>
      rest sameName _ _ _
  · exact .bind (.pure (Nat.le_refl 0) sameFirst (.refl _)) fun name name' _ _ sameName =>
      rest sameName _ _ _

/-! ### Functions and variables -/

omit tracks in
theorem lasts_functionDecl {span span' : Span} {marks marks' : List Attribute} {isStatic : Bool}
    {name name' : Name} {generics generics' : List GenericParam} {params params' : List Param}
    {result result' : Option DeclaredType} {body body' : Option Block}
    (sameMarks : marks'.map (·.bare) = marks.map (·.bare)) (sameName : name'.bare = name.bare)
    (sameGenerics : generics'.map (·.bare) = generics.map (·.bare))
    (sameParams : params'.map (·.bare) = params.map (·.bare))
    (sameResult : result'.map (·.bare) = result.map (·.bare)) (same : Lasts sites body body') :
    Lasts sites (FunctionDecl.mk span marks isStatic name generics params result body)
      ⟨span', marks', isStatic, name', generics', params', result', body'⟩ := by
  have same : body'.map (·.rebuild .plain) =
      (body.map (·.without (sites.map ReturnSite.keyword))).map (·.rebuild .plain) := same
  show FunctionDecl.rebuild .plain _ = FunctionDecl.rebuild .plain (FunctionDecl.without _ _)
  rw [FunctionDecl.without, FunctionDecl.rebuild, FunctionDecl.rebuild, Block.rebuildOption_eq_map,
    Block.rebuildOption_eq_map, Block.withoutOption_eq_map, same, sameMarks, sameName, sameGenerics,
    sameParams, sameResult]

/-- A function, behind which no body is on the next line if it has none. -/
theorem tracks_functionDecl {start start' : Nat} {marks marks' : List Attribute} (isStatic : Bool)
    (sameMarks : marks'.map (·.bare) = marks.map (·.bare)) :
    TracksAt sites (.start .signed) (fun decl => .behind (Declaration.function decl).ground) 0 c d
      (functionDecl inner start marks isStatic) (functionDecl inner start' marks' isStatic) := by
  have params (c d : Cursor) : TracksAt sites (.behind .signed) (fun _ => .behind .signed) 0 c d
      (closedBy .parenClose (param inner) inner.bound)
      (closedBy .parenClose (param inner) inner.bound) :=
    tracks_closedBy (by decide) rfl (fun _ _ => tracks_param tracks) _
  refine .bind (tracks_eat rfl asks_signed) fun _ _ _ _ _ =>
    .bind (tracks_identifier (g := .signed)) fun name name' _ _ sameName =>
      .bind ((tracks_generics tracks).prior (.refl _)) fun generics generics' _ _ sameGenerics =>
        .bind (tracks_expectSymbol (g := .signed) .parenOpen rfl) fun _ _ _ _ _ =>
          .bind ((params _ _).prior (.refl _)) fun params params' _ _ sameParams => ?_
  refine .eatOptional (g := .signed) (w := fun _ => .behind .signed) asks_signed rfl
    (fun _ => (tracks.type _ _).prior (by decide)) (.refl _) fun result result' _ _ sameResult =>
      .bind (tracks_skipWhereClause.prior (.refl _)) fun _ _ _ _ _ => .isAt asks_signed nofun ?_
  -- without a body the function ends with its signature, and more is known behind it
  refine .optional (w := fun body => .behind (if body.isNone then .signed else .loose))
    (fun _ _ => .rfl) (fun _ => (tracks_block tracks).prior (by decide)) (.refl _)
    fun body body' _ _ sameBody => .spanned (fun _ => ?_) (fun _ _ => ?_) fun _ => .refl _
  · rw [worth_functionDecl]
    exact Nat.le_add_left _ _
  · exact lasts_functionDecl sameMarks sameName ((lasts_list fun _ _ => rfl).mp sameGenerics)
      ((lasts_list fun _ _ => rfl).mp sameParams) (lasts_typeOption sameResult) sameBody

omit tracks in
theorem lasts_variableDecl {span span' : Span} {marks marks' : List Attribute} {isMutable : Bool}
    {name name' : Name} {type type' : Option DeclaredType} {value value' : Option Expr}
    {body body' : Option Block}
    (sameMarks : marks'.map (·.bare) = marks.map (·.bare)) (sameName : name'.bare = name.bare)
    (sameType : type'.map (·.bare) = type.map (·.bare)) (sameValue : Lasts sites value value')
    (same : Lasts sites body body') :
    Lasts sites (VariableDecl.mk span marks isMutable name type value body)
      ⟨span', marks', isMutable, name', type', value', body'⟩ := by
  have sameValue : value'.map (·.rebuild .plain) =
      (value.map (·.without (sites.map ReturnSite.keyword))).map (·.rebuild .plain) := sameValue
  have same : body'.map (·.rebuild .plain) =
      (body.map (·.without (sites.map ReturnSite.keyword))).map (·.rebuild .plain) := same
  show VariableDecl.rebuild .plain _ = VariableDecl.rebuild .plain (VariableDecl.without _ _)
  rw [VariableDecl.without, VariableDecl.rebuild, VariableDecl.rebuild, Block.rebuildOption_eq_map,
    Block.rebuildOption_eq_map, Block.withoutOption_eq_map, Expr.rebuildOption_eq_map,
    Expr.rebuildOption_eq_map, Expr.withoutOption_eq_map, same, sameValue, sameMarks, sameName,
    sameType]

omit tracks in
/-- The body of a variable, and the variable. -/
def variableBody (inner : Inner) (start : Nat) (marks : List Attribute) (isMutable : Bool)
    (name : Name) (type : Option DeclaredType) (value : Option Expr) : Parser VariableDecl := do
  let opens := (← isAtSymbol .braceOpen) && !(← onNewLine .statement)
  let body ← if value.isNone && opens then some <$> block inner else pure none
  return ⟨← spanFrom start, marks, isMutable, name, type, value, body⟩

/-- The body of a variable opens on its line, and there is none behind a value. -/
theorem tracks_variableBody {start start' credit : Nat} {marks marks' : List Attribute}
    (isMutable : Bool) {name name' : Name} {type type' : Option DeclaredType}
    {value value' : Option Expr}
    (sameMarks : marks'.map (·.bare) = marks.map (·.bare)) (sameName : name'.bare = name.bare)
    (sameType : type'.map (·.bare) = type.map (·.bare)) (sameValue : Lasts sites value value')
    (paid : worth sites value ≤ credit) :
    TracksAt sites (.behind (if value.isNone then .signed else .loose))
      (fun decl => .behind (Declaration.variable decl).ground) credit c d
      (variableBody inner start marks isMutable name type value)
      (variableBody inner start' marks' isMutable name' type' value') := by
  have lasts {body body' : Option Block} (span span' : Span) (same : Lasts sites body body') :=
    @lasts_variableDecl sites span span' _ _ isMutable _ _ _ _ _ _ _ _ sameMarks sameName sameType
      sameValue same
  cases value with
  | none =>
      -- without a value there is a body if its brace is on the line
      obtain rfl : value' = none := Option.map_eq_none_iff.mp sameValue
      refine .isAt asks_signed nofun (.looks (fun _ => rfl) (fun _ => rfl) ?_)
      refine .optional (w := fun body => .behind (if body.isNone then .signed else .loose))
        (fun settled follows => ?_) (fun _ => (tracks_block tracks).prior (by decide)) (.refl _)
        fun body body' _ _ sameBody =>
          .spanned (fun _ => ?_) (fun _ _ => lasts _ _ sameBody) fun _ => .refl _
      · rw [follows.newlineBefore_next settled.1]
      · rw [worth_variableDecl, worth_none, Nat.zero_add]
        exact Nat.le_add_left _ _
  | some value =>
      obtain ⟨other, rfl, -⟩ := Option.map_eq_some_iff.mp sameValue
      -- behind a value a brace is no body, though it is looked for
      refine .looks (fun _ => rfl) (fun _ => rfl) (.looks (fun _ => rfl) (fun _ => rfl) ?_)
      refine .ite (fun _ _ => .rfl) (fun isOpen => absurd isOpen Bool.false_ne_true) fun _ =>
        .bind (t := fun _ => .behind .loose) (.pure (Nat.le_refl 0) Lasts.none (.refl _))
          fun body body' _ _ sameBody =>
            .spanned (fun _ => ?_) (fun _ _ => lasts _ _ sameBody) fun _ => .refl _
      rw [worth_variableDecl]
      exact Nat.add_le_add_right paid _

/-- A variable: if it has neither a value nor a body, nothing goes on with it on the next line. -/
theorem tracks_variableDecl {start start' : Nat} {marks marks' : List Attribute}
    (sameMarks : marks'.map (·.bare) = marks.map (·.bare)) (firm : c.next.kind.isFirm = true) :
    TracksAt sites (.start .signed) (fun decl => .behind (Declaration.variable decl).ground) 0 c d
      (variableDecl inner start marks) (variableDecl inner start' marks') := by
  refine .bind (tracks_take (g := .signed) firm) fun token token' _ _ same =>
    .bind (tracks_nameOrUnderscore (g := .signed)) fun name name' _ _ sameName => ?_
  rw [kind_eq_of_bare (same : token'.bare = token.bare)]
  refine .eatOptional (g := .signed) (w := fun _ => .behind .signed) asks_signed rfl
    (fun _ => (tracks.type _ _).prior (by decide)) (.refl _) fun type type' _ _ sameType => ?_
  exact .eatOptional (g := .signed)
    (w := fun value => .behind (if value.isNone then .signed else .loose)) asks_signed rfl
    (fun _ => (tracks_expression tracks .statement _ _).prior (by decide)) (.refl _)
    fun value value' _ _ sameValue => tracks_variableBody tracks _ sameMarks sameName
      (lasts_typeOption sameType) sameValue (Nat.le_add_left _ _)

/-! ### Types -/

omit tracks in
theorem lasts_enumCase {span span' : Span} {name name' : Name}
    {payload payload' : List DeclaredType} (sameName : name'.bare = name.bare)
    (same : payload'.map (·.bare) = payload.map (·.bare)) :
    Lasts sites (EnumCase.mk span name payload) ⟨span', name', payload'⟩ := by
  show EnumCase.mk _ _ _ = EnumCase.mk _ _ _
  exact congrArg₂ (EnumCase.mk (.point 0)) sameName same

theorem tracks_enumCase : TracksAt sites (.behind .signed) (fun _ => .behind .signed) 0 c d
    (enumCase inner) (enumCase inner) := by
  refine .here (.bind (tracks_identifier (g := .signed)) fun name name' _ _ sameName =>
    .isAt asks_signed nofun (.ite (fun _ _ => .rfl) (fun _ => ?_) fun _ => ?_))
  · refine .bind ((tracks_typeList (g := .signed) tracks).prior (by decide))
      fun payload payload' _ _ same =>
        .spanned (fun _ => Nat.zero_le _) (fun _ _ => ?_) fun _ => .refl _
    exact lasts_enumCase sameName ((lasts_list fun _ _ => rfl).mp same)
  · refine .bind (.pure (Nat.le_refl 0) .nil (.refl _)) fun payload payload' _ _ same =>
      .spanned (fun _ => Nat.zero_le _) (fun _ _ => ?_) fun _ => .refl _
    exact lasts_enumCase sameName ((lasts_list fun _ _ => rfl).mp same)

theorem tracks_enumCases : TracksAt sites (.behind .signed) (fun _ => .behind .signed) 0 c d
    (enumCases inner) (enumCases inner) :=
  .bind (tracks_expectKeyword (g := .signed) .case_ rfl) fun _ _ _ _ _ =>
    (tracks_separated (by decide) (by decide) (fun _ _ => tracks_enumCase tracks) _).prior (.refl _)

/-- An enum. -/
theorem tracks_enumDecl {start start' : Nat} :
    TracksAt sites (.start .signed) (fun _ => .behind .loose) 0 c d
      (enumDecl inner start) (enumDecl inner start') := by
  refine .bind (tracks_expectKeyword (g := .signed) .enum_ rfl) fun _ _ _ _ _ =>
    .bind (tracks_identifier (g := .signed)) fun name name' _ _ sameName =>
      .bind ((tracks_generics tracks).prior (.refl _)) fun _ _ _ _ _ =>
        .bind ((tracks_conformances tracks).prior (.refl _)) fun _ _ _ _ _ =>
          .bind (tracks_expectSymbol (g := .signed) .braceOpen rfl) fun _ _ _ _ _ =>
            .bind ((tracks_members (fun _ _ => tracks_enumCases tracks) _).prior (.refl _))
              fun cases cases' _ _ same =>
                .bind (tracks_expectSymbol (g := .loose) .braceClose rfl) fun _ _ _ _ _ =>
                  .spanned (fun _ => Nat.zero_le _) (fun _ _ => ?_) fun _ => .refl _
  have same : cases'.map (List.map (·.bare)) = cases.map (List.map (·.bare)) :=
    (lasts_list fun keywords value => List.map_id' value).mp same
  show EnumDecl.mk _ _ (cases'.flatten.map _) = EnumDecl.mk _ _ (cases.flatten.map _)
  rw [List.map_flatten, List.map_flatten, same]
  exact congrArg (EnumDecl.mk (.point 0) · _) sameName

omit tracks in
theorem lasts_typeDecl {span span' : Span} {marks marks' : List Attribute} {kind : TypeKind}
    {name name' : Name} {generics generics' : List GenericParam}
    {members members' : List Declaration}
    (sameMarks : marks'.map (·.bare) = marks.map (·.bare)) (sameName : name'.bare = name.bare)
    (sameGenerics : generics'.map (·.bare) = generics.map (·.bare))
    (same : Lasts sites members members') :
    Lasts sites (TypeDecl.mk span marks kind name generics members)
      ⟨span', marks', kind, name', generics', members'⟩ := by
  have same : members'.map (·.rebuild .plain) =
      (members.map (·.without (sites.map ReturnSite.keyword))).map (·.rebuild .plain) := same
  show TypeDecl.rebuild .plain _ = TypeDecl.rebuild .plain (TypeDecl.without _ _)
  rw [TypeDecl.without, TypeDecl.rebuild, TypeDecl.rebuild, Declaration.rebuilds_eq_map,
    Declaration.rebuilds_eq_map, Declaration.withoutAll_eq_map, same, sameMarks, sameName,
    sameGenerics]

omit tracks in
/-- What is known behind a member is known for each kind of them. -/
theorem covers_member (decl : Declaration) :
    (Footing.behind decl.ground).Covers (.behind .signed) := by
  unfold Declaration.ground
  split <;> decide

/-- A struct or class. -/
theorem tracks_typeDecl {start start' : Nat} {marks marks' : List Attribute}
    (sameMarks : marks'.map (·.bare) = marks.map (·.bare)) (firm : c.next.kind.isFirm = true) :
    TracksAt sites (.start .signed) (fun _ => .behind .loose) 0 c d
      (typeDecl inner start marks) (typeDecl inner start' marks') := by
  have member (c d : Cursor) : TracksAt sites (.behind .signed) (fun _ => .behind .signed) 0 c d
      inner.declaration inner.declaration :=
    (tracks.declaration c d).cover (by decide) covers_member
  refine .bind (tracks_take (g := .signed) firm) fun token token' _ _ sameToken =>
    .bind (tracks_identifier (g := .signed)) fun name name' _ _ sameName =>
      .bind ((tracks_generics tracks).prior (.refl _)) fun generics generics' _ _ sameGenerics =>
        .bind ((tracks_conformances tracks).prior (.refl _)) fun _ _ _ _ _ =>
          .bind (tracks_skipWhereClause.prior (.refl _)) fun _ _ _ _ _ =>
            .bind (tracks_expectSymbol (g := .signed) .braceOpen rfl) fun _ _ _ _ _ =>
              .bind ((tracks_members member _).prior (.refl _)) fun members members' _ _ same =>
                .bind (tracks_expectSymbol (g := .loose) .braceClose rfl) fun _ _ _ _ _ =>
                  .spanned (fun _ => ?_) (fun _ _ => ?_) fun _ => .refl _
  · rw [worth_typeDecl]
    exact (Nat.le_add_left _ _).trans (Nat.le_add_right _ _)
  · rw [kind_eq_of_bare (sameToken : token'.bare = token.bare)]
    exact lasts_typeDecl sameMarks sameName ((lasts_list fun _ _ => rfl).mp sameGenerics) same

/-! ### Declarations -/

/-- **Declarations**, behind which more has to be known where they end with their signature. -/
theorem tracks_declaration : Tracks sites Declaration.ground (Parser.declaration inner) := by
  intro c d
  refine .here (.bind (tracks_attributes (by decide) inner.bound) fun marks marks' _ _ sameMarks =>
    .bind (tracks_eat rfl asks_signed) fun isStatic isStatic' c d sameStatic =>
      .peek (by decide) fun token same => ?_)
  have sameMarks : marks'.map (·.bare) = marks.map (·.bare) :=
    (lasts_list fun _ _ => rfl).mp sameMarks
  obtain rfl : isStatic' = isStatic := sameStatic
  have function (credit start start' : Nat) :
      TracksAt sites (.start .signed) (fun decl : Declaration => .behind decl.ground) credit c d
        (do return .function (← functionDecl inner start marks isStatic'))
        (do return .function (← functionDecl inner start' marks' isStatic')) :=
    .bind (tracks_functionDecl tracks isStatic' sameMarks) fun decl decl' _ _ same =>
      .pure (Nat.le_add_left _ _) (congrArg Declaration.function same) (.refl _)
  rw [kind_eq_of_bare same, text_eq_of_bare same]
  split
  case h_1 isKind | h_2 isKind =>
    exact .bind (tracks_typeDecl tracks sameMarks (isKind ▸ rfl)) fun decl decl' _ _ same =>
      .pure (Nat.le_add_left _ _) (congrArg Declaration.type same) (.refl _)
  case h_3 =>
    refine .bind (tracks_enumDecl tracks) fun decl decl' _ _ same =>
      .pure ?_ (congrArg Declaration.enum same) (.refl _)
    rw [worth_enumDecl]
    exact Nat.zero_le _
  case h_4 => exact function _ _ _
  case h_5 =>
    exact .ite (fun _ _ => .rfl) (fun _ => function _ _ _)
      fun _ => .fails fun _ _ => not_yields_unexpected
  case h_6 isKind | h_7 isKind =>
    exact .bind (tracks_variableDecl tracks sameMarks (isKind ▸ rfl)) fun decl decl' _ _ same =>
      .pure (Nat.le_add_left _ _) (congrArg Declaration.variable same) (.refl _)
  case h_8 => exact .fails fun _ _ => not_yields_unexpected

end Parser

end ResultBuilder.Syntax
