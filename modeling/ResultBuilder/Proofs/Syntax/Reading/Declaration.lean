import ResultBuilder.Proofs.Syntax.Reading.Expression

/-!
# Declarations that are read

Main statement: `Parser.Inner.Builds.readsDeclaration`. The attributes of a declaration are read
before its parser knows what it declares, so that the parsers of the kinds of declarations go on from
what was read of them.
-/

namespace ResultBuilder.Syntax.Parser

open Cursor (Reads Passes)

variable {c c' start : Cursor} {inner : Inner} {depth : Nat}

/-! ### What may be missing -/

section Optional

variable {α : Type} {parser : Parser α} {fuel : Nat} {wrap : α → Node} {value : Option α}

theorem Builds.yieldsAfter {sign : Symbol} (builds : parser.Builds fuel fun item => [wrap item])
    (sound : c.IsSound) (few : c.rest.length ≤ fuel + 1)
    (yields : YieldsAfter sign parser c value c') : c.Passes (value.toList.map wrap) c' := by
  unfold YieldsAfter at yields
  split at yields
  · next isSign =>
      obtain ⟨found, read, rfl⟩ := yields
      have past := Reads.takeSymbol sound isSign
      have fewer := past.fewer
      exact .inr (past.trans (builds past.sound' (by omega) read))
  · obtain ⟨rfl, rfl⟩ := yields
    exact .inl ⟨rfl, rfl⟩

theorem Builds.yieldsIf {wanted : Prop} [Decidable wanted]
    (builds : parser.Builds fuel fun item => [wrap item]) (sound : c.IsSound)
    (few : c.rest.length ≤ fuel) (yields : YieldsIf wanted parser c value c') :
    c.Passes (value.toList.map wrap) c' := by
  unfold YieldsIf at yields
  split at yields
  · obtain ⟨found, read, rfl⟩ := yields
    exact .inr (builds sound few read)
  · obtain ⟨rfl, rfl⟩ := yields
    exact .inl ⟨rfl, rfl⟩

end Optional

/-- Expressions as nodes. -/
theorem BuildsExpr.builds {parser : Parser Expr} {fuel least : Nat} {region : Region}
    (builds : parser.BuildsExpr fuel region least) :
    parser.Builds fuel fun node => [.expression node] :=
  fun _ sound few _ _ yields => (builds sound few yields).reads

theorem passes_pastWhereClause (sound : c.IsSound) : c.Passes [] (pastWhereClause c) := by
  unfold pastWhereClause
  split
  · exact .skip_takeWhile sound fun token isEnd => by simp [continuesClause, isEnd]
  · exact .inl ⟨rfl, rfl⟩

/-- A name that is the next token. -/
theorem reads_name (sound : c.IsSound) (isName : c.next.kind = .identifier) :
    c.Reads [.name ⟨c.next.span, c.next.text⟩] c.advance :=
  .leaf sound (by rw [isName]; exact nofun) rfl rfl rfl trivial trivial

theorem NameAt.notEnd {name : Name} (isAt : NameAt c name) : c.next.kind ≠ .endOfFile := by
  rcases isAt with ⟨kind, -⟩ | ⟨kind, -⟩ <;> rw [kind] <;> exact nofun

theorem NameAt.span_eq {name : Name} (isAt : NameAt c name) : name.span = c.next.span := by
  rcases isAt with ⟨-, rfl⟩ | ⟨-, rfl⟩ <;> rfl

theorem NameAt.reads {name : Name} (isAt : NameAt c name) (sound : c.IsSound) :
    c.Reads [.name name] c.advance :=
  .leaf sound isAt.notEnd isAt.span_eq rfl rfl trivial trivial

namespace Inner.Builds

/-! ### Generic parameters and conformances -/

theorem readsGenericParam (builds : inner.Builds depth) :
    (Parser.genericParam inner).Builds depth fun node => [.generic node] := by
  intro c sound few param c' yields
  obtain ⟨isName, bound, last, after, rfl, rfl⟩ := yields_genericParam.mp yields
  have name := reads_name sound isName
  have fewer := name.fewer
  have reads := name.andPasses (builds.type.yieldsAfter name.sound' (by omega) after)
  exact reads.close rfl rfl rfl trivial trivial

theorem passesGenerics {params : List GenericParam} (builds : inner.Builds depth)
    (sound : c.IsSound) (few : c.rest.length ≤ depth + 1)
    (yields : (generics inner).Yields c params c') : c.Passes (params.map .generic) c' := by
  have yields := yields_generics.mp yields
  split at yields
  · next opens =>
      have past := Reads.takeSymbol sound opens
      have fewer := past.fewer
      rw [List.map_eq_flatMap]
      exact .inr (past.trans
        (builds.readsGenericParam.closedBy builds.bound.le past.sound' (by omega) yields))
  · obtain ⟨rfl, rfl⟩ := yields
    exact .inl ⟨rfl, rfl⟩

theorem passesConformances {answer : Unit} (builds : inner.Builds depth) (sound : c.IsSound)
    (few : c.rest.length ≤ depth + 1) (yields : (conformances inner).Yields c answer c') :
    c.Passes [] c' := by
  have yields := yields_conformances.mp yields
  split at yields
  · next colon =>
      obtain ⟨types, read⟩ := yields
      have past := Reads.takeSymbol sound colon
      have fewer := past.fewer
      have reads := builds.type.separated builds.bound.le past.sound' (by omega) read
      exact .inr (past.trans reads.forget)
  · exact .inl ⟨rfl, yields⟩

end Inner.Builds

/-! ### Parameters -/

/-- The name of a parameter when it is not the one that labels its arguments. -/
def separateLabel (label : Option Name) (name : Name) : List Node :=
  match label with
  | none => []
  | some label => if label = name then [] else [.name label]

/-- The attributes of a parameter stand on the sides of its name that they were read on. -/
theorem ofParam_eq {span : Span} {before after : List Attribute} {label : Option Name} {name : Name}
    {type : DeclaredType} {isVariadic : Bool}
    (left : ∀ mark ∈ before, mark.span.stop ≤ name.span.start)
    (right : ∀ mark ∈ after, name.span.start < mark.span.stop) :
    Node.ofParam ⟨span, before ++ after, label, name, type, isVariadic⟩ =
      before.map .attribute ++ separateLabel label name ++ [.name name] ++
        (after.map .attribute ++ [.type type]) := by
  have isBefore : ∀ mark ∈ before, decide (mark.span.stop ≤ name.span.start) = true :=
    fun mark member => decide_eq_true (left mark member)
  have isAfter : ∀ mark ∈ after, decide (mark.span.stop ≤ name.span.start) = false :=
    fun mark member => decide_eq_false (Nat.not_le.mpr (right mark member))
  have front : (before ++ after).filter (fun mark => mark.span.stop ≤ name.span.start) = before := by
    rw [List.filter_append, List.filter_eq_self.mpr isBefore,
      List.filter_eq_nil_iff.mpr fun mark member => by simp [isAfter mark member], List.append_nil]
  have back : (before ++ after).filter (fun mark => !(mark.span.stop ≤ name.span.start)) = after := by
    rw [List.filter_append, List.filter_eq_nil_iff.mpr fun mark (member : mark ∈ before) => by
        simp [left mark member],
      List.filter_eq_self.mpr fun mark (member : mark ∈ after) => by simp [right mark member],
      List.nil_append]
  simp only [Node.ofParam, front, back, List.append_assoc]
  rfl

namespace Inner.Builds

/-- A parameter with its names read. -/
theorem readsParamRest {before : List Attribute} {first name : Name} {param : Param}
    (builds : inner.Builds depth)
    (reads : start.Reads (before.map .attribute ++
      separateLabel (if first.text == "_" then none else some first) name ++ [.name name]) c)
    (few : c.rest.length ≤ depth) (strict : name.span.start < name.span.stop)
    (yields : (paramRest inner start.next.span.start before first name).Yields c param c') :
    start.Reads [.param param] c' := by
  obtain ⟨colon, after, middle, marked, type, typed, read, default, last, readDefault, rfl, rfl⟩ :=
    yields_paramRest.mp yields
  have bound := builds.bound
  have past := Reads.takeSymbol reads.sound' colon
  have toMarks := past.fewer
  have marks := past.andPasses (passes_attributes past.sound' (by omega) marked)
  have toType := marks.fewer
  have withType := marks.trans (builds.type marks.sound' (by omega) read)
  have toDots := withType.fewer
  have dots : typed.Passes [] (pastEllipsis typed) := by
    unfold pastEllipsis
    split
    · next isDots => exact (Reads.takeSymbol withType.sound' isDots).passes
    · exact .inl ⟨rfl, rfl⟩
  have toDefault := dots.length_le
  have ending := dots.trans ((builds.expression .delimited).builds.yieldsAfter
    (dots.sound' withType.sound') (by omega) readDefault).forget
  have whole := reads.trans (withType.andPasses ending)
  simp only [List.append_nil, List.nil_append] at whole
  have apart := List.pairwise_append.mp whole.spread.apart
  have named : Node.name name ∈ before.map .attribute ++
      separateLabel (if first.text == "_" then none else some first) name ++ [.name name] :=
    List.mem_append_right _ (List.mem_singleton_self _)
  have children := @ofParam_eq (c'.spanFrom start.next.span.start) before after
    (if first.text == "_" then none else some first) name type
    (typed.next.kind == .symbol .ellipsis) ?_ ?_
  · exact whole.close children children rfl trivial trivial
  · intro mark member
    have before := (List.pairwise_append.mp apart.1).2.2
    exact before (.attribute mark)
      (List.mem_append_left _ (List.mem_map_of_mem member)) _ (List.mem_singleton_self _)
  · intro mark member
    have isMark : Node.attribute mark ∈ after.map .attribute ++ [.type type] :=
      List.mem_append_left _ (List.mem_map_of_mem member)
    have order := (whole.good _ (List.mem_append_right _ isMark)).here.placed.ordered
    exact strict.trans_le ((apart.2.2 _ named _ isMark).trans order)

/-- **Parameters are read** as nodes. -/
theorem readsParam (builds : inner.Builds depth) :
    (Parser.param inner).Builds depth fun node => [.param node] := by
  intro c sound few param c' yields
  obtain ⟨before, outer, marked, first, isFirst, rest⟩ := yields_param.mp yields
  have bound := builds.bound
  have marks := passes_attributes sound (by omega) marked
  have sound' := marks.sound' sound
  have firstName := isFirst.reads sound'
  have toFirst := marks.length_le
  have toSecond := firstName.fewer
  have strict : first.span.start < first.span.stop := by
    rw [isFirst.span_eq]
    exact sound'.start_lt_stop isFirst.notEnd
  split at rest
  · obtain ⟨name, isName, rest⟩ := rest
    have secondName := isName.reads firstName.sound'
    have toColon := secondName.fewer
    have strict' : name.span.start < name.span.stop := by
      rw [isName.span_eq]
      exact firstName.sound'.start_lt_stop isName.notEnd
    refine @readsParamRest _ _ _ _ _ _ _ _ _ builds ?_ (by omega) strict' rest
    unfold separateLabel
    split
    · simpa using marks.reads (firstName.forget.trans secondName)
    · next label isLabel =>
        obtain rfl : first = label := by
          split at isLabel
          · cases isLabel
          · exact Option.some.inj isLabel
        have both := firstName.trans secondName
        have other : first ≠ name := by
          rintro rfl
          exact Nat.not_le.mpr strict both.spread.2.2.1
        rw [if_neg other, List.append_assoc]
        exact marks.reads both
  · refine @readsParamRest _ _ _ _ _ _ _ _ _ builds ?_ (by omega) strict rest
    have none : separateLabel (if first.text == "_" then none else some first) first = [] := by
      unfold separateLabel
      split <;> simp_all
    rw [none, List.append_nil]
    exact marks.reads firstName

end Inner.Builds

/-! ### Kinds of declarations -/

/-- **A declaration from what it is made of**, with the extent of what was read. -/
theorem reads_declaration {declaration : Declaration}
    (reads : start.Reads (Node.ofDeclaration declaration) c')
    (span : declaration.span = c'.spanFrom start.next.span.start)
    (spelled : (Node.declaration declaration).IsSpelled start.source) :
    start.Reads [.declaration declaration] c' :=
  reads.close rfl rfl span trivial spelled

namespace Inner.Builds

/-- **Functions are read** behind their attributes. -/
theorem readsFunction {marks : List Attribute} {isStatic : Bool} {decl : FunctionDecl}
    (builds : inner.Builds depth) (before : start.Passes (marks.map .attribute) c)
    (sound : start.IsSound) (few : start.rest.length ≤ depth + 1)
    (yields : (Parser.functionDecl inner start.next.span.start marks isStatic).Yields c decl c') :
    start.Reads [.declaration (.function decl)] c' := by
  obtain ⟨isName, generics, opening, readGenerics, opens, params, closing, readParams, result, typed,
    readResult, body, last, readBody, rfl, rfl⟩ := yields_functionDecl.mp yields
  have sound' := before.sound' sound
  have toName := before.length_le
  have keyword : c.Passes [] (if c.next.kind = .keyword .func_ then c.advance else c) := by
    split
    · next isKeyword => exact (Reads.takeKeyword sound' isKeyword).passes
    · exact .inl ⟨rfl, rfl⟩
  generalize (if c.next.kind = .keyword .func_ then c.advance else c) = named at *
  have name := (before.trans keyword).reads (reads_name (keyword.sound' sound') isName)
  have toGenerics := name.fewer
  have withGenerics := name.andPasses (builds.passesGenerics name.sound' (by omega) readGenerics)
  have toOpening := withGenerics.fewer
  have paren := Reads.takeSymbol withGenerics.sound' opens
  have toParams := paren.fewer
  have withParams := withGenerics.trans (paren.trans
    (builds.readsParam.closedBy builds.bound.le paren.sound' (by omega) readParams))
  have toResult := withParams.fewer
  have withResult := withParams.andPasses
    (builds.type.yieldsAfter withParams.sound' (by omega) readResult)
  have clause := passes_pastWhereClause withResult.sound'
  have withClause := withResult.andPasses clause
  have toBody := withClause.fewer
  have whole := withClause.andPasses
    (builds.readsBlock.yieldsIf withClause.sound' (by omega) readBody)
  refine reads_declaration ?_ rfl trivial
  simpa [Node.ofDeclaration, List.map_eq_flatMap] using whole

/-- **Variables are read** behind their attributes. -/
theorem readsVariable {marks : List Attribute} {decl : VariableDecl}
    (builds : inner.Builds depth) (before : start.Passes (marks.map .attribute) c)
    (sound : start.IsSound) (few : start.rest.length ≤ depth + 1)
    (isKeyword : c.next.kind ≠ .endOfFile)
    (yields : (Parser.variableDecl inner start.next.span.start marks).Yields c decl c') :
    start.Reads [.declaration (.variable decl)] c' := by
  obtain ⟨name, isName, type, typed, readType, value, assigned, readValue, body, last, readBody, rfl,
    rfl⟩ := yields_variableDecl.mp yields
  have keyword := before.reads (.take (before.sound' sound) isKeyword)
  have named := keyword.trans (isName.reads keyword.sound')
  have toType := named.fewer
  have withType := named.andPasses (builds.type.yieldsAfter named.sound' (by omega) readType)
  have toValue := withType.fewer
  have withValue := withType.andPasses
    (builds.readsExpression.builds.yieldsAfter withType.sound' (by omega) readValue)
  have toBody := withValue.fewer
  have whole := withValue.andPasses
    (builds.readsBlock.yieldsIf withValue.sound' (by omega) readBody)
  have spelled : value = none ∨ body = none := by
    unfold YieldsIf at readBody
    split at readBody
    · next wanted => exact .inl wanted.1
    · exact .inr readBody.1
  refine reads_declaration ?_ rfl spelled
  simpa [Node.ofDeclaration] using whole

/-- A case of an enum. -/
theorem readsEnumCase (builds : inner.Builds depth) :
    (Parser.enumCase inner).Builds depth fun node => [.enumCase node] := by
  intro c sound few enumCase c' yields
  obtain ⟨isName, payload, last, readPayload, rfl, rfl⟩ := yields_enumCase.mp yields
  have name := reads_name sound isName
  have fewer := name.fewer
  have types : c.advance.Passes (payload.map .type) c' := by
    split at readPayload
    · exact .inr (builds.typeList name.sound' (by omega) readPayload)
    · obtain ⟨rfl, rfl⟩ := readPayload
      exact .inl ⟨rfl, rfl⟩
  exact (name.andPasses types).close rfl rfl rfl (sound.isName_next isName) trivial

theorem readsEnumCases (builds : inner.Builds depth) :
    (Parser.enumCases inner).Builds depth (·.map .enumCase) := by
  intro c sound few cases c' yields
  obtain ⟨isCase, read⟩ := yields_enumCases.mp yields
  have past := Reads.takeKeyword sound isCase
  have fewer := past.fewer
  show c.Reads (cases.map .enumCase) c'
  rw [List.map_eq_flatMap]
  exact past.trans (builds.readsEnumCase.separated builds.bound.le past.sound' (by omega) read)

/-- **Enums are read** behind their attributes, which are dropped. -/
theorem readsEnum {decl : EnumDecl} (builds : inner.Builds depth) (before : start.Passes [] c)
    (sound : start.IsSound) (few : start.rest.length ≤ depth + 1)
    (yields : (Parser.enumDecl inner start.next.span.start).Yields c decl c') :
    start.Reads [.declaration (.enum decl)] c' := by
  obtain ⟨isKeyword, isName, params, middle, readGenerics, answer, opening, conform, opens, cases,
    last, readCases, closes, rfl, rfl⟩ := yields_enumDecl.mp yields
  have keyword := before.reads (.takeKeyword (before.sound' sound) isKeyword)
  have name := keyword.trans (reads_name keyword.sound' isName)
  have toGenerics := name.fewer
  have generics := (builds.passesGenerics name.sound' (by omega) readGenerics).forget
  have withGenerics := name.andPasses generics
  have toConformances := withGenerics.fewer
  have conforming := withGenerics.andPasses
    (builds.passesConformances withGenerics.sound' (by omega) conform)
  have opened := conforming.trans (.takeSymbol conforming.sound' opens)
  have toCases := opened.fewer
  have bound := builds.bound
  have withCases := opened.andPasses
    (builds.readsEnumCases.sequence opened.sound' (by omega) (by omega) readCases)
  have whole := withCases.trans (.takeSymbol withCases.sound' closes)
  refine reads_declaration ?_ rfl trivial
  simpa [Node.ofDeclaration, List.flatMap_def, List.map_flatten] using whole

/-- **Structs and classes are read** behind their attributes. -/
theorem readsTypeDecl {marks : List Attribute} {decl : TypeDecl} (builds : inner.Builds depth)
    (before : start.Passes (marks.map .attribute) c) (sound : start.IsSound)
    (few : start.rest.length ≤ depth + 1) (isKeyword : c.next.kind ≠ .endOfFile)
    (yields : (Parser.typeDecl inner start.next.span.start marks).Yields c decl c') :
    start.Reads [.declaration (.type decl)] c' := by
  obtain ⟨isName, params, middle, readGenerics, answer, conforming, conform, opens, members, last,
    readMembers, closes, rfl, rfl⟩ := yields_typeDecl.mp yields
  have keyword := before.reads (.take (before.sound' sound) isKeyword)
  have name := keyword.trans (reads_name keyword.sound' isName)
  have toGenerics := name.fewer
  have withGenerics := name.andPasses (builds.passesGenerics name.sound' (by omega) readGenerics)
  have toConformances := withGenerics.fewer
  have withConformances := withGenerics.andPasses
    (builds.passesConformances withGenerics.sound' (by omega) conform)
  have withClause := withConformances.andPasses (passes_pastWhereClause withConformances.sound')
  have opened := withClause.trans (.takeSymbol withClause.sound' opens)
  have toMembers := opened.fewer
  have bound := builds.bound
  have withMembers := opened.andPasses
    (builds.declaration.sequence opened.sound' (by omega) (by omega) readMembers)
  have whole := withMembers.trans (.takeSymbol withMembers.sound' closes)
  refine reads_declaration ?_ rfl trivial
  simpa [Node.ofDeclaration, List.map_eq_flatMap] using whole

/-- **Declarations are read** as nodes. -/
theorem readsDeclaration (builds : inner.Builds depth) :
    (Parser.declaration inner).Builds (depth + 1) fun node => [.declaration node] := by
  intro c sound few declaration c' yields
  obtain ⟨marks, middle, marked, rest⟩ := yields_declaration.mp yields
  have bound := builds.bound
  have before := passes_attributes sound (by omega) marked
  have static : middle.Passes []
      (if middle.next.kind = .keyword .static_ then middle.advance else middle) := by
    split
    · next isKeyword => exact (Reads.takeKeyword (before.sound' sound) isKeyword).passes
    · exact .inl ⟨rfl, rfl⟩
  dsimp only at rest
  generalize (if middle.next.kind = .keyword .static_ then middle.advance else middle) = opening
    at static rest
  have start : c.Passes (marks.map .attribute) opening := by simpa using before.trans static
  split at rest
  · next kind =>
      obtain ⟨node, read, rfl⟩ := rest
      exact builds.readsTypeDecl start sound few (by rw [kind]; exact nofun) read
  · next kind =>
      obtain ⟨node, read, rfl⟩ := rest
      exact builds.readsTypeDecl start sound few (by rw [kind]; exact nofun) read
  · obtain ⟨node, read, rfl⟩ := rest
    exact builds.readsEnum start.forget sound few read
  · obtain ⟨node, read, rfl⟩ := rest
    exact builds.readsFunction start sound few read
  · obtain ⟨-, node, read, rfl⟩ := rest
    exact builds.readsFunction start sound few read
  · next kind =>
      obtain ⟨node, read, rfl⟩ := rest
      exact builds.readsVariable start sound few (by rw [kind]; exact nofun) read
  · next kind =>
      obtain ⟨node, read, rfl⟩ := rest
      exact builds.readsVariable start sound few (by rw [kind]; exact nofun) read
  · exact rest.elim

end Inner.Builds

end ResultBuilder.Syntax.Parser
