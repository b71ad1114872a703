import ResultBuilder.Proofs.Syntax.Reading.Steps

/-!
# Types and attributes that are read

Main statement: `Parser.Inner.Builds.readsType` (types are placed and legible when those further in
are).
-/

namespace ResultBuilder.Syntax

open Cursor (Reads Passes)

namespace Cursor

variable {c c' : Cursor}

/-- Behind the next token stands the second. -/
theorem IsSound.next_advance (sound : c.IsSound) (notEnd : c.next.kind ≠ .endOfFile) :
    c.advance.next = c.second := by
  obtain ⟨afterOperand, pieces, final, faces⟩ := sound
  cases pieces with
  | nil => exact absurd (by rw [faces.next_nil]; rfl) notEnd
  | cons piece pieces =>
      rw [faces.advance_cons, second, next, skip_rest, faces.rest]
      cases pieces <;> rfl

/-- Skipping two tokens is taking one after the other. -/
theorem IsSound.skip_two (sound : c.IsSound) (notEnd : c.next.kind ≠ .endOfFile)
    (goesOn : c.second.kind ≠ .endOfFile) : c.skip 2 = c.advance.advance := by
  have next := sound.next_advance notEnd
  have first : c.advance = c.skip 1 := if_neg (by simpa using notEnd)
  have second : c.advance.advance = c.advance.skip 1 := if_neg (by simpa [next] using goesOn)
  rw [second, first, skip_skip]

/-- Two tokens that are no nodes. -/
theorem Reads.takeTwo (sound : c.IsSound) (notEnd : c.next.kind ≠ .endOfFile)
    (goesOn : c.second.kind ≠ .endOfFile) : c.Reads [] (c.skip 2) := by
  rw [sound.skip_two notEnd goesOn]
  have past := Reads.take sound notEnd
  exact past.trans (.take past.sound' (by rwa [sound.next_advance notEnd]))

end Cursor

/-! ### Relocated types -/

@[simp] theorem Node.ofType_relocate (place : Span) (type : DeclaredType) :
    Node.ofType (type.relocate place) = Node.ofType type := by
  cases type <;> rfl

@[simp] theorem DeclaredType.isLegible_relocate {place : Span} {type : DeclaredType} :
    (type.relocate place).IsLegible ↔ type.IsLegible := by
  cases type <;> rfl

/-- **A type from what it is made of**, with the extent of what was read. -/
theorem Cursor.Reads.type {c c' : Cursor} {type : DeclaredType}
    (reads : c.Reads (Node.ofType type) c') (legible : type.IsLegible)
    (span : type.span = c'.spanFrom c.next.span.start) : c.Reads [.type type] c' :=
  reads.close rfl rfl span legible trivial

namespace Parser

variable {c c' : Cursor}

/-! ### Attributes and names -/

/-- The attributes that are read. -/
theorem passes_attributes {bound : Nat} {marks : List Attribute} (sound : c.IsSound)
    (enough : c.rest.length ≤ bound) (yields : (attributes bound).Yields c marks c') :
    c.Passes (marks.map .attribute) c' := by
  induction bound generalizing c marks with
  | zero => exact absurd sound.length_pos (by omega)
  | succ bound ih =>
      have yields := yields_attributes.mp yields
      split at yields
      · next sign =>
          obtain ⟨isName, rest, more, rfl⟩ := yields
          have past := Reads.takeSymbol sound sign
          have named := past.trans (.take past.sound' (by rw [isName]; exact nofun))
          have fewer := named.fewer
          have mark : c.Reads [.attribute
              ⟨c.advance.advance.spanFrom c.next.span.start, c.advance.next.text⟩]
              c.advance.advance :=
            named.close rfl rfl rfl trivial trivial
          exact .inr (mark.andPasses (ih mark.sound' (by omega) more))
      · exact .inl ⟨by rw [yields.1]; rfl, yields.2⟩

theorem length_dottedNames {tokens : List Token} (ends : ∃ token ∈ tokens, token.kind = .endOfFile) :
    2 * (dottedNames tokens).length < tokens.length := by
  fun_induction dottedNames tokens with
  | case1 dot name rest names ih =>
      obtain ⟨token, member, isEnd⟩ := ends
      simp only [Bool.and_eq_true, beq_iff_eq] at names
      have := ih ⟨token, by
        rcases List.mem_cons.mp member with rfl | member
        · exact absurd (names.1.symm.trans isEnd) nofun
        · rcases List.mem_cons.mp member with rfl | member
          · exact absurd (names.2.symm.trans isEnd) nofun
          · exact member, isEnd⟩
      simp only [List.length_cons]
      omega
  | case2 dot name rest noNames => simp
  | case3 tokens none =>
      obtain ⟨token, member, -⟩ := ends
      simpa using List.length_pos_of_mem member

theorem mem_of_mem_dottedNames {tokens : List Token} {part : Token}
    (member : part ∈ dottedNames tokens) : part ∈ tokens ∧ part.kind = .identifier := by
  fun_induction dottedNames tokens with
  | case1 dot name rest names ih =>
      simp only [Bool.and_eq_true, beq_iff_eq] at names
      rcases List.mem_cons.mp member with rfl | member
      · exact ⟨by simp, names.2⟩
      · exact ⟨List.mem_cons_of_mem _ (List.mem_cons_of_mem _ (ih member).1), (ih member).2⟩
  | case2 dot name rest noNames => cases member
  | case3 tokens none => cases member

/-- The names with dots before them that come next. -/
theorem passes_dottedNames (sound : c.IsSound) :
    c.Passes [] (c.skip (2 * (dottedNames c.rest).length)) ∧
      ∀ part ∈ (dottedNames c.rest).map (·.text), IsName part := by
  refine ⟨.skip sound (length_dottedNames sound.exists_endOfFile), fun part member => ?_⟩
  obtain ⟨token, listed, rfl⟩ := List.mem_map.mp member
  obtain ⟨inside, isName⟩ := mem_of_mem_dottedNames listed
  exact sound.isName_of_mem inside isName

/-! ### Types -/

variable {inner : Inner} {depth : Nat}

namespace Inner.Builds

/-- An element of a list of types. -/
theorem typeElement (builds : inner.Builds depth) :
    (Parser.typeElement inner).Builds depth fun node => [.type node] := by
  intro c sound few type c' yields
  obtain ⟨marks, middle, marked, read⟩ := yields_typeElement.mp yields
  have label : c.Passes [] (if labelled c then c.skip 2 else c) := by
    split
    · next label =>
        simp only [labelled, Bool.and_eq_true, Bool.or_eq_true, beq_iff_eq] at label
        refine (Reads.takeTwo sound ?_ (by rw [label.2]; rintro ⟨⟩)).passes
        rcases label.1 with kind | kind <;> rw [kind] <;> rintro ⟨⟩
    · exact .inl ⟨rfl, rfl⟩
  have fewer := label.length_le
  have bound := builds.bound
  have before := label.trans
    (passes_attributes (label.sound' sound) (by omega) marked).forget
  have fewer' := before.length_le
  exact before.reads (builds.type (before.sound' sound) (by omega) read)

/-- The types between parentheses. -/
theorem typeList (builds : inner.Builds depth) :
    (Parser.typeList inner).Builds (depth + 1) (·.map .type) := by
  intro c sound few types c' yields
  obtain ⟨opens, read⟩ := yields_typeList.mp yields
  have past := Reads.takeSymbol sound opens
  have fewer := past.fewer
  show c.Reads (types.map .type) c'
  rw [List.map_eq_flatMap]
  exact past.trans (builds.typeElement.closedBy builds.bound.le past.sound' (by omega) read)

/-- What a type without marks is made of. -/
theorem unmarkedType (builds : inner.Builds depth) (sound : c.IsSound)
    (few : c.rest.length ≤ depth + 1) {type : DeclaredType}
    (yields : (Parser.unmarkedType inner).Yields c type c') :
    c.Reads (Node.ofType type) c' ∧ type.IsLegible := by
  have yields := yields_unmarkedType.mp yields
  dsimp only at yields
  split at yields
  · next isName =>
      have past := Reads.take sound (by rw [isName]; exact nofun)
      have fewer := past.fewer
      split at yields
      · obtain ⟨bound, read, rfl⟩ := yields
        exact ⟨past.trans (builds.type past.sound' (by omega) read), trivial⟩
      · next notSome =>
          obtain ⟨dotted, parts⟩ := passes_dottedNames past.sound'
          have named := past.andPasses dotted
          have legible (args : List DeclaredType) : (DeclaredType.named (.point c.next.span.start)
              (String.intercalate "." (c.next.text :: (dottedNames c.advance.rest).map (·.text)))
              args).IsLegible :=
            ⟨_, _, sound.isName_next isName, notSome, parts, rfl⟩
          split at yields
          · next opens =>
              obtain ⟨args, last, read, closes, rfl, rfl⟩ := yields
              have opened := named.trans (.takeSymbol named.sound' opens)
              have fewer' := opened.fewer
              have reads := builds.type.separated builds.bound.le opened.sound' (by omega) read
              have closed := (opened.trans reads).trans (.takeSymbol reads.sound' closes)
              refine ⟨?_, legible args⟩
              rw [Node.ofType, List.map_eq_flatMap]
              simpa using closed
          · obtain ⟨rfl, rfl⟩ := yields
            exact ⟨named, legible []⟩
  · obtain ⟨elements, last, read, rest⟩ := yields
    have reads := builds.typeList sound few read
    have fewer := reads.fewer
    split at rest
    · next arrow =>
        obtain ⟨result, readResult, rfl⟩ := rest
        have past := Reads.takeSymbol reads.sound' arrow
        have fewer' := past.fewer
        exact ⟨reads.trans (past.trans (builds.type past.sound' (by omega) readResult)), trivial⟩
    · obtain ⟨rfl, rfl⟩ := rest
      unfold grouped
      split
      · next element =>
          exact ⟨reads.children rfl, (reads.good _ (List.mem_singleton_self _)).here.legible⟩
      · next several =>
          refine ⟨reads, fun single => ?_⟩
          obtain ⟨element, rfl⟩ := List.length_eq_one_iff.mp single
          exact several element rfl
  · exact yields.elim

end Inner.Builds

/-- **A type with marks after it**, each of which makes it optional once more. -/
theorem reads_markedOptional {marks : List Token} {base : DeclaredType}
    (reads : c.Reads (Node.ofType base) c') (legible : base.IsLegible)
    (span : base.span = c'.spanFrom c.next.span.start) (next : marks <+: c'.rest)
    (mark : ∀ token ∈ marks, marksOptional token = true) :
    c.Reads [.type (markedOptional c.next.span.start base marks)] (c'.skip marks.length) := by
  induction marks generalizing base c' with
  | nil =>
      rw [List.length_nil, c'.skip_zero]
      exact reads.type legible span
  | cons token marks ih =>
      obtain ⟨more, rest⟩ := next
      obtain rfl : token = c'.next := by rw [Cursor.next, ← rest]; rfl
      have isMark := mark c'.next List.mem_cons_self
      have notEnd : c'.next.kind ≠ .endOfFile := by
        intro isEnd
        simp [marksOptional, isEnd] at isMark
      have advance : c'.advance = c'.skip 1 := if_neg (by simpa using notEnd)
      have past := reads.trans (.take reads.sound' notEnd)
      rw [List.append_nil, advance] at past
      have stop := reads.sound'.lastEnd_advance notEnd
      rw [advance] at stop
      have place : (⟨c.next.span.start, c'.next.span.stop⟩ : Span) =
          (c'.skip 1).spanFrom c.next.span.start := by
        rw [Cursor.spanFrom, Nat.max_eq_left past.spread.le, stop]
      have wrapped : c.Reads (Node.ofType (.optional ⟨c.next.span.start, c'.next.span.stop⟩
          (base.relocate ⟨c.next.span.start, c'.next.span.stop⟩))) (c'.skip 1) :=
        Reads.type (by simpa using past) (by simpa using legible) (by simpa using place)
      have left : (c'.skip 1).rest = marks ++ more := by rw [Cursor.skip_rest, ← rest]; rfl
      have reads := ih wrapped trivial place ⟨more, left.symm⟩
        (fun token member => mark token (List.mem_cons_of_mem _ member))
      rw [Cursor.skip_skip, Nat.add_comm] at reads
      exact reads

/-- **Types are read** as nodes. -/
theorem Inner.Builds.readsType (builds : inner.Builds depth) :
    (Parser.type inner).Builds (depth + 1) fun node => [.type node] := by
  intro c sound few type c' yields
  obtain ⟨base, middle, read, rfl, rfl⟩ := yields_type.mp yields
  obtain ⟨reads, legible⟩ := builds.unmarkedType sound few read
  have marks := @List.takeWhile_prefix _ middle.rest marksOptional
  exact reads_markedOptional (by simpa using reads) (by simpa using legible) (by simp) marks
    (List.all_eq_true.mp List.all_takeWhile)

end Parser

end ResultBuilder.Syntax
