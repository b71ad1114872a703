import Mathlib.Data.List.Forall2
import ResultBuilder.Proofs.Host.Exhaustive
import ResultBuilder.Proofs.Host.Known
import ResultBuilder.Proofs.Syntax.Printing.Pattern

/-!
# Following the suggestions about missing cases

A `switch` that lacks cases is suggested one case for each of them. With all of these the `switch` has
nothing to complain about: the cases that they name are cases of the enum that the `switch` is about,
so that it still is about this enum, and each suggested pattern is parsed as one that cannot fail to
match.

* **`subjectEnum?_of_subset`**: more names of its cases leave the enum as it is.
* **`isName_of_mem_cases`**: the cases of a parsed program have names that can be read back.
* **`checkExhaustive_of_suggested`**: the suggestions, followed.
-/

namespace ResultBuilder.Host

open Syntax

variable {host : Host} {decl : EnumDecl} {node : Switch} {names more : List String}
  {diagnostic : Diagnostic}

/-! ### Lists that are related -/

section Related

variable {α β : Type} {R : α → β → Prop} {left : List α} {right : List β}

/-- What is in the first of two lists is related to something in the second. -/
theorem exists_of_mem_left (related : List.Forall₂ R left right) {item : α} (listed : item ∈ left) :
    ∃ other ∈ right, R item other := by
  induction related with
  | nil => cases listed
  | cons first _ ih =>
      rcases List.mem_cons.mp listed with rfl | listed
      · exact ⟨_, List.mem_cons_self, first⟩
      · obtain ⟨other, isOther, isRelated⟩ := ih listed
        exact ⟨other, List.mem_cons_of_mem _ isOther, isRelated⟩

/-- What is in the second of two lists is related to something in the first. -/
theorem exists_of_mem_right (related : List.Forall₂ R left right) {other : β}
    (listed : other ∈ right) : ∃ item ∈ left, R item other :=
  exists_of_mem_left (R := flip R) (List.Forall₂.flip related) listed

end Related

/-! ### The enum stays the same -/

/-- A `switch` that names no cases is about no enum. -/
theorem ne_nil_of_subjectEnum? (isSubject : host.subjectEnum? names = some decl) : names ≠ [] := by
  rintro rfl
  cases isSubject

/-- A host knows the enum that a `switch` is about. -/
theorem mem_enums_of_subjectEnum? (isSubject : host.subjectEnum? names = some decl) :
    decl ∈ host.enums :=
  List.mem_of_find?_eq_some
    ((subjectEnum?_eq_some_iff (ne_nil_of_subjectEnum? isSubject)).mp isSubject).1.1

/-- **More names of its cases** leave the enum that a `switch` is about as it is. -/
theorem subjectEnum?_of_subset (subset : names ⊆ more)
    (areCases : ∀ name ∈ more, name ∈ names ∨ hasCase decl name = true)
    (isSubject : host.subjectEnum? names = some decl) : host.subjectEnum? more = some decl := by
  have named := ne_nil_of_subjectEnum? isSubject
  obtain ⟨name, listed⟩ := List.exists_mem_of_ne_nil _ named
  obtain ⟨⟨stands, hasCases⟩, isLeast⟩ := (subjectEnum?_eq_some_iff named).mp isSubject
  refine (subjectEnum?_eq_some_iff (List.ne_nil_of_mem (subset listed))).mpr
    ⟨⟨stands, fun name listed => ?_⟩, fun other fits => ?_⟩
  · exact (areCases name listed).elim (hasCases name) id
  · exact isLeast other ⟨fits.1, fun name listed => fits.2 name (subset listed)⟩

theorem hasCase_eq_true_iff {name : String} :
    hasCase decl name = true ↔ ∃ enumCase ∈ decl.cases, enumCase.name.text = name := by
  simp [hasCase]

theorem mem_patterns {pattern : Pattern} : pattern ∈ patterns node ↔
    ∃ arm ∈ node.cases, ∃ listed, arm.label = .patterns listed ∧ pattern ∈ listed := by
  rw [patterns, List.mem_flatMap]
  refine exists_congr fun arm => and_congr_right fun _ => ?_
  cases arm.label <;> simp

/-- Nothing is missing beside a case for everything. -/
theorem checkExhaustive_of_isCatchAll {arm : SwitchCase} (member : arm ∈ node.cases)
    (isCatchAll : arm.label.isCatchAll = true) : host.checkExhaustive node = [] := by
  rw [checkExhaustive, if_pos (List.any_eq_true.mpr ⟨arm, member, isCatchAll⟩)]

/-- **A `switch` that is complained about** is about an enum that it lacks cases of. -/
theorem exists_subject_of_mem (reported : diagnostic ∈ host.checkExhaustive node) :
    ∃ decl, host.subjectEnum? ((patterns node).filterMap (·.caseName)) = some decl ∧
      missingCases decl (patterns node) ≠ [] ∧ host.checkExhaustive node = [diagnostic] ∧
      diagnostic = exhaustivenessDiagnostic node (missingCases decl (patterns node)) := by
  have noCatchAll : ∀ arm ∈ node.cases, arm.label.isCatchAll = false := by
    intro arm member
    by_contra isCatchAll
    rw [checkExhaustive_of_isCatchAll member (Bool.not_eq_false _ ▸ isCatchAll)] at reported
    cases reported
  cases isSubject : host.subjectEnum? ((patterns node).filterMap (·.caseName)) with
  | none => simp [checkExhaustive, isSubject] at reported
  | some decl =>
      have answer := checkExhaustive_of_subject noCatchAll isSubject
      by_cases lacking : missingCases decl (patterns node) = []
      · rw [answer, if_pos lacking] at reported
        cases reported
      · rw [if_neg lacking] at answer
        rw [answer] at reported ⊢
        obtain rfl := List.mem_singleton.mp reported
        exact ⟨decl, rfl, lacking, rfl, rfl⟩

/-! ### Suggested cases -/

/-- **An arm for a suggested pattern**: what the text of the pattern is parsed as stands before the
colon, at any place. -/
def IsArmFor (text : String) (arm : SwitchCase) : Prop :=
  ∃ pattern place, parsePattern text = .ok pattern ∧
    arm.label = .patterns [{ pattern with span := place }]

/-- **The suggestion to add a case** with the text of its pattern. -/
def caseSuggestion (node : Switch) (text : String) : Note :=
  .fixIt ⟨"add missing case: '" ++ text ++ "'", ⟨node.span.start, node.subject.span.stop⟩,
    [.insert (node.span.stop - 1) ("case " ++ text ++ ":\n<#code#>\n")]⟩

/-- What is suggested about missing cases has the texts of patterns that cover them. -/
theorem notes_eq_map_caseSuggestion (node : Switch) (missing : List EnumCase) :
    (exhaustivenessDiagnostic node missing).notes =
      (missing.map coveringPattern).map (caseSuggestion node) := by
  rw [List.map_map]
  rfl

/-- The suggestions tell the texts. -/
theorem caseSuggestion_injective (node : Switch) : Function.Injective (caseSuggestion node) := by
  intro first second same
  have messages := congrArg FixIt.message (Note.fixIt.inj same)
  simpa [caseSuggestion] using messages

/-- **The suggested pattern of a case is parsed** as one that covers the case. -/
theorem parsePattern_coveringPattern {enumCase : EnumCase} (isName : IsName enumCase.name.text) :
    ∃ pattern, parsePattern (coveringPattern enumCase) = .ok pattern ∧
      Covers pattern enumCase := by
  obtain ⟨pattern, parsed, same⟩ := parsePattern_caseText isName enumCase.payload
  obtain ⟨-, -, named, -, total⟩ := Pattern.mk.inj same
  exact ⟨pattern, parsed, total, named⟩

/-- An arm for the suggested pattern of a case has a pattern that covers the case, and no other. -/
theorem IsArmFor.exists_covers {enumCase : EnumCase} {arm : SwitchCase}
    (isName : IsName enumCase.name.text) (isArm : IsArmFor (coveringPattern enumCase) arm) :
    ∃ pattern, arm.label = .patterns [pattern] ∧ Covers pattern enumCase := by
  obtain ⟨pattern, place, parsed, label⟩ := isArm
  obtain ⟨other, parsedToo, covers⟩ := parsePattern_coveringPattern isName
  obtain rfl := Except.ok.inj (parsed.symm.trans parsedToo)
  exact ⟨_, label, covers⟩

/-- **The names of cases can be read back** in a parsed program. -/
theorem isName_of_mem_cases {source : String} {program : Program}
    (parsed : parse source = .ok program) (isKnown : decl ∈ (ofProgram program).enums)
    {enumCase : EnumCase} (isCase : enumCase ∈ decl.cases) : IsName enumCase.name.text := by
  have within : (Node.declaration (.enum decl)).WithinProgram program :=
    (knows_ofProgram program).enums decl isKnown
  have isChild : .enumCase enumCase ∈ (Node.declaration (.enum decl)).children :=
    List.mem_cons_of_mem _ (List.mem_map_of_mem isCase)
  exact ((Program.isSound_of_parse parsed).1 _ (within.child isChild)).legible

/-- **With arms that cover the missing cases** a `switch` is accepted, wherever the arms stand. -/
theorem checkExhaustive_of_covered {extended : Switch} {arms : List SwitchCase}
    (isSubject : host.subjectEnum? ((patterns node).filterMap (·.caseName)) = some decl)
    (areArms : List.Forall₂
      (fun enumCase arm => ∃ pattern, arm.label = .patterns [pattern] ∧ Covers pattern enumCase)
      (missingCases decl (patterns node)) arms)
    (sameArms : extended.cases.Perm (node.cases ++ arms)) :
    host.checkExhaustive extended = [] := by
  by_cases noCatchAll : ∀ arm ∈ extended.cases, arm.label.isCatchAll = false
  swap
  · push Not at noCatchAll
    obtain ⟨arm, member, isCatchAll⟩ := noCatchAll
    exact checkExhaustive_of_isCatchAll member (by simpa using isCatchAll)
  have ofNode {pattern : Pattern} (listed : pattern ∈ patterns node) :
      pattern ∈ patterns extended := by
    obtain ⟨arm, member, listing⟩ := mem_patterns.mp listed
    exact mem_patterns.mpr ⟨arm, sameArms.mem_iff.mpr (List.mem_append_left _ member), listing⟩
  have named : host.subjectEnum? ((patterns extended).filterMap (·.caseName)) = some decl := by
    refine subjectEnum?_of_subset (fun name listed => ?_) (fun name listed => ?_) isSubject
    · obtain ⟨pattern, isPattern, isName⟩ := List.mem_filterMap.mp listed
      exact List.mem_filterMap.mpr ⟨pattern, ofNode isPattern, isName⟩
    · obtain ⟨pattern, isPattern, isName⟩ := List.mem_filterMap.mp listed
      obtain ⟨arm, member, listing, label, isListed⟩ := mem_patterns.mp isPattern
      rcases List.mem_append.mp (sameArms.mem_iff.mp member) with ofFirst | isArm
      · exact .inl (List.mem_filterMap.mpr
          ⟨pattern, mem_patterns.mpr ⟨arm, ofFirst, listing, label, isListed⟩, isName⟩)
      · -- the one pattern of an arm names a missing case, which is a case of the enum
        obtain ⟨enumCase, isMissing, only, onlyLabel, covers⟩ := exists_of_mem_right areArms isArm
        obtain rfl := CaseLabel.patterns.inj (label.symm.trans onlyLabel)
        obtain rfl := List.mem_singleton.mp isListed
        exact .inr (hasCase_eq_true_iff.mpr ⟨enumCase, List.mem_of_mem_filter isMissing,
          Option.some.inj (covers.2.symm.trans isName)⟩)
  rw [checkExhaustive_of_subject noCatchAll named, if_pos]
  refine missingCases_eq_nil_iff.mpr fun enumCase isCase => ?_
  by_cases covered : ∃ pattern ∈ patterns node, Covers pattern enumCase
  · obtain ⟨pattern, listed, covers⟩ := covered
    exact ⟨pattern, ofNode listed, covers⟩
  · have isMissing : enumCase ∈ missingCases decl (patterns node) := by
      rw [missingCases_eq_filter]
      simpa [isCase] using covered
    obtain ⟨arm, isArm, pattern, label, covers⟩ := exists_of_mem_left areArms isMissing
    exact ⟨pattern, mem_patterns.mpr ⟨arm, sameArms.mem_iff.mpr (List.mem_append_right _ isArm), _,
      label, List.mem_singleton_self _⟩, covers⟩

/-- **The suggestions about missing cases, followed**: when a `switch` in a parsed program is
complained about, there is one complaint, with a suggested pattern for each case that is missing. All
of them can be parsed. With an arm for each, put among the arms of the `switch` in any order, nothing
is complained about any more, however many enums share the names of the cases. -/
theorem checkExhaustive_of_suggested {source : String} {program : Program} {context : BodyContext}
    (parsed : parse source = .ok program)
    (reported : diagnostic ∈ (ofProgram program).collaborators.checkExhaustive context node) :
    (ofProgram program).collaborators.checkExhaustive context node = [diagnostic] ∧
      ∃ texts : List String, texts ≠ [] ∧ diagnostic.notes = texts.map (caseSuggestion node) ∧
        (∀ text ∈ texts, ∃ pattern, parsePattern text = .ok pattern) ∧
        ∀ (arms : List SwitchCase) (extended : Switch) (other : BodyContext),
          List.Forall₂ IsArmFor texts arms → extended.cases.Perm (node.cases ++ arms) →
            (ofProgram program).collaborators.checkExhaustive other extended = [] := by
  obtain ⟨decl, isSubject, lacking, only, rfl⟩ := exists_subject_of_mem reported
  have names : ∀ enumCase ∈ missingCases decl (patterns node), IsName enumCase.name.text :=
    fun enumCase isMissing => isName_of_mem_cases parsed (mem_enums_of_subjectEnum? isSubject)
      (List.mem_of_mem_filter isMissing)
  refine ⟨only, (missingCases decl (patterns node)).map coveringPattern, by simpa using lacking,
    notes_eq_map_caseSuggestion node _, List.forall_mem_map.mpr fun enumCase isMissing => ?_,
    fun arms extended _ areArms sameArms => checkExhaustive_of_covered isSubject ?_ sameArms⟩
  · obtain ⟨pattern, parsed, -⟩ := parsePattern_coveringPattern (names enumCase isMissing)
    exact ⟨pattern, parsed⟩
  · have named := (List.forall₂_and_left _ _).mpr ⟨names, List.forall₂_map_left_iff.mp areArms⟩
    exact named.imp fun enumCase arm ⟨isName, isArm⟩ => isArm.exists_covers isName

/-- A `switch` that names a case. -/
def sharingSwitch : Switch :=
  ⟨⟨52, 75⟩, .ident ⟨59, 60⟩ "v", [⟨⟨63, 73⟩,
    .patterns [⟨⟨68, 70⟩, ".x", some "x", false, false⟩],
    ⟨⟨72, 73⟩, [.expression (.literal ⟨72, 73⟩ (.integer 1))]⟩⟩]⟩

/-- An enum that has the case. -/
def greaterEnum : EnumDecl :=
  ⟨⟨0, 20⟩, ⟨⟨5, 6⟩, "B"⟩, [⟨⟨14, 15⟩, ⟨⟨14, 15⟩, "x"⟩, []⟩, ⟨⟨17, 18⟩, ⟨⟨17, 18⟩, "z"⟩, []⟩]⟩

/-- Another one, of lesser name. -/
def lesserEnum : EnumDecl :=
  ⟨⟨21, 51⟩, ⟨⟨26, 27⟩, "A"⟩, [⟨⟨35, 36⟩, ⟨⟨35, 36⟩, "x"⟩, []⟩, ⟨⟨38, 49⟩, ⟨⟨38, 39⟩, "y"⟩,
    [.named ⟨40, 43⟩ "Int" [], .named ⟨45, 48⟩ "Int" []]⟩]⟩

/-- The enums and the `switch`. -/
def sharingProgram : Program where
  statements := [.declaration (.enum greaterEnum), .declaration (.enum lesserEnum),
    .switch sharingSwitch]

/-- The `switch` is about the enum of lesser name. -/
theorem subjectEnum?_sharingSwitch : (ofProgram sharingProgram).subjectEnum?
    ((patterns sharingSwitch).filterMap (·.caseName)) = some lesserEnum := by
  have listed : (ofProgram sharingProgram).enums = [greaterEnum, lesserEnum] := rfl
  have stands : (ofProgram sharingProgram).enum? lesserEnum.name.text = some lesserEnum := by
    rw [enum?, listed, List.find?_cons_of_neg (by decide), List.find?_cons_of_pos (by decide)]
  refine (subjectEnum?_eq_some_iff (by decide)).mpr ⟨⟨stands, by decide⟩, fun other fits => ?_⟩
  have known := List.mem_of_find?_eq_some fits.1
  simp only [listed, List.mem_cons, List.not_mem_nil, or_false] at known
  rcases known with rfl | rfl
  · decide
  · exact le_refl _

/-- How the enums and the `switch` are written. -/
def sharingSource : String :=
  "enum B \x7b case x, z \x7d\nenum A \x7b case x, y(Int, Int) \x7d\nswitch v \x7b case .x: 1 \x7d"

/-- What the source is cut into. -/
def sharingTokens : List Token :=
  [⟨.keyword .enum_, ⟨0, 4⟩, "enum", false⟩, ⟨.identifier, ⟨5, 6⟩, "B", false⟩,
    ⟨.symbol .braceOpen, ⟨7, 8⟩, "\x7b", false⟩, ⟨.keyword .case_, ⟨9, 13⟩, "case", false⟩,
    ⟨.identifier, ⟨14, 15⟩, "x", false⟩, ⟨.symbol .comma, ⟨15, 16⟩, ",", false⟩,
    ⟨.identifier, ⟨17, 18⟩, "z", false⟩, ⟨.symbol .braceClose, ⟨19, 20⟩, "\x7d", false⟩,
    ⟨.keyword .enum_, ⟨21, 25⟩, "enum", true⟩, ⟨.identifier, ⟨26, 27⟩, "A", false⟩,
    ⟨.symbol .braceOpen, ⟨28, 29⟩, "\x7b", false⟩, ⟨.keyword .case_, ⟨30, 34⟩, "case", false⟩,
    ⟨.identifier, ⟨35, 36⟩, "x", false⟩, ⟨.symbol .comma, ⟨36, 37⟩, ",", false⟩,
    ⟨.identifier, ⟨38, 39⟩, "y", false⟩, ⟨.symbol .parenOpen, ⟨39, 40⟩, "(", false⟩,
    ⟨.identifier, ⟨40, 43⟩, "Int", false⟩, ⟨.symbol .comma, ⟨43, 44⟩, ",", false⟩,
    ⟨.identifier, ⟨45, 48⟩, "Int", false⟩, ⟨.symbol .parenClose, ⟨48, 49⟩, ")", false⟩,
    ⟨.symbol .braceClose, ⟨50, 51⟩, "\x7d", false⟩,
    ⟨.keyword .switch_, ⟨52, 58⟩, "switch", true⟩, ⟨.identifier, ⟨59, 60⟩, "v", false⟩,
    ⟨.symbol .braceOpen, ⟨61, 62⟩, "\x7b", false⟩, ⟨.keyword .case_, ⟨63, 67⟩, "case", false⟩,
    ⟨.symbol .dot, ⟨68, 69⟩, ".", false⟩, ⟨.identifier, ⟨69, 70⟩, "x", false⟩,
    ⟨.symbol .colon, ⟨70, 71⟩, ":", false⟩, ⟨.integer, ⟨72, 73⟩, "1", false⟩,
    ⟨.symbol .braceClose, ⟨74, 75⟩, "\x7d", false⟩, ⟨.endOfFile, ⟨75, 75⟩, "", false⟩]

/-- What is still to read of the source after some of its tokens, the last of which ends at an
offset. -/
def sharingCursor (count stop : Nat) : Cursor :=
  ⟨sharingSource.toList, sharingTokens.drop count, stop⟩

theorem parse_sharingSource : parse sharingSource = .ok sharingProgram := by
  have cut : tokenize sharingSource = .ok sharingTokens := by decide +kernel
  have greater : (Parser.innerOfDepth 31).statement.Yields (sharingCursor 0 0)
      (.declaration (.enum greaterEnum)) (sharingCursor 8 20) := rfl
  have lesser : (Parser.innerOfDepth 31).statement.Yields (sharingCursor 8 20)
      (.declaration (.enum lesserEnum)) (sharingCursor 21 51) := rfl
  have switch : (Parser.innerOfDepth 31).statement.Yields (sharingCursor 21 51)
      (.switch sharingSwitch) (sharingCursor 30 75) := rfl
  exact parse_eq_ok_iff.mpr ⟨_, cut, _, Parser.yields_sequence_cons rfl greater rfl
    (Parser.yields_sequence_cons rfl lesser rfl (Parser.yields_sequence_cons rfl switch rfl rfl))⟩

/-- An arm for the other case of the second enum, in front of the arm of the `switch`. -/
def suggestedArm : SwitchCase :=
  ⟨⟨63, 77⟩, .patterns [⟨⟨68, 76⟩, ".y(_, _)", some "y", false, false⟩], ⟨⟨77, 77⟩, []⟩⟩

theorem isArmFor_suggestedArm : IsArmFor ".y(_, _)" suggestedArm := by
  have isName : IsName "y" := ⟨'y', [], by decide, nofun, rfl, by decide⟩
  obtain ⟨pattern, parsed, same⟩ := parsePattern_caseText isName [(), ()]
  obtain ⟨-, text, named, notWildcard, notRefutable⟩ := Pattern.mk.inj same
  refine ⟨pattern, ⟨68, 76⟩, parsed, ?_⟩
  rw [text, named, notWildcard, notRefutable]
  rfl

/-- Of the two enums the `switch` is about the one of lesser name, whose other case is suggested with
two blanks. With an arm for it in front of its own one it is accepted. -/
theorem checkExhaustive_of_suggested_sharingSwitch :
    parse sharingSource = .ok sharingProgram ∧
      ∀ context, (∃ diagnostic,
          (ofProgram sharingProgram).collaborators.checkExhaustive context sharingSwitch =
            [diagnostic] ∧ diagnostic.notes = [caseSuggestion sharingSwitch ".y(_, _)"]) ∧
        (ofProgram sharingProgram).collaborators.checkExhaustive context
          { sharingSwitch with cases := suggestedArm :: sharingSwitch.cases } = [] := by
  have complaint (context : BodyContext) : ∃ diagnostic,
      (ofProgram sharingProgram).collaborators.checkExhaustive context sharingSwitch =
        [diagnostic] ∧ diagnostic.notes = [caseSuggestion sharingSwitch ".y(_, _)"] := by
    have answer := checkExhaustive_of_subject (by decide) subjectEnum?_sharingSwitch
    exact ⟨_, answer.trans (if_neg (List.cons_ne_nil _ _)), rfl⟩
  refine ⟨parse_sharingSource, fun context => ⟨complaint context, ?_⟩⟩
  obtain ⟨diagnostic, reported, notes⟩ := complaint context
  have member : diagnostic ∈ (ofProgram sharingProgram).collaborators.checkExhaustive context
      sharingSwitch := by
    rw [reported]
    exact List.mem_singleton_self _
  obtain ⟨-, texts, -, isSuggested, -, accepted⟩ :=
    checkExhaustive_of_suggested parse_sharingSource member
  obtain rfl : [".y(_, _)"] = texts :=
    (caseSuggestion_injective sharingSwitch).list_map (notes.symm.trans isSuggested)
  exact accepted [suggestedArm] _ context (.cons isArmFor_suggestedArm .nil)
    (List.perm_append_singleton _ _).symm

end ResultBuilder.Host
