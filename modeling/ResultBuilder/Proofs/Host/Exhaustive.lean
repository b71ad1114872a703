import Mathlib.Data.List.Sort
import Mathlib.Data.String.Basic
import ResultBuilder.Host

/-!
# What exhaustive switches cover

A `switch` without a case for everything is about the enum of least name among those that have every
case its patterns name. Which enum that is depends on what each name stands for and on nothing else.
The cases are checked against the values of that enum: of a pattern that may fail to match nothing is
assumed, so that a `switch` passes when it takes every value however such patterns behave.

* **`subjectEnum?_eq_some_iff`**: which enum a `switch` is about.
* **`Reading`**, **`exhausts_iff`**: when a `switch` takes every value of an enum.
* **`checkExhaustive_verdict`**: the check, with what it suggests.
-/

namespace ResultBuilder.Host

open Syntax

variable {host : Host} {decl other : EnumDecl} {names : List String}

/-! ### The enum that a switch is about -/

/-- The first enums of each name, after some of which the names are taken. -/
theorem mem_foldl_firstEnums (enums seen : List EnumDecl) :
    decl ∈ enums.foldl
        (fun seen next => if seen.any (·.name.text == next.name.text) then seen else seen ++ [next])
        seen ↔
      decl ∈ seen ∨ (∀ earlier ∈ seen, earlier.name.text ≠ decl.name.text) ∧
        enums.find? (·.name.text == decl.name.text) = some decl := by
  induction enums generalizing seen with
  | nil => simp
  | cons next enums ih =>
      rw [List.foldl_cons, ih, List.find?_cons]
      by_cases taken : ∃ earlier ∈ seen, earlier.name.text = next.name.text
      · have isTaken : seen.any (·.name.text == next.name.text) = true := by simpa using taken
        rw [if_pos isTaken]
        refine or_congr_right (and_congr_right fun apart => ?_)
        obtain ⟨earlier, member, name⟩ := taken
        have differs : (next.name.text == decl.name.text) = false :=
          beq_eq_false_iff_ne.mpr (name ▸ apart earlier member)
        rw [differs]
      · have isNew : seen.any (·.name.text == next.name.text) = false := by simpa using taken
        rw [isNew]
        push Not at taken
        by_cases same : next.name.text = decl.name.text
        · rw [same] at taken
          simp only [Bool.false_eq_true, if_false, List.mem_append, List.mem_singleton, same,
            beq_self_eq_true, Option.some.injEq]
          constructor
          · rintro ((before | rfl) | ⟨apart, -⟩)
            · exact .inl before
            · exact .inr ⟨taken, rfl⟩
            · exact absurd same (apart next (.inr rfl))
          · rintro (before | ⟨-, rfl⟩)
            · exact .inl (.inl before)
            · exact .inl (.inr rfl)
        · have apart : decl ≠ next := by
            rintro rfl
            exact same rfl
          have differs : (next.name.text == decl.name.text) = false := by simpa using same
          simp [List.mem_append, apart, same, differs, or_imp, forall_and]

/-- **The first enums are those that their names stand for.** -/
theorem mem_firstEnums : decl ∈ host.firstEnums ↔ host.enum? decl.name.text = some decl := by
  rw [firstEnums, mem_foldl_firstEnums]
  simp [enum?]

/-- **An enum that a `switch` can be about**: its name stands for it, and it has the named cases. -/
def Fits (host : Host) (names : List String) (decl : EnumDecl) : Prop :=
  host.enum? decl.name.text = some decl ∧ ∀ name ∈ names, hasCase decl name = true

/-- Enums that their names stand for are the same when they have the same name. -/
theorem Fits.eq_of_name (fits : host.Fits names decl) (fitsToo : host.Fits names other)
    (same : decl.name.text = other.name.text) : decl = other :=
  Option.some.inj (fits.1.symm.trans (same ▸ fitsToo.1))

/-- The order by which the least name comes first. -/
theorem nameOrder_eq (left right : EnumDecl) :
    (!decide (right.name.text < left.name.text)) = decide (left.name.text ≤ right.name.text) := by
  rw [← decide_not, decide_eq_decide, not_lt]

/-- The least name among the enums that a `switch` can be about, if there are any. -/
theorem subjectEnum?_spec (named : names ≠ []) :
    match host.subjectEnum? names with
    | none => ∀ other, ¬ host.Fits names other
    | some decl => host.Fits names decl ∧
        ∀ other, host.Fits names other → decl.name.text ≤ other.name.text := by
  rw [subjectEnum?, if_neg (by simpa using named)]
  simp only [nameOrder_eq]
  have fitting {candidate : EnumDecl} :
      candidate ∈ (host.firstEnums.filter fun decl => names.all (hasCase decl)).mergeSort
          (fun left right => decide (left.name.text ≤ right.name.text)) ↔
        host.Fits names candidate := by
    rw [List.mem_mergeSort, List.mem_filter, mem_firstEnums, List.all_eq_true, Fits]
  have sorted := @List.pairwise_mergeSort EnumDecl
    (fun left right => decide (left.name.text ≤ right.name.text))
    (fun left middle right first second =>
      decide_eq_true ((of_decide_eq_true first).trans (of_decide_eq_true second)))
    (fun left right => by simpa using le_total left.name.text right.name.text)
    (host.firstEnums.filter fun decl => names.all (hasCase decl))
  cases ordered : (host.firstEnums.filter fun decl => names.all (hasCase decl)).mergeSort
      fun left right => decide (left.name.text ≤ right.name.text) with
  | nil =>
      rw [ordered] at fitting
      exact fun other fits => absurd (fitting.mpr fits) List.not_mem_nil
  | cons least rest =>
      rw [ordered] at fitting sorted
      refine ⟨fitting.mp List.mem_cons_self, fun other fits => ?_⟩
      rcases List.mem_cons.mp (fitting.mpr fits) with rfl | later
      · exact le_refl _
      · exact of_decide_eq_true ((List.pairwise_cons.mp sorted).1 other later)

/-- There is an enum that a `switch` is about when there is one that it can be about. -/
theorem exists_subjectEnum? (named : names ≠ []) (fits : host.Fits names other) :
    ∃ decl, host.subjectEnum? names = some decl := by
  have spec := @subjectEnum?_spec host _ named
  cases found : host.subjectEnum? names with
  | none =>
      rw [found] at spec
      exact absurd fits (spec other)
  | some decl => exact ⟨decl, rfl⟩

/-- **The enum that a `switch` is about** is the one of least name that it can be about. -/
theorem subjectEnum?_eq_some_iff (named : names ≠ []) :
    host.subjectEnum? names = some decl ↔ host.Fits names decl ∧
      ∀ other, host.Fits names other → decl.name.text ≤ other.name.text := by
  have spec := @subjectEnum?_spec host _ named
  constructor
  · intro found
    rwa [found] at spec
  · rintro ⟨fits, isLeast⟩
    obtain ⟨found, isFound⟩ := exists_subjectEnum? named fits
    rw [isFound] at spec ⊢
    have same := le_antisymm (spec.2 decl fits) (isLeast found spec.1)
    exact congrArg _ (spec.1.eq_of_name fits same)

/-- **Which enum a `switch` is about depends on what each name stands for** and on nothing else, the
order of the enums included. -/
theorem subjectEnum?_congr {others : Host} (same : ∀ name, others.enum? name = host.enum? name)
    (names : List String) : others.subjectEnum? names = host.subjectEnum? names := by
  rcases eq_or_ne names [] with rfl | named
  · rfl
  have fits (decl : EnumDecl) : others.Fits names decl ↔ host.Fits names decl := by
    rw [Fits, Fits, same]
  ext decl
  rw [subjectEnum?_eq_some_iff named, subjectEnum?_eq_some_iff named]
  simp only [fits]

/-! ### Values and patterns -/

/-- **A pattern covers a case**: it names the case and cannot fail to match. -/
def Covers (pattern : Pattern) (enumCase : EnumCase) : Prop :=
  pattern.isRefutable = false ∧ pattern.caseName = some enumCase.name.text

instance (pattern : Pattern) (enumCase : EnumCase) : Decidable (Covers pattern enumCase) :=
  inferInstanceAs (Decidable (_ ∧ _))

theorem covers_iff {pattern : Pattern} {enumCase : EnumCase} :
    covers pattern enumCase = true ↔ Covers pattern enumCase := by
  simp [covers, Covers]

/-- **A value of an enum**: one of its cases with something for each part of the payload. -/
structure Value (decl : EnumDecl) (Payload : Type) where
  /-- The case. -/
  enumCase : EnumCase
  /-- It is a case of the enum. -/
  isCase : enumCase ∈ decl.cases
  /-- What the value carries. -/
  payload : List Payload
  /-- There is something for each part of the payload of the case. -/
  arity : payload.length = enumCase.payload.length

/-- **A way in which patterns can behave** on the values of an enum: a pattern that names a case only
matches values of that case, and all of them when it cannot fail to match. How other patterns behave
is left open. -/
structure Reading (decl : EnumDecl) (Payload : Type) where
  /-- Whether a pattern matches a value. -/
  Matches : Pattern → Value decl Payload → Prop
  /-- A pattern matches what it covers. -/
  ofCovers {pattern : Pattern} {value : Value decl Payload} :
    Covers pattern value.enumCase → Matches pattern value
  /-- A pattern matches only what it names. -/
  onlyNamed {pattern : Pattern} {value : Value decl Payload} {name : String} :
    pattern.caseName = some name → Matches pattern value → value.enumCase.name.text = name

/-- **Patterns that take every value** of an enum, however those that can fail to match behave. -/
def Exhausts (decl : EnumDecl) (Payload : Type) (patterns : List Pattern) : Prop :=
  ∀ (reading : Reading decl Payload) (value : Value decl Payload),
    ∃ pattern ∈ patterns, reading.Matches pattern value

/-- The reading in which patterns match what they cover and nothing else. -/
def Reading.strict (decl : EnumDecl) (Payload : Type) : Reading decl Payload where
  Matches pattern value := Covers pattern value.enumCase
  ofCovers := id
  onlyNamed named covers := Option.some.inj (covers.2.symm.trans named)

/-- **Every value is taken exactly when every case is covered.** -/
theorem exhausts_iff {Payload : Type} [Inhabited Payload] {patterns : List Pattern} :
    Exhausts decl Payload patterns ↔
      ∀ enumCase ∈ decl.cases, ∃ pattern ∈ patterns, Covers pattern enumCase := by
  constructor
  · intro exhausts enumCase isCase
    exact exhausts (.strict decl Payload)
      ⟨enumCase, isCase, List.replicate enumCase.payload.length default, List.length_replicate⟩
  · intro covered reading value
    obtain ⟨pattern, listed, covers⟩ := covered value.enumCase value.isCase
    exact ⟨pattern, listed, reading.ofCovers covers⟩

/-! ### The check -/

/-- The cases that are missing are those that no pattern covers. -/
theorem missingCases_eq_nil_iff {patterns : List Pattern} :
    missingCases decl patterns = [] ↔
      ∀ enumCase ∈ decl.cases, ∃ pattern ∈ patterns, Covers pattern enumCase := by
  simp [missingCases, List.filter_eq_nil_iff, covers_iff]

/-- The missing cases in the order of the enum. -/
theorem missingCases_eq_filter {patterns : List Pattern} :
    missingCases decl patterns =
      decl.cases.filter fun enumCase => ¬ ∃ pattern ∈ patterns, Covers pattern enumCase := by
  refine List.filter_congr fun enumCase _ => ?_
  rw [Bool.eq_iff_iff]
  simp [covers_iff]

/-- **What is suggested about a missing case**: to add it in front of the closing brace, with an
underscore for each part of its payload. -/
def suggestion (node : Switch) (enumCase : EnumCase) : Note :=
  let blanks :=
    if enumCase.payload.length = 0 then ""
    else "(" ++ String.intercalate ", " (List.replicate enumCase.payload.length "_") ++ ")"
  let pattern := "." ++ enumCase.name.text ++ blanks
  .fixIt ⟨"add missing case: '" ++ pattern ++ "'", ⟨node.span.start, node.subject.span.stop⟩,
    [.insert (node.span.stop - 1) ("case " ++ pattern ++ ":\n<#code#>\n")]⟩

/-- A pattern that matches every value of a case has an underscore for each part of its payload. -/
theorem coveringPattern_eq (enumCase : EnumCase) :
    coveringPattern enumCase = "." ++ enumCase.name.text ++
      if enumCase.payload.length = 0 then ""
      else "(" ++ String.intercalate ", " (List.replicate enumCase.payload.length "_") ++ ")" := by
  rw [coveringPattern]
  cases payload : enumCase.payload with
  | nil => simp
  | cons first rest =>
      simp [commaSeparated, List.map_const', String.append_assoc, List.replicate_succ]

theorem notes_exhaustivenessDiagnostic (node : Switch) (missing : List EnumCase) :
    (exhaustivenessDiagnostic node missing).notes = missing.map (suggestion node) := by
  refine List.map_congr_left fun enumCase _ => ?_
  rw [suggestion, coveringPattern_eq]
  rfl

/-- A `switch` without a case for everything lacks the cases of its enum that are missing. -/
theorem checkExhaustive_of_subject {node : Switch}
    (noCatchAll : ∀ switchCase ∈ node.cases, switchCase.label.isCatchAll = false)
    (isSubject : host.subjectEnum? ((patterns node).filterMap (·.caseName)) = some decl) :
    host.checkExhaustive node =
      if missingCases decl (patterns node) = [] then []
      else [exhaustivenessDiagnostic node (missingCases decl (patterns node))] := by
  have open_ : node.cases.any (·.label.isCatchAll) = false := by
    rw [List.any_eq_false]
    exact fun switchCase member => Bool.not_eq_true _ ▸ noCatchAll switchCase member
  simp only [checkExhaustive, open_, Bool.false_eq_true, if_false, isSubject]
  cases missingCases decl (patterns node) <;> rfl

/-- **The verdict on a `switch`** that has no case for everything and names cases which some enum all
has. It is about an enum that has them, whatever the order of the enums. It is accepted exactly when
each case of that enum is covered, which is when it takes every value of the enum however the
patterns behave that can fail to match. Otherwise there is one diagnostic, which suggests to add the
cases that are not covered, in the order of the enum, each with an underscore for every part of its
payload. -/
theorem checkExhaustive_verdict (host : Host) (context : BodyContext) (node : Switch)
    (noCatchAll : ∀ switchCase ∈ node.cases, switchCase.label.isCatchAll = false)
    (named : ∃ pattern ∈ patterns node, pattern.caseName.isSome = true)
    (declared : ∃ decl, host.Fits ((patterns node).filterMap (·.caseName)) decl)
    {Payload : Type} [Inhabited Payload] :
    ∃ decl, (host.Fits ((patterns node).filterMap (·.caseName)) decl ∧
        ∀ other : Host, (∀ name, other.enum? name = host.enum? name) →
          other.subjectEnum? ((patterns node).filterMap (·.caseName)) = some decl) ∧
      (host.collaborators.checkExhaustive context node = [] ↔
        ∀ enumCase ∈ decl.cases, ∃ pattern ∈ patterns node, Covers pattern enumCase) ∧
      (host.collaborators.checkExhaustive context node = [] ↔
        Exhausts decl Payload (patterns node)) ∧
      ((∃ enumCase ∈ decl.cases, ¬ ∃ pattern ∈ patterns node, Covers pattern enumCase) →
        ∃ diagnostic, host.collaborators.checkExhaustive context node = [diagnostic] ∧
          diagnostic.notes = (decl.cases.filter fun enumCase =>
            ¬ ∃ pattern ∈ patterns node, Covers pattern enumCase).map (suggestion node)) := by
  obtain ⟨pattern, listed, hasName⟩ := named
  obtain ⟨name, isName⟩ := Option.isSome_iff_exists.mp hasName
  have names : (patterns node).filterMap (·.caseName) ≠ [] :=
    List.ne_nil_of_mem (List.mem_filterMap.mpr ⟨pattern, listed, isName⟩)
  obtain ⟨declared, fits⟩ := declared
  obtain ⟨decl, isSubject⟩ := exists_subjectEnum? names fits
  have check : host.collaborators.checkExhaustive context node = _ :=
    checkExhaustive_of_subject noCatchAll isSubject
  have accepted : host.collaborators.checkExhaustive context node = [] ↔
      ∀ enumCase ∈ decl.cases, ∃ pattern ∈ patterns node, Covers pattern enumCase := by
    rw [check, ← missingCases_eq_nil_iff]
    split <;> simp_all
  refine ⟨decl, ⟨((subjectEnum?_eq_some_iff names).mp isSubject).1, fun other same => ?_⟩,
    accepted, accepted.trans exhausts_iff.symm, fun ⟨enumCase, isCase, uncovered⟩ => ?_⟩
  · rw [subjectEnum?_congr same, isSubject]
  · have some : missingCases decl (patterns node) ≠ [] := fun none =>
      uncovered (missingCases_eq_nil_iff.mp none enumCase isCase)
    refine ⟨_, check.trans (if_neg some), ?_⟩
    rw [notes_exhaustivenessDiagnostic, missingCases_eq_filter]

/-- An enum with two cases, the second of which has a payload of two parts. -/
def pairedEnum : EnumDecl :=
  ⟨⟨0, 34⟩, ⟨⟨5, 6⟩, "P"⟩, [⟨⟨14, 18⟩, ⟨⟨14, 18⟩, "none"⟩, []⟩, ⟨⟨20, 32⟩, ⟨⟨20, 22⟩, "of"⟩,
    [.named ⟨23, 24⟩ "A" [], .named ⟨26, 27⟩ "B" []]⟩]⟩

/-- A `switch` that takes the second case only where a part of it is zero. -/
def partialSwitch : Switch :=
  ⟨⟨60, 104⟩, .ident ⟨67, 68⟩ "p", [
    ⟨⟨71, 84⟩, .patterns [⟨⟨76, 81⟩, ".none", some "none", false, false⟩], ⟨⟨83, 84⟩, []⟩⟩,
    ⟨⟨85, 102⟩, .patterns [⟨⟨90, 99⟩, ".of(0, _)", some "of", false, true⟩], ⟨⟨101, 102⟩, []⟩⟩]⟩

/-- Beside an enum of lesser name that lacks the second case, a pattern that may fail to match leaves
its case to be added. -/
theorem checkExhaustive_verdict_partialSwitch :
    let host : Host := { enums := [pairedEnum, ⟨⟨36, 58⟩, ⟨⟨41, 42⟩, "N"⟩, [⟨⟨50, 54⟩,
      ⟨⟨50, 54⟩, "none"⟩, []⟩]⟩] }
    let context : BodyContext := { kind := .function, span := ⟨60, 104⟩ }
    ((∀ switchCase ∈ partialSwitch.cases, switchCase.label.isCatchAll = false) ∧
        (∃ pattern ∈ patterns partialSwitch, pattern.caseName.isSome = true) ∧
        host.Fits ((patterns partialSwitch).filterMap (·.caseName)) pairedEnum) ∧
      ¬ Exhausts pairedEnum Unit (patterns partialSwitch) ∧
      ∃ diagnostic, host.collaborators.checkExhaustive context partialSwitch = [diagnostic] ∧
        diagnostic.notes = [.fixIt ⟨"add missing case: '.of(_, _)'", ⟨60, 68⟩,
          [.insert 103 "case .of(_, _):\n<#code#>\n"]⟩] := by
  intro host context
  have fits : host.Fits ((patterns partialSwitch).filterMap (·.caseName)) pairedEnum :=
    ⟨rfl, by decide⟩
  have noCatchAll : ∀ switchCase ∈ partialSwitch.cases, switchCase.label.isCatchAll = false := by
    decide
  have named : ∃ pattern ∈ patterns partialSwitch, pattern.caseName.isSome = true := by decide
  obtain ⟨decl, ⟨-, ofOrder⟩, accepted, exhausted, reported⟩ :=
    @checkExhaustive_verdict host context partialSwitch noCatchAll named ⟨_, fits⟩ Unit _
  have isSubject : host.subjectEnum? ((patterns partialSwitch).filterMap (·.caseName)) =
      some pairedEnum := by
    cbv
  obtain rfl : pairedEnum = decl := Option.some.inj (isSubject.symm.trans (ofOrder host fun _ => rfl))
  have uncovered : ∃ enumCase ∈ pairedEnum.cases,
      ¬ ∃ pattern ∈ patterns partialSwitch, Covers pattern enumCase := by
    decide
  obtain ⟨diagnostic, isReport, notes⟩ := reported uncovered
  refine ⟨⟨noCatchAll, named, fits⟩, fun exhausts => ?_, diagnostic, isReport, notes⟩
  rw [← exhausted, isReport] at exhausts
  cases exhausts

end ResultBuilder.Host
