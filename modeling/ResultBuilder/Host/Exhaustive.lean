import ResultBuilder.Host.Basic

/-!
# Exhaustive switches

A `switch` without a case for everything has to cover every case of an enum. Which enum it is about
is told by the cases that its patterns name. A pattern covers the case that it names when it cannot
fail to match.
-/

namespace ResultBuilder.Host

open Syntax

/-- The patterns of the cases of a `switch`. -/
def patterns (node : Switch) : List Pattern :=
  node.cases.flatMap fun switchCase =>
    match switchCase.label with
    | .default => []
    | .patterns listed => listed

/-- Whether an enum has a case of a name. -/
def hasCase (decl : EnumDecl) (name : String) : Bool :=
  decl.cases.any (·.name.text == name)

/-- The first enum of each name. -/
def firstEnums (host : Host) : List EnumDecl :=
  host.enums.foldl
    (fun seen decl => if seen.any (·.name.text == decl.name.text) then seen else seen ++ [decl]) []

/-- The enum with the least name among those that have all cases of some names. -/
def subjectEnum? (host : Host) (names : List String) : Option EnumDecl :=
  if names.isEmpty then none
  else
    let fitting := host.firstEnums.filter fun decl => names.all (hasCase decl)
    (fitting.mergeSort fun left right => !decide (right.name.text < left.name.text)).head?

/-- Whether a pattern matches every value of a case. -/
def covers (pattern : Pattern) (enumCase : EnumCase) : Bool :=
  !pattern.isRefutable && pattern.caseName == some enumCase.name.text

/-- A pattern that matches every value of a case. -/
def coveringPattern (enumCase : EnumCase) : String :=
  if enumCase.payload.isEmpty then "." ++ enumCase.name.text
  else
    "." ++ enumCase.name.text ++ "(" ++
      commaSeparated (enumCase.payload.map fun _ => "_") ++ ")"

/-- The cases of an enum that no pattern covers. -/
def missingCases (decl : EnumDecl) (patterns : List Pattern) : List EnumCase :=
  decl.cases.filter fun enumCase => !patterns.any (covers · enumCase)

/-- The diagnostic for a `switch` that lacks cases. Each suggestion adds a case in front of the
closing brace. -/
def exhaustivenessDiagnostic (node : Switch) (missing : List EnumCase) : Diagnostic :=
  let place : Span := ⟨node.span.start, node.subject.span.stop⟩
  let suggestion (enumCase : EnumCase) : Note :=
    let pattern := coveringPattern enumCase
    .fixIt ⟨s!"add missing case: '{pattern}'", place,
      [.insert (node.span.stop - 1) ("case " ++ pattern ++ ":\n<#code#>\n")]⟩
  ⟨.error, DiagnosticCode.exhaustiveness.number, "switch must be exhaustive",
    [.primary "do you want to add missing cases?" place], missing.map suggestion⟩

/-- Checks that a `switch` covers every case of its enum. -/
def checkExhaustive (host : Host) (node : Switch) : List Diagnostic :=
  if node.cases.any (·.label.isCatchAll) then []
  else
    let patterns := patterns node
    match host.subjectEnum? (patterns.filterMap (·.caseName)) with
    | none => []
    | some decl =>
        match missingCases decl patterns with
        | [] => []
        | missing => [exhaustivenessDiagnostic node missing]

end ResultBuilder.Host
