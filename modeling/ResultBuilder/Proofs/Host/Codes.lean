import ResultBuilder.Proofs.Host.Answers

/-!
# The codes of what a host answers

Each check of a host has codes of its own, so that the diagnostics of one check can be told apart
from all others. About overloads a host decides without looking at shapes.

Main statement: `Host.isCoded_collaborators`.
-/

namespace ResultBuilder

open Syntax

/-- **Collaborators whose checks can be told apart** by codes, and who look at no shape when they
decide between functions. -/
structure Collaborators.IsCoded (services : Collaborators) : Prop where
  expression {context : BodyContext} {node : Expr} {diagnostic : Diagnostic}
    (answered : diagnostic ∈ services.checkExpression context node) :
    diagnostic.code = DiagnosticCode.unresolvedGeneric.number ∨
      diagnostic.code = DiagnosticCode.syntacticUse.number
  captures {context : BodyContext} {node : Expr} {diagnostic : Diagnostic}
    (answered : diagnostic ∈ services.checkCaptures context node) :
    diagnostic.code = DiagnosticCode.implicitSelfCapture.number
  condition {context : BodyContext} {node : Condition} {diagnostic : Diagnostic}
    (answered : diagnostic ∈ services.checkCondition context node) :
    diagnostic.code ≠ DiagnosticCode.implicitSelfCapture.number
  exhaustive {context : BodyContext} {node : Switch} {diagnostic : Diagnostic}
    (answered : diagnostic ∈ services.checkExhaustive context node) :
    diagnostic.code ≠ DiagnosticCode.implicitSelfCapture.number
  overload {site : OverloadSite} {candidates : List OverloadCandidate} {diagnostic : Diagnostic}
    (undecided : services.resolveOverload site candidates = .error diagnostic) :
    diagnostic.code ≠ DiagnosticCode.implicitSelfCapture.number
  shapeless {site : OverloadSite} {one other : List OverloadCandidate}
    (same : one.map (fun candidate => { candidate with shapes := [] }) =
      other.map fun candidate => { candidate with shapes := [] }) :
    services.resolveOverload site one = services.resolveOverload site other

namespace Host

variable {host : Host} {context : BodyContext} {diagnostic : Diagnostic}

theorem code_of_mem_unresolvedGenerics {name : String} {place : Span}
    (found : diagnostic ∈ host.unresolvedGenerics name place) :
    diagnostic.code = DiagnosticCode.unresolvedGeneric.number := by
  unfold unresolvedGenerics at found
  split at found
  · cases found
  · obtain ⟨generic, -, rfl⟩ := List.mem_map.mp found
    rfl

theorem code_of_mem_emptyConstruction {place : Span} {callee : Expr}
    (found : diagnostic ∈ host.emptyConstruction place callee) :
    diagnostic.code = DiagnosticCode.unresolvedGeneric.number ∨
      diagnostic.code = DiagnosticCode.syntacticUse.number := by
  unfold emptyConstruction at found
  split at found
  · split at found
    · cases found
    · split at found
      · cases found
      · rcases List.mem_append.mp found with ofGenerics | ofInitializer
        · exact .inl (code_of_mem_unresolvedGenerics ofGenerics)
        · obtain ⟨initializer, -, rfl⟩ := List.mem_map.mp ofInitializer
          exact .inr rfl
  · cases found

theorem code_of_mem_typeAsValue {value : Expr}
    (found : diagnostic ∈ host.typeAsValue context value) :
    diagnostic.code = DiagnosticCode.syntacticUse.number := by
  unfold typeAsValue at found
  split at found
  · split at found
    · rw [List.mem_singleton.mp found]
    · cases found
  · cases found

theorem code_of_mem_checkExpression {expr : Expr}
    (found : diagnostic ∈ host.checkExpression context expr) :
    diagnostic.code = DiagnosticCode.unresolvedGeneric.number ∨
      diagnostic.code = DiagnosticCode.syntacticUse.number := by
  unfold checkExpression at found
  split at found
  · exact .inl (code_of_mem_unresolvedGenerics found)
  · cases complains_of_mem_nodeUses (.expression expr) found with
    | call _ found => exact code_of_mem_emptyConstruction found
    | value _ found => exact .inr (code_of_mem_typeAsValue found)

theorem code_of_mem_checkCaptures {expr : Expr} (found : diagnostic ∈ checkCaptures context expr) :
    diagnostic.code = DiagnosticCode.implicitSelfCapture.number := by
  unfold checkCaptures at found
  split at found
  next object _ =>
    split at found
    · obtain ⟨place, name, -, rfl⟩ := mem_nodeCaptures (.expression expr) found
      rfl
    · cases found
  next => cases found

theorem code_of_assignment? {expr : Expr} (found : assignment? expr = some diagnostic) :
    diagnostic.code = DiagnosticCode.syntacticUse.number := by
  fun_induction assignment? expr with
  | case1 =>
      cases found
      rfl
  | case2 span inner ih => exact ih found
  | case3 span left right ofLeft ofRight | case4 span left right ofLeft ofRight =>
      rw [Option.orElse_eq_orElse, Option.orElse_eq_or, Option.or_eq_some_iff] at found
      rcases found with found | ⟨-, found⟩
      · exact ofLeft found
      · exact ofRight found
  | case5 => cases found

theorem code_of_mem_checkCondition {condition : Condition}
    (found : diagnostic ∈ checkCondition condition) :
    diagnostic.code = DiagnosticCode.syntacticUse.number := by
  cases condition with
  | expression expr => exact code_of_assignment? (Option.mem_toList.mp found)
  | binding => cases found

theorem code_of_mem_checkExhaustive {node : Switch}
    (found : diagnostic ∈ host.checkExhaustive node) :
    diagnostic.code = DiagnosticCode.exhaustiveness.number := by
  unfold checkExhaustive at found
  split at found
  · cases found
  dsimp only at found
  split at found
  · cases found
  split at found
  · cases found
  · rw [List.mem_singleton.mp found]
    rfl

theorem code_of_resolveOverload {site : OverloadSite} {candidates : List OverloadCandidate}
    (undecided : resolveOverload site candidates = .error diagnostic) :
    diagnostic.code = DiagnosticCode.ambiguousResolution.number := by
  unfold resolveOverload at undecided
  split at undecided
  · cases undecided
  · cases undecided
    rfl

/-- A host counts the functions and points at them. -/
theorem resolveOverload_of_same {site : OverloadSite} {one other : List OverloadCandidate}
    (same : one.map (fun candidate => { candidate with shapes := [] }) =
      other.map fun candidate => { candidate with shapes := [] }) :
    resolveOverload site one = resolveOverload site other := by
  have length : one.length = other.length := by simpa using congrArg List.length same
  have shown : one.map (fun candidate => Label.context "found this candidate" candidate.span) =
      other.map fun candidate => Label.context "found this candidate" candidate.span := by
    simpa only [List.map_map, Function.comp_def] using congrArg
      (List.map fun candidate : OverloadCandidate =>
        Label.context "found this candidate" candidate.span) same
  rw [resolveOverload, resolveOverload, length, shown]

/-- **The checks of a host can be told apart.** -/
theorem isCoded_collaborators (host : Host) : host.collaborators.IsCoded where
  expression := code_of_mem_checkExpression
  captures := code_of_mem_checkCaptures
  condition answered := by
    rw [code_of_mem_checkCondition answered]
    decide
  exhaustive answered := by
    rw [code_of_mem_checkExhaustive answered]
    decide
  overload undecided := by
    rw [code_of_resolveOverload undecided]
    decide
  shapeless := resolveOverload_of_same

end Host

end ResultBuilder
