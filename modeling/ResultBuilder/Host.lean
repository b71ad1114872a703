import ResultBuilder.Host.Captures
import ResultBuilder.Host.Exhaustive
import ResultBuilder.Host.TypeOf
import ResultBuilder.Host.Uses

/-!
# The host as a collaborator

A host answers all questions from the declarations of the program. It does not choose between
functions: where more than one is possible, the call is ambiguous.
-/

namespace ResultBuilder.Host

/-- The only function that a call can mean, if there is only one. -/
def resolveOverload (site : OverloadSite) (candidates : List OverloadCandidate) :
    Except Diagnostic Nat :=
  if candidates.length ≤ 1 then .ok 0
  else
    .error ⟨.error, DiagnosticCode.ambiguousResolution.number, s!"ambiguous use of '{site.name}'",
      .primary "ambiguous call" site.span ::
        candidates.map fun candidate => .context "found this candidate" candidate.span, []⟩

/-- A host as a collaborator. -/
def collaborators (host : Host) : Collaborators where
  checkExhaustive _ node := host.checkExhaustive node
  checkCondition _ node := checkCondition node
  checkExpression context node := host.checkExpression context node
  checkCaptures context node := checkCaptures context node
  typeOf _ node := host.typeOf node
  resolveOverload := resolveOverload

end ResultBuilder.Host
