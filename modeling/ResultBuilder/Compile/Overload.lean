import ResultBuilder.Compile.Scope
import ResultBuilder.Synthesis.Transform

/-!
# Choosing among overloads

A call with closures can mean several functions, which may apply different builders to them. Each
possibility is tried by transforming the closures, and one for which that works is preferred. Where
several work and their builders differ, a collaborator decides.
-/

namespace ResultBuilder

open Syntax

/-- A closure that is given for a parameter with a builder. -/
structure BuilderClosure where
  /-- The closure. -/
  closure : Closure
  /-- The builder of the parameter. -/
  builder : TypeDecl
  /-- Whether the closure may outlive the call. -/
  isEscaping : Bool

/-- A function that the arguments of a call fit. -/
structure CallBinding where
  /-- The function. -/
  function : FunctionDecl
  /-- The closures that are given for parameters with builders. -/
  closures : List BuilderClosure

namespace CallBinding

/-- The names of the builders, in the order of the arguments. -/
def builders (binding : CallBinding) : List String :=
  binding.closures.map (·.builder.name.text)

/-- The closure that an argument is, if it is one. -/
def closure? (argument : Argument) : Option Closure :=
  match argument.value with
  | .closure node => some node
  | _ => none

/-- The arguments of a call in order, a closure after the parentheses being the last. What is kept
of each is the closure that it is, if it is one. -/
def given (args : List Argument) (trailing : Option Closure) : List (Option Closure) :=
  args.map closure? ++ trailing.toList.map some

/-- The closure that is given for a parameter, if it is one and the parameter has a builder. -/
def builderClosure? (scopes : Scopes) (param : Param) (argument : Option Closure) :
    Option BuilderClosure := do
  let closure ← argument
  let (_, builder) ← scopes.builderAttribute? param.attributes
  return ⟨closure, builder, param.isEscaping⟩

/-- Gives the arguments of a call to the parameters of a function in order. The numbers of arguments
and parameters have to agree. -/
def ofCall? (scopes : Scopes) (args : List Argument) (trailing : Option Closure)
    (function : FunctionDecl) : Option CallBinding :=
  let given := given args trailing
  if given.length = function.params.length then
    some ⟨function, (function.params.zip given).filterMap fun (param, argument) =>
      builderClosure? scopes param argument⟩
  else none

end CallBinding

/-- A possibility that was tried. -/
structure Trial where
  /-- The function and the closures. -/
  binding : CallBinding
  /-- What becomes of the closures, up to one whose builder is invalid. -/
  outcomes : List Transform.Transformed
  /-- The diagnostic for a builder that is invalid. -/
  invalid : Option Diagnostic

namespace Trial

/-- Whether a result is a failure. -/
def isFailed : Transform.Result → Bool
  | .failed _ => true
  | .built _ | .verbatim _ => false

/-- The shape of a result, unknown for a body that is not transformed. -/
def shape : Transform.Result → Shape
  | .built built => built.shape
  | .verbatim _ | .failed _ => .hole

/-- Whether all closures were transformed or left as they are. -/
def isViable (trial : Trial) : Bool :=
  trial.invalid.isNone && trial.outcomes.all fun outcome => !isFailed outcome.result

/-- A possibility as it is shown to a collaborator. -/
def candidate (trial : Trial) : OverloadCandidate where
  name := trial.binding.function.fullName
  span := trial.binding.function.name.span
  builders := trial.binding.builders
  shapes := trial.outcomes.map fun outcome => shape outcome.result

end Trial

/-- The decision about a call. -/
inductive Selection where
  /-- The possibility at an index is meant. -/
  | commit (index : Nat)
  /-- It cannot be told which possibility is meant. -/
  | ambiguous (diagnostic : Diagnostic)
  deriving DecidableEq, Repr

namespace Selection

/-- The indices of the trials that are viable. -/
def viable (trials : List Trial) : List (Nat × Trial) :=
  ((List.range trials.length).zip trials).filter (·.2.isViable)

/-- The event for a decision. -/
def event (trials : List Trial) (site : OverloadSite) : Event :=
  ⟨.debug, "selecting overload",
    [("callee", site.name), ("candidates", toString trials.length),
      ("viable", toString (viable trials).length)]⟩

/-- Whether the builders of all trials agree. -/
def buildersAgree (first : Nat × Trial) (rest : List (Nat × Trial)) : Bool :=
  rest.all fun other => other.2.binding.builders == first.2.binding.builders

/-- Decides which trial is meant, with the question to the collaborator if there is one. Without a
viable trial it is the first, so that its failure is reported. -/
def ofTrials (services : Collaborators) (site : OverloadSite) (trials : List Trial) :
    Selection × List Question :=
  match viable trials with
  | [] => (.commit 0, [])
  | [only] => (.commit only.1, [])
  | first :: rest =>
      if buildersAgree first rest then (.commit first.1, [])
      else
        let candidates := (first :: rest).map (·.2.candidate)
        let selection := match services.resolveOverload site candidates with
          | .ok chosen => .commit (((first :: rest)[chosen]?).getD first).1
          | .error diagnostic => .ambiguous diagnostic
        (selection, [.overload site candidates])

end Selection

end ResultBuilder
