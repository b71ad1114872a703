/-!
# Kinds of diagnostics

Every diagnostic about builder bodies has a stable code from 200 on. Codes fall into kinds; a kind
tells whether the transform of a body ends with it, and whether it comes from a collaborator that
was asked about a part of the body.
-/

namespace ResultBuilder

/-- The codes of the diagnostics about builder bodies. -/
inductive DiagnosticCode where
  | structuralRejection
  | missingCapability
  | noMatchingBlockJoinArity
  | builderDescriptorInvalid
  | returnDisablesTransform
  | ambiguousResolution
  | exhaustiveness
  | unresolvedGeneric
  | syntacticUse
  | implicitSelfCapture
  | directiveError
  | directiveWarning
  deriving DecidableEq, Repr

namespace DiagnosticCode

/-- The number of a code. -/
def number : DiagnosticCode → Nat
  | .structuralRejection => 200
  | .missingCapability => 201
  | .noMatchingBlockJoinArity => 202
  | .builderDescriptorInvalid => 203
  | .returnDisablesTransform => 204
  | .ambiguousResolution => 205
  | .exhaustiveness => 206
  | .unresolvedGeneric => 207
  | .syntacticUse => 208
  | .implicitSelfCapture => 209
  | .directiveError => 210
  | .directiveWarning => 211

/-- All codes. -/
def all : List DiagnosticCode :=
  [.structuralRejection, .missingCapability, .noMatchingBlockJoinArity,
    .builderDescriptorInvalid, .returnDisablesTransform, .ambiguousResolution, .exhaustiveness,
    .unresolvedGeneric, .syntacticUse, .implicitSelfCapture, .directiveError, .directiveWarning]

/-- The code with a number. -/
def ofNumber? (number : Nat) : Option DiagnosticCode :=
  all.find? (·.number == number)

@[simp] theorem ofNumber?_number (code : DiagnosticCode) : ofNumber? code.number = some code := by
  cases code <;> rfl

end DiagnosticCode

/-- The kinds of diagnostics about builder bodies. -/
inductive DiagnosticKind where
  | structuralRejection
  | missingCapability
  | noMatchingBlockJoinArity
  | builderDescriptorInvalid
  | returnDisablesTransform
  | ambiguousResolution
  | exhaustiveness
  | unresolvedGeneric
  | syntacticUseError
  | implicitSelfCapture
  | directive
  deriving DecidableEq, Repr

/-- The kind that a code belongs to: directives have two codes, every other kind has one. -/
def DiagnosticCode.kind : DiagnosticCode → DiagnosticKind
  | .structuralRejection => .structuralRejection
  | .missingCapability => .missingCapability
  | .noMatchingBlockJoinArity => .noMatchingBlockJoinArity
  | .builderDescriptorInvalid => .builderDescriptorInvalid
  | .returnDisablesTransform => .returnDisablesTransform
  | .ambiguousResolution => .ambiguousResolution
  | .exhaustiveness => .exhaustiveness
  | .unresolvedGeneric => .unresolvedGeneric
  | .syntacticUse => .syntacticUseError
  | .implicitSelfCapture => .implicitSelfCapture
  | .directiveError | .directiveWarning => .directive

namespace DiagnosticKind

/-- The kind of the diagnostics with a number as their code. -/
def ofCode? (number : Nat) : Option DiagnosticKind :=
  (DiagnosticCode.ofNumber? number).map (·.kind)

/-- Whether a diagnostic of this kind ends the transform of its body. -/
def isFatal : DiagnosticKind → Bool
  | .structuralRejection | .missingCapability | .noMatchingBlockJoinArity
  | .builderDescriptorInvalid => true
  | _ => false

/-- Whether a diagnostic of this kind comes from a collaborator. -/
def isRelayed : DiagnosticKind → Bool
  | .ambiguousResolution | .exhaustiveness | .unresolvedGeneric | .syntacticUseError
  | .implicitSelfCapture => true
  | _ => false

/-- The kind in words. -/
def text : DiagnosticKind → String
  | .structuralRejection => "structural rejection"
  | .missingCapability => "missing capability"
  | .noMatchingBlockJoinArity => "no matching block join arity"
  | .builderDescriptorInvalid => "invalid builder"
  | .returnDisablesTransform => "transform disabled by return"
  | .ambiguousResolution => "ambiguous resolution"
  | .exhaustiveness => "exhaustiveness"
  | .unresolvedGeneric => "unresolved generic"
  | .syntacticUseError => "syntactic use"
  | .implicitSelfCapture => "implicit self capture"
  | .directive => "directive"

/-- The name of a kind in serialized form. -/
def identifier : DiagnosticKind → String
  | .structuralRejection => "structural_rejection"
  | .missingCapability => "missing_capability"
  | .noMatchingBlockJoinArity => "no_matching_block_join_arity"
  | .builderDescriptorInvalid => "builder_descriptor_invalid"
  | .returnDisablesTransform => "return_disables_transform"
  | .ambiguousResolution => "ambiguous_resolution"
  | .exhaustiveness => "exhaustiveness"
  | .unresolvedGeneric => "unresolved_generic"
  | .syntacticUseError => "syntactic_use_error"
  | .implicitSelfCapture => "implicit_self_capture"
  | .directive => "directive"

/-- No kind that ends a transform comes from a collaborator. -/
theorem not_isRelayed_of_isFatal (kind : DiagnosticKind) (fatal : kind.isFatal = true) :
    kind.isRelayed = false := by
  cases kind <;> simp_all [isFatal, isRelayed]

end DiagnosticKind

end ResultBuilder
