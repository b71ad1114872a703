import ResultBuilder.Body.Context
import ResultBuilder.Body.Form
import ResultBuilder.Builder.Descriptor

/-!
# Why a body is not transformed

A body fails when it holds something that cannot become a value or asks for something that the
builder lacks. A body with returns is left as it is, which gives a warning.
-/

namespace ResultBuilder

/-- Why transforming a body fails. -/
inductive TransformError where
  /-- The body contains a declaration. -/
  | declaration (kind : BodyKind) (builder : BuilderRef) (span : Span)
  /-- The body contains a statement that is about control flow. -/
  | controlFlow (kind : BodyKind) (builder : BuilderRef) (statement : RejectionKind) (span : Span)
  /-- The builder lacks an operation that a statement needs. -/
  | missingCapability (kind : BodyKind) (builder : BuilderRef) (capability : Capability)
      (span : Span)
  /-- A block has more values than the builder can join; the span is that of the first too many. -/
  | extraArgument (builder : BuilderRef) (count most : Nat) (span : Span)
  /-- A block has fewer values than the builder can join. -/
  | missingArgument (builder : BuilderRef) (position : Nat) (span : Span)
  /-- The builder can join fewer and more values than a block has, but not as many. -/
  | noBlockOverload (builder : BuilderRef) (count : Nat) (arities : List Nat) (span : Span)
  deriving DecidableEq, Repr

namespace TransformError

/-- The builder that the body was for. -/
def builder : TransformError → BuilderRef
  | .declaration _ builder _
  | .controlFlow _ builder _ _
  | .missingCapability _ builder _ _
  | .extraArgument builder _ _ _
  | .missingArgument builder _ _
  | .noBlockOverload builder _ _ _ => builder

/-- Where the reason is. -/
def span : TransformError → Span
  | .declaration _ _ span
  | .controlFlow _ _ _ span
  | .missingCapability _ _ _ span
  | .extraArgument _ _ _ span
  | .missingArgument _ _ span
  | .noBlockOverload _ _ _ span => span

/-- The code of the diagnostic. -/
def code : TransformError → DiagnosticCode
  | .declaration _ _ _ | .controlFlow _ _ _ _ => .structuralRejection
  | .missingCapability _ _ _ _ => .missingCapability
  | .extraArgument _ _ _ _ | .missingArgument _ _ _ | .noBlockOverload _ _ _ _ =>
      .noMatchingBlockJoinArity

/-- The reason in words. -/
def message : TransformError → String
  | .declaration kind builder _ =>
      s!"{kind.text} containing a declaration cannot be used with function builder '{builder.name}'"
  | .controlFlow kind builder _ _ | .missingCapability kind builder _ _ =>
      kind.text ++ " containing control flow statement cannot be used with function builder '" ++
        builder.name ++ "'"
  | .extraArgument _ _ _ _ => "extra argument in call"
  | .missingArgument _ position _ => s!"missing argument for parameter #{position} in call"
  | .noBlockOverload builder count _ _ =>
      s!"function builder '{builder.name}' has no 'buildBlock' overload taking {count} components"

/-- The labels of the diagnostic. -/
def labels : TransformError → List Label
  | .declaration _ builder span =>
      [.primary "declaration not allowed here" span, builder.declaredHere]
  | .controlFlow _ builder statement span =>
      [.primary s!"{statement.text} not allowed here" span, builder.declaredHere]
  | .missingCapability _ builder capability span =>
      [.primary s!"requires '{capability.operationName}'" span, builder.declaredHere]
  | .extraArgument _ _ most span =>
      [.primary s!"'buildBlock' accepts at most {most} components" span]
  | .missingArgument _ _ span => [.primary "in this block" span]
  | .noBlockOverload builder _ _ span => [.primary "in this block" span, builder.declaredHere]

/-- The remarks of the diagnostic. -/
def notes : TransformError → List Note
  | .noBlockOverload _ _ arities _ =>
      [.hint s!"available overloads take {Syntax.commaSeparated (arities.map toString)} components"]
  | _ => []

/-- The diagnostic. -/
def diagnostic (error : TransformError) : Diagnostic :=
  ⟨.error, error.code.number, error.message, error.labels, error.notes⟩

end TransformError

/-- A body that is left as it is because of its returns. -/
structure ReturnWarning where
  /-- The builder that the body was for. -/
  builder : BuilderRef
  /-- The returns. -/
  returns : List ReturnSite
  /-- The builder attribute of the declaration that has the body. -/
  builderAttribute : Option Span
  deriving DecidableEq, Repr

namespace ReturnWarning

/-- The span of the first return. -/
def span (warning : ReturnWarning) : Span :=
  (warning.returns.head?.map (·.span)).getD ⟨0, 0⟩

/-- The edit that turns a return into its value, or into nothing. -/
def removal (site : ReturnSite) : Edit :=
  .remove ⟨site.keyword.start, (site.value.map (·.start)).getD site.keyword.stop⟩

/-- The suggestions to remove the attribute and to remove the returns. -/
def notes (warning : ReturnWarning) : List Note :=
  (warning.builderAttribute.toList.map fun mark =>
    .fixIt ⟨"remove the attribute to explicitly disable the function builder", mark,
      [.remove mark]⟩) ++
    [.fixIt ⟨"remove 'return' statements to apply the function builder", warning.span,
      warning.returns.map removal⟩]

/-- The diagnostic. -/
def diagnostic (warning : ReturnWarning) : Diagnostic :=
  ⟨.warning, DiagnosticCode.returnDisablesTransform.number,
    s!"application of function builder '{warning.builder.name}' disabled by explicit 'return' " ++
      "statement",
    [.primary "explicit 'return'" warning.span], warning.notes⟩

end ReturnWarning

end ResultBuilder
