import ResultBuilder.Builder.Cache
import ResultBuilder.Compile.Overload

/-!
# What a walk through a program finds

A walk collects diagnostics and transformed bodies and remembers what was resolved for builders.
What it has found is only ever added to.
-/

namespace ResultBuilder

open Syntax

/-- What a body is replaced by. -/
inductive Expansion where
  | built (value : Transform.Built)
  /-- The body as it is written. -/
  | verbatim (body : Block)

/-- The text of what a body is replaced by. -/
def Expansion.text : Expansion → String
  | .built value => value.expr.text
  | .verbatim body => body.text

/-- The text of the shape of a transformed body. -/
def Expansion.shapeText? : Expansion → Option String
  | .built value => some value.shape.text
  | .verbatim _ => none

/-- A body that a builder was applied to. -/
structure TransformedBody where
  /-- What kind of body it is. -/
  kind : BodyKind
  /-- The name of the builder. -/
  builder : String
  /-- Where the body is. -/
  span : Span
  /-- What it is replaced by. -/
  expansion : Expansion

/-- The JSON form of a body. -/
def TransformedBody.toJson (body : TransformedBody) : Json :=
  .object [("kind", .string body.kind.text), ("builder", .string body.builder),
    ("span", body.span.toJson), ("expansion", .string body.expansion.text),
    ("shape", .ofOption .string body.expansion.shapeText?)]

/-- What a walk found. -/
structure Findings where
  /-- The diagnostics, in order. -/
  diagnostics : List Diagnostic := []
  /-- The bodies, in order. -/
  bodies : List TransformedBody := []
  /-- The questions and events, in order. -/
  journal : Journal := []

namespace Findings

/-- Findings and then further findings. -/
def append (first second : Findings) : Findings :=
  ⟨first.diagnostics ++ second.diagnostics, first.bodies ++ second.bodies,
    first.journal ++ second.journal⟩

instance : Append Findings := ⟨append⟩

@[simp] theorem diagnostics_append (first second : Findings) :
    (first ++ second).diagnostics = first.diagnostics ++ second.diagnostics := rfl

@[simp] theorem bodies_append (first second : Findings) :
    (first ++ second).bodies = first.bodies ++ second.bodies := rfl

@[simp] theorem journal_append (first second : Findings) :
    (first ++ second).journal = first.journal ++ second.journal := rfl

end Findings

/-- A step of a walk, its findings and the cache after it. -/
structure Walked (α : Type) where
  /-- What the step gives. -/
  value : α
  /-- What it found. -/
  findings : Findings
  /-- The cache after it. -/
  cache : DescriptorCache

/-- A walk, which starts with a cache. -/
def Walk (α : Type) : Type :=
  DescriptorCache → Walked α

namespace Walk

variable {α β : Type}

/-- A walk that finds nothing. -/
def pure (value : α) : Walk α := fun cache =>
  ⟨value, {}, cache⟩

/-- A walk and then another. -/
def bind (first : Walk α) (next : α → Walk β) : Walk β := fun cache =>
  let walked := first cache
  let further := next walked.value walked.cache
  ⟨further.value, walked.findings ++ further.findings, further.cache⟩

instance : Monad Walk where
  pure := Walk.pure
  bind := Walk.bind

/-- Finds something. -/
def found (findings : Findings) : Walk Unit := fun cache =>
  ⟨(), findings, cache⟩

/-- Finds diagnostics. -/
def report (diagnostics : List Diagnostic) : Walk Unit :=
  found { diagnostics }

/-- Notes questions and events. -/
def note (journal : Journal) : Walk Unit :=
  found { journal }

/-- What a builder offers. -/
def resolve (decl : TypeDecl) : Walk Resolution := fun cache =>
  let (resolution, next) := cache.getOrResolve decl
  ⟨resolution, { journal := (cache.lookupEvents decl).map .happened }, next⟩

@[simp] theorem bind_findings (first : Walk α) (next : α → Walk β) (cache : DescriptorCache) :
    ((first >>= next) cache).findings =
      (first cache).findings ++ (next (first cache).value (first cache).cache).findings := rfl

end Walk

end ResultBuilder
