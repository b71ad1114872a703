import ResultBuilder.Builder.Descriptor

/-!
# The cache of descriptors

A cache remembers for each builder type what was resolved for it, failures included. Types are told
apart by their name, where it is written, and the texts and places of their members.
-/

namespace ResultBuilder

open Syntax

/-- What tells builder types apart. -/
structure BuilderKey where
  /-- The name of the type. -/
  name : String
  /-- Where the name is written. -/
  span : Span
  /-- The places and texts of the members. -/
  members : List (Span × String)
  deriving DecidableEq, Repr

/-- The key of a type declaration. -/
def BuilderKey.ofDecl (decl : TypeDecl) : BuilderKey :=
  ⟨decl.name.text, decl.name.span, decl.members.map fun member => (member.span, member.text)⟩

/-- The outcome of a resolution. -/
abbrev Resolution := Except InvalidBuilder Descriptor

/-- The outcomes that are remembered, latest first. -/
structure DescriptorCache where
  /-- Keys with what was resolved for them. -/
  entries : List (BuilderKey × Resolution) := []

namespace DescriptorCache

/-- The number of outcomes that are remembered. -/
def size (cache : DescriptorCache) : Nat :=
  cache.entries.length

/-- What is remembered for a type. -/
def find? (cache : DescriptorCache) (decl : TypeDecl) : Option Resolution :=
  cache.entries.lookup (.ofDecl decl)

/-- What a type offers, from memory if possible, and the cache that remembers it. -/
def getOrResolve (cache : DescriptorCache) (decl : TypeDecl) : Resolution × DescriptorCache :=
  match cache.find? decl with
  | some known => (known, cache)
  | none =>
      let resolution := Descriptor.resolve decl
      (resolution, ⟨(.ofDecl decl, resolution) :: cache.entries⟩)

/-- The events of a look-up. -/
def lookupEvents (cache : DescriptorCache) (decl : TypeDecl) : List Event :=
  match cache.find? decl with
  | some _ => [⟨.debug, "descriptor cache hit", [("builder", decl.name.text)]⟩]
  | none =>
      ⟨.debug, "descriptor cache miss", [("builder", decl.name.text)]⟩ ::
        Descriptor.resolveEvents decl

end DescriptorCache

end ResultBuilder
