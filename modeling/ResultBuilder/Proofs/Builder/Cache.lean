import ResultBuilder.Builder.Cache

/-!
# Looking up through a cache

What a sequence of types gives when each is looked up through the same cache. A type gives what was
resolved for the first type of the sequence with its key, so that the cache goes unnoticed exactly
when types with the same key are resolved alike.

* **`getOrResolveAll`**: types looked up one after the other.
* **`find?_getOrResolve`**: one look-up adds an entry for its type, unless there is one already.
* **`getOrResolveAll_fst`**: what a sequence of look-ups gives.
* **`getOrResolveAll_fst_eq_map_resolve_iff`**: when the cache goes unnoticed.
* **`resolve_eq_of_operations`**, **`kind_eq_of_resolve_eq`**: what a resolution depends on besides
  the key. The key says nothing about whether the type is a struct or a class.
-/

namespace ResultBuilder

open Syntax

namespace DescriptorCache

/-- What types offer that are looked up one after the other, and the cache after that. -/
def getOrResolveAll (cache : DescriptorCache) :
    List TypeDecl → List Resolution × DescriptorCache
  | [] => ([], cache)
  | decl :: rest =>
      let first := cache.getOrResolve decl
      let others := first.2.getOrResolveAll rest
      (first.1 :: others.1, others.2)

variable (cache : DescriptorCache)

/-! ### One look-up -/

/-- A look-up gives what is remembered, or else what is resolved. -/
theorem getOrResolve_fst (decl : TypeDecl) :
    (cache.getOrResolve decl).1 = (cache.find? decl).getD (Descriptor.resolve decl) := by
  unfold getOrResolve
  cases cache.find? decl <;> rfl

/-- **A look-up writes at most once.** What was remembered stays, and what the look-up gives is
remembered for every type with the same key. -/
theorem find?_getOrResolve (decl other : TypeDecl) :
    (cache.getOrResolve decl).2.find? other =
      if BuilderKey.ofDecl other = BuilderKey.ofDecl decl then some (cache.getOrResolve decl).1
      else cache.find? other := by
  unfold getOrResolve
  cases known : cache.find? decl with
  | some resolution =>
      dsimp only
      split
      · rename_i sameKey
        rw [find?, sameKey]
        exact known
      · rfl
  | none =>
      dsimp only
      rw [find?, List.lookup_cons, find?]
      split
      · rename_i sameKey
        rw [if_pos (eq_of_beq sameKey)]
      · rename_i differs
        rw [if_neg (ne_of_beq_false differs)]

/-! ### A sequence of look-ups -/

/-- The first of some types that has the key of a type; that type itself where none has. -/
def firstAlike (decls : List TypeDecl) (decl : TypeDecl) : TypeDecl :=
  (decls.find? fun earlier => BuilderKey.ofDecl earlier = BuilderKey.ofDecl decl).getD decl

theorem firstAlike_cons_of_eq {decl other : TypeDecl} (rest : List TypeDecl)
    (sameKey : BuilderKey.ofDecl other = BuilderKey.ofDecl decl) :
    firstAlike (decl :: rest) other = decl := by
  rw [firstAlike, List.find?_cons_of_pos (by simp [sameKey]), Option.getD_some]

theorem firstAlike_cons_of_ne {decl other : TypeDecl} (rest : List TypeDecl)
    (differs : BuilderKey.ofDecl other ≠ BuilderKey.ofDecl decl) :
    firstAlike (decl :: rest) other = firstAlike rest other := by
  rw [firstAlike, List.find?_cons_of_neg (by simp [Ne.symm differs]), firstAlike]

/-- Types with the same key have the same first type alike among types that they are among. -/
theorem firstAlike_eq_of_key_eq {decls : List TypeDecl} {one other : TypeDecl}
    (listed : one ∈ decls) (sameKey : BuilderKey.ofDecl one = BuilderKey.ofDecl other) :
    firstAlike decls one = firstAlike decls other := by
  rw [firstAlike, firstAlike, ← sameKey]
  cases found : decls.find? fun earlier => BuilderKey.ofDecl earlier = BuilderKey.ofDecl one with
  | some first => rfl
  | none => exact absurd (decide_eq_true rfl) (List.find?_eq_none.mp found one listed)

/-- The first type alike is among the types and has the key. -/
theorem firstAlike_spec {decls : List TypeDecl} {decl : TypeDecl} (listed : decl ∈ decls) :
    firstAlike decls decl ∈ decls ∧
      BuilderKey.ofDecl (firstAlike decls decl) = BuilderKey.ofDecl decl := by
  rw [firstAlike]
  cases found : decls.find? fun earlier => BuilderKey.ofDecl earlier = BuilderKey.ofDecl decl with
  | some first =>
      exact ⟨List.mem_of_find?_eq_some found, by simpa using List.find?_some found⟩
  | none => exact ⟨listed, rfl⟩

/-- What a type gives in a sequence of look-ups: what is remembered from before, or else what is
resolved for the first type of the sequence that is alike. -/
def answer (decls : List TypeDecl) (decl : TypeDecl) : Resolution :=
  (cache.find? decl).getD (Descriptor.resolve (firstAlike decls decl))

/-- The first of some types gives what looking it up gives. -/
theorem answer_head (decl : TypeDecl) (rest : List TypeDecl) :
    cache.answer (decl :: rest) decl = (cache.getOrResolve decl).1 := by
  rw [answer, getOrResolve_fst, firstAlike_cons_of_eq rest rfl]

/-- After the first look-up the others give what they would have given anyway. -/
theorem answer_getOrResolve (decl : TypeDecl) (rest : List TypeDecl) (other : TypeDecl) :
    (cache.getOrResolve decl).2.answer rest other = cache.answer (decl :: rest) other := by
  rw [answer, answer, find?_getOrResolve]
  by_cases sameKey : BuilderKey.ofDecl other = BuilderKey.ofDecl decl
  · -- the first type decides for the other one, whether or not their key was remembered
    have remembered : cache.find? other = cache.find? decl := by rw [find?, sameKey, find?]
    rw [if_pos sameKey, Option.getD_some, getOrResolve_fst, remembered,
      firstAlike_cons_of_eq rest sameKey]
  · rw [if_neg sameKey, firstAlike_cons_of_ne rest sameKey]

/-- **What a sequence of look-ups gives.** Each type gives what is remembered from before, or else
what is resolved for the first type of the sequence that is alike. -/
theorem getOrResolveAll_fst (decls : List TypeDecl) :
    (cache.getOrResolveAll decls).1 = decls.map (cache.answer decls) := by
  induction decls generalizing cache with
  | nil => rfl
  | cons decl rest inductionHypothesis =>
      rw [getOrResolveAll, List.map_cons, answer_head]
      refine congrArg (List.cons _) ?_
      rw [inductionHypothesis]
      exact List.map_congr_left fun other _ => cache.answer_getOrResolve decl rest other

/-- **When the cache goes unnoticed.** A sequence of look-ups gives for each of its types what is
resolved for that type, exactly when any two of its types with the same key are resolved alike. -/
theorem getOrResolveAll_fst_eq_map_resolve_iff (decls : List TypeDecl) :
    (getOrResolveAll {} decls).1 = decls.map Descriptor.resolve ↔
      ∀ one ∈ decls, ∀ other ∈ decls, BuilderKey.ofDecl one = BuilderKey.ofDecl other →
        Descriptor.resolve one = Descriptor.resolve other := by
  rw [getOrResolveAll_fst, List.map_inj_left]
  -- nothing is remembered at first, so that the first type alike decides
  show (∀ decl ∈ decls, Descriptor.resolve (firstAlike decls decl) = Descriptor.resolve decl) ↔ _
  constructor
  · intro unnoticed one ofOne other ofOther sameKey
    calc
      Descriptor.resolve one = Descriptor.resolve (firstAlike decls one) :=
        (unnoticed one ofOne).symm
      _ = Descriptor.resolve (firstAlike decls other) := by
        rw [firstAlike_eq_of_key_eq ofOne sameKey]
      _ = Descriptor.resolve other := unnoticed other ofOther
  · intro alike decl listed
    obtain ⟨ofFirst, sameKey⟩ := firstAlike_spec listed
    exact alike _ ofFirst decl listed sameKey

end DescriptorCache

/-! ### What a resolution depends on -/

namespace Descriptor

/-- Adding an operation leaves the builder. -/
@[simp] theorem builder_record (descriptor : Descriptor) (operation : Operation) :
    (descriptor.record operation).builder = descriptor.builder := by
  unfold record
  split
  · split
    · rfl
    · split <;> rfl
  all_goals rfl

/-- Adding operations leaves the builder. -/
@[simp] theorem builder_recordAll (descriptor : Descriptor) (functions : List FunctionDecl) :
    (descriptor.recordAll functions).builder = descriptor.builder := by
  unfold recordAll
  induction functions.filterMap Operation.ofFunction? generalizing descriptor with
  | nil => rfl
  | cons operation rest inductionHypothesis =>
      rw [List.foldl_cons, inductionHypothesis, builder_record]

/-- The builder that a resolution is for, whether or not it fails. -/
def resolvedBuilder : Resolution → BuilderRef
  | .ok descriptor => descriptor.builder
  | .error error => error.builder

/-- A resolution is for the type that is resolved. -/
theorem resolvedBuilder_resolve (decl : TypeDecl) :
    resolvedBuilder (resolve decl) = BuilderRef.ofDecl decl := by
  unfold resolve
  dsimp only
  split
  · exact builder_recordAll _ _
  · exact builder_recordAll _ _

/-- **The kind of a type shows in its resolution**, and therefore has to be the same for types that
are resolved alike. -/
theorem kind_eq_of_resolve_eq {one other : TypeDecl} (alike : resolve one = resolve other) :
    one.kind = other.kind := by
  have builders : BuilderRef.ofDecl one = BuilderRef.ofDecl other := by
    rw [← resolvedBuilder_resolve, ← resolvedBuilder_resolve, alike]
  exact congrArg BuilderRef.kind builders

/-- **Apart from the key, a resolution depends on the kind of the type and the operations among its
functions.** -/
theorem resolve_eq_of_operations {one other : TypeDecl}
    (sameKey : BuilderKey.ofDecl one = BuilderKey.ofDecl other) (sameKind : one.kind = other.kind)
    (sameOperations : one.functions.filterMap Operation.ofFunction? =
      other.functions.filterMap Operation.ofFunction?) :
    resolve one = resolve other := by
  have sameName : one.name.text = other.name.text := congrArg BuilderKey.name sameKey
  have sameSpan : one.name.span = other.name.span := congrArg BuilderKey.span sameKey
  have builders : BuilderRef.ofDecl one = BuilderRef.ofDecl other := by
    rw [BuilderRef.ofDecl, sameName, sameKind, sameSpan, BuilderRef.ofDecl]
  rw [resolve, resolve, recordAll, recordAll, builders, sameOperations]

end Descriptor

/-! ### A struct and a class at the same place -/

namespace DescriptorCache

/-- Looking up a struct and a class with the same key does not go unnoticed. -/
theorem getOrResolveAll_fst_ne_of_kind_ne {one other : TypeDecl}
    (sameKey : BuilderKey.ofDecl other = BuilderKey.ofDecl one) (differ : one.kind ≠ other.kind) :
    (getOrResolveAll {} [one, other]).1 ≠ [one, other].map Descriptor.resolve := by
  intro unnoticed
  rw [getOrResolveAll_fst, List.map_inj_left] at unnoticed
  have ofOther := unnoticed other (by simp)
  rw [answer, firstAlike_cons_of_eq [other] sameKey] at ofOther
  exact differ (Descriptor.kind_eq_of_resolve_eq ofOther)

/-- A type with one function that joins one value, as it is read from a source that starts with its
attribute. The keyword `class` is followed by one blank more than `struct`. -/
def joiningType (kind : TypeKind) : TypeDecl where
  span := ⟨0, 66⟩
  attributes := [⟨⟨0, 14⟩, "resultBuilder"⟩]
  kind
  name := ⟨⟨22, 23⟩, "B"⟩
  generics := []
  members := [.function {
    span := ⟨26, 64⟩
    attributes := []
    isStatic := true
    name := ⟨⟨38, 48⟩, "buildBlock"⟩
    generics := [⟨⟨49, 50⟩, ⟨⟨49, 50⟩, "T"⟩, none⟩]
    params := [⟨⟨52, 58⟩, [], none, ⟨⟨54, 55⟩, "t"⟩, .named ⟨57, 58⟩ "T" [], false⟩]
    result := some (.named ⟨63, 64⟩ "T" [])
    body := none }]

/-- The class is taken for the struct that was looked up before it. -/
theorem getOrResolveAll_struct_class :
    (getOrResolveAll {} [joiningType .structType, joiningType .classType]).1 ≠
      [joiningType .structType, joiningType .classType].map Descriptor.resolve :=
  getOrResolveAll_fst_ne_of_kind_ne rfl nofun

end DescriptorCache

end ResultBuilder
