import ResultBuilder.Builder.Descriptor

/-!
# First come, first recorded

A descriptor has a place for every number of values that can be joined, one for joining any number of
them and one for each of the other capabilities. Recording is the same for all of them: an operation
takes its place unless another one has taken it before.

* **`Descriptor.Place`**, **`Descriptor.recorded?`**: the places and what stands in them.
* **`Descriptor.recorded?_record`**: recording one operation.
* **`Descriptor.recorded?_offered`**: in every place the first operation that belongs there.
* **`Descriptor.Extends`** and **`Descriptor.Covers`**: a descriptor has the same or at least
  something in every place that another one has filled.
-/

namespace ResultBuilder

open Syntax

namespace Descriptor

/-- A place of a descriptor, which holds one operation at most. -/
inductive Place where
  /-- For the function that joins a fixed number of values. -/
  | fixedBlock (count : Nat)
  /-- For the function that joins any number of values. -/
  | variadicBlock
  | optionalWrap
  | eitherFirst
  | eitherSecond
  | doWrap
  deriving DecidableEq, Repr

/-- What stands in a place. -/
def recorded? (descriptor : Descriptor) : Place → Option Operation
  | .fixedBlock count => descriptor.fixedBlock? count
  | .variadicBlock => descriptor.variadicBlock
  | .optionalWrap => descriptor.optionalWrap
  | .eitherFirst => descriptor.eitherFirst
  | .eitherSecond => descriptor.eitherSecond
  | .doWrap => descriptor.doWrap

end Descriptor

/-- The place that an operation is meant for. -/
def Operation.place (operation : Operation) : Descriptor.Place :=
  match operation.capability with
  | .blockJoin => if operation.isVariadic then .variadicBlock else .fixedBlock operation.arity
  | .optionalWrap => .optionalWrap
  | .eitherFirst => .eitherFirst
  | .eitherSecond => .eitherSecond
  | .doWrap => .doWrap

namespace Descriptor

/-! ### Recording -/

/-- A function for a fixed number of values is added behind those that are there. -/
theorem fixedBlock?_append (descriptor : Descriptor) (operation : Operation) (count : Nat) :
    { descriptor with fixedBlocks := descriptor.fixedBlocks ++ [operation] }.fixedBlock? count =
      (descriptor.fixedBlock? count).or (if operation.arity = count then some operation else none) := by
  rw [fixedBlock?, List.find?_append, ← fixedBlock?, List.find?_singleton]
  simp only [beq_iff_eq]

/-- **An operation takes its place** unless it is taken, and changes no other. -/
theorem recorded?_record (descriptor : Descriptor) (operation : Operation) (place : Place) :
    (descriptor.record operation).recorded? place =
      (descriptor.recorded? place).or (if operation.place = place then some operation else none) := by
  unfold record Operation.place
  cases operation.capability with
  | blockJoin =>
      dsimp only
      split
      · cases place <;> simp [recorded?, fixedBlock?]
      · split
        · next taken =>
            -- the place is taken, so that nothing changes there either
            obtain ⟨first, found⟩ := Option.isSome_iff_exists.mp taken
            by_cases same : Place.fixedBlock operation.arity = place
            · rw [← same, recorded?, found]
              rfl
            · rw [if_neg same, Option.or_none]
        · cases place with
          | fixedBlock count =>
              rw [recorded?, fixedBlock?_append, recorded?]
              simp only [Place.fixedBlock.injEq]
          | variadicBlock | optionalWrap | eitherFirst | eitherSecond | doWrap =>
              simp [recorded?]
  | optionalWrap | eitherFirst | eitherSecond | doWrap =>
      cases place <;> simp [recorded?, fixedBlock?]

/-- What operations that are recorded one after the other leave in a place. -/
theorem recorded?_foldl (operations : List Operation) (descriptor : Descriptor) (place : Place) :
    (operations.foldl record descriptor).recorded? place =
      (descriptor.recorded? place).or (operations.find? (·.place = place)) := by
  induction operations generalizing descriptor with
  | nil => exact (Option.or_none).symm
  | cons operation rest inductionHypothesis =>
      rw [List.foldl_cons, inductionHypothesis, recorded?_record, Option.or_assoc, List.find?_cons]
      by_cases same : operation.place = place <;> simp [same]

/-- The operations among the functions of a type, in order. -/
def operationsOf (decl : TypeDecl) : List Operation :=
  decl.functions.filterMap Operation.ofFunction?

/-- What a type offers, whether or not it is a builder. -/
def offered (decl : TypeDecl) : Descriptor :=
  recordAll { builder := .ofDecl decl } decl.functions

/-- **The first operation for a place is recorded there.** -/
theorem recorded?_offered (decl : TypeDecl) (place : Place) :
    (offered decl).recorded? place = (operationsOf decl).find? (·.place = place) := by
  have nothing : ({ builder := .ofDecl decl } : Descriptor).recorded? place = none := by
    cases place <;> rfl
  rw [offered, recordAll, recorded?_foldl, nothing, Option.none_or, operationsOf]

/-- A type resolves to what it offers, provided that this joins values. -/
theorem resolve_eq_ok_iff {decl : TypeDecl} {descriptor : Descriptor} :
    resolve decl = .ok descriptor ↔
      (offered decl).has .blockJoin = true ∧ offered decl = descriptor := by
  unfold resolve
  dsimp only
  rw [← offered]
  split
  · next joins => simp [joins]
  · next lacking => simp [lacking]

/-! ### What places say -/

/-- A number of values has a function of its own when the place for it is filled. -/
theorem mem_blockArities_iff {descriptor : Descriptor} {arity : Nat} :
    arity ∈ descriptor.blockArities ↔ (descriptor.recorded? (.fixedBlock arity)).isSome := by
  rw [blockArities, List.mem_mergeSort, recorded?, fixedBlock?, List.find?_isSome, List.mem_map]
  simp only [beq_iff_eq]

/-- A builder joins so many values when it does so by a function for just that number or by one for
any number. -/
theorem isSome_blockJoin?_iff {descriptor : Descriptor} {count : Nat} :
    (descriptor.blockJoin? count).isSome ↔
      (descriptor.recorded? (.fixedBlock count)).isSome ∨
        (descriptor.recorded? .variadicBlock).isSome := by
  rw [blockJoin?, Option.orElse_eq_orElse, Option.orElse_eq_or, Option.isSome_or, Bool.or_eq_true]
  rfl

/-- The places that give a builder a capability. -/
def Place.provides : Place → Capability
  | .fixedBlock _ | .variadicBlock => .blockJoin
  | .optionalWrap => .optionalWrap
  | .eitherFirst => .eitherFirst
  | .eitherSecond => .eitherSecond
  | .doWrap => .doWrap

/-- A builder has a capability when a place for it is filled. -/
theorem has_iff {descriptor : Descriptor} {capability : Capability} :
    descriptor.has capability = true ↔
      ∃ place : Place, place.provides = capability ∧ (descriptor.recorded? place).isSome := by
  constructor
  · intro has
    cases capability with
    | blockJoin =>
        rw [Descriptor.has, Bool.or_eq_true, Bool.not_eq_true', List.isEmpty_eq_false_iff] at has
        rcases has with fixed | variadic
        · obtain ⟨operation, listed⟩ := List.exists_mem_of_ne_nil _ fixed
          refine ⟨.fixedBlock operation.arity, rfl, ?_⟩
          rw [← mem_blockArities_iff, blockArities, List.mem_mergeSort]
          exact List.mem_map_of_mem listed
        · exact ⟨.variadicBlock, rfl, variadic⟩
    | optionalWrap => exact ⟨.optionalWrap, rfl, has⟩
    | eitherFirst => exact ⟨.eitherFirst, rfl, has⟩
    | eitherSecond => exact ⟨.eitherSecond, rfl, has⟩
    | doWrap => exact ⟨.doWrap, rfl, has⟩
  · rintro ⟨place, rfl, filled⟩
    cases place with
    | fixedBlock count =>
        obtain ⟨operation, listed, -⟩ := List.find?_isSome.mp filled
        have some : descriptor.fixedBlocks ≠ [] := List.ne_nil_of_mem listed
        simp [Place.provides, Descriptor.has, some]
    | variadicBlock =>
        have variadic : descriptor.variadicBlock.isSome = true := filled
        simp [Place.provides, Descriptor.has, variadic]
    | optionalWrap | eitherFirst | eitherSecond | doWrap => exact filled

/-! ### Having more -/

/-- **A descriptor covers another** when it has something in every place that the other has filled. -/
def Covers (descriptor small : Descriptor) : Prop :=
  ∀ place, (small.recorded? place).isSome → (descriptor.recorded? place).isSome

/-- **A descriptor extends another** when it has the same in every place that the other has filled. -/
def Extends (descriptor small : Descriptor) : Prop :=
  ∀ place operation, small.recorded? place = some operation →
    descriptor.recorded? place = some operation

variable {descriptor small : Descriptor}

/-- A descriptor has every capability of one that it covers. -/
theorem Covers.has (covers : descriptor.Covers small) {capability : Capability}
    (has : small.has capability = true) : descriptor.has capability = true := by
  obtain ⟨place, provides, filled⟩ := has_iff.mp has
  exact has_iff.mpr ⟨place, provides, covers place filled⟩

/-- A descriptor has a function for every number of values for which one that it covers has one. -/
theorem Covers.mem_blockArities (covers : descriptor.Covers small) {arity : Nat}
    (listed : arity ∈ small.blockArities) : arity ∈ descriptor.blockArities :=
  mem_blockArities_iff.mpr (covers _ (mem_blockArities_iff.mp listed))

/-- A descriptor joins as many values as one that it covers. -/
theorem Covers.isSome_blockJoin? (covers : descriptor.Covers small) {count : Nat}
    (joins : (small.blockJoin? count).isSome) : (descriptor.blockJoin? count).isSome :=
  isSome_blockJoin?_iff.mpr ((isSome_blockJoin?_iff.mp joins).imp (covers _) (covers _))

/-- **More functions cover fewer**: a type covers another when its operations include those of the
other. -/
theorem covers_offered {decl other : TypeDecl}
    (includes : ∀ operation ∈ operationsOf other, operation ∈ operationsOf decl) :
    (offered decl).Covers (offered other) := by
  intro place filled
  rw [recorded?_offered, List.find?_isSome] at filled ⊢
  obtain ⟨operation, listed, belongs⟩ := filled
  exact ⟨operation, includes operation listed, belongs⟩

/-- **Functions behind all others change nothing that is recorded.** -/
theorem extends_offered {decl other : TypeDecl} {more : List Operation}
    (behind : operationsOf decl = operationsOf other ++ more) :
    (offered decl).Extends (offered other) := by
  intro place operation found
  rw [recorded?_offered] at found ⊢
  rw [behind, List.find?_append, found, Option.some_or]

end Descriptor

end ResultBuilder
