import Mathlib.Data.List.Pairwise
import Mathlib.Data.List.Sort
import Mathlib.Order.Bounds.Defs
import ResultBuilder.Proofs.Builder.Eligible
import ResultBuilder.Proofs.Synthesis.Calls

/-!
# Errors about the number of values

A builder that cannot join as many values as a block has joins only certain numbers of values, and at
least one of them. The error says on which side of these numbers the block is: behind the greatest, in
front of the least, or in a gap between the two.

* **`Descriptor.pairwise_lt_blockArities`**: the numbers that a builder can join are listed in order,
  each once.
* **`Descriptor.joins_fixed_of_lacking`**: a builder that cannot join some number of values has a
  function for a fixed number of them.
* **`Transform.ReportsArity`**, **`Transform.reportsArity_of_lacking`**: what the error says about the
  number of values, and that it says so.
-/

namespace ResultBuilder

open Syntax

namespace Descriptor

variable {descriptor : Descriptor} {count least most : Nat}

/-! ### Numbers of values -/

/-- **The numbers of values that a builder joins are ascending.** -/
theorem pairwise_lt_blockArities {decl : TypeDecl} (resolved : resolve decl = .ok descriptor) :
    descriptor.blockArities.Pairwise (· < ·) := by
  obtain ⟨-, rfl⟩ := resolve_eq_ok_iff.mp resolved
  have sorted : (offered decl).blockArities.Pairwise (· ≤ ·) := List.pairwise_mergeSort' (· ≤ ·) _
  have distinct : (offered decl).blockArities.Pairwise (· ≠ ·) :=
    (List.mergeSort_perm _ _).nodup_iff.mpr (nodup_arities_offered decl)
  exact sorted.imp₂ (fun _ _ => Nat.lt_of_le_of_ne) distinct

/-- **A builder that cannot join some number of values** joins no number of them by one function for
all, but some fixed number. -/
theorem joins_fixed_of_lacking {decl : TypeDecl} (resolved : resolve decl = .ok descriptor)
    (lacking : descriptor.blockJoin? count = none) :
    descriptor.blockArities ≠ [] ∧ descriptor.variadicBlock = none ∧
      count ∉ descriptor.blockArities := by
  obtain ⟨joins, rfl⟩ := resolve_eq_ok_iff.mp resolved
  rw [← Option.not_isSome_iff_eq_none, isSome_blockJoin?_iff, ← mem_blockArities_iff,
    not_or] at lacking
  have notAny : (offered decl).variadicBlock = none :=
    Option.not_isSome_iff_eq_none.mp lacking.2
  refine ⟨fun none => ?_, notAny, lacking.1⟩
  have noFixed : (offered decl).fixedBlocks = [] := by
    have length := congrArg List.length none
    simpa [blockArities] using length
  simp [Descriptor.has, notAny, noFixed] at joins

/-- The first of the numbers that a builder joins is the least. -/
theorem isLeast_head? (ascending : descriptor.blockArities.Pairwise (· < ·))
    (first : descriptor.blockArities.head? = some least) :
    IsLeast {arity | arity ∈ descriptor.blockArities} least := by
  obtain ⟨rest, arities⟩ := List.head?_eq_some_iff.mp first
  rw [arities] at ascending ⊢
  refine ⟨List.mem_cons_self, fun arity listed => ?_⟩
  rcases List.mem_cons.mp listed with rfl | behind
  · exact Nat.le_refl _
  · exact Nat.le_of_lt (List.rel_of_pairwise_cons ascending behind)

/-- The last of the numbers that a builder joins is the greatest. -/
theorem isGreatest_getLast? (ascending : descriptor.blockArities.Pairwise (· < ·))
    (last : descriptor.blockArities.getLast? = some most) :
    IsGreatest {arity | arity ∈ descriptor.blockArities} most := by
  obtain ⟨front, arities⟩ := List.getLast?_eq_some_iff.mp last
  rw [arities] at ascending ⊢
  refine ⟨List.mem_append_right _ List.mem_cons_self, fun arity listed => ?_⟩
  rcases List.mem_append.mp listed with before | isLast
  · exact Nat.le_of_lt ((List.pairwise_append.mp ascending).2.2 arity before most List.mem_cons_self)
  · exact Nat.le_of_eq (List.mem_singleton.mp isLast)

end Descriptor

namespace Transform

variable {setting : Setting} {components : List Span} {span : Span} {least most : Nat}

/-! ### The errors -/

/-- **What an error says about the number of values** of a block, given the least and the greatest
number of values that the builder joins. -/
structure ReportsArity (setting : Setting) (components : List Span) (span : Span) (least most : Nat)
    (error : TransformError) : Prop where
  /-- It is about an extra value exactly when there are more than the builder joins. -/
  extra_iff : (∃ builder count limit place, error = .extraArgument builder count limit place) ↔
    most < components.length
  /-- It is then at the first value that is too many. -/
  extra : ∀ tooMany : most < components.length, error =
    .extraArgument setting.descriptor.builder components.length most components[most]
  /-- It is about a missing value exactly when there are fewer than the builder joins. -/
  missing_iff : (∃ builder position place, error = .missingArgument builder position place) ↔
    components.length < least
  /-- It is then about the next value, which a function with the fewest parameters has one for. -/
  missing : components.length < least → components.length + 1 ≤ least ∧
    error = .missingArgument setting.descriptor.builder (components.length + 1) span
  /-- It is about a gap exactly when there are more than the least and fewer than the greatest number
  that the builder joins. -/
  gap_iff : (∃ builder count arities place, error = .noBlockOverload builder count arities place) ↔
    least < components.length ∧ components.length < most
  /-- It then has the numbers that the builder joins. -/
  gap : least < components.length → components.length < most → error =
    .noBlockOverload setting.descriptor.builder components.length setting.descriptor.blockArities span

/-- The error in terms of the least and the greatest number of values that the builder joins. -/
theorem arityError_eq (first : setting.descriptor.blockArities.head? = some least)
    (last : setting.descriptor.blockArities.getLast? = some most) :
    arityError setting components span =
      if tooMany : most < components.length then
        .extraArgument setting.descriptor.builder components.length most components[most]
      else if components.length < least then
        .missingArgument setting.descriptor.builder (components.length + 1) span
      else .noBlockOverload setting.descriptor.builder components.length
        setting.descriptor.blockArities span := by
  unfold arityError
  simp only [first, last]
  split
  · next tooMany => rw [List.getElem?_eq_getElem tooMany, Option.getD_some]
  · rfl

/-- **The error says what the number of values is like**: too great, too small or in a gap. -/
theorem reportsArity_arityError (first : setting.descriptor.blockArities.head? = some least)
    (last : setting.descriptor.blockArities.getLast? = some most) (ordered : least ≤ most)
    (notLeast : components.length ≠ least) (notMost : components.length ≠ most) :
    ReportsArity setting components span least most (arityError setting components span) := by
  rw [arityError_eq first last]
  by_cases tooMany : most < components.length
  · have notFew : ¬ components.length < least := by omega
    have noGap : ¬ (least < components.length ∧ components.length < most) := by omega
    rw [dif_pos tooMany]
    exact
      { extra_iff := iff_of_true ⟨_, _, _, _, rfl⟩ tooMany
        extra := fun _ => rfl
        missing_iff := iff_of_false (by rintro ⟨_, _, _, ⟨⟩⟩) notFew
        missing := fun tooFew => absurd tooFew notFew
        gap_iff := iff_of_false (by rintro ⟨_, _, _, _, ⟨⟩⟩) noGap
        gap := fun more fewer => absurd ⟨more, fewer⟩ noGap }
  rw [dif_neg tooMany]
  by_cases tooFew : components.length < least
  · have noGap : ¬ (least < components.length ∧ components.length < most) := by omega
    rw [if_pos tooFew]
    exact
      { extra_iff := iff_of_false (by rintro ⟨_, _, _, _, ⟨⟩⟩) tooMany
        extra := fun more => absurd more tooMany
        missing_iff := iff_of_true ⟨_, _, _, rfl⟩ tooFew
        missing := fun _ => ⟨tooFew, rfl⟩
        gap_iff := iff_of_false (by rintro ⟨_, _, _, _, ⟨⟩⟩) noGap
        gap := fun more fewer => absurd ⟨more, fewer⟩ noGap }
  · have between : least < components.length ∧ components.length < most := by omega
    rw [if_neg tooFew]
    exact
      { extra_iff := iff_of_false (by rintro ⟨_, _, _, _, ⟨⟩⟩) tooMany
        extra := fun more => absurd more tooMany
        missing_iff := iff_of_false (by rintro ⟨_, _, _, ⟨⟩⟩) tooFew
        missing := fun fewer => absurd fewer tooFew
        gap_iff := iff_of_true ⟨_, _, _, _, rfl⟩ between
        gap := fun _ _ => rfl }

/-- **Errors about the number of values are exact.** A builder that cannot join as many values as a
block has joins other numbers of them, each by a function of its own; they are listed in order, each
once, without the number of the block. The error tells whether the block has more values than all of
them, fewer, or a number in a gap. -/
theorem reportsArity_of_lacking {decl : TypeDecl}
    (resolved : Descriptor.resolve decl = .ok setting.descriptor) (components : List Span)
    (span : Span) (lacking : setting.descriptor.blockJoin? components.length = none) :
    setting.descriptor.blockArities ≠ [] ∧ setting.descriptor.variadicBlock = none ∧
      setting.descriptor.blockArities.Pairwise (· < ·) ∧
      components.length ∉ setting.descriptor.blockArities ∧
      ∃ least most error,
        IsLeast {arity | arity ∈ setting.descriptor.blockArities} least ∧
        IsGreatest {arity | arity ∈ setting.descriptor.blockArities} most ∧
        blockJoin setting components span = .error error ∧
        ReportsArity setting components span least most error := by
  have ascending := Descriptor.pairwise_lt_blockArities resolved
  obtain ⟨some, notAny, notListed⟩ := Descriptor.joins_fixed_of_lacking resolved lacking
  have first := List.head?_eq_some_head some
  have last := List.getLast?_eq_some_getLast some
  have isLeast := Descriptor.isLeast_head? ascending first
  have isGreatest := Descriptor.isGreatest_getLast? ascending last
  have isOther {arity : Nat} (listed : arity ∈ setting.descriptor.blockArities) :
      components.length ≠ arity :=
    fun same => notListed (same ▸ listed)
  have error : blockJoin setting components span = .error (arityError setting components span) := by
    rw [blockJoin, lacking]
  exact ⟨some, notAny, ascending, notListed, _, _, _, isLeast, isGreatest, error,
    reportsArity_arityError first last (isLeast.2 isGreatest.1) (isOther isLeast.1)
      (isOther isGreatest.1)⟩

/-- A builder that joins two or four values. -/
def evenType : TypeDecl where
  span := ⟨0, 1⟩
  attributes := [⟨⟨0, 1⟩, "resultBuilder"⟩]
  kind := .structType
  name := ⟨⟨0, 1⟩, "Pairs"⟩
  generics := []
  members := [
    .function (BuilderCall.operationDecl "buildBlock" [none, none, none, none] false),
    .function (BuilderCall.operationDecl "buildBlock" [none, none] false)]

/-- The fifth of six values is the first one too many. -/
theorem reportsArity_of_lacking_sixValues :
    let setting : Setting := { BuilderCall.versatileSetting with
      descriptor := Descriptor.recordAll { builder := .ofDecl evenType } evenType.functions }
    let components := (List.range 6).map fun index => Span.mk (10 * index) (10 * index + 2)
    Descriptor.resolve evenType = .ok setting.descriptor ∧
      setting.descriptor.blockJoin? components.length = none ∧
      setting.descriptor.blockArities = [2, 4] ∧
      blockJoin setting components ⟨0, 100⟩ =
        .error (.extraArgument (.ofDecl evenType) 6 4 ⟨40, 42⟩) := by
  intro setting components
  have resolved : Descriptor.resolve evenType = .ok setting.descriptor := rfl
  have lacking : setting.descriptor.blockJoin? components.length = none := rfl
  have arities : setting.descriptor.blockArities = [2, 4] := by
    -- the function for the greater number is declared first
    have reordered : setting.descriptor.blockArities.Perm [2, 4] :=
      (List.mergeSort_perm [4, 2] _).trans (List.Perm.swap 2 4 [])
    exact reordered.eq_of_pairwise' ((Descriptor.pairwise_lt_blockArities resolved).imp Nat.le_of_lt)
      (by decide)
  obtain ⟨-, -, -, -, least, most, error, -, isGreatest, failed, reports⟩ :=
    reportsArity_of_lacking resolved components ⟨0, 100⟩ lacking
  rw [arities] at isGreatest
  obtain rfl : most = 4 := by
    have listed : most = 2 ∨ most = 4 := by simpa using isGreatest.1
    have atLeast : 4 ≤ most := isGreatest.2 (show 4 ∈ [2, 4] by decide)
    omega
  exact ⟨resolved, lacking, arities, failed.trans (congrArg _ (reports.extra (by decide)))⟩

end Transform

end ResultBuilder
