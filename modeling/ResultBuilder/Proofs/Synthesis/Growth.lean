import Mathlib.Data.List.Basic
import ResultBuilder.Proofs.Builder.FirstCome
import ResultBuilder.Proofs.Synthesis.Calls
import ResultBuilder.Proofs.Synthesis.Verdict

/-!
# Builders that grow

A builder that is given one more member, wherever it is put, still transforms every body that it
transformed before. Which operation is called may change, because a function that comes earlier or
that joins just the right number of values is preferred; that there is one does not.

* **`TypeDecl.insertMember`**: a type with one more member.
* **`Covers.fallsShort`**: a builder falls short of no block that one with less can join.
* **`exists_built_iff`**, **`result_eq_verbatim_iff`**: what decides about a result.
* **`resolve_insertMember`**: what growing keeps.
-/

namespace ResultBuilder

open Syntax

/-- A type with one more member at a position. -/
def Syntax.TypeDecl.insertMember (decl : TypeDecl) (position : Nat) (member : Declaration) :
    TypeDecl :=
  { decl with members := decl.members.take position ++ member :: decl.members.drop position }

namespace Descriptor

/-! ### More operations -/

/-- The operation that a member declares, as a list of at most one. -/
def operationsOfMember (member : Declaration) : List Operation :=
  match member with
  | .function node => (Operation.ofFunction? node).toList
  | _ => []

/-- The operations of a type are those of its members. -/
theorem operationsOf_eq_flatMap (decl : TypeDecl) :
    operationsOf decl = decl.members.flatMap operationsOfMember := by
  rw [operationsOf, TypeDecl.functions, List.filterMap_filterMap, List.filterMap_eq_flatMap_toList]
  refine congrArg (fun operations => decl.members.flatMap operations) (funext fun member => ?_)
  cases member <;> rfl

/-- The operations of a grown type: those of the new member come in between. -/
theorem operationsOf_insertMember (decl : TypeDecl) (position : Nat) (member : Declaration) :
    operationsOf (decl.insertMember position member) =
      (decl.members.take position).flatMap operationsOfMember ++
        (operationsOfMember member ++ (decl.members.drop position).flatMap operationsOfMember) := by
  rw [operationsOf_eq_flatMap, TypeDecl.insertMember, List.flatMap_append, List.flatMap_cons]

/-- **A grown type covers what it was before.** -/
theorem covers_insertMember (decl : TypeDecl) (position : Nat) (member : Declaration) :
    (offered (decl.insertMember position member)).Covers (offered decl) := by
  refine covers_offered fun operation listed => ?_
  rw [operationsOf_eq_flatMap, ← List.take_append_drop position decl.members,
    List.flatMap_append] at listed
  rw [operationsOf_insertMember]
  rcases List.mem_append.mp listed with before | after
  · exact List.mem_append_left _ before
  · exact List.mem_append_right _ (List.mem_append_right _ after)

/-- **A type that grows at its end extends what it was before.** -/
theorem extends_insertMember {decl : TypeDecl} {position : Nat} (member : Declaration)
    (behind : decl.members.length ≤ position) :
    (offered (decl.insertMember position member)).Extends (offered decl) := by
  have atEnd : operationsOf (decl.insertMember position member) =
      operationsOf decl ++ operationsOfMember member := by
    rw [operationsOf_insertMember, List.take_of_length_le behind, List.drop_of_length_le behind,
      operationsOf_eq_flatMap, List.flatMap_nil, List.append_nil]
  exact extends_offered atEnd

/-! ### What is lacking -/

variable {descriptor small : Descriptor}

/-- What is lacking in a place is lacking in every descriptor that is covered. -/
theorem Covers.recorded?_eq_none (covers : descriptor.Covers small) (place : Place)
    (lacking : descriptor.recorded? place = none) : small.recorded? place = none := by
  refine Option.not_isSome_iff_eq_none.mp fun filled => ?_
  exact Option.not_isSome_iff_eq_none.mpr lacking (covers place filled)

theorem Covers.lacksEither (covers : descriptor.Covers small)
    (lacks : descriptor.LacksEither) : small.LacksEither :=
  lacks.imp (covers.recorded?_eq_none .eitherFirst) (covers.recorded?_eq_none .eitherSecond)

theorem Covers.cannotJoin (covers : descriptor.Covers small) {count : Nat}
    (cannotJoin : descriptor.CannotJoin count) : small.CannotJoin count := by
  rw [← Transform.blockJoin?_eq_none_iff, ← Option.not_isSome_iff_eq_none] at cannotJoin ⊢
  exact mt covers.isSome_blockJoin? cannotJoin

/-- A statement lacks nothing that it did not lack before. -/
theorem Covers.lacks (covers : descriptor.Covers small) {statement : Statement}
    (lacks : descriptor.Lacks statement) : small.Lacks statement := by
  cases statement with
  | conditional node =>
      obtain ⟨_, _, _, otherwise⟩ := node
      cases otherwise with
      | none => exact covers.recorded?_eq_none .optionalWrap lacks
      | some _ => exact covers.lacksEither lacks
  | switch node => exact ⟨lacks.1, covers.lacksEither lacks.2⟩
  | expression _ | doBlock _ _ | returning _ _ _ | directive _ | declaration _ | loop _
  | fallthrough _ | jump _ _ => exact lacks.elim

/-- **A descriptor falls short of no block for which one that it covers has everything.** -/
theorem Covers.fallsShort (covers : descriptor.Covers small) {statements : List Statement}
    (fallsShort : descriptor.FallsShort statements) : small.FallsShort statements :=
  fallsShort.imp
    (fun ⟨statement, listed, lacks⟩ => ⟨statement, listed, covers.lacks lacks⟩) covers.cannotJoin

end Descriptor

namespace Transform

/-! ### What decides about a result -/

variable {setting : Setting} {body : Block}

/-- A body is transformed when its returns do not matter, nothing in it is rejected and the builder
falls short of none of its blocks. -/
theorem exists_built_iff :
    (∃ built, (transform setting body).result = .built built) ↔
      ¬ IsDisabled body ∧ body.rejection? = none ∧
        ¬ Somewhere false setting.descriptor.FallsShort body.statements := by
  simp only [transform_eq_built_iff, exists_and_left]
  refine and_congr_right fun _ => and_congr_right fun unrejected => ?_
  have settles : Settles (block setting body).outcome (ShortSomewhere setting body.statements) :=
    settles_block unrejected
  cases outcome : (block setting body).outcome with
  | ok built =>
      rw [outcome] at settles
      have complete : ¬ ShortSomewhere setting body.statements := settles
      simpa using complete
  | error error =>
      rw [outcome] at settles
      have short : ShortSomewhere setting body.statements := settles.2
      simpa using short

/-- Whether a body is left as it is has nothing to do with the builder. -/
theorem result_eq_verbatim_iff {left : Block} :
    (transform setting body).result = .verbatim left ↔ IsDisabled body ∧ body = left := by
  by_cases disables : IsDisabled body
  · rw [transform_of_isDisabled disables, and_iff_right disables]
    exact ⟨fun same => Result.verbatim.inj same, congrArg Result.verbatim⟩
  · rw [result_of_not_isDisabled disables]
    refine iff_of_false ?_ fun both => disables both.1
    cases (wholeBody setting body).outcome <;> exact Result.noConfusion

/-- **A builder that covers another transforms what the other does.** -/
theorem exists_built_of_covers {descriptor small : Descriptor} (covers : descriptor.Covers small)
    {services : Collaborators} {context : BodyContext} {config : Config}
    (built : ∃ built, (transform ⟨small, services, context, config⟩ body).result = .built built) :
    ∃ built, (transform ⟨descriptor, services, context, config⟩ body).result = .built built := by
  obtain ⟨enables, unrejected, complete⟩ := exists_built_iff.mp built
  refine exists_built_iff.mpr ⟨enables, unrejected, ?_⟩
  rintro ⟨found, nested, short⟩
  exact complete ⟨found, nested, covers.fallsShort short⟩

end Transform

/-- **Growing a builder never breaks a body.** When a builder is given one more member, wherever
among the others, it still is a builder, with every capability and every number of values to join
that it had. Whatever it transformed is still transformed, and whatever it left as it is still is.
A member behind all others changes none of the operations that were recorded. -/
theorem resolve_insertMember {decl : TypeDecl} {descriptor : Descriptor}
    (resolved : Descriptor.resolve decl = .ok descriptor) (position : Nat) (member : Declaration) :
    ∃ grown, Descriptor.resolve (decl.insertMember position member) = .ok grown ∧
      (∀ capability, descriptor.has capability = true → grown.has capability = true) ∧
      (∀ arity ∈ descriptor.blockArities, arity ∈ grown.blockArities) ∧
      (∀ count, (descriptor.blockJoin? count).isSome → (grown.blockJoin? count).isSome) ∧
      (∀ services context config body,
        ((∃ built,
            (transform ⟨descriptor, services, context, config⟩ body).result = .built built) →
          ∃ built, (transform ⟨grown, services, context, config⟩ body).result = .built built) ∧
        ∀ block, (transform ⟨descriptor, services, context, config⟩ body).result = .verbatim block →
          (transform ⟨grown, services, context, config⟩ body).result = .verbatim block) ∧
      (decl.members.length ≤ position → ∀ place operation,
        descriptor.recorded? place = some operation → grown.recorded? place = some operation) := by
  obtain ⟨joins, rfl⟩ := Descriptor.resolve_eq_ok_iff.mp resolved
  have covers := Descriptor.covers_insertMember decl position member
  refine ⟨Descriptor.offered (decl.insertMember position member),
    Descriptor.resolve_eq_ok_iff.mpr ⟨covers.has joins, rfl⟩, fun _ => covers.has,
    fun _ => covers.mem_blockArities, fun _ => covers.isSome_blockJoin?, ?_, ?_⟩
  · intro services context config body
    refine ⟨Transform.exists_built_of_covers covers, fun block left => ?_⟩
    exact Transform.result_eq_verbatim_iff.mpr (Transform.result_eq_verbatim_iff.mp left)
  · exact fun behind => Descriptor.extends_insertMember member behind

open BuilderCall in
theorem resolve_insertMember_joinOfThree :
    Descriptor.resolve versatileType = .ok versatileSetting.descriptor ∧
      ∃ grown,
        Descriptor.resolve (versatileType.insertMember 6
          (.function (operationDecl "buildBlock" [none, none, none] false))) = .ok grown ∧
        grown.has .doWrap = true ∧ 2 ∈ grown.blockArities ∧ (grown.blockJoin? 3).isSome ∧
        (∃ built,
          (transform { versatileSetting with descriptor := grown } mixedBody).result =
            .built built) ∧
        grown.fixedBlock? 2 = versatileSetting.descriptor.fixedBlock? 2 := by
  have resolved : Descriptor.resolve versatileType = .ok versatileSetting.descriptor := rfl
  obtain ⟨grown, grows, capabilities, arities, joins, bodies, recorded⟩ :=
    resolve_insertMember resolved 6
      (.function (operationDecl "buildBlock" [none, none, none] false))
  have kept := recorded (Nat.le_refl 6) (.fixedBlock 2) _ rfl
  exact ⟨resolved, grown, grows, capabilities .doWrap rfl,
    arities 2 (Descriptor.mem_blockArities_iff.mpr rfl), joins 3 rfl,
    (bodies .permissive _ _ mixedBody).1 ⟨_, rfl⟩, kept⟩

end ResultBuilder
