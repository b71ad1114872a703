import Mathlib.Data.List.Nodup
import ResultBuilder.Proofs.Builder.Cache
import ResultBuilder.Proofs.Builder.FirstCome
import ResultBuilder.Proofs.Builder.Recorded

/-!
# Eligible functions

A builder type offers what its eligible functions offer: static functions of certain names whose
parameters suit what they are meant for and whose generic parameters are all mentioned in their
signature. For each place of a descriptor the first eligible function that belongs there is recorded.
A function that is not eligible is passed over, so that it does not keep a later one from its place.

* **`Syntax.FunctionDecl.Suits`**, **`Syntax.FunctionDecl.Eligible`**: what a function has to be like.
* **`Operation.candidate_of_suits`**, **`Operation.ofFunction?_iff_eligible`**: the checks that are made in
  turn are these conditions, so that the operations are the eligible functions.
* **`Descriptor.Place.Admits`**, **`Descriptor.recorded?_offered_eq`**: which functions belong to a place
  and which of them is recorded there.
* **`Descriptor.resolve_first_eligible`**: what is resolved for a type.
-/

namespace ResultBuilder

open Syntax

/-! ### Conditions -/

/-- The names of the functions that offer a capability. -/
def Capability.functionNames : Capability → List String
  | .blockJoin => ["buildBlock"]
  | .optionalWrap => ["buildIf", "buildOptional"]
  | .eitherFirst | .eitherSecond => ["buildEither"]
  | .doWrap => ["buildDo"]

namespace Syntax.FunctionDecl

/-- The types that a signature is made of. -/
def signature (function : FunctionDecl) : List DeclaredType :=
  function.params.map (·.type) ++ function.result.toList

/-- A function that suits a capability, apart from what it does with its generic parameters. -/
structure Suits (function : FunctionDecl) (capability : Capability) : Prop where
  isStatic : function.isStatic = true
  isNamed : function.name.text ∈ capability.functionNames
  takes : capability.Takes function.params

instance (function : FunctionDecl) (capability : Capability) :
    Decidable (function.Suits capability) :=
  decidable_of_iff
    (function.isStatic = true ∧ function.name.text ∈ capability.functionNames ∧
      capability.Takes function.params)
    ⟨fun ⟨isStatic, isNamed, takes⟩ => ⟨isStatic, isNamed, takes⟩,
      fun ⟨isStatic, isNamed, takes⟩ => ⟨isStatic, isNamed, takes⟩⟩

/-- A function each of whose generic parameters is mentioned in the shapes of its signature. -/
def MentionsGenerics (function : FunctionDecl) : Prop :=
  ∀ name ∈ function.genericNames, ∃ type ∈ function.signature,
    (Shape.ofType function.genericNames type).mentions name = true

instance (function : FunctionDecl) : Decidable function.MentionsGenerics :=
  inferInstanceAs (Decidable (∀ _ ∈ _, _))

/-- **A function that is eligible** to offer a capability. -/
structure Eligible (function : FunctionDecl) (capability : Capability) : Prop where
  suits : function.Suits capability
  mentionsGenerics : function.MentionsGenerics

instance (function : FunctionDecl) (capability : Capability) :
    Decidable (function.Eligible capability) :=
  decidable_of_iff (function.Suits capability ∧ function.MentionsGenerics)
    ⟨fun ⟨suits, mentions⟩ => ⟨suits, mentions⟩, fun ⟨suits, mentions⟩ => ⟨suits, mentions⟩⟩

end Syntax.FunctionDecl

/-! ### The checks -/

/-- A function is meant for a capability when it has one of its names and, where the capability has a
label, just that label. -/
theorem Capability.ofOperation?_eq_some_iff {name : String} {labels : List (Option String)}
    {capability : Capability} :
    ofOperation? name labels = some capability ↔
      name ∈ capability.functionNames ∧
        (capability.label ≠ none → labels = [capability.label]) := by
  unfold ofOperation?
  split
  case h_5 =>
    -- the label tells the two alternatives apart
    split <;> cases capability <;> simp_all [functionNames, label]
  all_goals cases capability <;> simp_all [functionNames, label]

namespace Operation

variable {function : FunctionDecl} {capability : Capability}

/-- A function that suits a capability has the name and the labels for it. -/
theorem suits_iff :
    function.Suits capability ↔
      Capability.ofOperation? function.name.text (labels function) = some capability ∧
        function.isStatic = true ∧ capability.Takes function.params := by
  rw [Capability.ofOperation?_eq_some_iff]
  constructor
  · rintro ⟨isStatic, isNamed, takes⟩
    refine ⟨⟨isNamed, fun labeled => ?_⟩, isStatic, takes⟩
    have wraps : capability ≠ .blockJoin := by
      rintro rfl
      exact labeled rfl
    -- the labels are that of the one parameter, which has the label of the capability
    rw [Capability.Takes, if_neg wraps] at takes
    obtain ⟨param, isParams⟩ := List.length_eq_one_iff.mp takes.1
    have label := (takes.2 param (isParams ▸ List.mem_singleton_self param)).2
    rw [labels, isParams, List.map_singleton, label]
  · rintro ⟨⟨isNamed, -⟩, isStatic, takes⟩
    exact ⟨isStatic, isNamed, takes⟩

/-- A generic parameter occurs in the shapes of an operation when a type of the signature mentions it.
The result that is not declared mentions none. -/
theorem mentions_iff {name : String} :
    ((ofFunction capability function).params.any (·.mentions name) ||
        (ofFunction capability function).result.mentions name) = true ↔
      ∃ type ∈ function.signature,
        (Shape.ofType function.genericNames type).mentions name = true := by
  have ofResult : (ofFunction capability function).result.mentions name = true ↔
      ∃ type ∈ function.result.toList,
        (Shape.ofType function.genericNames type).mentions name = true := by
    cases result : function.result <;> simp [ofFunction, result, Shape.mentions]
  have ofParams : (ofFunction capability function).params.any (·.mentions name) = true ↔
      ∃ type ∈ function.params.map (·.type),
        (Shape.ofType function.genericNames type).mentions name = true := by
    simp only [ofFunction, List.any_map, List.any_eq_true, Function.comp_apply, List.mem_map,
      exists_exists_and_eq_and]
  rw [Bool.or_eq_true, ofParams, ofResult, FunctionDecl.signature]
  simp only [List.mem_append, or_and_right, exists_or]

/-- No generic parameter is unused when all of them are mentioned. -/
theorem unusedGeneric?_eq_none_iff :
    (ofFunction capability function).unusedGeneric? = none ↔ function.MentionsGenerics := by
  rw [unusedGeneric?, List.find?_eq_none]
  refine forall₂_congr fun name _ => ?_
  rw [← Bool.not_or, Bool.not_eq_true', Bool.not_eq_false, mentions_iff]

/-- **What a function that suits a capability is to a builder**: an operation, unless a generic parameter
is not used. -/
theorem candidate_of_suits (suits : function.Suits capability) :
    candidate function =
      match (ofFunction capability function).unusedGeneric? with
      | some name => .misfit (.unusedGeneric name)
      | none => .fits (ofFunction capability function) := by
  obtain ⟨meant, signature⟩ := suits_iff.mp suits
  rw [candidate, meant]
  dsimp only
  rcases misfit?_cases with ⟨-, isLeft⟩ | ⟨unfit, -⟩
  · rw [isLeft]
    cases (ofFunction capability function).unusedGeneric? <;> rfl
  · exact absurd signature unfit

/-- A function that is an operation suits the capability of the operation. -/
theorem suits_of_ofFunction? {operation : Operation} (found : ofFunction? function = some operation) :
    function.Suits operation.capability ∧ ofFunction operation.capability function = operation := by
  obtain ⟨capability, meant, fits, rfl⟩ := ofFunction?_eq_some_iff.mp found
  refine ⟨suits_iff.mpr ⟨meant, ?_⟩, rfl⟩
  rcases misfit?_cases with ⟨signature, -⟩ | ⟨-, reason, misfits, -⟩
  · exact signature
  · exact absurd (fits.symm.trans misfits) nofun

/-- **The eligible functions are the operations.** -/
theorem ofFunction?_iff_eligible {operation : Operation} :
    ofFunction? function = some operation ↔
      function.Eligible operation.capability ∧
        ofFunction operation.capability function = operation := by
  constructor
  · intro found
    obtain ⟨suits, same⟩ := suits_of_ofFunction? found
    -- what suits and is an operation all the same has no generic parameter that is not used
    rw [ofFunction?, candidate_of_suits suits] at found
    cases unused : (ofFunction operation.capability function).unusedGeneric? with
    | none => exact ⟨⟨suits, unusedGeneric?_eq_none_iff.mp unused⟩, same⟩
    | some name => simp [unused] at found
  · rintro ⟨⟨suits, mentions⟩, same⟩
    rw [ofFunction?, candidate_of_suits suits, unusedGeneric?_eq_none_iff.mpr mentions, same]

end Operation

namespace Descriptor

/-! ### Places -/

/-- **The functions that belong to a place**: those that are eligible for what the place provides.
Values of a fixed number are joined by a function with just as many parameters, none of which is
variadic, and any number of values by one with a variadic parameter. -/
def Place.Admits (place : Place) (function : FunctionDecl) : Prop :=
  function.Eligible place.provides ∧
    match place with
    | .fixedBlock count =>
        (∀ param ∈ function.params, param.isVariadic = false) ∧ function.params.length = count
    | .variadicBlock => ∃ param ∈ function.params, param.isVariadic = true
    | .optionalWrap | .eitherFirst | .eitherSecond | .doWrap => True

instance (place : Place) (function : FunctionDecl) : Decidable (place.Admits function) :=
  match place with
  | .fixedBlock _ | .variadicBlock | .optionalWrap | .eitherFirst | .eitherSecond | .doWrap =>
      inferInstanceAs (Decidable (_ ∧ _))

/-- The place of an operation provides its capability. -/
theorem provides_place (operation : Operation) : operation.place.provides = operation.capability := by
  rw [Operation.place]
  cases operation.capability with
  | blockJoin => dsimp only; split <;> rfl
  | optionalWrap | eitherFirst | eitherSecond | doWrap => rfl

/-- The place of a function that joins values depends on its parameters. -/
theorem place_ofFunction_blockJoin (function : FunctionDecl) :
    (Operation.ofFunction .blockJoin function).place =
      if ∃ param ∈ function.params, param.isVariadic = true then .variadicBlock
      else .fixedBlock function.params.length := by
  simp only [Operation.place, Operation.ofFunction, Operation.arity, List.length_map,
    List.any_eq_true]

/-- A function belongs to the place that its operation is meant for. -/
theorem admits_iff_place {place : Place} {function : FunctionDecl} :
    place.Admits function ↔
      function.Eligible place.provides ∧
        (Operation.ofFunction place.provides function).place = place := by
  refine and_congr_right fun _ => ?_
  have fixed : (∀ param ∈ function.params, param.isVariadic = false) ↔
      ¬ ∃ param ∈ function.params, param.isVariadic = true := by
    simp
  cases place with
  | fixedBlock count =>
      rw [Place.provides, place_ofFunction_blockJoin]
      dsimp only
      rw [fixed]
      split
      · next variadic => exact iff_of_false (fun belongs => belongs.1 variadic) (by simp)
      · next none => rw [Place.fixedBlock.injEq, and_iff_right none]
  | variadicBlock =>
      rw [Place.provides, place_ofFunction_blockJoin]
      dsimp only
      split
      · next variadic => exact iff_of_true variadic rfl
      · next none => exact iff_of_false none (by simp)
  | optionalWrap | eitherFirst | eitherSecond | doWrap => exact iff_of_true trivial rfl

/-- A function belongs to the place of the operation that it is. -/
theorem admits_iff_ofFunction? {place : Place} {function : FunctionDecl} :
    place.Admits function ↔
      ∃ operation, Operation.ofFunction? function = some operation ∧ operation.place = place := by
  rw [admits_iff_place]
  constructor
  · rintro ⟨eligible, belongs⟩
    exact ⟨_, Operation.ofFunction?_iff_eligible.mpr ⟨eligible, rfl⟩, belongs⟩
  · rintro ⟨operation, found, rfl⟩
    obtain ⟨eligible, same⟩ := Operation.ofFunction?_iff_eligible.mp found
    rw [provides_place, same]
    exact ⟨eligible, rfl⟩

/-- **First come, first recorded**: the operation in a place is that of the first function that belongs
there. -/
theorem recorded?_offered_eq (decl : TypeDecl) (place : Place) :
    (offered decl).recorded? place =
      (decl.functions.find? (place.Admits ·)).map (Operation.ofFunction place.provides) := by
  have admits : (fun function => (Operation.ofFunction? function).any (·.place = place)) =
      fun function => decide (place.Admits function) := by
    funext function
    rw [Bool.eq_iff_iff, decide_eq_true_iff, admits_iff_ofFunction?, Option.any_eq_true]
    simp only [decide_eq_true_iff]
  rw [recorded?_offered, operationsOf, List.find?_filterMap, admits]
  cases found : decl.functions.find? (place.Admits ·) with
  | none => rfl
  | some function =>
      have belongs : place.Admits function := by simpa using List.find?_some found
      have eligible := (admits_iff_place.mp belongs).1
      exact Operation.ofFunction?_iff_eligible.mpr ⟨eligible, rfl⟩

/-- A type joins values when some function is eligible for that. -/
theorem has_blockJoin_offered_iff (decl : TypeDecl) :
    (offered decl).has .blockJoin = true ↔
      ∃ function ∈ decl.functions, function.Eligible .blockJoin := by
  rw [has_iff]
  constructor
  · rintro ⟨place, joins, filled⟩
    rw [recorded?_offered_eq, Option.isSome_map, List.find?_isSome] at filled
    obtain ⟨function, listed, belongs⟩ := filled
    exact ⟨function, listed, joins ▸ (of_decide_eq_true belongs).1⟩
  · rintro ⟨function, listed, eligible⟩
    let place := (Operation.ofFunction .blockJoin function).place
    have joins : place.provides = .blockJoin := provides_place _
    refine ⟨place, joins, ?_⟩
    rw [recorded?_offered_eq, Option.isSome_map, List.find?_isSome]
    refine ⟨function, listed, decide_eq_true (admits_iff_place.mpr ?_)⟩
    rw [joins]
    exact ⟨eligible, rfl⟩

/-! ### One function for each number of values -/

/-- Recording keeps the numbers of values for which there are functions apart. -/
theorem nodup_arities_record {descriptor : Descriptor} (operation : Operation)
    (apart : (descriptor.fixedBlocks.map (·.arity)).Nodup) :
    ((descriptor.record operation).fixedBlocks.map (·.arity)).Nodup := by
  unfold record
  cases operation.capability with
  | blockJoin =>
      dsimp only
      split
      · exact apart
      · split
        · exact apart
        · next free =>
            -- nothing that is there has the number of the operation
            have fresh : operation.arity ∉ descriptor.fixedBlocks.map (·.arity) := by
              simpa [fixedBlock?] using free
            rw [List.map_append, List.map_singleton]
            exact List.nodup_append_comm.mp (List.nodup_cons.mpr ⟨fresh, apart⟩)
  | optionalWrap | eitherFirst | eitherSecond | doWrap => exact apart

/-- No two functions that are recorded join the same number of values. -/
theorem nodup_arities_offered (decl : TypeDecl) :
    ((offered decl).fixedBlocks.map (·.arity)).Nodup := by
  have keeps : ∀ (operations : List Operation) (descriptor : Descriptor),
      (descriptor.fixedBlocks.map (·.arity)).Nodup →
        ((operations.foldl record descriptor).fixedBlocks.map (·.arity)).Nodup := by
    intro operations
    induction operations with
    | nil => exact fun _ apart => apart
    | cons operation rest inductionHypothesis =>
        exact fun descriptor apart =>
          inductionHypothesis _ (nodup_arities_record operation apart)
  exact keeps _ _ List.nodup_nil

/-- A function for a fixed number of values stands in the place for that number. -/
theorem fixedBlock?_eq_of_mem {descriptor : Descriptor} {operation : Operation}
    (apart : (descriptor.fixedBlocks.map (·.arity)).Nodup)
    (listed : operation ∈ descriptor.fixedBlocks) :
    descriptor.fixedBlock? operation.arity = some operation := by
  have filled : (descriptor.fixedBlock? operation.arity).isSome :=
    List.find?_isSome.mpr ⟨operation, listed, beq_self_eq_true _⟩
  obtain ⟨first, found⟩ := Option.isSome_iff_exists.mp filled
  have sameArity : first.arity = operation.arity := by simpa using List.find?_some found
  have same : first = operation :=
    List.inj_on_of_nodup_map apart (List.mem_of_find?_eq_some found) listed sameArity
  exact same ▸ found

/-! ### Resolution -/

/-- **The first eligible functions are recorded and nothing else.** A type is refused just when none of
its functions is eligible to join values. Any other type has in each place the operation of the first
function that belongs there, and its functions for fixed numbers of values are what stands in the
places for these numbers, one for each. -/
theorem resolve_first_eligible (decl : TypeDecl) :
    (∀ error, resolve decl = .error error ↔
      error = ⟨.ofDecl decl⟩ ∧ ∀ function ∈ decl.functions, ¬ function.Eligible .blockJoin) ∧
    ∀ descriptor, resolve decl = .ok descriptor →
      descriptor.builder = .ofDecl decl ∧
      (∀ place, descriptor.recorded? place =
        (decl.functions.find? (place.Admits ·)).map (Operation.ofFunction place.provides)) ∧
      (∀ operation ∈ descriptor.fixedBlocks,
        descriptor.recorded? (.fixedBlock operation.arity) = some operation) ∧
      (descriptor.fixedBlocks.map (·.arity)).Nodup := by
  have builder : (offered decl).builder = .ofDecl decl := builder_recordAll _ _
  constructor
  · intro error
    have lacks : (offered decl).has .blockJoin = false ↔
        ∀ function ∈ decl.functions, ¬ function.Eligible .blockJoin := by
      rw [← Bool.not_eq_true, has_blockJoin_offered_iff]
      simp only [not_exists, not_and]
    rw [← lacks, resolve, ← offered]
    cases (offered decl).has .blockJoin with
    | true => simp
    | false => simp [builder, eq_comm]
  · intro descriptor resolved
    obtain ⟨-, rfl⟩ := resolve_eq_ok_iff.mp resolved
    have apart := nodup_arities_offered decl
    exact ⟨builder, recorded?_offered_eq decl, fun _ listed => fixedBlock?_eq_of_mem apart listed,
      apart⟩

/-- A static function that takes one value of a type and returns it. -/
def returning (name type : String) (span : Span) : FunctionDecl where
  span
  attributes := []
  isStatic := true
  name := ⟨span, name⟩
  generics := []
  params := [⟨span, [], none, ⟨span, "value"⟩, .named span type [], false⟩]
  result := some (.named span type [])
  body := none

/-- A type whose first two functions to join a value are not eligible: one belongs to the values of the
type and the other does not use its generic parameter. -/
def overloadedType : TypeDecl where
  span := ⟨0, 90⟩
  attributes := [⟨⟨0, 14⟩, "resultBuilder"⟩]
  kind := .structType
  name := ⟨⟨22, 23⟩, "B"⟩
  generics := []
  members :=
    [.function { returning "buildBlock" "Bool" ⟨30, 40⟩ with isStatic := false },
      .function { returning "buildBlock" "Float" ⟨40, 50⟩ with
        generics := [⟨⟨40, 50⟩, ⟨⟨40, 50⟩, "T"⟩, none⟩] },
      .function (returning "buildBlock" "Int" ⟨50, 60⟩),
      .function (returning "buildOptional" "Int" ⟨60, 70⟩),
      .function (returning "buildIf" "String" ⟨70, 80⟩),
      .function (returning "buildBlock" "String" ⟨80, 90⟩)]

/-- The functions that are not eligible do not keep later ones from their places, and the first of those
that are eligible is recorded. -/
theorem resolve_overloadedType :
    resolve overloadedType = .ok (offered overloadedType) ∧
      (offered overloadedType).recorded? (.fixedBlock 1) =
        some (.ofFunction .blockJoin (returning "buildBlock" "Int" ⟨50, 60⟩)) ∧
      (offered overloadedType).recorded? .optionalWrap =
        some (.ofFunction .optionalWrap (returning "buildOptional" "Int" ⟨60, 70⟩)) := by
  have resolved : resolve overloadedType = .ok (offered overloadedType) :=
    resolve_eq_ok_iff.mpr ⟨by decide, rfl⟩
  obtain ⟨-, first, -, -⟩ := (resolve_first_eligible overloadedType).2 _ resolved
  refine ⟨resolved, ?_, ?_⟩
  · rw [first]
    decide
  · rw [first]
    decide

end Descriptor

end ResultBuilder
