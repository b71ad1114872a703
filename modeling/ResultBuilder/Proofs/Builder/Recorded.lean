import ResultBuilder.Builder.Descriptor

/-!
# What a descriptor records

The operations that end up in the descriptor of a builder, and which of them serves a call for a
capability with a number of arguments. A function that joins values takes either a fixed number of
them or, through its only parameter, any number; every other operation takes exactly one value.
Such an operation has a template for each of its arguments, so that it can be applied without ever
passing an argument over.

* **`Capability.Takes`**, **`Operation.misfit?_cases`**: what the parameters of a function have to be like
  for a capability, and what is checked of a function.
* **`Operation.applyEach?`**: applying an operation where every argument has to have a template.
* **`Descriptor.Chooses`**: the operation of a descriptor for a capability and a number of arguments.
* **`Descriptor.Sound`**, **`sound_of_resolve`**: what holds of everything that is recorded.
* **`Descriptor.Chooses.accepts`**, **`Descriptor.Chooses.applyEach?_eq`**: a chosen operation takes its
  arguments and has a template for each.
-/

namespace ResultBuilder

open Syntax

/-! ### What functions take -/

/-- **Parameters for a capability.** Values are joined through parameters without labels, none of which
is variadic unless it is the only one. Everything else takes one parameter that is not variadic and has
the label of the capability. -/
def Capability.Takes (capability : Capability) (params : List Param) : Prop :=
  if capability = .blockJoin then
    (∀ param ∈ params, param.label = none) ∧
      ((∀ param ∈ params, param.isVariadic = false) ∨
        params.length = 1 ∧ ∀ param ∈ params, param.isVariadic = true)
  else
    params.length = 1 ∧ ∀ param ∈ params,
      param.isVariadic = false ∧ param.label.map (·.text) = capability.label

instance (capability : Capability) (params : List Param) : Decidable (capability.Takes params) :=
  inferInstanceAs (Decidable (if capability = .blockJoin then _ else _))

namespace Operation

/-! ### Applying without passing over arguments -/

/-- What the parameters of the operation stand for, given the shapes of arguments from a position
on. There is no answer when an argument has no template. -/
def bindFrom? (operation : Operation) (index : Nat) (args : List Shape) (bindings : Bindings) :
    Option Bindings :=
  match args with
  | [] => some bindings
  | arg :: rest =>
      match operation.template? index with
      | none => none
      | some template => operation.bindFrom? (index + 1) rest (template.bind arg bindings)

/-- The shape of the result for arguments of given shapes, each of which has a template. -/
def applyEach? (operation : Operation) (args : List Shape) : Option Shape :=
  (operation.bindFrom? 0 args []).map fun bindings => operation.result.substitute bindings

/-- Arguments that all have templates bind what they bind anyway. -/
theorem bindFrom?_eq {operation : Operation} {index : Nat} {args : List Shape}
    (templates : ∀ position, index ≤ position → position < index + args.length →
      (operation.template? position).isSome) (bindings : Bindings) :
    operation.bindFrom? index args bindings = some (operation.bindFrom index args bindings) := by
  induction args generalizing index bindings with
  | nil => rfl
  | cons arg rest inductionHypothesis =>
      rw [List.length_cons] at templates
      have ofRest : ∀ position, index + 1 ≤ position → position < index + 1 + rest.length →
          (operation.template? position).isSome :=
        fun position low high => templates position (by omega) (by omega)
      have first := templates index (Nat.le_refl _) (by omega)
      obtain ⟨template, found⟩ := Option.isSome_iff_exists.mp first
      rw [bindFrom?, bindFrom, found]
      exact inductionHypothesis ofRest _

/-- Arguments that all have templates give what applying the operation gives. -/
theorem applyEach?_eq_some_apply {operation : Operation} {args : List Shape}
    (templates : ∀ position < args.length, (operation.template? position).isSome) :
    operation.applyEach? args = some (operation.apply args) := by
  have bound : operation.bindFrom? 0 args [] = some (operation.bindFrom 0 args []) :=
    bindFrom?_eq (fun position _ inside => templates position (by omega)) []
  rw [applyEach?, bound, Option.map_some, apply]

/-! ### Operations that fit -/

/-- **A wrapper** for a capability takes exactly one value. -/
structure Wraps (operation : Operation) (capability : Capability) : Prop where
  /-- It is meant for the capability. -/
  capability_eq : operation.capability = capability
  /-- It does not take any number of values. -/
  not_variadic : operation.isVariadic = false
  /-- It has one parameter. -/
  arity_eq : operation.arity = 1

/-- **A fixed join** takes as many values as it has parameters. -/
structure JoinsFixed (operation : Operation) : Prop where
  /-- It joins values. -/
  capability_eq : operation.capability = .blockJoin
  /-- It does not take any number of values. -/
  not_variadic : operation.isVariadic = false

/-- **A variadic join** takes any number of values through its only parameter. -/
structure JoinsAny (operation : Operation) : Prop where
  /-- It joins values. -/
  capability_eq : operation.capability = .blockJoin
  /-- It takes any number of values. -/
  variadic : operation.isVariadic = true
  /-- It has one parameter. -/
  arity_eq : operation.arity = 1

/-- What an operation has to be like to be of use for its capability. -/
def IsUsable (operation : Operation) : Prop :=
  if operation.capability = .blockJoin then operation.JoinsFixed ∨ operation.JoinsAny
  else operation.Wraps operation.capability

/-- A function is an operation for the capability that its name and labels say, when nothing about
its signature is amiss. -/
theorem ofFunction?_eq_some_iff {function : FunctionDecl} {operation : Operation} :
    ofFunction? function = some operation ↔
      ∃ capability, Capability.ofOperation? function.name.text (labels function) = some capability ∧
        misfit? capability function = none ∧ ofFunction capability function = operation := by
  unfold ofFunction? candidate
  cases Capability.ofOperation? function.name.text (labels function) with
  | none => simp
  | some capability =>
      cases fitting : misfit? capability function with
      | some reason => simp [fitting]
      | none => simp [fitting]

section Checks

variable {capability : Capability} {function : FunctionDecl}

/-- What is checked of the parameters of a function that joins values. -/
theorem takes_blockJoin_iff :
    Capability.blockJoin.Takes function.params ↔
      ¬ (labels function).any (·.isSome) = true ∧
        ¬ (function.params.any (·.isVariadic) && function.params.length != 1) = true := by
  have unlabeled : ¬ (labels function).any (·.isSome) = true ↔
      ∀ param ∈ function.params, param.label = none := by
    simp [labels]
  have fixed : ¬ function.params.any (·.isVariadic) = true ↔
      ∀ param ∈ function.params, param.isVariadic = false := by
    simp
  rw [Capability.Takes, if_pos rfl, unlabeled, ← fixed, Bool.and_eq_true, bne_iff_ne, not_and,
    Decidable.not_not]
  refine and_congr_right fun _ => ⟨?_, fun single => ?_⟩
  · rintro (noneVariadic | ⟨single, -⟩) variadic
    · exact absurd variadic noneVariadic
    · exact single
  · by_cases variadic : function.params.any (·.isVariadic) = true
    · -- the parameter that is variadic is the only one
      obtain ⟨param, isParams⟩ := List.length_eq_one_iff.mp (single variadic)
      exact .inr ⟨single variadic, by simpa [isParams] using variadic⟩
    · exact .inl variadic

/-- What is checked of the parameters of any other function. -/
theorem takes_iff_of_ne_blockJoin (wraps : capability ≠ .blockJoin) :
    capability.Takes function.params ↔
      ¬ (function.params.length != 1 || function.params.any (·.isVariadic)) = true ∧
        ¬ ((labels function).head? != some capability.label) = true := by
  rw [Capability.Takes, if_neg wraps, Bool.or_eq_true, bne_iff_ne, bne_iff_ne, not_or,
    Decidable.not_not, Decidable.not_not, and_assoc]
  refine and_congr_right fun single => ?_
  obtain ⟨param, isParams⟩ := List.length_eq_one_iff.mp single
  simp [labels, isParams]

/-- **The checks of the signature in turn are the conditions on it.** A function that meets them is left
with the check whether all generic parameters are used, and any other one is passed over for another
reason. -/
theorem misfit?_cases :
    (function.isStatic = true ∧ capability.Takes function.params) ∧
        misfit? capability function =
          (ofFunction capability function).unusedGeneric?.map .unusedGeneric ∨
      ¬ (function.isStatic = true ∧ capability.Takes function.params) ∧
        ∃ reason, misfit? capability function = some reason ∧
          ∀ name, reason ≠ .unusedGeneric name := by
  unfold misfit?
  dsimp only
  by_cases isStatic : function.isStatic = true
  case neg =>
    rw [if_pos (by simpa using isStatic)]
    exact .inr ⟨fun suits => isStatic suits.1, _, rfl, nofun⟩
  rw [if_neg (by simpa using isStatic)]
  -- from here on the checks of the parameters go the way of the two descriptions above
  split
  case isTrue joins =>
    rw [joins, takes_blockJoin_iff]
    split
    · next labeled => exact .inr ⟨fun suits => suits.2.1 labeled, _, rfl, nofun⟩
    · next unlabeled =>
        split
        · next mixed => exact .inr ⟨fun suits => suits.2.2 mixed, _, rfl, nofun⟩
        · next notMixed => exact .inl ⟨⟨isStatic, unlabeled, notMixed⟩, rfl⟩
  case isFalse wraps =>
    rw [takes_iff_of_ne_blockJoin wraps]
    split
    · next several => exact .inr ⟨fun suits => suits.2.1 several, _, rfl, nofun⟩
    · next oneParameter =>
        split
        · next unexpected => exact .inr ⟨fun suits => suits.2.2 unexpected, _, rfl, nofun⟩
        · next expected => exact .inl ⟨⟨isStatic, oneParameter, expected⟩, rfl⟩

/-- **A signature that fits is usable**: only a single parameter may be variadic, and what does not
join values has a single parameter that is not. -/
theorem isUsable_of_misfit? (fitting : misfit? capability function = none) :
    (ofFunction capability function).IsUsable := by
  -- the shapes of the parameters are one for each parameter
  have arity : (ofFunction capability function).arity = function.params.length :=
    List.length_map _
  rcases misfit?_cases with ⟨⟨-, takes⟩, -⟩ | ⟨-, reason, misfits, -⟩
  case inr => exact absurd (fitting.symm.trans misfits) nofun
  by_cases joins : capability = .blockJoin
  · subst joins
    obtain ⟨-, notMixed⟩ := takes_blockJoin_iff.mp takes
    rw [IsUsable, if_pos (show (ofFunction .blockJoin function).capability = .blockJoin from rfl)]
    cases variadic : function.params.any (·.isVariadic) with
    | false => exact .inl ⟨rfl, variadic⟩
    | true =>
        have single : function.params.length = 1 := by simpa [variadic] using notMixed
        exact .inr ⟨rfl, variadic, arity.trans single⟩
  · obtain ⟨oneParameter, -⟩ := (takes_iff_of_ne_blockJoin joins).mp takes
    rw [IsUsable, if_neg (show (ofFunction capability function).capability ≠ .blockJoin from joins)]
    simp only [Bool.or_eq_true, bne_iff_ne, ne_eq, not_or, Decidable.not_not,
      Bool.not_eq_true] at oneParameter
    exact ⟨rfl, oneParameter.2, arity.trans oneParameter.1⟩

end Checks

/-- An operation that a function is, is usable. -/
theorem isUsable_of_ofFunction? {function : FunctionDecl} {operation : Operation}
    (found : ofFunction? function = some operation) : operation.IsUsable := by
  obtain ⟨capability, _, fitting, rfl⟩ := ofFunction?_eq_some_iff.mp found
  exact isUsable_of_misfit? fitting

/-! ### Templates -/

/-- An operation that is not variadic has a template for each of its parameters. -/
theorem isSome_template?_of_lt {operation : Operation} {position : Nat}
    (fixed : operation.isVariadic = false) (inside : position < operation.arity) :
    (operation.template? position).isSome := by
  rw [template?, fixed, if_neg Bool.false_ne_true, List.getElem?_eq_getElem inside]
  rfl

/-- A variadic join has its one template for every position. -/
theorem JoinsAny.isSome_template? {operation : Operation} (joins : operation.JoinsAny)
    (position : Nat) : (operation.template? position).isSome := by
  rw [template?, joins.variadic, if_pos rfl]
  have single : operation.params.length = 1 := joins.arity_eq
  obtain ⟨template, params⟩ := List.length_eq_one_iff.mp single
  rw [params]
  rfl

end Operation

namespace Descriptor

/-! ### Recording -/

/-- **What holds of everything that is recorded**: each operation stands in the place of its
capability and takes as many values as that place asks for. -/
structure Sound (descriptor : Descriptor) : Prop where
  /-- The functions for fixed numbers of values. -/
  fixedBlocks : ∀ operation ∈ descriptor.fixedBlocks, operation.JoinsFixed
  /-- The function for any number of values. -/
  variadicBlock : ∀ operation, descriptor.variadicBlock = some operation → operation.JoinsAny
  /-- The wrapper of a value that may be missing. -/
  optionalWrap : ∀ operation, descriptor.optionalWrap = some operation →
    operation.Wraps .optionalWrap
  /-- The wrapper of the first of two alternatives. -/
  eitherFirst : ∀ operation, descriptor.eitherFirst = some operation → operation.Wraps .eitherFirst
  /-- The wrapper of the second of two alternatives. -/
  eitherSecond : ∀ operation, descriptor.eitherSecond = some operation →
    operation.Wraps .eitherSecond
  /-- The wrapper of a `do` block. -/
  doWrap : ∀ operation, descriptor.doWrap = some operation → operation.Wraps .doWrap

/-- Nothing is recorded at first. -/
theorem sound_empty (builder : BuilderRef) : Sound { builder } :=
  ⟨nofun, nofun, nofun, nofun, nofun, nofun⟩

/-- A place that is filled unless it was filled before holds what was there or what is new. -/
theorem forall_orElse {old : Option Operation} {new : Operation} {good : Operation → Prop}
    (ofOld : ∀ operation, old = some operation → good operation) (ofNew : good new) :
    ∀ operation, (old <|> some new) = some operation → good operation := by
  intro operation found
  cases old with
  | some kept => exact ofOld operation found
  | none => exact Option.some.inj found ▸ ofNew

/-- **Recording a usable operation keeps a descriptor sound.** -/
theorem Sound.record {descriptor : Descriptor} {operation : Operation} (sound : descriptor.Sound)
    (usable : operation.IsUsable) : (descriptor.record operation).Sound := by
  unfold Operation.IsUsable at usable
  unfold Descriptor.record
  cases capability : operation.capability with
  | blockJoin =>
      rw [if_pos capability] at usable
      dsimp only
      split
      case isTrue variadic =>
        have joins : operation.JoinsAny := by
          rcases usable with fixed | any
          · exact absurd variadic (by rw [fixed.not_variadic]; exact Bool.false_ne_true)
          · exact any
        exact { sound with variadicBlock := forall_orElse sound.variadicBlock joins }
      case isFalse fixed =>
        split
        · exact sound
        · have joins : operation.JoinsFixed := by
            rcases usable with fixed | any
            · exact fixed
            · exact absurd any.variadic fixed
          refine { sound with fixedBlocks := ?_ }
          intro recorded listed
          rcases List.mem_append.mp listed with old | new
          · exact sound.fixedBlocks recorded old
          · exact List.mem_singleton.mp new ▸ joins
  | optionalWrap =>
      rw [if_neg (by rw [capability]; nofun), capability] at usable
      exact { sound with optionalWrap := forall_orElse sound.optionalWrap usable }
  | eitherFirst =>
      rw [if_neg (by rw [capability]; nofun), capability] at usable
      exact { sound with eitherFirst := forall_orElse sound.eitherFirst usable }
  | eitherSecond =>
      rw [if_neg (by rw [capability]; nofun), capability] at usable
      exact { sound with eitherSecond := forall_orElse sound.eitherSecond usable }
  | doWrap =>
      rw [if_neg (by rw [capability]; nofun), capability] at usable
      exact { sound with doWrap := forall_orElse sound.doWrap usable }

/-- Recording the operations among functions keeps a descriptor sound. -/
theorem Sound.recordAll {descriptor : Descriptor} (sound : descriptor.Sound)
    (functions : List FunctionDecl) : (descriptor.recordAll functions).Sound := by
  induction functions generalizing descriptor with
  | nil => exact sound
  | cons function rest inductionHypothesis =>
      unfold Descriptor.recordAll at inductionHypothesis ⊢
      rw [List.filterMap_cons]
      cases found : Operation.ofFunction? function with
      | none => exact inductionHypothesis sound
      | some operation =>
          exact inductionHypothesis (sound.record (Operation.isUsable_of_ofFunction? found))

/-- **The descriptor of a builder is sound.** -/
theorem sound_of_resolve {decl : TypeDecl} {descriptor : Descriptor}
    (resolved : resolve decl = .ok descriptor) : descriptor.Sound := by
  have recorded := (sound_empty (.ofDecl decl)).recordAll decl.functions
  unfold resolve at resolved
  dsimp only at resolved
  split at resolved
  · rw [Except.ok.injEq] at resolved
    exact resolved ▸ recorded
  · cases resolved

/-! ### Choosing -/

/-- **The operation of a descriptor** for a capability and a number of arguments. Values are joined
by the function for just their number, and by the one for any number only where there is no such
function; every wrapper takes one argument. -/
inductive Chooses (descriptor : Descriptor) : Capability → Nat → Operation → Prop
  | fixedBlock {count : Nat} {operation : Operation}
      (found : descriptor.fixedBlock? count = some operation) :
      Chooses descriptor .blockJoin count operation
  | variadicBlock {count : Nat} {operation : Operation}
      (lacking : descriptor.fixedBlock? count = none)
      (found : descriptor.variadicBlock = some operation) :
      Chooses descriptor .blockJoin count operation
  | optionalWrap {operation : Operation} (found : descriptor.optionalWrap = some operation) :
      Chooses descriptor .optionalWrap 1 operation
  | eitherFirst {operation : Operation} (found : descriptor.eitherFirst = some operation) :
      Chooses descriptor .eitherFirst 1 operation
  | eitherSecond {operation : Operation} (found : descriptor.eitherSecond = some operation) :
      Chooses descriptor .eitherSecond 1 operation
  | doWrap {operation : Operation} (found : descriptor.doWrap = some operation) :
      Chooses descriptor .doWrap 1 operation

/-- What joins a number of values is chosen for them. -/
theorem chooses_of_blockJoin? {descriptor : Descriptor} {count : Nat} {operation : Operation}
    (found : descriptor.blockJoin? count = some operation) :
    descriptor.Chooses .blockJoin count operation := by
  unfold blockJoin? at found
  cases fixed : descriptor.fixedBlock? count with
  | some first =>
      rw [fixed] at found
      have same : first = operation := Option.some.inj found
      exact .fixedBlock (same ▸ fixed)
  | none =>
      rw [fixed] at found
      exact .variadicBlock fixed found

/-- The wrappers of two alternatives are chosen for one value each. -/
theorem chooses_of_either? {descriptor : Descriptor} {operations : Operation × Operation}
    (found : descriptor.either? = some operations) :
    descriptor.Chooses .eitherFirst 1 operations.1 ∧
      descriptor.Chooses .eitherSecond 1 operations.2 := by
  unfold either? at found
  split at found
  · rename_i first second ofFirst ofSecond
    have same : (first, second) = operations := Option.some.inj found
    rw [← same]
    exact ⟨.eitherFirst ofFirst, .eitherSecond ofSecond⟩
  · cases found

namespace Chooses

variable {descriptor : Descriptor} {capability : Capability} {count : Nat} {operation : Operation}

/-- What is chosen is meant for the capability. -/
theorem capability_eq (chosen : descriptor.Chooses capability count operation)
    (sound : descriptor.Sound) : operation.capability = capability := by
  cases chosen with
  | fixedBlock found =>
      exact (sound.fixedBlocks operation (List.mem_of_find?_eq_some found)).capability_eq
  | variadicBlock _ found => exact (sound.variadicBlock operation found).capability_eq
  | optionalWrap found => exact (sound.optionalWrap operation found).capability_eq
  | eitherFirst found => exact (sound.eitherFirst operation found).capability_eq
  | eitherSecond found => exact (sound.eitherSecond operation found).capability_eq
  | doWrap found => exact (sound.doWrap operation found).capability_eq

/-- Wrappers are chosen for one argument only. -/
theorem count_eq_one (chosen : descriptor.Chooses capability count operation)
    (wraps : capability ≠ .blockJoin) : count = 1 := by
  cases chosen with
  | fixedBlock | variadicBlock => exact absurd rfl wraps
  | optionalWrap | eitherFirst | eitherSecond | doWrap => rfl

/-- A wrapper accepts its argument and has a template for it. -/
theorem accepts_of_wraps (wraps : operation.Wraps capability) :
    operation.accepts 1 = true ∧ ∀ position < 1, (operation.template? position).isSome := by
  constructor
  · rw [Operation.accepts, wraps.not_variadic, wraps.arity_eq]
    rfl
  · intro position inside
    exact Operation.isSome_template?_of_lt wraps.not_variadic (wraps.arity_eq ▸ inside)

/-- **A chosen operation accepts its arguments** and has a template for each of them. -/
theorem accepts (chosen : descriptor.Chooses capability count operation)
    (sound : descriptor.Sound) :
    operation.accepts count = true ∧
      ∀ position < count, (operation.template? position).isSome := by
  cases chosen with
  | fixedBlock found =>
      have joins := sound.fixedBlocks operation (List.mem_of_find?_eq_some found)
      have arity : operation.arity = count := by simpa using List.find?_some found
      constructor
      · rw [Operation.accepts, joins.not_variadic, arity, beq_self_eq_true]
        rfl
      · intro position inside
        exact Operation.isSome_template?_of_lt joins.not_variadic (arity ▸ inside)
  | variadicBlock _ found =>
      have joins := sound.variadicBlock operation found
      constructor
      · rw [Operation.accepts, joins.variadic]
        rfl
      · intro position _
        exact joins.isSome_template? position
  | optionalWrap found => exact accepts_of_wraps (sound.optionalWrap operation found)
  | eitherFirst found => exact accepts_of_wraps (sound.eitherFirst operation found)
  | eitherSecond found => exact accepts_of_wraps (sound.eitherSecond operation found)
  | doWrap found => exact accepts_of_wraps (sound.doWrap operation found)

/-- **A chosen operation passes no argument over**: applying it to as many shapes as it is chosen
for finds a template for each. -/
theorem applyEach?_eq (chosen : descriptor.Chooses capability count operation)
    (sound : descriptor.Sound) {shapes : List Shape} (sameLength : shapes.length = count) :
    operation.applyEach? shapes = some (operation.apply shapes) := by
  refine Operation.applyEach?_eq_some_apply ?_
  rw [sameLength]
  exact (chosen.accepts sound).2

end Chooses

end Descriptor

end ResultBuilder
