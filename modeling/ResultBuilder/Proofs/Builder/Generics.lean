import ResultBuilder.Proofs.Builder.Eligible
import ResultBuilder.Proofs.Shape.Substitution
import ResultBuilder.Proofs.Syntax.Printing.Type

/-!
# Generic parameters that are used

A function that has a generic parameter its signature does not use is no operation. Whether one is used
is seen in the shapes of the signature, which keep the generic parameters that stand for whole types.
A name that is written as a part of a dotted one, that has type arguments, or that is only part of a
bound is not kept, so that a function which uses a generic parameter just there is passed over.

* **`DeclaredType.Writes`**, **`DeclaredType.Stands`**: a name that is written in a type, and one that
  its shape keeps.
* **`Shape.mentions_ofType_iff`**: what the shape of a type mentions.
* **`Operation.isPassedOver_iff_unwritten_iff`**: which functions are passed over, and when these are the
  ones with a generic parameter that is written nowhere.
-/

namespace ResultBuilder

open Syntax

namespace Syntax.DeclaredType

/-! ### Occurrences of a name -/

/-- **A name is written in a type** as a name or as a part of one with dots, at any depth. -/
inductive Writes (name : String) : DeclaredType → Prop
  | part {span : Span} {args : List DeclaredType} (front back : List String) :
      Writes name (.named span (String.intercalate "." (front ++ name :: back)) args)
  | arg {span : Span} {text : String} {args : List DeclaredType} {arg : DeclaredType}
      (isArg : arg ∈ args) (writes : Writes name arg) : Writes name (.named span text args)
  | element {span : Span} {elements : List DeclaredType} {element : DeclaredType}
      (isElement : element ∈ elements) (writes : Writes name element) :
      Writes name (.tuple span elements)
  | wrapped {span : Span} {wrapped : DeclaredType} (writes : Writes name wrapped) :
      Writes name (.optional span wrapped)
  | param {span : Span} {params : List DeclaredType} {param result : DeclaredType}
      (isParam : param ∈ params) (writes : Writes name param) :
      Writes name (.function span params result)
  | result {span : Span} {params : List DeclaredType} {result : DeclaredType}
      (writes : Writes name result) : Writes name (.function span params result)
  | bound {span : Span} {bound : DeclaredType} (writes : Writes name bound) :
      Writes name (.someOf span bound)

/-- **A name stands for a whole type in a type**: it is written there without dots and without
arguments, and not within a bound. -/
inductive Stands (name : String) : DeclaredType → Prop
  | whole {span : Span} : Stands name (.named span name [])
  | arg {span : Span} {text : String} {args : List DeclaredType} {arg : DeclaredType}
      (isArg : arg ∈ args) (stands : Stands name arg) : Stands name (.named span text args)
  | element {span : Span} {elements : List DeclaredType} {element : DeclaredType}
      (isElement : element ∈ elements) (stands : Stands name element) :
      Stands name (.tuple span elements)
  | wrapped {span : Span} {wrapped : DeclaredType} (stands : Stands name wrapped) :
      Stands name (.optional span wrapped)
  | param {span : Span} {params : List DeclaredType} {param result : DeclaredType}
      (isParam : param ∈ params) (stands : Stands name param) :
      Stands name (.function span params result)
  | result {span : Span} {params : List DeclaredType} {result : DeclaredType}
      (stands : Stands name result) : Stands name (.function span params result)

variable {name : String} {span : Span}

/-- What stands for a whole type is written. -/
theorem Stands.writes {type : DeclaredType} (stands : type.Stands name) : type.Writes name := by
  induction stands with
  | whole => exact .part [] []
  | arg isArg _ writes => exact .arg isArg writes
  | element isElement _ writes => exact .element isElement writes
  | wrapped _ writes => exact .wrapped writes
  | param isParam _ writes => exact .param isParam writes
  | result _ writes => exact .result writes

@[simp] theorem stands_named {text : String} {args : List DeclaredType} :
    (named span text args).Stands name ↔
      text = name ∧ args = [] ∨ ∃ arg ∈ args, arg.Stands name := by
  constructor
  · rintro (_ | ⟨isArg, stands⟩)
    · exact .inl ⟨rfl, rfl⟩
    · exact .inr ⟨_, isArg, stands⟩
  · rintro (⟨rfl, rfl⟩ | ⟨arg, isArg, stands⟩)
    · exact .whole
    · exact .arg isArg stands

@[simp] theorem stands_tuple {elements : List DeclaredType} :
    (tuple span elements).Stands name ↔ ∃ element ∈ elements, element.Stands name := by
  constructor
  · rintro (_ | _ | ⟨isElement, stands⟩)
    exact ⟨_, isElement, stands⟩
  · rintro ⟨element, isElement, stands⟩
    exact .element isElement stands

@[simp] theorem stands_optional {wrapped : DeclaredType} :
    (optional span wrapped).Stands name ↔ wrapped.Stands name :=
  ⟨fun | .wrapped stands => stands, .wrapped⟩

@[simp] theorem stands_function {params : List DeclaredType} {result : DeclaredType} :
    (function span params result).Stands name ↔
      (∃ param ∈ params, param.Stands name) ∨ result.Stands name := by
  constructor
  · rintro (_ | _ | _ | _ | ⟨isParam, stands⟩ | stands)
    · exact .inl ⟨_, isParam, stands⟩
    · exact .inr stands
  · rintro (⟨param, isParam, stands⟩ | stands)
    · exact .param isParam stands
    · exact .result stands

@[simp] theorem not_stands_someOf {bound : DeclaredType} : ¬ (someOf span bound).Stands name :=
  nofun

end Syntax.DeclaredType

/-! ### Shapes -/

namespace Shape

/-- **The shape of a type mentions the generic parameters that stand for whole types** and no others. -/
theorem mentions_ofType_iff {generics : List String} {name : String} (isGeneric : name ∈ generics)
    (type : DeclaredType) : (ofType generics type).mentions name = true ↔ type.Stands name := by
  induction type using DeclaredType.induction with
  | step type ofParts =>
      have ofAll : ∀ types : List DeclaredType,
          (∀ part ∈ types, Node.type part ∈ Node.ofType type) →
          ((∃ shape ∈ ofTypes generics types, shape.mentions name = true) ↔
            ∃ part ∈ types, part.Stands name) := by
        intro types areParts
        simp only [ofTypes_eq_map, List.mem_map, exists_exists_and_eq_and]
        exact exists_congr fun part => and_congr_right fun isPart =>
          ofParts part (areParts part isPart)
      cases type with
      | named span text args =>
          have ofArgs := ofAll args fun _ isArg => List.mem_map_of_mem isArg
          cases args with
          | nil =>
              rw [ofType]
              split
              · simp [mentions]
              · next unknown =>
                  -- a name that is no generic parameter is another one
                  have apart : text ≠ name := by
                    rintro rfl
                    exact unknown (List.contains_iff_mem.mpr isGeneric)
                  simp [apart]
          | cons arg rest => simpa [ofType] using ofArgs
      | tuple span elements =>
          have ofElements := ofAll elements fun _ isElement => List.mem_map_of_mem isElement
          cases elements with
          | nil => simp [ofType, mentions]
          | cons element rest => simpa [ofType] using ofElements
      | optional span wrapped =>
          have ofWrapped := ofParts wrapped (List.mem_singleton_self _)
          simpa [ofType, mentions] using ofWrapped
      | function span params result =>
          have ofParams := ofAll params fun _ isParam =>
            List.mem_append_left _ (List.mem_map_of_mem isParam)
          have ofResult := ofParts result (List.mem_append_right _ (List.mem_singleton_self _))
          rw [ofType, mentions_function, ofParams, ofResult, DeclaredType.stands_function]
      | someOf span bound => simp [ofType]

end Shape

namespace Operation

/-! ### Functions that are passed over -/

variable {function : FunctionDecl} {capability : Capability}

/-- **A function is passed over for a generic parameter** that it is found not to use. -/
def IsPassedOver (function : FunctionDecl) : Prop :=
  ∃ name, candidate function = .misfit (.unusedGeneric name)

/-- The generic parameters are mentioned when all of them stand for whole types. -/
theorem mentionsGenerics_iff :
    function.MentionsGenerics ↔
      ∀ name ∈ function.genericNames, ∃ type ∈ function.signature, type.Stands name :=
  forall₂_congr fun _ isGeneric => exists_congr fun type => and_congr_right fun _ =>
    Shape.mentions_ofType_iff isGeneric type

/-- A function that suits a capability is passed over unless it mentions its generic parameters. -/
theorem isPassedOver_iff (suits : function.Suits capability) :
    IsPassedOver function ↔ ¬ function.MentionsGenerics := by
  rw [IsPassedOver, candidate_of_suits suits]
  cases unused : (ofFunction capability function).unusedGeneric? with
  | none => simp [unusedGeneric?_eq_none_iff.mp unused]
  | some name =>
      have lacks : ¬ function.MentionsGenerics := fun mentions =>
        absurd (unused.symm.trans (unusedGeneric?_eq_none_iff.mpr mentions)) nofun
      simp [lacks]

/-- **Which functions are passed over for a generic parameter.** Of the functions that suit a
capability it is those with a generic parameter that nowhere stands for a whole type. They are the ones
with a generic parameter that is written nowhere, provided that a function which writes all of its
generic parameters somewhere also has each of them stand for a whole type somewhere. -/
theorem isPassedOver_iff_unwritten_iff (suits : function.Suits capability) :
    (IsPassedOver function ↔
      ∃ name ∈ function.genericNames, ∀ type ∈ function.signature, ¬ type.Stands name) ∧
    ((IsPassedOver function ↔
        ∃ name ∈ function.genericNames, ∀ type ∈ function.signature, ¬ type.Writes name) ↔
      ((∀ name ∈ function.genericNames, ∃ type ∈ function.signature, type.Writes name) →
        ∀ name ∈ function.genericNames, ∃ type ∈ function.signature, type.Stands name)) := by
  have lacking : ∀ occurs : DeclaredType → String → Prop,
      (∃ name ∈ function.genericNames, ∀ type ∈ function.signature, ¬ occurs type name) ↔
        ¬ ∀ name ∈ function.genericNames, ∃ type ∈ function.signature, occurs type name := by
    intro occurs
    simp only [not_forall, not_exists, not_and, exists_prop]
  have writes :
      (∀ name ∈ function.genericNames, ∃ type ∈ function.signature, type.Stands name) →
        ∀ name ∈ function.genericNames, ∃ type ∈ function.signature, type.Writes name :=
    fun allStand name isGeneric => (allStand name isGeneric).imp fun _ => And.imp_right (·.writes)
  rw [isPassedOver_iff suits, mentionsGenerics_iff, lacking fun type name => type.Stands name,
    lacking fun type name => type.Writes name]
  refine ⟨Iff.rfl, ?_⟩
  rw [not_iff_not]
  exact ⟨Iff.mpr, fun allStand => ⟨writes, allStand⟩⟩

/-- A function that joins one value of a type, with a generic parameter. -/
def joiningOne (type : DeclaredType) : FunctionDecl where
  span := ⟨26, 74⟩
  attributes := []
  isStatic := true
  name := ⟨⟨38, 48⟩, "buildBlock"⟩
  generics := [⟨⟨49, 50⟩, ⟨⟨49, 50⟩, "T"⟩, none⟩]
  params := [⟨⟨52, 66⟩, [], none, ⟨⟨54, 55⟩, "t"⟩, type, false⟩]
  result := some (.named ⟨71, 74⟩ "Int" [])
  body := none

/-- A type with a name deep within it. -/
def optionalPairs : DeclaredType :=
  .optional ⟨57, 66⟩ (.named ⟨57, 66⟩ "S"
    [.tuple ⟨59, 64⟩ [.named ⟨60, 61⟩ "T" [], .named ⟨62, 63⟩ "T" []]])

/-- A function is not passed over when its generic parameter stands for a type deep within another. -/
theorem not_isPassedOver_optionalPairs :
    (joiningOne optionalPairs).Suits .blockJoin ∧ ¬ IsPassedOver (joiningOne optionalPairs) := by
  have suits : (joiningOne optionalPairs).Suits .blockJoin := by
    decide
  refine ⟨suits, fun passed => ?_⟩
  obtain ⟨name, isGeneric, nowhere⟩ := (isPassedOver_iff_unwritten_iff suits).1.mp passed
  obtain rfl : name = "T" := List.mem_singleton.mp isGeneric
  exact nowhere optionalPairs List.mem_cons_self
    (.wrapped (.arg (List.mem_singleton_self _) (.element List.mem_cons_self .whole)))

/-- A type that is only known by a bound with an argument. -/
def boundByArgument : DeclaredType :=
  .someOf ⟨57, 66⟩ (.named ⟨62, 66⟩ "P" [.named ⟨64, 65⟩ "T" []])

/-- **A function that uses its generic parameter in a bound** is passed over as if it did not. -/
theorem isPassedOver_boundByArgument :
    parse "@resultBuilder struct B \x7b static func buildBlock<T>(_ t: some P<T>) -> Int \x7d" =
        .ok ⟨[.declaration (.type ⟨⟨0, 76⟩, [⟨⟨0, 14⟩, "resultBuilder"⟩], .structType,
          ⟨⟨22, 23⟩, "B"⟩, [], [.function (joiningOne boundByArgument)]⟩)]⟩ ∧
      (joiningOne boundByArgument).Suits .blockJoin ∧
      ¬ (IsPassedOver (joiningOne boundByArgument) ↔
        ∃ name ∈ (joiningOne boundByArgument).genericNames,
          ∀ type ∈ (joiningOne boundByArgument).signature, ¬ type.Writes name) := by
  have cut : tokenize
      "@resultBuilder struct B \x7b static func buildBlock<T>(_ t: some P<T>) -> Int \x7d" =
      .ok [⟨.symbol .atSign, ⟨0, 1⟩, "@", false⟩,
        ⟨.identifier, ⟨1, 14⟩, "resultBuilder", false⟩,
        ⟨.keyword .struct_, ⟨15, 21⟩, "struct", false⟩, ⟨.identifier, ⟨22, 23⟩, "B", false⟩,
        ⟨.symbol .braceOpen, ⟨24, 25⟩, "\x7b", false⟩,
        ⟨.keyword .static_, ⟨26, 32⟩, "static", false⟩,
        ⟨.keyword .func_, ⟨33, 37⟩, "func", false⟩,
        ⟨.identifier, ⟨38, 48⟩, "buildBlock", false⟩, ⟨.symbol .less, ⟨48, 49⟩, "<", false⟩,
        ⟨.identifier, ⟨49, 50⟩, "T", false⟩, ⟨.symbol .greater, ⟨50, 51⟩, ">", false⟩,
        ⟨.symbol .parenOpen, ⟨51, 52⟩, "(", false⟩,
        ⟨.symbol .underscore, ⟨52, 53⟩, "_", false⟩, ⟨.identifier, ⟨54, 55⟩, "t", false⟩,
        ⟨.symbol .colon, ⟨55, 56⟩, ":", false⟩, ⟨.identifier, ⟨57, 61⟩, "some", false⟩,
        ⟨.identifier, ⟨62, 63⟩, "P", false⟩, ⟨.symbol .less, ⟨63, 64⟩, "<", false⟩,
        ⟨.identifier, ⟨64, 65⟩, "T", false⟩, ⟨.symbol .greater, ⟨65, 66⟩, ">", false⟩,
        ⟨.symbol .parenClose, ⟨66, 67⟩, ")", false⟩, ⟨.symbol .arrow, ⟨68, 70⟩, "->", false⟩,
        ⟨.identifier, ⟨71, 74⟩, "Int", false⟩, ⟨.symbol .braceClose, ⟨75, 76⟩, "\x7d", false⟩,
        ⟨.endOfFile, ⟨76, 76⟩, "", false⟩] := by
    decide +kernel
  refine ⟨parse_of_ofTokens cut rfl, by decide, fun agree => ?_⟩
  have passedOver : IsPassedOver (joiningOne boundByArgument) := ⟨"T", by decide⟩
  obtain ⟨name, isGeneric, nowhere⟩ := agree.mp passedOver
  obtain rfl : name = "T" := List.mem_singleton.mp isGeneric
  exact nowhere boundByArgument List.mem_cons_self (.bound (.arg (List.mem_singleton_self _)
    (.part [] [])))

end Operation

end ResultBuilder
