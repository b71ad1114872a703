import ResultBuilder.Shape.Binding

/-!
# Binding undoes substitution

A template in which the parameters are replaced by shapes says, by its structure, what they were
replaced by. Binding the template against the result reads that off again: it learns just what the
parameters stand for, as far as they do not stand for holes, from which nothing can be learnt. What
was learnt before is never given up.

* **`Bindings.andThen`**, **`Bindings.known?`**: one set of bindings after another; what a set of
  bindings tells of a parameter.
* **`Shape.substitute_congr`**, **`Shape.substitute_substitute`**: replacing depends on the parameters
  that occur only, and replacing twice is replacing once.
* **`Shape.lookup_bind_of_eq_some`**: what is bound stays bound.
* **`Shape.lookup_bind_substitute`**: all that is learnt from a template with its parameters replaced.
* **`Shape.bind_recovers_substitution`**: the bindings learnt give the same shape again.
-/

namespace ResultBuilder

/-! ### Sets of bindings -/

namespace Bindings

/-- **One set of bindings after another**: parameters stand for what the first one says, in which the
parameters are replaced as the second one says. -/
def andThen (first second : Bindings) : Bindings :=
  first.map fun binding => (binding.1, binding.2.substitute second)

theorem lookup_andThen (first second : Bindings) (name : String) :
    (first.andThen second).lookup name =
      (first.lookup name).map (Shape.substitute second) := by
  induction first with
  | nil => rfl
  | cons binding rest ih =>
      rw [andThen, List.map_cons, List.lookup_cons, List.lookup_cons]
      by_cases same : name = binding.1
      · simp [same]
      · have apart : (name == binding.1) = false := beq_false_of_ne same
        simpa only [apart, andThen] using ih

/-- What a set of bindings tells of a parameter. A hole tells nothing. -/
def known? (bindings : Bindings) (name : String) : Option Shape :=
  (bindings.lookup name).filter (· ≠ .hole)

/-- A parameter of which nothing is known becomes a hole, whether it is bound to one or not at all. -/
theorem getD_known? (bindings : Bindings) (name : String) :
    (bindings.known? name).getD .hole = (bindings.lookup name).getD .hole := by
  cases found : bindings.lookup name with
  | none => simp [known?, found]
  | some shape =>
      by_cases blank : shape = .hole <;> simp [known?, found, Option.filter, blank]

/-- What is bound to something other than a hole is known. -/
theorem known?_eq_lookup {bindings : Bindings} {name : String}
    (told : bindings.lookup name ≠ some .hole) : bindings.known? name = bindings.lookup name := by
  cases found : bindings.lookup name with
  | none => simp [known?, found]
  | some shape =>
      have filled : shape ≠ .hole := fun blank => told (by rw [found, blank])
      simp [known?, found, Option.filter, filled]

/-- A new binding stands behind those that there are. -/
theorem lookup_insertNew (bindings : Bindings) (name : String) (shape : Shape) (other : String) :
    (bindings.insertNew name shape).lookup other =
      (bindings.lookup other).or (if other = name then some shape else none) := by
  rw [insertNew]
  split
  · next bound =>
      -- the parameter is bound, so that the new binding is not needed at its name either
      by_cases same : other = name
      · obtain ⟨old, found⟩ := Option.isSome_iff_exists.mp bound
        rw [same, found, Option.some_or]
      · rw [if_neg same, Option.or_none]
  · rw [List.lookup_append, List.lookup_cons, List.lookup_nil]
    by_cases same : other = name
    · simp [same]
    · have apart : (other == name) = false := beq_false_of_ne same
      rw [apart, if_neg same]

end Bindings

namespace Shape

/-! ### Parameters that occur -/

section Mentions

variable {name : String}

@[simp] theorem mentions_named {type : String} {args : List Shape} :
    (named type args).mentions name = true ↔ ∃ arg ∈ args, arg.mentions name = true := by
  rw [mentions, anyMentions_eq_any, List.any_eq_true]

@[simp] theorem mentions_tuple {elements : List Shape} :
    (tuple elements).mentions name = true ↔
      ∃ element ∈ elements, element.mentions name = true := by
  rw [mentions, anyMentions_eq_any, List.any_eq_true]

@[simp] theorem mentions_function {params : List Shape} {result : Shape} :
    (function params result).mentions name = true ↔
      (∃ param ∈ params, param.mentions name = true) ∨ result.mentions name = true := by
  rw [mentions, anyMentions_eq_any, Bool.or_eq_true, List.any_eq_true]

end Mentions

/-! ### Replacing -/

/-- **Only the parameters that occur are replaced**: sets of bindings that have the same to say of
them, holes counting as nothing, give the same shape. -/
theorem substitute_congr {template : Shape} {first second : Bindings}
    (same : ∀ name, template.mentions name = true →
      (first.lookup name).getD .hole = (second.lookup name).getD .hole) :
    template.substitute first = template.substitute second := by
  induction template with
  | unit | hole => rfl
  | param name => exact same name (by simp [mentions])
  | named type args ih =>
      simp only [substitute, substituteAll_eq_map, named.injEq, true_and]
      exact List.map_congr_left fun arg listed =>
        ih arg listed fun name occurs => same name (mentions_named.mpr ⟨arg, listed, occurs⟩)
  | tuple elements ih =>
      simp only [substitute, substituteAll_eq_map, tuple.injEq]
      exact List.map_congr_left fun element listed =>
        ih element listed fun name occurs =>
          same name (mentions_tuple.mpr ⟨element, listed, occurs⟩)
  | optional wrapped ih =>
      rw [substitute, substitute, ih same]
  | function params result ofParams ofResult =>
      simp only [substitute, substituteAll_eq_map, function.injEq]
      constructor
      · exact List.map_congr_left fun param listed =>
          ofParams param listed fun name occurs =>
            same name (mentions_function.mpr (.inl ⟨param, listed, occurs⟩))
      · exact ofResult fun name occurs => same name (mentions_function.mpr (.inr occurs))

/-- **Replacing twice is replacing once.** -/
theorem substitute_substitute (template : Shape) (first second : Bindings) :
    (template.substitute first).substitute second =
      template.substitute (first.andThen second) := by
  induction template with
  | unit | hole => rfl
  | param name =>
      rw [substitute, substitute, Bindings.lookup_andThen]
      -- a parameter that is not bound at first is a hole, which stays one
      cases first.lookup name <;> rfl
  | named type args ih =>
      simp only [substitute, substituteAll_eq_map, List.map_map, named.injEq, true_and]
      exact List.map_congr_left ih
  | tuple elements ih =>
      simp only [substitute, substituteAll_eq_map, List.map_map, tuple.injEq]
      exact List.map_congr_left ih
  | optional wrapped ih =>
      rw [substitute, substitute, substitute, ih]
  | function params result ofParams ofResult =>
      simp only [substitute, substituteAll_eq_map, List.map_map, function.injEq]
      exact ⟨List.map_congr_left ofParams, ofResult⟩

/-! ### What is bound stays bound -/

section Bound

variable {name : String} {shape : Shape}

/-- Templates that keep what is bound do so one after the other. -/
theorem lookup_bindAll_of_eq_some {templates : List Shape}
    (keeps : ∀ template ∈ templates, ∀ (actual : Shape) (bindings : Bindings),
      bindings.lookup name = some shape → (template.bind actual bindings).lookup name = some shape)
    (actuals : List Shape) {bindings : Bindings} (bound : bindings.lookup name = some shape) :
    (bindAll templates actuals bindings).lookup name = some shape := by
  induction templates generalizing actuals bindings with
  | nil => exact bound
  | cons template rest ih =>
      obtain ⟨ofTemplate, ofRest⟩ := List.forall_mem_cons.mp keeps
      cases actuals with
      | nil => exact bound
      | cons actual others => exact ih ofRest others (ofTemplate actual bindings bound)

/-- **What is bound stays bound**, to the same shape, whatever is compared. -/
theorem lookup_bind_of_eq_some (template actual : Shape) {bindings : Bindings}
    (bound : bindings.lookup name = some shape) :
    (template.bind actual bindings).lookup name = some shape := by
  induction template generalizing actual bindings with
  | unit | hole => cases actual <;> exact bound
  | param other =>
      cases actual with
      | hole => exact bound
      | _ => rw [bind, Bindings.lookup_insertNew, bound, Option.some_or]; nofun
  | named type args ih =>
      cases actual with
      | named otherType others =>
          rw [bind]
          split
          · exact lookup_bindAll_of_eq_some (fun arg listed actual _ => ih arg listed actual) _ bound
          · exact bound
      | _ => exact bound
  | tuple elements ih =>
      cases actual with
      | tuple others =>
          rw [bind]
          split
          · exact lookup_bindAll_of_eq_some
              (fun element listed actual _ => ih element listed actual) _ bound
          · exact bound
      | _ => exact bound
  | optional wrapped ih =>
      cases actual with
      | hole => exact bound
      | optional inner => exact ih inner bound
      -- a value that is not optional is compared with what is wrapped
      | _ => exact ih _ bound
  | function params result ofParams ofResult =>
      cases actual with
      | function others other =>
          rw [bind]
          split
          · exact ofResult other (lookup_bindAll_of_eq_some
              (fun param listed actual _ => ofParams param listed actual) _ bound)
          · exact bound
      | _ => exact bound

end Bound

/-! ### Learning what was replaced -/

section Learning

variable {assignment : Bindings} {name : String}

/-- Templates that learn what their own parameters stand for learn one after the other what the
parameters of all of them stand for. -/
theorem lookup_bindAll_substituteAll {templates : List Shape}
    (learns : ∀ template ∈ templates, ∀ bindings : Bindings,
      (template.bind (template.substitute assignment) bindings).lookup name =
        (bindings.lookup name).or
          (if template.mentions name then assignment.known? name else none))
    (bindings : Bindings) :
    (bindAll templates (templates.map (substitute assignment)) bindings).lookup name =
      (bindings.lookup name).or
        (if templates.any (mentions name) then assignment.known? name else none) := by
  induction templates generalizing bindings with
  | nil => simp [bindAll]
  | cons template rest ih =>
      obtain ⟨ofTemplate, ofRest⟩ := List.forall_mem_cons.mp learns
      rw [List.map_cons, bindAll, ih ofRest, ofTemplate, Option.or_assoc, List.any_cons]
      by_cases occurs : template.mentions name = true
      · by_cases again : rest.any (mentions name) = true <;> simp [occurs, again]
      · simp [occurs]

/-- **All that is learnt from a template with its parameters replaced**: behind what was bound before,
what the assignment tells of the parameters that occur. -/
theorem lookup_bind_substitute (template : Shape) (assignment bindings : Bindings) (name : String) :
    (template.bind (template.substitute assignment) bindings).lookup name =
      (bindings.lookup name).or
        (if template.mentions name then assignment.known? name else none) := by
  induction template generalizing bindings with
  | unit | hole => simp [substitute, bind, mentions]
  | param other =>
      rw [substitute]
      by_cases same : other = name
      · subst same
        cases found : assignment.lookup other with
        | none => simp [bind, mentions, Bindings.known?, found]
        | some shape =>
            by_cases blank : shape = .hole
            · simp [bind, mentions, Bindings.known?, found, blank, Option.filter]
            · have told : assignment.known? other = some shape := by
                rw [Bindings.known?_eq_lookup (by rw [found]; simpa using blank), found]
              rw [Option.getD_some, bind, Bindings.lookup_insertNew]
              · simp [mentions, told]
              · exact blank
      · have absent : (param other).mentions name = false := by simpa [mentions] using same
        rw [absent, if_neg Bool.false_ne_true, Option.or_none]
        -- whatever is learnt is learnt of the other parameter
        cases actual : (assignment.lookup other).getD .hole with
        | hole => rw [bind]
        | _ => rw [bind, Bindings.lookup_insertNew, if_neg (Ne.symm same), Option.or_none]; nofun
  | named type args ih =>
      rw [substitute, bind, substituteAll_eq_map, if_pos ⟨rfl, (List.length_map _).symm⟩,
        lookup_bindAll_substituteAll ih, mentions, anyMentions_eq_any]
  | tuple elements ih =>
      rw [substitute, bind, substituteAll_eq_map, if_pos (List.length_map _).symm,
        lookup_bindAll_substituteAll ih, mentions, anyMentions_eq_any]
  | optional wrapped ih =>
      rw [substitute, bind, ih, mentions]
  | function params result ofParams ofResult =>
      rw [substitute, bind, substituteAll_eq_map, if_pos (List.length_map _).symm, ofResult,
        lookup_bindAll_substituteAll ofParams, mentions, anyMentions_eq_any, Option.or_assoc]
      by_cases occurs : params.any (mentions name) = true
      · by_cases again : result.mentions name = true <;> simp [occurs, again]
      · simp [occurs]

end Learning

/-- **Binding recovers a substitution.** A template bound against itself with its parameters replaced
gives the same shape again, and tells of every parameter that occurs what it was replaced by unless
that was a hole. No binding that there is changes, whatever is compared. Replacing twice is replacing
once by what the first set of bindings says after the second one. -/
theorem bind_recovers_substitution (template : Shape) :
    (∀ assignment : Bindings,
      template.substitute (template.bind (template.substitute assignment) []) =
          template.substitute assignment ∧
        ∀ name, template.mentions name = true → assignment.lookup name ≠ some .hole →
          (template.bind (template.substitute assignment) []).lookup name =
            assignment.lookup name) ∧
      (∀ (actual : Shape) (bindings : Bindings) (name : String) (shape : Shape),
        bindings.lookup name = some shape →
          (template.bind actual bindings).lookup name = some shape) ∧
      ∀ first second : Bindings,
        (template.substitute first).substitute second =
          template.substitute (first.andThen second) := by
  refine ⟨fun assignment => ?_, fun actual bindings name shape bound =>
    lookup_bind_of_eq_some template actual bound, substitute_substitute template⟩
  have learnt : ∀ name, template.mentions name = true →
      (template.bind (template.substitute assignment) []).lookup name = assignment.known? name := by
    intro name occurs
    rw [lookup_bind_substitute, List.lookup_nil, Option.none_or, if_pos occurs]
  constructor
  · apply substitute_congr
    intro name occurs
    rw [learnt name occurs, Bindings.getD_known?]
  · intro name occurs told
    rw [learnt name occurs, Bindings.known?_eq_lookup told]

/-- A function of a value and possibly a union with it. -/
def sharingTemplate : Shape :=
  .function [.param "T", .optional (.named "E" [.param "T", .param "U"])] (.param "V")

/-- Shapes for its parameters, one of which is not known and one only in part. -/
def sharingBindings : Bindings :=
  [("T", .named "Int" []), ("U", .hole), ("V", .named "List" [.hole])]

/-- A parameter that occurs twice, one that is not known and one that was bound before. -/
theorem bind_recovers_sharingTemplate :
    let actual : Shape := .function [.named "Int" [], .optional (.named "E" [.named "Int" [], .hole])]
      (.named "List" [.hole])
    sharingTemplate.substitute sharingBindings = actual ∧
      sharingTemplate.substitute (sharingTemplate.bind actual []) = actual ∧
      (sharingTemplate.mentions "V" = true ∧ sharingBindings.lookup "V" ≠ some .hole) ∧
      (sharingTemplate.bind actual []).lookup "V" = some (.named "List" [.hole]) ∧
      List.lookup "V" [("V", Shape.unit)] = some .unit ∧
      (sharingTemplate.bind actual [("V", .unit)]).lookup "V" = some .unit := by
  intro actual
  have replaced : sharingTemplate.substitute sharingBindings = actual := rfl
  have occurs : sharingTemplate.mentions "V" = true := by decide
  have told : sharingBindings.lookup "V" ≠ some .hole := by decide
  have bound : List.lookup "V" [("V", Shape.unit)] = some .unit := rfl
  obtain ⟨recovers, keeps, -⟩ := bind_recovers_substitution sharingTemplate
  obtain ⟨again, agrees⟩ := recovers sharingBindings
  rw [replaced] at again agrees
  exact ⟨replaced, again, ⟨occurs, told⟩, agrees "V" occurs told, bound,
    keeps actual _ "V" .unit bound⟩

end Shape

end ResultBuilder
