import ResultBuilder.Builder.Operation
import ResultBuilder.Proofs.Shape.Order
import ResultBuilder.Proofs.Shape.Substitution

/-!
# Ground shapes

The shapes of a signature have generic parameters in them, which stand for something else in each
call. What is learnt about them comes from the shapes of arguments, and those of which nothing is
learnt become holes, so that no parameter is left in the shape of the result.

* **`Shape.IsGround`**: a shape without generic parameters.
* **`Shape.isGround_substitute`**, **`Bindings.AreGround.bind`**: replacing parameters and learning what
  they stand for.
* **`Shape.IsGround.unify`**, **`Operation.isGround_apply`**: merging shapes and applying an operation.
-/

namespace ResultBuilder

namespace Shape

/-- **A ground shape**: no part of it, at any depth, is a generic parameter. -/
inductive IsGround : Shape → Prop
  | node {shape : Shape} (noParam : ∀ name, shape ≠ .param name)
      (parts : ∀ part ∈ shape.parts, IsGround part) : IsGround shape

theorem isGround_iff {shape : Shape} :
    shape.IsGround ↔ (∀ name, shape ≠ .param name) ∧ ∀ part ∈ shape.parts, part.IsGround :=
  ⟨fun ⟨noParam, parts⟩ => ⟨noParam, parts⟩, fun ⟨noParam, parts⟩ => .node noParam parts⟩

@[simp] theorem isGround_unit : unit.IsGround := .node nofun nofun

@[simp] theorem isGround_hole : hole.IsGround := .node nofun nofun

@[simp] theorem not_isGround_param {name : String} : ¬ (param name).IsGround :=
  fun ⟨noParam, _⟩ => noParam name rfl

@[simp] theorem isGround_named {name : String} {args : List Shape} :
    (named name args).IsGround ↔ ∀ arg ∈ args, arg.IsGround := by
  simp [@isGround_iff (.named name args), parts]

@[simp] theorem isGround_tuple {elements : List Shape} :
    (tuple elements).IsGround ↔ ∀ element ∈ elements, element.IsGround := by
  simp [@isGround_iff (.tuple elements), parts]

@[simp] theorem isGround_optional {wrapped : Shape} :
    (optional wrapped).IsGround ↔ wrapped.IsGround := by
  simp [@isGround_iff (.optional wrapped), parts]

@[simp] theorem isGround_function {params : List Shape} {result : Shape} :
    (function params result).IsGround ↔ (∀ param ∈ params, param.IsGround) ∧ result.IsGround := by
  simp [@isGround_iff (.function params result), parts, or_imp, forall_and]

end Shape

/-! ### What parameters stand for -/

/-- **Ground bindings**: whatever a parameter is bound to is ground. -/
def Bindings.AreGround (bindings : Bindings) : Prop :=
  ∀ name shape, bindings.lookup name = some shape → shape.IsGround

namespace Bindings.AreGround

variable {bindings : Bindings}

theorem nil : AreGround [] := nofun

/-- A binding that is added may be any ground one. -/
theorem insertNew (ground : bindings.AreGround) (name : String) {shape : Shape}
    (isGround : shape.IsGround) : (bindings.insertNew name shape).AreGround := by
  intro other found bound
  rw [lookup_insertNew, Option.or_eq_some_iff] at bound
  rcases bound with bound | ⟨-, bound⟩
  · exact ground other found bound
  · split at bound
    · cases bound
      exact isGround
    · cases bound

/-- Templates that learn ground shapes from ground shapes do so one after the other. -/
theorem bindAll {templates : List Shape}
    (learns : ∀ template ∈ templates, ∀ (actual : Shape) (bindings : Bindings),
      actual.IsGround → bindings.AreGround → (template.bind actual bindings).AreGround)
    {actuals : List Shape} (isGround : ∀ actual ∈ actuals, actual.IsGround)
    (ground : bindings.AreGround) : (Shape.bindAll templates actuals bindings).AreGround := by
  induction templates generalizing actuals bindings with
  | nil => exact ground
  | cons template rest ih =>
      obtain ⟨ofTemplate, ofRest⟩ := List.forall_mem_cons.mp learns
      cases actuals with
      | nil => exact ground
      | cons actual others =>
          obtain ⟨first, later⟩ := List.forall_mem_cons.mp isGround
          exact ih ofRest later (ofTemplate actual bindings first ground)

/-- **What is learnt from a ground shape is ground**, whatever the template is. -/
theorem bind (template : Shape) {actual : Shape} (isGround : actual.IsGround)
    (ground : bindings.AreGround) : (template.bind actual bindings).AreGround := by
  induction template generalizing actual bindings with
  | unit | hole => cases actual <;> exact ground
  | param name =>
      cases actual with
      | hole => exact ground
      | _ =>
          rw [Shape.bind]
          · exact ground.insertNew name isGround
          · intro isHole; cases isHole
  | named name args ih =>
      cases actual with
      | named other others =>
          rw [Shape.bind]
          split
          · exact bindAll (fun arg listed actual _ => ih arg listed) (Shape.isGround_named.mp isGround)
              ground
          · exact ground
      | _ => exact ground
  | tuple elements ih =>
      cases actual with
      | tuple others =>
          rw [Shape.bind]
          split
          · exact bindAll (fun element listed actual _ => ih element listed)
              (Shape.isGround_tuple.mp isGround) ground
          · exact ground
      | _ => exact ground
  | optional wrapped ih =>
      cases actual with
      | hole => exact ground
      | optional inner => exact ih (Shape.isGround_optional.mp isGround) ground
      -- a value that is not optional is compared with what is wrapped
      | _ => exact ih isGround ground
  | function params result ofParams ofResult =>
      cases actual with
      | function others other =>
          obtain ⟨ground₁, ground₂⟩ := Shape.isGround_function.mp isGround
          rw [Shape.bind]
          split
          · exact ofResult ground₂
              (bindAll (fun param listed actual _ => ofParams param listed) ground₁ ground)
          · exact ground
      | _ => exact ground

end Bindings.AreGround

namespace Shape

/-- **Replacing parameters by ground shapes leaves none**, since those that are not bound become
holes. -/
theorem isGround_substitute (template : Shape) {bindings : Bindings} (ground : bindings.AreGround) :
    (template.substitute bindings).IsGround := by
  induction template with
  | unit => exact isGround_unit
  | hole => exact isGround_hole
  | param name =>
      rw [substitute]
      cases bound : bindings.lookup name with
      | none => exact isGround_hole
      | some shape => exact ground name shape bound
  | named name args ih =>
      rw [substitute, substituteAll_eq_map, isGround_named]
      exact List.forall_mem_map.mpr ih
  | tuple elements ih =>
      rw [substitute, substituteAll_eq_map, isGround_tuple]
      exact List.forall_mem_map.mpr ih
  | optional wrapped ih => rwa [substitute, isGround_optional]
  | function params result ofParams ofResult =>
      rw [substitute, substituteAll_eq_map, isGround_function]
      exact ⟨List.forall_mem_map.mpr ofParams, ofResult⟩

/-- **Merging ground shapes** gives a ground shape. -/
theorem IsGround.unify {left right : Shape} (ofLeft : left.IsGround) (ofRight : right.IsGround) :
    (left.unify right).IsGround := by
  induction left using induction_parts generalizing right with
  | node left ih =>
      rcases unify_cases left right with rfl | meets | kept
      · rwa [hole_unify]
      · obtain ⟨noParam, parts⟩ := isGround_iff.mp ofLeft
        refine .node (fun name same => ?_) ?_
        · have head : left.head = .param name := by rw [← meets.head_unify, same, head]
          cases left <;> cases head
          exact noParam name rfl
        · rw [meets.parts_unify]
          intro part listed
          obtain ⟨index, inside, rfl⟩ := List.getElem_of_mem listed
          rw [List.getElem_zipWith]
          exact ih _ (List.getElem_mem _) (parts _ (List.getElem_mem _))
            ((isGround_iff.mp ofRight).2 _ (List.getElem_mem _))
      · rwa [kept]

end Shape

/-! ### Applying operations -/

namespace Operation

variable {operation : Operation} {args : List Shape}

/-- What an operation learns from ground arguments is ground. -/
theorem areGround_bindFrom (index : Nat) {bindings : Bindings}
    (isGround : ∀ arg ∈ args, arg.IsGround) (ground : bindings.AreGround) :
    (operation.bindFrom index args bindings).AreGround := by
  induction args generalizing index bindings with
  | nil => exact ground
  | cons arg rest ih =>
      obtain ⟨first, others⟩ := List.forall_mem_cons.mp isGround
      refine ih (index + 1) others ?_
      cases operation.template? index with
      | none => exact ground
      | some template => exact ground.bind template first

/-- **An operation that is applied to ground shapes gives a ground shape**, whatever parameters its
signature has. -/
theorem isGround_apply (operation : Operation) (isGround : ∀ arg ∈ args, arg.IsGround) :
    (operation.apply args).IsGround :=
  operation.result.isGround_substitute (areGround_bindFrom 0 isGround .nil)

end Operation

end ResultBuilder
