import ResultBuilder.Shape.Basic

/-!
# Binding generic parameters

The shape of a signature is compared with the shapes of actual values to learn what its generic
parameters stand for; afterwards they are replaced by what was learnt. The first thing that is
learnt about a parameter stays.
-/

namespace ResultBuilder

/-- What generic parameters stand for, in the order in which it was learnt. -/
abbrev Bindings := List (String × Shape)

namespace Bindings

/-- Adds a binding unless the parameter has one. -/
def insertNew (bindings : Bindings) (name : String) (shape : Shape) : Bindings :=
  if (bindings.lookup name).isSome then bindings else bindings ++ [(name, shape)]

end Bindings

namespace Shape

mutual

/-- Learns what the parameters of a template stand for from an actual shape. A value may be given
where an optional one is asked for; where the structures differ nothing is learnt. -/
def bind : Shape → Shape → Bindings → Bindings
  | _, .hole, bindings => bindings
  | .param name, actual, bindings => bindings.insertNew name actual
  | .optional template, .optional actual, bindings => bind template actual bindings
  | .optional template, actual, bindings => bind template actual bindings
  | .tuple templates, .tuple actuals, bindings =>
      if templates.length = actuals.length then bindAll templates actuals bindings else bindings
  | .named name templates, .named other actuals, bindings =>
      if name = other ∧ templates.length = actuals.length then
        bindAll templates actuals bindings
      else bindings
  | .function templates template, .function actuals actual, bindings =>
      if templates.length = actuals.length then
        bind template actual (bindAll templates actuals bindings)
      else bindings
  | _, _, bindings => bindings

/-- Learns from shapes one after the other. -/
def bindAll : List Shape → List Shape → Bindings → Bindings
  | template :: templates, actual :: actuals, bindings =>
      bindAll templates actuals (bind template actual bindings)
  | _, _, bindings => bindings

end

mutual

/-- Replaces the parameters of a shape. What is not bound becomes a hole. -/
def substitute (bindings : Bindings) : Shape → Shape
  | .unit => .unit
  | .hole => .hole
  | .param name => (bindings.lookup name).getD .hole
  | .named name args => .named name (substituteAll bindings args)
  | .tuple elements => .tuple (substituteAll bindings elements)
  | .optional wrapped => .optional (substitute bindings wrapped)
  | .function params result =>
      .function (substituteAll bindings params) (substitute bindings result)

/-- Replaces the parameters of shapes. -/
def substituteAll (bindings : Bindings) : List Shape → List Shape
  | [] => []
  | shape :: rest => substitute bindings shape :: substituteAll bindings rest

end

mutual

/-- Merges two shapes of the same value, filling the holes of one from the other. Where they
contradict each other, and within functions, the first one counts. -/
def unify : Shape → Shape → Shape
  | .hole, other => other
  | this, .hole => this
  | .optional left, .optional right => .optional (unify left right)
  | .tuple left, .tuple right =>
      if left.length = right.length then .tuple (unifyAll left right) else .tuple left
  | .named name left, .named other right =>
      if name = other ∧ left.length = right.length then .named name (unifyAll left right)
      else .named name left
  | this, _ => this

/-- Merges shapes in pairs. -/
def unifyAll : List Shape → List Shape → List Shape
  | left :: lefts, right :: rights => unify left right :: unifyAll lefts rights
  | _, _ => []

end

theorem substituteAll_eq_map (bindings : Bindings) (shapes : List Shape) :
    substituteAll bindings shapes = shapes.map (substitute bindings) := by
  induction shapes with
  | nil => rfl
  | cons shape rest ih => simp [substituteAll, ih]

theorem unifyAll_eq_zipWith (left right : List Shape) :
    unifyAll left right = List.zipWith unify left right := by
  induction left generalizing right with
  | nil => cases right <;> rfl
  | cons shape rest ih => cases right <;> simp [unifyAll, ih]

@[simp] theorem unify_hole (shape : Shape) : shape.unify .hole = shape := by
  cases shape <;> rfl

@[simp] theorem hole_unify (shape : Shape) : Shape.hole.unify shape = shape := by
  cases shape <;> rfl

end Shape

end ResultBuilder
