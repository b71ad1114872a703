import ResultBuilder.Builder.Operation

/-!
# Synthesized expressions

What a body is transformed into: calls of builder operations on the body's own expressions. The
conditions and cases of the body are kept and choose between synthesized values.
-/

namespace ResultBuilder

open Syntax

mutual

/-- A synthesized expression. -/
inductive Synthesized where
  /-- An expression of the body. -/
  | leaf (expr : Expr)
  | call (node : BuilderCall)
  /-- One of two values, chosen by the conditions of an `if`. -/
  | conditional (conditions : List Condition) (thenValue elseValue : Synthesized)
  /-- One of several values, chosen by the cases of a `switch`. -/
  | switch (subject : Expr) (arms : List Arm)
  /-- The missing value. -/
  | nil

/-- A call of a builder operation. -/
structure BuilderCall where
  /-- The name of the builder. -/
  builder : String
  /-- The capability that the operation stands for. -/
  capability : Capability
  /-- The name of the operation. -/
  name : String
  /-- The label of the argument. -/
  label : Option String
  /-- The arguments. -/
  args : List Synthesized
  /-- What the call was made for. -/
  origin : Span

/-- A value for a case of a `switch`. -/
structure Arm where
  /-- The label of the case. -/
  label : CaseLabel
  /-- The value. -/
  value : Synthesized

end

mutual

/-- The calls in a synthesized expression, outer ones first, in the order of the source. -/
def Synthesized.calls : Synthesized → List BuilderCall
  | .leaf _ | .nil => []
  | .call ⟨builder, capability, name, label, args, origin⟩ =>
      ⟨builder, capability, name, label, args, origin⟩ :: Synthesized.allCalls args
  | .conditional _ thenValue elseValue => thenValue.calls ++ elseValue.calls
  | .switch _ arms => Arm.allCalls arms

/-- The calls in synthesized expressions. -/
def Synthesized.allCalls : List Synthesized → List BuilderCall
  | [] => []
  | value :: rest => value.calls ++ Synthesized.allCalls rest

/-- The calls in the values for the cases of a `switch`. -/
def Arm.allCalls : List Arm → List BuilderCall
  | [] => []
  | ⟨_, value⟩ :: rest => value.calls ++ Arm.allCalls rest

end

mutual

/-- A synthesized expression as text. -/
def Synthesized.text : Synthesized → String
  | .leaf expr => expr.text
  | .call ⟨builder, _, name, label, args, _⟩ =>
      builder ++ "." ++ name ++ "(" ++
        (match label with
          | none => ""
          | some label => label ++ ": ") ++
        commaSeparated (Synthesized.texts args) ++ ")"
  | .conditional conditions thenValue elseValue =>
      "if " ++ commaSeparated (conditions.map (·.text)) ++ " \x7b " ++ thenValue.text ++
        " \x7d else \x7b " ++ elseValue.text ++ " \x7d"
  | .switch subject arms =>
      "switch " ++ subject.text ++ " \x7b" ++ String.join (Arm.texts arms) ++ " \x7d"
  | .nil => "nil"

/-- The texts of synthesized expressions. -/
def Synthesized.texts : List Synthesized → List String
  | [] => []
  | value :: rest => value.text :: Synthesized.texts rest

/-- The texts of the values for the cases of a `switch`. -/
def Arm.texts : List Arm → List String
  | [] => []
  | ⟨label, value⟩ :: rest => (" " ++ label.text ++ ": " ++ value.text ++ ";") :: Arm.texts rest

end

end ResultBuilder
