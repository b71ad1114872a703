import ResultBuilder.Json
import ResultBuilder.Syntax.DeclaredType

/-!
# Shapes

The shape of a value records what is known of its type: its structure as far as it is declared, and
holes where nothing is known. The shapes of an operation's signature may contain its generic
parameters.
-/

namespace ResultBuilder

open Syntax

/-- What is known of a type. -/
inductive Shape where
  /-- The type without content. -/
  | unit
  /-- A type that is not known. -/
  | hole
  /-- A generic parameter. -/
  | param (name : String)
  | named (name : String) (args : List Shape)
  | tuple (elements : List Shape)
  | optional (wrapped : Shape)
  | function (params : List Shape) (result : Shape)
  deriving Repr, Inhabited

namespace Shape

/-- Induction from the parts of a shape to the shape. -/
@[induction_eliminator]
theorem induction {motive : Shape → Prop} (unit : motive .unit) (hole : motive .hole)
    (param : ∀ name, motive (.param name))
    (named : ∀ name args, (∀ arg ∈ args, motive arg) → motive (.named name args))
    (tuple : ∀ elements, (∀ element ∈ elements, motive element) → motive (.tuple elements))
    (optional : ∀ wrapped, motive wrapped → motive (.optional wrapped))
    (function : ∀ params result, (∀ param ∈ params, motive param) → motive result →
      motive (.function params result))
    (shape : Shape) : motive shape :=
  @Shape.rec motive (fun shapes => ∀ shape ∈ shapes, motive shape) unit hole param named tuple
    optional function nofun (fun _ _ ofShape ofRest => List.forall_mem_cons.mpr ⟨ofShape, ofRest⟩)
    shape

/-! ### Equality -/

mutual

/-- Equality of shapes can be decided. -/
def decideEq : (left right : Shape) → Decidable (left = right)
  | .unit, .unit => isTrue rfl
  | .hole, .hole => isTrue rfl
  | .param left, .param right => decidable_of_iff (left = right) (by simp)
  | .named left args, .named right others =>
      match decEq left right, decideEqAll args others with
      | isTrue same, isTrue sameArgs => isTrue (by rw [same, sameArgs])
      | isFalse different, _ => isFalse (by simp [different])
      | _, isFalse different => isFalse (by simp [different])
  | .tuple left, .tuple right =>
      match decideEqAll left right with
      | isTrue same => isTrue (by rw [same])
      | isFalse different => isFalse (by simp [different])
  | .optional left, .optional right =>
      match decideEq left right with
      | isTrue same => isTrue (by rw [same])
      | isFalse different => isFalse (by simp [different])
  | .function left result, .function right other =>
      match decideEqAll left right, decideEq result other with
      | isTrue same, isTrue sameResult => isTrue (by rw [same, sameResult])
      | isFalse different, _ => isFalse (by simp [different])
      | _, isFalse different => isFalse (by simp [different])
  | .unit, .hole | .unit, .param _ | .unit, .named _ _ | .unit, .tuple _ | .unit, .optional _
  | .unit, .function _ _ | .hole, .unit | .hole, .param _ | .hole, .named _ _ | .hole, .tuple _
  | .hole, .optional _ | .hole, .function _ _ | .param _, .unit | .param _, .hole
  | .param _, .named _ _ | .param _, .tuple _ | .param _, .optional _ | .param _, .function _ _
  | .named _ _, .unit | .named _ _, .hole | .named _ _, .param _ | .named _ _, .tuple _
  | .named _ _, .optional _ | .named _ _, .function _ _ | .tuple _, .unit | .tuple _, .hole
  | .tuple _, .param _ | .tuple _, .named _ _ | .tuple _, .optional _ | .tuple _, .function _ _
  | .optional _, .unit | .optional _, .hole | .optional _, .param _ | .optional _, .named _ _
  | .optional _, .tuple _ | .optional _, .function _ _ | .function _ _, .unit
  | .function _ _, .hole | .function _ _, .param _ | .function _ _, .named _ _
  | .function _ _, .tuple _ | .function _ _, .optional _ => isFalse (by simp)

/-- Equality of lists of shapes can be decided. -/
def decideEqAll : (left right : List Shape) → Decidable (left = right)
  | [], [] => isTrue rfl
  | [], _ :: _ | _ :: _, [] => isFalse (by simp)
  | left :: rest, right :: others =>
      match decideEq left right, decideEqAll rest others with
      | isTrue same, isTrue sameRest => isTrue (by rw [same, sameRest])
      | isFalse different, _ => isFalse (by simp [different])
      | _, isFalse different => isFalse (by simp [different])

end

instance : DecidableEq Shape := decideEq

/-! ### Declared types -/

mutual

/-- The shape of a declared type, in which some names without arguments are generic parameters. A
type that is known by a bound only is a name made of the text of the bound. -/
def ofType (generics : List String) : DeclaredType → Shape
  | .named _ name [] => if generics.contains name then .param name else .named name []
  | .named _ name args => .named name (ofTypes generics args)
  | .tuple _ [] => .unit
  | .tuple _ elements => .tuple (ofTypes generics elements)
  | .optional _ wrapped => .optional (ofType generics wrapped)
  | .function _ params result => .function (ofTypes generics params) (ofType generics result)
  | .someOf _ bound => .named ("some " ++ bound.text) []

/-- The shapes of declared types. -/
def ofTypes (generics : List String) : List DeclaredType → List Shape
  | [] => []
  | type :: rest => ofType generics type :: ofTypes generics rest

end

/-! ### Generic parameters -/

mutual

/-- Whether a generic parameter occurs in a shape. -/
def mentions (name : String) : Shape → Bool
  | .unit | .hole => false
  | .param other => other == name
  | .named _ args => anyMentions name args
  | .tuple elements => anyMentions name elements
  | .optional wrapped => mentions name wrapped
  | .function params result => anyMentions name params || mentions name result

/-- Whether a generic parameter occurs in one of the shapes. -/
def anyMentions (name : String) : List Shape → Bool
  | [] => false
  | shape :: rest => mentions name shape || anyMentions name rest

end

/-! ### Text -/

/-- Whether a shape is that of a function. -/
def isFunction : Shape → Bool
  | .function _ _ => true
  | _ => false

mutual

/-- A shape as text. A function that may be missing stands in parentheses. -/
def text : Shape → String
  | .unit => "()"
  | .hole => "_"
  | .param name => name
  | .named name [] => name
  | .named name args => name ++ "<" ++ String.intercalate ", " (texts args) ++ ">"
  | .tuple elements => "(" ++ String.intercalate ", " (texts elements) ++ ")"
  | .optional wrapped =>
      if wrapped.isFunction then "(" ++ wrapped.text ++ ")?" else wrapped.text ++ "?"
  | .function params result =>
      "(" ++ String.intercalate ", " (texts params) ++ ") -> " ++ result.text

/-- The texts of shapes. -/
def texts : List Shape → List String
  | [] => []
  | shape :: rest => shape.text :: texts rest

end

/-! ### JSON -/

/-- A shape with what it consists of. -/
def tagged (tag : String) (content : Json) : Json :=
  .object [("shape", .string tag), ("of", content)]

mutual

/-- The JSON form of a shape. -/
def toJson : Shape → Json
  | .unit => .object [("shape", .string "unit")]
  | .hole => .object [("shape", .string "hole")]
  | .param name => tagged "param" (.string name)
  | .named name args =>
      tagged "named" (.object [("name", .string name), ("args", .array (toJsons args))])
  | .tuple elements => tagged "tuple" (.array (toJsons elements))
  | .optional wrapped => tagged "optional" wrapped.toJson
  | .function params result =>
      tagged "function" (.object [("params", .array (toJsons params)), ("returns", result.toJson)])

/-- The JSON forms of shapes. -/
def toJsons : List Shape → List Json
  | [] => []
  | shape :: rest => shape.toJson :: toJsons rest

end

theorem ofTypes_eq_map (generics : List String) (types : List DeclaredType) :
    ofTypes generics types = types.map (ofType generics) := by
  induction types with
  | nil => rfl
  | cons type rest ih => simp [ofTypes, ih]

theorem anyMentions_eq_any (name : String) (shapes : List Shape) :
    anyMentions name shapes = shapes.any (mentions name) := by
  induction shapes with
  | nil => rfl
  | cons shape rest ih => simp [anyMentions, ih]

theorem texts_eq_map (shapes : List Shape) : texts shapes = shapes.map text := by
  induction shapes with
  | nil => rfl
  | cons shape rest ih => simp [texts, ih]

end Shape

end ResultBuilder
