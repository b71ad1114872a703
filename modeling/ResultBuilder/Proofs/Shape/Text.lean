import ResultBuilder.Proofs.Syntax.Printing.Type
import ResultBuilder.Shape.Basic

/-!
# The texts of shapes

The shape of a declared type is printed with parentheses around the functions that are optional, which
the text of the type itself leaves out. So the text of the shape is read as the type, wherever the
marks in it are; only types that are known by a bound become names that are not read back.

* **`Node.IsNoBound`**: a node that is not a type known by a bound.
* **`Shape.exists_prints_ofType`**: the text of the shape of a type is printed as the type.
* **`Shape.parseType_text_ofType`**: the text is parsed as a type of the same shape, so that shapes
  with one text are equal.
-/

namespace ResultBuilder

open Syntax
open Syntax.DeclaredType (Prints PrintsBy IsDotted bare)

/-- **Not a type that is known by a bound** only. -/
def Syntax.Node.IsNoBound : Node → Prop
  | .type (.someOf _ _) => False
  | _ => True

/-- **A declared type of a parsed source** in which no type is known by a bound only. -/
def Syntax.DeclaredType.IsPlain (type : DeclaredType) : Prop :=
  (∃ source program, parse source = .ok program ∧ (Node.type type).WithinProgram program) ∧
    (Node.type type).Everywhere Node.IsNoBound

/-- **The text of a type does not tell where it is written.** -/
theorem Syntax.DeclaredType.text_bare (type : DeclaredType) : type.bare.text = type.text := by
  induction type using DeclaredType.induction with
  | step type ih =>
      have same {types : List DeclaredType}
          (listed : ∀ part ∈ types, Node.type part ∈ Node.ofType type) :
          DeclaredType.texts (types.map bare) = DeclaredType.texts types := by
        rw [DeclaredType.texts_eq_map, DeclaredType.texts_eq_map, List.map_map]
        exact List.map_congr_left fun part member => ih part (listed part member)
      cases type with
      | named span name args =>
          rw [DeclaredType.bare_named]
          by_cases none : args = []
          · rw [none]
            rfl
          · rw [DeclaredType.text, DeclaredType.text, same fun arg => List.mem_map_of_mem]
            · exact none
            · simpa using none
      | tuple span elements =>
          rw [DeclaredType.bare_tuple, DeclaredType.text, DeclaredType.text,
            same fun element => List.mem_map_of_mem]
      | optional span wrapped => exact congrArg (· ++ "?") (ih _ (List.mem_singleton_self _))
      | function span params result =>
          rw [DeclaredType.bare_function, DeclaredType.text, DeclaredType.text,
            same fun param member => List.mem_append_left _ (List.mem_map_of_mem member),
            ih _ (List.mem_append_right _ (List.mem_singleton_self _))]
      | someOf span bound => exact congrArg ("some " ++ ·) (ih _ (List.mem_singleton_self _))

namespace Shape

variable {generics : List String}

/-! ### Shapes of types -/

theorem ofType_generic {span : Span} {name : String} {args : List DeclaredType} (some : args ≠ []) :
    ofType generics (.named span name args) = .named name (args.map (ofType generics)) := by
  cases args with
  | nil => exact absurd rfl some
  | cons arg rest => exact congrArg (named name) (ofTypes_eq_map generics (arg :: rest))

theorem ofType_tuple {span : Span} {elements : List DeclaredType} (some : elements ≠ []) :
    ofType generics (.tuple span elements) = .tuple (elements.map (ofType generics)) := by
  cases elements with
  | nil => exact absurd rfl some
  | cons element rest => exact congrArg tuple (ofTypes_eq_map generics (element :: rest))

theorem ofType_function (span : Span) (params : List DeclaredType) (result : DeclaredType) :
    ofType generics (.function span params result) =
      .function (params.map (ofType generics)) (ofType generics result) :=
  congrArg (function · _) (ofTypes_eq_map generics params)

/-- **The shape of a type does not depend on where it is written.** -/
theorem ofType_bare (type : DeclaredType) : ofType generics type.bare = ofType generics type := by
  induction type using DeclaredType.induction with
  | step type ih =>
      have same {types : List DeclaredType}
          (listed : ∀ part ∈ types, Node.type part ∈ Node.ofType type) :
          (types.map bare).map (ofType generics) = types.map (ofType generics) := by
        rw [List.map_map]
        exact List.map_congr_left fun part member => ih part (listed part member)
      cases type with
      | named span name args =>
          rw [DeclaredType.bare_named]
          by_cases none : args = []
          · rw [none]
            rfl
          · rw [ofType_generic none, ofType_generic (by simpa using none)]
            exact congrArg _ (same fun arg => List.mem_map_of_mem)
      | tuple span elements =>
          rw [DeclaredType.bare_tuple]
          by_cases none : elements = []
          · rw [none]
            rfl
          · rw [ofType_tuple none, ofType_tuple (by simpa using none)]
            exact congrArg _ (same fun element => List.mem_map_of_mem)
      | optional span wrapped => exact congrArg optional (ih _ (List.mem_singleton_self _))
      | function span params result =>
          rw [DeclaredType.bare_function, ofType_function, ofType_function]
          exact congrArg₂ _ (same fun param member => List.mem_append_left _ (List.mem_map_of_mem member))
            (ih _ (List.mem_append_right _ (List.mem_singleton_self _)))
      | someOf span bound =>
          show named ("some " ++ bound.bare.text) [] = _
          rw [DeclaredType.text_bare]
          rfl

/-! ### Texts -/

theorem text_named_of_ne_nil {name : String} {args : List Shape} (some : args ≠ []) :
    (named name args).text = name ++ "<" ++ String.intercalate ", " (args.map text) ++ ">" := by
  rw [← texts_eq_map]
  cases args with
  | nil => exact absurd rfl some
  | cons => rfl

theorem text_tuple (elements : List Shape) :
    (tuple elements).text = "(" ++ String.intercalate ", " (elements.map text) ++ ")" := by
  rw [← texts_eq_map]
  rfl

theorem text_function (params : List Shape) (result : Shape) :
    (function params result).text =
      "(" ++ String.intercalate ", " (params.map text) ++ ") -> " ++ result.text := by
  rw [← texts_eq_map]
  rfl

/-- The text of the shape of a name does not tell whether it is a generic parameter. -/
theorem text_ofType_name (span : Span) (name : String) :
    (ofType generics (.named span name [])).text = name := by
  show text (if _ then _ else _) = name
  split <;> rfl

theorem text_ofType_generic {span : Span} {name : String} {args : List DeclaredType}
    (some : args ≠ []) :
    (ofType generics (.named span name args)).text =
      name ++ "<" ++ String.intercalate ", " (args.map fun arg => (ofType generics arg).text) ++ ">" := by
  rw [ofType_generic some, text_named_of_ne_nil (by simpa using some), List.map_map]
  rfl

/-- The type without elements has the text of a tuple. -/
theorem text_ofType_tuple (span : Span) (elements : List DeclaredType) :
    (ofType generics (.tuple span elements)).text =
      "(" ++ String.intercalate ", " (elements.map fun type => (ofType generics type).text) ++ ")" := by
  by_cases none : elements = []
  · rw [none]
    rfl
  · rw [ofType_tuple none, text_tuple, List.map_map]
    rfl

theorem text_ofType_function (span : Span) (params : List DeclaredType) (result : DeclaredType) :
    (ofType generics (.function span params result)).text =
      "(" ++ String.intercalate ", " (params.map fun type => (ofType generics type).text) ++ ") -> " ++
        (ofType generics result).text := by
  rw [ofType_function, text_function, List.map_map]
  rfl

/-- Only functions have the shapes of functions. -/
theorem isFunction_ofType {type : DeclaredType} (plain : (Node.type type).Everywhere Node.IsNoBound) :
    (ofType generics type).isFunction = type.endsOpen := by
  cases type with
  | named span name args =>
      cases args with
      | nil =>
          show isFunction (if _ then _ else _) = false
          split <;> rfl
      | cons => rfl
  | tuple span elements => cases elements <;> rfl
  | optional | function => rfl
  | someOf => exact plain.here.elim

/-! ### Reading texts back -/

/-- **The text of the shape of a legible type is printed** as pieces that are read back as the type,
when no part of it is known by a bound only. -/
theorem exists_prints_ofType {type : DeclaredType}
    (legible : (Node.type type).Everywhere Node.IsLegible)
    (plain : (Node.type type).Everywhere Node.IsNoBound) (generics : List String) (gap : Nat) :
    ∃ pieces, Prints gap (ofType generics type).text type.bare pieces := by
  induction type using DeclaredType.induction generalizing gap with
  | step type ih =>
      have part {part : DeclaredType} (member : Node.type part ∈ Node.ofType type) (gap : Nat) :
          ∃ pieces, PrintsBy (fun type => (ofType generics type).text) bare gap part pieces :=
        ih part member (legible.child member) (plain.child member) gap
      cases type with
      | named span name args =>
          obtain ⟨first, parts, isName, notSome, names, rfl⟩ := legible.here
          have dots : IsDotted first parts := ⟨isName, notSome, names⟩
          by_cases none : args = []
          · subst none
            rw [text_ofType_name]
            exact ⟨_, Prints.named dots⟩
          · obtain ⟨pieces, listed⟩ := Lexer.exists_listed
              (fun arg member => part (List.mem_map_of_mem member)) none 0
            rw [DeclaredType.bare_named, text_ofType_generic none]
            exact ⟨_, Prints.generic dots listed⟩
      | tuple span elements =>
          obtain ⟨pieces, enclosed⟩ := Lexer.exists_enclosed
            (fun element member => part (List.mem_map_of_mem member)) gap
          rw [DeclaredType.bare_tuple, text_ofType_tuple]
          exact ⟨pieces, Prints.tuple enclosed legible.here⟩
      | optional span wrapped =>
          have isWrapped : Node.type wrapped ∈ Node.ofType (.optional span wrapped) :=
            List.mem_singleton_self _
          have isFunction : (ofType generics wrapped).isFunction = wrapped.endsOpen :=
            isFunction_ofType (plain.child isWrapped)
          rw [ofType, text]
          split
          · -- the parentheses keep the mark from the result of the function
            obtain ⟨pieces, prints⟩ := part isWrapped 0
            exact ⟨_, Prints.parenthesized prints⟩
          · next closed =>
              obtain ⟨pieces, prints⟩ := part isWrapped gap
              have closed : wrapped.bare.endsOpen = false := by
                rw [DeclaredType.endsOpen_bare, ← isFunction]
                exact Bool.eq_false_iff.mpr closed
              have marked := Prints.optional prints
              rw [DeclaredType.marked_eq_iff.mpr ⟨closed, rfl⟩] at marked
              exact ⟨_, marked⟩
      | function span params result =>
          obtain ⟨pieces, enclosed⟩ := Lexer.exists_enclosed
            (fun param member => part (List.mem_append_left _ (List.mem_map_of_mem member))) gap
          obtain ⟨others, prints⟩ := part (List.mem_append_right _ (List.mem_singleton_self _)) 1
          rw [DeclaredType.bare_function, text_ofType_function]
          exact ⟨_, Prints.function enclosed prints⟩
      | someOf span bound => exact plain.here.elim

/-- A type of a parsed source is read back from the text of its shape. -/
theorem exists_parseType_text_ofType {type : DeclaredType} (plain : type.IsPlain)
    (generics : List String) :
    ∃ again, parseType (ofType generics type).text = .ok again ∧
      ofType generics again = ofType generics type := by
  obtain ⟨⟨source, program, parsed, statement, member, inside⟩, noBound⟩ := plain
  have legible : (Node.type type).Everywhere Node.IsLegible := fun inner deeper =>
    ((Program.isSound_of_parse parsed).1 inner ⟨statement, member, deeper.trans inside⟩).legible
  obtain ⟨pieces, prints⟩ := exists_prints_ofType legible noBound generics 0
  obtain ⟨again, read, same⟩ := parseType_of_prints prints
  exact ⟨again, read, by rw [← ofType_bare, same, ofType_bare]⟩

/-- **The text of a shape tells the shape.** When no part of a declared type of a source is known by a
bound only, the text of its shape is parsed as a declared type of the same shape, whatever names are
generic. So two such types with the same generic names have the same shape when the texts of their
shapes are equal. -/
theorem parseType_text_ofType {type : DeclaredType} (plain : type.IsPlain) (generics : List String) :
    (∃ again, parseType (ofType generics type).text = .ok again ∧
      ofType generics again = ofType generics type) ∧
    ∀ other : DeclaredType, other.IsPlain →
      (ofType generics other).text = (ofType generics type).text →
        ofType generics other = ofType generics type := by
  obtain ⟨again, read, same⟩ := exists_parseType_text_ofType plain generics
  refine ⟨⟨again, read, same⟩, fun other otherPlain texts => ?_⟩
  obtain ⟨another, readOther, sameOther⟩ := exists_parseType_text_ofType otherPlain generics
  rw [texts, read] at readOther
  cases readOther
  rw [← sameOther, same]

/-- A type with two marks on a function type, whose result has a mark as well. -/
def twiceOptional : DeclaredType :=
  .optional ⟨7, 20⟩ (.optional ⟨7, 20⟩ (.function ⟨7, 19⟩ [.named ⟨9, 10⟩ "A" []]
    (.optional ⟨15, 17⟩ (.named ⟨15, 17⟩ "T" []))))

/-- The text of its shape has parentheses that the text of the type has not. -/
theorem parseType_text_ofType_twiceOptional :
    parse "let x: ((A) -> T?)??" = .ok (typedConstant ⟨0, 20⟩ ⟨⟨4, 5⟩, "x"⟩ twiceOptional) ∧
      twiceOptional.text = "(A) -> T???" ∧ (ofType ["T"] twiceOptional).text = "((A) -> T?)??" ∧
      ∃ again, parseType (ofType ["T"] twiceOptional).text = .ok again ∧
        ofType ["T"] again = ofType ["T"] twiceOptional := by
  have cut : tokenize "let x: ((A) -> T?)??" = .ok [⟨.keyword .let_, ⟨0, 3⟩, "let", false⟩,
      ⟨.identifier, ⟨4, 5⟩, "x", false⟩, ⟨.symbol .colon, ⟨5, 6⟩, ":", false⟩,
      ⟨.symbol .parenOpen, ⟨7, 8⟩, "(", false⟩, ⟨.symbol .parenOpen, ⟨8, 9⟩, "(", false⟩,
      ⟨.identifier, ⟨9, 10⟩, "A", false⟩, ⟨.symbol .parenClose, ⟨10, 11⟩, ")", false⟩,
      ⟨.symbol .arrow, ⟨12, 14⟩, "->", false⟩, ⟨.identifier, ⟨15, 16⟩, "T", false⟩,
      ⟨.symbol .attachedQuestion, ⟨16, 17⟩, "?", false⟩,
      ⟨.symbol .parenClose, ⟨17, 18⟩, ")", false⟩,
      ⟨.symbol .attachedQuestion, ⟨18, 19⟩, "?", false⟩,
      ⟨.symbol .attachedQuestion, ⟨19, 20⟩, "?", false⟩, ⟨.endOfFile, ⟨20, 20⟩, "", false⟩] := by
    decide +kernel
  have parsed : parse _ = .ok (typedConstant ⟨0, 20⟩ ⟨⟨4, 5⟩, "x"⟩ twiceOptional) :=
    parse_of_ofTokens cut rfl
  have plain : twiceOptional.IsPlain := by
    refine ⟨⟨_, _, parsed, type_withinProgram _ _ _⟩, ?_⟩
    repeat' first
      | exact trivial
      | exact List.forall_mem_nil _
      | refine List.forall_mem_cons.mpr ⟨?_, ?_⟩
      | refine Node.everywhere_iff.mpr ⟨?_, ?_⟩
  exact ⟨parsed, rfl, rfl, (parseType_text_ofType plain ["T"]).1⟩

end Shape

end ResultBuilder
