import Mathlib.Logic.Function.Iterate
import ResultBuilder.Proofs.Syntax.Printing.Cursors
import ResultBuilder.Proofs.Syntax.Reading.Statement

/-!
# Types that are printed and read back

A type is printed without the parentheses around what a mark makes optional, so that a mark after a
function type or a type known by a bound is read as one on what stands last in it.

Main statement: `parseType_text_iff`.
-/

namespace ResultBuilder.Syntax

open Lexer (Piece Lexeme render Lexes Loose Printed Listed Enclosed endsOperand)
open Cursor (headKind)

/-! ### Types without their places -/

namespace DeclaredType

mutual

/-- A type written nowhere, with another way to make types optional. -/
def rebuild (mark : DeclaredType → DeclaredType) : DeclaredType → DeclaredType
  | .named _ name args => .named (.point 0) name (rebuilds mark args)
  | .tuple _ elements => .tuple (.point 0) (rebuilds mark elements)
  | .optional _ wrapped => mark (wrapped.rebuild mark)
  | .function _ params result => .function (.point 0) (rebuilds mark params) (result.rebuild mark)
  | .someOf _ bound => .someOf (.point 0) (bound.rebuild mark)

/-- Types written nowhere, with another way to make types optional. -/
def rebuilds (mark : DeclaredType → DeclaredType) : List DeclaredType → List DeclaredType
  | [] => []
  | type :: rest => type.rebuild mark :: rebuilds mark rest

end

theorem rebuilds_eq_map (mark : DeclaredType → DeclaredType) (types : List DeclaredType) :
    rebuilds mark types = types.map (·.rebuild mark) := by
  induction types with
  | nil => rfl
  | cons type rest ih => rw [rebuilds, ih, List.map_cons]

theorem rebuild_named (mark : DeclaredType → DeclaredType) (span : Span) (name : String)
    (args : List DeclaredType) : (named span name args).rebuild mark =
      .named (.point 0) name (args.map (·.rebuild mark)) :=
  congrArg _ (rebuilds_eq_map mark args)

theorem rebuild_tuple (mark : DeclaredType → DeclaredType) (span : Span)
    (elements : List DeclaredType) : (tuple span elements).rebuild mark =
      .tuple (.point 0) (elements.map (·.rebuild mark)) :=
  congrArg _ (rebuilds_eq_map mark elements)

theorem rebuild_function (mark : DeclaredType → DeclaredType) (span : Span)
    (params : List DeclaredType) (result : DeclaredType) : (function span params result).rebuild mark =
      .function (.point 0) (params.map (·.rebuild mark)) (result.rebuild mark) :=
  congrArg (function _ · _) (rebuilds_eq_map mark params)

/-- **A type without its places.** -/
def bare : DeclaredType → DeclaredType :=
  rebuild (.optional (.point 0))

theorem bare_named (span : Span) (name : String) (args : List DeclaredType) :
    (named span name args).bare = .named (.point 0) name (args.map bare) :=
  rebuild_named _ span name args

theorem bare_tuple (span : Span) (elements : List DeclaredType) :
    (tuple span elements).bare = .tuple (.point 0) (elements.map bare) :=
  rebuild_tuple _ span elements

theorem bare_function (span : Span) (params : List DeclaredType) (result : DeclaredType) :
    (function span params result).bare = .function (.point 0) (params.map bare) result.bare :=
  rebuild_function _ span params result

/-- Whether a mark after the text of a type is one on its last part alone. -/
def endsOpen : DeclaredType → Bool
  | .function _ _ _ | .someOf _ _ => true
  | .named _ _ _ | .tuple _ _ | .optional _ _ => false

/-- A type with a mark after its text. -/
def marked : DeclaredType → DeclaredType
  | .function span params result => .function span params result.marked
  | .someOf span bound => .someOf span bound.marked
  | type => .optional (.point 0) type

/-- **What the text of a type is read as**, without its places. -/
def reread : DeclaredType → DeclaredType :=
  rebuild marked

theorem marked_eq_iff {type wrapped : DeclaredType} :
    type.marked = .optional (.point 0) wrapped ↔ type.endsOpen = false ∧ type = wrapped := by
  cases type <;> simp [marked, endsOpen]

theorem endsOpen_bare (type : DeclaredType) : type.bare.endsOpen = type.endsOpen := by
  cases type <;> rfl

end DeclaredType

/-- **Marks apart** from what they make optional: no mark is on a type that ends open. -/
def Node.MarksApart : Node → Prop
  | .type (.optional _ wrapped) => wrapped.endsOpen = false
  | _ => True

namespace DeclaredType

/-- Induction from the parts of a type to the type. -/
theorem induction {P : DeclaredType → Prop}
    (step : ∀ type, (∀ part, Node.type part ∈ Node.ofType type → P part) → P type)
    (type : DeclaredType) : P type := by
  have all := @Node.induction (fun node => ∀ type, node = .type type → P type)
    (fun node ih type same => step type fun part member => ih _ (same ▸ member) part rfl)
  exact all _ type rfl

/-- The parts of a type are types. -/
theorem exists_of_mem_ofType {type : DeclaredType} {node : Node} (member : node ∈ Node.ofType type) :
    ∃ part, node = .type part := by
  cases type <;> simp only [Node.ofType, List.mem_append, List.mem_map, List.mem_singleton] at member
  case named | tuple =>
    obtain ⟨part, -, rfl⟩ := member
    exact ⟨part, rfl⟩
  case optional | someOf => exact ⟨_, member⟩
  case function =>
    rcases member with ⟨part, -, rfl⟩ | rfl
    · exact ⟨part, rfl⟩
    · exact ⟨_, rfl⟩

/-- **The text of a type is read as the type** when its marks are apart everywhere. -/
theorem reread_eq_bare_iff (type : DeclaredType) :
    type.reread = type.bare ↔ (Node.type type).Everywhere Node.MarksApart := by
  induction type using DeclaredType.induction with
  | step type ih =>
      have parts : (∀ child ∈ (Node.type type).children, child.Everywhere Node.MarksApart) ↔
          ∀ part, Node.type part ∈ Node.ofType type → part.reread = part.bare := by
        constructor
        · exact fun below part member => (ih part member).mpr (below _ member)
        · intro below child member
          obtain ⟨part, rfl⟩ := exists_of_mem_ofType member
          exact (ih part member).mp (below part member)
      rw [Node.everywhere_iff, parts]
      cases type with
      | named span name args =>
          simp [reread, bare, rebuild, rebuilds_eq_map, Node.ofType, Node.MarksApart]
      | tuple span elements =>
          simp [reread, bare, rebuild, rebuilds_eq_map, Node.ofType, Node.MarksApart]
      | optional span wrapped =>
          show wrapped.reread.marked = .optional (.point 0) wrapped.bare ↔ wrapped.endsOpen = false ∧
            ∀ part, Node.type part ∈ [Node.type wrapped] → part.reread = part.bare
          rw [marked_eq_iff]
          constructor
          · rintro ⟨closed, same⟩
            rw [same, endsOpen_bare] at closed
            exact ⟨closed, by simpa using same⟩
          · rintro ⟨closed, same⟩
            have same := same wrapped (List.mem_singleton_self _)
            exact ⟨by rw [same, endsOpen_bare, closed], same⟩
      | function span params result =>
          simp [reread, bare, rebuild, rebuilds_eq_map, Node.ofType, Node.MarksApart, or_imp,
            forall_and]
      | someOf span bound =>
          simp [reread, bare, rebuild, Node.ofType, Node.MarksApart]

end DeclaredType

/-! ### Names with points -/

/-- The pieces of names with a point before each. -/
def dotted (parts : List String) : List Piece :=
  parts.flatMap fun part => [.sign 0 .dot, .word 0 part]

theorem length_dotted (parts : List String) : (dotted parts).length = 2 * parts.length := by
  induction parts with
  | nil => rfl
  | cons part parts ih =>
      show (dotted parts).length + 2 = 2 * (parts.length + 1)
      omega

theorem toList_intercalate_point (first : String) (parts : List String) :
    (String.intercalate "." (first :: parts)).toList = first.toList ++ render (dotted parts) := by
  induction parts generalizing first with
  | nil => simp [dotted]
  | cons part parts ih =>
      rw [String.intercalate_cons_of_ne_nil (List.cons_ne_nil _ _), String.toList_append, ih]
      simp [dotted, Piece.sign, Piece.word, Piece.spaced, Symbol.spelling]

/-- Names with points between them are cut as they are printed. -/
theorem lexes_dotted {afterOperand : Bool} {gap : Nat} {first : String} {parts : List String}
    {pieces : List Piece} {following : List Char} (isName : IsName first)
    (names : ∀ part ∈ parts, IsName part) (loose : Loose (render pieces ++ following)) :
    Lexes afterOperand (.word gap first :: (dotted parts ++ pieces)) following ↔
      Lexes true pieces following := by
  induction parts generalizing afterOperand gap first with
  | nil => exact Lexer.lexes_word isName loose.word
  | cons part parts ih =>
      obtain ⟨named, others⟩ := List.forall_mem_cons.mp names
      show Lexes afterOperand (.word gap first :: .sign 0 .dot :: .word 0 part ::
        (dotted parts ++ pieces)) following ↔ _
      have sign := @Lexer.lexes_sign true 0 (.word 0 part :: (dotted parts ++ pieces)) following .dot
        nofun rfl (Lexer.apart_word named)
      exact (Lexer.lexes_word isName (Lexer.loose_point named).word).trans
        (sign.trans (ih named others))

theorem dottedNames_of_head {tokens : List Token}
    (stops : ∀ token ∈ tokens.head?, token.kind ≠ .symbol .dot) : Parser.dottedNames tokens = [] := by
  unfold Parser.dottedNames
  split
  · next dot name rest =>
      rw [if_neg]
      simp [stops dot rfl]
  · rfl

theorem endsOperand_dotted {parts : List String} (names : ∀ part ∈ parts, IsName part) :
    endsOperand true (dotted parts) = true := by
  induction parts with
  | nil => rfl
  | cons part parts ih =>
      obtain ⟨named, others⟩ := List.forall_mem_cons.mp names
      show endsOperand (Lexer.wordKind part).endsOperand (dotted parts) = true
      rw [Lexer.wordKind_of_isWord named]
      exact ih others

theorem noColon_dotted {parts : List String} (names : ∀ part ∈ parts, IsName part) :
    ∀ piece ∈ dotted parts, piece.lexeme.kind ≠ .symbol .colon := by
  intro piece member
  obtain ⟨part, listed, member⟩ := List.mem_flatMap.mp member
  simp only [List.mem_cons, List.not_mem_nil, or_false] at member
  rcases member with rfl | rfl
  · rintro ⟨⟩
  · show Lexer.wordKind part ≠ _
    rw [Lexer.wordKind_of_isWord (names part listed)]
    rintro ⟨⟩

/-- The names with points before them that come next are read. -/
theorem dottedNames_of_sees {c : Cursor} {parts : List String} {more : List Piece}
    (names : ∀ part ∈ parts, IsName part) (sees : c.Sees (dotted parts ++ more))
    (stops : headKind more ≠ .symbol .dot) :
    (Parser.dottedNames c.rest).map (·.text) = parts ∧
      (c.skip (2 * (Parser.dottedNames c.rest).length)).Sees more := by
  have read : (Parser.dottedNames c.rest).map (·.text) = parts := by
    rw [sees.rest]
    clear sees
    generalize c.lastEnd = offset
    induction parts generalizing offset with
    | nil =>
        rw [dottedNames_of_head]
        · rfl
        · cases more <;> rintro token ⟨⟩
          · exact nofun
          · exact stops
    | cons part parts ih =>
        obtain ⟨named, others⟩ := List.forall_mem_cons.mp names
        obtain ⟨-, -, -, -, -, isName⟩ := named
        show (Parser.dottedNames (_ :: _ :: Lexer.tokensFrom [] _ (dotted parts ++ more))).map _ = _
        rw [Parser.dottedNames, if_pos, List.map_cons, ih others]
        · rfl
        · simp [Piece.token, Piece.sign, Piece.word, Piece.spaced, isName]
  have length := congrArg List.length read
  rw [List.length_map] at length
  refine ⟨read, ?_⟩
  rw [length, ← length_dotted]
  exact sees.skip

/-! ### Marks -/

/-- The pieces of marks directly after a type. -/
def marks (count : Nat) : List Piece :=
  List.replicate count (.sign 0 .attachedQuestion)

@[simp] theorem marks_zero : marks 0 = [] := rfl

@[simp] theorem DeclaredType.bare_relocate (place : Span) (type : DeclaredType) :
    (type.relocate place).bare = type.bare := by
  cases type <;> rfl

theorem bare_markedOptional {start : Nat} {base : DeclaredType} {tokens : List Token} :
    (Parser.markedOptional start base tokens).bare =
      (DeclaredType.optional (.point 0))^[tokens.length] base.bare := by
  induction tokens generalizing base with
  | nil => rfl
  | cons token tokens ih =>
      rw [List.length_cons, Function.iterate_succ_apply]
      refine ih.trans (congrArg _ ?_)
      show DeclaredType.optional (.point 0) (base.relocate _).bare = _
      rw [DeclaredType.bare_relocate]

/-- Types that end closed take marks as a whole. -/
theorem iterate_marked {type : DeclaredType} (closed : type.endsOpen = false) (count : Nat) :
    DeclaredType.marked^[count] type = (DeclaredType.optional (.point 0))^[count] type := by
  induction count generalizing type with
  | zero => rfl
  | succ count ih =>
      have marked : type.marked = .optional (.point 0) type :=
        DeclaredType.marked_eq_iff.mpr ⟨closed, rfl⟩
      rw [Function.iterate_succ_apply, Function.iterate_succ_apply, marked, ih rfl]

/-- Marks after a type known by a bound are marks on the bound. -/
theorem iterate_marked_someOf (span : Span) (bound : DeclaredType) (count : Nat) :
    DeclaredType.marked^[count] (.someOf span bound) =
      .someOf span (DeclaredType.marked^[count] bound) := by
  induction count generalizing bound with
  | zero => rfl
  | succ count ih => exact ih bound.marked

/-- Marks after a function type are marks on the result. -/
theorem iterate_marked_function (span : Span) (params : List DeclaredType) (result : DeclaredType)
    (count : Nat) : DeclaredType.marked^[count] (.function span params result) =
      .function span params (DeclaredType.marked^[count] result) := by
  induction count generalizing result with
  | zero => rfl
  | succ count ih => exact ih result.marked

/-! ### Reading types back -/

/-- Whether a type goes on with a token. -/
def goesOnType : TokenKind → Bool
  | .symbol .attachedQuestion | .symbol .attachedBang | .symbol .dot | .symbol .less
  | .symbol .arrow => true
  | _ => false

/-- Whether a type starts with a token. -/
def startsType : TokenKind → Bool
  | .identifier | .symbol .parenOpen => true
  | _ => false

namespace Parser

variable {inner : Inner} {pieces more : List Piece}

/-- **A type is recovered with the marks after it** when it is recovered without them. -/
theorem recovers_type {base : DeclaredType} (count : Nat)
    (recovers : (unmarkedType inner).Recovers DeclaredType.bare pieces (marks count ++ more) base)
    (stops : goesOnType (headKind more) = false) :
    (Parser.type inner).Recovers DeclaredType.bare (pieces ++ marks count) more
      ((DeclaredType.optional (.point 0))^[count] base) := by
  intro c sees
  rw [List.append_assoc] at sees
  obtain ⟨value, middle, yields, sees', rfl⟩ := recovers c sees
  let kinds : TokenKind → Bool := fun kind =>
    kind == .symbol .attachedQuestion || kind == .symbol .attachedBang
  have isMark : ∀ piece ∈ marks count, kinds piece.lexeme.kind = true := by
    intro piece member
    rw [List.eq_of_mem_replicate member]
    rfl
  have noMark : kinds (headKind more) = false := by
    refine Bool.eq_false_iff.mpr fun isMark => ?_
    simp only [kinds, Bool.or_eq_true, beq_iff_eq] at isMark
    rcases isMark with same | same <;> rw [same] at stops <;> cases stops
  have length : (middle.rest.takeWhile marksOptional).length = count :=
    (sees'.length_takeWhile isMark noMark).trans List.length_replicate
  refine ⟨_, _, yields_type.mpr ⟨value, middle, yields, rfl, rfl⟩, ?_, ?_⟩
  · have moved := sees'.skip
    rwa [marks, List.length_replicate, ← length] at moved
  · rw [bare_markedOptional, length, DeclaredType.bare_relocate]

end Parser

/-- **A text is printed as pieces of a type** when these make it up and are read back as the type,
without its places and with any number of marks after them. -/
structure DeclaredType.Prints (gap : Nat) (text : String) (read : DeclaredType)
    (pieces : List Piece) : Prop where
  printed : Printed startsType gap text pieces
  closes : ∀ afterOperand, endsOperand afterOperand pieces = true
  noColon : ∀ piece ∈ pieces, piece.lexeme.kind ≠ .symbol .colon
  recovers : ∀ (count : Nat) {depth : Nat} {more : List Piece},
    pieces.length + count + more.length ≤ depth → goesOnType (headKind more) = false →
    (Parser.innerOfDepth depth).type.Recovers DeclaredType.bare (pieces ++ marks count) more
      (DeclaredType.marked^[count] read)

namespace DeclaredType

variable {gap depth : Nat} {pieces more : List Piece} {text : String} {read : DeclaredType}

/-- What an element of a list of types ends at. -/
def EndsElement (kind : TokenKind) : Prop :=
  goesOnType kind = false ∧ kind ≠ .symbol .colon

/-- A type is recovered with the marks after it when it ends closed and is recovered without them. -/
theorem recovers_of_closed {base : DeclaredType} {count : Nat} (closed : base.endsOpen = false)
    (recovers : (Parser.unmarkedType (Parser.innerBelow depth)).Recovers bare pieces
      (marks count ++ more) base)
    (stops : goesOnType (headKind more) = false) :
    (Parser.innerOfDepth (depth + 1)).type.Recovers bare (pieces ++ marks count) more
      (marked^[count] base) := by
  rw [iterate_marked closed]
  exact Parser.recovers_type count recovers stops

/-- A type is recovered with the marks after it when these are recovered with its last part. -/
theorem recovers_of_open {base : DeclaredType} {count : Nat}
    (recovers : (Parser.unmarkedType (Parser.innerBelow depth)).Recovers bare
      (pieces ++ marks count) more base)
    (stops : goesOnType (headKind more) = false) :
    (Parser.innerOfDepth (depth + 1)).type.Recovers bare (pieces ++ marks count) more base := by
  have recovered := Parser.recovers_type 0 (by simpa using recovers) stops
  rwa [marks_zero, List.append_nil] at recovered

/-- A mark is printed directly after an operand. -/
theorem printed_marked (printed : Printed startsType gap text pieces)
    (closes : ∀ afterOperand, endsOperand afterOperand pieces = true) :
    Printed startsType gap (text ++ "?") (pieces ++ marks 1) := by
  obtain ⟨lexeme, rest, rfl, starts⟩ := printed.opens
  refine ⟨?_, ⟨lexeme, _, rfl, starts⟩, fun space loose => ?_⟩
  · rw [Lexer.render_append, printed.text]
    simp [marks, Piece.sign, Piece.spaced, Symbol.spelling]
  · refine Lexer.lexes_append.mpr ⟨printed.lexes space (Lexer.loose_sign (by decide)), ?_⟩
    rw [closes]
    exact (@Lexer.lexes_mark [] _ _ (.inl rfl) loose).mpr trivial

theorem endsOperand_marked (afterOperand : Bool) :
    endsOperand afterOperand (pieces ++ marks 1) = true := by
  rw [Lexer.endsOperand_append]
  rfl

theorem noColon_marked (noColon : ∀ piece ∈ pieces, piece.lexeme.kind ≠ .symbol .colon) :
    ∀ piece ∈ pieces ++ marks 1, piece.lexeme.kind ≠ .symbol .colon :=
  List.forall_mem_append.mpr ⟨noColon, List.forall_mem_singleton.mpr nofun⟩

/-- A mark after a text is a mark on what the text is read as. -/
theorem Prints.optional (prints : Prints gap text read pieces) :
    Prints gap (text ++ "?") read.marked (pieces ++ marks 1) where
  printed := printed_marked prints.printed prints.closes
  closes := endsOperand_marked
  noColon := noColon_marked prints.noColon
  recovers count depth more few stops := by
    have recovered := prints.recovers (count + 1) (by simpa [marks, Nat.add_assoc, Nat.add_comm 1] using few) stops
    rw [List.append_assoc]
    exact recovered

theorem isName_some : IsName "some" :=
  ⟨'s', ['o', 'm', 'e'], by decide, List.all_eq_true.mp (by decide), rfl, by decide⟩

theorem Prints.someOf (prints : Prints 1 text read pieces) :
    Prints gap ("some " ++ text) (.someOf (.point 0) read) (.word gap "some" :: pieces) where
  printed := by
    refine ⟨?_, ⟨_, _, rfl, rfl, 's', rfl, by decide⟩, fun _ loose => ?_⟩
    · rw [Lexer.render_cons, prints.printed.text]
      simp [Piece.word, Piece.spaced]
    · rw [Lexer.lexes_word isName_some (prints.printed.loose Nat.one_pos).word]
      exact prints.printed.lexes (fun _ => Nat.one_pos) loose
  closes afterOperand := prints.closes _
  noColon := List.forall_mem_cons.mpr ⟨nofun, prints.noColon⟩
  recovers count depth more few stops := by
    simp only [List.length_cons] at few
    obtain ⟨depth, rfl⟩ : ∃ less, depth = less + 1 := ⟨depth - 1, by omega⟩
    have few : pieces.length + count + more.length ≤ depth := by omega
    rw [iterate_marked_someOf]
    refine recovers_of_open (fun c sees => ?_) stops
    have kind : c.next.kind = .identifier := sees.kind
    have isSome : c.next.text = "some" := sees.text
    obtain ⟨value, c', yields, sees', read⟩ := prints.recovers count few stops c.advance
      sees.advance
    refine ⟨.someOf (.point c.next.span.start) value, c', Parser.yields_unmarkedType.mpr ?_, sees',
      congrArg (DeclaredType.someOf (.point 0)) read⟩
    simp only [kind, isSome, if_true]
    exact ⟨value, yields, rfl⟩

theorem Prints.headKind_ne (prints : Prints gap text read pieces) (others : List Piece) :
    headKind (pieces ++ others) ≠ .symbol .parenClose := by
  obtain ⟨lexeme, rest, rfl, isStart, -⟩ := prints.printed.opens
  intro isClose
  rw [show lexeme.kind = .symbol .parenClose from isClose] at isStart
  cases isStart

/-! #### Lists of types -/

section Lists

variable {α : Type} {textOf : α → String} {readOf : α → DeclaredType} {items : List α}

/-- **Things are printed as types** of certain texts. -/
def PrintsBy (textOf : α → String) (readOf : α → DeclaredType) (gap : Nat) (item : α)
    (pieces : List Piece) : Prop :=
  Prints gap (textOf item) (readOf item) pieces

/-- Types are read back as elements of a list, where labels and attributes may stand before them. -/
theorem recoversItems :
    (Parser.typeElement (Parser.innerBelow depth)).RecoversItems bare depth EndsElement
      (PrintsBy textOf readOf) readOf := by
  intro gap item pieces more prints few ends c sees
  obtain ⟨value, c', yields, sees', same⟩ := Prints.recovers prints 0 few ends.1 c (by simpa using sees)
  obtain ⟨lexeme, rest, rfl, starts⟩ := (Prints.printed prints).opens
  have noColon : headKind (rest ++ more) ≠ .symbol .colon := by
    cases rest with
    | nil => exact ends.2
    | cons piece rest => exact Prints.noColon prints piece (by simp)
  have noLabel : Parser.labelled c = false := by
    have second : c.second.kind = headKind (rest ++ more) := sees.second
    simp [Parser.labelled, second, noColon]
  have noMark : c.next.kind ≠ .symbol .atSign := by
    intro isMark
    have kind := starts.1
    rw [← show c.next.kind = lexeme.kind from sees.kind, isMark] at kind
    cases kind
  refine ⟨value, c', Parser.yields_typeElement.mpr ⟨[], c, ?_, yields⟩, sees', same⟩
  rw [noLabel]
  exact Parser.yields_attributes.mpr (by simp [noMark])

/-- Types are read back as type arguments. -/
theorem recoversArgs : (Parser.innerOfDepth depth).type.RecoversItems bare depth
    (goesOnType · = false) (PrintsBy textOf readOf) readOf := by
  intro gap item pieces more prints few stops
  have recovered := Prints.recovers prints 0 few stops
  rwa [marks_zero, List.append_nil] at recovered

theorem recovers_typeList
    (enclosed : Enclosed .parenOpen .parenClose (PrintsBy textOf readOf) gap items pieces)
    (few : pieces.length + more.length ≤ depth + 1) :
    (Parser.typeList (Parser.innerBelow depth)).Recovers (List.map bare) pieces more
      (items.map readOf) := by
  intro c sees
  obtain ⟨opens, values, c', yields, sees', same⟩ := recoversItems.enclosed Prints.headKind_ne
    enclosed few ⟨rfl, nofun⟩ ⟨rfl, nofun⟩ nofun (Nat.le_succ depth) sees
  exact ⟨values, c', Parser.yields_typeList.mpr ⟨opens, yields⟩, sees', same⟩

/-- Lists of types in parentheses are printed as types that start. -/
theorem printed_enclosed
    (enclosed : Enclosed .parenOpen .parenClose (PrintsBy textOf readOf) gap items pieces) :
    Printed startsType gap ("(" ++ String.intercalate ", " (items.map textOf) ++ ")") pieces := by
  have printed := enclosed.printed Prints.printed rfl rfl rfl
  refine printed.mono fun kind isOpening => ?_
  rw [beq_iff_eq.mp isOpening]
  rfl

/-- What types in parentheses are recovered as, with marks after them. -/
theorem recovers_grouped {base : DeclaredType} {count : Nat}
    (enclosed : Enclosed .parenOpen .parenClose (PrintsBy textOf readOf) gap items pieces)
    (few : pieces.length + count + more.length ≤ depth + 1)
    (noArrow : headKind (marks count ++ more) ≠ .symbol .arrow)
    (group : ∀ (place : Span) (values : List DeclaredType), values.map bare = items.map readOf →
      (Parser.grouped place values).bare = base) :
    (Parser.unmarkedType (Parser.innerBelow depth)).Recovers bare pieces (marks count ++ more)
      base := by
  intro c sees
  have kind : c.next.kind = .symbol .parenOpen := by
    obtain ⟨inside, rfl, -⟩ := enclosed
    exact sees.kind
  have few : pieces.length + (marks count ++ more).length ≤ depth + 1 := by
    simp only [List.length_append, marks, List.length_replicate]
    omega
  obtain ⟨values, c', yields, sees', same⟩ := recovers_typeList enclosed few c sees
  refine ⟨Parser.grouped (.point c.next.span.start) values, c',
    Parser.yields_unmarkedType.mpr ?_, sees', group _ _ same⟩
  simp only [kind]
  refine ⟨values, c', yields, ?_⟩
  rw [if_neg (by rwa [sees'.kind])]
  exact ⟨rfl, rfl⟩

/-- No arrow comes after marks that a type with no arrow after it ends with. -/
theorem headKind_marks_ne {count : Nat} {kind : TokenKind}
    (stops : goesOnType (headKind more) = false) (goesOn : goesOnType kind = true)
    (noMark : kind ≠ .symbol .attachedQuestion) : headKind (marks count ++ more) ≠ kind := by
  cases count with
  | zero =>
      rintro rfl
      exact absurd (stops.symm.trans goesOn) Bool.false_ne_true
  | succ count => exact noMark.symm

theorem Prints.tuple
    (enclosed : Enclosed .parenOpen .parenClose (PrintsBy textOf readOf) gap items pieces)
    (several : items.length ≠ 1) :
    Prints gap ("(" ++ String.intercalate ", " (items.map textOf) ++ ")")
      (.tuple (.point 0) (items.map readOf)) pieces where
  printed := printed_enclosed enclosed
  closes _ := enclosed.endsOperand_eq
  noColon := enclosed.forall_mem Prints.noColon nofun nofun nofun
  recovers count depth more few stops := by
    have some : 0 < pieces.length := by
      obtain ⟨inside, rfl, -⟩ := enclosed
      exact Nat.succ_pos _
    obtain ⟨depth, rfl⟩ : ∃ less, depth = less + 1 := ⟨depth - 1, by omega⟩
    refine recovers_of_closed rfl (recovers_grouped enclosed few
      (headKind_marks_ne stops rfl nofun) fun place values same => ?_) stops
    have length := congrArg List.length same
    simp only [List.length_map] at length
    unfold Parser.grouped
    split
    · exact absurd length.symm several
    · exact congrArg _ ((rebuilds_eq_map _ _).trans same)

/-- **A type in parentheses** with a mark after them is made optional as a whole. -/
theorem Prints.parenthesized (prints : Prints 0 text read pieces) :
    Prints gap ("(" ++ text ++ ")?") (.optional (.point 0) read)
      (.sign gap .parenOpen :: (pieces ++ [.sign 0 .parenClose]) ++ marks 1) := by
  have enclosed : Enclosed .parenOpen .parenClose (PrintsBy (fun _ : Unit => text) fun _ => read) gap
      [()] (.sign gap .parenOpen :: (pieces ++ [.sign 0 .parenClose])) :=
    ⟨pieces, rfl, .inr (.single prints)⟩
  exact {
    printed := by
      have printed := printed_marked (printed_enclosed enclosed) fun _ => enclosed.endsOperand_eq
      rwa [List.map_singleton, String.intercalate_singleton, String.append_assoc] at printed
    closes := endsOperand_marked
    noColon := noColon_marked (enclosed.forall_mem Prints.noColon nofun nofun nofun)
    recovers := by
      intro count depth more few stops
      simp only [List.length_append, List.length_cons, marks, List.length_replicate] at few
      obtain ⟨depth, rfl⟩ : ∃ less, depth = less + 1 := ⟨depth - 1, by omega⟩
      have fewer : (Piece.sign gap .parenOpen :: (pieces ++ [.sign 0 .parenClose])).length +
          (count + 1) + more.length ≤ depth + 1 := by
        simp only [List.length_append, List.length_cons]
        omega
      have single (place : Span) (values : List DeclaredType)
          (same : values.map bare = [()].map fun _ => read) :
          (Parser.grouped place values).bare = read := by
        obtain ⟨value, rfl⟩ := List.length_eq_one_iff.mp (by simpa using congrArg List.length same)
        exact (List.cons.inj same).1
      have recovered := Parser.recovers_type (count + 1)
        (recovers_grouped enclosed fewer nofun single) stops
      rw [iterate_marked rfl, List.append_assoc, ← Function.iterate_succ_apply]
      exact recovered }

theorem Prints.function {other : String} {result : DeclaredType} {others : List Piece}
    (enclosed : Enclosed .parenOpen .parenClose (PrintsBy textOf readOf) gap items pieces)
    (prints : Prints 1 other result others) :
    Prints gap ("(" ++ String.intercalate ", " (items.map textOf) ++ ") -> " ++ other)
      (.function (.point 0) (items.map readOf) result) (pieces ++ .sign 1 .arrow :: others) where
  printed := by
    have front := printed_enclosed enclosed
    obtain ⟨lexeme, rest, rfl, starts⟩ := front.opens
    refine ⟨?_, ⟨lexeme, _, rfl, starts⟩, fun space loose => ?_⟩
    · rw [Lexer.render_append, front.text, Lexer.render_cons, prints.printed.text]
      simp [Piece.sign, Piece.spaced, Symbol.spelling]
    · refine Lexer.lexes_append.mpr ⟨front.lexes space (Lexer.loose_spaced Nat.one_pos), ?_⟩
      rw [Lexer.lexes_sign (by decide) rfl (prints.printed.apart (.inl Nat.one_pos))]
      exact prints.printed.lexes (fun _ => Nat.one_pos) loose
  closes afterOperand := by
    rw [Lexer.endsOperand_append]
    exact prints.closes _
  noColon := List.forall_mem_append.mpr ⟨enclosed.forall_mem Prints.noColon nofun nofun nofun,
    List.forall_mem_cons.mpr ⟨nofun, prints.noColon⟩⟩
  recovers count depth more few stops := by
    simp only [List.length_append, List.length_cons] at few
    obtain ⟨depth, rfl⟩ : ∃ less, depth = less + 1 := ⟨depth - 1, by omega⟩
    have fewItems : pieces.length + (.sign 1 .arrow :: (others ++ marks count ++ more)).length ≤
        depth + 1 := by
      simp only [List.length_append, List.length_cons, marks, List.length_replicate]
      omega
    have fewResult : others.length + count + more.length ≤ depth := by omega
    rw [iterate_marked_function]
    refine recovers_of_open (fun c sees => ?_) stops
    have kind : c.next.kind = .symbol .parenOpen := by
      obtain ⟨inside, rfl, -⟩ := enclosed
      exact sees.kind
    obtain ⟨values, middle, yields, sees', same⟩ := recovers_typeList enclosed fewItems c
      (by simpa using sees)
    obtain ⟨value, c', yields', sees'', read⟩ := prints.recovers count fewResult stops
      middle.advance sees'.advance
    have isArrow : middle.next.kind = .symbol .arrow := sees'.kind
    refine ⟨.function (.point c.next.span.start) values value, c',
      Parser.yields_unmarkedType.mpr ?_, sees'', ?_⟩
    · simp only [kind]
      refine ⟨values, middle, yields, ?_⟩
      rw [if_pos isArrow]
      exact ⟨value, yields', rfl⟩
    · show DeclaredType.function (.point 0) (rebuilds _ values) value.bare = _
      rw [rebuilds_eq_map, read]
      exact congrArg (DeclaredType.function _ · _) same

end Lists

/-! #### Named types -/

variable {first : String} {parts : List String}

/-- What is known of a name with points in it. -/
structure IsDotted (first : String) (parts : List String) : Prop where
  isName : IsName first
  notSome : first ≠ "some"
  names : ∀ part ∈ parts, IsName part

/-- The name of a type is recovered, up to its type arguments. -/
theorem yields_named {c : Cursor} (dots : IsDotted first parts)
    (sees : c.Sees (.word gap first :: (dotted parts ++ more)))
    (stops : headKind more ≠ .symbol .dot) :
    ∃ named : Cursor, named.Sees more ∧ ∀ {type c'},
      ((Parser.unmarkedType (Parser.innerBelow depth)).Yields c type c' ↔
        let name := String.intercalate "." (first :: parts)
        if named.next.kind = .symbol .less then
          ∃ args last, (Parser.separated (Parser.innerOfDepth depth).type (depth + 1)).Yields
              named.advance args last ∧ last.next.kind = .symbol .greater ∧ c' = last.advance ∧
            type = .named (.point c.next.span.start) name args
        else type = .named (.point c.next.span.start) name [] ∧ c' = named) := by
  have kind : c.next.kind = .identifier := by
    obtain ⟨-, -, -, -, -, isName⟩ := dots.isName
    exact sees.kind.trans isName
  have text : c.next.text = first := sees.text
  obtain ⟨read, sees'⟩ := dottedNames_of_sees dots.names sees.advance stops
  refine ⟨_, sees', fun {type c'} => ?_⟩
  rw [Parser.yields_unmarkedType]
  simp only [kind, text, dots.notSome, if_false, read]
  exact Iff.rfl

theorem noColon_name (dots : IsDotted first parts) :
    ∀ piece ∈ .word gap first :: dotted parts, piece.lexeme.kind ≠ .symbol .colon := by
  refine List.forall_mem_cons.mpr ⟨?_, noColon_dotted dots.names⟩
  show Lexer.wordKind first ≠ _
  rw [Lexer.wordKind_of_isWord dots.isName]
  exact nofun

theorem Prints.named (dots : IsDotted first parts) :
    Prints gap (String.intercalate "." (first :: parts))
      (.named (.point 0) (String.intercalate "." (first :: parts)) [])
      (.word gap first :: dotted parts) where
  printed := by
    refine ⟨?_, ⟨_, _, rfl, Lexer.starts_word dots.isName rfl⟩, fun space loose => ?_⟩
    · rw [Lexer.render_cons, toList_intercalate_point]
      rfl
    · rw [← List.append_nil (dotted parts)]
      exact (@lexes_dotted _ _ _ _ [] _ dots.isName dots.names loose).mpr trivial
  closes afterOperand := by
    show endsOperand (Lexer.wordKind first).endsOperand _ = true
    rw [Lexer.wordKind_of_isWord dots.isName]
    exact endsOperand_dotted dots.names
  noColon := noColon_name dots
  recovers count depth more few stops := by
    simp only [List.length_cons] at few
    obtain ⟨depth, rfl⟩ : ∃ less, depth = less + 1 := ⟨depth - 1, by omega⟩
    refine recovers_of_closed rfl (fun c sees => ?_) stops
    obtain ⟨named, sees', yields⟩ := yields_named dots sees (headKind_marks_ne stops rfl nofun)
    refine ⟨.named (.point c.next.span.start) (String.intercalate "." (first :: parts)) [], named,
      yields.mpr ?_, sees', rfl⟩
    rw [if_neg (by rw [sees'.kind]; exact headKind_marks_ne stops rfl nofun)]
    exact ⟨rfl, rfl⟩

/-- A type with type arguments. -/
theorem Prints.generic {α : Type} {textOf : α → String} {readOf : α → DeclaredType}
    {items : List α} (dots : IsDotted first parts)
    (listed : Listed .comma (PrintsBy textOf readOf) 0 items pieces) :
    Prints gap (String.intercalate "." (first :: parts) ++ "<" ++
        String.intercalate ", " (items.map textOf) ++ ">")
      (.named (.point 0) (String.intercalate "." (first :: parts)) (items.map readOf))
      (.word gap first :: (dotted parts ++ .sign 0 .less :: (pieces ++ [.sign 0 .greater]))) where
  printed := by
    have inside := listed.printed Prints.printed rfl
    refine ⟨?_, ⟨_, _, rfl, Lexer.starts_word dots.isName rfl⟩, fun space loose => ?_⟩
    · have spelled := toList_intercalate_point first parts
      simp only [Lexer.render_cons, Lexer.render_append, String.toList_append, spelled, inside.text]
      simp [Piece.word, Piece.sign, Piece.spaced, Symbol.spelling]
    · have greater : Lexes (endsOperand false pieces) [.sign 0 .greater] _ :=
        (@Lexer.lexes_sign _ 0 [] _ .greater (by decide) (by cases endsOperand _ _ <;> rfl)
          fun c first => beq_eq_false_iff_ne.mpr (loose.sign c first)).mpr trivial
      rw [lexes_dotted dots.isName dots.names (Lexer.loose_sign (by decide)), Lexer.lexes_sign,
        Lexer.lexes_append]
      · exact ⟨inside.lexes (by rintro ⟨⟩) (Lexer.loose_sign (by decide)), greater⟩
      · rintro ⟨⟩
      · rfl
      · rw [Lexer.render_append, List.append_assoc]
        exact inside.apart (.inr fun c noEqual _ => beq_eq_false_iff_ne.mpr noEqual)
  closes afterOperand := by
    simp [Lexer.endsOperand_append, endsOperand, Piece.sign, Piece.spaced, TokenKind.endsOperand]
  noColon := by
    have inside := listed.forall_mem Prints.noColon (by rintro ⟨⟩)
    refine List.forall_mem_cons.mpr ⟨noColon_name dots _ List.mem_cons_self, ?_⟩
    refine List.forall_mem_append.mpr ⟨noColon_dotted dots.names, List.forall_mem_cons.mpr ⟨(by rintro ⟨⟩), ?_⟩⟩
    exact List.forall_mem_append.mpr ⟨inside, by simp [Piece.sign, Piece.spaced]⟩
  recovers count depth more few stops := by
    simp only [List.length_cons, List.length_append, List.length_nil] at few
    obtain ⟨depth, rfl⟩ : ∃ less, depth = less + 1 := ⟨depth - 1, by omega⟩
    refine recovers_of_closed rfl (fun c sees => ?_) stops
    have sees : c.Sees (.word gap first :: (dotted parts ++
        .sign 0 .less :: (pieces ++ .sign 0 .greater :: (marks count ++ more)))) := by
      simpa using sees
    obtain ⟨named, opens, yields⟩ := yields_named dots sees (by rintro ⟨⟩)
    have isLess : named.next.kind = .symbol .less := opens.kind
    have few : pieces.length + (.sign 0 .greater :: (marks count ++ more)).length ≤ depth := by
      simp only [List.length_cons, List.length_append, marks, List.length_replicate]
      omega
    have enough : items.length ≤ depth + 1 := by
      have := listed.length_le
      omega
    obtain ⟨values, last, read, sees', same⟩ := recoversArgs.separated listed few rfl rfl (by rintro ⟨⟩)
      enough named.advance opens.advance
    refine ⟨.named (.point c.next.span.start) (String.intercalate "." (first :: parts)) values,
      last.advance, yields.mpr ?_, sees'.advance, congrArg _ ((rebuilds_eq_map _ _).trans same)⟩
    rw [if_pos isLess]
    exact ⟨values, last, read, sees'.kind, rfl, rfl⟩

/-- **Every legible type is printed** as pieces that are read back. -/
theorem exists_prints {type : DeclaredType} (legible : (Node.type type).Everywhere Node.IsLegible)
    (gap : Nat) : ∃ pieces, Prints gap type.text type.reread pieces := by
  induction type using DeclaredType.induction generalizing gap with
  | step type ih =>
      have part {part : DeclaredType} (member : Node.type part ∈ Node.ofType type) (gap : Nat) :
          ∃ pieces, PrintsBy DeclaredType.text reread gap part pieces :=
        ih part member (legible.child member) gap
      cases type with
      | named span name args =>
          obtain ⟨first, parts, isName, notSome, names, rfl⟩ := legible.here
          have dots : IsDotted first parts := ⟨isName, notSome, names⟩
          by_cases none : args = []
          · subst none
            exact ⟨_, Prints.named dots⟩
          · obtain ⟨pieces, listed⟩ := Lexer.exists_listed
              (fun arg member => part (List.mem_map_of_mem member)) none 0
            rw [reread, rebuild_named, DeclaredType.text, texts_eq_map]
            · exact ⟨_, Prints.generic dots listed⟩
            · exact none
      | tuple span elements =>
          obtain ⟨pieces, enclosed⟩ := Lexer.exists_enclosed
            (fun element member => part (List.mem_map_of_mem member)) gap
          rw [reread, rebuild_tuple, DeclaredType.text, texts_eq_map]
          exact ⟨pieces, Prints.tuple enclosed legible.here⟩
      | optional span wrapped =>
          obtain ⟨pieces, prints⟩ := part (List.mem_singleton_self _) gap
          exact ⟨_, prints.optional⟩
      | function span params result =>
          obtain ⟨pieces, enclosed⟩ := Lexer.exists_enclosed
            (fun param member => part (List.mem_append_left _ (List.mem_map_of_mem member))) gap
          obtain ⟨others, prints⟩ := part (List.mem_append_right _ (List.mem_singleton_self _)) 1
          rw [reread, rebuild_function, DeclaredType.text, texts_eq_map]
          exact ⟨_, Prints.function enclosed prints⟩
      | someOf span bound =>
          obtain ⟨pieces, prints⟩ := part (List.mem_singleton_self _) 1
          exact ⟨_, prints.someOf⟩

end DeclaredType

/-! ### Parsing printed types -/

/-- The type that tokens make up, with nothing after it. -/
def typeOfTokens (source : List Char) (tokens : List Token) : Except SyntaxError DeclaredType :=
  let whole : Parser DeclaredType := do
    let type ← (Parser.innerOfDepth tokens.length).type
    let _ ← Parser.expect .endOfFile
    return type
  whole.run' (.atStart source tokens)

/-- The type that a text is. -/
def parseType (text : String) : Except SyntaxError DeclaredType := do
  typeOfTokens text.toList (← tokenize text)

theorem parseType_of_typeOfTokens {text : String} {tokens : List Token} {type : DeclaredType}
    (cut : tokenize text = .ok tokens) (read : typeOfTokens text.toList tokens = .ok type) :
    parseType text = .ok type := by
  rw [parseType, cut]
  exact read

theorem typeOfTokens_eq_ok_iff {source : List Char} {tokens : List Token} {type : DeclaredType} :
    typeOfTokens source tokens = .ok type ↔ ∃ c', (Parser.innerOfDepth tokens.length).type.Yields
      (.atStart source tokens) type c' ∧ c'.next.kind = .endOfFile := by
  rw [typeOfTokens, Parser.run_eq_ok_iff]
  simp only [Parser.yields_bind, Parser.yields_expect, Parser.yields_pure]
  constructor
  · rintro ⟨_, _, c', read, _, _, ⟨ends, -, -⟩, rfl, -⟩
    exact ⟨c', read, ends⟩
  · rintro ⟨c', read, ends⟩
    exact ⟨_, type, c', read, _, _, ⟨ends, rfl, rfl⟩, rfl, rfl⟩

/-- **A text that is printed as pieces of a type is parsed** as the type. -/
theorem parseType_of_prints {text : String} {read : DeclaredType} {pieces : List Piece}
    (prints : DeclaredType.Prints 0 text read pieces) :
    ∃ again, parseType text = .ok again ∧ again.bare = read := by
  obtain ⟨tokens, cut, length, sees⟩ := prints.printed.exists_tokens
  have few : pieces.length + 0 + ([] : List Piece).length ≤ tokens.length := by
    simp [length]
  obtain ⟨again, c', yields, sees', same⟩ := prints.recovers 0 few rfl (.atStart _ tokens)
    (by simpa using sees)
  have read := typeOfTokens_eq_ok_iff.mpr ⟨c', yields, sees'.kind⟩
  exact ⟨again, parseType_of_typeOfTokens cut read, same⟩

/-- **Legible types are parsed from their texts** as what these are read as. -/
theorem parseType_text {type : DeclaredType}
    (legible : (Node.type type).Everywhere Node.IsLegible) :
    ∃ again, parseType type.text = .ok again ∧ again.bare = type.reread := by
  obtain ⟨pieces, prints⟩ := DeclaredType.exists_prints legible 0
  exact parseType_of_prints prints

/-- **The text of a declared type is parsed as the type**, apart from places, exactly when no mark
in it is on a function type or on a type known by a bound: these are printed without the parentheses
that such a mark needs. -/
theorem parseType_text_iff {source : String} {program : Program} {type : DeclaredType}
    (parsed : parse source = .ok program) (within : (Node.type type).WithinProgram program) :
    (∃ again, parseType type.text = .ok again ∧ again.bare = type.bare) ↔
      (Node.type type).Everywhere Node.MarksApart := by
  have legible : (Node.type type).Everywhere Node.IsLegible := by
    obtain ⟨statement, member, inside⟩ := within
    exact fun inner deeper =>
      ((Program.isSound_of_parse parsed).1 inner ⟨statement, member, deeper.trans inside⟩).legible
  obtain ⟨again, reads, same⟩ := parseType_text legible
  rw [← DeclaredType.reread_eq_bare_iff]
  constructor
  · rintro ⟨other, read, bare⟩
    rw [reads] at read
    cases read
    rw [← same, bare]
  · intro faithful
    exact ⟨again, reads, same.trans faithful⟩

/-- The declaration of a constant with a type. -/
def typedConstant (span : Span) (name : Name) (type : DeclaredType) : Program where
  statements := [.declaration (.variable ⟨span, [], false, name, some type, none, none⟩)]

theorem type_withinProgram (span : Span) (name : Name) (type : DeclaredType) :
    (Node.type type).WithinProgram (typedConstant span name type) :=
  ⟨_, List.mem_singleton_self _, .child (List.mem_singleton_self _)
    (.child (List.mem_cons_of_mem _ (List.mem_singleton_self _)) (.self _))⟩

/-- A function type whose result is only known by a bound, with an optional type argument. -/
def boundingType : DeclaredType :=
  .function ⟨7, 28⟩ [.named ⟨8, 9⟩ "A" []] (.someOf ⟨14, 28⟩
    (.named ⟨19, 28⟩ "B.C" [.optional ⟨25, 27⟩ (.named ⟨25, 27⟩ "D" [])]))

/-- The text of a function type with a bound, a point and a mark in it is parsed as the type. -/
theorem parseType_text_boundingType :
    parse "let f: (A) -> some B . C<D?>" =
        .ok (typedConstant ⟨0, 28⟩ ⟨⟨4, 5⟩, "f"⟩ boundingType) ∧
      boundingType.text = "(A) -> some B.C<D?>" ∧
      ∃ again, parseType boundingType.text = .ok again ∧ again.bare = boundingType.bare := by
  have cut : tokenize "let f: (A) -> some B . C<D?>" = .ok [⟨.keyword .let_, ⟨0, 3⟩, "let", false⟩,
      ⟨.identifier, ⟨4, 5⟩, "f", false⟩, ⟨.symbol .colon, ⟨5, 6⟩, ":", false⟩,
      ⟨.symbol .parenOpen, ⟨7, 8⟩, "(", false⟩, ⟨.identifier, ⟨8, 9⟩, "A", false⟩,
      ⟨.symbol .parenClose, ⟨9, 10⟩, ")", false⟩, ⟨.symbol .arrow, ⟨11, 13⟩, "->", false⟩,
      ⟨.identifier, ⟨14, 18⟩, "some", false⟩, ⟨.identifier, ⟨19, 20⟩, "B", false⟩,
      ⟨.symbol .dot, ⟨21, 22⟩, ".", false⟩, ⟨.identifier, ⟨23, 24⟩, "C", false⟩,
      ⟨.symbol .less, ⟨24, 25⟩, "<", false⟩, ⟨.identifier, ⟨25, 26⟩, "D", false⟩,
      ⟨.symbol .attachedQuestion, ⟨26, 27⟩, "?", false⟩, ⟨.symbol .greater, ⟨27, 28⟩, ">", false⟩,
      ⟨.endOfFile, ⟨28, 28⟩, "", false⟩] := by
    decide +kernel
  have parsed : parse _ = .ok (typedConstant ⟨0, 28⟩ ⟨⟨4, 5⟩, "f"⟩ boundingType) :=
    parse_of_ofTokens cut rfl
  have apart := (DeclaredType.reread_eq_bare_iff boundingType).mp rfl
  exact ⟨parsed, rfl, (parseType_text_iff parsed (type_withinProgram _ _ _)).mpr apart⟩

/-- A function type that a mark makes optional. -/
def optionalFunction : DeclaredType :=
  .optional ⟨7, 19⟩ (.function ⟨7, 19⟩ [] (.named ⟨14, 17⟩ "Int" []))

/-- **The text of an optional function type is not parsed as the type**: it is that of a function
type with an optional result. -/
theorem parseType_text_optionalFunction :
    parse "let x: (() -> Int)?" = .ok (typedConstant ⟨0, 19⟩ ⟨⟨4, 5⟩, "x"⟩ optionalFunction) ∧
      (Node.type optionalFunction).WithinProgram
        (typedConstant ⟨0, 19⟩ ⟨⟨4, 5⟩, "x"⟩ optionalFunction) ∧
      optionalFunction.text = "() -> Int?" ∧
      ¬ ∃ again, parseType optionalFunction.text = .ok again ∧
        again.bare = optionalFunction.bare := by
  have cut : tokenize "let x: (() -> Int)?" = .ok [⟨.keyword .let_, ⟨0, 3⟩, "let", false⟩,
      ⟨.identifier, ⟨4, 5⟩, "x", false⟩, ⟨.symbol .colon, ⟨5, 6⟩, ":", false⟩,
      ⟨.symbol .parenOpen, ⟨7, 8⟩, "(", false⟩, ⟨.symbol .parenOpen, ⟨8, 9⟩, "(", false⟩,
      ⟨.symbol .parenClose, ⟨9, 10⟩, ")", false⟩, ⟨.symbol .arrow, ⟨11, 13⟩, "->", false⟩,
      ⟨.identifier, ⟨14, 17⟩, "Int", false⟩, ⟨.symbol .parenClose, ⟨17, 18⟩, ")", false⟩,
      ⟨.symbol .attachedQuestion, ⟨18, 19⟩, "?", false⟩, ⟨.endOfFile, ⟨19, 19⟩, "", false⟩] := by
    decide +kernel
  have cutAgain : tokenize "() -> Int?" = .ok [⟨.symbol .parenOpen, ⟨0, 1⟩, "(", false⟩,
      ⟨.symbol .parenClose, ⟨1, 2⟩, ")", false⟩, ⟨.symbol .arrow, ⟨3, 5⟩, "->", false⟩,
      ⟨.identifier, ⟨6, 9⟩, "Int", false⟩, ⟨.symbol .attachedQuestion, ⟨9, 10⟩, "?", false⟩,
      ⟨.endOfFile, ⟨10, 10⟩, "", false⟩] := by
    decide +kernel
  have read : parseType optionalFunction.text = .ok (.function ⟨0, 10⟩ []
      (.optional ⟨6, 10⟩ (.named ⟨6, 10⟩ "Int" []))) :=
    parseType_of_typeOfTokens cutAgain rfl
  refine ⟨parse_of_ofTokens cut rfl, type_withinProgram _ _ _, rfl, ?_⟩
  rintro ⟨again, same, bare⟩
  rw [read] at same
  cases same
  cases bare

end ResultBuilder.Syntax
