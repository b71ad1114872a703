import ResultBuilder.Syntax.Parser

/-!
# What parsers yield

`parser.Yields c value c'` says that a parser reads a value between two cursors. Each parser that
reads in one fixed order has one equivalence that says what it yields in terms of the parsers it is
made of; the parsers themselves are not unfolded after that.
-/

namespace ResultBuilder.Syntax

/-- The span from an offset to where the last token that was taken ends. -/
def Cursor.spanFrom (cursor : Cursor) (start : Nat) : Span :=
  ⟨start, max cursor.lastEnd start⟩

/-- Whether a line break comes next in a region where that matters. -/
def Cursor.breaks (cursor : Cursor) (region : Region) : Bool :=
  region.breaksLines && cursor.next.newlineBefore

/-- The cursor after the semicolons that come next. -/
def Cursor.pastSemicolons (cursor : Cursor) : Cursor :=
  cursor.skip (cursor.rest.takeWhile (·.kind == .symbol .semicolon)).length

/-- Where no semicolon comes next, none are skipped. -/
theorem Cursor.pastSemicolons_eq {cursor : Cursor} (other : cursor.next.kind ≠ .symbol .semicolon) :
    cursor.pastSemicolons = cursor := by
  have none : cursor.rest.takeWhile (·.kind == .symbol .semicolon) = [] := by
    rw [next] at other
    cases left : cursor.rest with
    | nil => rfl
    | cons token rest =>
        rw [left] at other
        exact List.takeWhile_cons_of_neg fun isSign => other (beq_iff_eq.mp isSign)
  rw [pastSemicolons, none]
  rfl

namespace Parser

variable {α β : Type} {c c' : Cursor}

/-- **What a parser yields**: from one cursor it reads a value and leaves another cursor. -/
def Yields (parser : Parser α) (c : Cursor) (value : α) (c' : Cursor) : Prop :=
  parser c = .ok (value, c')

/-- A parser that is run gives what it yields. -/
theorem run_eq_ok_iff {parser : Parser α} {value : α} :
    parser.run' c = .ok value ↔ ∃ c', parser.Yields c value c' := by
  show Prod.fst <$> parser c = .ok value ↔ ∃ c', parser c = .ok (value, c')
  cases parser c with
  | error failure => simp [Functor.map, Except.map]
  | ok outcome =>
      obtain ⟨found, place⟩ := outcome
      simp [Functor.map, Except.map]

/-! ### Steps -/

@[simp 500] theorem yields_bind {first : Parser α} {next : α → Parser β} {result : β} :
    (first >>= next).Yields c result c' ↔
      ∃ value middle, first.Yields c value middle ∧ (next value).Yields middle result c' := by
  show (do let (value, middle) ← first c; next value middle : Except SyntaxError _) = _ ↔ _
  unfold Yields
  cases read : first c with
  | error failure => simp [bind, Except.bind]
  | ok outcome =>
      constructor
      · intro rest
        exact ⟨outcome.1, outcome.2, rfl, rest⟩
      · rintro ⟨value, middle, same, rest⟩
        cases same
        exact rest

@[simp] theorem yields_pure {value result : α} :
    (pure value : Parser α).Yields c result c' ↔ result = value ∧ c' = c := by
  show (Except.ok (value, c) : Except SyntaxError _) = _ ↔ _
  simp only [Except.ok.injEq, Prod.mk.injEq]
  exact and_congr eq_comm eq_comm

@[simp] theorem not_yields_throw {failure : SyntaxError} {result : α} :
    ¬ (throw failure : Parser α).Yields c result c' := by
  intro yields
  cases yields

@[simp] theorem yields_ite {condition : Prop} [Decidable condition] {yes no : Parser α}
    {result : α} : (if condition then yes else no).Yields c result c' ↔
      if condition then yes.Yields c result c' else no.Yields c result c' := by
  split <;> rfl

@[simp] theorem yields_map {parser : Parser α} {f : α → β} {result : β} :
    (f <$> parser).Yields c result c' ↔ ∃ value, parser.Yields c value c' ∧ result = f value := by
  rw [← bind_pure_comp, yields_bind]
  simp only [yields_pure]
  constructor
  · rintro ⟨value, middle, read, rfl, rfl⟩
    exact ⟨value, read, rfl⟩
  · rintro ⟨value, read, rfl⟩
    exact ⟨value, c', read, rfl, rfl⟩

/-! ### Looking and taking -/

@[simp] theorem yields_get {result : Cursor} :
    (get : Parser Cursor).Yields c result c' ↔ result = c ∧ c' = c :=
  yields_pure

@[simp] theorem yields_get_bind {next : Cursor → Parser β} {result : β} :
    (get >>= next).Yields c result c' ↔ (next c).Yields c result c' := by
  simp [and_assoc]

@[simp] theorem yields_set {place : Cursor} {result : PUnit} :
    (set place : Parser PUnit).Yields c result c' ↔ c' = place := by
  show (Except.ok (PUnit.unit, place) : Except SyntaxError _) = _ ↔ _
  simp only [Except.ok.injEq, Prod.mk.injEq, true_and]
  exact eq_comm

@[simp] theorem yields_peek {token : Token} : peek.Yields c token c' ↔ token = c.next ∧ c' = c := by
  simp [peek, and_assoc, and_comm]

@[simp] theorem yields_isAt {kind : TokenKind} {answer : Bool} :
    (isAt kind).Yields c answer c' ↔ answer = (c.next.kind == kind) ∧ c' = c := by
  simp [isAt, and_comm]

@[simp] theorem yields_isAtSymbol {sign : Symbol} {answer : Bool} :
    (isAtSymbol sign).Yields c answer c' ↔ answer = (c.next.kind == .symbol sign) ∧ c' = c :=
  yields_isAt

@[simp] theorem yields_take {token : Token} :
    take.Yields c token c' ↔ token = c.next ∧ c' = c.advance := by
  simp [take, and_comm]

@[simp] theorem yields_takeMany {count : Nat} {tokens : List Token} :
    (takeMany count).Yields c tokens c' ↔ tokens = c.rest.take count ∧ c' = c.skip count := by
  simp [takeMany, and_comm]

@[simp] theorem yields_here {offset : Nat} :
    here.Yields c offset c' ↔ offset = c.next.span.start ∧ c' = c := by
  simp [here, and_comm]

@[simp] theorem yields_spanFrom {start : Nat} {span : Span} :
    (spanFrom start).Yields c span c' ↔ span = c.spanFrom start ∧ c' = c := by
  simp [spanFrom, Cursor.spanFrom, and_assoc, and_comm]

@[simp] theorem yields_onNewLine {region : Region} {answer : Bool} :
    (onNewLine region).Yields c answer c' ↔
      answer = c.breaks region ∧ c' = c := by
  simp [onNewLine, Cursor.breaks, and_assoc, and_comm]

@[simp] theorem yields_eat {kind : TokenKind} {answer : Bool} :
    (eat kind).Yields c answer c' ↔
      answer = (c.next.kind == kind) ∧ c' = if c.next.kind = kind then c.advance else c := by
  by_cases found : c.next.kind = kind
  · simp [eat, found, and_comm, and_assoc]
  · have other : (c.next.kind == kind) = false := by simpa using found
    simp [eat, found, other]

/-- What follows a token that may be taken depends on whether it was. -/
@[simp] theorem yields_eat_bind {kind : TokenKind} {next : Bool → Parser β} {result : β} :
    (eat kind >>= next).Yields c result c' ↔
      if c.next.kind = kind then (next true).Yields c.advance result c'
      else (next false).Yields c result c' := by
  by_cases found : c.next.kind = kind
  · simp [found, and_assoc]
  · have other : (c.next.kind == kind) = false := by simpa using found
    simp [found, other, and_assoc]

@[simp] theorem yields_eatSymbol_bind {sign : Symbol} {next : Bool → Parser β} {result : β} :
    (eatSymbol sign >>= next).Yields c result c' ↔
      if c.next.kind = .symbol sign then (next true).Yields c.advance result c'
      else (next false).Yields c result c' :=
  yields_eat_bind

@[simp] theorem yields_eatSymbol {sign : Symbol} {answer : Bool} :
    (eatSymbol sign).Yields c answer c' ↔ answer = (c.next.kind == .symbol sign) ∧
      c' = if c.next.kind = .symbol sign then c.advance else c :=
  yields_eat

@[simp] theorem not_yields_unexpected {expected : String} {result : α} :
    ¬ (unexpected expected : Parser α).Yields c result c' := by
  simp [unexpected]

@[simp] theorem yields_expect {kind : TokenKind} {token : Token} :
    (expect kind).Yields c token c' ↔ c.next.kind = kind ∧ token = c.next ∧ c' = c.advance := by
  by_cases found : c.next.kind = kind <;> simp [expect, found, and_assoc]

@[simp] theorem yields_expectSymbol {sign : Symbol} {token : Token} :
    (expectSymbol sign).Yields c token c' ↔
      c.next.kind = .symbol sign ∧ token = c.next ∧ c' = c.advance :=
  yields_expect

@[simp] theorem yields_expectKeyword {word : Keyword} {token : Token} :
    (expectKeyword word).Yields c token c' ↔
      c.next.kind = .keyword word ∧ token = c.next ∧ c' = c.advance :=
  yields_expect

@[simp] theorem yields_identifier {name : Name} :
    identifier.Yields c name c' ↔
      c.next.kind = .identifier ∧ name = ⟨c.next.span, c.next.text⟩ ∧ c' = c.advance := by
  by_cases found : c.next.kind = .identifier <;>
    simp [identifier, found, and_comm, and_assoc]


@[simp] theorem yields_nameOrUnderscore {name : Name} :
    nameOrUnderscore.Yields c name c' ↔ c' = c.advance ∧
      (c.next.kind = .symbol .underscore ∧ name = ⟨c.next.span, "_"⟩ ∨
        c.next.kind = .identifier ∧ name = ⟨c.next.span, c.next.text⟩) := by
  by_cases found : c.next.kind = .symbol .underscore
  · simp [nameOrUnderscore, found, and_assoc, and_comm]
  · simp only [nameOrUnderscore, yields_bind, yields_isAtSymbol]
    simp [found]
    exact ⟨fun ⟨isName, same, moved⟩ => ⟨moved, isName, same⟩, fun ⟨moved, isName, same⟩ => ⟨isName, same, moved⟩⟩

/-! ### Lists -/

theorem yields_separated {item : Parser α} {bound : Nat} {items : List α} :
    (separated item (bound + 1)).Yields c items c' ↔
      ∃ first middle, item.Yields c first middle ∧
        if middle.next.kind = .symbol .comma then
          ∃ rest, (separated item bound).Yields middle.advance rest c' ∧ items = first :: rest
        else items = [first] ∧ c' = middle := by
  simp [separated]

theorem yields_itemsUntil {close : Symbol} {item : Parser α} {bound : Nat} {items : List α} :
    (itemsUntil close item (bound + 1)).Yields c items c' ↔
      if c.next.kind = .symbol close then items = [] ∧ c' = c
      else ∃ first middle, item.Yields c first middle ∧
        if middle.next.kind = .symbol .comma then
          ∃ rest, (itemsUntil close item bound).Yields middle.advance rest c' ∧
            items = first :: rest
        else items = [first] ∧ c' = middle := by
  simp [itemsUntil, and_assoc]

theorem yields_closedBy {close : Symbol} {item : Parser α} {bound : Nat} {items : List α} :
    (closedBy close item bound).Yields c items c' ↔
      ∃ last, (itemsUntil close item bound).Yields c items last ∧
        last.next.kind = .symbol close ∧ c' = last.advance := by
  simp only [closedBy, yields_bind, yields_expectSymbol, yields_pure]
  constructor
  · rintro ⟨_, last, read, _, _, ⟨closes, -, rfl⟩, rfl, rfl⟩
    exact ⟨last, read, closes, rfl⟩
  · rintro ⟨last, read, closes, rfl⟩
    exact ⟨items, last, read, last.next, last.advance, ⟨closes, rfl, rfl⟩, rfl, rfl⟩

theorem yields_repeatedUntil {close : Symbol} {item : Parser α} {bound : Nat} {items : List α} :
    (repeatedUntil close item (bound + 1)).Yields c items c' ↔
      if c.next.kind = .symbol close then items = [] ∧ c' = c
      else ∃ first middle, item.Yields c first middle ∧ ∃ rest,
        (repeatedUntil close item bound).Yields middle rest c' ∧ items = first :: rest := by
  simp [repeatedUntil, and_assoc]

/-- Whether a statement can end before a token without a semicolon. -/
def closesStatement : TokenKind → Bool
  | .symbol .braceClose | .endOfFile | .keyword .case_ | .keyword .default_ => true
  | _ => false

theorem yields_endStatement {answer : Unit} :
    endStatement.Yields c answer c' ↔
      if c.next.kind = .symbol .semicolon then c' = c.advance
      else (c.next.newlineBefore || closesStatement c.next.kind) ∧ c' = c := by
  by_cases found : c.next.kind = .symbol .semicolon
  · simp [endStatement, found]
  · simp only [endStatement, yields_eatSymbol_bind, found, if_false]
    simp only [yields_bind, yields_peek, yields_ite, yields_pure, not_yields_throw, and_assoc,
      exists_and_left, exists_eq_left]
    simp only [true_and, if_false_right]
    rfl

theorem yields_sequence {stops : TokenKind → Bool} {item : Parser α} {bound : Nat}
    {items : List α} :
    (sequence stops item (bound + 1)).Yields c items c' ↔
      if stops c.pastSemicolons.next.kind then items = [] ∧ c' = c.pastSemicolons
      else ∃ first middle, item.Yields c.pastSemicolons first middle ∧ ∃ answer ended,
        endStatement.Yields middle answer ended ∧ ∃ rest,
          (sequence stops item bound).Yields ended rest c' ∧ items = first :: rest := by
  simp [sequence, skipSemicolons, and_assoc, Cursor.pastSemicolons]
  rfl

/-- A list goes on after its first item with what is listed after the end of that. -/
theorem yields_sequence_cons {stops : TokenKind → Bool} {item : Parser α} {bound : Nat} {first : α}
    {rest : List α} {middle ended : Cursor} (goesOn : stops c.pastSemicolons.next.kind = false)
    (read : item.Yields c.pastSemicolons first middle) (ends : endStatement.Yields middle () ended)
    (others : (sequence stops item bound).Yields ended rest c') :
    (sequence stops item (bound + 1)).Yields c (first :: rest) c' := by
  rw [yields_sequence, if_neg (Bool.eq_false_iff.mp goesOn)]
  exact ⟨first, middle, read, (), ended, ends, rest, others, rfl⟩

variable {inner : Inner}

theorem yields_block {block : Block} :
    (Parser.block inner).Yields c block c' ↔
      c.next.kind = .symbol .braceOpen ∧ ∃ body last,
        (statements inner (· == .symbol .braceClose)).Yields c.advance body last ∧
          last.next.kind = .symbol .braceClose ∧ c' = last.advance ∧
          block = ⟨last.advance.spanFrom c.next.span.start, body⟩ := by
  simp [Parser.block, and_assoc]

/-! ### Types -/

theorem yields_attributes {bound : Nat} {marks : List Attribute} :
    (attributes (bound + 1)).Yields c marks c' ↔
      if c.next.kind = .symbol .atSign then
        c.advance.next.kind = .identifier ∧ ∃ rest,
          (attributes bound).Yields c.advance.advance rest c' ∧
          marks = ⟨c.advance.advance.spanFrom c.next.span.start, c.advance.next.text⟩ :: rest
      else marks = [] ∧ c' = c := by
  simp [attributes, and_assoc]

/-- An element of a list of types: a type after a label and attributes, which are dropped. -/
def typeElement (inner : Inner) : Parser DeclaredType := do
  let cursor ← get
  let named := cursor.next.kind == .identifier || cursor.next.kind == .symbol .underscore
  if named && cursor.second.kind == .symbol .colon then
    let _ ← takeMany 2
  let _ ← attributes inner.bound
  inner.type

/-- Whether a label with a colon comes next. -/
def labelled (c : Cursor) : Bool :=
  (c.next.kind == .identifier || c.next.kind == .symbol .underscore) &&
    c.second.kind == .symbol .colon

theorem yields_typeElement {type : DeclaredType} :
    (typeElement inner).Yields c type c' ↔ ∃ marks middle,
      (attributes inner.bound).Yields (if labelled c then c.skip 2 else c) marks middle ∧
        inner.type.Yields middle type c' := by
  by_cases label : labelled c = true
  · simp only [label, if_true]
    simp only [labelled, Bool.and_eq_true, Bool.or_eq_true, beq_iff_eq] at label
    simp [typeElement, label, and_assoc]
  · simp only [label]
    simp only [labelled, Bool.and_eq_true, Bool.or_eq_true, beq_iff_eq] at label
    simp [typeElement, label]

theorem yields_typeList {types : List DeclaredType} :
    (typeList inner).Yields c types c' ↔ c.next.kind = .symbol .parenOpen ∧
      (closedBy .parenClose (typeElement inner) inner.bound).Yields c.advance types c' := by
  show (expectSymbol .parenOpen >>= fun _ =>
    closedBy .parenClose (typeElement inner) inner.bound).Yields c types c' ↔ _
  simp [and_assoc]

/-- The type that types between parentheses make up. -/
def grouped (span : Span) : List DeclaredType → DeclaredType
  | [element] => element
  | elements => .tuple span elements

theorem yields_unmarkedType {type : DeclaredType} :
    (unmarkedType inner).Yields c type c' ↔
      let start := Span.point c.next.span.start
      match c.next.kind with
      | .identifier =>
          if c.next.text = "some" then
            ∃ bound, inner.type.Yields c.advance bound c' ∧ type = .someOf start bound
          else
            let parts := dottedNames c.advance.rest
            let name := String.intercalate "." (c.next.text :: parts.map (·.text))
            let named := c.advance.skip (2 * parts.length)
            if named.next.kind = .symbol .less then
              ∃ args last, (separated inner.type inner.bound).Yields named.advance args last ∧
                last.next.kind = .symbol .greater ∧ c' = last.advance ∧
                type = .named start name args
            else type = .named start name [] ∧ c' = named
      | .symbol .parenOpen => ∃ elements last, (typeList inner).Yields c elements last ∧
          if last.next.kind = .symbol .arrow then
            ∃ result, inner.type.Yields last.advance result c' ∧
              type = .function start elements result
          else type = grouped start elements ∧ c' = last
      | _ => False := by
  simp only [unmarkedType, yields_bind, yields_here, yields_peek, and_assoc, exists_and_left,
    exists_eq_left]
  split
  · simp [*, and_assoc]
  · simp only [@yields_bind _ _ c c' (typeList inner), yields_eatSymbol_bind, *, if_true]
    refine exists_congr fun elements => exists_congr fun last => and_congr_right fun _ => ?_
    by_cases arrow : last.next.kind = .symbol .arrow
    · simp [arrow]
    · simp only [arrow, if_false, Bool.false_eq_true, grouped]
      split <;> simp_all
  · simp

theorem yields_type {type : DeclaredType} :
    (Parser.type inner).Yields c type c' ↔ ∃ base middle,
      (unmarkedType inner).Yields c base middle ∧
        let marks := middle.rest.takeWhile marksOptional
        c' = middle.skip marks.length ∧
        type = markedOptional c.next.span.start
          (base.relocate (middle.spanFrom c.next.span.start)) marks := by
  have taken (middle : Cursor) := List.prefix_iff_eq_take.mp
    (@List.takeWhile_prefix _ middle.rest marksOptional)
  simp [Parser.type, and_assoc, ← taken]

/-! ### Expressions -/

theorem yields_closureParams {names : List Name} :
    closureParams.Yields c names c' ↔
      match closureNames c.rest with
      | none => names = [] ∧ c' = c
      | some tokens => c' = c.skip (2 * tokens.length) ∧
          names = tokens.map fun token => ⟨token.span, token.text⟩ := by
  simp only [closureParams, yields_get_bind]
  cases closureNames c.rest <;> simp

theorem yields_closure {closure : Closure} :
    (Parser.closure inner).Yields c closure c' ↔
      c.next.kind = .symbol .braceOpen ∧ ∃ params middle, 
        closureParams.Yields c.advance params middle ∧ ∃ body last,
        (statements inner (· == .symbol .braceClose)).Yields middle body last ∧
          last.next.kind = .symbol .braceClose ∧ c' = last.advance ∧
          let span := last.advance.spanFrom c.next.span.start
          closure = ⟨span, params, ⟨span, body⟩⟩ := by
  simp [Parser.closure, and_assoc]

theorem yields_trailingClosure {region : Region} {trailing : Option Closure} :
    (trailingClosure? inner region).Yields c trailing c' ↔
      if c.next.kind = .symbol .braceOpen ∧ region.allowsTrailing ∧
          c.breaks region = false then
        ∃ closure, (Parser.closure inner).Yields c closure c' ∧ trailing = some closure
      else trailing = none ∧ c' = c := by
  simp [trailingClosure?, and_assoc]

theorem yields_argument {argument : Argument} :
    (Parser.argument inner).Yields c argument c' ↔
      if c.next.kind = .identifier ∧ c.second.kind = .symbol .colon then
        ∃ value last, (inner.expression .delimited).Yields c.advance.advance value last ∧
          c' = last ∧
          argument = ⟨last.spanFrom c.next.span.start, some ⟨c.next.span, c.next.text⟩, value⟩
      else ∃ value last, (inner.expression .delimited).Yields c value last ∧ c' = last ∧
        argument = ⟨last.spanFrom c.next.span.start, none, value⟩ := by
  by_cases label : c.next.kind = .identifier ∧ c.second.kind = .symbol .colon
  · simp [Parser.argument, label, and_assoc]
  · simp [Parser.argument, label, and_assoc]

theorem yields_arguments {opening closing : Symbol} {args : List Argument} :
    (arguments inner opening closing).Yields c args c' ↔ c.next.kind = .symbol opening ∧
      (closedBy closing (argument inner) inner.bound).Yields c.advance args c' := by
  simp [arguments, and_assoc]

/-- The expression that arguments between parentheses make up. -/
def parenthesized (span : Span) : List Argument → Expr
  | [⟨_, none, value⟩] => .paren span value
  | elements => .tuple span elements

theorem yields_primary {expr : Expr} :
    (primary inner).Yields c expr c' ↔
      let start := c.next.span.start
      let span := c.advance.spanFrom start
      match c.next.kind with
      | .integer => digitsValue c.next.text.toList ≤ greatestInteger ∧ c' = c.advance ∧
          expr = .literal span (.integer (digitsValue c.next.text.toList))
      | .float => c' = c.advance ∧ expr = .literal span (.float (.ofText c.next.text))
      | .string => c' = c.advance ∧ expr = .literal span (.string c.next.text)
      | .keyword .true_ => c' = c.advance ∧ expr = .literal span (.boolean true)
      | .keyword .false_ => c' = c.advance ∧ expr = .literal span (.boolean false)
      | .keyword .nil_ => c' = c.advance ∧ expr = .literal span .nil
      | .identifier | .keyword .self_ | .symbol .underscore =>
          c' = c.advance ∧ expr = .ident span c.next.text
      | .symbol .dot => c.advance.next.kind = .identifier ∧ c' = c.advance.advance ∧
          expr = .implicitMember (c.advance.advance.spanFrom start)
            ⟨c.advance.next.span, c.advance.next.text⟩
      | .symbol .parenOpen => ∃ elements last,
          (arguments inner .parenOpen .parenClose).Yields c elements last ∧ c' = last ∧
          expr = parenthesized (last.spanFrom start) elements
      | .symbol .bracketOpen => ∃ elements last,
          (arguments inner .bracketOpen .bracketClose).Yields c elements last ∧ c' = last ∧
          expr = .array (last.spanFrom start) (elements.map (·.value))
      | .symbol .braceOpen => ∃ closure, (Parser.closure inner).Yields c closure c' ∧
          expr = .closure closure
      | _ => False := by
  simp only [primary, yields_bind, yields_here, yields_peek, and_assoc, exists_and_left,
    exists_eq_left]
  split
  case h_14 => simp
  case h_11 =>
    simp only [@yields_bind _ _ c c' (arguments inner .parenOpen .parenClose), *]
    refine exists_congr fun elements => exists_congr fun last => and_congr_right fun _ => ?_
    unfold parenthesized
    split <;> simp [and_assoc]
  all_goals simp [*, and_assoc]

theorem yields_memberName {name : Name} :
    memberName.Yields c name c' ↔
      (c.next.kind = .identifier ∨ c.next.kind = .keyword .self_ ∨ c.next.kind = .integer) ∧
        c' = c.advance ∧ name = ⟨c.next.span, c.next.text⟩ := by
  simp only [memberName, yields_bind, yields_peek, and_assoc, exists_and_left, exists_eq_left]
  split <;> simp_all

/-- What goes on an operand, apart from where the region or a line break rules it out. -/
theorem yields_postfixStep {region : Region} {start : Nat} {operand : Expr} {longer : Option Expr} :
    (postfixStep inner region start operand).Yields c longer c' ↔
      match c.next.kind with
      | .symbol .parenOpen =>
          if c.breaks region then longer = none ∧ c' = c
          else ∃ args middle, (arguments inner .parenOpen .parenClose).Yields c args middle ∧
            ∃ trailing last, (trailingClosure? inner region).Yields middle trailing last ∧
              c' = last ∧ longer = some (.call (last.spanFrom start) operand args trailing)
      | .symbol .braceOpen =>
          if c.breaks region || !region.allowsTrailing then longer = none ∧ c' = c
          else ∃ trailing last, (trailingClosure? inner region).Yields c trailing last ∧
              c' = last ∧ longer = some (.call (last.spanFrom start) operand [] trailing)
      | .symbol .bracketOpen =>
          if c.breaks region then longer = none ∧ c' = c
          else ∃ args last, (arguments inner .bracketOpen .bracketClose).Yields c args last ∧
            c' = last ∧ longer = some (.subscript (last.spanFrom start) operand args)
      | .symbol .dot =>
          if c.breaks region then longer = none ∧ c' = c
          else ∃ name last, memberName.Yields c.advance name last ∧
            c' = last ∧ longer = some (.member (last.spanFrom start) operand name)
      | .symbol .attachedQuestion =>
          c' = c.advance ∧ longer = some (.postfixed (c.advance.spanFrom start) operand .optional)
      | .symbol .attachedBang =>
          c' = c.advance ∧ longer = some (.postfixed (c.advance.spanFrom start) operand .force)
      | _ => longer = none ∧ c' = c := by
  simp only [postfixStep, yields_bind, yields_onNewLine, yields_peek, and_assoc, exists_and_left,
    exists_eq_left]
  split <;> simp [*, and_assoc]

theorem yields_postfixChain {region : Region} {start : Nat} {operand expr : Expr} {bound : Nat} :
    (postfixChain inner region start operand (bound + 1)).Yields c expr c' ↔
      ∃ longer middle, (postfixStep inner region start operand).Yields c longer middle ∧
        match longer with
        | none => expr = operand ∧ c' = middle
        | some longer => (postfixChain inner region start longer bound).Yields middle expr c' := by
  simp only [postfixChain, yields_bind]
  refine exists_congr fun longer => exists_congr fun middle => and_congr_right fun _ => ?_
  cases longer <;> simp

/-- The operator before an operand that a token stands for. -/
def unaryOp? : TokenKind → Option UnaryOp
  | .symbol .bang => some .not
  | .symbol .minus => some .negate
  | _ => none

theorem yields_unary {region : Region} {expr : Expr} :
    (Parser.unary inner region).Yields c expr c' ↔
      match unaryOp? c.next.kind with
      | some op => ∃ operand last, (inner.unary region).Yields c.advance operand last ∧ c' = last ∧
          expr = .unary (last.spanFrom c.next.span.start) op operand
      | none => ∃ operand middle, (primary inner).Yields c operand middle ∧
          (postfixChain inner region c.next.span.start operand inner.bound).Yields middle expr c' := by
  simp only [Parser.unary, yields_bind, yields_here, yields_peek, and_assoc, exists_and_left,
    exists_eq_left]
  show (match unaryOp? c.next.kind with | some op => _ | none => _ : Parser Expr).Yields c expr c' ↔ _
  split <;> simp [and_assoc]

theorem yields_binaryChain {region : Region} {start least : Nat} {left expr : Expr} {bound : Nat} :
    (binaryChain inner region start least left (bound + 1)).Yields c expr c' ↔
      match binaryOp? c.next.kind with
      | none => expr = left ∧ c' = c
      | some op =>
          if op.precedence < least ∨ c.breaks region then
            expr = left ∧ c' = c
          else ∃ right middle,
            (inner.binary region (op.precedence + 1)).Yields c.advance right middle ∧
            (binaryChain inner region start least
              (.binary (middle.spanFrom start) left op right) bound).Yields middle expr c' := by
  simp only [binaryChain, yields_bind, yields_peek, and_assoc, exists_and_left, exists_eq_left]
  cases binaryOp? c.next.kind <;> simp [and_assoc]

theorem yields_binary {region : Region} {least : Nat} {expr : Expr} :
    (Parser.binary inner region least).Yields c expr c' ↔
      ∃ left middle, (Parser.unary inner region).Yields c left middle ∧
        (binaryChain inner region c.next.span.start least left inner.bound).Yields middle expr c' := by
  simp [Parser.binary, and_assoc]

theorem yields_ternary {region : Region} {expr : Expr} :
    (Parser.ternary inner region).Yields c expr c' ↔
      ∃ condition middle, (Parser.binary inner region 1).Yields c condition middle ∧
        if middle.next.kind ≠ .symbol .question ∨ middle.breaks region then
          expr = condition ∧ c' = middle
        else ∃ thenValue colon, (inner.ternary region).Yields middle.advance thenValue colon ∧
            colon.next.kind = .symbol .colon ∧
            ∃ elseValue last, (inner.ternary region).Yields colon.advance elseValue last ∧
              c' = last ∧
              expr = .ternary (last.spanFrom c.next.span.start) condition thenValue elseValue := by
  simp [Parser.ternary, and_assoc]

theorem yields_expression {region : Region} {expr : Expr} :
    (Parser.expression inner region).Yields c expr c' ↔
      ∃ target middle, (Parser.ternary inner region).Yields c target middle ∧
        if middle.next.kind = .symbol .assign ∧ middle.breaks region = false then
          ∃ value last, (inner.expression region).Yields middle.advance value last ∧ c' = last ∧
            expr = .assign (last.spanFrom c.next.span.start) target middle.next.span value
        else expr = target ∧ c' = middle := by
  simp [Parser.expression, and_assoc]

/-! ### Patterns and statements -/

theorem yields_pattern {stops : TokenKind → Bool} {pattern : Pattern} :
    (Parser.pattern stops).Yields c pattern c' ↔
      let tokens := patternTokens stops 0 c.rest
      ∃ first last, tokens.head? = some first ∧ tokens.getLast? = some last ∧
        c' = c.skip tokens.length ∧
        pattern = {
          span := ⟨first.span.start, last.span.stop⟩
          text := String.ofList (Source.sliceBytes first.span.start last.span.stop c.source)
          caseName := namedCase tokens
          isWildcard := isWildcard tokens
          isRefutable := isRefutable tokens } := by
  simp only [Parser.pattern, yields_get_bind]
  split
  · next first last head final => simp [head, final]
  · next missing =>
      simp only [not_yields_unexpected, false_iff]
      rintro ⟨first, last, head, final, -⟩
      exact missing first last head final

theorem yields_condition {condition : Condition} :
    (Parser.condition inner).Yields c condition c' ↔
      match c.next.kind with
      | .keyword .let_ | .keyword .var_ => ∃ pattern middle,
          (Parser.pattern (· == .symbol .assign)).Yields c.advance pattern middle ∧
          middle.next.kind = .symbol .assign ∧ ∃ value last,
            (Parser.expression inner .header).Yields middle.advance value last ∧ c' = last ∧
            condition = .binding (last.spanFrom c.next.span.start)
              (c.next.kind == .keyword .var_) pattern value
      | _ => ∃ value, (Parser.expression inner .header).Yields c value c' ∧
          condition = .expression value := by
  simp only [Parser.condition, yields_bind, yields_here, yields_peek, and_assoc, exists_and_left,
    exists_eq_left]
  split <;> simp [*, and_assoc]

theorem yields_conditional {conditional : Conditional} :
    (Parser.conditional inner).Yields c conditional c' ↔ c.next.kind = .keyword .if_ ∧
      ∃ conditions opening,
        (separated (condition inner) inner.bound).Yields c.advance conditions opening ∧
      ∃ thenBlock middle, (Parser.block inner).Yields opening thenBlock middle ∧
        if middle.next.kind = .keyword .else_ then
          if middle.advance.next.kind = .keyword .if_ then ∃ chained last,
            inner.conditional.Yields middle.advance chained last ∧ c' = last ∧
            conditional = ⟨last.spanFrom c.next.span.start, conditions, thenBlock,
              some (.chained chained)⟩
          else ∃ block last, (Parser.block inner).Yields middle.advance block last ∧ c' = last ∧
            conditional = ⟨last.spanFrom c.next.span.start, conditions, thenBlock,
              some (.block block)⟩
        else c' = middle ∧
          conditional = ⟨middle.spanFrom c.next.span.start, conditions, thenBlock, none⟩ := by
  simp [Parser.conditional, and_assoc]

theorem yields_caseLabel {label : CaseLabel} :
    (caseLabel inner).Yields c label c' ↔
      match c.next.kind with
      | .keyword .case_ => ∃ patterns,
          (separated (Parser.pattern fun kind => kind == .symbol .colon || kind == .symbol .comma)
            inner.bound).Yields c.advance patterns c' ∧ label = .patterns patterns
      | .keyword .default_ => c' = c.advance ∧ label = .default
      | _ => False := by
  simp only [caseLabel, yields_bind, yields_peek, and_assoc, exists_and_left, exists_eq_left]
  split <;> simp [*, and_assoc]

theorem yields_switchCase {switchCase : SwitchCase} :
    (Parser.switchCase inner).Yields c switchCase c' ↔ ∃ label colon,
      (caseLabel inner).Yields c label colon ∧ colon.next.kind = .symbol .colon ∧ ∃ body last,
        (statements inner endsCase).Yields colon.advance body last ∧ c' = last ∧
        switchCase = ⟨last.spanFrom c.next.span.start, label,
          ⟨caseBodySpan colon.next.span.stop body, body⟩⟩ := by
  simp [Parser.switchCase, and_assoc]

theorem yields_switch {switch : Switch} :
    (Parser.switch inner).Yields c switch c' ↔ c.next.kind = .keyword .switch_ ∧
      ∃ subject opening, (Parser.expression inner .header).Yields c.advance subject opening ∧
        opening.next.kind = .symbol .braceOpen ∧ ∃ cases closing,
          (repeatedUntil .braceClose (switchCase inner) inner.bound).Yields opening.advance cases
            closing ∧ closing.next.kind = .symbol .braceClose ∧ c' = closing.advance ∧
          switch = ⟨closing.advance.spanFrom c.next.span.start, subject, cases⟩ := by
  simp [Parser.switch, and_assoc]

theorem yields_loop {loop : Loop} :
    (Parser.loop inner).Yields c loop c' ↔
      match c.next.kind with
      | .keyword .for_ => ∃ element middle,
          (Parser.pattern (· == .keyword .in_)).Yields c.advance element middle ∧
          middle.next.kind = .keyword .in_ ∧ ∃ header opening,
            (Parser.expression inner .header).Yields middle.advance header opening ∧
            ∃ body last, (Parser.block inner).Yields opening body last ∧ c' = last ∧
              loop = ⟨last.spanFrom c.next.span.start, .forIn element, header, body⟩
      | .keyword .while_ => ∃ header opening,
          (Parser.expression inner .header).Yields c.advance header opening ∧
          ∃ body last, (Parser.block inner).Yields opening body last ∧ c' = last ∧
            loop = ⟨last.spanFrom c.next.span.start, .whileDo, header, body⟩
      | _ => ∃ body middle, (Parser.block inner).Yields c.advance body middle ∧
          middle.next.kind = .keyword .while_ ∧ ∃ header last,
            (Parser.expression inner .header).Yields middle.advance header last ∧ c' = last ∧
            loop = ⟨last.spanFrom c.next.span.start, .repeatWhile, header, body⟩ := by
  simp only [Parser.loop, yields_bind, yields_take, and_assoc, exists_and_left, exists_eq_left]
  split <;> simp [*, and_assoc]

/-- Whether a token after `return` ends the statement. -/
def endsReturn (token : Token) : Bool :=
  token.newlineBefore || match token.kind with
    | .symbol .braceClose | .symbol .semicolon | .endOfFile | .keyword .case_
    | .keyword .default_ => true
    | _ => false

theorem yields_returning {statement : Statement} :
    (returning inner).Yields c statement c' ↔ c.next.kind = .keyword .return_ ∧
      if endsReturn c.advance.next then c' = c.advance ∧
        statement = .returning (c.advance.spanFrom c.next.span.start) c.next.span none
      else ∃ value last, (Parser.expression inner .statement).Yields c.advance value last ∧
        c' = last ∧
        statement = .returning (last.spanFrom c.next.span.start) c.next.span (some value) := by
  show (do
    let keyword := (← expectKeyword .return_).span
    let token ← peek
    let value ← if endsReturn token then pure none
      else some <$> Parser.expression inner .statement
    return .returning (← spanFrom keyword.start) keyword value : Parser Statement).Yields c statement
      c' ↔ _
  simp [and_assoc]

/-- The kind of directive with a name. -/
def directiveKind? (name : String) : Option DirectiveKind :=
  match name with
  | "warning" => some .warning
  | "error" => some .error
  | _ => none

theorem yields_directive {directive : Directive} :
    Parser.directive.Yields c directive c' ↔ ∃ kind, directiveKind? c.next.text = some kind ∧
      c.advance.next.kind = .symbol .parenOpen ∧ c.advance.advance.next.kind = .string ∧
      c.advance.advance.advance.next.kind = .symbol .parenClose ∧
      c' = c.advance.advance.advance.advance ∧
      directive = ⟨c.advance.advance.advance.advance.spanFrom c.next.span.start, kind,
        c.advance.advance.next.text, c.advance.advance.next.span⟩ := by
  simp only [Parser.directive, yields_bind, yields_take, and_assoc, exists_and_left,
    exists_eq_left, directiveKind?]
  split <;> simp [*, and_assoc]

theorem yields_statement {statement : Statement} :
    (Parser.statement inner).Yields c statement c' ↔
      let start := c.next.span.start
      match c.next.kind with
      | .symbol .atSign | .keyword .struct_ | .keyword .class_ | .keyword .enum_
      | .keyword .func_ | .keyword .static_ | .keyword .var_ | .keyword .let_ =>
          ∃ node, (Parser.declaration inner).Yields c node c' ∧ statement = .declaration node
      | .keyword .if_ => ∃ node, (Parser.conditional inner).Yields c node c' ∧
          statement = .conditional node
      | .keyword .switch_ => ∃ node, (Parser.switch inner).Yields c node c' ∧
          statement = .switch node
      | .keyword .do_ => ∃ body last, (Parser.block inner).Yields c.advance body last ∧ c' = last ∧
          statement = .doBlock (last.spanFrom start) body
      | .keyword .for_ | .keyword .while_ | .keyword .repeat_ =>
          ∃ node, (Parser.loop inner).Yields c node c' ∧ statement = .loop node
      | .keyword .return_ => (returning inner).Yields c statement c'
      | .keyword .fallthrough_ => c' = c.advance ∧
          statement = .fallthrough (c.advance.spanFrom start)
      | .keyword .break_ => c' = c.advance ∧ statement = .jump (c.advance.spanFrom start) .break
      | .keyword .continue_ => c' = c.advance ∧
          statement = .jump (c.advance.spanFrom start) .continue
      | .directive => ∃ node, Parser.directive.Yields c node c' ∧ statement = .directive node
      | _ => ∃ node, (Parser.expression inner .statement).Yields c node c' ∧
          statement = .expression node := by
  simp only [Parser.statement, yields_bind, yields_here, yields_peek, and_assoc, exists_and_left,
    exists_eq_left]
  split <;> simp [*, and_assoc]

/-! ### Declarations -/

/-- What a parser yields after a sign, when the sign comes next. -/
def YieldsAfter (sign : Symbol) (parser : Parser α) (c : Cursor) (value : Option α) (c' : Cursor) :
    Prop :=
  if c.next.kind = .symbol sign then ∃ found, parser.Yields c.advance found c' ∧ value = some found
  else value = none ∧ c' = c

/-- What follows a value that may be missing, for either case. -/
theorem exists_optional_iff {wanted : Prop} [Decidable wanted] {found : α → Cursor → Prop}
    {rest : Option α → Cursor → Prop} :
    (∃ value middle, (if wanted then ∃ inside, found inside middle ∧ value = some inside
        else value = none ∧ middle = c) ∧ rest value middle) ↔
      if wanted then ∃ inside middle, found inside middle ∧ rest (some inside) middle
      else rest none c := by
  by_cases holds : wanted
  · simp only [holds, if_true]
    constructor
    · rintro ⟨_, middle, ⟨inside, isFound, rfl⟩, more⟩
      exact ⟨inside, middle, isFound, more⟩
    · rintro ⟨inside, middle, isFound, more⟩
      exact ⟨some inside, middle, ⟨inside, isFound, rfl⟩, more⟩
  · simp [holds, and_assoc]

/-- What a parser yields where it is wanted. -/
def YieldsIf (wanted : Prop) [Decidable wanted] (parser : Parser α) (c : Cursor) (value : Option α)
    (c' : Cursor) : Prop :=
  if wanted then ∃ found, parser.Yields c found c' ∧ value = some found
  else value = none ∧ c' = c

/-- A generic parameter. -/
def genericParam (inner : Inner) : Parser GenericParam := do
  let start ← here
  let name ← identifier
  let bound ← if ← eatSymbol .colon then some <$> inner.type else pure none
  return ⟨← spanFrom start, name, bound⟩

theorem yields_genericParam {param : GenericParam} :
    (genericParam inner).Yields c param c' ↔ c.next.kind = .identifier ∧ ∃ bound last,
      YieldsAfter .colon inner.type c.advance bound last ∧ c' = last ∧
      param = ⟨last.spanFrom c.next.span.start, ⟨c.next.span, c.next.text⟩, bound⟩ := by
  simp only [YieldsAfter, exists_optional_iff]
  simp [genericParam, and_assoc]

theorem yields_generics {params : List GenericParam} :
    (generics inner).Yields c params c' ↔
      if c.next.kind = .symbol .less then
        (closedBy .greater (genericParam inner) inner.bound).Yields c.advance params c'
      else params = [] ∧ c' = c := by
  show (do
    if ← eatSymbol .less then closedBy .greater (genericParam inner) inner.bound
    else return [] : Parser (List GenericParam)).Yields c params c' ↔ _
  simp

theorem yields_conformances {answer : Unit} :
    (conformances inner).Yields c answer c' ↔
      if c.next.kind = .symbol .colon then
        ∃ types, (separated inner.type inner.bound).Yields c.advance types c'
      else c' = c := by
  simp [conformances]

/-- The cursor after a `where` clause, if one comes next. -/
def pastWhereClause (c : Cursor) : Cursor :=
  if c.next.kind = .identifier ∧ c.next.text = "where" then
    c.skip (c.rest.takeWhile continuesClause).length
  else c

theorem yields_skipWhereClause {answer : Unit} :
    skipWhereClause.Yields c answer c' ↔ c' = pastWhereClause c := by
  by_cases clause : c.next.kind = .identifier ∧ c.next.text = "where" <;>
    simp [skipWhereClause, pastWhereClause, clause]

/-- Whether a name or an underscore comes next, and which. -/
def NameAt (c : Cursor) (name : Name) : Prop :=
  c.next.kind = .symbol .underscore ∧ name = ⟨c.next.span, "_"⟩ ∨
    c.next.kind = .identifier ∧ name = ⟨c.next.span, c.next.text⟩

/-- What follows the names of a parameter. -/
def paramRest (inner : Inner) (start : Nat) (before : List Attribute) (first name : Name) :
    Parser Param := do
  let _ ← expectSymbol .colon
  let after ← attributes inner.bound
  let type ← inner.type
  let isVariadic ← eatSymbol .ellipsis
  if ← eatSymbol .assign then
    let _ ← inner.expression .delimited
  return ⟨← spanFrom start, before ++ after, if first.text == "_" then none else some first, name,
    type, isVariadic⟩

/-- The cursor after the dots of a variadic parameter, if they come next. -/
def pastEllipsis (c : Cursor) : Cursor :=
  if c.next.kind = .symbol .ellipsis then c.advance else c

theorem yields_paramRest {start : Nat} {before : List Attribute} {first name : Name}
    {param : Param} :
    (paramRest inner start before first name).Yields c param c' ↔ c.next.kind = .symbol .colon ∧
      ∃ after middle, (attributes inner.bound).Yields c.advance after middle ∧
      ∃ type typed, inner.type.Yields middle type typed ∧ ∃ default last,
        YieldsAfter .assign (inner.expression .delimited) (pastEllipsis typed) default last ∧
        c' = last ∧
        param = ⟨last.spanFrom start, before ++ after,
          if first.text == "_" then none else some first, name, type,
          typed.next.kind == .symbol .ellipsis⟩ := by
  simp only [paramRest, YieldsAfter, exists_optional_iff]
  simp [and_assoc]
  intro _
  refine exists_congr fun after => exists_congr fun middle => and_congr_right fun _ =>
    exists_congr fun type => exists_congr fun typed => and_congr_right fun _ => ?_
  by_cases ellipsis : typed.next.kind = .symbol .ellipsis
  · simp [ellipsis, pastEllipsis]
  · have other : (typed.next.kind == .symbol .ellipsis) = false := by simpa using ellipsis
    simp [ellipsis, other, pastEllipsis]

theorem yields_param {param : Param} :
    (Parser.param inner).Yields c param c' ↔ ∃ before outer,
      (attributes inner.bound).Yields c before outer ∧ ∃ first, NameAt outer first ∧
      if outer.advance.next.kind = .identifier ∨ outer.advance.next.kind = .symbol .underscore then
        ∃ name, NameAt outer.advance name ∧
          (paramRest inner c.next.span.start before first name).Yields outer.advance.advance param c'
      else (paramRest inner c.next.span.start before first first).Yields outer.advance param c' := by
  show (do
    let start ← here
    let before ← attributes inner.bound
    let first ← nameOrUnderscore
    let named := (← isAt .identifier) || (← isAtSymbol .underscore)
    let name ← if named then nameOrUnderscore else pure first
    paramRest inner start before first name : Parser Param).Yields c param c' ↔ _
  simp [and_assoc, NameAt]

theorem yields_functionDecl {start : Nat} {marks : List Attribute} {isStatic : Bool}
    {decl : FunctionDecl} :
    (Parser.functionDecl inner start marks isStatic).Yields c decl c' ↔
      let named := if c.next.kind = .keyword .func_ then c.advance else c
      named.next.kind = .identifier ∧ ∃ generics opening,
        (Parser.generics inner).Yields named.advance generics opening ∧
        opening.next.kind = .symbol .parenOpen ∧ ∃ params closing,
          (closedBy .parenClose (param inner) inner.bound).Yields opening.advance params closing ∧
          ∃ result typed, YieldsAfter .arrow inner.type closing result typed ∧ ∃ body last,
            YieldsIf ((pastWhereClause typed).next.kind = .symbol .braceOpen) (block inner)
              (pastWhereClause typed) body last ∧ c' = last ∧
            decl = ⟨last.spanFrom start, marks, isStatic, ⟨named.next.span, named.next.text⟩,
              generics, params, result, body⟩ := by
  simp only [YieldsAfter, YieldsIf, exists_optional_iff]
  by_cases keyword : c.next.kind = .keyword .func_ <;>
    simp [Parser.functionDecl, keyword, yields_skipWhereClause, and_assoc]

theorem yields_variableDecl {start : Nat} {marks : List Attribute} {decl : VariableDecl} :
    (Parser.variableDecl inner start marks).Yields c decl c' ↔ ∃ name,
      NameAt c.advance name ∧ ∃ type typed,
        YieldsAfter .colon inner.type c.advance.advance type typed ∧ ∃ value assigned,
          YieldsAfter .assign (Parser.expression inner .statement) typed value assigned ∧
          ∃ body last, YieldsIf (value = none ∧ assigned.next.kind = .symbol .braceOpen ∧
              assigned.breaks .statement = false) (block inner) assigned body last ∧ c' = last ∧
            decl = ⟨last.spanFrom start, marks, c.next.kind == .keyword .var_, name, type, value,
              body⟩ := by
  simp only [YieldsAfter, YieldsIf, exists_optional_iff, NameAt]
  simp [Parser.variableDecl, and_assoc]

theorem yields_enumCase {enumCase : EnumCase} :
    (Parser.enumCase inner).Yields c enumCase c' ↔ c.next.kind = .identifier ∧
      ∃ payload last, (if c.advance.next.kind = .symbol .parenOpen then
          (typeList inner).Yields c.advance payload last
        else payload = [] ∧ last = c.advance) ∧ c' = last ∧
        enumCase = ⟨last.spanFrom c.next.span.start, ⟨c.next.span, c.next.text⟩, payload⟩ := by
  by_cases opens : c.advance.next.kind = .symbol .parenOpen
  · simp [Parser.enumCase, opens, and_assoc]
  · simp only [opens, if_false, and_assoc, exists_and_left, exists_eq_left]
    simp [Parser.enumCase, opens, and_assoc]

/-- The cases after one keyword of an enum. -/
def enumCases (inner : Inner) : Parser (List EnumCase) := do
  let _ ← expectKeyword .case_
  separated (enumCase inner) inner.bound

theorem yields_enumCases {cases : List EnumCase} :
    (enumCases inner).Yields c cases c' ↔ c.next.kind = .keyword .case_ ∧
      (separated (enumCase inner) inner.bound).Yields c.advance cases c' := by
  simp [enumCases, and_assoc]

theorem yields_enumDecl {start : Nat} {decl : EnumDecl} :
    (Parser.enumDecl inner start).Yields c decl c' ↔ c.next.kind = .keyword .enum_ ∧
      c.advance.next.kind = .identifier ∧ ∃ params middle,
        (generics inner).Yields c.advance.advance params middle ∧ ∃ answer opening,
          (conformances inner).Yields middle answer opening ∧
          opening.next.kind = .symbol .braceOpen ∧ ∃ cases last,
            (sequence (· == .symbol .braceClose) (enumCases inner) inner.bound).Yields
              opening.advance cases last ∧ last.next.kind = .symbol .braceClose ∧
            c' = last.advance ∧
            decl = ⟨last.advance.spanFrom start, ⟨c.advance.next.span, c.advance.next.text⟩,
              cases.flatten⟩ := by
  show (do
    let _ ← expectKeyword .enum_
    let name ← identifier
    let _ ← generics inner
    conformances inner
    let _ ← expectSymbol .braceOpen
    let cases ← sequence (· == .symbol .braceClose) (enumCases inner) inner.bound
    let _ ← expectSymbol .braceClose
    return ⟨← spanFrom start, name, cases.flatten⟩ : Parser EnumDecl).Yields c decl c' ↔ _
  simp [and_assoc]

theorem yields_typeDecl {start : Nat} {marks : List Attribute} {decl : TypeDecl} :
    (Parser.typeDecl inner start marks).Yields c decl c' ↔
      c.advance.next.kind = .identifier ∧ ∃ params middle,
        (generics inner).Yields c.advance.advance params middle ∧ ∃ answer conforming,
          (conformances inner).Yields middle answer conforming ∧
          (pastWhereClause conforming).next.kind = .symbol .braceOpen ∧ ∃ members last,
            (sequence (· == .symbol .braceClose) inner.declaration inner.bound).Yields
              (pastWhereClause conforming).advance members last ∧
            last.next.kind = .symbol .braceClose ∧ c' = last.advance ∧
            decl = ⟨last.advance.spanFrom start, marks,
              if c.next.kind = .keyword .class_ then .classType else .structType,
              ⟨c.advance.next.span, c.advance.next.text⟩, params, members⟩ := by
  simp [Parser.typeDecl, yields_skipWhereClause, and_assoc]

theorem yields_declaration {decl : Declaration} :
    (Parser.declaration inner).Yields c decl c' ↔ ∃ marks middle,
      (attributes inner.bound).Yields c marks middle ∧
      let start := c.next.span.start
      let isStatic := middle.next.kind == .keyword .static_
      let opening := if middle.next.kind = .keyword .static_ then middle.advance else middle
      match opening.next.kind with
      | .keyword .struct_ | .keyword .class_ => ∃ node,
          (typeDecl inner start marks).Yields opening node c' ∧ decl = .type node
      | .keyword .enum_ => ∃ node, (enumDecl inner start).Yields opening node c' ∧
          decl = .enum node
      | .keyword .func_ => ∃ node,
          (functionDecl inner start marks isStatic).Yields opening node c' ∧ decl = .function node
      | .identifier => opening.next.text = "init" ∧ ∃ node,
          (functionDecl inner start marks isStatic).Yields opening node c' ∧ decl = .function node
      | .keyword .var_ | .keyword .let_ => ∃ node,
          (variableDecl inner start marks).Yields opening node c' ∧ decl = .variable node
      | _ => False := by
  simp only [Parser.declaration, yields_bind, yields_here, yields_eat, yields_peek, and_assoc,
    exists_and_left, exists_eq_left]
  refine exists_congr fun marks => exists_congr fun middle => and_congr_right fun _ => ?_
  split <;> simp [*]

end Parser

end ResultBuilder.Syntax
