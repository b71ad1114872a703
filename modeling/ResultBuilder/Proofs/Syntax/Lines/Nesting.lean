import ResultBuilder.Proofs.Syntax.Reading.Pattern

/-!
# Nested delimiters and line breaks

Tokens are nested when every parenthesis, bracket and brace is closed by the sign that matches it.
The closing signs that are awaited at a token tell which delimiters it stands in. Two rows of tokens
differ in grouped line breaks when they are the same but for the line breaks in front of tokens whose
innermost delimiter is a parenthesis or a bracket.

* **`IsNested`**, **`Relined`**: nested tokens, and tokens that differ in grouped line breaks.
* **`Cursor.Together`**, **`Cursor.Behind`**: cursors that read such tokens, and a cursor for which
  fewer closing signs are left than its parser awaits.
* **`Cursor.Together.advance`** and its like: what becomes of them when tokens are taken.
-/

namespace ResultBuilder.Syntax

open ResultBuilder.Syntax.Parser (groupsAfter opensGroup closesGroup patternTokens patternTokens_cons)

/-! ### Nested tokens -/

/-- The closing signs that are awaited behind a token of a kind, inner ones first. -/
def TokenKind.nest (awaited : List Symbol) : TokenKind → List Symbol
  | .symbol .parenOpen => .parenClose :: awaited
  | .symbol .bracketOpen => .bracketClose :: awaited
  | .symbol .braceOpen => .braceClose :: awaited
  | .symbol .parenClose | .symbol .bracketClose | .symbol .braceClose => awaited.tail
  | _ => awaited

/-- **A token that may come next** where closing signs are awaited: of the closing signs only the
innermost one, and the end of the file only outside of all delimiters. -/
def TokenKind.MayCome (awaited : List Symbol) : TokenKind → Prop
  | .symbol .parenClose => awaited.head? = some .parenClose
  | .symbol .bracketClose => awaited.head? = some .bracketClose
  | .symbol .braceClose => awaited.head? = some .braceClose
  | .endOfFile => awaited = []
  | _ => True

/-- **Properly nested tokens** within delimiters whose closing signs are awaited. -/
def IsNested : List Symbol → List Token → Prop
  | awaited, [] => awaited = []
  | awaited, token :: rest =>
      token.kind.MayCome awaited ∧ IsNested (token.kind.nest awaited) rest

/-- Whether the innermost delimiter is a parenthesis or a bracket. -/
def isGrouped : List Symbol → Bool
  | .parenClose :: _ | .bracketClose :: _ => true
  | _ => false

/-- A token without what is known of the line break in front of it. -/
def Token.unlined (token : Token) : Token :=
  { token with newlineBefore := false }

@[simp] theorem Token.kind_unlined (token : Token) : token.unlined.kind = token.kind :=
  rfl

@[simp] theorem Token.text_unlined (token : Token) : token.unlined.text = token.text :=
  rfl

@[simp] theorem Token.span_unlined (token : Token) : token.unlined.span = token.span :=
  rfl

/-- Tokens that are the same but for line breaks are of the same kind. -/
theorem Token.kind_of_unlined {token other : Token} (unlined : other.unlined = token.unlined) :
    other.kind = token.kind := by
  rw [← other.kind_unlined, unlined, token.kind_unlined]

/-- A token is known by what it is and by the line break in front of it. -/
theorem Token.eq_of_unlined {token other : Token} (unlined : other.unlined = token.unlined)
    (line : other.newlineBefore = token.newlineBefore) : other = token := by
  obtain ⟨kind, span, text, newlineBefore⟩ := token
  obtain ⟨otherKind, otherSpan, otherText, otherNewlineBefore⟩ := other
  cases unlined
  cases line
  rfl

/-- **Tokens that differ in grouped line breaks only**: in those in front of tokens whose innermost
delimiter is a parenthesis or a bracket. -/
def Relined : List Symbol → List Token → List Token → Prop
  | _, [], [] => True
  | awaited, token :: rest, other :: others =>
      (other.unlined = token.unlined ∧
        (isGrouped awaited = false → other.newlineBefore = token.newlineBefore)) ∧
      Relined (token.kind.nest awaited) rest others
  | _, _, _ => False

/-- A kind of token that is no delimiter. -/
def TokenKind.isPlain : TokenKind → Bool
  | .symbol .parenOpen | .symbol .bracketOpen | .symbol .braceOpen | .symbol .parenClose
  | .symbol .bracketClose | .symbol .braceClose => false
  | _ => true

theorem TokenKind.nest_of_isPlain {awaited : List Symbol} {kind : TokenKind}
    (isPlain : kind.isPlain = true) : kind.nest awaited = awaited := by
  unfold nest
  split <;> first | rfl | cases isPlain

/-- Only delimiters are not plain. -/
theorem TokenKind.isPlain_or (kind : TokenKind) : kind.isPlain = true ∨
    kind = .symbol .parenOpen ∨ kind = .symbol .bracketOpen ∨ kind = .symbol .braceOpen ∨
      kind = .symbol .parenClose ∨ kind = .symbol .bracketClose ∨ kind = .symbol .braceClose := by
  unfold isPlain
  split <;> simp

/-- Where fewer closing signs are awaited, fewer are awaited behind a token. -/
theorem TokenKind.length_nest_lt {fewer awaited : List Symbol} {kind : TokenKind}
    (mayCome : kind.MayCome fewer) (less : fewer.length < awaited.length) :
    (kind.nest fewer).length < (kind.nest awaited).length := by
  obtain isPlain | rfl | rfl | rfl | rfl | rfl | rfl := kind.isPlain_or
  · rwa [nest_of_isPlain isPlain, nest_of_isPlain isPlain]
  · exact Nat.succ_lt_succ less
  · exact Nat.succ_lt_succ less
  · exact Nat.succ_lt_succ less
  all_goals
    obtain ⟨outer, rfl⟩ := List.head?_eq_some_iff.mp mayCome
    simp only [nest, List.length_tail, List.length_cons] at less ⊢
    omega

/-- The closing signs that are awaited behind several tokens. -/
def nestAll (awaited : List Symbol) (tokens : List Token) : List Symbol :=
  tokens.foldl (fun awaited token => token.kind.nest awaited) awaited

theorem nestAll_of_isPlain {awaited : List Symbol} {tokens : List Token}
    (plain : ∀ token ∈ tokens, token.kind.isPlain = true) : nestAll awaited tokens = awaited := by
  induction tokens with
  | nil => rfl
  | cons token rest ih =>
      obtain ⟨isPlain, others⟩ := List.forall_mem_cons.mp plain
      rw [nestAll, List.foldl_cons, TokenKind.nest_of_isPlain isPlain]
      exact ih others

theorem IsNested.drop {awaited : List Symbol} {tokens : List Token}
    (nested : IsNested awaited tokens) (count : Nat) :
    IsNested (nestAll awaited (tokens.take count)) (tokens.drop count) := by
  induction tokens generalizing awaited count with
  | nil => simpa [nestAll] using nested
  | cons token rest ih =>
      cases count with
      | zero => exact nested
      | succ count => exact ih nested.2 count

theorem Relined.drop {awaited : List Symbol} {tokens others : List Token}
    (relined : Relined awaited tokens others) (count : Nat) :
    Relined (nestAll awaited (tokens.take count)) (tokens.drop count) (others.drop count) := by
  induction tokens generalizing awaited others count with
  | nil =>
      cases others with
      | nil => simp [Relined]
      | cons => cases relined
  | cons token rest ih =>
      cases others with
      | nil => cases relined
      | cons other others =>
          cases count with
          | zero => exact relined
          | succ count => exact ih relined.2 count

theorem Relined.map_unlined {awaited : List Symbol} {tokens others : List Token}
    (relined : Relined awaited tokens others) :
    others.map Token.unlined = tokens.map Token.unlined := by
  induction tokens generalizing awaited others with
  | nil =>
      cases others with
      | nil => rfl
      | cons => cases relined
  | cons token rest ih =>
      cases others with
      | nil => cases relined
      | cons other others =>
          rw [List.map_cons, List.map_cons, relined.1.1, ih relined.2]

theorem Relined.symm {awaited : List Symbol} {tokens others : List Token}
    (relined : Relined awaited tokens others) : Relined awaited others tokens := by
  induction tokens generalizing awaited others with
  | nil =>
      cases others with
      | nil => trivial
      | cons => cases relined
  | cons token rest ih =>
      cases others with
      | nil => cases relined
      | cons other others =>
          obtain ⟨⟨unlined, line⟩, relined⟩ := relined
          have kind : other.kind = token.kind := Token.kind_of_unlined unlined
          exact ⟨⟨unlined.symm, fun outside => (line outside).symm⟩, kind ▸ ih relined⟩

/-- Line breaks do not matter for nesting. -/
theorem Relined.isNested {awaited : List Symbol} {tokens others : List Token}
    (relined : Relined awaited tokens others) (nested : IsNested awaited tokens) :
    IsNested awaited others := by
  induction tokens generalizing awaited others with
  | nil =>
      cases others with
      | nil => exact nested
      | cons => cases relined
  | cons token rest ih =>
      cases others with
      | nil => cases relined
      | cons other others =>
          obtain ⟨⟨unlined, -⟩, relined⟩ := relined
          have kind : other.kind = token.kind := Token.kind_of_unlined unlined
          exact ⟨kind ▸ nested.1, kind ▸ ih relined nested.2⟩

/-! ### Patterns among nested tokens -/

/-- A closing sign of a parenthesis or a bracket. -/
def Symbol.closesGroup : Symbol → Bool
  | .parenClose | .bracketClose => true
  | _ => false

/-- **The delimiters inside a pattern** in a number of groups: the outermost of them is a group. -/
structure Groups (depth : Nat) (inner : List Symbol) : Prop where
  count : inner.countP Symbol.closesGroup = depth
  outermost : ∀ last ∈ inner.getLast?, last.closesGroup = true

namespace Groups

variable {depth : Nat} {sign : Symbol} {inner : List Symbol}

theorem nil : Groups 0 [] :=
  ⟨rfl, nofun⟩

theorem eq_nil (groups : Groups 0 inner) : inner = [] := by
  rw [← List.getLast?_eq_none_iff]
  cases isLast : inner.getLast? with
  | none => rfl
  | some last =>
      have none := List.countP_eq_zero.mp groups.count last (List.mem_of_getLast? isLast)
      exact absurd (groups.outermost last isLast) none

theorem ne_nil (groups : Groups (depth + 1) inner) : inner ≠ [] := by
  rintro rfl
  cases groups.count

/-- The outermost delimiter stays when a further one is opened in it. -/
theorem getLast?_cons (groups : Groups (depth + 1) inner) :
    (sign :: inner).getLast? = inner.getLast? := by
  obtain ⟨head, rest, rfl⟩ := List.exists_cons_of_ne_nil groups.ne_nil
  exact List.getLast?_cons_cons

theorem openGroup (groups : Groups depth inner) (isGroup : sign.closesGroup = true) :
    Groups (depth + 1) (sign :: inner) := by
  refine ⟨by rw [List.countP_cons_of_pos isGroup, groups.count], fun last isLast => ?_⟩
  rw [List.getLast?_cons] at isLast
  obtain rfl := Option.mem_some_iff.mp isLast
  cases isOuter : inner.getLast? with
  | none => exact isGroup
  | some outer => exact groups.outermost outer isOuter

theorem openBrace (groups : Groups (depth + 1) inner) :
    Groups (depth + 1) (.braceClose :: inner) :=
  ⟨by rw [List.countP_cons_of_neg (by decide), groups.count],
    groups.getLast?_cons ▸ groups.outermost⟩

theorem closeGroup (groups : Groups (depth + 1) (sign :: inner))
    (isGroup : sign.closesGroup = true) : Groups depth inner := by
  have count := groups.count
  rw [List.countP_cons_of_pos isGroup] at count
  refine ⟨Nat.succ.inj count, fun last isLast => groups.outermost last ?_⟩
  rw [List.getLast?_cons, isLast]
  rfl

theorem closeBrace (groups : Groups (depth + 1) (.braceClose :: inner)) :
    Groups (depth + 1) inner := by
  have count := groups.count
  rw [List.countP_cons_of_neg (by decide)] at count
  refine ⟨count, fun last isLast => groups.outermost last ?_⟩
  rw [List.getLast?_cons, isLast]
  rfl

/-- A pattern only stops outside of all groups. -/
theorem eq_nil_of_stopped {stops : TokenKind → Bool} {awaited : List Symbol} {kind : TokenKind}
    (groups : Groups depth inner) (mayCome : kind.MayCome (inner ++ awaited))
    (stopped : groupsAfter stops depth kind = none) : inner = [] := by
  by_cases isEnd : kind = .endOfFile
  · subst isEnd
    exact (List.append_eq_nil_iff.mp mayCome).1
  cases depth with
  | zero => exact groups.eq_nil
  | succ depth =>
      simp only [groupsAfter, isEnd, if_false, Nat.succ_ne_zero] at stopped
      split at stopped <;> cases stopped

end Groups

/-- A token that is no delimiter opens and closes no group. -/
theorem groupsAfter_of_isPlain {stops : TokenKind → Bool} {depth after : Nat} {kind : TokenKind}
    (isPlain : kind.isPlain = true) (goesOn : groupsAfter stops depth kind = some after) :
    after = depth := by
  have opens : opensGroup kind = false := by
    unfold opensGroup
    split <;> first | rfl | cases isPlain
  have closes : closesGroup kind = false := by
    unfold closesGroup
    split <;> first | rfl | cases isPlain
  simp only [groupsAfter, opens, closes, Bool.false_and, Bool.or_false] at goesOn
  split at goesOn
  · cases goesOn
  · by_cases outside : depth = 0
    · simp only [outside, if_true, Bool.false_eq_true, if_false] at goesOn ⊢
      split at goesOn <;> cases goesOn
      rfl
    · simp only [outside, if_false, Bool.false_eq_true, Option.some.injEq] at goesOn
      exact goesOn.symm

/-- **A pattern that goes on** over a token opens a group, closes one or stays in its groups. Outside
of them it may take a closing brace that was awaited around it. -/
theorem Groups.step {stops : TokenKind → Bool} {depth after : Nat} {inner awaited : List Symbol}
    {kind : TokenKind} (groups : Groups depth inner) (mayCome : kind.MayCome (inner ++ awaited))
    (goesOn : groupsAfter stops depth kind = some after) :
    ∃ innerAfter awaitedAfter, Groups after innerAfter ∧
      kind.nest (inner ++ awaited) = innerAfter ++ awaitedAfter ∧ awaitedAfter <:+ awaited := by
  obtain isPlain | isDelimiter := kind.isPlain_or
  · obtain rfl := groupsAfter_of_isPlain isPlain goesOn
    exact ⟨inner, awaited, groups, TokenKind.nest_of_isPlain isPlain, List.suffix_rfl⟩
  cases depth with
  | zero =>
      obtain rfl := groups.eq_nil
      obtain rfl | rfl | rfl | rfl | rfl | rfl := isDelimiter
      · cases isStop : stops (.symbol .parenOpen) <;>
          simp [groupsAfter, opensGroup, closesGroup, isStop] at goesOn
        subst goesOn
        exact ⟨_, awaited, Groups.nil.openGroup rfl, rfl, List.suffix_rfl⟩
      · cases isStop : stops (.symbol .bracketOpen) <;>
          simp [groupsAfter, opensGroup, closesGroup, isStop] at goesOn
        subst goesOn
        exact ⟨_, awaited, Groups.nil.openGroup rfl, rfl, List.suffix_rfl⟩
      · simp [groupsAfter, opensGroup, closesGroup] at goesOn
      · simp [groupsAfter, opensGroup, closesGroup] at goesOn
      · simp [groupsAfter, opensGroup, closesGroup] at goesOn
      · obtain ⟨outer, rfl⟩ := List.head?_eq_some_iff.mp mayCome
        cases isStop : stops (.symbol .braceClose) <;>
          simp [groupsAfter, opensGroup, closesGroup, isStop] at goesOn
        subst goesOn
        exact ⟨[], outer, .nil, rfl, List.suffix_cons _ _⟩
  | succ depth =>
      obtain ⟨sign, inner, rfl⟩ := List.exists_cons_of_ne_nil groups.ne_nil
      obtain rfl | rfl | rfl | rfl | rfl | rfl := isDelimiter <;>
        simp [groupsAfter, opensGroup, closesGroup] at goesOn <;> subst goesOn
      · exact ⟨_, awaited, groups.openGroup rfl, rfl, List.suffix_rfl⟩
      · exact ⟨_, awaited, groups.openGroup rfl, rfl, List.suffix_rfl⟩
      · exact ⟨_, awaited, groups.openBrace, rfl, List.suffix_rfl⟩
      · obtain rfl : sign = .parenClose := Option.some.inj mayCome
        exact ⟨inner, awaited, groups.closeGroup rfl, rfl, List.suffix_rfl⟩
      · obtain rfl : sign = .bracketClose := Option.some.inj mayCome
        exact ⟨inner, awaited, groups.closeGroup rfl, rfl, List.suffix_rfl⟩
      · obtain rfl : sign = .braceClose := Option.some.inj mayCome
        exact ⟨inner, awaited, groups.closeBrace, rfl, List.suffix_rfl⟩

/-- **Behind a pattern no more closing signs are awaited** than in front of it, and none that were
not awaited there: it closes its groups, but it may take closing braces that it has not opened. -/
theorem nestAll_patternTokens {stops : TokenKind → Bool} {depth : Nat} {inner awaited : List Symbol}
    {tokens : List Token} (groups : Groups depth inner)
    (nested : IsNested (inner ++ awaited) tokens) :
    nestAll (inner ++ awaited) (patternTokens stops depth tokens) <:+ awaited := by
  induction tokens generalizing depth inner awaited with
  | nil =>
      obtain ⟨rfl, rfl⟩ := List.append_eq_nil_iff.mp nested
      rw [patternTokens]
      exact List.suffix_rfl
  | cons token rest ih =>
      obtain ⟨mayCome, nested⟩ := nested
      rw [patternTokens_cons]
      split
      case h_1 stopped =>
        rw [groups.eq_nil_of_stopped mayCome stopped]
        exact List.suffix_rfl
      case h_2 after goesOn =>
        obtain ⟨innerAfter, awaitedAfter, groupsAfter, nest, part⟩ := groups.step mayCome goesOn
        rw [nest] at nested
        rw [nestAll, List.foldl_cons, nest]
        exact (ih groupsAfter nested).trans part

/-! ### Cursors -/

/-- **No name starts a `where` clause**, which ends at a line break wherever it stands. -/
def HasNoWhere (tokens : List Token) : Prop :=
  ∀ token ∈ tokens, ¬ (token.kind = .identifier ∧ token.text = "where")

/-- Line breaks do not matter for names. -/
theorem HasNoWhere.of_map_unlined {tokens others : List Token} (noWhere : HasNoWhere tokens)
    (unlined : others.map Token.unlined = tokens.map Token.unlined) : HasNoWhere others := by
  intro other listed isWhere
  have ofTokens : other.unlined ∈ tokens.map Token.unlined :=
    unlined ▸ List.mem_map_of_mem listed
  obtain ⟨token, listed, same⟩ := List.mem_map.mp ofTokens
  refine noWhere token listed ?_
  rwa [← token.kind_unlined, ← token.text_unlined, same]

namespace Cursor

/-- A cursor without what is known of line breaks. -/
def unlined (c : Cursor) : Cursor :=
  { c with rest := c.rest.map Token.unlined }

@[simp] theorem rest_unlined (c : Cursor) : c.unlined.rest = c.rest.map Token.unlined :=
  rfl

/-- **A cursor in delimiters** whose closing signs are awaited. -/
structure Awaits (awaited : List Symbol) (c : Cursor) : Prop where
  nested : IsNested awaited c.rest
  noWhere : HasNoWhere c.rest

/-- **Cursors that read together**: where the same closing signs are awaited, with tokens that differ
in grouped line breaks only. -/
structure Together (awaited : List Symbol) (c d : Cursor) : Prop where
  awaits : c.Awaits awaited
  source : d.source = c.source
  lastEnd : d.lastEnd = c.lastEnd
  relined : Relined awaited c.rest d.rest

/-- **A cursor that has fallen behind** its parser, which awaits more closing signs than are left. -/
def Behind (awaited : List Symbol) (c : Cursor) : Prop :=
  ∃ fewer, c.Awaits fewer ∧ fewer.length < awaited.length

variable {awaited : List Symbol} {c d : Cursor}

/-- Nothing falls behind outside of all delimiters. -/
theorem not_behind_nil : ¬ c.Behind [] := by
  rintro ⟨fewer, -, less⟩
  exact absurd less (Nat.not_lt_zero _)

theorem next_unlined (c : Cursor) : c.unlined.next = c.next.unlined := by
  unfold next unlined
  cases c.rest <;> rfl

theorem second_unlined (c : Cursor) : c.unlined.second = c.second.unlined := by
  unfold second
  rw [next_unlined]
  unfold unlined
  match c.rest with
  | [] | [_] | _ :: _ :: _ => rfl

/-- What may come next is a token, or the end of the file where nothing is left. -/
theorem Awaits.mayCome (awaits : c.Awaits awaited) : c.next.kind.MayCome awaited := by
  have nested := awaits.nested
  unfold next
  cases left : c.rest with
  | nil =>
      rw [left] at nested
      exact nested
  | cons token rest =>
      rw [left] at nested
      exact nested.1

theorem Awaits.skip (awaits : c.Awaits awaited) (count : Nat) :
    (c.skip count).Awaits (nestAll awaited (c.rest.take count)) where
  nested := awaits.nested.drop count
  noWhere token member := awaits.noWhere token (List.mem_of_mem_drop member)

namespace Together

variable (together : Together awaited c d)

include together

theorem unlined_eq : d.unlined = c.unlined := by
  unfold unlined
  rw [together.source, together.lastEnd, together.relined.map_unlined]

/-- Both cursors play the same part. -/
theorem symm : Together awaited d c where
  awaits := ⟨together.relined.isNested together.awaits.nested,
    together.awaits.noWhere.of_map_unlined together.relined.map_unlined⟩
  source := together.source.symm
  lastEnd := together.lastEnd.symm
  relined := together.relined.symm

theorem next_unlined : d.next.unlined = c.next.unlined := by
  rw [← Cursor.next_unlined, ← Cursor.next_unlined, together.unlined_eq]

theorem kind_next : d.next.kind = c.next.kind :=
  Token.kind_of_unlined together.next_unlined

/-- Outside of parentheses and brackets the line breaks are the same. -/
theorem newlineBefore_next (outside : isGrouped awaited = false) :
    d.next.newlineBefore = c.next.newlineBefore := by
  have relined := together.relined
  unfold next
  generalize c.rest = tokens at relined
  generalize d.rest = others at relined
  cases tokens <;> cases others
  · rfl
  · cases relined
  · cases relined
  · exact relined.1.2 outside

/-- The same number of tokens further on. -/
theorem skip (count : Nat) :
    Together (nestAll awaited (c.rest.take count)) (c.skip count) (d.skip count) where
  awaits := together.awaits.skip count
  source := together.source
  lastEnd := by
    have ends : ((d.rest.take count).map Token.unlined).getLast?.map (·.span.stop) =
        ((c.rest.take count).map Token.unlined).getLast?.map (·.span.stop) := by
      rw [List.map_take, List.map_take, together.relined.map_unlined]
    simp only [List.getLast?_map, Option.map_map] at ends
    change ((d.rest.take count).getLast?.map (·.span.stop)).getD d.lastEnd =
      ((c.rest.take count).getLast?.map (·.span.stop)).getD c.lastEnd
    rw [together.lastEnd]
    exact congrArg (·.getD c.lastEnd) ends
  relined := together.relined.drop count

end Together

/-- The next token nests like the first of the tokens that are left. -/
theorem nestAll_take_one (notEnd : c.next.kind ≠ .endOfFile) :
    nestAll awaited (c.rest.take 1) = c.next.kind.nest awaited := by
  unfold next at notEnd ⊢
  cases left : c.rest with
  | nil =>
      rw [left] at notEnd
      exact absurd rfl notEnd
  | cons token rest => rfl

theorem advance_of_kind (isEnd : c.next.kind = .endOfFile) : c.advance = c := by
  rw [advance, if_pos (by rw [isEnd]; rfl)]

theorem advance_of_kind_ne (notEnd : c.next.kind ≠ .endOfFile) : c.advance = c.skip 1 := by
  rw [advance, if_neg (by simpa using notEnd)]

/-- Behind the next token comes the second one, if that is another one. -/
theorem next_advance (notEnd : c.next.kind ≠ .endOfFile) (other : c.second.kind ≠ c.next.kind) :
    c.advance.next = c.second := by
  rw [advance_of_kind_ne notEnd]
  unfold second at other ⊢
  unfold next skip at *
  match left : c.rest with
  | [] | [_] => exact absurd rfl (left ▸ other)
  | _ :: _ :: _ => rfl

/-- Behind the next token the closing signs are awaited that it nests. -/
theorem Awaits.advance (awaits : c.Awaits awaited) :
    c.advance.Awaits (c.next.kind.nest awaited) := by
  by_cases isEnd : c.next.kind = .endOfFile
  · rw [advance_of_kind isEnd, isEnd]
    exact awaits
  · rw [advance_of_kind_ne isEnd, ← nestAll_take_one isEnd]
    exact awaits.skip 1

/-- **Behind the next token** both cursors are together again. -/
theorem Together.advance (together : Together awaited c d) :
    Together (c.next.kind.nest awaited) c.advance d.advance := by
  by_cases isEnd : c.next.kind = .endOfFile
  · rw [advance_of_kind isEnd, advance_of_kind (together.kind_next.trans isEnd), isEnd]
    exact together
  · have notEnd : d.next.kind ≠ .endOfFile := together.kind_next ▸ isEnd
    rw [advance_of_kind_ne isEnd, advance_of_kind_ne notEnd, ← nestAll_take_one isEnd]
    exact together.skip 1

theorem Behind.advance (behind : c.Behind awaited) :
    c.advance.Behind (c.next.kind.nest awaited) := by
  obtain ⟨fewer, awaits, less⟩ := behind
  exact ⟨_, awaits.advance, TokenKind.length_nest_lt awaits.mayCome less⟩

/-- A cursor does not catch up over tokens that are no delimiters. -/
theorem Behind.skip {count : Nat} (behind : c.Behind awaited)
    (plain : ∀ token ∈ c.rest.take count, token.kind.isPlain = true) :
    (c.skip count).Behind awaited := by
  obtain ⟨fewer, awaits, less⟩ := behind
  have awaits := awaits.skip count
  rw [nestAll_of_isPlain plain] at awaits
  exact ⟨fewer, awaits, less⟩

/-- The next token is no name that starts a `where` clause. -/
theorem Awaits.noWhere_next (awaits : c.Awaits awaited) :
    ¬ (c.next.kind = .identifier ∧ c.next.text = "where") := by
  have noWhere := awaits.noWhere
  unfold next
  cases left : c.rest with
  | nil => exact fun isWhere => nomatch isWhere.1
  | cons token rest => exact noWhere token (left ▸ List.mem_cons_self)

section Patterns

variable {stops : TokenKind → Bool}

/-- A pattern is made of tokens that differ in line breaks at most. -/
theorem Together.map_unlined_patternTokens (together : Together awaited c d) :
    (patternTokens stops 0 d.rest).map Token.unlined =
      (patternTokens stops 0 c.rest).map Token.unlined := by
  have bare : d.rest.map Token.bare = c.rest.map Token.bare := by
    have same := congrArg (List.map Token.bare) together.relined.map_unlined
    rwa [List.map_map, List.map_map] at same
  have length : (patternTokens stops 0 d.rest).length = (patternTokens stops 0 c.rest).length := by
    have same := congrArg (fun tokens => (patternTokens stops 0 tokens).length) bare
    simpa only [Parser.patternTokens_map_bare, List.length_map] using same
  rw [List.prefix_iff_eq_take.mp (@Parser.patternTokens_isFront stops 0 d.rest).1,
    List.prefix_iff_eq_take.mp (@Parser.patternTokens_isFront stops 0 c.rest).1, length,
    List.map_take, List.map_take, together.relined.map_unlined]

/-- Behind a pattern the same closing signs are awaited as in front of it, or fewer. -/
theorem Awaits.skip_pattern (awaits : c.Awaits awaited) :
    nestAll awaited (c.rest.take (patternTokens stops 0 c.rest).length) <:+ awaited := by
  have front := (@Parser.patternTokens_isFront stops 0 c.rest).1
  rw [← List.prefix_iff_eq_take.mp front]
  exact nestAll_patternTokens .nil awaits.nested

/-- **Behind a pattern** cursors are together again, unless it has taken a closing brace that belongs
to what is around it. -/
theorem Together.skip_pattern (together : Together awaited c d) :
    (c.skip (patternTokens stops 0 c.rest).length).Behind awaited ∨
      Together awaited (c.skip (patternTokens stops 0 c.rest).length)
        (d.skip (patternTokens stops 0 c.rest).length) := by
  have part := @Awaits.skip_pattern _ _ stops together.awaits
  have further := together.skip (patternTokens stops 0 c.rest).length
  rcases Nat.lt_or_eq_of_le part.length_le with less | same
  · exact .inl ⟨_, further.awaits, less⟩
  · rw [part.eq_of_length same] at further
    exact .inr further

theorem Behind.skip_pattern (behind : c.Behind awaited) :
    (c.skip (patternTokens stops 0 c.rest).length).Behind awaited := by
  obtain ⟨fewer, awaits, less⟩ := behind
  exact ⟨_, awaits.skip _, Nat.lt_of_le_of_lt awaits.skip_pattern.length_le less⟩

end Patterns

end Cursor

end ResultBuilder.Syntax
