import Mathlib.Data.List.Chain
import ResultBuilder.Proofs.Syntax.Reading.Pattern

/-!
# Patterns that match every value

A pattern is the longest run of tokens that the next token does not end. Whether a value may fail to
match it is read off the kinds of its tokens. It cannot fail when the pattern is a blank, or when it
names a case and each part of its payload is a blank or a binding; all other patterns are refutable,
those with further groups, a guard, no parts or a part that is missing among them.

* **`Parser.EndsPattern`**, **`Parser.patternTokens_split`**: where a pattern ends, and what is left
  of its run behind a front of it.
* **`Parser.IsIrrefutable`**, **`Parser.isRefutable_eq_false_iff`**: the patterns that match every
  value of their case, and that the parser tells them from all others.
* **`Parser.Narrows`**, **`Parser.Narrows.not_isIrrefutable`**: ways in which a pattern asks for
  more.
* **`Parser.pattern_isRefutable`**: what is known of the pattern that a parser reads.
-/

namespace ResultBuilder.Syntax.Parser

variable {stops : TokenKind → Bool} {depth : Nat} {kind : TokenKind}

/-! ### Where a pattern ends -/

/-- The number of groups that tokens open. -/
def opened (tokens : List Token) : Nat :=
  tokens.countP (opensGroup ·.kind)

/-- The number of groups that tokens close. -/
def closed (tokens : List Token) : Nat :=
  tokens.countP (closesGroup ·.kind)

/-- **The next token ends a pattern** behind a front of it: always at the end of the file, and
outside all groups at a stop, at an opening brace and where a group ends that is not of the
pattern. -/
def EndsPattern (stops : TokenKind → Bool) (front : List Token) (next : TokenKind) : Prop :=
  next = .endOfFile ∨
    opened front = closed front ∧
      (next = .symbol .braceOpen ∨ stops next = true ∨ closesGroup next = true)

theorem countP_kind_cons (counts : TokenKind → Bool) (token : Token) (tokens : List Token) :
    (token :: tokens).countP (counts ·.kind) =
      tokens.countP (counts ·.kind) + (counts token.kind).toNat := by
  rw [List.countP_cons]
  cases counts token.kind <;> rfl

theorem opensGroup_iff :
    opensGroup kind = true ↔ kind = .symbol .parenOpen ∨ kind = .symbol .bracketOpen := by
  unfold opensGroup
  split <;> simp_all

/-- **What a token does to a pattern**: it ends the pattern, or it changes the number of open groups
by what it opens and closes. -/
theorem groupsAfter_eq :
    groupsAfter stops depth kind =
      if kind = .endOfFile ∨
          depth = 0 ∧ (kind = .symbol .braceOpen ∨ stops kind = true ∨ closesGroup kind = true) then
        none
      else some (depth + (opensGroup kind).toNat - (closesGroup kind).toNat) := by
  by_cases isEnd : kind = .endOfFile
  · simp [groupsAfter, isEnd]
  · by_cases opens : opensGroup kind = true
    · -- what opens a group closes none, but it may be a stop
      rcases opensGroup_iff.mp opens with rfl | rfl <;> cases depth <;>
        cases stop : stops _ <;> simp [groupsAfter, opensGroup, closesGroup, stop]
    · cases depth <;> by_cases closes : closesGroup kind = true <;>
        simp [groupsAfter, isEnd, opens, closes]

/-- A token that does not end a pattern closes a group only if one is open. -/
theorem groupsAfter_eq_some {after : Nat} (goesOn : groupsAfter stops depth kind = some after) :
    after + (closesGroup kind).toNat = depth + (opensGroup kind).toNat := by
  rw [groupsAfter_eq] at goesOn
  split at goesOn
  · cases goesOn
  · next inside =>
      obtain rfl := Option.some.inj goesOn
      have enough : (closesGroup kind).toNat ≤ depth := by
        cases closes : closesGroup kind with
        | false => exact Nat.zero_le _
        | true =>
            refine Nat.pos_of_ne_zero ?_
            intro outside
            exact inside (.inr ⟨outside, .inr (.inr closes)⟩)
      omega

theorem endsPattern_iff {front : List Token} (enough : closed front ≤ opened front) :
    EndsPattern stops front kind ↔ groupsAfter stops (opened front - closed front) kind = none := by
  have outside : opened front = closed front ↔ opened front - closed front = 0 := by omega
  rw [groupsAfter_eq, EndsPattern, outside]
  split <;> simp_all

/-- No pattern starts where the next token ends it. -/
theorem patternTokens_eq_nil_iff {tokens : List Token} :
    patternTokens stops depth tokens = [] ↔
      ∀ next ∈ tokens.head?, groupsAfter stops depth next.kind = none := by
  cases tokens with
  | nil => simp [patternTokens]
  | cons next rest =>
      rw [patternTokens_cons]
      cases goesOn : groupsAfter stops depth next.kind <;> simp [goesOn]

/-- A pattern starts with the next token if that does not end it. -/
theorem patternTokens_eq_cons_iff {tokens back : List Token} {token : Token} :
    patternTokens stops depth tokens = token :: back ↔
      ∃ rest after, tokens = token :: rest ∧ groupsAfter stops depth token.kind = some after ∧
        patternTokens stops after rest = back := by
  cases tokens with
  | nil => simp [patternTokens]
  | cons next rest =>
      rw [patternTokens_cons]
      constructor
      · intro cut
        cases goesOn : groupsAfter stops depth next.kind with
        | none => simp [goesOn] at cut
        | some after =>
            simp only [goesOn, List.cons.injEq] at cut
            obtain ⟨rfl, cut⟩ := cut
            exact ⟨rest, after, rfl, goesOn, cut⟩
      · rintro ⟨_, after, same, goesOn, rfl⟩
        obtain ⟨rfl, rfl⟩ := List.cons.inj same
        rw [goesOn]

/-- **What is left of a pattern behind a front of it** is the pattern within the groups that the
front leaves open. The front closes none that it did not find open. -/
theorem patternTokens_split {tokens front back : List Token}
    (cut : patternTokens stops depth tokens = front ++ back) :
    ∃ rest, tokens = front ++ rest ∧ closed front ≤ depth + opened front ∧
      patternTokens stops (depth + opened front - closed front) rest = back := by
  induction front generalizing depth tokens with
  | nil => exact ⟨tokens, rfl, Nat.zero_le _, cut⟩
  | cons token front ih =>
      obtain ⟨_, after, rfl, goesOn, cut⟩ := patternTokens_eq_cons_iff.mp cut
      obtain ⟨rest, rfl, enough, further⟩ := ih cut
      have step := groupsAfter_eq_some goesOn
      -- the rest of the front starts within the groups that its first token leaves open
      have opens : opened (token :: front) = opened front + (opensGroup token.kind).toNat :=
        countP_kind_cons opensGroup token front
      have closes : closed (token :: front) = closed front + (closesGroup token.kind).toNat :=
        countP_kind_cons closesGroup token front
      have same : depth + opened (token :: front) - closed (token :: front) =
          after + opened front - closed front := by omega
      exact ⟨rest, rfl, by omega, same ▸ further⟩

/-- No front of a pattern closes more groups than it opens. -/
theorem closed_le_opened {tokens front : List Token}
    (isFront : front <+: patternTokens stops 0 tokens) : closed front ≤ opened front := by
  obtain ⟨back, cut⟩ := isFront
  obtain ⟨_, -, enough, -⟩ := patternTokens_split cut.symm
  omega

/-- **A pattern ends where the next token ends it**, and nowhere before. -/
theorem patternTokens_ends (tokens : List Token) :
    ∃ rest, tokens = patternTokens stops 0 tokens ++ rest ∧
      (∀ next ∈ rest.head?, EndsPattern stops (patternTokens stops 0 tokens) next.kind) ∧
      ∀ front next back, patternTokens stops 0 tokens = front ++ next :: back →
        ¬ EndsPattern stops front next.kind := by
  obtain ⟨rest, whole, -, ended⟩ :=
    patternTokens_split (List.append_nil (patternTokens stops 0 tokens)).symm
  rw [Nat.zero_add] at ended
  refine ⟨rest, whole, ?_, ?_⟩
  · intro next isNext
    exact (endsPattern_iff (closed_le_opened (List.prefix_refl _))).mpr
      (patternTokens_eq_nil_iff.mp ended next isNext)
  · intro front next back cut ends
    obtain ⟨_, -, -, further⟩ := patternTokens_split cut
    obtain ⟨_, after, -, goesOn, -⟩ := patternTokens_eq_cons_iff.mp further
    have enough : closed front ≤ opened front := closed_le_opened ⟨_, cut.symm⟩
    rw [Nat.zero_add] at goesOn
    rw [endsPattern_iff enough, goesOn] at ends
    exact Option.some_ne_none after ends

/-! ### Patterns that match every value -/

/-- **A part of a payload that matches every value**, by the kinds of its tokens. -/
inductive MatchesAll : List TokenKind → Prop
  /-- A blank. -/
  | blank : MatchesAll [.symbol .underscore]
  /-- A binding, which need not have a name. -/
  | binding {word name : TokenKind} (binds : word = .keyword .let_ ∨ word = .keyword .var_)
      (named : name = .identifier ∨ name = .symbol .underscore) : MatchesAll [word, name]

/-- **A pattern that matches every value of its case**, by the kinds of its tokens. -/
inductive IsIrrefutable : List TokenKind → Prop
  /-- A blank. -/
  | blank : IsIrrefutable [.symbol .underscore]
  /-- A name of a case. -/
  | plain : IsIrrefutable [.symbol .dot, .identifier]
  /-- A name of a case with parts that each match every value. -/
  | payload {parts : List (List TokenKind)} (some : parts ≠ [])
      (all : ∀ part ∈ parts, MatchesAll part) :
      IsIrrefutable (.symbol .dot :: .identifier :: .symbol .parenOpen ::
        ([.symbol .comma].intercalate parts ++ [.symbol .parenClose]))

theorem partMatchesAll_iff {part : List Token} :
    partMatchesAll part = true ↔ MatchesAll (part.map (·.kind)) := by
  constructor
  · intro matchesAll
    match part with
    | [] => cases matchesAll
    | [token] =>
        have isBlank : token.kind = .symbol .underscore := by
          simpa [partMatchesAll] using matchesAll
        rw [List.map_singleton, isBlank]
        exact .blank
    | [word, name] =>
        obtain ⟨binds, named⟩ : (word.kind = .keyword .let_ ∨ word.kind = .keyword .var_) ∧
            (name.kind = .identifier ∨ name.kind = .symbol .underscore) := by
          simpa [partMatchesAll] using matchesAll
        exact .binding binds named
    | _ :: _ :: _ :: _ => cases matchesAll
  · intro matchesAll
    generalize same : part.map (·.kind) = kinds at matchesAll
    cases matchesAll with
    | blank =>
        obtain ⟨token, rfl, isBlank⟩ := List.map_eq_singleton_iff.mp same
        simp [partMatchesAll, isBlank]
    | binding binds named =>
        obtain ⟨word, _, rfl, rfl, rest⟩ := List.map_eq_cons_iff.mp same
        obtain ⟨name, rfl, rfl⟩ := List.map_eq_singleton_iff.mp rest
        simp [partMatchesAll, binds, named]

theorem payloadParts_ne_nil (depth : Nat) (part tokens : List Token) :
    payloadParts depth part tokens ≠ [] := by
  induction tokens generalizing depth part with
  | nil => exact List.cons_ne_nil _ _
  | cons token rest ih =>
      rw [payloadParts]
      split
      · exact List.cons_ne_nil _ _
      · exact ih _ _

/-- **No token is lost**: with commas between them the parts are the payload. -/
theorem intercalate_payloadParts (depth : Nat) (part tokens : List Token) :
    [.symbol .comma].intercalate ((payloadParts depth part tokens).map (·.map (·.kind))) =
      (part.reverse ++ tokens).map (·.kind) := by
  induction tokens generalizing depth part with
  | nil => simp [payloadParts]
  | cons token rest ih =>
      rw [payloadParts]
      -- the groups that are open only decide whether a comma separates parts
      split
      · next separates =>
          have isComma : token.kind = .symbol .comma := by simp_all
          have others : (payloadParts 0 [] rest).map (·.map (·.kind)) ≠ [] := by
            simpa using payloadParts_ne_nil 0 [] rest
          rw [List.map_cons, List.intercalate_cons_of_ne_nil others, ih]
          simp [isComma]
      · rw [ih, List.reverse_cons, List.append_assoc, List.singleton_append]

/-- **Where no group is opened, the parts are what stands between the commas.** -/
theorem map_payloadParts_of_flat (part : List Token) {tokens : List Token}
    (flat : ∀ token ∈ tokens, opensGroup token.kind = false) :
    (payloadParts 0 part tokens).map (·.map (·.kind)) =
      ((tokens.map (·.kind)).splitOn (.symbol .comma)).modifyHead
        (part.reverse.map (·.kind) ++ ·) := by
  induction tokens generalizing part with
  | nil => simp [payloadParts]
  | cons token rest ih =>
      obtain ⟨opensNone, others⟩ := List.forall_mem_cons.mp flat
      rw [payloadParts, List.map_cons, List.splitOn_eq_splitOnP,
        List.splitOnP_cons_eq_if_modifyHead, ← List.splitOn_eq_splitOnP]
      by_cases separates : token.kind = .symbol .comma
      · have first := (ih [] others).trans (congrFun List.modifyHead_id _)
        simp [separates, first]
      · -- a token that closes a group leaves the payload outside all groups
        simp [separates, opensNone, ih (token :: part) others, Function.comp_def]

/-- A part that matches every value opens and closes no groups, and no comma is in it. -/
theorem MatchesAll.flat {part : List TokenKind} (all : MatchesAll part) (member : kind ∈ part) :
    opensGroup kind = false ∧ closesGroup kind = false ∧ kind ≠ .symbol .comma := by
  cases all with
  | blank =>
      obtain rfl := List.mem_singleton.mp member
      decide
  | binding binds named =>
      simp only [List.mem_cons, List.not_mem_nil, or_false] at member
      rcases member with rfl | rfl
      · rcases binds with rfl | rfl <;> decide
      · rcases named with rfl | rfl <;> decide

/-- Neither do such parts with commas between them open or close groups. -/
theorem flat_of_mem_intercalate {parts : List (List TokenKind)}
    (all : ∀ part ∈ parts, MatchesAll part)
    (member : kind ∈ [.symbol .comma].intercalate parts) :
    opensGroup kind = false ∧ closesGroup kind = false := by
  induction parts with
  | nil => exact absurd member (by simp)
  | cons part others ih =>
      obtain ⟨first, rest⟩ := List.forall_mem_cons.mp all
      cases others with
      | nil =>
          rw [List.intercalate_singleton] at member
          exact ⟨(first.flat member).1, (first.flat member).2.1⟩
      | cons next others =>
          rw [List.intercalate_cons_cons, List.mem_append, List.mem_append,
            List.mem_singleton] at member
          rcases member with (member | rfl) | member
          · exact ⟨(first.flat member).1, (first.flat member).2.1⟩
          · exact ⟨rfl, rfl⟩
          · exact ih rest member

/-- **A payload that matches every value** has parts that do, with commas between them. -/
theorem payloadIsRefutable_eq_false_iff {payload : List Token} :
    payloadIsRefutable payload = false ↔ ∃ parts ≠ [], (∀ part ∈ parts, MatchesAll part) ∧
      payload.map (·.kind) = [.symbol .comma].intercalate parts := by
  rw [payloadIsRefutable, Bool.not_eq_false', List.all_eq_true]
  constructor
  · intro all
    refine ⟨(payloadParts 0 [] payload).map (·.map (·.kind)), ?_, ?_, ?_⟩
    · simpa using payloadParts_ne_nil 0 [] payload
    · intro kinds member
      obtain ⟨part, isPart, rfl⟩ := List.mem_map.mp member
      exact partMatchesAll_iff.mp (all part isPart)
    · exact (intercalate_payloadParts 0 [] payload).symm
  · rintro ⟨parts, some, all, joined⟩ part isPart
    -- such a payload opens no group, so that it is cut at each of its commas
    have flat : ∀ token ∈ payload, opensGroup token.kind = false := by
      intro token member
      refine (flat_of_mem_intercalate all ?_).1
      rw [← joined]
      exact List.mem_map_of_mem member
    have same : (payloadParts 0 [] payload).map (·.map (·.kind)) = parts := by
      rw [map_payloadParts_of_flat [] flat, joined, List.splitOn_intercalate _ ?_ some]
      · exact congrFun List.modifyHead_id parts
      · intro part isPart member
        exact ((all part isPart).flat member).2.2 rfl
    refine partMatchesAll_iff.mpr (all _ ?_)
    rw [← same]
    exact List.mem_map_of_mem isPart

theorem namedCase_of_kinds {dot word : Token} (isDot : dot.kind = .symbol .dot)
    (isName : word.kind = .identifier) (more : List Token) :
    namedCase (dot :: word :: more) = some word.text := by
  simp [namedCase, isDot, isName]

/-- Of the patterns with several tokens only a name of a case and a payload in parentheses are not
refutable. -/
theorem exists_inside_of_isRefutable_eq_false {dot word opening : Token} {more : List Token}
    (irrefutable : isRefutable (dot :: word :: opening :: more) = false) :
    opening.kind = .symbol .parenOpen ∧ ∃ inside closing, more = inside ++ [closing] ∧
      closing.kind = .symbol .parenClose ∧ payloadIsRefutable inside = false := by
  cases named : namedCase (dot :: word :: opening :: more) with
  | none => simp [isRefutable, named, isWildcard] at irrefutable
  | some name =>
      obtain rfl | ⟨inside, closing, rfl⟩ := more.eq_nil_or_concat'
      · simp [isRefutable, named] at irrefutable
      · have isPayload : opening.kind = .symbol .parenOpen ∧ closing.kind = .symbol .parenClose ∧
            payloadIsRefutable inside = false := by
          simpa [isRefutable, named, and_assoc] using irrefutable
        exact ⟨isPayload.1, inside, closing, rfl, isPayload.2⟩

/-- Several tokens that are not refutable name a case. -/
theorem kinds_of_isRefutable_eq_false {dot word : Token} {more : List Token}
    (irrefutable : isRefutable (dot :: word :: more) = false) :
    dot.kind = .symbol .dot ∧ word.kind = .identifier := by
  by_contra unnamed
  have none : namedCase (dot :: word :: more) = none := by simpa [namedCase] using unnamed
  simp [isRefutable, none, isWildcard] at irrefutable

/-- **The parser tells the patterns that match every value from all others.** -/
theorem isRefutable_eq_false_iff {tokens : List Token} :
    isRefutable tokens = false ↔ IsIrrefutable (tokens.map (·.kind)) := by
  constructor
  · intro irrefutable
    match tokens with
    | [] => cases irrefutable
    | [token] =>
        have isBlank : token.kind = .symbol .underscore := by
          simpa [isRefutable, namedCase, isWildcard] using irrefutable
        rw [List.map_singleton, isBlank]
        exact .blank
    | [dot, word] =>
        obtain ⟨isDot, isName⟩ := kinds_of_isRefutable_eq_false irrefutable
        rw [List.map_cons, List.map_singleton, isDot, isName]
        exact .plain
    | dot :: word :: opening :: more =>
        obtain ⟨isDot, isName⟩ := kinds_of_isRefutable_eq_false irrefutable
        obtain ⟨opens, inside, closing, rfl, closes, matchesAll⟩ :=
          exists_inside_of_isRefutable_eq_false irrefutable
        obtain ⟨parts, some, all, joined⟩ := payloadIsRefutable_eq_false_iff.mp matchesAll
        simp only [List.map_cons, List.map_append, List.map_nil, isDot, isName, opens, closes,
          joined]
        exact .payload some all
  · intro irrefutable
    generalize same : tokens.map (·.kind) = kinds at irrefutable
    cases irrefutable with
    | blank =>
        obtain ⟨token, rfl, isBlank⟩ := List.map_eq_singleton_iff.mp same
        simp [isRefutable, namedCase, isWildcard, isBlank]
    | plain =>
        obtain ⟨dot, _, rfl, isDot, rest⟩ := List.map_eq_cons_iff.mp same
        obtain ⟨word, rfl, isName⟩ := List.map_eq_singleton_iff.mp rest
        simp [isRefutable, namedCase, isDot, isName]
    | payload some all =>
        obtain ⟨dot, _, rfl, isDot, rest⟩ := List.map_eq_cons_iff.mp same
        obtain ⟨word, _, rfl, isName, rest⟩ := List.map_eq_cons_iff.mp rest
        obtain ⟨opening, _, rfl, opens, rest⟩ := List.map_eq_cons_iff.mp rest
        obtain ⟨inside, _, rfl, joined, rest⟩ := List.map_eq_append_iff.mp rest
        obtain ⟨closing, rfl, closes⟩ := List.map_eq_singleton_iff.mp rest
        rw [isRefutable_payload (namedCase_of_kinds isDot isName _) opens closes]
        exact payloadIsRefutable_eq_false_iff.mpr ⟨_, some, all, joined⟩

/-- The last parenthesis need not belong to the payload: `.a(_) where f(_)` is refutable. -/
example : isRefutable (([.symbol .dot, .identifier, .symbol .parenOpen, .symbol .underscore,
    .symbol .parenClose, .identifier, .identifier, .symbol .parenOpen, .symbol .underscore,
    .symbol .parenClose] : List TokenKind).map (⟨·, .point 0, "", false⟩)) = true := by decide

/-! ### Patterns that ask for more -/

/-- Whether a token introduces the name behind it. -/
def introducesName : TokenKind → Bool
  | .symbol .dot | .keyword .let_ | .keyword .var_ => true
  | _ => false

/-- **A pattern asks for more** of a value than that it is of a case. -/
inductive Narrows (tokens : List Token) : Prop
  /-- A bracket is in it. -/
  | bracket {token : Token} (member : token ∈ tokens)
      (isBracket : token.kind = .symbol .bracketOpen ∨ token.kind = .symbol .bracketClose)
  /-- It opens a second group, within the first one or behind it. -/
  | group (several : 2 ≤ opened tokens)
  /-- A name is in it that nothing introduces, as is the word in front of a guard. -/
  | guard {front condition : List Token} {word : Token} (cut : tokens = front ++ word :: condition)
      (isName : word.kind = .identifier)
      (bare : ∀ before ∈ front.getLast?, introducesName before.kind = false)
  /-- Its payload has no parts. -/
  | emptyPayload {front : List TokenKind}
      (kinds : tokens.map (·.kind) = front ++ [.symbol .parenOpen, .symbol .parenClose])
  /-- A part is missing behind the last comma of its payload. -/
  | trailingComma {front : List TokenKind}
      (kinds : tokens.map (·.kind) = front ++ [.symbol .comma, .symbol .parenClose])

/-- What may stand before a token in a pattern that matches every value: a name is introduced, and
parentheses are not closed where a part is missing. -/
def MayPrecede (before next : TokenKind) : Prop :=
  (next = .identifier → introducesName before = true) ∧
    (next = .symbol .parenClose → before ≠ .symbol .parenOpen ∧ before ≠ .symbol .comma)

theorem MatchesAll.isChain {part more : List TokenKind} {before next : TokenKind}
    (all : MatchesAll part) (separates : next = .symbol .comma ∨ next = .symbol .parenClose)
    (rest : (next :: more).IsChain MayPrecede) :
    (before :: (part ++ next :: more)).IsChain MayPrecede := by
  have ends {last : TokenKind} (isName : last = .identifier ∨ last = .symbol .underscore) :
      MayPrecede last next := by
    rcases separates with rfl | rfl <;> rcases isName with rfl | rfl <;> simp [MayPrecede]
  cases all with
  | blank =>
      have starts : MayPrecede before (.symbol .underscore) := by simp [MayPrecede]
      exact .cons_cons starts (.cons_cons (ends (.inr rfl)) rest)
  | @binding word name binds named =>
      have starts : MayPrecede before word := by rcases binds with rfl | rfl <;> simp [MayPrecede]
      have introduced : MayPrecede word name := by
        rcases binds with rfl | rfl <;> rcases named with rfl | rfl <;>
          simp [MayPrecede, introducesName]
      exact .cons_cons starts (.cons_cons introduced (.cons_cons (ends named) rest))

theorem isChain_intercalate {parts : List (List TokenKind)} (some : parts ≠ [])
    (all : ∀ part ∈ parts, MatchesAll part) (before : TokenKind) :
    (before :: ([.symbol .comma].intercalate parts ++ [.symbol .parenClose])).IsChain
      MayPrecede := by
  induction parts generalizing before with
  | nil => exact absurd rfl some
  | cons part others ih =>
      obtain ⟨first, rest⟩ := List.forall_mem_cons.mp all
      cases others with
      | nil =>
          rw [List.intercalate_singleton]
          exact first.isChain (.inr rfl) (.singleton _)
      | cons next others =>
          rw [List.intercalate_cons_cons, List.append_assoc, List.append_assoc]
          exact first.isChain (.inl rfl) (ih (List.cons_ne_nil _ _) rest _)

/-- **In a pattern that matches every value** each name is introduced and no part is missing. -/
theorem IsIrrefutable.isChain {kinds : List TokenKind} (irrefutable : IsIrrefutable kinds) :
    kinds.IsChain MayPrecede := by
  cases irrefutable with
  | blank => exact .singleton _
  | plain => exact .cons_cons (by simp [MayPrecede, introducesName]) (.singleton _)
  | payload some all =>
      refine .cons_cons ?_ (.cons_cons ?_ (isChain_intercalate some all _))
      · simp [MayPrecede, introducesName]
      · simp [MayPrecede]

/-- No name comes first in it. -/
theorem IsIrrefutable.head?_ne {kinds : List TokenKind} (irrefutable : IsIrrefutable kinds) :
    kinds.head? ≠ some .identifier := by
  cases irrefutable <;> simp

/-- It has one group at most, in parentheses. -/
theorem IsIrrefutable.countP_opensGroup_le {kinds : List TokenKind}
    (irrefutable : IsIrrefutable kinds) :
    kinds.countP opensGroup ≤ 1 ∧ .symbol .bracketOpen ∉ kinds ∧ .symbol .bracketClose ∉ kinds := by
  cases irrefutable with
  | blank => decide
  | plain => decide
  | @payload parts some all =>
      have flat := @flat_of_mem_intercalate
      have none : ([.symbol .comma].intercalate parts).countP opensGroup = 0 :=
        List.countP_eq_zero.mpr fun kind member => by simp [(flat all member).1]
      have notOpen : .symbol .bracketOpen ∉ [.symbol .comma].intercalate parts := by
        intro member
        exact absurd (flat all member).1 (by decide)
      have notClose : .symbol .bracketClose ∉ [.symbol .comma].intercalate parts := by
        intro member
        exact absurd (flat all member).2 (by decide)
      simp [List.countP_cons, none, notOpen, notClose, opensGroup]

/-- **A pattern that asks for more does not match every value** of its case. -/
theorem Narrows.not_isIrrefutable {tokens : List Token} (narrows : Narrows tokens) :
    ¬ IsIrrefutable (tokens.map (·.kind)) := by
  intro irrefutable
  obtain ⟨oneGroup, notOpen, notClose⟩ := irrefutable.countP_opensGroup_le
  have chain := irrefutable.isChain
  cases narrows with
  | @bracket token member isBracket =>
      have isKind : token.kind ∈ tokens.map (·.kind) := List.mem_map_of_mem member
      rcases isBracket with isOpen | isClose
      · exact notOpen (isOpen ▸ isKind)
      · exact notClose (isClose ▸ isKind)
  | group several =>
      rw [List.countP_map] at oneGroup
      exact absurd (several.trans oneGroup) (by decide)
  | @guard front condition word cut isName bare =>
      subst cut
      obtain rfl | ⟨front, before, rfl⟩ := front.eq_nil_or_concat'
      · exact irrefutable.head?_ne (congrArg some isName)
      · -- the token in front of the name would have to introduce it
        simp only [List.map_append, List.map_cons, List.append_assoc, List.singleton_append,
          List.isChain_append_cons_cons] at chain
        have introduced := chain.2.1.1 isName
        rw [bare before (by simp)] at introduced
        exact absurd introduced Bool.false_ne_true
  | emptyPayload kinds =>
      rw [kinds] at chain
      exact ((List.isChain_append_cons_cons.mp chain).2.1.2 rfl).1 rfl
  | trailingComma kinds =>
      rw [kinds] at chain
      exact ((List.isChain_append_cons_cons.mp chain).2.1.2 rfl).2 rfl

/-! ### Patterns that are read -/

/-- Without tokens there is no pattern. -/
theorem pattern_eq_error {c : Cursor} (none : patternTokens stops 0 c.rest = []) :
    pattern stops c = .error (.unexpectedToken "pattern" c.next.kind c.next.span) := by
  simp only [pattern, bind, StateT.bind, get, getThe, MonadStateOf.get, StateT.get, pure,
    Except.pure, Except.bind, none, List.head?_nil]
  rfl

/-- **What is known of a pattern** that is read: its tokens are those up to the first one that ends
a pattern, and it is refutable unless it is a blank, a name of a case, or such a name with a payload
whose parts are blanks and bindings. -/
theorem pattern_isRefutable (stops : TokenKind → Bool) (c : Cursor) :
    ∃ tokens c', c' = c.skip tokens.length ∧ c.rest = tokens ++ c'.rest ∧
      EndsPattern stops tokens c'.next.kind ∧
      (∀ front next back, tokens = front ++ next :: back → ¬ EndsPattern stops front next.kind) ∧
      (∀ front, front <+: tokens → closed front ≤ opened front) ∧
      if tokens = [] then
        pattern stops c = .error (.unexpectedToken "pattern" c.next.kind c.next.span)
      else ∃ found, (pattern stops).Yields c found c' ∧
        (found.isRefutable = false ↔ IsIrrefutable (tokens.map (·.kind))) ∧
        (Narrows tokens → found.isRefutable = true) := by
  obtain ⟨rest, whole, ends, goesOn⟩ := @patternTokens_ends stops c.rest
  have balanced (front : List Token) := @closed_le_opened stops c.rest front
  have noPattern := @pattern_eq_error stops c
  have yields (found : Pattern) (c' : Cursor) := @yields_pattern c c' stops found
  -- only what is known of the tokens matters from here, and not how they were found
  generalize patternTokens stops 0 c.rest = tokens at whole ends goesOn balanced noPattern yields
  have left : (c.skip tokens.length).rest = rest := by
    rw [Cursor.skip_rest, whole, List.drop_left]
  refine ⟨tokens, c.skip tokens.length, rfl, left ▸ whole, ?_, goesOn, balanced, ?_⟩
  · rw [Cursor.next, left]
    cases rest with
    | nil => exact .inl rfl
    | cons next rest => exact ends next rfl
  · split
    · next none => exact noPattern none
    · next some =>
        have isFirst := List.head?_eq_some_head some
        have isLast := List.getLast?_eq_some_getLast some
        refine ⟨_, (yields _ _).mpr ⟨_, _, isFirst, isLast, rfl, rfl⟩, isRefutable_eq_false_iff, ?_⟩
        intro narrows
        exact eq_true_of_ne_false
          (narrows.not_isIrrefutable ∘ isRefutable_eq_false_iff.mp)

end ResultBuilder.Syntax.Parser
