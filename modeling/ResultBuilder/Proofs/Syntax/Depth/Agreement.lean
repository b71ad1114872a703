import ResultBuilder.Proofs.Syntax.Reading.Statement

/-!
# Parsers that agree where few tokens are left

Two parsers may do the same as long as there are no more tokens left than a number says. The number
is carried along: what is read first leaves fewer tokens for what is read next.

* **`Parser.Agree`**, **`Agree.bind`**: parsers that do the same from where few tokens are left.
* **`Parser.AgreeBelow`**, **`agree_separated`**, **`agree_sequence`**: items that agree, and lists
  of them.
-/

namespace ResultBuilder.Syntax.Parser

variable {α β : Type} {knows : Cursor → Prop} {before left : Nat}

/-- **Parsers that agree** where few tokens are left: from a sound cursor both do the same, and leave
a sound cursor with no more tokens than are said for what is read. The cursor may be known to have a
property. -/
structure Agree (knows : Cursor → Prop) (before : Nat) (after : α → Nat)
    (first second : Parser α) : Prop where
  same : ∀ ⦃c : Cursor⦄, c.IsSound → c.rest.length ≤ before → knows c → first c = second c
  leaves : ∀ ⦃c : Cursor⦄, c.IsSound → c.rest.length ≤ before → knows c →
    ∀ ⦃value : α⦄ ⦃c' : Cursor⦄, first.Yields c value c' →
      c'.IsSound ∧ c'.rest.length ≤ after value

/-- Any cursor. -/
abbrev wherever : Cursor → Prop := fun _ => True

namespace Agree

variable {after : α → Nat} {later : β → Nat} {first second : Parser α} {next other : α → Parser β}

/-! ### Putting parsers together -/

/-- **One after the other.** -/
theorem bind (agree : Agree knows before after first second)
    (rest : ∀ value, Agree wherever (after value) later (next value) (other value)) :
    Agree knows before later (first >>= next) (second >>= other) where
  same c sound few known := by
    show (do let (value, middle) ← first c; next value middle : Except SyntaxError _) =
      do let (value, middle) ← second c; other value middle
    rw [← agree.same sound few known]
    cases read : first c with
    | error failure => rfl
    | ok outcome =>
        obtain ⟨sound', few'⟩ := agree.leaves sound few known read
        exact (rest outcome.1).same sound' few' trivial
  leaves c sound few known result c' yields := by
    obtain ⟨value, middle, read, more⟩ := yields_bind.mp yields
    obtain ⟨sound', few'⟩ := agree.leaves sound few known read
    exact (rest value).leaves sound' few' trivial more

/-- What is known need not be, and there may be fewer tokens left before and more behind. -/
theorem weaken {weaker : Cursor → Prop} {most : Nat} {more : α → Nat}
    (agree : Agree weaker most after first second) (implies : ∀ c, knows c → weaker c)
    (fewer : before ≤ most) (atMost : ∀ value, after value ≤ more value) :
    Agree knows before more first second where
  same _ sound few known := agree.same sound (few.trans fewer) (implies _ known)
  leaves _ sound few known value _ yields :=
    have ⟨sound', few'⟩ := agree.leaves sound (few.trans fewer) (implies _ known) yields
    ⟨sound', few'.trans (atMost value)⟩

theorem fewer {most : Nat} (agree : Agree wherever most after first second)
    (few : before ≤ most) : Agree knows before after first second :=
  agree.weaken (fun _ _ => trivial) few fun _ => le_rfl

theorem always (agree : Agree wherever before after first second) :
    Agree knows before after first second :=
  agree.fewer le_rfl

/-- That a token was taken need not be remembered. -/
theorem stays (agree : Agree wherever before (fun _ => before - 1) first second) :
    Agree knows before (fun _ => before) first second :=
  agree.weaken (fun _ _ => trivial) le_rfl fun _ => Nat.sub_le _ _

/-- A parser agrees with itself. -/
theorem refl {parser : Parser α} (leaves : ∀ c, c.IsSound → c.rest.length ≤ before → knows c →
      ∀ value c', parser.Yields c value c' → c'.IsSound ∧ c'.rest.length ≤ after value) :
    Agree knows before after parser parser where
  same _ _ _ _ := rfl
  leaves c sound few known value c' := leaves c sound few known value c'

theorem pure {value : α} (atMost : before ≤ after value) :
    Agree knows before after (Pure.pure value) (Pure.pure value) :=
  .refl fun c sound few _ result c' yields => by
    obtain ⟨rfl, rfl⟩ := yields_pure.mp yields
    exact ⟨sound, few.trans atMost⟩

theorem fails {parser : Parser α} (none : ∀ c value c', ¬ parser.Yields c value c') :
    Agree knows before after parser parser :=
  .refl fun c _ _ _ value c' yields => (none c value c' yields).elim

/-- A parser that passes some tokens. -/
theorem ofPasses {parser : Parser α} {nodes : α → List Node}
    (passes : ∀ c, c.IsSound → knows c → ∀ value c', parser.Yields c value c' →
      c.Passes (nodes value) c') : Agree knows before (fun _ => before) parser parser :=
  .refl fun c sound few known value c' yields =>
    have passed := passes c sound known value c' yields
    ⟨passed.sound' sound, passed.length_le.trans few⟩

/-- A parser that reads something. -/
theorem ofReads {parser : Parser α} {nodes : α → List Node}
    (reads : ∀ c, c.IsSound → knows c → ∀ value c', parser.Yields c value c' →
      c.Reads (nodes value) c') : Agree knows before (fun _ => before - 1) parser parser :=
  .refl fun c sound few known value c' yields =>
    have read := reads c sound known value c' yields
    ⟨read.sound', Nat.le_sub_one_of_lt (read.fewer.trans_le few)⟩

/-- No sound cursor has no tokens left. -/
theorem ofNone : Agree knows 0 after first second where
  same _ sound few _ := absurd sound.length_pos (Nat.not_lt.mpr few)
  leaves _ sound few _ := absurd sound.length_pos (Nat.not_lt.mpr few)

theorem map (agree : Agree knows before (fun _ => left) first second) (f : α → β) :
    Agree knows before (fun _ => left) (f <$> first) (f <$> second) := by
  rw [← bind_pure_comp, ← bind_pure_comp]
  exact agree.bind fun _ => .pure le_rfl

theorem ite {condition : Prop} [Decidable condition] {yes no yes' no' : Parser α}
    (holds : condition → Agree knows before after yes yes')
    (fails : ¬ condition → Agree knows before after no no') :
    Agree knows before after (if condition then yes else no) (if condition then yes' else no') := by
  split
  · exact holds ‹_›
  · exact fails ‹_›

/-- One of two parsers, and then what comes after either. -/
theorem either {condition : Prop} [Decidable condition] {yes no yes' no' : Parser α}
    (holds : condition → Agree knows before after yes yes')
    (fails : ¬ condition → Agree knows before after no no')
    (rest : ∀ value, Agree wherever (after value) later (next value) (other value)) :
    Agree knows before later (if condition then yes >>= next else no >>= next)
      (if condition then yes' >>= other else no' >>= other) :=
  .ite (fun isSo => (holds isSo).bind rest) fun isNot => (fails isNot).bind rest

/-- **Parsers that only look** at the cursor before they go on. -/
theorem looks {parser : Parser α} {answer : Cursor → α} (asks : ∀ c, parser c = .ok (answer c, c))
    (rest : ∀ c, knows c →
      Agree (fun here => here = c) before later (next (answer c)) (other (answer c))) :
    Agree knows before later (parser >>= next) (parser >>= other) := by
  have found (next : α → Parser β) (c : Cursor) : (parser >>= next) c = next (answer c) c := by
    show (do let (value, middle) ← parser c; next value middle : Except SyntaxError _) = _
    rw [asks c]
    rfl
  refine ⟨fun c sound few known => ?_, fun c sound few known value c' yields => ?_⟩
  · rw [found, found]
    exact (rest c known).same sound few rfl
  · rw [Yields, found] at yields
    exact (rest c known).leaves sound few rfl yields

end Agree

/-! ### Looking and taking -/

/-- Behind a token other than the end of the file there is one fewer. -/
theorem leaves_advance {c : Cursor} (sound : c.IsSound) (few : c.rest.length ≤ before)
    (notEnd : c.next.kind ≠ .endOfFile) :
    c.advance.IsSound ∧ c.advance.rest.length ≤ before - 1 :=
  ⟨sound.of_reaches sound.reaches_advance,
    Nat.le_sub_one_of_lt ((sound.length_advance notEnd).trans_le few)⟩

/-- A token other than the end of the file is taken. -/
theorem agree_take (notEnd : ∀ c, knows c → c.next.kind ≠ .endOfFile) :
    Agree knows before (fun _ => before - 1) take take :=
  .refl fun c sound few known token c' yields => by
    obtain ⟨rfl, rfl⟩ := yields_take.mp yields
    exact leaves_advance sound few (notEnd c known)

/-- A token that was found to be next, and that is not the end of the file, is taken. -/
theorem agree_takeAt {c : Cursor} {kind : TokenKind} (isNext : c.next.kind = kind)
    (notEnd : kind ≠ .endOfFile) :
    Agree (fun here => here = c) before (fun _ => before - 1) take take :=
  agree_take fun here isHere => by rwa [isHere, isNext]

/-- A sign that was found to be next is taken. -/
theorem agree_takeSign {c : Cursor} {sign : Symbol} (isNext : c.next.kind = .symbol sign) :
    Agree (fun here => here = c) before (fun _ => before - 1) take take :=
  agree_takeAt isNext nofun

/-- Whatever token is next, none is added. -/
theorem agree_takeAny : Agree knows before (fun _ => before) take take :=
  .refl fun c sound few _ token c' yields => by
    obtain ⟨rfl, rfl⟩ := yields_take.mp yields
    exact ⟨sound.of_reaches sound.reaches_advance, c.length_advance_le.trans few⟩

theorem agree_expect {kind : TokenKind} (notEnd : kind ≠ .endOfFile) :
    Agree knows before (fun _ => before - 1) (expect kind) (expect kind) :=
  .refl fun c sound few _ token c' yields => by
    obtain ⟨isNext, rfl, rfl⟩ := yields_expect.mp yields
    exact leaves_advance sound few (isNext ▸ notEnd)

theorem agree_expectSymbol (sign : Symbol) :
    Agree knows before (fun _ => before - 1) (expectSymbol sign) (expectSymbol sign) :=
  agree_expect nofun

theorem agree_expectKeyword (word : Keyword) :
    Agree knows before (fun _ => before - 1) (expectKeyword word) (expectKeyword word) :=
  agree_expect nofun

/-- **Parsers that may take a token** before they go on: where they do there is one fewer. -/
theorem Agree.eat {kind : TokenKind} {after : β → Nat} {next other : Bool → Parser β}
    (notEnd : kind ≠ .endOfFile)
    (taken : Agree wherever (before - 1) after (next true) (other true))
    (kept : Agree wherever before after (next false) (other false)) :
    Agree knows before after (eat kind >>= next) (Parser.eat kind >>= other) := by
  have counted : Agree knows before (fun answer => if answer then before - 1 else before)
      (Parser.eat kind) (Parser.eat kind) :=
    .refl fun c sound few _ answer c' yields => by
      obtain ⟨rfl, rfl⟩ := yields_eat.mp yields
      by_cases isNext : c.next.kind = kind
      · simp only [isNext, if_true, beq_self_eq_true]
        exact leaves_advance sound few (isNext ▸ notEnd)
      · simp only [isNext, if_false, beq_iff_eq]
        exact ⟨sound, few⟩
  refine counted.bind fun answer => ?_
  cases answer with
  | true => exact taken
  | false => exact kept

theorem agree_eat {kind : TokenKind} : Agree knows before (fun _ => before) (eat kind) (eat kind) :=
  .looks (fun _ => rfl) fun _ _ => .ite (fun _ => agree_takeAny.bind fun _ => .pure le_rfl)
    fun _ => .pure le_rfl

/-- Parsers that may take a token with something behind it before they go on. -/
theorem Agree.eatOptional {kind : TokenKind} {after : β → Nat} {given given' : Parser α}
    {next other : Option α → Parser β} (notEnd : kind ≠ .endOfFile)
    (behind : Agree wherever (before - 1) (fun _ => before - 1) given given')
    (rest : ∀ value, Agree wherever before after (next value) (other value)) :
    Agree knows before after
      (Parser.eat kind >>= fun found =>
        if found then (some <$> given) >>= next else Pure.pure none >>= next)
      (Parser.eat kind >>= fun found =>
        if found then (some <$> given') >>= other else Pure.pure none >>= other) :=
  .eat notEnd ((behind.map some).bind fun value => (rest value).fewer (Nat.sub_le _ _))
    ((Agree.pure le_rfl).bind rest)

theorem agree_identifier : Agree knows before (fun _ => before - 1) identifier identifier :=
  .refl fun c sound few _ name c' yields => by
    obtain ⟨isName, -, rfl⟩ := yields_identifier.mp yields
    exact leaves_advance sound few (isName ▸ nofun)

theorem agree_nameOrUnderscore :
    Agree knows before (fun _ => before - 1) nameOrUnderscore nameOrUnderscore :=
  .refl fun c sound few _ name c' yields => by
    obtain ⟨rfl, isName⟩ := yields_nameOrUnderscore.mp yields
    exact leaves_advance sound few fun isEnd => by simp [isEnd] at isName

/-- A number of tokens that are no nodes is taken. -/
theorem agree_takeMany {count : Nat}
    (passes : ∀ c : Cursor, c.IsSound → knows c → c.Passes [] (c.skip count)) :
    Agree knows before (fun _ => before) (takeMany count) (takeMany count) :=
  .ofPasses fun c sound known tokens c' yields => by
    obtain ⟨-, rfl⟩ := yields_takeMany.mp yields
    exact passes c sound known

/-- Something that is made from the span up to here. -/
theorem agree_spanned (start : Nat) (make : Span → α) :
    Agree knows before (fun _ => before) (spanFrom start >>= fun span => Pure.pure (make span))
      (spanFrom start >>= fun span => Pure.pure (make span)) :=
  .looks (fun _ => rfl) fun _ _ => .pure le_rfl

/-! ### Lists -/

section Lists

variable {item other : Parser α}

/-- **Items that agree** wherever no more tokens are left than said, and take a token each. -/
def AgreeBelow (most : Nat) (first second : Parser α) : Prop :=
  ∀ few ≤ most, Agree wherever few (fun _ => few - 1) first second

theorem AgreeBelow.pred {most : Nat} (agree : AgreeBelow (most + 1) item other) :
    AgreeBelow most item other :=
  fun few fewer => agree few (Nat.le_succ_of_le fewer)

theorem AgreeBelow.mono {most : Nat} (agree : AgreeBelow most item other) (fewer : before ≤ most) :
    AgreeBelow before item other :=
  fun few less => agree few (less.trans fewer)

/-- Items with commas between them. Both bounds leave room for an item for each token. -/
theorem agree_separated {bound most : Nat} (agree : AgreeBelow before item other)
    (enough : before ≤ bound) (alsoEnough : before ≤ most) :
    Agree knows before (fun _ => before - 1) (separated item bound) (separated other most) := by
  induction before generalizing knows bound most with
  | zero => exact .ofNone
  | succ before ih =>
      obtain ⟨bound, rfl⟩ := Nat.exists_eq_add_of_le' enough
      obtain ⟨most, rfl⟩ := Nat.exists_eq_add_of_le' alsoEnough
      have others := @ih wherever _ _ agree.pred (Nat.le_add_left _ bound)
        (Nat.le_add_left _ most)
      exact (agree _ le_rfl).always.bind fun first => .eat nofun
        (others.stays.fewer (Nat.sub_le _ _) |>.bind fun rest => .pure le_rfl) (.pure le_rfl)

/-- Items with commas between them up to a closing sign. -/
theorem agree_itemsUntil {bound most : Nat} (agree : AgreeBelow before item other)
    (close : Symbol) (enough : before ≤ bound) (alsoEnough : before ≤ most) :
    Agree knows before (fun _ => before) (itemsUntil close item bound)
      (itemsUntil close other most) := by
  induction before generalizing knows bound most with
  | zero => exact .ofNone
  | succ before ih =>
      obtain ⟨bound, rfl⟩ := Nat.exists_eq_add_of_le' enough
      obtain ⟨most, rfl⟩ := Nat.exists_eq_add_of_le' alsoEnough
      have others := @ih wherever _ _ agree.pred (Nat.le_add_left _ bound)
        (Nat.le_add_left _ most)
      exact .looks (fun _ => rfl) fun c _ => .ite (fun _ => .pure le_rfl) fun _ =>
        (agree _ le_rfl).always.bind fun first => .eat nofun
          (others.fewer (Nat.sub_le _ _) |>.bind fun rest => .pure (Nat.le_succ _))
          (.pure (Nat.le_succ _))

/-- Items with commas between them and the closing sign. -/
theorem agree_closedBy {bound most : Nat} (agree : AgreeBelow before item other)
    (close : Symbol) (enough : before ≤ bound) (alsoEnough : before ≤ most) :
    Agree knows before (fun _ => before) (closedBy close item bound) (closedBy close other most) :=
  (agree_itemsUntil agree close enough alsoEnough).bind fun _ =>
    (agree_expectSymbol close).stays.bind fun _ => .pure le_rfl

/-- Items up to a closing sign. -/
theorem agree_repeatedUntil {bound most : Nat} (agree : AgreeBelow before item other)
    (close : Symbol) (enough : before ≤ bound) (alsoEnough : before ≤ most) :
    Agree knows before (fun _ => before) (repeatedUntil close item bound)
      (repeatedUntil close other most) := by
  induction before generalizing knows bound most with
  | zero => exact .ofNone
  | succ before ih =>
      obtain ⟨bound, rfl⟩ := Nat.exists_eq_add_of_le' enough
      obtain ⟨most, rfl⟩ := Nat.exists_eq_add_of_le' alsoEnough
      have others := @ih wherever _ _ agree.pred (Nat.le_add_left _ bound)
        (Nat.le_add_left _ most)
      exact .looks (fun _ => rfl) fun c _ => .ite (fun _ => .pure le_rfl) fun _ =>
        (agree _ le_rfl).always.bind fun first => others.bind fun rest => .pure (Nat.le_succ _)

theorem agree_skipSemicolons :
    Agree knows before (fun _ => before) skipSemicolons skipSemicolons := by
  refine .looks (fun _ => rfl) fun c _ => (agree_takeMany fun here sound isHere => ?_).bind
    fun _ => .pure le_rfl
  rw [isHere] at sound ⊢
  exact passes_pastSemicolons sound

theorem agree_endStatement : Agree knows before (fun _ => before) endStatement endStatement :=
  .ofPasses fun _ sound _ _ _ yields => passes_endStatement sound yields

/-- Items that end like statements. -/
theorem agree_sequence {bound most : Nat} (agree : AgreeBelow before item other)
    (stops : TokenKind → Bool) (enough : before ≤ bound) (alsoEnough : before ≤ most) :
    Agree knows before (fun _ => before) (sequence stops item bound)
      (sequence stops other most) := by
  induction before generalizing knows bound most with
  | zero => exact .ofNone
  | succ before ih =>
      obtain ⟨bound, rfl⟩ := Nat.exists_eq_add_of_le' enough
      obtain ⟨most, rfl⟩ := Nat.exists_eq_add_of_le' alsoEnough
      have others := @ih wherever _ _ agree.pred (Nat.le_add_left _ bound)
        (Nat.le_add_left _ most)
      exact agree_skipSemicolons.bind fun _ => .looks (fun _ => rfl) fun c _ =>
        .ite (fun _ => .pure le_rfl) fun _ => (agree _ le_rfl).always.bind fun first =>
          agree_endStatement.bind fun _ => others.bind fun rest => .pure (Nat.le_succ _)

end Lists

end ResultBuilder.Syntax.Parser
