/-!
# Searching a text

What comes after a text at the start of another one, and what is around its first occurrence.

Main statements: `after?_eq_some_iff`, `eq_append_of_cut?` (cutting a text at a mark loses only the
mark), `cut?_append_of_first` (a text is cut where a mark is for the first time) and
`contains_eq_true_iff`.
-/

namespace ResultBuilder.Text

/-- What follows a mark at the start of a text. -/
def after? : List Char → List Char → Option (List Char)
  | [], text => some text
  | _ :: _, [] => none
  | first :: mark, c :: text => if first = c then after? mark text else none

/-- What is before and after the first occurrence of a mark in a text. -/
def cut? (mark : List Char) : List Char → Option (List Char × List Char)
  | [] => (after? mark []).map ([], ·)
  | c :: text =>
      match after? mark (c :: text) with
      | some rest => some ([], rest)
      | none => (cut? mark text).map fun (front, rest) => (c :: front, rest)

/-- Whether a part occurs in a text. -/
def contains (part text : List Char) : Bool :=
  (cut? part text).isSome

theorem after?_eq_some_iff {mark text rest : List Char} :
    after? mark text = some rest ↔ text = mark ++ rest := by
  induction mark generalizing text with
  | nil => simp [after?]
  | cons first mark ih =>
      cases text with
      | nil => simp [after?]
      | cons c text =>
          by_cases same : first = c
          · simp [after?, same, ih]
          · simp [after?, same, Ne.symm same]

section Cutting

variable {mark text front rest : List Char} {c : Char}

/-- A text is cut at its start if it starts with the mark. -/
theorem cut?_of_after? (found : after? mark text = some rest) :
    cut? mark text = some ([], rest) := by
  cases text with
  | nil => exact congrArg (Option.map ([], ·)) found
  | cons c text => rw [cut?, found]

/-- A character with which no mark starts is passed over. -/
theorem cut?_cons (other : after? mark (c :: text) = none) :
    cut? mark (c :: text) = (cut? mark text).map fun (front, rest) => (c :: front, rest) := by
  rw [cut?, other]

/-- A text without something in front of the mark starts with the mark. -/
theorem after?_of_cut? (found : cut? mark text = some ([], rest)) :
    after? mark text = some rest := by
  cases after : after? mark text with
  | some behind =>
      rw [cut?_of_after? after] at found
      cases found
      rfl
  | none =>
      cases text with
      | nil => cases (congrArg (Option.map ([], ·)) after).symm.trans found
      | cons c text =>
          rw [cut?_cons after] at found
          obtain ⟨_, -, same⟩ := Option.map_eq_some_iff.1 found
          cases same

/-- What is in front of the mark starts the text, and the mark does not. -/
theorem of_cut?_cons (found : cut? mark text = some (c :: front, rest)) :
    ∃ more, text = c :: more ∧ after? mark text = none ∧ cut? mark more = some (front, rest) := by
  cases after : after? mark text with
  | some behind =>
      rw [cut?_of_after? after] at found
      cases found
  | none =>
      cases text with
      | nil => cases (congrArg (Option.map ([], ·)) after).symm.trans found
      | cons c text =>
          rw [cut?_cons after] at found
          obtain ⟨_, inner, same⟩ := Option.map_eq_some_iff.1 found
          cases same
          exact ⟨text, rfl, rfl, inner⟩

/-- Cutting a text at a mark loses only the mark. -/
theorem eq_append_of_cut? (found : cut? mark text = some (front, rest)) :
    text = front ++ mark ++ rest := by
  induction front generalizing text with
  | nil => exact after?_eq_some_iff.1 (after?_of_cut? found)
  | cons c front ih =>
      obtain ⟨more, rfl, -, inner⟩ := of_cut?_cons found
      rw [ih inner]
      rfl

theorem length_of_cut? (found : cut? mark text = some (front, rest)) :
    text.length = front.length + mark.length + rest.length := by
  rw [eq_append_of_cut? found]
  simp [Nat.add_assoc]

/-- **A text is cut at the first mark.** A mark is the first one if there is none in the text up to
its last character. -/
theorem cut?_append_of_first (rest : List Char) (first : ¬ mark <:+: front ++ mark.dropLast) :
    cut? mark (front ++ (mark ++ rest)) = some (front, rest) := by
  induction front with
  | nil => exact cut?_of_after? (after?_eq_some_iff.2 rfl)
  | cons c front ih =>
      have other : after? mark (c :: (front ++ (mark ++ rest))) = none := by
        refine Option.eq_none_iff_forall_ne_some.2 fun behind found => ?_
        have isFront : mark <+: c :: (front ++ (mark ++ rest)) :=
          ⟨behind, (after?_eq_some_iff.1 found).symm⟩
        have upToLast : c :: front ++ mark.dropLast <+: c :: front ++ (mark ++ rest) :=
          (List.prefix_append_right_inj _).2
            ((List.dropLast_prefix mark).trans (List.prefix_append _ _))
        refine first (List.prefix_of_prefix_length_le isFront upToLast ?_).isInfix
        simp only [List.length_append, List.length_cons, List.length_dropLast]
        omega
      rw [List.cons_append, cut?_cons other, ih fun inner => first (List.infix_cons inner)]
      rfl

/-- What follows a text does not change where it is cut. -/
theorem cut?_append (found : cut? mark text = some (front, rest)) (more : List Char) :
    cut? mark (text ++ more) = some (front, rest ++ more) := by
  induction front generalizing text with
  | nil =>
      rw [after?_eq_some_iff.1 (after?_of_cut? found), List.append_assoc]
      exact cut?_of_after? (after?_eq_some_iff.2 rfl)
  | cons c front ih =>
      obtain ⟨text, rfl, other, inner⟩ := of_cut?_cons found
      -- the mark is no longer than the text, so that it cannot reach into what follows
      have otherToo : after? mark (c :: (text ++ more)) = none := by
        refine Option.eq_none_iff_forall_ne_some.2 fun behind isFront => ?_
        have short : mark.length ≤ (c :: text).length := by
          rw [List.length_cons, length_of_cut? inner]
          omega
        have isMark : mark <+: c :: text ++ more := ⟨behind, (after?_eq_some_iff.1 isFront).symm⟩
        obtain ⟨after, whole⟩ :=
          List.prefix_of_prefix_length_le isMark (List.prefix_append (c :: text) more) short
        rw [after?_eq_some_iff.2 whole.symm] at other
        cases other
      rw [List.cons_append, cut?_cons otherToo, ih inner]
      rfl

end Cutting

/-- A part occurs in a text exactly when the text can be split around it. -/
theorem contains_eq_true_iff {part text : List Char} : contains part text = true ↔ part <:+: text := by
  induction text with
  | nil =>
      cases part with
      | nil => exact iff_of_true rfl (List.nil_infix)
      | cons => exact iff_of_false Bool.false_ne_true (by simp)
  | cons c text ih =>
      rw [List.infix_cons_iff, ← ih, contains]
      cases found : after? part (c :: text) with
      | some rest =>
          rw [cut?_of_after? found]
          exact iff_of_true rfl (.inl ⟨rest, (after?_eq_some_iff.1 found).symm⟩)
      | none =>
          have notFront : ¬ part <+: c :: text := by
            rintro ⟨rest, whole⟩
            rw [after?_eq_some_iff.2 whole.symm] at found
            cases found
          rw [cut?_cons found, Option.isSome_map, or_iff_right notFront, contains]

end ResultBuilder.Text
