import ResultBuilder.Diagnostic.Syntax
import ResultBuilder.Proofs.Diagnostic.Usable

/-!
# Where the lexer stops

A source that cannot be cut into tokens is refused at a place in it. The scanners work on a text
from an offset on; each statement adds the part of the source in front of the text, which has just
that many bytes.

* **`isUsable_of_gap`**: a comment that is not closed.
* **`isUsable_of_lexeme`**: a string that is not closed and a character that starts no token.
* **`isUsable_of_tokens`**: the lexer as a whole.
-/

namespace ResultBuilder.Syntax

open Source (utf8Length)

theorem OnBoundary.append {text : List Char} {offset : Nat} (boundary : OnBoundary text offset)
    (more : List Char) : OnBoundary (text ++ more) offset := by
  obtain ⟨front, back, rfl, length⟩ := boundary
  exact ⟨front, back ++ more, List.append_assoc _ _ _, length⟩

theorem onBoundary_length (front back : List Char) :
    OnBoundary (front ++ back) (utf8Length front) :=
  ⟨front, back, rfl, rfl⟩

namespace Lexer

/-! ### The lexer -/

theorem map_eq_error {α β : Type} {f : α → β} {attempt : Except SyntaxError α}
    {error : SyntaxError} : f <$> attempt = .error error ↔ attempt = .error error := by
  cases attempt <;> simp [Functor.map, Except.map]

/-- **An open comment** is refused from where it starts to the end of the source. -/
theorem isUsable_of_gap {state : GapState} {offset : Nat} {front text : List Char}
    {error : SyntaxError} (failed : gap state offset text = .error error)
    (place : utf8Length front = offset)
    (opened : ∀ start, state = .blockComment start → OnBoundary front start) :
    error.span.IsUsable (front ++ text) := by
  fun_induction gap state offset text generalizing front with
  | case1 offset rest ih =>
      have later := @ih (front ++ ['/', '/']) (map_eq_error.mp failed)
        (by rw [Source.utf8Length_append, place]; rfl) (by rintro _ ⟨⟩)
      rwa [List.append_assoc] at later
  | case2 offset rest ih =>
      have later := @ih (front ++ ['/', '*']) (map_eq_error.mp failed)
        (by rw [Source.utf8Length_append, place]; rfl)
        (by rintro _ ⟨⟩; exact place ▸ onBoundary_length front _)
      rwa [List.append_assoc] at later
  | case3 offset c rest noLine noBlock isBlank ih =>
      have later := @ih (front ++ [c]) (map_eq_error.mp failed)
        (by rw [Source.utf8Length_append, place]; rfl) (by rintro _ ⟨⟩)
      rwa [List.append_assoc] at later
  | case4 offset c rest noLine noBlock notBlank => cases failed
  | case5 offset rest ih =>
      have later := @ih (front ++ ['\n']) (map_eq_error.mp failed)
        (by rw [Source.utf8Length_append, place]; rfl) (by rintro _ ⟨⟩)
      rwa [List.append_assoc] at later
  | case6 offset c rest notEnd ih =>
      have later := @ih (front ++ [c]) (map_eq_error.mp failed)
        (by rw [Source.utf8Length_append, place]; rfl) (by rintro _ ⟨⟩)
      rwa [List.append_assoc] at later
  | case7 start offset rest ih =>
      have later := @ih (front ++ ['*', '/']) (map_eq_error.mp failed)
        (by rw [Source.utf8Length_append, place]; rfl) (by rintro _ ⟨⟩)
      rwa [List.append_assoc] at later
  | case8 start offset c rest notEnd ih =>
      have later := @ih (front ++ [c]) (map_eq_error.mp failed)
        (by rw [Source.utf8Length_append, place]; rfl)
        (by rintro _ ⟨⟩; exact (opened start rfl).append _)
      rwa [List.append_assoc] at later
  | case9 start offset =>
      cases failed
      have boundary := opened start rfl
      rw [List.append_nil]
      refine Span.isUsable_of_boundaries (place ▸ boundary.le) boundary ?_
      exact ⟨front, [], (List.append_nil _).symm, place⟩
  | case10 state offset notBlock => cases failed

/-- What is scanned of a string stands at the front of the text. -/
theorem stringContent_prefix (state : StringState) (text : List Char) :
    (stringContent state text).1 <+: text := by
  fun_induction stringContent state text with
  | case1 | case5 | case6 => exact List.nil_prefix
  | case2 depth c rest ih | case3 depth rest ih | case4 depth c rest noParen ih
  | case7 c rest noParen noEscape noBreak noQuote ih | case8 depth c rest noParen noEscape ih =>
      exact (List.prefix_append_right_inj _).mpr ih

/-- **A text that no token starts** is refused where it starts. -/
theorem isUsable_of_lexeme {attached : Bool} {start : Nat} {front rest : List Char} {first : Char}
    {error : SyntaxError} (failed : lexeme attached start first rest = .error error)
    (place : utf8Length front = start) : error.span.IsUsable (front ++ first :: rest) := by
  have starts : OnBoundary (front ++ first :: rest) start := place ▸ onBoundary_length front _
  -- what is refused reaches from the start to behind some of the text
  have upTo {taken : List Char} (isFront : taken <+: rest) :
      Span.IsUsable (front ++ first :: rest)
        ⟨start, start + first.utf8Size + utf8Length taken⟩ := by
    obtain ⟨after, rfl⟩ := isFront
    refine Span.isUsable_of_boundaries
      (Nat.le_trans (Nat.le_add_right _ _) (Nat.le_add_right _ _)) starts
      ⟨front ++ first :: taken, after, by simp, ?_⟩
    simp [utf8Length, place, Nat.add_assoc]
  unfold lexeme at failed
  split at failed
  · cases failed
  split at failed
  · cases failed
  split at failed
  case isTrue quote =>
    obtain rfl := eq_of_beq quote
    unfold string at failed
    have inside := stringContent_prefix (.text 0) rest
    rcases scan : stringContent (.text 0) rest with ⟨content, _ | _ | _⟩ <;>
      rw [scan] at failed inside <;> cases failed
    · exact upTo inside
    · exact upTo (List.prefix_refl _)
  split at failed
  case isTrue sharp =>
    obtain rfl := eq_of_beq sharp
    unfold directive at failed
    split at failed <;> cases failed
    exact upTo List.nil_prefix
  split at failed <;> cases failed
  exact upTo List.nil_prefix

/-- **A text that is not cut into tokens** is refused at a place in it. -/
theorem isUsable_of_tokens {fuel offset : Nat} {previous : Option Token} {front text : List Char}
    {error : SyntaxError} (failed : tokens fuel offset previous text = .error error)
    (place : utf8Length front = offset) : error.span.IsUsable (front ++ text) := by
  induction fuel generalizing offset previous front text with
  | zero =>
      rw [tokens_zero] at failed
      cases scan : gap .blank offset text with
      | error other =>
          rw [scan] at failed
          cases failed
          exact isUsable_of_gap scan place (by rintro _ ⟨⟩)
      | ok skipped =>
          rw [scan] at failed
          cases failed
  | succ fuel ih =>
      rw [tokens_succ] at failed
      cases scan : gap .blank offset text with
      | error other =>
          rw [scan] at failed
          cases failed
          exact isUsable_of_gap scan place (by rintro _ ⟨⟩)
      | ok skipped =>
          obtain ⟨rest, rfl, -⟩ := gap_parts scan
          rw [scan] at failed
          simp only [bind, Except.bind, List.drop_left] at failed
          cases rest with
          | nil => cases failed
          | cons first tail =>
              have here : utf8Length (front ++ skipped) = offset + utf8Length skipped := by
                rw [Source.utf8Length_append, place]
              rw [← List.append_assoc]
              cases read : lexeme (attachedTo previous (offset + utf8Length skipped))
                  (offset + utf8Length skipped) first tail with
              | error other =>
                  simp only [read] at failed
                  cases failed
                  exact isUsable_of_lexeme read here
              | ok found =>
                  simp only [read] at failed
                  obtain ⟨after, cut, -⟩ := (lexeme_eq_ok_iff.mp read).parts.2
                  rw [cut] at failed ⊢
                  simp only [List.drop_left] at failed
                  have later := @ih _ _ (front ++ skipped ++ found.characters) _
                    (map_eq_error.mp failed) (by rw [Source.utf8Length_append, here])
                  rwa [List.append_assoc] at later

end Lexer

end ResultBuilder.Syntax
