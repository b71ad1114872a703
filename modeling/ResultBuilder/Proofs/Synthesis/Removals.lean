import ResultBuilder.Proofs.Diagnostic.Removing
import ResultBuilder.Proofs.Synthesis.Growth
import ResultBuilder.Proofs.Synthesis.Origins
import ResultBuilder.Proofs.Synthesis.Reports

/-!
# Removing the returns of a body

A body that is left as it is comes with the suggestion to remove its returns. The edits are listed
as a walk through the body finds the returns, and this is the order of the source, since what is in
one statement ends before the next one starts. Made from the last to the first, they remove the
returns and nothing else.

* **`Edit.RemovesReturn`**: the edit that turns a `return` statement into its value.
* **`Syntax.Node.returns_inOrder`**: the removals of the returns in a node lie inside it one after
  the other.
* **`removals_of_verbatim`**: the suggestion for a body that is left as it is.
-/

namespace ResultBuilder

open Syntax Transform

/-- **An edit that removes a `return`**: it starts with the word, and it ends where the value starts
or, if there is none, with the word. -/
def Edit.RemovesReturn (source : String) (edit : Edit) : Statement → Prop
  | .returning _ keyword value =>
      edit = .remove ⟨keyword.start, (value.map (·.span.start)).getD keyword.stop⟩ ∧
        StandsIn source.toList "return" keyword ∧
        ∀ operand ∈ value, keyword.stop ≤ operand.span.start
  | _ => False

/-! ### One after the other -/

/-- **The returns in a node** are removed inside of it, in the order in which they are listed. -/
theorem Syntax.Node.returns_inOrder {source : List Char} (node : Node)
    (placed : node.Everywhere (·.IsPlaced source)) :
    (∀ site ∈ node.returns, (ReturnWarning.removal site).span.LiesIn node.span) ∧
      node.returns.Pairwise fun first second =>
        (ReturnWarning.removal first).span.stop ≤ (ReturnWarning.removal second).span.start := by
  induction node using Node.induction with
  | step node ih =>
      rcases node.returns_cases with none | ⟨span, keyword, value, rfl⟩ | ⟨isRow, ofChildren⟩
      · rw [none]
        exact ⟨List.forall_mem_nil _, .nil⟩
      · refine ⟨List.forall_mem_singleton.mpr ?_, List.pairwise_singleton _ _⟩
        have isKeyword := liesIn_of_child placed List.mem_cons_self
        cases value with
        | none => exact isKeyword
        | some operand =>
            have isOperand := liesIn_of_child placed
              (List.mem_cons_of_mem _ (List.mem_singleton_self (Node.expression operand)))
            have follows : keyword.stop ≤ operand.span.start :=
              List.rel_of_pairwise_cons placed.here.apart (List.mem_singleton_self _)
            exact ⟨isKeyword.starts, isKeyword.ordered.trans follows,
              isOperand.ordered.trans isOperand.stops⟩
      · have below {child : Node} (isChild : child ∈ node.children) :=
          ih child isChild (placed.child isChild)
        rw [ofChildren]
        constructor
        · intro site listed
          obtain ⟨child, isChild, listed⟩ := List.mem_flatMap.mp listed
          exact ((below isChild).1 site listed).trans (liesIn_of_child placed isChild)
        · -- the returns of one child end before those of the next child start
          refine List.pairwise_flatMap.mpr ⟨fun child isChild => (below isChild).2, ?_⟩
          have apart := placed.here.apart
          rw [isRow] at apart
          refine apart.imp_of_mem fun isFirst isSecond before site listed other alsoListed => ?_
          exact (((below isFirst).1 site listed).stops.trans before).trans
            ((below isSecond).1 other alsoListed).starts

/-! ### The suggestion -/

/-- The edit for a return that is listed removes the statement. -/
theorem removesReturn_removal {source : String} {program : Program}
    (sound : program.IsSound source.toList) {statement : Statement}
    (inside : (Node.statement statement).WithinProgram program) {site : ReturnSite}
    (isAt : statement.ReturnsAt site) :
    (ReturnWarning.removal site).RemovesReturn source statement := by
  cases statement with
  | returning span keyword value =>
      obtain rfl := isAt
      refine ⟨by rw [ReturnWarning.removal, Option.map_map]; rfl, (sound _ inside).spelled, ?_⟩
      rintro operand ⟨⟩
      exact List.rel_of_pairwise_cons (sound _ inside).placed.apart (List.mem_singleton_self _)
  | _ => exact isAt.elim

/-- Such an edit removes some of the source. -/
theorem Edit.RemovesReturn.nonempty {source : String} {edit : Edit} {statement : Statement}
    (removes : edit.RemovesReturn source statement) : edit.span.start < edit.span.stop := by
  cases statement with
  | returning span keyword value =>
      obtain ⟨rfl, ⟨front, back, -, starts, stops⟩, follows⟩ := removes
      have isWord : keyword.start < keyword.stop := by
        rw [← starts, ← stops, Source.utf8Length_append]
        exact Nat.lt_add_of_pos_right (by decide)
      cases value with
      | none => exact isWord
      | some operand => exact isWord.trans_le (follows operand rfl)
  | _ => exact removes.elim

/-- **The edits that remove returns are exact.** A body of a parsed source that is left as it is, is
reported once, and the last suggestion is to remove its returns. There is one edit for each `return`
statement of the body, in blocks, branches, cases and loops at any depth but not in closures and
declarations; it starts with the word and ends where the value starts, or with the word if there is
no value. The edits follow each other in the source, and made from the last to the first they leave
the bytes that are in none of them, as they were and in the same order. -/
theorem removals_of_verbatim {source : String} {program : Program}
    (parsed : parse source = .ok program) {setting : Setting} {body kept : Block}
    (inside : (Node.block body).WithinProgram program)
    (left : (transform setting body).result = .verbatim kept) :
    ∃ diagnostic place edits found,
      (transform setting body).journal.diagnostics = [diagnostic] ∧
      diagnostic.fixIts.getLast? =
        some ⟨"remove 'return' statements to apply the function builder", place, edits⟩ ∧
      (∀ statement, statement ∈ found ↔
        statement.isReturn = true ∧ Somewhere true (Among (· = statement)) body.statements) ∧
      List.Forall₂ (Edit.RemovesReturn source) edits found ∧
      (∀ edit ∈ edits, edit.span.start < edit.span.stop) ∧
      (edits.Pairwise fun first second => first.span.stop ≤ second.span.start) ∧
      Source.bytes (edits.foldr Edit.apply source) =
        Source.bytesOutside (edits.map (·.span)) 0 (Source.bytes source) := by
  have sound := (Program.isSound_of_parse parsed).1
  obtain ⟨disables, rfl⟩ := result_eq_verbatim_iff.mp left
  obtain ⟨found, matched, listed⟩ := listsReturns body
  let warning : ReturnWarning :=
    ⟨setting.descriptor.builder, body.returns, setting.context.builderAttribute⟩
  let edits := body.returns.map ReturnWarning.removal
  have removes : List.Forall₂ (Edit.RemovesReturn source) edits found := by
    refine List.forall₂_map_left_iff.mpr
      (List.forall₂_iff_zip.mpr ⟨matched.length_eq, fun {site statement} paired => ?_⟩)
    have isFound := (listed statement).mp (List.of_mem_zip paired).2
    exact removesReturn_removal sound (inside.within (within_of_somewhere isFound.2))
      (List.forall₂_zip matched paired)
  have nonempty : ∀ edit ∈ edits, edit.span.start < edit.span.stop :=
    ((List.forall₂_and_left _ _).mp (removes.imp fun _ _ one => ⟨one.nonempty, one⟩)).1
  have placed : (Node.block body).Everywhere (·.IsPlaced source.toList) :=
    fun inner within => (sound inner (inside.within within)).placed
  have apart : edits.Pairwise fun first second => first.span.stop ≤ second.span.start :=
    List.pairwise_map.mpr ((Node.block body).returns_inOrder placed).2
  have usable : ∀ place ∈ edits.map (·.span), place.IsUsable source.toList := by
    refine List.forall_mem_map.mpr (List.forall_mem_map.mpr fun site isSite => ?_)
    exact (ReturnSite.isUsable_of_mem_returns sound inside isSite).removal
  have areRemovals : (edits.map (·.span)).map Edit.remove = edits := by
    simp only [edits, List.map_map]
    exact List.map_congr_left fun site _ => rfl
  refine ⟨warning.diagnostic, warning.span, edits, found, ?_, ?_, listed, removes, nonempty, apart,
    ?_⟩
  · rw [transform_of_isDisabled disables, diagnostics_disabled]
  · cases mark : setting.context.builderAttribute <;>
      simp [warning, edits, ReturnWarning.diagnostic, ReturnWarning.notes, Diagnostic.fixIts,
        Note.fixIt?, mark]
  · have left := Edit.bytes_foldr_remove usable (List.pairwise_map.mpr apart)
    rwa [areRemovals] at left

/-- A block with a return of a call whose closure returns as well, and with one in a loop. -/
def returningSource : String :=
  "do \x7b if é \x7b return g \x7b return 1 \x7d \x7d; for x in y \x7b return \x7d \x7d"

/-- The body of the block. -/
def returningBody : Block :=
  ⟨⟨3, 61⟩, [
    .conditional ⟨⟨5, 36⟩, [.expression (.ident ⟨8, 10⟩ "é")], ⟨⟨11, 36⟩, [
      .returning ⟨13, 34⟩ ⟨13, 19⟩ (some (.call ⟨20, 34⟩ (.ident ⟨20, 21⟩ "g") [] (some
        ⟨⟨22, 34⟩, [], ⟨⟨22, 34⟩, [
          .returning ⟨24, 32⟩ ⟨24, 30⟩ (some (.literal ⟨31, 32⟩ (.integer 1)))]⟩⟩)))]⟩, none⟩,
    .loop ⟨⟨38, 59⟩, .forIn ⟨⟨42, 43⟩, "x", none, false, true⟩, .ident ⟨47, 48⟩ "y", ⟨⟨49, 59⟩, [
      .returning ⟨51, 57⟩ ⟨51, 57⟩ none]⟩⟩]⟩

open BuilderCall in
/-- The return in the closure stays where it is, and the others are removed. -/
theorem removals_of_returningBody :
    parse returningSource = .ok ⟨[.doBlock ⟨0, 61⟩ returningBody]⟩ ∧
      (transform versatileSetting returningBody).result = .verbatim returningBody ∧
      ∃ diagnostic place edits,
        (transform versatileSetting returningBody).journal.diagnostics = [diagnostic] ∧
        diagnostic.fixIts.getLast? =
          some ⟨"remove 'return' statements to apply the function builder", place, edits⟩ ∧
        edits = [.remove ⟨13, 20⟩, .remove ⟨51, 57⟩] ∧
        Source.bytes (edits.foldr Edit.apply returningSource) =
          Source.bytesOutside [⟨13, 20⟩, ⟨51, 57⟩] 0 (Source.bytes returningSource) := by
  have cut : tokenize returningSource = .ok [
      ⟨.keyword .do_, ⟨0, 2⟩, "do", false⟩, ⟨.symbol .braceOpen, ⟨3, 4⟩, "\x7b", false⟩,
      ⟨.keyword .if_, ⟨5, 7⟩, "if", false⟩, ⟨.identifier, ⟨8, 10⟩, "é", false⟩,
      ⟨.symbol .braceOpen, ⟨11, 12⟩, "\x7b", false⟩, ⟨.keyword .return_, ⟨13, 19⟩, "return", false⟩,
      ⟨.identifier, ⟨20, 21⟩, "g", false⟩, ⟨.symbol .braceOpen, ⟨22, 23⟩, "\x7b", false⟩,
      ⟨.keyword .return_, ⟨24, 30⟩, "return", false⟩, ⟨.integer, ⟨31, 32⟩, "1", false⟩,
      ⟨.symbol .braceClose, ⟨33, 34⟩, "\x7d", false⟩,
      ⟨.symbol .braceClose, ⟨35, 36⟩, "\x7d", false⟩,
      ⟨.symbol .semicolon, ⟨36, 37⟩, ";", false⟩, ⟨.keyword .for_, ⟨38, 41⟩, "for", false⟩,
      ⟨.identifier, ⟨42, 43⟩, "x", false⟩, ⟨.keyword .in_, ⟨44, 46⟩, "in", false⟩,
      ⟨.identifier, ⟨47, 48⟩, "y", false⟩, ⟨.symbol .braceOpen, ⟨49, 50⟩, "\x7b", false⟩,
      ⟨.keyword .return_, ⟨51, 57⟩, "return", false⟩,
      ⟨.symbol .braceClose, ⟨58, 59⟩, "\x7d", false⟩,
      ⟨.symbol .braceClose, ⟨60, 61⟩, "\x7d", false⟩, ⟨.endOfFile, ⟨61, 61⟩, "", false⟩] := by
    decide +kernel
  have parsed : parse _ = .ok ⟨[.doBlock ⟨0, 61⟩ returningBody]⟩ := parse_of_ofTokens cut rfl
  have inside : (Node.block returningBody).WithinProgram ⟨[.doBlock ⟨0, 61⟩ returningBody]⟩ :=
    ⟨_, List.mem_singleton_self _, .child (List.mem_singleton_self _) (.self _)⟩
  have left : (transform versatileSetting returningBody).result = .verbatim returningBody := rfl
  obtain ⟨diagnostic, place, edits, found, reported, suggested, -, -, -, -, removed⟩ :=
    removals_of_verbatim parsed inside left
  obtain rfl : _ = diagnostic := List.singleton_inj.mp reported
  obtain ⟨rfl, rfl⟩ := FixIt.mk.inj (Option.some.inj suggested).symm |>.2
  exact ⟨parsed, left, _, _, _, rfl, rfl, rfl, removed⟩

end ResultBuilder
