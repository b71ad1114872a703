import Mathlib.Data.List.Perm.Subperm
import ResultBuilder.Proofs.Syntax.Depth.Parsing
import ResultBuilder.Proofs.Syntax.Reading.Statement
import ResultBuilder.Proofs.Syntax.Returns.Cutting
import ResultBuilder.Proofs.Syntax.Returns.Statements
import ResultBuilder.Proofs.Syntax.Returns.Unreturned

/-!
# Sources from which the returns of a body are removed

A program that holds all returns of a list holds each once, as it pays for the keywords among its
tokens, and no keyword counts twice. Without the returns its source is read as the program without
them. The returns of a body can be removed if none of them comes directly after a declaration that
ends with its signature: the source is then that of the program in which the body has the values in
their place.

* **`keywords_eq`**: as many keywords as returns are the keywords of these returns.
* **`exists_parse_without`**: the source without the returns is that of the program without them.
* **`Node.length_returns_le`**: the returns of a body count in it.
* **`parse_removed_of_parted`**: the source without them, and the body that is read in it.
-/

namespace ResultBuilder.Syntax

open Source (utf8Bytes bytesOutside)
open Lexer (Piece render tokensFrom Lexes Skips)

variable {sites : List ReturnSite}

/-! ### All tokens -/

namespace ReturnSite

variable {opens : Bool} {tokens : List Token}

/-- Among some tokens no more count than are keywords of returns. -/
theorem left_le_length :
    left sites opens tokens ≤ (tokens.filter (·.isReturnOf sites)).length := by
  induction tokens generalizing opens with
  | nil => exact Nat.le_refl _
  | cons token rest ih =>
      have below := @ih token.kind.opensStatement
      rw [left, List.filter_cons]
      by_cases isSite : token.isSiteOf sites (opens || token.newlineBefore) rest.head? = true
      · rw [if_pos isSite, if_pos (Token.isReturnOf_of_isSiteOf isSite).2, List.length_cons]
        omega
      · rw [if_neg isSite]
        split
        · rw [List.length_cons]
          omega
        · omega

/-- Where as many count as are keywords of returns, all of these do. -/
theorem allCount_of_left
    (enough : (tokens.filter (·.isReturnOf sites)).length ≤ left sites opens tokens) :
    AllCount sites opens tokens := by
  induction tokens generalizing opens with
  | nil => trivial
  | cons token rest ih =>
      have below := @left_le_length sites token.kind.opensStatement rest
      rw [left, List.filter_cons] at enough
      by_cases isSite : token.isSiteOf sites (opens || token.newlineBefore) rest.head? = true
      · rw [if_pos isSite, if_pos (Token.isReturnOf_of_isSiteOf isSite).2, List.length_cons]
          at enough
        exact ⟨fun _ => isSite, ih (by omega)⟩
      · rw [if_neg isSite] at enough
        split at enough
        · rw [List.length_cons] at enough
          omega
        · next other => exact ⟨fun isReturn => absurd isReturn other, ih (by omega)⟩

end ReturnSite

/-- Tokens follow each other, and only the end of the file may be empty. -/
theorem Lexer.pairwise_tokensFrom {final : List Char} {after : Bool} {offset : Nat}
    {pieces : List Piece} (lexes : Lexes after pieces final) :
    (tokensFrom final offset pieces).Pairwise
      fun first second => first.span.start < second.span.start := by
  induction pieces generalizing after offset with
  | nil => exact List.pairwise_singleton _ _
  | cons piece pieces ih =>
      obtain ⟨-, opens, rest⟩ := lexes
      refine List.pairwise_cons.mpr ⟨fun token member => ?_, ih rest⟩
      refine Nat.lt_of_lt_of_le ?_ (start_of_mem_tokensFrom token member)
      have taken : 0 < Source.utf8Length piece.lexeme.characters :=
        Nat.pos_of_ne_zero fun none => opens.ne_nil (utf8Length_eq_zero.mp none)
      show offset + Source.utf8Length piece.gap < _
      rw [Piece.characters, Source.utf8Length_append]
      omega

namespace Parser

/-- **A list of items stops where it is said to stop** if there is room for all of them. -/
theorem stops_sequence {α : Type} {item : Parser α} {stops : TokenKind → Bool} {fuel bound : Nat}
    {nodes : α → List Node} (builds : item.Builds fuel nodes) {c c' : Cursor} {items : List α}
    (sound : c.IsSound) (few : c.rest.length ≤ fuel) (enough : c.rest.length ≤ bound)
    (yields : (sequence stops item bound).Yields c items c') : stops c'.next.kind = true := by
  induction bound generalizing c items with
  | zero => exact absurd sound.length_pos (by omega)
  | succ bound ih =>
      have yields := yields_sequence.mp yields
      have past := passes_pastSemicolons sound
      have fewer := past.length_le
      split at yields
      · next stops =>
          rw [yields.2]
          exact stops
      · obtain ⟨first, middle, read, answer, ended, ends, others, more, rfl⟩ := yields
        have reads := builds (past.sound' sound) (by omega) read
        have ending := passes_endStatement reads.sound' ends
        have fewer' := reads.fewer
        have fewer'' := ending.length_le
        exact ih (ending.sound' reads.sound') (by omega) (by omega) more

theorem bound_innerOfDepth (depth : Nat) : (innerOfDepth depth).bound = depth := by
  cases depth <;> rfl

/-- Statements are read alike at any depth that is enough. -/
theorem agree_statementsAt {few depth more : Nat} (enough : few ≤ depth) (alsoEnough : few ≤ more)
    (stops : TokenKind → Bool) :
    Agree wherever few (fun _ => few) (statements (innerOfDepth depth) stops)
      (statements (innerOfDepth more) stops) := by
  unfold statements
  rw [bound_innerOfDepth, bound_innerOfDepth]
  exact agree_sequence (agree_innerOfDepth enough alsoEnough).statement _ enough alsoEnough

end Parser

/-! ### Sources -/

/-- Pieces that are left are not more. -/
theorem Shed.length_le {final other : List Char} {offset : Nat} {pending : Option Bool}
    {pieces others : List Piece} (shed : Shed sites final other offset pending pieces others) :
    others.length ≤ pieces.length := by
  induction shed with
  | done => exact Nat.le_refl _
  | shed _ _ ih => exact Nat.le_succ_of_le ih
  | keep _ _ _ _ ih => exact Nat.succ_le_succ ih

/-- The statements of a source are tracked to the end of the file. -/
theorem Parser.tracks_source {c d : Cursor} (depth : Nat) :
    TracksAt sites ⟨true, true, .anywhere⟩ (fun _ => ⟨true, false, .ended⟩) 0 c d
      (statements (innerOfDepth depth) fun _ => false)
      (statements (innerOfDepth depth) fun _ => false) := by
  refine tracks_statements (tracks_innerOfDepth depth) (fun c settled => ?_) (fun kind stops => ?_)
    rfl rfl
  · rw [show c.next.kind = .endOfFile from settled]
    rfl
  · rw [Bool.or_false, beq_iff_eq] at stops
    rw [stops]
    rfl

/-- Keywords of returns that are listed are keywords that are listed. -/
theorem mem_keywords_of_isReturnOf {token : Token} (isReturn : token.isReturnOf sites = true) :
    token.span ∈ sites.map (·.keyword) := by
  obtain ⟨site, listed, same⟩ := List.any_eq_true.mp (Bool.and_eq_true_iff.mp isReturn).2
  exact List.mem_map.mpr ⟨site, listed, beq_iff_eq.mp same⟩

section Keywords

variable (sites) {final : List Char} {pieces : List Piece}

theorem pairwise_keywords (lexes : Lexes false pieces final) :
    (((tokensFrom final 0 pieces).filter (·.isReturnOf sites)).map (·.span)).Pairwise
      fun first second => first.start < second.start :=
  List.pairwise_map.mpr ((Lexer.pairwise_tokensFrom lexes).filter _)

theorem subperm_keywords (lexes : Lexes false pieces final) :
    (((tokensFrom final 0 pieces).filter (·.isReturnOf sites)).map (·.span)).Subperm
      (sites.map (·.keyword)) := by
  refine List.subperm_of_subset ((pairwise_keywords sites lexes).imp ?_) fun span member => ?_
  · rintro first _ before rfl
    exact Nat.lt_irrefl _ before
  · obtain ⟨token, isReturn, rfl⟩ := List.mem_map.mp member
    exact mem_keywords_of_isReturnOf (List.mem_filter.mp isReturn).2

theorem length_keywords_le (lexes : Lexes false pieces final) :
    ((tokensFrom final 0 pieces).filter (·.isReturnOf sites)).length ≤ sites.length := by
  have fewer := (subperm_keywords sites lexes).length_le
  rwa [List.length_map, List.length_map] at fewer

variable {sites}

/-- **Where as many keywords are among the tokens** as returns are listed, in the order of the
source, they are the same. -/
theorem keywords_eq (lexes : Lexes false pieces final)
    (ordered : sites.Pairwise fun first second => first.keyword.start < second.keyword.start)
    (enough : sites.length ≤ ((tokensFrom final 0 pieces).filter (·.isReturnOf sites)).length) :
    sites.map (·.keyword) =
      ((tokensFrom final 0 pieces).filter (·.isReturnOf sites)).map (·.span) := by
  have perm := (subperm_keywords sites lexes).perm_of_length_le (by simpa using enough)
  refine perm.symm.eq_of_pairwise (fun first second _ _ before behind => ?_)
    (List.pairwise_map.mpr ordered) (pairwise_keywords sites lexes)
  exact absurd (before.trans behind) (Nat.lt_irrefl _)

theorem nodup_keywords
    (ordered : sites.Pairwise fun first second => first.keyword.start < second.keyword.start) :
    (sites.map (·.keyword)).Nodup := by
  refine List.pairwise_map.mpr (ordered.imp fun before same => ?_)
  rw [same] at before
  exact Nat.lt_irrefl _ before

/-- Where as many keywords count as returns are listed, the returns are what is ahead. -/
theorem Ahead.of_left (lexes : Lexes false pieces final)
    (ordered : sites.Pairwise fun first second => first.keyword.start < second.keyword.start)
    (enough : sites.length ≤ ReturnSite.left sites true (tokensFrom final 0 pieces)) :
    Ahead sites sites true final 0 pieces := by
  have counts := @ReturnSite.left_le_length sites true (tokensFrom final 0 pieces)
  have listed := length_keywords_le sites lexes
  exact ⟨ReturnSite.allCount_of_left (by omega), keywords_eq lexes ordered (by omega), fun _ => id⟩

end Keywords

/-- **The source without the returns of a list** is that of the program without them, if the program
holds all of them. -/
theorem exists_parse_without {source : String} {program : Program}
    (parsed : parse source = .ok program)
    (ordered : sites.Pairwise fun first second => first.keyword.start < second.keyword.start)
    (held : sites.length ≤ (Node.block ⟨.point 0, program.statements⟩).tally sites) :
    ∃ text result, utf8Bytes text =
      bytesOutside (sites.map ReturnSite.removed) 0 (utf8Bytes source.toList) ∧
      parse (String.ofList text) = .ok result ∧
      result.statements.map (·.bare) =
        (program.without (sites.map (·.keyword))).statements.map (·.bare) := by
  obtain ⟨tokens, cut, c', yields⟩ := parse_eq_ok_iff.mp parsed
  have sound := Cursor.IsSound.of_tokenize cut
  obtain ⟨pieces, final, isText, ends, lexes, rfl⟩ := Lexer.tokenize_eq_ok_iff.mp cut
  -- the returns that are held are paid for, each with a keyword of its own
  have tracked (d : Cursor) := @Parser.tracks_source sites _ d _ _ _ yields
  have isWorth : worth sites program.statements =
      (Node.block ⟨.point 0, program.statements⟩).tally sites :=
    Nat.add_zero _
  have pays : worth sites program.statements + c'.left sites false ≤
      ReturnSite.left sites true (tokensFrom final 0 pieces) :=
    (tracked c').1.trans (Nat.zero_add _).le
  have most := (@ReturnSite.left_le_length sites true _).trans (length_keywords_le sites lexes)
  have ahead := Ahead.of_left lexes ordered (by omega)
  obtain ⟨others, other, left, -⟩ := exists_cut (nodup_keywords ordered) ends .start lexes ahead
  -- what is left of the source is read as what lasts of the program
  let next := Cursor.atStart (render others ++ other) (tokensFrom other 0 others)
  have follows : (Cursor.atStart source.toList (tokensFrom final 0 pieces)).Follows sites true
      next :=
    ⟨false, pieces, final, false, others, other, none, ⟨rfl, ⟨[], isText, rfl⟩, lexes⟩,
      ⟨rfl, ⟨[], rfl, rfl⟩, left.lexes⟩, left.shed, nofun⟩
  -- there is room for all statements, so that they stop at the end of the file only
  have settled : c'.next.kind = .endOfFile := by
    have stops := Parser.stops_sequence (Parser.builds_innerOfDepth _).statement sound
      (Nat.le_refl _) (Parser.bound_innerOfDepth _).ge yields
    simpa using stops
  have exact : worth sites program.statements + c'.left sites false =
      0 + ReturnSite.left sites true (tokensFrom final 0 pieces) := by omega
  obtain ⟨result, d', again, lasts, -⟩ := (((tracked next).2 exact ahead.counted).2 settled).2
    follows
  refine ⟨render others ++ other, ⟨result⟩, isText ▸ left.bytes, parse_eq_ok_iff.mpr ?_, ?_⟩
  · have cut := Lexer.tokenize_eq_ok_iff.mpr ⟨others, other, String.toList_ofList, left.ends,
      left.lexes, rfl⟩
    refine ⟨_, cut, d', ?_⟩
    have fewer : (tokensFrom other 0 others).length ≤ (tokensFrom final 0 pieces).length := by
      rw [Lexer.length_tokensFrom, Lexer.length_tokensFrom]
      exact Nat.succ_le_succ left.shed.length_le
    have agree := Parser.agree_statementsAt fewer (Nat.le_refl _) fun _ => false
    have same := agree.same follows.sound' (Nat.le_refl _) trivial
    rw [String.toList_ofList]
    exact same.symm.trans again
  · rw [Program.without, Statement.withoutAll_eq_flatMap]
    exact lasts

end ResultBuilder.Syntax

namespace ResultBuilder

open Syntax Transform

namespace Syntax

variable {sites : List ReturnSite}

/-! ### Returns that count -/

namespace Node

theorem tally_le_tallies {node : Node} {nodes : List Node} (member : node ∈ nodes) :
    node.tally sites ≤ tallies sites nodes := by
  induction nodes with
  | nil => cases member
  | cons first rest ih =>
      rw [tallies_cons]
      rcases List.mem_cons.mp member with rfl | member
      · exact Nat.le_add_right _ _
      · exact (ih member).trans (Nat.le_add_left _ _)

/-- There are no more returns in a part of a node than in the node. -/
theorem tally_le_of_within {inner node : Node} (within : inner.Within node) :
    inner.tally sites ≤ node.tally sites := by
  induction within with
  | self => exact Nat.le_refl _
  | @child _ outer member _ ih =>
      rw [tally_eq sites outer]
      exact ih.trans ((tally_le_tallies member).trans (Nat.le_add_left _ _))

/-- Returns are statements of blocks. -/
theorem not_returning_of_mem_children {node : Node} (noBlock : ∀ block, node ≠ .block block)
    {span keyword : Span} {value : Option Expr} :
    Node.statement (.returning span keyword value) ∉ node.children := by
  cases node with
  | block node => exact absurd rfl (noBlock node)
  | type node => cases node <;> simp [children, ofType]
  | param node =>
      simp only [children, ofParam]
      split <;> simp
  | expression node => cases node <;> simp [children, ofExpr]
  | condition node => cases node <;> simp [children, ofCondition]
  | switchCase node =>
      obtain ⟨span, label, body⟩ := node
      cases label <;> simp [children, ofLabel]
  | declaration node => cases node <;> simp [children, ofDeclaration]
  | statement node =>
      cases node with
      | conditional node =>
          obtain ⟨span, conditions, thenBlock, otherwise⟩ := node
          cases otherwise with
          | none => simp [children, ofStatement]
          | some otherwise => cases otherwise <;> simp [children, ofStatement, ofAlternative]
      | loop node =>
          obtain ⟨span, form, header, body⟩ := node
          cases form <;> simp [children, ofStatement, ofLoop]
      | _ => simp [children, ofStatement]
  | _ => simp [children]

/-- Returns among statements count if they are apart from signatures. -/
theorem length_allReturns_le {behind : Bool} {statements : List Statement}
    (listed : ∀ site ∈ Statement.allReturns statements, site ∈ sites)
    (apart : ∀ statement ∈ statements.head?, behind = true →
      statement.isReturnOf (sites.map (·.keyword)) = false)
    (parted : Statement.Parted (sites.map (·.keyword)) statements)
    (each : ∀ statement ∈ statements,
      (∀ span keyword value, statement ≠ .returning span keyword value) →
      statement.returns.length ≤ (Node.statement statement).tally sites) :
    (Statement.allReturns statements).length ≤
      Statement.countReturns sites behind statements +
        tallies sites (statements.map .statement) := by
  induction statements generalizing behind with
  | nil => exact Nat.le_refl _
  | cons statement rest ih =>
      obtain ⟨listedHere, listedRest⟩ := List.forall_mem_append.mp listed
      obtain ⟨eachHere, eachRest⟩ := List.forall_mem_cons.mp each
      have below := @ih statement.endsWithSignature listedRest (fun second isNext ends =>
        parted.rel_head? isNext ends) parted.tail eachRest
      rw [Statement.allReturns, List.length_append, Statement.countReturns, List.map_cons,
        tallies_cons]
      cases statement with
      | returning span keyword value =>
          have isSite := listedHere _ (List.mem_singleton_self _)
          have noSignature : behind = false := Bool.eq_false_iff.mpr fun isBehind =>
            of_decide_eq_false (apart _ rfl isBehind) (List.mem_map_of_mem isSite)
          rw [if_pos (by simpa [noSignature, Statement.isSiteOf] using isSite)]
          show 1 + _ ≤ _
          omega
      | _ =>
          have here := eachHere (by simp)
          omega

/-- The returns in some nodes count if those in each do. -/
theorem length_flatMap_returns_le {nodes : List Node}
    (each : ∀ node ∈ nodes, node.returns.length ≤ node.tally sites) :
    (nodes.flatMap returns).length ≤ tallies sites nodes := by
  induction nodes with
  | nil => exact Nat.le_refl _
  | cons node rest ih =>
      obtain ⟨here, others⟩ := List.forall_mem_cons.mp each
      rw [List.flatMap_cons, List.length_append, tallies_cons]
      exact Nat.add_le_add here (ih others)

/-- **The returns in a node count** if they are listed and apart from signatures. -/
theorem length_returns_le {node : Node} (listed : ∀ site ∈ node.returns, site ∈ sites)
    (parted : ∀ block, (Node.block block).Within node →
      Statement.Parted (sites.map (·.keyword)) block.statements)
    (noReturn : ∀ span keyword value, node ≠ .statement (.returning span keyword value)) :
    node.returns.length ≤ node.tally sites := by
  induction node using Node.induction with
  | step node ih =>
      have below {child : Node} (isChild : child ∈ node.children)
          (listed : ∀ site ∈ child.returns, site ∈ sites)
          (noReturn : ∀ span keyword value, child ≠ .statement (.returning span keyword value)) :=
        ih child isChild listed (fun block within => parted block (.child isChild within)) noReturn
      by_cases isBlock : ∃ block, node = .block block
      · obtain ⟨⟨span, statements⟩, rfl⟩ := isBlock
        rw [tally_block]
        refine length_allReturns_le listed (fun _ _ => nofun) (parted _ (.self _))
          fun statement isStatement other => ?_
        refine below (List.mem_map_of_mem isStatement) (fun site isSite => listed site ?_)
          fun _ _ _ same => other _ _ _ (Node.statement.inj same)
        show site ∈ Statement.allReturns statements
        rw [allReturns_eq_flatMap]
        exact List.mem_flatMap.mpr ⟨statement, isStatement, isSite⟩
      · rcases node.returns_cases with none | ⟨span, keyword, value, same⟩ | ⟨-, ofChildren⟩
        · rw [none]
          exact Nat.zero_le _
        · exact absurd same (noReturn _ _ _)
        · rw [ofChildren] at listed ⊢
          rw [tally_eq]
          refine (length_flatMap_returns_le fun child isChild => ?_).trans (Nat.le_add_left _ _)
          refine below isChild
            (fun site isSite => listed site (List.mem_flatMap.mpr ⟨child, isChild, isSite⟩)) ?_
          rintro _ _ _ rfl
          exact not_returning_of_mem_children (fun block same => isBlock ⟨block, same⟩) isChild

end Node

/-- **All returns of a body count in a program** in which they are apart from signatures. -/
theorem Block.length_returns_le_tally {program : Program} {body : Block}
    (inside : (Node.block body).WithinProgram program)
    (parted : program.Parted body.returnKeywords) :
    body.returns.length ≤ (Node.block ⟨.point 0, program.statements⟩).tally body.returns := by
  obtain ⟨statement, listed, within⟩ := inside
  have counts : body.returns.length ≤ (Node.block body).tally body.returns :=
    (Node.block body).length_returns_le (fun _ => id)
      (fun block inBody => parted.2 block ⟨statement, listed, inBody.trans within⟩) nofun
  exact counts.trans (Node.tally_le_of_within (.child (List.mem_map_of_mem listed) within))

/-- The keywords of the returns of a body are in the order of the source. -/
theorem Block.pairwise_returns {source : String} {program : Program} {body : Block}
    (sound : program.IsSound source.toList) (inside : (Node.block body).WithinProgram program) :
    body.returns.Pairwise fun first second => first.keyword.start < second.keyword.start := by
  have placed : (Node.block body).Everywhere (·.IsPlaced source.toList) :=
    fun inner within => (sound inner (inside.within within)).placed
  refine ((Node.block body).returns_inOrder placed).2.imp_of_mem fun {first _} listed _ before => ?_
  obtain ⟨span, keyword, value, within, isAt⟩ := exists_return_of_mem listed
  have removes := @removesReturn_removal source program sound (.returning span keyword value)
    (inside.within within) first isAt
  exact Nat.lt_of_lt_of_le removes.nonempty before

/-- **The edits that remove the returns of a body** leave the bytes outside of them. -/
theorem Block.bytes_removeReturns {source : String} {program : Program} {body : Block}
    (sound : program.IsSound source.toList) (inside : (Node.block body).WithinProgram program) :
    Source.bytes (body.removeReturns source) =
      Source.bytesOutside (body.returns.map ReturnSite.removed) 0 (Source.bytes source) := by
  have placed : (Node.block body).Everywhere (·.IsPlaced source.toList) :=
    fun inner within => (sound inner (inside.within within)).placed
  have usable : ∀ place ∈ body.returns.map ReturnSite.removed, place.IsUsable source.toList :=
    List.forall_mem_map.mpr fun site listed =>
      (ReturnSite.isUsable_of_mem_returns sound inside listed).removal
  have left := Edit.bytes_foldr_remove usable
    (List.pairwise_map.mpr ((Node.block body).returns_inOrder placed).2)
  rw [List.map_map] at left
  exact left

end Syntax

/-- Texts with the same bytes are the same. -/
theorem Source.bytes_injective {text other : String} (same : bytes text = bytes other) :
    text = other :=
  String.toByteArray_inj.mp (ByteArray.ext (Array.toList_inj.mp same))

/-- **The suggestion for a body that is left as it is**: to remove its returns. -/
theorem exists_suggestion {setting : Setting} {body : Block} (disables : IsDisabled body) :
    ∃ diagnostic place, (transform setting body).journal.diagnostics = [diagnostic] ∧
      diagnostic.fixIts.getLast? =
        some ⟨"remove 'return' statements to apply the function builder", place,
          body.returns.map ReturnWarning.removal⟩ := by
  let warning : ReturnWarning :=
    ⟨setting.descriptor.builder, body.returns, setting.context.builderAttribute⟩
  refine ⟨warning.diagnostic, warning.span, ?_, ?_⟩
  · rw [transform_of_isDisabled disables, diagnostics_disabled]
  · cases mark : setting.context.builderAttribute <;>
      simp [warning, ReturnWarning.diagnostic, ReturnWarning.notes, Diagnostic.fixIts,
        Note.fixIt?, mark]

/-- **Removing the returns of a body** applies the builder. A body of a parsed source that is left
as it is comes with the suggestion to remove its returns. If none of them directly follows a
declaration that ends with its signature, the source that the edits leave, made from the last to the
first, is that of the program without these returns: it has the body with the values of its returns
in their place, and without those that have no value, and that body is not left as it is. -/
theorem parse_removed_of_parted {source : String} {program : Program}
    (parsed : parse source = .ok program)
    {setting : Setting} {body kept : Block} (inside : (Node.block body).WithinProgram program)
    (left : (transform setting body).result = .verbatim kept)
    (parted : program.Parted body.returnKeywords) :
    ∃ diagnostic place edits result rest,
      (transform setting body).journal.diagnostics = [diagnostic] ∧
      diagnostic.fixIts.getLast? =
        some ⟨"remove 'return' statements to apply the function builder", place, edits⟩ ∧
      parse (edits.foldr Edit.apply source) = .ok result ∧
      result.statements.map (·.bare) =
        (program.without body.returnKeywords).statements.map (·.bare) ∧
      (Node.block rest).WithinProgram result ∧
      rest.rebuild .plain = body.unreturned.rebuild .plain ∧
      ∀ setting same, (transform setting rest).result ≠ .verbatim same := by
  have sound := (Program.isSound_of_parse parsed).1
  obtain ⟨disables, rfl⟩ := result_eq_verbatim_iff.mp left
  obtain ⟨diagnostic, place, reported, suggested⟩ := @exists_suggestion setting _ disables
  obtain ⟨text, result, bytes, parsedRest, same⟩ :=
    exists_parse_without parsed (body.pairwise_returns sound inside)
      (Block.length_returns_le_tally inside parted)
  have edited : (body.returns.map ReturnWarning.removal).foldr Edit.apply source =
      String.ofList text := by
    refine Source.bytes_injective ?_
    change Source.bytes (body.removeReturns source) = _
    rw [Block.bytes_removeReturns sound inside, Source.bytes_eq, Source.bytes_eq,
      String.toList_ofList, bytes]
  obtain ⟨rest, insideRest, isRest⟩ := Program.exists_remains inside same
  change _ = (body.without body.returnKeywords).rebuild .plain at isRest
  rw [Block.without_returnKeywords fun inner within => sound inner (inside.within within)] at isRest
  refine ⟨diagnostic, place, _, result, rest, reported, suggested, edited.symm ▸ parsedRest, same,
    insideRest, isRest, ?_⟩
  intro setting same left
  have none : rest.returns.length = 0 := by
    rw [← @Block.length_returns_rebuild .plain, isRest, Block.length_returns_rebuild,
      Block.returns_unreturned]
    rfl
  exact (result_eq_verbatim_iff.mp left).1.1 (List.eq_nil_of_length_eq_zero none)

/-- A block with a variable that ends with its type, and two returns behind it. -/
def separateSource : String :=
  "do \x7b\n  let x: A\n  if c \x7b return \x7d\n  return b\n\x7d"

/-- The body of the block. -/
def separateBody : Block :=
  ⟨⟨3, 46⟩, [
    .declaration (.variable ⟨⟨7, 15⟩, [], false, ⟨⟨11, 12⟩, "x"⟩, some (.named ⟨14, 15⟩ "A" []),
      none, none⟩),
    .conditional ⟨⟨18, 33⟩, [.expression (.ident ⟨21, 22⟩ "c")],
      ⟨⟨23, 33⟩, [.returning ⟨25, 31⟩ ⟨25, 31⟩ none]⟩, none⟩,
    .returning ⟨36, 44⟩ ⟨36, 42⟩ (some (.ident ⟨43, 44⟩ "b"))]⟩

/-- The program that is the block. -/
def separateProgram : Program :=
  ⟨[.doBlock ⟨0, 46⟩ separateBody]⟩

open BuilderCall in
/-- The value of the last return stays in the block, and nothing stays of the return before it. -/
theorem parse_removed_separateBody :
    parse separateSource = .ok separateProgram ∧
      (Node.block separateBody).WithinProgram separateProgram ∧
      (transform versatileSetting separateBody).result = .verbatim separateBody ∧
      separateProgram.Parted separateBody.returnKeywords ∧
      ∃ diagnostic place edits result rest,
        (transform versatileSetting separateBody).journal.diagnostics = [diagnostic] ∧
        diagnostic.fixIts.getLast? =
          some ⟨"remove 'return' statements to apply the function builder", place, edits⟩ ∧
        parse (edits.foldr Edit.apply separateSource) = .ok result ∧
        result.statements.map (·.bare) =
          (separateProgram.without separateBody.returnKeywords).statements.map (·.bare) ∧
        (Node.block rest).WithinProgram result ∧
        rest.rebuild .plain = separateBody.unreturned.rebuild .plain ∧
        ∀ setting same, (transform setting rest).result ≠ .verbatim same := by
  have cut : tokenize separateSource = .ok [
      ⟨.keyword .do_, ⟨0, 2⟩, "do", false⟩, ⟨.symbol .braceOpen, ⟨3, 4⟩, "\x7b", false⟩,
      ⟨.keyword .let_, ⟨7, 10⟩, "let", true⟩, ⟨.identifier, ⟨11, 12⟩, "x", false⟩,
      ⟨.symbol .colon, ⟨12, 13⟩, ":", false⟩, ⟨.identifier, ⟨14, 15⟩, "A", false⟩,
      ⟨.keyword .if_, ⟨18, 20⟩, "if", true⟩, ⟨.identifier, ⟨21, 22⟩, "c", false⟩,
      ⟨.symbol .braceOpen, ⟨23, 24⟩, "\x7b", false⟩,
      ⟨.keyword .return_, ⟨25, 31⟩, "return", false⟩,
      ⟨.symbol .braceClose, ⟨32, 33⟩, "\x7d", false⟩,
      ⟨.keyword .return_, ⟨36, 42⟩, "return", true⟩, ⟨.identifier, ⟨43, 44⟩, "b", false⟩,
      ⟨.symbol .braceClose, ⟨45, 46⟩, "\x7d", true⟩, ⟨.endOfFile, ⟨46, 46⟩, "", false⟩] := by
    decide +kernel
  have parsed : parse separateSource = .ok separateProgram := parse_of_ofTokens cut rfl
  have inside : (Node.block separateBody).WithinProgram separateProgram :=
    ⟨_, List.mem_singleton_self _, .child (List.mem_singleton_self _) (.self _)⟩
  have left : (transform versatileSetting separateBody).result = .verbatim separateBody := rfl
  have everywhere : (Node.statement (.doBlock ⟨0, 46⟩ separateBody)).Everywhere fun node =>
      ∀ block, node = .block block →
        Statement.Parted separateBody.returnKeywords block.statements := by
    repeat' first
      | exact List.forall_mem_nil _
      | refine List.forall_mem_cons.mpr ⟨?_, ?_⟩
      | refine Node.everywhere_iff.mpr ⟨?_, ?_⟩
    all_goals rintro _ ⟨⟩
    all_goals
      simp [Statement.Parted, Statement.endsWithSignature, Declaration.endsWithSignature,
        Statement.isReturnOf, separateBody]
  have parted : separateProgram.Parted separateBody.returnKeywords := by
    refine ⟨.singleton _, ?_⟩
    rintro block ⟨_, member, within⟩
    obtain rfl := List.mem_singleton.mp member
    exact everywhere _ within block rfl
  exact ⟨parsed, inside, left, parted, parse_removed_of_parted parsed inside left parted⟩

end ResultBuilder
