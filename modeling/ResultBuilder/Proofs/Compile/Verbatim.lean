import ResultBuilder.Proofs.Compile.Bodies
import ResultBuilder.Proofs.Synthesis.Growth
import ResultBuilder.Proofs.Syntax.Printing.Program

/-!
# Bodies that are left as they are written

A body that is recorded is written in the program, and when it is left as it is, its expansion is
what is written there. The text of the expansion is read as the body where calls stand apart and
there are no cases: the statements of a case are printed between braces, which are read as a closure.

* **`Program.written`**: the bodies of a program to which builders can be applied.
* **`isWritten_of_mem_bodies`**: the recorded bodies are such bodies.
* **`verbatim_text_iff`**: when the text of a body that is left as it is is read as the body.
-/

namespace ResultBuilder

open Syntax

namespace Compile

/-- **The bodies that are written at a place**, each with where it is. -/
def Site.written : Site → List (Span × Block)
  | .directive _ => []
  | .function decl => decl.body.toList.map fun body => (body.span, body)
  | .property _ body => [(body.span, body)]
  | .call _ args trailing =>
      (CallBinding.given args trailing).filterMap (·.map fun given => (given.span, given.body))

/-- They are where bodies are. -/
theorem Site.map_fst_written (site : Site) : site.written.map (·.1) = site.bodies := by
  cases site with
  | directive | property => rfl
  | function decl => simp [written, bodies]
  | call callee args trailing => simp [written, bodies, List.map_filterMap, Function.comp_def]

/-- A body at a place of a node is a block within the node. -/
theorem Site.within_of_mem_written {node : Node} {site : Site} {span : Span} {block : Block}
    (isSite : Site.ofNode? node = some site) (written : (span, block) ∈ site.written) :
    (Node.block block).Within node := by
  unfold Site.ofNode? at isSite
  split at isSite
  · cases isSite
    cases written
  · cases isSite
    obtain ⟨body, isBody, same⟩ := List.mem_map.mp written
    cases same
    exact .child (List.mem_append_right _ (List.mem_cons_of_mem _ (List.mem_append_right _
      (List.mem_append_right _ (List.mem_append_right _ (List.mem_map_of_mem isBody)))))) (.self _)
  · obtain ⟨body, isBody, rfl⟩ := Option.map_eq_some_iff.mp isSite
    cases List.mem_singleton.mp written
    exact .child (List.mem_append_right _ (List.mem_cons_of_mem _ (List.mem_append_right _
      (List.mem_append_right _ (List.mem_map_of_mem (Option.mem_toList.mpr isBody)))))) (.self _)
  · cases isSite
    obtain ⟨closure, given, same⟩ := List.mem_filterMap.mp written
    obtain ⟨closure, rfl, same⟩ := Option.map_eq_some_iff.mp same
    cases same
    exact Node.Within.trans (.child (List.mem_append_right _ (List.mem_singleton_self _)) (.self _))
      (within_of_mem_given given)
  · cases isSite

end Compile

open Compile

/-- **The bodies that are written in a program** and to which builders can be applied, each with
where it is. -/
def Syntax.Program.written (program : Program) : List (Span × Block) :=
  (program.nodes.filterMap Site.ofNode?).flatMap Site.written

/-- They are blocks of the program. -/
theorem Syntax.Program.withinProgram_of_mem_written {program : Program} {span : Span} {block : Block}
    (written : (span, block) ∈ program.written) : (Node.block block).WithinProgram program := by
  obtain ⟨site, isSite, written⟩ := List.mem_flatMap.mp written
  obtain ⟨node, ofProgram, isSite⟩ := List.mem_filterMap.mp isSite
  exact (Program.mem_nodes.mp ofProgram).within (Site.within_of_mem_written isSite written)

/-- **There is one body at a place** of a parsed source. -/
theorem Syntax.Program.eq_of_mem_written {source : String} {program : Program}
    (parsed : parse source = .ok program) {span : Span} {block other : Block}
    (written : (span, block) ∈ program.written) (otherWritten : (span, other) ∈ program.written) :
    other = block := by
  have places : program.written.map (·.1) =
      (program.nodes.filterMap Site.ofNode?).flatMap Site.bodies := by
    rw [Program.written, List.map_flatMap]
    exact List.flatMap_congr fun site _ => site.map_fst_written
  have distinct : (program.written.map (·.1)).Nodup := places ▸ nodup_bodies_of_parse parsed
  exact (Prod.mk.inj (List.inj_on_of_nodup_map distinct otherWritten written rfl)).2

/-- **A recorded body of written ones**: it is where one of them is, and it is that one when it is
left as it is. -/
def TransformedBody.IsWritten (written : List (Span × Block)) (body : TransformedBody) : Prop :=
  ∃ block, (body.span, block) ∈ written ∧ ∀ left, body.expansion = .verbatim left → left = block

namespace Compile

/-- A body that is recorded for a block. -/
theorem of_mem_bodies_commit {kind : BodyKind} {builder : TypeDecl} {span : Span}
    {setting : Transform.Setting} {block : Block} {body : TransformedBody}
    (recorded : body ∈ (commit kind builder span (transform setting block)).bodies) :
    body.span = span ∧ ∀ left, body.expansion = .verbatim left → left = block := by
  have verbatim {left : Block} := @Transform.result_eq_verbatim_iff setting block left
  unfold commit at recorded
  generalize transform setting block = outcome at verbatim recorded
  obtain ⟨result, journal⟩ := outcome
  cases result with
  | built built =>
      cases List.mem_singleton.mp recorded
      exact ⟨rfl, nofun⟩
  | verbatim kept =>
      cases List.mem_singleton.mp recorded
      refine ⟨rfl, fun left same => ?_⟩
      cases same
      exact (verbatim.mp rfl).2.symm
  | failed error => cases recorded

theorem isWritten_applyAttribute {around : Surroundings} {marks : List Attribute} {kind : BodyKind}
    {block : Block} {cache : DescriptorCache} {body : TransformedBody}
    (recorded : body ∈ (applyAttribute around marks kind block cache).findings.bodies) :
    body.IsWritten [(block.span, block)] := by
  obtain ⟨builder, descriptor, context, recorded⟩ := exists_commit_of_mem_applyAttribute recorded
  obtain ⟨place, isBlock⟩ := of_mem_bodies_commit recorded
  exact ⟨block, place ▸ List.mem_singleton_self _, isBlock⟩

/-- The closures of a possibility are given to the call. -/
theorem mem_written_of_mem_bindings {around : Surroundings} {callee : Expr} {args : List Argument}
    {trailing : Option Closure} {binding : CallBinding} {given : BuilderClosure}
    (possible : binding ∈ bindings around callee args trailing)
    (isGiven : given ∈ binding.closures) :
    (given.closure.span, given.closure.body) ∈ (Site.call callee args trailing).written := by
  obtain ⟨-, -, closures, -⟩ := mem_bindings_iff.mp possible
  rw [← closures] at isGiven
  obtain ⟨⟨param, argument⟩, pair, isClosure⟩ := List.mem_filterMap.mp isGiven
  obtain ⟨closure, isArgument, isClosure⟩ := Option.bind_eq_some_iff.mp isClosure
  obtain ⟨⟨mark, builder⟩, named, same⟩ := Option.bind_eq_some_iff.mp isClosure
  cases same
  cases isArgument
  exact List.mem_filterMap.mpr ⟨_, (List.of_mem_zip pair).2, rfl⟩

/-- **The bodies that are recorded at a place** are written there. -/
theorem isWritten_walk {visit : Visit} {cache : DescriptorCache} {body : TransformedBody}
    (recorded : body ∈ (visit.walk cache).findings.bodies) : body.IsWritten visit.site.written := by
  cases visit with
  | directive node => cases recorded
  | function around decl =>
      obtain ⟨span, marks, isStatic, name, generics, params, result, block⟩ := decl
      cases block with
      | none => cases recorded
      | some block => exact isWritten_applyAttribute recorded
  | property around marks block => exact isWritten_applyAttribute recorded
  | call around callee args trailing =>
      obtain ⟨binding, possible, given, isGiven, descriptor, recorded⟩ :=
        exists_given_of_mem_transformCall recorded
      obtain ⟨place, isBlock⟩ := of_mem_bodies_commit recorded
      exact ⟨given.closure.body, place ▸ mem_written_of_mem_bindings possible isGiven, isBlock⟩

/-- **The bodies that are recorded in a program** are written in it. -/
theorem isWritten_of_mem_bodies {services : Collaborators} {config : Config} {program : Program}
    {cache : DescriptorCache} {body : TransformedBody}
    (recorded : body ∈ (programWith services config program cache).findings.bodies) :
    body.IsWritten program.written := by
  rw [(found_programWith services config program cache).2, bodies_walkAll] at recorded
  obtain ⟨entry, found, recorded⟩ := List.mem_flatMap.mp recorded
  obtain ⟨visited, before, walked⟩ := exists_walk_of_mem_foundAt found
  rw [walked] at recorded
  obtain ⟨block, written, isBlock⟩ := isWritten_walk recorded
  have isSite : entry.1.site ∈ program.nodes.filterMap Site.ofNode? :=
    (sites_visits services config program).mem_iff.mp (List.mem_map_of_mem visited)
  exact ⟨block, List.mem_flatMap.mpr ⟨_, isSite, written⟩, isBlock⟩

end Compile

open Compile

/-- **Verbatim expansions and the body as written.** A recorded body of a parsed source that is left
as it is, is the one body that is written where it is recorded. Unless there is a declaration in it, a
number with a point or a member with a number for a name, the text of its expansion is read as a
block with the same statements exactly where calls stand apart and there are no cases of `switch`
statements: the statements of a case are printed between braces. -/
theorem verbatim_text_iff {source : String} {program : Program} (parsed : parse source = .ok program)
    {services : Collaborators} {config : Config} {cache : DescriptorCache} {body : TransformedBody}
    (recorded : body ∈ (programWith services config program cache).findings.bodies) {block : Block}
    (left : body.expansion = .verbatim block)
    (whole : (Node.block block).Everywhere Node.PrintsWhole) :
    (∀ other, (body.span, other) ∈ program.written ↔ other = block) ∧
      ((∃ again, parseBlock body.expansion.text = .ok again ∧
          again.statements.map Statement.bare = block.statements.map Statement.bare) ↔
        (Node.block block).Everywhere fun inner => inner.CallsApart ∧ inner.IsNoCase) := by
  obtain ⟨kept, written, isKept⟩ := isWritten_of_mem_bodies recorded
  obtain rfl := isKept block left
  have text : body.expansion.text = block.text := by rw [left, Expansion.text]
  rw [text]
  refine ⟨fun other => ⟨Program.eq_of_mem_written parsed written, ?_⟩,
    parseBlock_text_iff parsed (Program.withinProgram_of_mem_written written) whole⟩
  rintro rfl
  exact written

/-- A builder that joins nothing, and a function with it whose body is left as it is. -/
def markedFunction (span : Span) (body : Block) : Program where
  statements := [
    .declaration (.type ⟨⟨0, 52⟩, [⟨⟨0, 14⟩, "resultBuilder"⟩], .structType, ⟨⟨22, 23⟩, "B"⟩, [], [
      .function ⟨⟨26, 50⟩, [], true, ⟨⟨38, 48⟩, "buildBlock"⟩, [], [], none, none⟩]⟩),
    .declaration (.function ⟨span, [⟨⟨54, 56⟩, "B"⟩], false, ⟨⟨62, 63⟩, "f"⟩, [], [], none,
      some body⟩)]

/-- The tokens before the body of such a function. -/
def markedTokens : List Token := [
  ⟨.symbol .atSign, ⟨0, 1⟩, "@", false⟩, ⟨.identifier, ⟨1, 14⟩, "resultBuilder", false⟩,
  ⟨.keyword .struct_, ⟨15, 21⟩, "struct", false⟩, ⟨.identifier, ⟨22, 23⟩, "B", false⟩,
  ⟨.symbol .braceOpen, ⟨24, 25⟩, "\x7b", false⟩, ⟨.keyword .static_, ⟨26, 32⟩, "static", false⟩,
  ⟨.keyword .func_, ⟨33, 37⟩, "func", false⟩, ⟨.identifier, ⟨38, 48⟩, "buildBlock", false⟩,
  ⟨.symbol .parenOpen, ⟨48, 49⟩, "(", false⟩, ⟨.symbol .parenClose, ⟨49, 50⟩, ")", false⟩,
  ⟨.symbol .braceClose, ⟨51, 52⟩, "\x7d", false⟩, ⟨.symbol .semicolon, ⟨52, 53⟩, ";", false⟩,
  ⟨.symbol .atSign, ⟨54, 55⟩, "@", false⟩, ⟨.identifier, ⟨55, 56⟩, "B", false⟩,
  ⟨.keyword .func_, ⟨57, 61⟩, "func", false⟩, ⟨.identifier, ⟨62, 63⟩, "f", false⟩,
  ⟨.symbol .parenOpen, ⟨63, 64⟩, "(", false⟩, ⟨.symbol .parenClose, ⟨64, 65⟩, ")", false⟩]

/-- A body that returns before a call with a closure. -/
def closureBody : Block :=
  ⟨⟨66, 87⟩, [.returning ⟨68, 74⟩ ⟨68, 74⟩ none, .expression (.call ⟨76, 85⟩ (.ident ⟨76, 77⟩ "g") []
    (some ⟨⟨80, 85⟩, [], ⟨⟨80, 85⟩, [.expression (.literal ⟨82, 83⟩ (.integer 1))]⟩⟩))]⟩

/-- The body is read back from the text of its expansion, which has no parentheses for the call. -/
theorem verbatim_text_closureBody :
    parse ("@resultBuilder struct B \x7b static func buildBlock() \x7d; @B func f() " ++
        "\x7b return; g() \x7b 1 \x7d \x7d") = .ok (markedFunction ⟨54, 87⟩ closureBody) ∧
      ⟨.function, "B", ⟨66, 87⟩, .verbatim closureBody⟩ ∈
        (programWith .permissive {} (markedFunction ⟨54, 87⟩ closureBody) {}).findings.bodies ∧
      (Expansion.verbatim closureBody).text = "\x7b return; g \x7b 1 \x7d \x7d" ∧
      ∃ again, parseBlock (Expansion.verbatim closureBody).text = .ok again ∧
        again.statements.map Statement.bare = closureBody.statements.map Statement.bare := by
  have cut : tokenize ("@resultBuilder struct B \x7b static func buildBlock() \x7d; @B func f() " ++
      "\x7b return; g() \x7b 1 \x7d \x7d") = .ok (markedTokens ++ [
      ⟨.symbol .braceOpen, ⟨66, 67⟩, "\x7b", false⟩, ⟨.keyword .return_, ⟨68, 74⟩, "return", false⟩,
      ⟨.symbol .semicolon, ⟨74, 75⟩, ";", false⟩, ⟨.identifier, ⟨76, 77⟩, "g", false⟩,
      ⟨.symbol .parenOpen, ⟨77, 78⟩, "(", false⟩, ⟨.symbol .parenClose, ⟨78, 79⟩, ")", false⟩,
      ⟨.symbol .braceOpen, ⟨80, 81⟩, "\x7b", false⟩, ⟨.integer, ⟨82, 83⟩, "1", false⟩,
      ⟨.symbol .braceClose, ⟨84, 85⟩, "\x7d", false⟩, ⟨.symbol .braceClose, ⟨86, 87⟩, "\x7d", false⟩,
      ⟨.endOfFile, ⟨87, 87⟩, "", false⟩]) := by
    decide +kernel
  have parsed : parse _ = .ok (markedFunction ⟨54, 87⟩ closureBody) :=
    parse_of_ofTokens cut (set_option maxRecDepth 2000 in rfl)
  have recorded : ⟨.function, "B", ⟨66, 87⟩, .verbatim closureBody⟩ ∈
      (programWith .permissive {} (markedFunction ⟨54, 87⟩ closureBody) {}).findings.bodies :=
    List.mem_singleton_self _
  have whole : (Node.block closureBody).Everywhere Node.PrintsWhole := by
    repeat' first
      | exact trivial
      | exact List.forall_mem_nil _
      | refine List.forall_mem_cons.mpr ⟨?_, ?_⟩
      | refine Node.everywhere_iff.mpr ⟨?_, ?_⟩
  have isReread := (Node.isReread_iff_everywhere (.block closureBody)).mp rfl
  exact ⟨parsed, recorded, rfl, (verbatim_text_iff parsed recorded rfl whole).2.mpr isReread⟩

/-- A body that returns in a case. -/
def caseBody : Block :=
  ⟨⟨66, 98⟩, [.switch ⟨⟨68, 96⟩, .ident ⟨75, 76⟩ "a", [⟨⟨79, 94⟩, .default, ⟨⟨88, 94⟩,
    [.returning ⟨88, 94⟩ ⟨88, 94⟩ none]⟩⟩]⟩]⟩

/-- **The text of an expansion with a case is not read as the body**: the case is read as one with a
closure. -/
theorem verbatim_text_caseBody :
    parse ("@resultBuilder struct B \x7b static func buildBlock() \x7d; @B func f() " ++
        "\x7b switch a \x7b default: return \x7d \x7d") = .ok (markedFunction ⟨54, 98⟩ caseBody) ∧
      ⟨.function, "B", ⟨66, 98⟩, .verbatim caseBody⟩ ∈
        (programWith .permissive {} (markedFunction ⟨54, 98⟩ caseBody) {}).findings.bodies ∧
      (Node.block caseBody).Everywhere Node.PrintsWhole ∧
      (Expansion.verbatim caseBody).text = "\x7b switch a \x7b default: \x7b return \x7d \x7d \x7d" ∧
      ¬ ∃ again, parseBlock (Expansion.verbatim caseBody).text = .ok again ∧
        again.statements.map Statement.bare = caseBody.statements.map Statement.bare := by
  have cut : tokenize ("@resultBuilder struct B \x7b static func buildBlock() \x7d; @B func f() " ++
      "\x7b switch a \x7b default: return \x7d \x7d") = .ok (markedTokens ++ [
      ⟨.symbol .braceOpen, ⟨66, 67⟩, "\x7b", false⟩, ⟨.keyword .switch_, ⟨68, 74⟩, "switch", false⟩,
      ⟨.identifier, ⟨75, 76⟩, "a", false⟩, ⟨.symbol .braceOpen, ⟨77, 78⟩, "\x7b", false⟩,
      ⟨.keyword .default_, ⟨79, 86⟩, "default", false⟩, ⟨.symbol .colon, ⟨86, 87⟩, ":", false⟩,
      ⟨.keyword .return_, ⟨88, 94⟩, "return", false⟩, ⟨.symbol .braceClose, ⟨95, 96⟩, "\x7d", false⟩,
      ⟨.symbol .braceClose, ⟨97, 98⟩, "\x7d", false⟩, ⟨.endOfFile, ⟨98, 98⟩, "", false⟩]) := by
    decide +kernel
  have cutAgain : tokenize "\x7b switch a \x7b default: \x7b return \x7d \x7d \x7d" = .ok [
      ⟨.symbol .braceOpen, ⟨0, 1⟩, "\x7b", false⟩, ⟨.keyword .switch_, ⟨2, 8⟩, "switch", false⟩,
      ⟨.identifier, ⟨9, 10⟩, "a", false⟩, ⟨.symbol .braceOpen, ⟨11, 12⟩, "\x7b", false⟩,
      ⟨.keyword .default_, ⟨13, 20⟩, "default", false⟩, ⟨.symbol .colon, ⟨20, 21⟩, ":", false⟩,
      ⟨.symbol .braceOpen, ⟨22, 23⟩, "\x7b", false⟩, ⟨.keyword .return_, ⟨24, 30⟩, "return", false⟩,
      ⟨.symbol .braceClose, ⟨31, 32⟩, "\x7d", false⟩, ⟨.symbol .braceClose, ⟨33, 34⟩, "\x7d", false⟩,
      ⟨.symbol .braceClose, ⟨35, 36⟩, "\x7d", false⟩, ⟨.endOfFile, ⟨36, 36⟩, "", false⟩] := by
    decide +kernel
  have read : parseBlock (Expansion.verbatim caseBody).text = .ok ⟨⟨0, 36⟩, [.switch ⟨⟨2, 34⟩,
      .ident ⟨9, 10⟩ "a", [⟨⟨13, 32⟩, .default, ⟨⟨22, 32⟩, [.expression (.closure ⟨⟨22, 32⟩, [],
        ⟨⟨22, 32⟩, [.returning ⟨24, 30⟩ ⟨24, 30⟩ none]⟩⟩)]⟩⟩]⟩]⟩ :=
    parseBlock_of_blockOfTokens cutAgain rfl
  refine ⟨parse_of_ofTokens cut rfl, List.mem_singleton_self _, ?_, rfl, ?_⟩
  · repeat' first
      | exact trivial
      | exact List.forall_mem_nil _
      | refine List.forall_mem_cons.mpr ⟨?_, ?_⟩
      | refine Node.everywhere_iff.mpr ⟨?_, ?_⟩
  · rintro ⟨again, same, bare⟩
    rw [read] at same
    cases same
    cases bare

end ResultBuilder
