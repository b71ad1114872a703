import ResultBuilder.Proofs.Compile.Choosing
import ResultBuilder.Proofs.Compile.Counting
import ResultBuilder.Proofs.Compile.Reports

/-!
# What becomes of the bodies of builders

A body to which a builder is applied is recorded, or there is one error that tells why not, besides
notices. So a walk finds something of its own at every kind of place: a diagnostic for a directive,
and for bodies what becomes of them.

* **`BodyOutcome`**, **`DeclaredOutcome`**, **`ClosuresOutcome`**, **`CallOutcome`**: what becomes of
  a body, of the body of a declaration, of the closures of a possibility and of those of a call.
* **`exists_commit_of_mem_applyAttribute`**: the bodies that are found for declarations.
* **`Visit.HasOutcome`**, **`hasOutcome_of_mem_foundAt`**: what a walk finds at a place.
-/

namespace ResultBuilder

open Syntax

/-- Neither a diagnostic nor a body is found. -/
def Findings.AreNone (findings : Findings) : Prop :=
  findings.diagnostics = [] ∧ findings.bodies = []

namespace Compile

/-! ### Bodies -/

/-- **What becomes of a body** that a builder is applied to. -/
inductive BodyOutcome (services : Collaborators) (kind : BodyKind) (builder : TypeDecl)
    (span : Span) (findings : Findings) : Prop where
  /-- It is recorded, with notices. -/
  | recorded (expansion : Expansion)
      (bodies : findings.bodies = [⟨kind, builder.name.text, span, expansion⟩])
      (notices : ∀ diagnostic ∈ findings.diagnostics, services.Notices diagnostic)
  /-- An error tells why it is not, after notices. -/
  | failed (error : TransformError) (notices : List Diagnostic)
      (areNotices : ∀ diagnostic ∈ notices, services.Notices diagnostic)
      (diagnostics : findings.diagnostics = notices ++ [error.diagnostic])
      (bodies : findings.bodies = [])

theorem bodyOutcome_commit (kind : BodyKind) (builder : TypeDecl) (span : Span)
    (setting : Transform.Setting) (body : Block) :
    BodyOutcome setting.services kind builder span
      (commit kind builder span (transform setting body)) := by
  have notices := notices_transform setting body
  unfold commit
  generalize transform setting body = outcome at notices
  obtain ⟨result, journal⟩ := outcome
  cases result with
  | built | verbatim => exact .recorded _ rfl notices
  | failed error => exact .failed error _ notices rfl rfl

/-- **What becomes of the body of a declaration** with a builder. -/
inductive DeclaredOutcome (services : Collaborators) (kind : BodyKind) (builder : TypeDecl)
    (span : Span) (findings : Findings) : Prop where
  /-- The builder is applied to the body. -/
  | applied (outcome : BodyOutcome services kind builder span findings)
  /-- The builder cannot be applied to any body. -/
  | invalid (error : InvalidBuilder) (diagnostics : findings.diagnostics = [invalidBuilder error span])
      (bodies : findings.bodies = [])

theorem DeclaredOutcome.of_same {services : Collaborators} {kind : BodyKind} {builder : TypeDecl}
    {span : Span} {findings others : Findings}
    (outcome : DeclaredOutcome services kind builder span others)
    (same : findings.diagnostics = others.diagnostics ∧ findings.bodies = others.bodies) :
    DeclaredOutcome services kind builder span findings := by
  obtain ⟨diagnostics, bodies, journal⟩ := findings
  obtain ⟨otherDiagnostics, otherBodies, otherJournal⟩ := others
  obtain ⟨rfl, rfl⟩ := same
  rcases outcome with
    (⟨expansion, bodies, notices⟩ | ⟨error, notices, areNotices, diagnostics, bodies⟩) |
      ⟨error, diagnostics, bodies⟩
  · exact .applied (.recorded expansion bodies notices)
  · exact .applied (.failed error notices areNotices diagnostics bodies)
  · exact .invalid error diagnostics bodies

theorem declaredOutcome_apply (around : Surroundings) (builder : TypeDecl) (body : Block)
    (context : BodyContext) (place : context.span = body.span) (cache : DescriptorCache) :
    DeclaredOutcome around.services context.kind builder body.span
      (apply around builder body context cache).findings := by
  refine DeclaredOutcome.of_same ?_ ((isQuiet_attempt builder body context).found_bind cache)
  rw [value_attempt]
  cases (cache.getOrResolve builder).1 with
  | error error => exact .invalid error (by rw [← place]; rfl) rfl
  | ok descriptor =>
      exact .applied (bodyOutcome_commit context.kind builder body.span
        ⟨descriptor, around.services, context, around.config⟩ body)

/-- What becomes of the body of a declaration with attributes. -/
def AttributeOutcome (around : Surroundings) (marks : List Attribute) (kind : BodyKind)
    (body : Block) (findings : Findings) : Prop :=
  match around.scopes.builderAttribute? marks with
  | none => findings.AreNone
  | some (_, builder) => DeclaredOutcome around.services kind builder body.span findings

theorem attributeOutcome_applyAttribute (around : Surroundings) (marks : List Attribute)
    (kind : BodyKind) (body : Block) (cache : DescriptorCache) :
    AttributeOutcome around marks kind body (applyAttribute around marks kind body cache).findings := by
  unfold AttributeOutcome applyAttribute
  cases around.scopes.builderAttribute? marks with
  | none => exact ⟨rfl, rfl⟩
  | some found =>
      obtain ⟨mark, builder⟩ := found
      exact declaredOutcome_apply around builder body
        { around.context kind body.span [] with builderAttribute := some mark } rfl cache

/-- **A body that is found for a declaration** comes of a transform of the body of the declaration. -/
theorem exists_commit_of_mem_applyAttribute {around : Surroundings} {marks : List Attribute}
    {kind : BodyKind} {block : Block} {cache : DescriptorCache} {body : TransformedBody}
    (found : body ∈ (applyAttribute around marks kind block cache).findings.bodies) :
    ∃ builder descriptor context, body ∈ (commit kind builder block.span
      (transform ⟨descriptor, around.services, context, around.config⟩ block)).bodies := by
  unfold applyAttribute at found
  cases named : around.scopes.builderAttribute? marks with
  | none =>
      rw [named] at found
      cases found
  | some entry =>
      obtain ⟨mark, builder⟩ := entry
      rw [named] at found
      dsimp only at found
      rw [apply, ((isQuiet_attempt builder block _).found_bind cache).2, value_attempt] at found
      cases resolved : (cache.getOrResolve builder).1 with
      | error error =>
          rw [resolved] at found
          cases found
      | ok descriptor =>
          rw [resolved] at found
          exact ⟨builder, descriptor, _, found⟩

/-! ### Calls -/

/-- **What becomes of the closures of a possibility**: they are settled one after the other, up to
one whose builder is invalid. -/
inductive ClosuresOutcome (services : Collaborators) :
    List BuilderClosure → List Diagnostic → List TransformedBody → Prop where
  | done : ClosuresOutcome services [] [] []
  /-- The builder of the first closure cannot be applied to any body. Nothing becomes of the rest. -/
  | stopped (error : InvalidBuilder) {given : BuilderClosure} {rest : List BuilderClosure} :
      ClosuresOutcome services (given :: rest) [invalidBuilder error given.closure.span] []
  /-- The builder of the first closure is applied to it. -/
  | step {given : BuilderClosure} {rest : List BuilderClosure} {findings : Findings}
      {diagnostics : List Diagnostic} {bodies : List TransformedBody}
      (outcome : BodyOutcome services .closure given.builder given.closure.span findings)
      (others : ClosuresOutcome services rest diagnostics bodies) :
      ClosuresOutcome services (given :: rest) (findings.diagnostics ++ diagnostics)
        (findings.bodies ++ bodies)

theorem closuresOutcome_commitTrial {around : Surroundings} {before after : DescriptorCache}
    {trial : Trial} (run : trial.IsRun around before after) :
    ClosuresOutcome around.services trial.binding.closures (commitTrial trial).diagnostics
      (commitTrial trial).bodies := by
  rw [diagnostics_commitTrial, bodies_commitTrial]
  unfold Trial.IsRun at run
  generalize trial.binding.closures = closures at run
  generalize trial.outcomes = outcomes at run
  generalize trial.invalid = invalid at run
  induction run with
  | done => exact .done
  | @stopped before error given rest resolved => exact .stopped error
  | @step before after descriptor given rest outcomes invalid resolved others ih =>
      have outcome := bodyOutcome_commit .closure given.builder given.closure.span
        ⟨descriptor, around.services, contextOf around given, around.config⟩ given.closure.body
      have settled := ClosuresOutcome.step outcome ih
      rw [← List.append_assoc] at settled
      exact settled

/-- **What becomes of the closures of a call** with possibilities. -/
inductive CallOutcome (services : Collaborators) (possible : List CallBinding)
    (findings : Findings) : Prop where
  /-- There is no possibility. -/
  | nothing (none : possible = []) (found : findings.AreNone)
  /-- One possibility is meant. -/
  | committed {binding : CallBinding} (isPossible : binding ∈ possible)
      (outcome : ClosuresOutcome services binding.closures findings.diagnostics findings.bodies)
  /-- The collaborator does not decide between possibilities. -/
  | ambiguous {diagnostic : Diagnostic}
      (undecided : ∃ site candidates, services.resolveOverload site candidates = .error diagnostic)
      (diagnostics : findings.diagnostics = [diagnostic]) (bodies : findings.bodies = [])

theorem callOutcome_transformCall (around : Surroundings) (callee : Expr) (args : List Argument)
    (trailing : Option Closure) (cache : DescriptorCache) :
    CallOutcome around.services (bindings around callee args trailing)
      (transformCall around callee args trailing cache).findings := by
  have bound : (trialsOf around callee args trailing cache).map (·.binding) =
      bindings around callee args trailing := map_binding_tryAll _ _
  have ofTrial {findings : Findings} {trial : Trial}
      (tried : trial ∈ trialsOf around callee args trailing cache)
      (diagnostics : findings.diagnostics = (commitTrial trial).diagnostics)
      (bodies : findings.bodies = (commitTrial trial).bodies) :
      CallOutcome around.services (bindings around callee args trailing) findings := by
    refine .committed (bound ▸ List.mem_map_of_mem tried) ?_
    rw [diagnostics, bodies]
    obtain ⟨start, stop, run⟩ := (areRun_trialsOf cache).isRun_of_mem tried
    exact closuresOutcome_commitTrial run
  cases @findsOne_transformCall around callee args trailing cache with
  | nothing none diagnostics bodies =>
      exact .nothing (by rw [← bound, none]; rfl) ⟨diagnostics, bodies⟩
  | viable tried isViable diagnostics notices bodies spans => exact ofTrial tried diagnostics bodies
  | failed first none diagnostics bodies =>
      exact ofTrial (List.mem_of_mem_head? first) diagnostics bodies
  | ambiguous tried isViable otherTried otherIsViable differ undecided diagnostics bodies =>
      exact .ambiguous undecided diagnostics bodies

/-! ### Places -/

/-- **What a walk finds at a place**, not counting the places within it. -/
def Visit.HasOutcome (findings : Findings) : Visit → Prop
  | .directive node => findings.diagnostics = [directiveDiagnostic node] ∧ findings.bodies = []
  | .function around decl =>
      match decl.body with
      | none => findings.AreNone
      | some body =>
          AttributeOutcome (around.inFunction decl.generics decl.params) decl.attributes .function
            body findings
  | .property around marks body => AttributeOutcome around marks .property body findings
  | .call around callee args trailing =>
      CallOutcome around.services (bindings around callee args trailing) findings

theorem hasOutcome_walk (visit : Visit) (cache : DescriptorCache) :
    visit.HasOutcome (visit.walk cache).findings := by
  cases visit with
  | directive node => exact ⟨rfl, rfl⟩
  | function around decl =>
      obtain ⟨span, marks, isStatic, name, generics, params, result, body⟩ := decl
      cases body with
      | none => exact ⟨rfl, rfl⟩
      | some body => exact attributeOutcome_applyAttribute _ _ _ body cache
  | property around marks body => exact attributeOutcome_applyAttribute _ _ _ body cache
  | call around callee args trailing => exact callOutcome_transformCall around _ _ _ cache

/-- **What a walk finds at places** is what becomes of the bodies there. -/
theorem hasOutcome_of_mem_foundAt {visits : List Visit} {cache : DescriptorCache}
    {entry : Visit × Findings} (found : entry ∈ foundAt visits cache) :
    entry.1.HasOutcome entry.2 := by
  obtain ⟨-, before, walked⟩ := exists_walk_of_mem_foundAt found
  exact walked ▸ hasOutcome_walk entry.1 before

end Compile

end ResultBuilder
