import Mathlib.Logic.Basic
import ResultBuilder.Proofs.Compile.Nodes
import ResultBuilder.Proofs.Synthesis.Asking

/-!
# Which possibility a call commits to

The closures of a call are transformed once for every function that the call can mean. Only one of
these trials counts, if any: what it finds is what the call finds.

* **`RunOf`**, **`AreRun`**: the trials of a call are run one after the other, each with the cache
  that the ones before it leave. Its closures are transformed up to one whose builder is invalid.
* **`Selection.IsSound`**, **`Selection.isSound_ofTrials`**: a decision between trials, whatever the
  collaborator answers.
* **`FindsOne`**, **`findsOne_transformCall`**: what a call finds, given the trials that are run for
  it. Nothing of a failed trial is found when another trial is viable.
* **`foundAt`**, **`reachedAt`**, **`selection_isSound`**: what is found at the places of a program,
  with the caches with which they are reached, and so at each of its calls.
-/

namespace ResultBuilder

open Syntax

/-! ### Walks that only note -/

/-- **A quiet walk** finds neither diagnostics nor bodies. -/
def Walk.IsQuiet {α : Type} (walk : Walk α) : Prop :=
  ∀ cache, (walk cache).findings.diagnostics = [] ∧ (walk cache).findings.bodies = []

namespace Walk

variable {α β : Type}

theorem isQuiet_pure (value : α) : IsQuiet (Pure.pure value) :=
  fun _ => ⟨rfl, rfl⟩

theorem isQuiet_note (journal : Journal) : IsQuiet (note journal) :=
  fun _ => ⟨rfl, rfl⟩

theorem isQuiet_resolve (decl : TypeDecl) : IsQuiet (resolve decl) :=
  fun _ => ⟨rfl, rfl⟩

theorem IsQuiet.bind {first : Walk α} {next : α → Walk β} (quiet : first.IsQuiet)
    (others : ∀ value, (next value).IsQuiet) : (first >>= next).IsQuiet := by
  intro cache
  obtain ⟨diagnostics, bodies⟩ := quiet cache
  obtain ⟨otherDiagnostics, otherBodies⟩ := others (first cache).value (first cache).cache
  rw [bind_findings, Findings.diagnostics_append, Findings.bodies_append, diagnostics, bodies,
    otherDiagnostics, otherBodies]
  exact ⟨rfl, rfl⟩

theorem bind_value (first : Walk α) (next : α → Walk β) (cache : DescriptorCache) :
    ((first >>= next) cache).value = (next (first cache).value (first cache).cache).value := rfl

theorem bind_cache (first : Walk α) (next : α → Walk β) (cache : DescriptorCache) :
    ((first >>= next) cache).cache = (next (first cache).value (first cache).cache).cache := rfl

/-- After a quiet walk there is what the next walk finds. -/
theorem IsQuiet.found_bind {first : Walk α} {next : α → Walk β} (quiet : first.IsQuiet)
    (cache : DescriptorCache) :
    let further := (next (first cache).value (first cache).cache).findings
    ((first >>= next) cache).findings.diagnostics = further.diagnostics ∧
      ((first >>= next) cache).findings.bodies = further.bodies := by
  obtain ⟨diagnostics, bodies⟩ := quiet cache
  simp [diagnostics, bodies]

end Walk

namespace Compile

variable {around : Surroundings}

/-! ### Trials -/

/-- An attempt at a body notes its questions only. -/
theorem isQuiet_attempt (builder : TypeDecl) (body : Block) (context : BodyContext) :
    (attempt around builder body context).IsQuiet := by
  refine (Walk.isQuiet_resolve builder).bind fun resolution => ?_
  cases resolution with
  | error error => exact Walk.isQuiet_pure _
  | ok descriptor => exact (Walk.isQuiet_note _).bind fun _ => Walk.isQuiet_pure _

theorem isQuiet_tryClosures (closures : List BuilderClosure) :
    (tryClosures around closures).IsQuiet := by
  induction closures with
  | nil => exact Walk.isQuiet_pure _
  | cons given rest ih =>
      refine (isQuiet_attempt _ _ _).bind fun outcome => ?_
      cases outcome with
      | error diagnostic => exact Walk.isQuiet_pure _
      | ok outcome => exact ih.bind fun _ => Walk.isQuiet_pure _

theorem isQuiet_tryAll (possible : List CallBinding) : (tryAll around possible).IsQuiet := by
  induction possible with
  | nil => exact Walk.isQuiet_pure _
  | cons binding rest ih =>
      exact (isQuiet_tryClosures _).bind fun _ => ih.bind fun _ => Walk.isQuiet_pure _

/-- After an attempt there is the cache that the look-up of the builder leaves. -/
theorem cache_attempt (builder : TypeDecl) (body : Block) (context : BodyContext)
    (cache : DescriptorCache) :
    (attempt around builder body context cache).cache = (cache.getOrResolve builder).2 := by
  show (Walk.bind (Walk.resolve builder) _ cache).cache = _
  unfold Walk.bind Walk.resolve
  dsimp only
  cases (cache.getOrResolve builder).1 <;> rfl

/-- What comes of an attempt is decided by what the cache gives for the builder. -/
theorem value_attempt (builder : TypeDecl) (body : Block) (context : BodyContext)
    (cache : DescriptorCache) :
    (attempt around builder body context cache).value =
      match (cache.getOrResolve builder).1 with
      | .error error => .error (invalidBuilder error context.span)
      | .ok descriptor =>
          .ok (transform ⟨descriptor, around.services, context, around.config⟩ body) := by
  show (Walk.bind (Walk.resolve builder) _ cache).value = _
  unfold Walk.bind Walk.resolve
  dsimp only
  cases (cache.getOrResolve builder).1 <;> rfl

/-- The context of a closure that is given to a call. -/
def contextOf (around : Surroundings) (given : BuilderClosure) : BodyContext :=
  { around.context .closure given.closure.span given.closure.params with
    isEscaping := given.isEscaping }

/-- **What comes of closures that are tried** from a cache: either all are transformed, or those
before one whose builder is invalid. Builders are looked up in the cache that is left before. -/
inductive RunOf (around : Surroundings) : DescriptorCache → List BuilderClosure →
    List Transform.Transformed → Option Diagnostic → DescriptorCache → Prop where
  | done {cache : DescriptorCache} : RunOf around cache [] [] none cache
  /-- The builder of the first closure is invalid. The rest are not tried. -/
  | stopped {before : DescriptorCache} {error : InvalidBuilder} {given : BuilderClosure}
      {rest : List BuilderClosure}
      (resolved : (before.getOrResolve given.builder).1 = .error error) :
      RunOf around before (given :: rest) [] (some (invalidBuilder error given.closure.span))
        (before.getOrResolve given.builder).2
  /-- The first closure is transformed. -/
  | step {before after : DescriptorCache} {descriptor : Descriptor} {given : BuilderClosure}
      {rest : List BuilderClosure} {outcomes : List Transform.Transformed}
      {invalid : Option Diagnostic}
      (resolved : (before.getOrResolve given.builder).1 = .ok descriptor)
      (others : RunOf around (before.getOrResolve given.builder).2 rest outcomes invalid after) :
      RunOf around before (given :: rest)
        (transform ⟨descriptor, around.services, contextOf around given, around.config⟩
          given.closure.body :: outcomes) invalid after

/-- Only notices are reported of the closures. -/
theorem RunOf.notices {before after : DescriptorCache} {closures : List BuilderClosure}
    {outcomes : List Transform.Transformed} {invalid : Option Diagnostic}
    (run : RunOf around before closures outcomes invalid after) :
    ∀ outcome ∈ outcomes, ∀ diagnostic ∈ outcome.journal.diagnostics,
      around.services.Notices diagnostic := by
  induction run with
  | done | stopped resolved => exact List.forall_mem_nil _
  | step resolved others ih => exact List.forall_mem_cons.mpr ⟨notices_transform _ _, ih⟩

theorem runOf_tryClosures (closures : List BuilderClosure) (cache : DescriptorCache) :
    RunOf around cache closures (tryClosures around closures cache).value.1
      (tryClosures around closures cache).value.2 (tryClosures around closures cache).cache := by
  induction closures generalizing cache with
  | nil => exact .done
  | cons given rest ih =>
      have attempted := @value_attempt around given.builder given.closure.body
        (contextOf around given) cache
      have left := @cache_attempt around given.builder given.closure.body
        (contextOf around given) cache
      unfold contextOf at attempted left
      -- the rest are tried with the cache that the look-up of the first builder leaves
      rw [tryClosures, Walk.bind_value, Walk.bind_cache, attempted, left]
      cases resolved : (cache.getOrResolve given.builder).1 with
      | error error => exact .stopped resolved
      | ok descriptor => exact .step resolved (ih _)

end Compile

namespace Trial

/-- **A trial that is run** on its closures, from a cache to the cache that it leaves. -/
def IsRun (around : Compile.Surroundings) (before : DescriptorCache) (trial : Trial)
    (after : DescriptorCache) : Prop :=
  Compile.RunOf around before trial.binding.closures trial.outcomes trial.invalid after

/-- The diagnostics that collaborators gave for the closures, and the warnings about returns. -/
def relayed (trial : Trial) : List Diagnostic :=
  trial.outcomes.flatMap (·.journal.diagnostics)

/-- A viable trial was run on all its closures, none of which failed. -/
theorem isViable_iff {trial : Trial} : trial.isViable = true ↔
    trial.invalid = none ∧ ∀ outcome ∈ trial.outcomes, isFailed outcome.result = false := by
  simp [isViable]

end Trial

namespace Compile

/-! ### What a trial that is meant finds -/

/-- What is accepted of closures and what came of them. -/
def commitClosures (closures : List BuilderClosure) (outcomes : List Transform.Transformed) :
    List Findings :=
  (closures.zip outcomes).map fun (given, outcome) =>
    commit .closure given.builder given.closure.span outcome

theorem diagnostics_foldr (all : List Findings) (last : Findings) :
    (all.foldr (· ++ ·) last).diagnostics = all.flatMap (·.diagnostics) ++ last.diagnostics := by
  induction all with
  | nil => rfl
  | cons first rest ih =>
      rw [List.foldr_cons, Findings.diagnostics_append, ih, List.flatMap_cons, List.append_assoc]

theorem bodies_foldr (all : List Findings) (last : Findings) :
    (all.foldr (· ++ ·) last).bodies = all.flatMap (·.bodies) ++ last.bodies := by
  induction all with
  | nil => rfl
  | cons first rest ih =>
      rw [List.foldr_cons, Findings.bodies_append, ih, List.flatMap_cons, List.append_assoc]

theorem diagnostics_commitTrial (trial : Trial) :
    (commitTrial trial).diagnostics =
      (commitClosures trial.binding.closures trial.outcomes).flatMap (·.diagnostics) ++
        trial.invalid.toList :=
  diagnostics_foldr _ _

theorem bodies_commitTrial (trial : Trial) :
    (commitTrial trial).bodies =
      (commitClosures trial.binding.closures trial.outcomes).flatMap (·.bodies) :=
  (bodies_foldr _ _).trans (List.append_nil _)

/-- A body that did not fail is recorded with what was relayed for it. -/
theorem commit_of_not_failed {outcome : Transform.Transformed} (kind : BodyKind)
    (builder : TypeDecl) (span : Span) (passed : Trial.isFailed outcome.result = false) :
    (commit kind builder span outcome).diagnostics = outcome.journal.diagnostics ∧
      (commit kind builder span outcome).bodies.map (·.span) = [span] := by
  unfold commit
  cases result : outcome.result with
  | built | verbatim => exact ⟨rfl, rfl⟩
  | failed error =>
      rw [result] at passed
      cases passed

/-- **What a viable trial finds**: a body for each closure and what was relayed for them. -/
theorem commitTrial_of_isViable {around : Surroundings} {before after : DescriptorCache}
    {trial : Trial} (run : trial.IsRun around before after) (isViable : trial.isViable = true) :
    (commitTrial trial).diagnostics = trial.relayed ∧
      (commitTrial trial).bodies.map (·.span) = trial.binding.closures.map (·.closure.span) := by
  obtain ⟨valid, passed⟩ := Trial.isViable_iff.mp isViable
  rw [diagnostics_commitTrial, bodies_commitTrial, Trial.relayed, valid, Option.toList_none,
    List.append_nil]
  unfold Trial.IsRun at run
  rw [valid] at run
  -- along the run; it does not stop early, since a viable trial has no invalid builder
  generalize trial.binding.closures = closures at run
  generalize trial.outcomes = outcomes at run passed
  generalize same : (none : Option Diagnostic) = invalid at run
  induction run with
  | done => exact ⟨rfl, rfl⟩
  | stopped resolved => cases same
  | @step before after descriptor given rest outcomes invalid resolved others ih =>
      obtain ⟨first, later⟩ := List.forall_mem_cons.mp passed
      obtain ⟨diagnostics, bodies⟩ :=
        commit_of_not_failed .closure given.builder given.closure.span first
      obtain ⟨restDiagnostics, restBodies⟩ := ih later same
      constructor
      · exact congrArg₂ (· ++ ·) diagnostics restDiagnostics
      · refine Eq.trans (List.map_append ..) ?_
        exact congrArg₂ (· ++ ·) bodies restBodies

end Compile

/-! ### Decisions -/

namespace Selection

variable {services : Collaborators} {site : OverloadSite} {trials : List Trial}

/-- The viable trials are found at their indices. -/
theorem mem_viable_iff {index : Nat} {trial : Trial} :
    (index, trial) ∈ viable trials ↔ trials[index]? = some trial ∧ trial.isViable = true := by
  have listed : (index, trial) ∈ (List.range trials.length).zip trials ↔
      trials[index]? = some trial := by
    rw [List.mem_iff_getElem?]
    constructor
    · rintro ⟨place, found⟩
      obtain ⟨isPlace, isTrial⟩ := List.getElem?_zip_eq_some.mp found
      obtain ⟨inside, same⟩ := List.getElem?_eq_some_iff.mp isPlace
      obtain rfl : place = index := List.getElem_range inside ▸ same
      exact isTrial
    · intro found
      have inside := (List.getElem?_eq_some_iff.mp found).1
      exact ⟨index, List.getElem?_zip_eq_some.mpr ⟨List.getElem?_range inside, found⟩⟩
  rw [viable, List.mem_filter, listed]

/-- **A sound decision** between trials. -/
inductive IsSound (trials : List Trial) : Selection → Prop where
  /-- The trial that is meant is viable. -/
  | viable {index : Nat} {trial : Trial} (tried : trials[index]? = some trial)
      (isViable : trial.isViable = true) : IsSound trials (.commit index)
  /-- No trial is viable, and the first one is meant. -/
  | first (some : trials ≠ []) (none : ∀ trial ∈ trials, trial.isViable = false) :
      IsSound trials (.commit 0)
  /-- Two viable trials have different builders. -/
  | ambiguous (diagnostic : Diagnostic) {one other : Trial} (tried : one ∈ trials)
      (isViable : one.isViable = true) (otherTried : other ∈ trials)
      (otherIsViable : other.isViable = true)
      (differ : one.binding.builders ≠ other.binding.builders) :
      IsSound trials (.ambiguous diagnostic)

/-- **Decisions between trials are sound**, whatever the collaborator answers. -/
theorem isSound_ofTrials (some : trials ≠ []) :
    IsSound trials (ofTrials services site trials).1 := by
  have ofEntry : ∀ entry ∈ Selection.viable trials, IsSound trials (.commit entry.1) :=
    fun entry listed => .viable (mem_viable_iff.mp listed).1 (mem_viable_iff.mp listed).2
  unfold ofTrials
  split
  next none =>
    refine .first some fun trial listed => Bool.eq_false_iff.mpr fun isViable => ?_
    obtain ⟨index, found⟩ := List.mem_iff_getElem?.mp listed
    have listed : (index, trial) ∈ Selection.viable trials :=
      mem_viable_iff.mpr ⟨found, isViable⟩
    rw [none] at listed
    cases listed
  next only isViable =>
    exact ofEntry only (isViable ▸ List.mem_singleton_self only)
  next first rest _ isViable =>
    rw [isViable] at ofEntry
    split
    · exact ofEntry first List.mem_cons_self
    next disagree =>
      dsimp only
      split
      next chosen _ =>
        -- an index beyond the viable trials stands for the first of them
        cases found : (first :: rest)[chosen]? with
        | none => exact ofEntry first List.mem_cons_self
        | some entry => exact ofEntry entry (List.mem_of_getElem? found)
      next diagnostic _ =>
        simp only [buildersAgree, List.all_eq_true, beq_iff_eq, not_forall] at disagree
        obtain ⟨other, listed, differ⟩ := disagree
        have ofViable : ∀ entry ∈ first :: rest,
            trials[entry.1]? = Option.some entry.2 ∧ entry.2.isViable = true :=
          fun entry listed => mem_viable_iff.mp (isViable ▸ listed)
        obtain ⟨found, one⟩ := ofViable other (List.mem_cons_of_mem _ listed)
        obtain ⟨foundFirst, two⟩ := ofViable first List.mem_cons_self
        exact .ambiguous diagnostic (List.mem_of_getElem? found) one
          (List.mem_of_getElem? foundFirst) two differ

end Selection

namespace Compile

/-! ### Calls -/

variable {around : Surroundings} {callee : Expr} {args : List Argument}
  {trailing : Option Closure}

/-- The trials for a call, one for each possibility. -/
def trialsOf (around : Surroundings) (callee : Expr) (args : List Argument)
    (trailing : Option Closure) (cache : DescriptorCache) : List Trial :=
  (tryAll around (bindings around callee args trailing) cache).value

theorem map_binding_tryAll (possible : List CallBinding) (cache : DescriptorCache) :
    (tryAll around possible cache).value.map (·.binding) = possible := by
  induction possible generalizing cache with
  | nil => rfl
  | cons binding rest ih =>
      rw [tryAll, Walk.bind_value, Walk.bind_value]
      exact congrArg (binding :: ·) (ih _)

/-- **Trials that are run** one after the other: each starts with the cache that the one before it
leaves. -/
inductive AreRun (around : Surroundings) :
    DescriptorCache → List Trial → DescriptorCache → Prop where
  | done {cache : DescriptorCache} : AreRun around cache [] cache
  | step {before between after : DescriptorCache} {trial : Trial} {rest : List Trial}
      (run : trial.IsRun around before between) (others : AreRun around between rest after) :
      AreRun around before (trial :: rest) after

theorem areRun_tryAll (possible : List CallBinding) (cache : DescriptorCache) :
    AreRun around cache (tryAll around possible cache).value (tryAll around possible cache).cache := by
  induction possible generalizing cache with
  | nil => exact .done
  | cons binding rest ih => exact .step (runOf_tryClosures binding.closures cache) (ih _)

theorem AreRun.isRun_of_mem {before after : DescriptorCache} {trials : List Trial} {trial : Trial}
    (run : AreRun around before trials after) (tried : trial ∈ trials) :
    ∃ start stop, trial.IsRun around start stop := by
  induction run with
  | done => cases tried
  | step run others ih =>
      rcases List.mem_cons.mp tried with rfl | tried
      · exact ⟨_, _, run⟩
      · exact ih tried

/-- **What a call finds**, given its trials: what one of them finds when it is the one that is
meant, or that it cannot be told which is meant. -/
inductive FindsOne (services : Collaborators) (trials : List Trial) (findings : Findings) :
    Prop where
  /-- There is nothing to try. -/
  | nothing (none : trials = []) (diagnostics : findings.diagnostics = [])
      (bodies : findings.bodies = [])
  /-- A viable trial finds a body for each of its closures and the notices about them. -/
  | viable {trial : Trial} (tried : trial ∈ trials) (isViable : trial.isViable = true)
      (diagnostics : findings.diagnostics = (commitTrial trial).diagnostics)
      (notices : ∀ diagnostic ∈ findings.diagnostics, services.Notices diagnostic)
      (bodies : findings.bodies = (commitTrial trial).bodies)
      (spans : findings.bodies.map (·.span) = trial.binding.closures.map (·.closure.span))
  /-- No trial is viable, and the first one tells why. -/
  | failed {trial : Trial} (first : trials.head? = some trial)
      (none : ∀ other ∈ trials, other.isViable = false)
      (diagnostics : findings.diagnostics = (commitTrial trial).diagnostics)
      (bodies : findings.bodies = (commitTrial trial).bodies)
  /-- Two viable trials have different builders, and the collaborator does not decide. -/
  | ambiguous {diagnostic : Diagnostic} {one other : Trial} (tried : one ∈ trials)
      (isViable : one.isViable = true) (otherTried : other ∈ trials)
      (otherIsViable : other.isViable = true)
      (differ : one.binding.builders ≠ other.binding.builders)
      (undecided : ∃ site candidates, services.resolveOverload site candidates = .error diagnostic)
      (diagnostics : findings.diagnostics = [diagnostic]) (bodies : findings.bodies = [])

/-- Only the diagnostics and the bodies matter. -/
theorem FindsOne.of_same {services : Collaborators} {trials : List Trial}
    {findings others : Findings} (found : FindsOne services trials others)
    (same : findings.diagnostics = others.diagnostics ∧ findings.bodies = others.bodies) :
    FindsOne services trials findings := by
  obtain ⟨diagnostics, bodies, journal⟩ := findings
  obtain ⟨otherDiagnostics, otherBodies, otherJournal⟩ := others
  obtain ⟨rfl, rfl⟩ := same
  cases found with
  | nothing none diagnostics bodies => exact .nothing none diagnostics bodies
  | viable tried isViable diagnostics notices bodies spans =>
      exact .viable tried isViable diagnostics notices bodies spans
  | failed first none diagnostics bodies => exact .failed first none diagnostics bodies
  | ambiguous tried isViable otherTried otherIsViable differ undecided diagnostics bodies =>
      exact .ambiguous tried isViable otherTried otherIsViable differ undecided diagnostics bodies

/-- A decision is ambiguous when the collaborator says so. -/
theorem exists_undecided {services : Collaborators} {site : OverloadSite} {trials : List Trial}
    {diagnostic : Diagnostic}
    (ambiguous : (Selection.ofTrials services site trials).1 = .ambiguous diagnostic) :
    ∃ site candidates, services.resolveOverload site candidates = .error diagnostic := by
  unfold Selection.ofTrials at ambiguous
  split at ambiguous
  next => cases ambiguous
  next => cases ambiguous
  next =>
    split at ambiguous
    · cases ambiguous
    · dsimp only at ambiguous
      split at ambiguous
      · cases ambiguous
      next undecided =>
        cases ambiguous
        exact ⟨_, _, undecided⟩

/-- What is found after the trials of a call. -/
def decided (around : Surroundings) (site : OverloadSite) (trials : List Trial) : Walk Unit := do
  let (selection, questions) := Selection.ofTrials around.services site trials
  Walk.note (questions.map .asked)
  match selection with
  | .commit index =>
      match trials[index]? with
      | some trial => Walk.found (commitTrial trial)
      | none => return
  | .ambiguous diagnostic =>
      Walk.note [.happened
        ⟨.debug, "ambiguous builder overloads", [("callee", site.name)]⟩]
      Walk.report [diagnostic]

theorem cache_decided (site : OverloadSite) (trials : List Trial) (cache : DescriptorCache) :
    (decided around site trials cache).cache = cache := by
  unfold decided
  generalize Selection.ofTrials around.services site trials = choice
  obtain ⟨selection, questions⟩ := choice
  cases selection with
  | ambiguous diagnostic => rfl
  | commit index =>
      -- also an index beyond the trials leaves the cache as it is
      dsimp only
      cases trials[index]? <;> rfl

theorem findsOne_decided {site : OverloadSite} {trials : List Trial} (some : trials ≠ [])
    {before after : DescriptorCache} (run : AreRun around before trials after)
    (cache : DescriptorCache) :
    FindsOne around.services trials (decided around site trials cache).findings := by
  have sound := @Selection.isSound_ofTrials around.services site trials some
  have undecided := @exists_undecided around.services site trials
  unfold decided
  generalize Selection.ofTrials around.services site trials = choice at sound undecided ⊢
  obtain ⟨selection, questions⟩ := choice
  cases sound with
  | @viable index trial tried isViable =>
      have listed := List.mem_of_getElem? tried
      obtain ⟨start, stop, run⟩ := run.isRun_of_mem listed
      obtain ⟨relayed, spans⟩ := commitTrial_of_isViable run isViable
      simp only [tried]
      have notices : ∀ diagnostic ∈ (commitTrial trial).diagnostics,
          around.services.Notices diagnostic := by
        rw [relayed]
        intro diagnostic reported
        obtain ⟨outcome, ofTrial, reported⟩ := List.mem_flatMap.mp reported
        exact run.notices outcome ofTrial diagnostic reported
      exact .viable listed isViable rfl notices rfl spans
  | first some none =>
      obtain ⟨trial, rest, rfl⟩ := List.exists_cons_of_ne_nil some
      exact .failed rfl none rfl rfl
  | ambiguous diagnostic tried isViable otherTried otherIsViable differ =>
      exact .ambiguous tried isViable otherTried otherIsViable differ (undecided rfl) rfl rfl

/-- A call leaves the cache that its trials leave. -/
theorem cache_transformCall (before : DescriptorCache) :
    (transformCall around callee args trailing before).cache =
      (tryAll around (bindings around callee args trailing) before).cache := by
  unfold transformCall
  cases bindings around callee args trailing with
  | nil => rfl
  | cons first rest => exact cache_decided _ _ _

/-- **The trials for a call are run** from the cache before the call up to the one after it. -/
theorem areRun_trialsOf (before : DescriptorCache) :
    AreRun around before (trialsOf around callee args trailing before)
      (transformCall around callee args trailing before).cache := by
  rw [cache_transformCall]
  exact areRun_tryAll _ before

/-- **A call finds what one of its trials finds**, at most. -/
theorem findsOne_transformCall (cache : DescriptorCache) :
    FindsOne around.services (trialsOf around callee args trailing cache)
      (transformCall around callee args trailing cache).findings := by
  unfold transformCall trialsOf
  cases possible : bindings around callee args trailing with
  | nil => exact .nothing rfl rfl rfl
  | cons first rest =>
      have some : (tryAll around (first :: rest) cache).value ≠ [] := by
        intro none
        have bound := @map_binding_tryAll around (first :: rest) cache
        rw [none] at bound
        cases bound
      -- the trials are quiet, and so is noting which of them are viable
      exact (findsOne_decided some (areRun_tryAll _ cache) _).of_same
        ((isQuiet_tryAll (first :: rest)).found_bind cache)

/-- A body that a trial finds comes of one of its closures. -/
theorem exists_given_of_mem_commitTrial {before after : DescriptorCache} {trial : Trial}
    {body : TransformedBody} (run : trial.IsRun around before after)
    (found : body ∈ (commitTrial trial).bodies) :
    ∃ given ∈ trial.binding.closures, ∃ descriptor,
      body ∈ (commit .closure given.builder given.closure.span
        (transform ⟨descriptor, around.services, contextOf around given, around.config⟩
          given.closure.body)).bodies := by
  rw [bodies_commitTrial] at found
  unfold Trial.IsRun at run
  generalize trial.binding.closures = closures at run found ⊢
  generalize trial.outcomes = outcomes at run found
  generalize trial.invalid = invalid at run
  -- along the run: only closures that are transformed have bodies
  induction run with
  | done | stopped resolved => cases found
  | @step before after descriptor given rest outcomes invalid resolved others ih =>
      rcases List.mem_append.mp found with first | later
      · exact ⟨given, List.mem_cons_self, descriptor, first⟩
      · obtain ⟨other, listed, ofOther⟩ := ih later
        exact ⟨other, List.mem_cons_of_mem _ listed, ofOther⟩

/-- **A body that a call finds** comes of a closure that is given to one of its possibilities. -/
theorem exists_given_of_mem_transformCall {cache : DescriptorCache} {body : TransformedBody}
    (found : body ∈ (transformCall around callee args trailing cache).findings.bodies) :
    ∃ binding ∈ bindings around callee args trailing, ∃ given ∈ binding.closures, ∃ descriptor,
      body ∈ (commit .closure given.builder given.closure.span
        (transform ⟨descriptor, around.services, contextOf around given, around.config⟩
          given.closure.body)).bodies := by
  have ofTrial {trial : Trial} (tried : trial ∈ trialsOf around callee args trailing cache)
      (found : body ∈ (commitTrial trial).bodies) :
      ∃ binding ∈ bindings around callee args trailing, ∃ given ∈ binding.closures, ∃ descriptor,
        body ∈ (commit .closure given.builder given.closure.span
          (transform ⟨descriptor, around.services, contextOf around given, around.config⟩
            given.closure.body)).bodies := by
    obtain ⟨start, stop, run⟩ := (areRun_trialsOf cache).isRun_of_mem tried
    have possible : trial.binding ∈ bindings around callee args trailing :=
      map_binding_tryAll (bindings around callee args trailing) cache ▸ List.mem_map_of_mem tried
    exact ⟨trial.binding, possible, exists_given_of_mem_commitTrial run found⟩
  cases @findsOne_transformCall around callee args trailing cache with
  | viable tried isViable diagnostics notices bodies spans => exact ofTrial tried (bodies ▸ found)
  | failed first none diagnostics bodies =>
      exact ofTrial (List.mem_of_mem_head? first) (bodies ▸ found)
  | nothing none diagnostics bodies | ambiguous _ _ _ _ _ _ diagnostics bodies =>
      rw [bodies] at found
      cases found

/-! ### Programs -/

/-- **What is found at places**, one after the other. -/
def foundAt : List Visit → DescriptorCache → List (Visit × Findings)
  | [], _ => []
  | visit :: rest, cache =>
      (visit, (visit.walk cache).findings) :: foundAt rest (visit.walk cache).cache

theorem map_fst_foundAt (visits : List Visit) (cache : DescriptorCache) :
    (foundAt visits cache).map (·.1) = visits := by
  induction visits generalizing cache with
  | nil => rfl
  | cons visit rest ih => exact congrArg (visit :: ·) (ih _)

/-- The places of a walk, with the caches with which they are reached. -/
def reachedAt : List Visit → DescriptorCache → List (Visit × DescriptorCache)
  | [], _ => []
  | visit :: rest, cache => (visit, cache) :: reachedAt rest (visit.walk cache).cache

/-- What is found at a place is found with the cache with which it is reached. -/
theorem foundAt_eq (visits : List Visit) (cache : DescriptorCache) :
    foundAt visits cache = (reachedAt visits cache).map fun (visit, before) =>
      (visit, (visit.walk before).findings) := by
  induction visits generalizing cache with
  | nil => rfl
  | cons visit rest ih => exact congrArg (_ :: ·) (ih _)

theorem map_fst_reachedAt (visits : List Visit) (cache : DescriptorCache) :
    (reachedAt visits cache).map (·.1) = visits := by
  induction visits generalizing cache with
  | nil => rfl
  | cons visit rest ih => exact congrArg (visit :: ·) (ih _)

theorem diagnostics_walkAll (visits : List Visit) (cache : DescriptorCache) :
    (walkAll visits cache).findings.diagnostics =
      (foundAt visits cache).flatMap (·.2.diagnostics) := by
  induction visits generalizing cache with
  | nil => rfl
  | cons visit rest ih =>
      rw [walkAll, Walk.bind_findings, Findings.diagnostics_append, ih, foundAt, List.flatMap_cons]

theorem bodies_walkAll (visits : List Visit) (cache : DescriptorCache) :
    (walkAll visits cache).findings.bodies = (foundAt visits cache).flatMap (·.2.bodies) := by
  induction visits generalizing cache with
  | nil => rfl
  | cons visit rest ih =>
      rw [walkAll, Walk.bind_findings, Findings.bodies_append, ih, foundAt, List.flatMap_cons]

theorem mem_of_mem_reachedAt {visits : List Visit} {cache before : DescriptorCache} {visit : Visit}
    (reached : (visit, before) ∈ reachedAt visits cache) : visit ∈ visits :=
  map_fst_reachedAt visits cache ▸ List.mem_map_of_mem reached

theorem exists_walk_of_mem_foundAt {visits : List Visit} {cache : DescriptorCache}
    {entry : Visit × Findings} (found : entry ∈ foundAt visits cache) :
    entry.1 ∈ visits ∧ ∃ before, entry.2 = (entry.1.walk before).findings := by
  rw [foundAt_eq] at found
  obtain ⟨⟨visit, before⟩, reached, rfl⟩ := List.mem_map.mp found
  exact ⟨mem_of_mem_reachedAt reached, before, rfl⟩

/-- In a program there is found what is found at its places. -/
theorem found_programWith (services : Collaborators) (config : Config) (program : Program)
    (cache : DescriptorCache) :
    (programWith services config program cache).findings.diagnostics =
        (walkAll (visits services config program) cache).findings.diagnostics ∧
      (programWith services config program cache).findings.bodies =
        (walkAll (visits services config program) cache).findings.bodies := by
  rw [visits, ← statementList_eq_walkAll]
  exact ⟨List.append_nil _, List.append_nil _⟩

/-- **One possibility of a call counts**, at most.

A decision between trials is sound, whatever the collaborator answers about overloads: one of the
trials is meant, a viable one if there is any and else the first, or it is ambiguous which of two
viable trials with different builders is meant.

What is found in a program is found at its places, one after the other, each of which is reached with
the cache that the places before it leave. At a call, there is one trial for each possibility; they
are run one after the other, from the cache with which the call is reached up to the one that it
leaves. What is found at the call is what one of these trials finds. When any of them is viable,
that is a body for every closure, with notices, or a single diagnostic of the collaborator about the
overloads; no possibility is reported for which the closures were not transformed. -/
theorem selection_isSound (services : Collaborators) :
    (∀ (site : OverloadSite) (first : Trial) (rest : List Trial),
      Selection.IsSound (first :: rest) (Selection.ofTrials services site (first :: rest)).1) ∧
    ∀ (config : Config) (program : Program) (cache : DescriptorCache),
      let places := visits services config program
      (programWith services config program cache).findings.diagnostics =
          (foundAt places cache).flatMap (·.2.diagnostics) ∧
        (programWith services config program cache).findings.bodies =
          (foundAt places cache).flatMap (·.2.bodies) ∧
        (foundAt places cache = (reachedAt places cache).map fun (visit, before) =>
          (visit, (visit.walk before).findings)) ∧
        (reachedAt places cache).map (·.1) = places ∧
        ∀ around callee args trailing before,
          let call := Visit.call around callee args trailing
          let trials := trialsOf around callee args trailing before
          (call, before) ∈ reachedAt places cache →
            around.services = services ∧ around.config = config ∧
              trials.map (·.binding) = bindings around callee args trailing ∧
              AreRun around before trials (call.walk before).cache ∧
              FindsOne services trials (call.walk before).findings := by
  refine ⟨fun site first rest => Selection.isSound_ofTrials (List.cons_ne_nil first rest),
    fun config program cache => ?_⟩
  obtain ⟨diagnostics, bodies⟩ := found_programWith services config program cache
  refine ⟨diagnostics.trans (diagnostics_walkAll _ _), bodies.trans (bodies_walkAll _ _),
    foundAt_eq _ cache, map_fst_reachedAt _ cache, ?_⟩
  intro around callee args trailing before call trials reached
  -- at every place of the program the collaborators are those of the program
  obtain ⟨asked, configured⟩ : around.services = services ∧ around.config = config :=
    asked_of_mem_visits (mem_of_mem_reachedAt reached)
  refine ⟨asked, configured, map_binding_tryAll _ _, areRun_trialsOf before, ?_⟩
  exact asked ▸ findsOne_transformCall before

/-- Two functions of the same name, each with a closure for its builder, and a call that can mean
either of them. The builder of the first one has no functions. -/
def overloadedProgram : Program where
  statements := [
    .declaration (.type { localType "A" with attributes := [⟨⟨112, 118⟩, "resultBuilder"⟩] }),
    .declaration (.type (DescriptorCache.joiningType .structType)),
    .declaration (.function { buildingFunction with
      params := buildingFunction.params.map ({ · with attributes := [⟨⟨77, 79⟩, "A"⟩] }) }),
    .declaration (.function buildingFunction),
    .expression (.call ⟨127, 134⟩ (.ident ⟨127, 128⟩ "f") [] (some givenClosure))]

/-- The second function is meant, and the invalid builder of the first one is not reported. -/
example : (programWith .permissive {} overloadedProgram {}).findings.diagnostics = [] ∧
    (programWith .permissive {} overloadedProgram {}).findings.bodies.map
      (fun body => (body.builder, body.span)) = [("B", givenClosure.span)] :=
  ⟨rfl, rfl⟩

end Compile

end ResultBuilder
