import ResultBuilder.Proofs.Builder.Cache
import ResultBuilder.Proofs.Compile.Nodes
import ResultBuilder.Proofs.Host.Answers
import ResultBuilder.Proofs.Syntax.Reading.Statement
import ResultBuilder.Proofs.Syntax.Refusals.Parsing
import ResultBuilder.Proofs.Synthesis.Reports

/-!
# What a program is reported to be

A walk through a program reports what its transforms report, types that are no builders, calls that
may mean several functions, and directives. All of it is about the program, and so has usable places
in the source; so have the bodies that are transformed.

* **`Findings.IsAbout`**: findings about a program.
* **`Walk.IsAbout`**: a walk that only finds such, with its laws for steps one after the other.
* **`isAbout_attempt`**, **`isAbout_transformCall`** and their like: the steps of a walk.
* **`isUsable_of_compile`**: whatever is reported about a source is reported at usable places.
-/

namespace ResultBuilder

open Syntax Transform

variable {source : List Char} {program : Program}

/-! ### The host -/

/-- **A context with usable places.** Only a closure may outlive its call, and then the body starts
with the opening brace. -/
structure BodyContext.IsUsable (source : List Char) (context : BodyContext) : Prop where
  place : context.span.IsUsable source
  marked : ∀ mark ∈ context.builderAttribute, mark.IsUsable source
  opens : context.isEscaping = true → StandsAt source '{' context.span.start

/-- **The host for a program answers about the program.** -/
theorem Host.isAbout_answer {context : BodyContext} {question : Question} {diagnostic : Diagnostic}
    (sound : program.IsSound source) (usable : context.IsUsable source)
    (asked : question.IsAbout program context)
    (found : diagnostic ∈ (Host.ofProgram program).collaborators.answer question) :
    diagnostic.IsAbout source program := by
  cases asked with
  | exhaustive inside => exact isAbout_checkExhaustive sound inside found
  | condition inside => exact isAbout_checkCondition sound inside found
  | expression inside =>
      exact isAbout_checkExpression (Host.knows_ofProgram program) sound inside found
  | captures inside => exact isAbout_checkCaptures sound inside usable.opens found

/-! ### The cache -/

/-- A cache that remembers builders with usable places. -/
def DescriptorCache.IsUsable (source : List Char) (cache : DescriptorCache) : Prop :=
  ∀ entry ∈ cache.entries, (Descriptor.resolvedBuilder entry.2).span.IsUsable source

/-- **A look-up keeps a cache usable** and gives a builder with a usable place. -/
theorem DescriptorCache.IsUsable.getOrResolve {cache : DescriptorCache} {decl : TypeDecl}
    (usable : cache.IsUsable source) (declared : decl.name.span.IsUsable source) :
    (Descriptor.resolvedBuilder (cache.getOrResolve decl).1).span.IsUsable source ∧
      (cache.getOrResolve decl).2.IsUsable source := by
  unfold DescriptorCache.getOrResolve
  split
  next known found =>
    obtain ⟨front, back, same, -⟩ := List.lookup_eq_some_iff.mp found
    exact ⟨usable (_, known) (same ▸ List.mem_append_right _ List.mem_cons_self), usable⟩
  next =>
    have place : (Descriptor.resolvedBuilder (Descriptor.resolve decl)).span.IsUsable source := by
      rw [Descriptor.resolvedBuilder_resolve]
      exact declared
    exact ⟨place, List.forall_mem_cons.mpr ⟨place, usable⟩⟩

/-! ### Findings -/

/-- **Findings about a program**: its diagnostics are about the program and its bodies have usable
places. -/
structure Findings.IsAbout (source : List Char) (program : Program) (findings : Findings) :
    Prop where
  diagnostics : ∀ diagnostic ∈ findings.diagnostics, diagnostic.IsAbout source program
  bodies : ∀ body ∈ findings.bodies, body.span.IsUsable source

namespace Findings

theorem isAbout_empty : IsAbout source program {} :=
  ⟨List.forall_mem_nil _, List.forall_mem_nil _⟩

theorem IsAbout.append {first second : Findings} (one : first.IsAbout source program)
    (other : second.IsAbout source program) : (first ++ second).IsAbout source program :=
  ⟨List.forall_mem_append.mpr ⟨one.diagnostics, other.diagnostics⟩,
    List.forall_mem_append.mpr ⟨one.bodies, other.bodies⟩⟩

end Findings

/-! ### Walks -/

/-- **A walk about a program**: starting with a usable cache it only finds what is about the
program, what it gives is as it should be, and the cache stays usable. -/
def Walk.IsAbout {α : Type} (source : List Char) (program : Program) (gives : α → Prop)
    (walk : Walk α) : Prop :=
  ∀ cache : DescriptorCache, cache.IsUsable source →
    gives (walk cache).value ∧ (walk cache).findings.IsAbout source program ∧
      (walk cache).cache.IsUsable source

namespace Walk

variable {α β : Type} {gives : α → Prop} {alsoGives : β → Prop}

theorem isAbout_pure {value : α} (given : gives value) :
    IsAbout source program gives (Pure.pure value) :=
  fun _ usable => ⟨given, Findings.isAbout_empty, usable⟩

/-- **One walk after another.** -/
theorem IsAbout.bind {first : Walk α} {next : α → Walk β}
    (ofFirst : IsAbout source program gives first)
    (ofNext : ∀ value, gives value → IsAbout source program alsoGives (next value)) :
    IsAbout source program alsoGives (first >>= next) := by
  intro cache usable
  obtain ⟨given, found, kept⟩ := ofFirst cache usable
  obtain ⟨result, further, keptAgain⟩ := ofNext _ given _ kept
  exact ⟨result, found.append further, keptAgain⟩

theorem isAbout_found {findings : Findings} (about : findings.IsAbout source program) :
    IsAbout source program (fun _ => True) (found findings) :=
  fun _ usable => ⟨trivial, about, usable⟩

theorem isAbout_note (journal : Journal) :
    IsAbout source program (fun _ => True) (note journal) :=
  isAbout_found ⟨List.forall_mem_nil _, List.forall_mem_nil _⟩

theorem isAbout_report {diagnostic : Diagnostic} (about : diagnostic.IsAbout source program) :
    IsAbout source program (fun _ => True) (report [diagnostic]) :=
  isAbout_found ⟨List.forall_mem_singleton.mpr about, List.forall_mem_nil _⟩

theorem isAbout_resolve {decl : TypeDecl} (declared : decl.name.span.IsUsable source) :
    IsAbout source program
      (fun resolution => (Descriptor.resolvedBuilder resolution).span.IsUsable source)
      (resolve decl) := by
  intro cache usable
  obtain ⟨place, kept⟩ := usable.getOrResolve declared
  exact ⟨place, ⟨List.forall_mem_nil _, List.forall_mem_nil _⟩, kept⟩

end Walk

/-! ### Bodies -/

namespace Compile

/-- The name of a type of a program has a usable place. -/
theorem isUsable_typeName {decl : TypeDecl} (sound : program.IsSound source)
    (declared : (Node.declaration (.type decl)).WithinProgram program) :
    decl.name.span.IsUsable source := by
  have named : (Node.name decl.name).WithinProgram program :=
    declared.child (List.mem_append_right _ List.mem_cons_self)
  exact named.isUsable sound

/-- A type that is no builder is shown where it is applied and where it is declared. -/
theorem isAbout_invalidBuilder {error : InvalidBuilder} {place : Span}
    (applied : place.IsUsable source) (declared : error.builder.span.IsUsable source) :
    (invalidBuilder error place).IsAbout source program :=
  Diagnostic.IsUsable.isAbout .builderDescriptorInvalid
    ⟨List.forall_mem_cons.mpr ⟨applied, List.forall_mem_singleton.mpr declared⟩,
      List.forall_mem_nil _⟩ rfl nofun

/-- **What comes of an attempt**: a type that is no builder or what becomes of the body. -/
def AttemptIsAbout (source : List Char) (program : Program) :
    Except Diagnostic Transformed → Prop
  | .error diagnostic => diagnostic.IsAbout source program
  | .ok outcome => outcome.IsAbout source program

section Bodies

variable {around : Surroundings} {builder : TypeDecl} {body : Block} {context : BodyContext}

/-- What is accepted of a body. -/
theorem isAbout_commit {outcome : Transformed} {kind : BodyKind} {place : Span}
    (about : outcome.IsAbout source program) (usable : place.IsUsable source) :
    (commit kind builder place outcome).IsAbout source program := by
  unfold commit
  dsimp only
  split
  · exact ⟨about.journal, List.forall_mem_singleton.mpr usable⟩
  · exact ⟨about.journal, List.forall_mem_singleton.mpr usable⟩
  next error isFailed =>
    have failed : error.diagnostic.IsAbout source program :=
      (about.failed error isFailed).isAbout_diagnostic
    exact ⟨List.forall_mem_append.mpr ⟨about.journal, List.forall_mem_singleton.mpr failed⟩,
      List.forall_mem_nil _⟩

variable (sound : program.IsSound source)
  (areOf : around.AreOf (Host.ofProgram program).collaborators program)

include sound areOf

/-- **An attempt at a body** of a program. -/
theorem isAbout_attempt (declared : (Node.declaration (.type builder)).WithinProgram program)
    (inside : (Node.block body).WithinProgram program) (usable : context.IsUsable source) :
    (attempt around builder body context).IsAbout source program
      (AttemptIsAbout source program) := by
  unfold attempt
  refine (Walk.isAbout_resolve (isUsable_typeName sound declared)).bind fun resolution place => ?_
  cases resolution with
  | error error => exact Walk.isAbout_pure (isAbout_invalidBuilder usable.place place)
  | ok descriptor =>
      have about : Setting.IsAbout source program
          ⟨descriptor, around.services, context, around.config⟩ := by
        refine ⟨place, usable.marked, fun question asked diagnostic found => ?_⟩
        exact Host.isAbout_answer sound usable asked (areOf.asked ▸ found)
      exact (Walk.isAbout_note _).bind fun _ _ =>
        Walk.isAbout_pure (isAbout_transform about sound inside)

/-- The body of a declaration with a builder attribute. -/
theorem isAbout_apply (declared : (Node.declaration (.type builder)).WithinProgram program)
    (inside : (Node.block body).WithinProgram program) (usable : context.IsUsable source) :
    (apply around builder body context).IsAbout source program fun _ => True := by
  unfold apply
  refine (isAbout_attempt sound areOf declared inside usable).bind fun outcome about => ?_
  cases outcome with
  | error diagnostic => exact Walk.isAbout_report about
  | ok outcome => exact Walk.isAbout_found (isAbout_commit about (inside.isUsable sound))

theorem isAbout_applyAttribute {marks : List Attribute} {kind : BodyKind}
    (marked : ∀ mark ∈ marks, (Node.attribute mark).WithinProgram program)
    (inside : (Node.block body).WithinProgram program) :
    (applyAttribute around marks kind body).IsAbout source program fun _ => True := by
  unfold applyAttribute
  split
  next => exact Walk.isAbout_pure trivial
  next mark builder named =>
    obtain ⟨⟨entry, listed, rfl⟩, declared⟩ := areOf.declared.of_builderAttribute? named
    refine isAbout_apply sound areOf declared inside ⟨inside.isUsable sound, ?_, nofun⟩
    rintro _ ⟨⟩
    exact (marked entry listed).isUsable sound

end Bodies

/-! ### Calls -/

/-- **A closure that is given in a program** for a parameter whose builder is declared in it. -/
structure GivenIn (program : Program) (given : BuilderClosure) : Prop where
  closure : (Node.closure given.closure).WithinProgram program
  builder : (Node.declaration (.type given.builder)).WithinProgram program

/-- **A possibility for a call in a program**: the function and the builders are declared in it, and
the closures are given in it. -/
structure BindingIn (program : Program) (binding : CallBinding) : Prop where
  function : (Node.declaration (.function binding.function)).WithinProgram program
  closures : ∀ given ∈ binding.closures, GivenIn program given

/-- **What comes of a possibility** that is tried. -/
structure TrialIsAbout (source : List Char) (program : Program) (trial : Trial) : Prop where
  binding : BindingIn program trial.binding
  outcomes : ∀ outcome ∈ trial.outcomes, outcome.IsAbout source program
  invalid : ∀ diagnostic ∈ trial.invalid, diagnostic.IsAbout source program

section Calls

variable {around : Surroundings} {span : Span} {callee : Expr} {args : List Argument}
  {trailing : Option Closure}

/-- A closure that is given in a call is within the call. -/
theorem within_of_mem_given {node : Closure} (given : some node ∈ CallBinding.given args trailing) :
    (Node.closure node).Within (.expression (.call span callee args trailing)) := by
  rcases List.mem_append.mp given with listed | listed
  · obtain ⟨arg, member, isClosure⟩ := List.mem_map.mp listed
    unfold CallBinding.closure? at isClosure
    split at isClosure
    next closure value =>
      cases isClosure
      have ofCall : Node.argument arg ∈
          (Node.expression (.call span callee args trailing)).children :=
        List.mem_append_left _ (List.mem_cons_of_mem _ (List.mem_map_of_mem member))
      have ofArg : Node.expression (.closure node) ∈ (Node.argument arg).children :=
        value ▸ List.mem_append_right _ (List.mem_singleton_self _)
      exact .child ofCall (.child ofArg (.child (List.mem_singleton_self _) (.self _)))
    next => cases isClosure
  · obtain ⟨closure, member, same⟩ := List.mem_map.mp listed
    cases same
    exact .child (List.mem_append_right _ (List.mem_map_of_mem member)) (.self _)

/-- **The possibilities for a call in a program.** -/
theorem bindingIn_of_mem_bindings {services : Collaborators} {binding : CallBinding}
    (areOf : around.AreOf services program)
    (inside : (Node.expression (.call span callee args trailing)).WithinProgram program)
    (listed : binding ∈ bindings around callee args trailing) : BindingIn program binding := by
  obtain ⟨⟨declared, origin⟩, -, closures, -⟩ := mem_bindings_iff.mp listed
  refine ⟨areOf.declared.withinProgram_function (Scopes.leads_of_mem_origins origin), ?_⟩
  intro given isGiven
  rw [← closures] at isGiven
  obtain ⟨⟨param, argument⟩, pair, isClosure⟩ := List.mem_filterMap.mp isGiven
  obtain ⟨closure, isArgument, isClosure⟩ := Option.bind_eq_some_iff.mp isClosure
  obtain ⟨⟨mark, builder⟩, named, same⟩ := Option.bind_eq_some_iff.mp isClosure
  cases same
  cases isArgument
  exact ⟨inside.within (within_of_mem_given (List.of_mem_zip pair).2),
    (areOf.declared.of_builderAttribute? named).2⟩

variable (sound : program.IsSound source)
  (areOf : around.AreOf (Host.ofProgram program).collaborators program)

include sound in
/-- The context of a closure has usable places: the closure starts with its opening brace. -/
theorem isUsable_closureContext {given : BuilderClosure} (ofProgram : GivenIn program given) :
    BodyContext.IsUsable source
      { around.context .closure given.closure.span given.closure.params with
        isEscaping := given.isEscaping } :=
  ⟨ofProgram.closure.isUsable sound, nofun, fun _ => (sound _ ofProgram.closure).spelled⟩

include sound areOf

/-- **Closures of a program** that are tried one after the other. -/
theorem isAbout_tryClosures {closures : List BuilderClosure}
    (ofProgram : ∀ given ∈ closures, GivenIn program given) :
    (tryClosures around closures).IsAbout source program fun tried =>
      (∀ outcome ∈ tried.1, outcome.IsAbout source program) ∧
        ∀ diagnostic ∈ tried.2, diagnostic.IsAbout source program := by
  induction closures with
  | nil => exact Walk.isAbout_pure ⟨List.forall_mem_nil _, nofun⟩
  | cons given rest ih =>
      rw [List.forall_mem_cons] at ofProgram
      have isBody : (Node.block given.closure.body).WithinProgram program :=
        ofProgram.1.closure.child (List.mem_append_right _ (List.mem_singleton_self _))
      refine (isAbout_attempt sound areOf ofProgram.1.builder isBody
        (isUsable_closureContext sound ofProgram.1)).bind fun outcome about => ?_
      cases outcome with
      | error diagnostic =>
          refine Walk.isAbout_pure ⟨List.forall_mem_nil _, ?_⟩
          rintro _ ⟨⟩
          exact about
      | ok outcome =>
          refine (ih ofProgram.2).bind fun tried ofRest => ?_
          exact Walk.isAbout_pure ⟨List.forall_mem_cons.mpr ⟨about, ofRest.1⟩, ofRest.2⟩

/-- **Possibilities for a call in a program** that are tried one after the other. -/
theorem isAbout_tryAll {possible : List CallBinding}
    (ofProgram : ∀ binding ∈ possible, BindingIn program binding) :
    (tryAll around possible).IsAbout source program fun trials =>
      ∀ trial ∈ trials, TrialIsAbout source program trial := by
  induction possible with
  | nil => exact Walk.isAbout_pure (List.forall_mem_nil _)
  | cons binding rest ih =>
      rw [List.forall_mem_cons] at ofProgram
      refine (isAbout_tryClosures sound areOf ofProgram.1.closures).bind fun tried about => ?_
      refine (ih ofProgram.2).bind fun trials ofRest => ?_
      exact Walk.isAbout_pure
        (List.forall_mem_cons.mpr ⟨⟨ofProgram.1, about.1, about.2⟩, ofRest⟩)

omit areOf

/-- The possibility that is meant. -/
theorem isAbout_commitTrial {trial : Trial} (about : TrialIsAbout source program trial) :
    (commitTrial trial).IsAbout source program := by
  have committed : ∀ pair ∈ trial.binding.closures.zip trial.outcomes,
      (commit .closure pair.1.builder pair.1.closure.span pair.2).IsAbout source program := by
    intro pair listed
    obtain ⟨ofBinding, ofOutcomes⟩ := List.of_mem_zip listed
    exact isAbout_commit (about.outcomes _ ofOutcomes)
      ((about.binding.closures _ ofBinding).closure.isUsable sound)
  have last : Findings.IsAbout source program { diagnostics := trial.invalid.toList } :=
    ⟨fun _ listed => about.invalid _ (Option.mem_toList.mp listed), List.forall_mem_nil _⟩
  unfold commitTrial
  dsimp only
  rw [List.foldr_map]
  generalize trial.binding.closures.zip trial.outcomes = pairs at committed ⊢
  induction pairs with
  | nil => exact last
  | cons pair rest ih =>
      rw [List.forall_mem_cons] at committed
      exact committed.1.append (ih committed.2)

/-- A trial as a candidate is shown at the name of its function. -/
theorem isUsable_candidate {trial : Trial} (about : TrialIsAbout source program trial) :
    trial.candidate.span.IsUsable source :=
  (Host.withinProgram_functionName about.binding.function).isUsable sound

/-- An ambiguous call is about the program. -/
theorem isAbout_ofTrials {site : OverloadSite} {trials : List Trial} {diagnostic : Diagnostic}
    (place : site.span.IsUsable source)
    (about : ∀ trial ∈ trials, TrialIsAbout source program trial)
    (ambiguous : (Selection.ofTrials (Host.ofProgram program).collaborators site trials).1 =
      .ambiguous diagnostic) : diagnostic.IsAbout source program := by
  have ofViable : ∀ entry ∈ Selection.viable trials, TrialIsAbout source program entry.2 :=
    fun entry listed => about _ (List.of_mem_zip (List.mem_filter.mp listed).1).2
  unfold Selection.ofTrials at ambiguous
  split at ambiguous
  next => cases ambiguous
  next => cases ambiguous
  next first rest notOne isViable =>
    split at ambiguous
    · cases ambiguous
    · dsimp only at ambiguous
      split at ambiguous
      · cases ambiguous
      next other resolved =>
        cases ambiguous
        refine Host.isAbout_resolveOverload place (List.forall_mem_map.mpr fun entry listed => ?_)
          resolved
        exact isUsable_candidate sound (ofViable entry (isViable ▸ listed))

include areOf

/-- **The closures of a call in a program.** -/
theorem isAbout_transformCall
    (inside : (Node.expression (.call span callee args trailing)).WithinProgram program) :
    (transformCall around callee args trailing).IsAbout source program fun _ => True := by
  have calleePlace : callee.span.IsUsable source :=
    (inside.child (List.mem_append_left _ List.mem_cons_self)).isUsable sound
  have ofProgram : ∀ binding ∈ bindings around callee args trailing, BindingIn program binding :=
    fun _ => bindingIn_of_mem_bindings areOf inside
  unfold transformCall
  split
  next => exact Walk.isAbout_pure trivial
  next first rest possible =>
    rw [possible] at ofProgram
    refine (isAbout_tryAll sound areOf ofProgram).bind fun trials about => ?_
    refine (Walk.isAbout_note _).bind fun _ _ => ?_
    rw [areOf.asked]
    have ambiguous : ∀ diagnostic, (Selection.ofTrials (Host.ofProgram program).collaborators
        ⟨first.function.fullName, callee.span⟩ trials).1 = .ambiguous diagnostic →
          diagnostic.IsAbout source program :=
      fun _ => isAbout_ofTrials sound calleePlace about
    generalize Selection.ofTrials _ _ trials = decided at ambiguous
    obtain ⟨selection, questions⟩ := decided
    refine (Walk.isAbout_note _).bind fun _ _ => ?_
    cases selection with
    | commit index =>
        dsimp only
        split
        next trial found =>
          exact Walk.isAbout_found
            (isAbout_commitTrial sound (about trial (List.mem_of_getElem? found)))
        next => exact Walk.isAbout_pure trivial
    | ambiguous diagnostic =>
        exact (Walk.isAbout_note _).bind fun _ _ =>
          Walk.isAbout_report (ambiguous diagnostic rfl)

end Calls

/-! ### Programs -/

/-- A directive is shown where it is. -/
theorem isAbout_directiveDiagnostic {node : Directive} (sound : program.IsSound source)
    (inside : (Node.statement (.directive node)).WithinProgram program) :
    (directiveDiagnostic node).IsAbout source program := by
  have place : node.span.IsUsable source := inside.isUsable sound
  have usable : ∀ label ∈ [Label.primary "" node.span], label.span.IsUsable source :=
    List.forall_mem_singleton.mpr place
  unfold directiveDiagnostic
  dsimp only
  split
  · exact Diagnostic.IsUsable.isAbout .directiveError ⟨usable, List.forall_mem_nil _⟩ rfl nofun
  · exact Diagnostic.IsUsable.isAbout .directiveWarning ⟨usable, List.forall_mem_nil _⟩ rfl nofun

/-- **What is done at a place of a program** finds what is about the program. -/
theorem isAbout_walk {visit : Visit} (sound : program.IsSound source)
    (isOf : visit.IsOf (Host.ofProgram program).collaborators program) :
    visit.walk.IsAbout source program fun _ => True := by
  cases isOf with
  | directive inside => exact Walk.isAbout_report (isAbout_directiveDiagnostic sound inside)
  | @function around decl areOf inside =>
      obtain ⟨span, marks, isStatic, name, generics, params, result, body⟩ := decl
      cases body with
      | none => exact Walk.isAbout_pure trivial
      | some body =>
          have isBody : (Node.block body).WithinProgram program :=
            inside.child (List.mem_append_right _ (List.mem_cons_of_mem _
              (List.mem_append_right _ (List.mem_append_right _ (List.mem_append_right _
                (List.mem_singleton_self _))))))
          have within : Surroundings.AreOf (Host.ofProgram program).collaborators program
              (around.inFunction generics params) := ⟨areOf.asked, areOf.declared⟩
          have marked : ∀ mark ∈ marks, (Node.attribute mark).WithinProgram program :=
            fun mark listed =>
              inside.child (List.mem_append_left _ (List.mem_map_of_mem listed))
          exact isAbout_applyAttribute sound within marked isBody
  | @property around decl body areOf isBody inside =>
      obtain ⟨span, marks, isMutable, name, type, value, body'⟩ := decl
      obtain rfl : body' = some body := isBody
      have isBody : (Node.block body).WithinProgram program :=
        inside.child (List.mem_append_right _ (List.mem_cons_of_mem _
          (List.mem_append_right _ (List.mem_append_right _ (List.mem_singleton_self _)))))
      have marked : ∀ mark ∈ marks, (Node.attribute mark).WithinProgram program :=
        fun mark listed => inside.child (List.mem_append_left _ (List.mem_map_of_mem listed))
      exact isAbout_applyAttribute sound areOf marked isBody
  | call areOf inside => exact isAbout_transformCall sound areOf inside

/-- **A walk through places of a program** finds what is about the program. -/
theorem isAbout_walkAll {visits : List Visit} (sound : program.IsSound source)
    (areOf : ∀ visit ∈ visits, visit.IsOf (Host.ofProgram program).collaborators program) :
    (walkAll visits).IsAbout source program fun _ => True := by
  induction visits with
  | nil => exact Walk.isAbout_pure trivial
  | cons visit rest ih =>
      rw [List.forall_mem_cons] at areOf
      exact (isAbout_walk sound areOf.1).bind fun _ _ => ih areOf.2

/-- **What is found in a sound program** is about it, from an empty cache on. -/
theorem isAbout_findings (config : Config) (sound : program.IsSound source) :
    (walkAll (visits (Host.ofProgram program).collaborators config program) {}).findings.IsAbout
      source program :=
  (isAbout_walkAll sound (fun _ => isOf_of_mem_visits) {} (List.forall_mem_nil _)).2.1

/-- The diagnostics of a program are those that are found, and so are the bodies. -/
theorem diagnostics_programWith (services : Collaborators) (config : Config) (program : Program)
    (cache : DescriptorCache) :
    (programWith services config program cache).value.diagnostics =
        (walkAll (visits services config program) cache).findings.diagnostics ∧
      ∀ compilation, (programWith services config program cache).value = .ok compilation →
        compilation.bodies =
          (walkAll (visits services config program) cache).findings.bodies := by
  rw [value_programWith]
  split
  · exact ⟨rfl, nofun⟩
  · refine ⟨rfl, ?_⟩
    rintro _ ⟨⟩
    rfl

end Compile

/-- A syntax error is not about missing cases. -/
theorem Syntax.SyntaxError.code_ne_exhaustiveness (error : SyntaxError) :
    error.diagnostic.code ≠ DiagnosticCode.exhaustiveness.number := by
  show error.code ≠ 206
  cases error <;> simp [SyntaxError.code]

open Compile in
/-- **Whatever is reported about a source is reported at usable places**, whether the source cannot
be read, is wrong or is compiled: the places of all labels, of all suggestions and of all their
edits, and the places of the transformed bodies, start before they end, lie within the source and
start and end between characters. So an edit replaces just what stands at its place, and a column
counts the characters in front of it. The edit of every suggestion to add a missing case is placed
at the closing brace of the `switch` that lacks it. -/
theorem isUsable_of_compile (config : Config) (source : String) :
    (∀ diagnostic ∈ (compile config source).1.diagnostics,
      diagnostic.IsUsable source.toList ∧
        (diagnostic.code = DiagnosticCode.exhaustiveness.number →
          ∃ program, parse source = .ok program ∧ diagnostic.AddsCases source.toList program)) ∧
    (∀ compilation, (compile config source).1 = .ok compilation →
      ∀ body ∈ compilation.bodies, body.span.IsUsable source.toList) ∧
    ∀ span : Span, span.IsUsable source.toList →
      ∃ front middle back, span.Cuts source front middle back := by
  have cuts : ∀ span : Span, span.IsUsable source.toList →
      ∃ front middle back, span.Cuts source front middle back :=
    fun span usable => usable.exists_cuts
  cases parsed : parse source with
  | error error =>
      have refused : (compile config source).1 = .error [error.diagnostic] := by
        rw [compile, parsed]
      have usable : error.diagnostic.IsUsable source.toList :=
        SyntaxError.isUsable_diagnostic (isUsable_of_parse parsed)
      rw [refused]
      exact ⟨List.forall_mem_singleton.mpr
        ⟨usable, fun same => absurd same error.code_ne_exhaustiveness⟩, nofun, cuts⟩
  | ok program =>
      have walked : (compile config source).1 =
          (programWith (Host.ofProgram program).collaborators config program {}).value := by
        rw [compile, parsed]
      have about := isAbout_findings config (Program.isSound_of_parse parsed).1
      obtain ⟨diagnostics, bodies⟩ :=
        diagnostics_programWith (Host.ofProgram program).collaborators config program {}
      rw [walked]
      refine ⟨fun diagnostic listed => ?_, fun compilation isOk body listed => ?_, cuts⟩
      · have isAbout := about.diagnostics diagnostic (diagnostics ▸ listed)
        exact ⟨isAbout.usable, fun same => ⟨program, rfl, isAbout.addsCases same⟩⟩
      · exact about.bodies body (bodies compilation isOk ▸ listed)

end ResultBuilder
