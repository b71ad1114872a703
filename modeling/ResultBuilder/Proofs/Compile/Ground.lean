import ResultBuilder.Proofs.Compile.Relaxed
import ResultBuilder.Proofs.Synthesis.Calls
import ResultBuilder.Proofs.Synthesis.Ground

/-!
# No generic parameters escape

The host replaces the generic parameters of declared results, and a transform brings in none. So the
shapes of recorded bodies are ground.

* **`Host.isGround_typeOf`**: the shape of an expression is ground.
* **`Compile.forall_mem_bodies`**: what holds of the bodies that are accepted from transforms holds of
  all bodies that are recorded in a program.
* **`isGround_of_built`**: the shape of what is built is ground.
-/

namespace ResultBuilder

open Syntax

/-! ### The host -/

namespace Host

/-- **Declared results have no parameters left**, since none of them is bound. -/
theorem isGround_resultShape (function : FunctionDecl) : (resultShape function).IsGround := by
  unfold resultShape
  split
  · exact Shape.isGround_unit
  · exact Shape.isGround_substitute _ .nil

theorem isGround_literalShape (literal : Literal) : (literalShape literal).IsGround := by
  cases literal <;> simp [literalShape]

/-- A result that functions have in common is that of one of them. -/
theorem isGround_functionResult {host : Host} {name : String} {shape : Shape}
    (common : host.functionResult? name = some shape) : shape.IsGround := by
  unfold functionResult? at common
  split at common
  · cases common
  · next first rest same =>
      split at common
      · cases common
        obtain ⟨function, -, rfl⟩ := List.mem_map.mp (same ▸ List.mem_cons_self)
        exact isGround_resultShape function
      · cases common

theorem isGround_namedCallShape (host : Host) (name : String) :
    (host.namedCallShape name).IsGround := by
  unfold namedCallShape
  split
  · simp only [Shape.isGround_named, List.mem_replicate]
    rintro arg ⟨-, rfl⟩
    exact Shape.isGround_hole
  · split
    · simp
    · cases common : host.functionResult? name with
      | none => exact Shape.isGround_hole
      | some shape => exact isGround_functionResult common

theorem isGround_callShape (host : Host) (callee : Expr) : (host.callShape callee).IsGround := by
  unfold callShape
  split
  · exact host.isGround_namedCallShape _
  · next typeName name =>
      cases found : (host.type? typeName).bind (staticResult? · name.text) with
      | none => exact Shape.isGround_hole
      | some shape =>
          obtain ⟨decl, -, static⟩ := Option.bind_eq_some_iff.mp found
          obtain ⟨function, -, rfl⟩ := Option.map_eq_some_iff.mp static
          exact isGround_resultShape function
  · exact Shape.isGround_hole

mutual

/-- **The shape of an expression is ground.** -/
theorem isGround_typeOf (host : Host) : ∀ expr : Expr, (host.typeOf expr).IsGround
  | .literal _ value => by
      rw [typeOf]
      exact isGround_literalShape value
  | .tuple _ elements => by
      rw [typeOf, Shape.isGround_tuple]
      exact host.isGround_elementTypes elements
  | .paren _ inner => by
      rw [typeOf]
      exact host.isGround_typeOf inner
  | .array _ [] => by simp [typeOf]
  | .array _ (first :: _) => by
      rw [typeOf, Shape.isGround_named]
      exact List.forall_mem_singleton.mpr (host.isGround_typeOf first)
  | .call _ callee _ _ => by
      rw [typeOf]
      exact host.isGround_callShape callee
  | .unary _ .not _ => by simp [typeOf]
  | .unary _ .negate operand => by
      rw [typeOf]
      exact host.isGround_typeOf operand
  | .binary _ left op right => by
      rw [typeOf]
      split
      · simp
      · exact (host.isGround_typeOf left).unify (host.isGround_typeOf right)
  | .ternary _ _ thenValue elseValue => by
      rw [typeOf]
      exact (host.isGround_typeOf thenValue).unify (host.isGround_typeOf elseValue)
  | .ident _ _ | .implicitMember _ _ | .member _ _ _ | .subscript _ _ _ | .closure _
  | .assign _ _ _ _ | .postfixed _ _ _ => by simp [typeOf]

/-- The shapes of the elements of a tuple are ground. -/
theorem isGround_elementTypes (host : Host) :
    ∀ elements : List Argument, ∀ shape ∈ elementTypes host elements, shape.IsGround
  | [] => by
      rw [elementTypes]
      nofun
  | ⟨_, _, value⟩ :: rest => by
      rw [elementTypes, List.forall_mem_cons]
      exact ⟨host.isGround_typeOf value, host.isGround_elementTypes rest⟩

end

end Host

/-! ### Recorded bodies -/

namespace Compile

section Recorded

variable {services : Collaborators} {P : TransformedBody → Prop}
  (accepted : ∀ kind builder span (setting : Transform.Setting) block, setting.services = services →
    ∀ body ∈ (commit kind builder span (transform setting block)).bodies, P body)
include accepted

theorem forall_mem_bodies_applyAttribute {around : Surroundings} (asked : around.services = services)
    (marks : List Attribute) (kind : BodyKind) (block : Block) (cache : DescriptorCache) :
    ∀ body ∈ (applyAttribute around marks kind block cache).findings.bodies, P body := by
  intro body recorded
  obtain ⟨builder, descriptor, context, recorded⟩ := exists_commit_of_mem_applyAttribute recorded
  exact accepted _ _ _ _ _ asked body recorded

theorem forall_mem_bodies_walk {visit : Visit}
    (asked : visit.Holds fun around => around.services = services) (cache : DescriptorCache) :
    ∀ body ∈ (visit.walk cache).findings.bodies, P body := by
  cases visit with
  | directive node => exact nofun
  | function around decl =>
      obtain ⟨span, marks, isStatic, name, generics, params, result, block⟩ := decl
      cases block with
      | none => exact nofun
      | some block =>
          have asked : (around.inFunction generics params).services = services := asked
          exact forall_mem_bodies_applyAttribute accepted asked marks .function block cache
  | property around marks block =>
      exact forall_mem_bodies_applyAttribute accepted asked marks .property block cache
  | call around callee args trailing =>
      have asked : around.services = services := asked
      intro body recorded
      obtain ⟨binding, -, given, -, descriptor, recorded⟩ :=
        exists_given_of_mem_transformCall recorded
      exact accepted _ _ _ _ _ asked body recorded

/-- **What holds of the bodies that are accepted from transforms** that ask some collaborators holds
of all bodies that are recorded in a program. -/
theorem forall_mem_bodies (config : Config) (program : Program) (cache : DescriptorCache) :
    ∀ body ∈ (programWith services config program cache).findings.bodies, P body := by
  intro body recorded
  rw [(found_programWith services config program cache).2, bodies_walkAll] at recorded
  obtain ⟨⟨visit, findings⟩, found, recorded⟩ := List.mem_flatMap.mp recorded
  obtain ⟨visited, before, walked⟩ := exists_walk_of_mem_foundAt found
  dsimp only at visited walked recorded
  rw [walked] at recorded
  refine forall_mem_bodies_walk accepted ?_ before body recorded
  have asked := asked_of_mem_visits visited
  cases visit with
  | directive => trivial
  | function | property | call => exact asked.1

end Recorded

/-- The shape of an accepted body is that of what is built. -/
theorem isGround_of_mem_bodies_commit {setting : Transform.Setting}
    (ground : ∀ context expr, (setting.services.typeOf context expr).IsGround)
    {kind : BodyKind} {builder : TypeDecl} {span : Span} {block : Block} {body : TransformedBody}
    (recorded : body ∈ (commit kind builder span (transform setting block)).bodies)
    {built : Transform.Built} (expands : body.expansion = .built built) : built.shape.IsGround := by
  unfold commit at recorded
  cases result : (transform setting block).result with
  | built value =>
      rw [result] at recorded
      cases List.mem_singleton.mp recorded
      cases expands
      exact (Transform.Setting.keeps_isGround ground).of_transform result
  | verbatim kept =>
      rw [result] at recorded
      cases List.mem_singleton.mp recorded
      cases expands
  | failed error =>
      rw [result] at recorded
      cases recorded

end Compile

open Compile

/-- The shapes of recorded bodies are ground. -/
theorem isGround_of_mem_recordedBodies {config : Config} {source : String} {body : TransformedBody}
    (recorded : body ∈ recordedBodies config source) {built : Transform.Built}
    (expands : body.expansion = .built built) : built.shape.IsGround := by
  unfold recordedBodies at recorded
  cases parsed : parse source with
  | error error =>
      rw [parsed] at recorded
      cases recorded
  | ok program =>
      rw [parsed] at recorded
      refine forall_mem_bodies (P := fun body => ∀ built, body.expansion = .built built → built.shape.IsGround)
        (fun kind builder span setting block asked body listed built expands => ?_)
        config program {} body recorded built expands
      refine isGround_of_mem_bodies_commit (fun context expr => ?_) listed expands
      rw [asked]
      exact (Host.ofProgram program).isGround_typeOf expr

/-- **No generic parameter escapes.** When a source is compiled, the shapes of the bodies that are
recorded as built have no generic parameters at any depth, whether or not an error is reported besides
them. The same holds of what is built from any body with any builder, when those that are asked know
no expression whose shape has one. -/
theorem isGround_of_built :
    (∀ (config : Config) (source : String),
      (∀ body ∈ recordedBodies config source,
        ∀ built, body.expansion = .built built → built.shape.IsGround) ∧
      ∀ compilation, (compile config source).1 = .ok compilation → ∀ body ∈ compilation.bodies,
        ∀ built, body.expansion = .built built → built.shape.IsGround) ∧
    ∀ (setting : Transform.Setting) (body : Block) (built : Transform.Built),
      (∀ context expr, (setting.services.typeOf context expr).IsGround) →
      (transform setting body).result = .built built → built.shape.IsGround := by
  refine ⟨fun config source => ⟨?_, ?_⟩, ?_⟩
  · intro body recorded built
    exact isGround_of_mem_recordedBodies recorded
  · intro compilation compiled body recorded built
    rw [bodies_of_compile compiled] at recorded
    exact isGround_of_mem_recordedBodies recorded
  · intro setting body built ground
    exact (Transform.Setting.keeps_isGround ground).of_transform

/-- A builder and a function whose results are generic, and a body that calls the function. -/
def genericSource : String :=
  "@resultBuilder struct B \x7b static func buildBlock<T>(_ t: T) -> W<T> \x7d; " ++
    "func g<U>() -> P<U>; @B func f() \x7b g() \x7d"

open BuilderCall in
/-- The parameter of the builder stands for the result of the call, that of the function for nothing
that is known. -/
theorem isGround_genericSource :
    (recordedBodies {} genericSource).map (·.expansion.shapeText?) = [some "W<P<_>>"] ∧
      (∀ body ∈ recordedBodies {} genericSource,
        ∀ built, body.expansion = .built built → built.shape.IsGround) ∧
      ∃ built, (transform versatileSetting mixedBody).result = .built built ∧ built.shape.IsGround := by
  obtain ⟨ofSources, ofTransforms⟩ := isGround_of_built
  exact ⟨by decide +kernel, (ofSources {} genericSource).1, _, rfl,
    ofTransforms versatileSetting mixedBody _ (fun _ _ => Shape.isGround_hole) rfl⟩

end ResultBuilder
