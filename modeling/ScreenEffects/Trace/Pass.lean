import ScreenEffects.Pipeline.Basic
import ScreenEffects.Probe.Pass
import ScreenEffects.Trace.Effect

/-!
# Traces of passes and pipelines

How the settings and states of passes and pipelines are shown. Every pass has a name, a role and
flags; what else is shown depends on its kind.
-/

namespace ScreenEffects

open Json

instance : Traced PassFlags := ⟨fun f =>
  trace [f.enabled, f.needsSwap, f.needsDepth, f.toScreen, f.disposed]⟩

instance : Traced PassRole where
  trace
    | .regular => .text "regular"
    | .mask => .text "mask"
    | .clearMask => .text "clearMask"

instance : Traced Resolution where
  trace r := .record [
    ("size", trace r.size), ("base", trace (r.baseWidth, r.baseHeight)), ("scale", trace r.scale),
    ("generation", trace r.generation),
    ("preferred", trace (r.preferredWidth, r.preferredHeight))]

instance : Traced BudgetWarning where
  trace
    | .uniforms count max => .list [.text "uniforms", trace count, trace max]
    | .varyings count max => .list [.text "varyings", trace count, trace max]

instance : Traced EffectPassConfig where
  trace c := .record [
    ("dithering", trace c.dithering), ("minTime", trace c.minTime), ("maxTime", trace c.maxTime)]

instance : Traced PipelineConfig where
  trace c := .record [
    ("depthBuffer", trace c.depthBuffer), ("stencilBuffer", trace c.stencilBuffer),
    ("alpha", trace c.alpha), ("multisampling", trace c.multisampling),
    ("frameBufferType", trace c.precision), ("autoRenderToScreen", trace c.autoToScreen)]

variable {H : Type}

/-- What is shown of a pass of effects. -/
def EffectPass.facts (p : EffectPass H) (s : UniformStore) (sources : Bool) :
    List (String × Document) := [
  ("warnings", trace p.warnings), ("time", trace (p.time s)), ("dirty", trace p.isDirty),
  ("camera", trace p.camera), ("depthTexture", trace p.depthTexture), ("config", trace p.config),
  ("merge", .record (p.merged.facts (p.effects.map (·.effect)) s)),
  ("program", p.program.trace s sources),
  ("effects", trace (p.effects.map fun e => (e.effect.name, e.dirty)))]

/-- What is shown of a pass of the library, according to its kind. -/
def BuiltinPass.facts (p : BuiltinPass H) (s : UniformStore) (sources : Bool) :
    List (String × Document) :=
  match p with
  | .scene p => [("scene", trace p.scene), ("camera", trace p.camera)]
  | .depth p => [
    ("resolution", trace p.resolution), ("packing", trace p.packing), ("texture", trace p.texture),
    ("surface", trace p.surface)]
  | .effects p => p.facts s sources
  | .mask p => [("inverted", trace p.inverted)]
  | .blur p => [
    ("kernel", trace p.kernelSize.kernel), ("resolution", trace p.resolution),
    ("surfaces", trace p.surfaces)]
  | .save p => [("texture", trace p.texture), ("surface", trace p.surface)]
  | .shader p => [("program", p.program.trace s sources)]
  | .clear _ | .clearMask _ | .copy _ => []

/-- Everything that is shown of a pass. -/
def ProbedPass.trace (q : ProbedPass) (s : UniformStore) (sources : Bool) : Document :=
  .record ([("name", Traced.trace (Pass.name q)), ("role", Traced.trace (Pass.role q)),
    ("flags", Traced.trace (Pass.flags q))] ++
    match q with
    | .builtin p => p.facts s sources
    | .probe _ => [])

/-- The passes of a list by name, with their flags. -/
def tracePasses {P ω : Type} [Pass P ω] (qs : List P) : Document :=
  trace (qs.map fun q => (Pass.name q, Pass.flags q))

instance {P ω : Type} [Pass P ω] : Traced (Pipeline P) where
  trace p := .record [
    ("input", trace p.input), ("output", trace p.output), ("size", trace p.size),
    ("depthTexture", trace p.depthTexture), ("disposed", trace p.disposed),
    ("passes", tracePasses p.passes)]

end ScreenEffects
