import ScreenEffects.Effect.Hosted
import ScreenEffects.Merge.Basic
import ScreenEffects.Trace.Device

/-!
# Traces of effects

How blend functions, effects, merged effects and programs are shown. Uniforms are shown with their
values in a store; a uniform of a merge also with its owner, the effect whose own handle it is.
-/

namespace ScreenEffects

open Json

instance : Traced Extension := ⟨fun e => trace e.name⟩

instance : Traced ExtensionSet := ⟨fun es => trace es.toList⟩

instance : Traced Attributes := ⟨fun a => trace a.bits⟩

instance : Traced BlendFunction where
  trace f := .record [
    ("id", trace f.id), ("name", trace f.name), ("display", trace f.name),
    ("symbol", trace f.symbol), ("hdrSafe", trace f.isHdrSafe), ("code", trace f.snippet?)]

/-- A table of uniforms with their values. -/
def UniformStore.trace (s : UniformStore) (m : UniformMap) : Document :=
  .list (m.entries.map fun (name, u) => .list [.text name, Traced.trace (s.get u)])

/-- An effect in a pass. -/
def Hosted.trace {H : Type} (h : Hosted H) (s : UniformStore) : Document :=
  let e := h.effect
  .record [
    ("name", Traced.trace e.name), ("fragment", Traced.trace e.fragment),
    ("vertex", Traced.trace e.vertex), ("defines", Traced.trace e.defines),
    ("uniforms", s.trace e.uniforms), ("extensions", Traced.trace e.extensions),
    ("attributes", Traced.trace e.attributes), ("blend", Traced.trace e.blend.function.name),
    ("opacity", Traced.trace (s.get e.blend.opacity).asFloat),
    ("hasHooks", Traced.trace h.hooks.isSome), ("dirty", Traced.trace h.dirty)]

/-- The handles of the effect at place `index`: its uniforms under their names, then its opacity. -/
def Effect.handles (e : Effect) (index : Nat) : List (Uniform × Nat × Option String) :=
  (e.uniforms.entries.map fun (name, u) => (u, index, some name)) ++
    [(e.blend.opacity, index, none)]

/-- The place of the first effect of a list that has a handle, and its name for it. -/
def ownerOf (effects : List Effect) (u : Uniform) : Option (Nat × Option String) :=
  (effects.mapIdx fun i e => e.handles i).flatten.lookup u

/-- What is known about the merge of a list of effects, its sources apart. -/
def Merged.facts (m : Merged) (effects : List Effect) (s : UniformStore) :
    List (String × Document) := [
  ("defines", trace m.defines),
  ("uniforms", .list (m.uniforms.entries.map fun (name, u) =>
    .list [.text name, trace (s.get u), trace (ownerOf effects u)])),
  ("extensions", trace m.extensions), ("attributes", trace m.attributes),
  ("blendFunctions", trace (m.blends.map BlendFunction.id)), ("uvTransformed", trace m.movesUv),
  ("readDepth", trace m.readsDepth), ("varyingCount", trace m.varyings),
  ("uniformCount", trace m.uniformCount), ("activeEffects", trace m.active),
  ("skipRendering", trace m.isIdle), ("needsSwap", trace m.needsSwap),
  ("needsDepthTexture", trace m.needsDepthTexture)]

/-- A program, with its sources if they are asked for. -/
def ShaderProgram.trace (p : ShaderProgram) (s : UniformStore) (sources : Bool) : Document :=
  .record (
    [("label", Traced.trace p.label), ("defines", Traced.trace p.defines),
      ("uniforms", s.trace p.uniforms), ("extensions", Traced.trace p.extensions)] ++
    if sources then
      [("fragment", Traced.trace p.fragmentSource), ("vertex", Traced.trace p.vertexSource)]
    else [])

end ScreenEffects
