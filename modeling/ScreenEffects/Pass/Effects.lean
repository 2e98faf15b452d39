import ScreenEffects.Effect.Hosted
import ScreenEffects.Merge.Basic
import ScreenEffects.Pass.Screen

/-!
# The pass of merged effects

An `EffectPass` draws a list of effects as one merged program. It keeps the list, the merge of it and
the program made from that merge; the program also has the uniforms and macros that every merged
program reads, which belong to the pass.

A change of the list is merged at once, an edit of one effect before the next frame. A change that
cannot be merged is refused: the pass then stays what it was. Effects that come later are told the
size and the depth texture before their first frame (`syncEffects`).

* `install` is the only way in which a merge becomes the program of the pass.
* `recompile` merges anew if an edit asks for it.
-/

namespace ScreenEffects

/-- Settings of an effect pass: dithering, and the bounds between which the seconds of a frame are
kept. -/
structure EffectPassConfig where
  dithering : Bool := false
  minTime : Float32 := 1 / 1000
  maxTime : Float32 := 1

/-- The seconds of a frame, kept between the bounds; the upper one counts if they are crossed. -/
def EffectPassConfig.clampDelta (c : EffectPassConfig) (delta : Float32) : Float32 :=
  smallerNumber (largerNumber delta c.minTime) c.maxTime

/-- A limit of the device that a merged program exceeds. It is drawn all the same. -/
inductive BudgetWarning
  | uniforms (count max : Nat)
  | varyings (count max : Nat)
  deriving DecidableEq

/-- The limits that a merged program exceeds. -/
def budgetWarnings (m : Merged) (limits : Limits) : List BudgetWarning :=
  (if m.uniformCount > limits.fragmentUniforms then
    [.uniforms m.uniformCount limits.fragmentUniforms] else []) ++
  (if m.varyings > limits.varyings then [.varyings m.varyings limits.varyings] else [])

/-! ## Uniforms of every merged program -/

/-- The uniforms that every merged program reads. -/
structure RuntimeUniforms where
  inputBuffer : Uniform
  depthBuffer : Uniform
  resolution : Uniform
  texelSize : Uniform
  cameraNear : Uniform
  cameraFar : Uniform
  aspect : Uniform
  time : Uniform

namespace RuntimeUniforms

def create (s : UniformStore) : RuntimeUniforms × UniformStore :=
  let (inputBuffer, s) := s.alloc (.texture none)
  let (depthBuffer, s) := s.alloc (.texture none)
  let (resolution, s) := s.alloc (.vec2 (.replicate 2 1))
  let (texelSize, s) := s.alloc (.vec2 (.replicate 2 1))
  let (cameraNear, s) := s.alloc (.float 0.3)
  let (cameraFar, s) := s.alloc (.float 1000)
  let (aspect, s) := s.alloc (.float 1)
  let (time, s) := s.alloc (.float 0)
  (⟨inputBuffer, depthBuffer, resolution, texelSize, cameraNear, cameraFar, aspect, time⟩, s)

/-- The uniforms under their names. -/
def table (r : RuntimeUniforms) : UniformMap := .ofList [
  ("inputBuffer", r.inputBuffer), ("depthBuffer", r.depthBuffer), ("resolution", r.resolution),
  ("texelSize", r.texelSize), ("cameraNear", r.cameraNear), ("cameraFar", r.cameraFar),
  ("aspect", r.aspect), ("time", r.time)]

end RuntimeUniforms

/-! ## The pass -/

/-- Draws a list of effects as one program. -/
structure EffectPass (H : Type) where
  name : String
  flags : PassFlags := {}
  config : EffectPassConfig
  effects : List (Hosted H)
  camera : Option Camera
  program : ShaderProgram := {}
  merged : Merged
  runtime : RuntimeUniforms
  depthTexture : Option Texture := none
  packing : DepthPacking := .basic
  precision : Precision := .byte
  /-- The limits of the device, once the pass is set up. -/
  limits : Option Limits := none
  warnings : List BudgetWarning := []
  geometry : Option Geometry := none
  alpha : Bool := true
  size : Option (UInt32 × UInt32) := none
  /-- A merge was asked for. -/
  stale : Bool := false
  /-- Some effects may not know the size and the depth texture yet. -/
  needsSync : Bool := false
  isSetUp : Bool := false

/-- The merge of hosted effects. -/
def mergeHosted {H : Type} (effects : List (Hosted H)) : Except Fault Merged :=
  match merge (effects.map (·.effect)) with
  | .ok m => .ok m
  | .error f => .error (.merge f)

namespace EffectPass

variable {H ω : Type}

/-- The macros of the program: those of the pass, then those of the merge. -/
def defines (p : EffectPass H) : DefineMap :=
  (OrderedMap.ofList (
    [("DEPTH_PACKING", toString p.packing.code)] ++
    (if p.config.dithering then [("DITHERING", "1")] else []) ++
    (if p.precision = .half then [highPrecisionMacro] else []))).extend p.merged.defines

/-- The pass with the macros of its program made anew. -/
def refreshDefines (p : EffectPass H) : EffectPass H :=
  { p with program := { p.program with defines := p.defines } }

/-- The pass with the limits checked anew. -/
def refreshWarnings (p : EffectPass H) : EffectPass H :=
  { p with warnings := (p.limits.map (budgetWarnings p.merged)).getD [] }

/-- The pass with its merge as its program. -/
def install (p : EffectPass H) : EffectPass H :=
  { p with
    program := {
      label := p.name
      vertex := p.merged.vertex
      fragment := p.merged.fragment
      defines := p.defines
      uniforms := p.runtime.table.extend p.merged.uniforms
      extensions := p.merged.extensions }
    flags := { p.flags with
      needsSwap := p.merged.needsSwap
      needsDepth := p.merged.needsDepthTexture } }.refreshWarnings

/-- The pass with a new list of effects and its merge. -/
def withMerge (p : EffectPass H) (effects : List (Hosted H)) (m : Merged) : EffectPass H :=
  { { p with effects, merged := m }.install with
    effects := effects.map (·.clearDirty)
    stale := false
    needsSync := p.isSetUp }

/-- The name of a pass for a list of effects. -/
def nameOf (effects : List (Hosted H)) : String :=
  if effects.isEmpty then "EffectPass"
  else "EffectPass(" ++ ", ".intercalate (effects.map (·.effect.name)) ++ ")"

/-- A pass for a list of effects, which are merged right away. -/
def create (camera : Option Camera) (effects : List (Hosted H)) (config : EffectPassConfig)
    (s : UniformStore) : Except Fault (EffectPass H × UniformStore) :=
  match mergeHosted effects with
  | .error e => .error e
  | .ok merged =>
    let (runtime, s) := RuntimeUniforms.create s
    let p : EffectPass H := { name := nameOf effects, config, effects, camera, merged, runtime }
    .ok ({ p.install with effects := effects.map (·.clearDirty) }, s)

/-! ## Changes -/

def setDithering (p : EffectPass H) (dithering : Bool) : EffectPass H :=
  if dithering = p.config.dithering then p
  else { p with config := { p.config with dithering } }.refreshDefines

/-- Change the list of effects, if the new list can be merged. -/
def changeEffects (effects : List (Hosted H)) : Act (EffectPass H) Unit := fun p =>
  match mergeHosted effects with
  | .ok m => .ok () (p.withMerge effects m)
  | .error e => .error e p

/-- Replace the list of effects. The effects replaced are given back as they are. -/
def setEffects (effects : List (Hosted H)) : Act (EffectPass H) (List (Hosted H)) := do
  let old := (← get).effects
  changeEffects effects
  return old

/-- Change the list in place and merge it. If it cannot be merged, the change is undone. -/
def changeInPlace (change undo : List (Hosted H) → List (Hosted H)) :
    Act (EffectPass H) Unit := do
  modify fun p => { p with effects := change p.effects }
  let p ← get
  (changeEffects p.effects).onFailure fun p => { p with effects := undo p.effects }

/-- Append an effect. -/
def addEffect (effect : Hosted H) : Act (EffectPass H) Unit :=
  changeInPlace (· ++ [effect]) (·.dropLast)

/-- Take an effect out and give it back. -/
def removeEffect (index : Nat) : Act (EffectPass H) (Hosted H) := do
  let effects := (← get).effects
  match effects[index]? with
  | none => throw (.noSuchPlace index effects.length)
  | some removed =>
    changeInPlace (·.eraseIdx index) (·.insertIdx index removed)
    return removed

/-- Edit an effect in place; the pass merges anew before its next frame, if the edit asks for it. -/
def editEffect (p : EffectPass H) (index : Nat) (f : Hosted H → Hosted H) : EffectPass H :=
  { p with effects := p.effects.modify index f }

/-- The next frame begins with a merge. -/
def isDirty (p : EffectPass H) : Bool := p.stale || p.effects.any (·.dirty)

def markDirty (p : EffectPass H) : EffectPass H := { p with stale := true }

/-- Merge anew, if something changed. -/
def recompile : Act (EffectPass H) Unit := do
  let p ← get
  if p.isDirty then changeEffects p.effects

/-- The seconds of all frames so far. -/
def time (p : EffectPass H) (s : UniformStore) : Float32 := (s.get p.runtime.time).asFloat

/-! ## Life in a pipeline -/

variable [EffectHooks H ω]

/-- Call `f` for each effect in order. -/
def forEffects {σ : Type} (f : Hosted H → σ → Hosted H × σ) (p : EffectPass H) (s : σ) :
    EffectPass H × σ :=
  let (effects, s) := threadList f p.effects s
  ({ p with effects }, s)

def setUp (setup : PassSetup) (p : EffectPass H) (s : Stage ω) : EffectPass H × Stage ω :=
  let p := { p with
    geometry := some setup.geometry
    alpha := setup.alpha
    precision := setup.precision
    limits := some s.device.limits }
  let (p, s) := p.forEffects (fun e s => e.prepare setup.alpha setup.precision s) s
  ({ p.refreshDefines.refreshWarnings with isSetUp := true }, s)

/-- Set the uniforms that depend on the size. -/
def bindSize (r : RuntimeUniforms) (width height : UInt32) (s : Shared ω) : Shared ω :=
  let w := (max 1 width).toFloat32
  let h := (max 1 height).toFloat32
  ((s.setUniform r.resolution (.vec2 #v[w, h])).setUniform r.texelSize
    (.vec2 #v[1 / w, 1 / h])).setUniform r.aspect (.float (w / h))

def setSize (width height : UInt32) (p : EffectPass H) (s : Shared ω) : EffectPass H × Shared ω :=
  let p := { p with size := some (width, height) }
  p.forEffects (fun e s => e.setSize width height s) (bindSize p.runtime width height s)

def setDepthTexture (texture : Option Texture) (packing : DepthPacking) (p : EffectPass H)
    (s : Shared ω) : EffectPass H × Shared ω :=
  let p := { p with depthTexture := texture, packing }
  let (p, s) := p.forEffects (fun e s => e.setDepthTexture texture packing s)
    (s.setUniform p.runtime.depthBuffer (.texture texture))
  (p.refreshDefines, s)

/-- Bring one effect up to date. -/
def syncEffect (p : EffectPass H) (e : Hosted H) (s : Stage ω) : Hosted H × Stage ω :=
  let (e, s) := e.prepare p.alpha p.precision s
  let (e, shared) :=
    match p.size with
    | some (width, height) => e.setSize width height s.toShared
    | none => (e, s.toShared)
  let (e, shared) := e.setDepthTexture p.depthTexture p.packing shared
  (e, s.withShared shared)

/-- Bring the effects up to date, if some may have come late. -/
def syncEffects (p : EffectPass H) (s : Stage ω) : EffectPass H × Stage ω :=
  if p.needsSync then
    let (q, s) := p.forEffects p.syncEffect s
    ({ q with needsSync := false }, s)
  else (p, s)

/-- Set the uniforms that depend on the frame. -/
def bindFrame (p : EffectPass H) (input : Surface) (delta : Float32) (s : Stage ω) : Stage ω :=
  let s := s.setUniform p.runtime.inputBuffer (.texture (some input.color))
  let s := s.setUniform p.runtime.time (.float (p.time s.uniforms + delta))
  match p.camera with
  | none => s
  | some camera =>
    let (near, far) := s.device.clipRange camera
    (s.setUniform p.runtime.cameraNear (.float near)).setUniform p.runtime.cameraFar (.float far)

/-- Let the effects do the work of the frame, in order, up to the first that fails. -/
def updateEffects (input : Surface) (delta : Float32) : Act (EffectPass H × Stage ω) Unit :=
  (Act.forEach (Hosted.update input delta)).within (·.effects) ({ · with effects := · })

/-- Draw the program. Without active effects it is a plain copy, which is needed on the screen
only. -/
def drawProgram (p : EffectPass H) (output : Surface) : Act (Stage ω) Unit :=
  if p.merged.isIdle && !p.flags.toScreen then pure ()
  else
    match p.geometry with
    | none => throw (.setting (.notSetUp ("'" ++ p.name ++ "'")))
    | some geometry => do
      modify (·.mapDevice (·.bind output p.flags.toScreen))
      Stage.drawScreen geometry p.program

def render (input output : Surface) (delta : Float32) : Act (EffectPass H × Stage ω) Unit := do
  Act.onFirst recompile
  modify fun (p, s) => p.syncEffects s
  let delta := (← get).1.config.clampDelta delta
  modify fun (p, s) => (p, p.bindFrame input delta s)
  updateEffects input delta
  let (p, _) ← get
  Act.onSecond (p.drawProgram output)

def dispose (p : EffectPass H) (s : Stage ω) : EffectPass H × Stage ω :=
  let (p, s) := p.forEffects (fun e s => e.dispose s) s
  ({ p with flags := { p.flags with disposed := true } }, s)

end EffectPass

end ScreenEffects
