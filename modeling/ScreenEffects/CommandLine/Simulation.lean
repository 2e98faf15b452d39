import ScreenEffects.Pass.Builtin
import ScreenEffects.Pipeline.Frame
import ScreenEffects.Settings.EffectDescriptor

/-!
# Simulations

A rehearsal of a pipeline: a scene is drawn, effects without hooks are laid over it, and after a
number of frames the summary says what was done. The pipeline is then disposed, and whatever surface
still lives has leaked.

* `simulate` is the whole; it fails only if the effects cannot be merged.
-/

namespace ScreenEffects

/-- There are no hooks. -/
instance : EffectHooks Empty Unit where

/-- What a simulation is told. -/
structure SimulationSettings where
  config : PipelineConfig := {}
  width : UInt32 := 800
  height : UInt32 := 600
  frames : Nat := 60
  framesPerSecond : Float32 := 60

/-- What came of a simulation. -/
structure SimulationSummary where
  rendered : Nat
  swaps : Nat
  commands : Nat
  screenDraws : Nat
  /-- The passes share a depth texture. -/
  sharesDepth : Bool
  leakedSurfaces : Nat
  deriving DecidableEq

namespace Simulation

/-- The passes of a simulation. -/
abbrev SimulatedPass := BuiltinPass Empty

/-- The pipeline of a simulation on its stage. -/
abbrev SimulatedState := Pipeline SimulatedPass × Stage Unit

/-- The seconds of a frame; there is at least one frame in a second. -/
def frameSeconds (s : SimulationSettings) : Float32 := 1 / largerNumber s.framesPerSecond 1

/-- Effects with uniforms of their own. -/
def createEffects : List EffectDescriptor → UniformStore → List (Hosted Empty) × UniformStore
  | [], s => ([], s)
  | d :: ds, s =>
    let (effect, s) := d.toEffect s
    let (effects, s) := createEffects ds s
    ({ effect } :: effects, s)

/-- Add a pass at the end of the list. -/
def join (q : SimulatedPass) : Act SimulatedState Unit := fun (p, s) =>
  match p.add q none s with
  | ⟨p, s, none⟩ => .ok () (p, s)
  | ⟨p, s, some (e, _)⟩ => .error e (p, s)

/-- A pipeline without passes on a new device. -/
def start (settings : SimulationSettings) (uniforms : UniformStore) : SimulatedState :=
  Pipeline.create settings.config
    { uniforms, host := (), device := .ofSize settings.width settings.height }

/-- Make the pass of the effects. -/
def makeEffectPass (effects : List (Hosted Empty)) : Act SimulatedState (EffectPass Empty) :=
  fun (p, s) =>
    match EffectPass.create (some ⟨1⟩) effects {} s.uniforms with
    | .ok (q, uniforms) => .ok q (p, { s with uniforms })
    | .error e => .error e (p, s)

/-- Add the two passes: the scene and the effects over it. -/
def addPasses (effects : List (Hosted Empty)) : Act SimulatedState Unit := do
  join (.scene { scene := ⟨1⟩, camera := ⟨1⟩ })
  join (.effects (← makeEffectPass effects))

/-- Render `n` frames of the given seconds, and count the passes rendered and the swaps. -/
def renderFrames (delta : Float32) : (n rendered swaps : Nat) → Act SimulatedState (Nat × Nat)
  | 0, rendered, swaps => pure (rendered, swaps)
  | n + 1, rendered, swaps => do
    let r ← Pipeline.render (.seconds delta)
    renderFrames delta n (rendered + r.rendered) (swaps + r.swaps)

/-- The summary of all frames, with the pipeline disposed. -/
def close (rendered swaps : Nat) (t : SimulatedState) : SimulationSummary :=
  let (p, s) := t
  let (_, _, after) := p.dispose s
  { rendered, swaps
    commands := s.device.journal.size
    screenDraws := s.device.screenDraws.length
    sharesDepth := p.depthTexture.isSome
    leakedSurfaces := after.device.surfaces.size }

/-- Render all frames. -/
def run (settings : SimulationSettings) (effects : List (Hosted Empty)) :
    Act SimulatedState SimulationSummary := do
  addPasses effects
  let (rendered, swaps) ← renderFrames (frameSeconds settings) settings.frames 0 0
  return close rendered swaps (← get)

end Simulation

/-- Simulate frames with the described effects. -/
def simulate (settings : SimulationSettings) (descriptors : List EffectDescriptor) :
    Except Fault SimulationSummary :=
  let (effects, uniforms) := Simulation.createEffects descriptors {}
  match Simulation.run settings effects (Simulation.start settings uniforms) with
  | .ok summary _ => .ok summary
  | .error e _ => .error e

end ScreenEffects
