import ScreenEffects.Effect.Hosted
import ScreenEffects.Probe.Event

/-!
# Probe hooks

Hooks that note every call. In each frame they may also add the seconds of the frame to one of the
effect's own uniforms, and then fail. Silent hooks leave every operation out.
-/

namespace ScreenEffects

inductive ProbeHooks
  | silent
  /-- Hooks that note their calls under a tag; `adds` is the uniform that grows by the seconds of
  each frame, `fails` the complaint with which each frame ends. -/
  | noting (tag : String) (adds fails : Option String)

namespace ProbeHooks

/-- Note an event of hooks that are not silent. -/
def note (h : ProbeHooks) (event : String → ProbeEvent) (log : ProbeLog) : ProbeLog :=
  match h with
  | silent => log
  | noting tag _ _ => log.push (event tag)

/-- Note an event in the shared state. -/
def noteShared (h : ProbeHooks) (event : String → ProbeEvent) (s : Shared ProbeLog) :
    Shared ProbeLog :=
  { s with host := h.note event s.host }

/-- Note an event on the stage. -/
def noteStage (h : ProbeHooks) (event : String → ProbeEvent) (s : Stage ProbeLog) :
    Stage ProbeLog :=
  { s with host := h.note event s.host }

/-- Add the seconds of a frame to a uniform of the effect. -/
def addSeconds (name : String) (delta : Float32) (uniforms : UniformMap) (s : Stage ProbeLog) :
    Stage ProbeLog :=
  match uniforms.get? name with
  | some u => s.setUniform u (.float ((s.uniforms.get u).asFloat + delta))
  | none => s

def update (input : Surface) (delta : Float32) (uniforms : UniformMap) :
    Act (ProbeHooks × Stage ProbeLog) Unit := do
  modify fun (h, s) => (h, h.noteStage (.hooksUpdated · input.id delta uniforms.keys) s)
  match (← get).1 with
  | silent => pure ()
  | noting _ adds fails => do
    if let some name := adds then
      modify fun (h, s) => (h, addSeconds name delta uniforms s)
    if let some complaint := fails then throw (.setting (.other complaint))

instance : EffectHooks ProbeHooks ProbeLog where
  prepare h alpha precision s := (h, h.noteStage (.hooksPrepared · alpha precision) s)
  update := update
  setSize h width height s := (h, h.noteShared (.hooksSized · width height) s)
  setDepthTexture h t packing s := (h, h.noteShared (.hooksGivenDepth · t packing) s)
  dispose h s := (h, h.noteStage .hooksDisposed s)

end ProbeHooks

end ScreenEffects
