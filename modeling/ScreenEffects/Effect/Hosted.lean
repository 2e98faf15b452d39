import ScreenEffects.Effect.Basic
import ScreenEffects.Stage

/-!
# Hosted effects

An effect in a pass, with what it does from frame to frame. Work per frame is done by hooks, of any
type `H` that has the operations of `EffectHooks`; each of them may be left out. An edit that changes
the merged program marks the effect as dirty, and its pass merges anew before it draws again.

* `Hosted.prepare` calls the hook once in the life of an effect (`prepare_prepare`).
-/

namespace ScreenEffects

/-- What an effect does from frame to frame. `ω` is the state of the host. -/
class EffectHooks (H : Type) (ω : outParam Type) where
  /-- Called once, before anything else; `alpha` and the precision are those of the pipeline. -/
  prepare : H → (alpha : Bool) → Precision → Stage ω → H × Stage ω := fun h _ _ s => (h, s)
  /-- Called in each frame before the program is drawn, with the surface that holds the image, the
  seconds since the last frame and the effect's own uniforms. -/
  update : Surface → Float32 → UniformMap → Act (H × Stage ω) Unit := fun _ _ _ => pure ()
  setSize : H → (width height : UInt32) → Shared ω → H × Shared ω := fun h _ _ s => (h, s)
  setDepthTexture : H → Option Texture → DepthPacking → Shared ω → H × Shared ω :=
    fun h _ _ s => (h, s)
  dispose : H → Stage ω → H × Stage ω := fun h s => (h, s)

/-- An effect in a pass. -/
structure Hosted (H : Type) where
  effect : Effect
  hooks : Option H := none
  /-- An edit since the last merge changed what is merged. -/
  dirty : Bool := false
  prepared : Bool := false

namespace Hosted

variable {H ω : Type}

/-! ## Edits -/

/-- Change the effect, so that its pass must merge anew. -/
def edit (h : Hosted H) (f : Effect → Effect) : Hosted H :=
  { h with effect := f h.effect, dirty := true }

def setFragment (h : Hosted H) (source : String) : Hosted H :=
  h.edit ({ · with fragment := source })

def setVertex (h : Hosted H) (source : Option String) : Hosted H :=
  h.edit ({ · with vertex := source })

def setDefine (h : Hosted H) (name value : String) : Hosted H :=
  h.edit fun e => { e with defines := e.defines.insert name value }

/-- Take a macro out; the effect stays clean if there is none. -/
def removeDefine (h : Hosted H) (name : String) : Hosted H :=
  if h.effect.defines.contains name then
    h.edit fun e => { e with defines := e.defines.erase name }
  else h

def addUniform (h : Hosted H) (name : String) (u : Uniform) : Hosted H :=
  h.edit fun e => { e with uniforms := e.uniforms.insert name u }

/-- Take a uniform out; the effect stays clean if there is none. -/
def removeUniform (h : Hosted H) (name : String) : Hosted H :=
  if h.effect.uniforms.contains name then
    h.edit fun e => { e with uniforms := e.uniforms.erase name }
  else h

def setExtensions (h : Hosted H) (es : ExtensionSet) : Hosted H :=
  h.edit ({ · with extensions := es })

/-- Change the attributes; the effect stays clean if they are the same. -/
def setAttributes (h : Hosted H) (a : Attributes) : Hosted H :=
  if a = h.effect.attributes then h else h.edit ({ · with attributes := a })

/-- Change the blend function; the effect stays clean if it is the same. The opacity is kept. -/
def setBlendFunction (h : Hosted H) (f : BlendFunction) : Hosted H :=
  if f = h.effect.blend.function then h
  else h.edit fun e => { e with blend := { e.blend with function := f } }

def clearDirty (h : Hosted H) : Hosted H := { h with dirty := false }

/-! ## Hooks -/

variable [EffectHooks H ω]

/-- Prepare the hooks, once in the life of an effect. -/
def prepare (h : Hosted H) (alpha : Bool) (precision : Precision) (s : Stage ω) :
    Hosted H × Stage ω :=
  if h.prepared then (h, s)
  else
    match h.hooks with
    | none => ({ h with prepared := true }, s)
    | some k =>
      let (k, s) := EffectHooks.prepare k alpha precision s
      ({ h with hooks := some k, prepared := true }, s)

/-- Let the hooks do the work of a frame. -/
def update (input : Surface) (delta : Float32) : Act (Hosted H × Stage ω) Unit := fun (h, s) =>
  match h.hooks with
  | none => .ok () (h, s)
  | some k =>
    match EffectHooks.update input delta h.effect.uniforms (k, s) with
    | .ok () (k, s) => .ok () ({ h with hooks := some k }, s)
    | .error e (k, s) => .error e ({ h with hooks := some k }, s)

def setSize (h : Hosted H) (width height : UInt32) (s : Shared ω) : Hosted H × Shared ω :=
  match h.hooks with
  | none => (h, s)
  | some k =>
    let (k, s) := EffectHooks.setSize k width height s
    ({ h with hooks := some k }, s)

def setDepthTexture (h : Hosted H) (t : Option Texture) (packing : DepthPacking) (s : Shared ω) :
    Hosted H × Shared ω :=
  match h.hooks with
  | none => (h, s)
  | some k =>
    let (k, s) := EffectHooks.setDepthTexture k t packing s
    ({ h with hooks := some k }, s)

def dispose (h : Hosted H) (s : Stage ω) : Hosted H × Stage ω :=
  match h.hooks with
  | none => (h, s)
  | some k =>
    let (k, s) := EffectHooks.dispose k s
    ({ h with hooks := some k }, s)

theorem prepare_prepare (h : Hosted H) (alpha : Bool) (precision : Precision) (s : Stage ω) :
    (h.prepare alpha precision s).1.prepare alpha precision (h.prepare alpha precision s).2 =
      h.prepare alpha precision s := by
  obtain ⟨e, k, d, p⟩ := h
  cases p <;> cases k <;> simp [prepare]

end Hosted

end ScreenEffects
