import ScreenEffects.Pass.Blur
import ScreenEffects.Pass.Effects
import ScreenEffects.Pass.Scene
import ScreenEffects.Pass.Stencil

/-!
# The passes of the library

The passes of the library as one type, with hooks of a type `H` in the effects, and their operations
as passes of a pipeline.
-/

namespace ScreenEffects

/-- A pass of the library. -/
inductive BuiltinPass (H : Type)
  | clear (p : ClearPass)
  | scene (p : ScenePass)
  | depth (p : DepthPass)
  | mask (p : MaskPass)
  | clearMask (p : ClearMaskPass)
  | shader (p : ShaderPass)
  | copy (p : CopyPass)
  | save (p : SavePass)
  | blur (p : BlurPass)
  | effects (p : EffectPass H)

namespace BuiltinPass

variable {H ω : Type}

def name : BuiltinPass H → String
  | clear _ => "ClearPass"
  | scene p => p.name
  | depth p => p.drawing.name
  | mask _ => "MaskPass"
  | clearMask _ => "ClearMaskPass"
  | shader p => p.name
  | copy p => p.shader.name
  | save _ => "SavePass"
  | blur _ => "KawaseBlurPass"
  | effects p => p.name

def flags : BuiltinPass H → PassFlags
  | clear p => p.flags
  | scene p => p.flags
  | depth p => p.drawing.flags
  | mask p => p.flags
  | clearMask p => p.flags
  | shader p => p.flags
  | copy p => p.flags
  | save p => p.copy.flags
  | blur p => p.flags
  | effects p => p.flags

def withFlags (p : BuiltinPass H) (flags : PassFlags) : BuiltinPass H :=
  match p with
  | clear p => clear { p with flags }
  | scene p => scene { p with flags }
  | depth p => depth { p with drawing := { p.drawing with flags } }
  | mask p => mask { p with flags }
  | clearMask p => clearMask { p with flags }
  | shader p => shader { p with flags }
  | copy p => copy (p.withFlags flags)
  | save p => save { p with copy := p.copy.withFlags flags }
  | blur p => blur { p with flags }
  | effects p => effects { p with flags }

def role : BuiltinPass H → PassRole
  | mask _ => .mask
  | clearMask _ => .clearMask
  | _ => .regular

/-- The pass marked as disposed. -/
def markDisposed (p : BuiltinPass H) : BuiltinPass H :=
  p.withFlags { p.flags with disposed := true }

variable [EffectHooks H ω]

/-- Set a pass up, which cannot fail. -/
def setUp (setup : PassSetup) (p : BuiltinPass H) (s : Stage ω) : BuiltinPass H × Stage ω :=
  match p with
  | depth p =>
    let (p, d) := p.setUp setup s.device
    (depth p, { s with device := d })
  | shader p => (shader (p.setUp setup), s)
  | copy p => (copy (p.setUp setup), s)
  | save p =>
    let (p, d) := p.setUp setup s.device
    (save p, { s with device := d })
  | blur p =>
    let (p, d) := p.setUp setup s.device
    (blur p, { s with device := d })
  | effects p =>
    let (p, s) := p.setUp setup s
    (effects p, s)
  | p => (p, s)

/-- Perform an act of one kind of pass, and wrap the pass up again. -/
def wrap {Q : Type} (mk : Q → BuiltinPass H) (p : Q) (s : Stage ω) (act : Act (Q × Stage ω) Unit) :
    EStateM.Result Fault (BuiltinPass H × Stage ω) Unit :=
  match act (p, s) with
  | .ok () (p, s) => .ok () (mk p, s)
  | .error e (p, s) => .error e (mk p, s)

def setSize (width height : UInt32) : Act (BuiltinPass H × Stage ω) Unit
  | (depth p, s) => wrap depth p s (DepthPass.setSize width height)
  | (save p, s) => wrap save p s (SavePass.setSize width height)
  | (blur p, s) => wrap blur p s (BlurPass.setSize width height)
  | (effects p, s) =>
    let (p, t) := p.setSize width height s.toShared
    .ok () (effects p, s.withShared t)
  | (p, s) => .ok () (p, s)

def setDepthTexture (p : BuiltinPass H) (texture : Option Texture) (packing : DepthPacking)
    (s : Shared ω) : BuiltinPass H × Shared ω :=
  match p with
  | effects p =>
    let (p, s) := p.setDepthTexture texture packing s
    (effects p, s)
  | p => (p, s)

def setMainScene (p : BuiltinPass H) (x : Scene) : BuiltinPass H :=
  match p with
  | scene p => scene { p with scene := x }
  | depth p => depth { p with drawing := { p.drawing with scene := x } }
  | p => p

def setMainCamera (p : BuiltinPass H) (x : Camera) : BuiltinPass H :=
  match p with
  | scene p => scene { p with camera := x }
  | depth p => depth { p with drawing := { p.drawing with camera := x } }
  | effects p => effects { p with camera := some x }
  | p => p

/-- Render a pass of the library. Only a pass of effects changes on the way. -/
def render (input output : Surface) (delta : Float32) (masked : Bool) :
    Act (BuiltinPass H × Stage ω) Unit
  | (effects p, s) => wrap effects p s (EffectPass.render input output delta)
  | (p, s) =>
    let act : Act (Stage ω) Unit :=
      match p with
      | clear p => modify (·.mapDevice (p.render input))
      | scene p => Stage.onDevice (p.render input)
      | depth p => Stage.onDevice p.render
      | mask p => Stage.onDevice (p.render input output)
      | clearMask _ => modify (·.mapDevice ClearMaskPass.render)
      | shader p => p.render input output
      | copy p => p.shader.render input output
      | save p => p.render input masked
      | blur p => p.render input output
      | effects _ => pure ()
    act.onSecond (p, s)

def dispose (p : BuiltinPass H) (s : Stage ω) : BuiltinPass H × Stage ω :=
  match p with
  | depth p =>
    let (p, d) := p.dispose s.device
    (depth p, { s with device := d })
  | save p =>
    let (p, d) := p.dispose s.device
    (save p, { s with device := d })
  | blur p =>
    let (p, d) := p.dispose s.device
    (blur p, { s with device := d })
  | effects p =>
    let (p, s) := p.dispose s
    (effects p, s)
  | p => (p.markDisposed, s)

instance : Pass (BuiltinPass H) ω where
  name := name
  flags := flags
  withFlags := withFlags
  role := role
  setUp setup := modify fun (p, s) => setUp setup p s
  setSize := setSize
  setDepthTexture := setDepthTexture
  setMainScene p x s := (p.setMainScene x, s)
  setMainCamera p x s := (p.setMainCamera x, s)
  render := render
  dispose := dispose

end BuiltinPass

end ScreenEffects
