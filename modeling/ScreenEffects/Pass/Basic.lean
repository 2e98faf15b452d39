import ScreenEffects.Stage

/-!
# Passes

A pass takes the surface that holds the current image and may draw into the other surface, into the
screen or into surfaces of its own. Its flags say how the pipeline is to treat it; its role says
whether it opens or closes a stencil mask.

`Pass P ω` are the operations of a pass of type `P` on a stage whose host has the state `ω`. Name,
flags and rendering must be given; the others do nothing unless said otherwise.
-/

namespace ScreenEffects

/-- How the pipeline treats a pass. -/
structure PassFlags where
  /-- The pass takes part in frames. -/
  enabled : Bool := true
  /-- Rendering moves the current image to the other surface. -/
  needsSwap : Bool := true
  /-- The pass reads the shared depth texture. -/
  needsDepth : Bool := false
  /-- The pass draws to the screen. -/
  toScreen : Bool := false
  /-- The pass has given up its resources. -/
  disposed : Bool := false
  deriving DecidableEq

/-- The flags of a pass that leaves the current image where it is. -/
def PassFlags.withoutSwap : PassFlags := { needsSwap := false }

/-- What a pass does to the stencil mask. -/
inductive PassRole
  | regular
  /-- The passes after it are confined to a mask. -/
  | mask
  /-- The confinement ends. -/
  | clearMask
  deriving DecidableEq

/-- What a pass is told when it joins a pipeline. -/
structure PassSetup where
  alpha : Bool
  precision : Precision
  /-- The triangle over the screen, which belongs to the pipeline. -/
  geometry : Geometry
  width : UInt32
  height : UInt32

class Pass (P : Type) (ω : outParam Type) where
  name : P → String
  flags : P → PassFlags
  withFlags : P → PassFlags → P
  role : P → PassRole := fun _ => .regular
  /-- The pass joins a pipeline. -/
  setUp : PassSetup → Act (P × Stage ω) Unit := fun _ => pure ()
  /-- The pipeline has a new size. -/
  setSize : (width height : UInt32) → Act (P × Stage ω) Unit := fun _ _ => pure ()
  setDepthTexture : P → Option Texture → DepthPacking → Shared ω → P × Shared ω :=
    fun p _ _ s => (p, s)
  setMainScene : P → Scene → Shared ω → P × Shared ω := fun p _ s => (p, s)
  setMainCamera : P → Camera → Shared ω → P × Shared ω := fun p _ s => (p, s)
  /-- Render a frame. `input` holds the current image, `delta` are the seconds since the last frame,
  and `masked` says that drawing is confined to a stencil mask. -/
  render : (input output : Surface) → (delta : Float32) → (masked : Bool) → Act (P × Stage ω) Unit
  dispose : P → Stage ω → P × Stage ω := fun p s =>
    (withFlags p { flags p with disposed := true }, s)

/-- The stencil value of what lies inside a mask. -/
def maskValue : UInt32 := 1

/-- Drawing is confined to the inside of the mask. -/
def Stencil.insideMask : Stencil := .compare .equal maskValue

/-- Drawing is confined to the outside of the mask. -/
def Stencil.outsideMask : Stencil := .compare .notEqual maskValue

/-- A surface that a pass may have is given a new size. -/
def resizeOptional {ω : Type} (width height : UInt32) : Act (Option Surface × Stage ω) Unit
  | (none, s) => .ok () (none, s)
  | (some t, s) =>
    match Stage.onDevice (Device.resizeSurface t width height) s with
    | .ok t s => .ok () (some t, s)
    | .error e s => .error e (some t, s)

/-- A surface that a pass may have is given up. -/
def disposeOptional (t : Option Surface) (d : Device) : Device :=
  match t with
  | some t => d.disposeSurface t
  | none => d

end ScreenEffects
