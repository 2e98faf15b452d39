import ScreenEffects.Pass.Basic
import ScreenEffects.Resolution

/-!
# Passes that draw scenes

* `ClearPass` clears the current image.
* `ScenePass` draws a scene into the current image, as a rule the first pass of a pipeline.
* `DepthPass` draws the depth of a scene into a surface of its own.

None of them moves the current image.
-/

namespace ScreenEffects

/-! ## Clearing -/

/-- Clears the current image, or the screen. -/
structure ClearPass where
  flags : PassFlags := .withoutSwap
  clear : ClearFlags := { color := true, depth := true }
  values : ClearValues := {}

def ClearPass.render (p : ClearPass) (input : Surface) (d : Device) : Device :=
  (d.bind input p.flags.toScreen).clear p.clear p.values

/-! ## Scenes -/

/-- Draws a scene into the current image, or to the screen. -/
structure ScenePass where
  name : String := "RenderPass"
  flags : PassFlags := .withoutSwap
  scene : Scene
  camera : Camera
  /-- Draw the depth of objects instead of their colours. -/
  override : Option DepthPacking := none
  /-- Clear the target first, as this pass does. -/
  clearPass : ClearPass := {}
  clears : Bool := true

namespace ScenePass

/-- Draw into a target; `none` is the screen. -/
def renderInto (p : ScenePass) (target : Option SurfaceId) : Act Device Unit := do
  modify (·.setTarget target)
  if p.clears then modify (·.clear p.clearPass.clear p.clearPass.values)
  Device.drawScene p.scene p.camera p.override

def render (p : ScenePass) (input : Surface) : Act Device Unit :=
  p.renderInto (if p.flags.toScreen then none else some input.id)

end ScenePass

/-! ## Depth -/

/-- Draws the depth of a scene, packed into colours, into a surface that follows a resolution. -/
structure DepthPass where
  drawing : ScenePass
  packing : DepthPacking := .rgba
  resolution : Resolution := {}
  surface : Option Surface := none

namespace DepthPass

/-- A pass for a scene at a share of the full size. -/
def create (scene : Scene) (camera : Camera) (scale : Option Float32) : DepthPass where
  drawing := { name := "DepthPass", scene, camera, override := some .rgba }
  resolution := match scale with
    | some x => Resolution.setScale {} x
    | none => {}

/-- The texture that holds the depth. -/
def texture (p : DepthPass) : Option Texture := p.surface.map (·.color)

def setUp (p : DepthPass) (setup : PassSetup) (d : Device) : DepthPass × Device :=
  let p := { p with resolution := p.resolution.setBaseSize setup.width setup.height }
  match p.surface with
  | some _ => (p, d)
  | none =>
    let (t, d) := d.createSurface { SurfaceSpec.ofSize "DepthPass.target" p.resolution.width
      p.resolution.height with depthBuffer := true }
    ({ p with surface := some t }, d)

def setSize {ω : Type} (width height : UInt32) : Act (DepthPass × Stage ω) Unit := fun (p, s) =>
  let p := { p with resolution := p.resolution.setBaseSize width height }
  Act.within (·.surface) ({ · with surface := · })
    (resizeOptional p.resolution.width p.resolution.height) (p, s)

def render (p : DepthPass) : Act Device Unit :=
  if p.drawing.flags.toScreen then p.drawing.renderInto none
  else
    match p.surface with
    | some t => p.drawing.renderInto (some t.id)
    | none => throw (.setting (.notSetUp "DepthPass"))

def dispose (p : DepthPass) (d : Device) : DepthPass × Device :=
  ({ p with
      surface := none
      drawing := { p.drawing with flags := { p.drawing.flags with disposed := true } } },
    disposeOptional p.surface d)

end DepthPass

end ScreenEffects
