import ScreenEffects.Device.DrawState
import ScreenEffects.Device.Surface

/-!
# Commands

The calls that a device records. A clear, a scene and a screen draw are recorded with the state they
were made in, so that a journal can be read without replaying it. A target `none` is the screen.
-/

namespace ScreenEffects

/-- One recorded call. -/
inductive Command
  | setSize (width height : UInt32)
  | createSurface (id : SurfaceId) (label : String) (width height : UInt32)
  | resizeSurface (id : SurfaceId) (width height : UInt32)
  | disposeSurface (id : SurfaceId)
  | createTexture (texture : Texture) (width height : UInt32)
  | disposeTexture (texture : Texture)
  | attachDepth (surface : SurfaceId) (texture : Option Texture)
  | setTarget (target : Option SurfaceId)
  | setStencil (stencil : Stencil)
  | setWriteMask (mask : WriteMask)
  | clear (target : Option SurfaceId) (flags : ClearFlags)
  /-- A scene was drawn; with `override`, every object showed its depth instead of its colours. -/
  | drawScene (target : Option SurfaceId) (scene : Scene) (camera : Camera)
      (override : Option DepthPacking) (stencil : Stencil) (mask : WriteMask)
  /-- A program was drawn over the screen, with so many bytes of uniforms. -/
  | drawScreen (target : Option SurfaceId) (label : String) (stencil : Stencil)
      (uniformBytes : Nat)
  deriving DecidableEq

/-- The command draws a program over the screen. -/
def Command.isScreenDraw : Command → Bool
  | .drawScreen .. => true
  | _ => false

end ScreenEffects
