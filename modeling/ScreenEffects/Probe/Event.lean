import ScreenEffects.Device.Surface

/-!
# Probe events

What probes note when they are called. A probe does no work of its own: it shows what a pipeline and
its passes do to those they host.
-/

namespace ScreenEffects

/-- A call that a probe noted, with the tag or name of the probe. -/
inductive ProbeEvent
  | hooksPrepared (tag : String) (alpha : Bool) (precision : Precision)
  | hooksUpdated (tag : String) (input : SurfaceId) (delta : Float32) (uniforms : List String)
  | hooksSized (tag : String) (width height : UInt32)
  | hooksGivenDepth (tag : String) (texture : Option Texture) (packing : DepthPacking)
  | hooksDisposed (tag : String)
  | passSetUp (name : String) (alpha : Bool) (precision : Precision) (geometry : Geometry)
      (width height : UInt32)
  | passSized (name : String) (width height : UInt32)
  | passGivenDepth (name : String) (texture : Option Texture) (packing : DepthPacking)
  | passGivenScene (name : String) (scene : Scene)
  | passGivenCamera (name : String) (camera : Camera)
  | passRendered (name : String) (input output : SurfaceId) (delta : Float32)
      (masked toScreen : Bool) (depth : Option Texture)

/-- The events so far, in order. -/
abbrev ProbeLog := Array ProbeEvent

end ScreenEffects
