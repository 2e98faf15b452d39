import ScreenEffects.Device.Handle

/-!
# Surfaces

A surface is a target with a colour texture, and perhaps a depth texture and buffers for depth and
stencil. A `Surface` is a description: exchanging two of them exchanges their roles and moves no
pixel. A side is at least one pixel long.
-/

namespace ScreenEffects

/-- How the depth of a scene is stored in a texture. -/
inductive DepthPacking
  | basic
  | rgba
  deriving DecidableEq, Inhabited

/-- The number by which shaders know a packing. -/
def DepthPacking.code : DepthPacking → Nat
  | .basic => 3200
  | .rgba => 3201

/-- The precision of a colour buffer. -/
inductive Precision
  | byte
  | half
  deriving DecidableEq, Inhabited

/-- A surface to be made. -/
structure SurfaceSpec where
  label : String
  width : UInt32
  height : UInt32
  depthBuffer : Bool := false
  stencilBuffer : Bool := false

/-- A plain surface of the given size. -/
def SurfaceSpec.ofSize (label : String) (width height : UInt32) : SurfaceSpec where
  label := label
  width := max 1 width
  height := max 1 height

/-- A surface there is. -/
structure Surface where
  id : SurfaceId
  label : String
  width : UInt32
  height : UInt32
  color : Texture
  depthTexture : Option Texture := none
  depthBuffer : Bool
  stencilBuffer : Bool
  deriving DecidableEq

/-- Width and height. -/
def Surface.size (s : Surface) : UInt32 × UInt32 := (s.width, s.height)

end ScreenEffects
