/-!
# Handles

The numbers by which a program speaks of what a device holds. A handle is only a name: whether
something still lives behind it is the device's affair (`Device/Basic.lean`). Each kind of handle
is a type of its own, so that a scene is never taken for a camera.
-/

namespace ScreenEffects

/-- A texture of the device. -/
structure Texture where
  id : Nat
  deriving DecidableEq, Inhabited

/-- A render target of the device. -/
structure SurfaceId where
  id : Nat
  deriving DecidableEq, Inhabited

/-- A scene the device can draw. -/
structure Scene where
  id : Nat
  deriving DecidableEq, Inhabited

/-- A camera a scene is seen through. -/
structure Camera where
  id : Nat
  deriving DecidableEq, Inhabited

/-- A mesh of the device; the only one used is a triangle that covers the screen. -/
structure Geometry where
  id : Nat
  deriving DecidableEq, Inhabited

/-- An object of a scene, as the layer masks know it. -/
structure SceneObject where
  id : Nat
  deriving DecidableEq, Inhabited

end ScreenEffects
