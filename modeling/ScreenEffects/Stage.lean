import ScreenEffects.Device.Basic

/-!
# The stage

What passes and effects work on: the device, the uniforms, and a state `ω` of the host, which hooks
and passes from outside the library share. What happens between frames, such as a change of size,
touches the uniforms and the host alone; drawing touches the device too.
-/

namespace ScreenEffects

/-- What is shared apart from the device. -/
structure Shared (ω : Type) where
  uniforms : UniformStore := {}
  host : ω

/-- All that a pass works on. -/
structure Stage (ω : Type) extends Shared ω where
  device : Device

namespace Stage

variable {ω α : Type}

/-- The stage with its shared part replaced. -/
def withShared (s : Stage ω) (t : Shared ω) : Stage ω := { s with toShared := t }

/-- The stage after a call of the device. -/
def mapDevice (f : Device → Device) : Stage ω → Stage ω
  | ⟨shared, device⟩ => ⟨shared, f device⟩

/-- The stage with the uniform `u` set to `v`. -/
def setUniform (u : Uniform) (v : UniformValue) (s : Stage ω) : Stage ω :=
  { s with uniforms := s.uniforms.set u v }

/-- A call of the device that may fail. -/
def onDevice (act : Act Device α) : Act (Stage ω) α
  | ⟨shared, device⟩ =>
    match act device with
    | .ok a device => .ok a ⟨shared, device⟩
    | .error e device => .error e ⟨shared, device⟩

/-- A call of the device that gives something back. -/
def withDevice (f : Device → α × Device) : Act (Stage ω) α
  | ⟨shared, device⟩ =>
    let (a, device) := f device
    .ok a ⟨shared, device⟩

/-- Draw a program over the target. -/
def drawScreen (geometry : Geometry) (program : ShaderProgram) : Act (Stage ω) Unit := fun s =>
  onDevice (Device.drawScreen geometry program s.uniforms) s

end Stage

/-- The shared state with the uniform `u` set to `v`. -/
def Shared.setUniform {ω : Type} (u : Uniform) (v : UniformValue) (s : Shared ω) : Shared ω :=
  { s with uniforms := s.uniforms.set u v }

end ScreenEffects
