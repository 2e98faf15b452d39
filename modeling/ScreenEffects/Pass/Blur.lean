import ScreenEffects.Glsl.Template
import ScreenEffects.Pass.Screen
import ScreenEffects.Resolution

/-!
# Kawase blur

A blur by several draws, each sampling the result of the one before at some distance. The draws go
back and forth between two surfaces of a resolution of their own; the last one goes to the output.

* `BlurPass.steps` performs one draw for each distance of the kernel.
-/

namespace ScreenEffects

/-- The strength of a blur. -/
inductive KernelSize
  | verySmall
  | small
  | medium
  | large
  | veryLarge
  | huge
  deriving DecidableEq

namespace KernelSize

instance : Inhabited KernelSize := ⟨.medium⟩

def all : List KernelSize := [verySmall, small, medium, large, veryLarge, huge]

def name : KernelSize → String
  | verySmall => "very-small"
  | small => "small"
  | medium => "medium"
  | large => "large"
  | veryLarge => "very-large"
  | huge => "huge"

/-- The distances of the samples in texels, one for each draw. -/
def kernel : KernelSize → List Float32
  | verySmall => [0, 0]
  | small => [0, 1, 1]
  | medium => [0, 1, 1, 2]
  | large => [0, 1, 2, 2, 3]
  | veryLarge => [0, 1, 2, 3, 4, 4, 5]
  | huge => [0, 1, 2, 3, 4, 5, 7, 8, 9, 10]

theorem kernel_ne_nil (k : KernelSize) : k.kernel ≠ [] := by cases k <;> simp [kernel]

end KernelSize

/-- Blurs the current image. -/
structure BlurPass where
  flags : PassFlags := {}
  kernelSize : KernelSize := .medium
  resolution : Resolution := .ofScale 0.5
  program : ShaderProgram
  inputBuffer : Uniform
  texelSize : Uniform
  kernel : Uniform
  /-- The two surfaces of the draws before the last. -/
  surfaces : Option (Surface × Surface) := none
  geometry : Option Geometry := none

namespace BlurPass

/-- A blur with uniforms of its own. -/
def create (kernelSize : KernelSize) (s : UniformStore) : BlurPass × UniformStore :=
  let (inputBuffer, s) := s.alloc (.texture none)
  let (texelSize, s) := s.alloc (.vec2 (.replicate 2 1))
  let (kernel, s) := s.alloc (.float 0)
  let program : ShaderProgram := {
    label := "KawaseBlurPass"
    vertex := Glsl.screenVertex
    fragment := Glsl.kawaseFragment
    uniforms := .ofList
      [("inputBuffer", inputBuffer), ("texelSize", texelSize), ("kernel", kernel)] }
  ({ kernelSize, program, inputBuffer, texelSize, kernel }, s)

def setUp (p : BlurPass) (setup : PassSetup) (d : Device) : BlurPass × Device :=
  let p := { p with
    geometry := some setup.geometry
    program := p.program.forPrecision setup.precision
    resolution := p.resolution.setBaseSize setup.width setup.height }
  match p.surfaces with
  | some _ => (p, d)
  | none =>
    let (w, h) := p.resolution.size
    let (a, d) := d.createSurface (.ofSize "KawaseBlurPass.a" w h)
    let (b, d) := d.createSurface (.ofSize "KawaseBlurPass.b" w h)
    ({ p with surfaces := some (a, b) }, d)

variable {ω : Type}

def setSize (width height : UInt32) : Act (BlurPass × Stage ω) Unit := do
  modify fun (p, s) => ({ p with resolution := p.resolution.setBaseSize width height }, s)
  let (p, _) ← get
  let (w, h) := p.resolution.size
  match p.surfaces with
  | none => pure ()
  | some (a, b) => do
    let a ← Act.onSecond (Stage.onDevice (Device.resizeSurface a w h))
    modify fun (p, s) => ({ p with surfaces := some (a, b) }, s)
    let b ← Act.onSecond (Stage.onDevice (Device.resizeSurface b w h))
    modify fun (p, s) => ({ p with surfaces := some (a, b) }, s)

/-- The size of a texel of a surface. -/
def texel (t : Surface) : UniformValue :=
  .vec2 #v[1 / t.width.toFloat32, 1 / t.height.toFloat32]

/-- One draw: the image of `source`, sampled at the distance `offset`, goes to `target`. -/
def step (p : BlurPass) (geometry : Geometry) (source : Surface) (offset : Float32)
    (target : Option SurfaceId) : Act (Stage ω) Unit := do
  modify (·.setUniform p.inputBuffer (.texture (some source.color)))
  modify (·.setUniform p.texelSize (texel source))
  modify (·.setUniform p.kernel (.float offset))
  modify (·.mapDevice (·.setTarget target))
  Stage.drawScreen geometry p.program

/-- The draws for a kernel. The image is in `source`; the next draw goes to `near`, the one after it
to `far`, and the last one to `final`. -/
def steps (p : BlurPass) (geometry : Geometry) (final : Option SurfaceId) :
    List Float32 → (source near far : Surface) → Act (Stage ω) Unit
  | [], _, _, _ => pure ()
  | [offset], source, _, _ => p.step geometry source offset final
  | offset :: offsets, source, near, far => do
    p.step geometry source offset (some near.id)
    p.steps geometry final offsets near far near

def render (p : BlurPass) (input output : Surface) : Act (Stage ω) Unit :=
  match p.geometry, p.surfaces with
  | some geometry, some (a, b) =>
    p.steps geometry (if p.flags.toScreen then none else some output.id)
      p.kernelSize.kernel input a b
  | _, _ => throw (.setting (.notSetUp "KawaseBlurPass"))

def dispose (p : BlurPass) (d : Device) : BlurPass × Device :=
  ({ p with surfaces := none, flags := { p.flags with disposed := true } },
    match p.surfaces with
    | some (a, b) => (d.disposeSurface a).disposeSurface b
    | none => d)

end BlurPass

end ScreenEffects
