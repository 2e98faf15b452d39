import ScreenEffects.Glsl.Template
import ScreenEffects.Pass.Basic

/-!
# Passes that draw programs over the screen

* `ShaderPass` draws any program, with the current image bound to one of its uniforms.
* `CopyPass` draws the current image as it is, scaled by an opacity.
* `SavePass` copies the current image into a surface of its own, where later passes can read it.
-/

namespace ScreenEffects

/-- The macro that a program gets when the pipeline has half-float buffers. -/
def highPrecisionMacro : String × String := ("FRAMEBUFFER_PRECISION_HIGH", "1")

/-- The program with the macro for the precision of the pipeline. -/
def ShaderProgram.forPrecision (p : ShaderProgram) (precision : Precision) : ShaderProgram :=
  match precision with
  | .half =>
    { p with defines := p.defines.insert highPrecisionMacro.1 highPrecisionMacro.2 }
  | .byte => p

/-! ## Any program -/

/-- Draws a program over the screen. -/
structure ShaderPass where
  name : String
  flags : PassFlags := {}
  program : ShaderProgram
  /-- The uniform that the current image is bound to, if the program has it. -/
  inputName : String
  geometry : Option Geometry := none

namespace ShaderPass

/-- A pass for a program, by whose label it is called. -/
def create (program : ShaderProgram) (inputName : String) : ShaderPass where
  name := if program.label.isEmpty then "ShaderPass" else program.label
  program := program
  inputName := inputName

def setUp (p : ShaderPass) (setup : PassSetup) : ShaderPass :=
  { p with geometry := some setup.geometry, program := p.program.forPrecision setup.precision }

variable {ω : Type}

/-- Bind the current image to the program. -/
def bindInput (p : ShaderPass) (input : Surface) (s : Stage ω) : Stage ω :=
  match p.program.uniforms.get? p.inputName with
  | some u => s.setUniform u (.texture (some input.color))
  | none => s

/-- Draw the image of `input` into `target`, or to the screen. -/
def draw (p : ShaderPass) (input target : Surface) (toScreen : Bool) : Act (Stage ω) Unit :=
  match p.geometry with
  | none => throw (.setting (.notSetUp ("'" ++ p.name ++ "'")))
  | some geometry => do
    modify (p.bindInput input)
    modify (·.mapDevice (·.bind target toScreen))
    Stage.drawScreen geometry p.program

def render (p : ShaderPass) (input output : Surface) : Act (Stage ω) Unit :=
  p.draw input output p.flags.toScreen

end ShaderPass

/-! ## Copies -/

/-- Draws the current image as it is. -/
structure CopyPass where
  shader : ShaderPass
  opacity : Uniform

namespace CopyPass

/-- A copy with uniforms of its own. -/
def create (s : UniformStore) : CopyPass × UniformStore :=
  let (opacity, s) := s.alloc (.float 1)
  let (input, s) := s.alloc (.texture none)
  let program : ShaderProgram := {
    label := "CopyPass"
    vertex := Glsl.screenVertex
    fragment := Glsl.copyFragment
    uniforms := .ofList [("inputBuffer", input), ("opacity", opacity)] }
  (⟨.create program "inputBuffer", opacity⟩, s)

def flags (p : CopyPass) : PassFlags := p.shader.flags

def withFlags (p : CopyPass) (flags : PassFlags) : CopyPass :=
  { p with shader := { p.shader with flags } }

def setUp (p : CopyPass) (setup : PassSetup) : CopyPass :=
  { p with shader := p.shader.setUp setup }

/-- Scale what is copied. -/
def setOpacity (p : CopyPass) (opacity : Float32) (s : UniformStore) : UniformStore :=
  s.set p.opacity (.float opacity)

end CopyPass

/-! ## Saved images -/

/-- Copies the current image into a surface of its own. -/
structure SavePass where
  copy : CopyPass
  surface : Option Surface := none
  /-- The surface keeps the size it was made with. -/
  fixed : Bool := false

namespace SavePass

/-- A save with uniforms of its own. -/
def create (fixed : Bool) (s : UniformStore) : SavePass × UniformStore :=
  let (copy, s) := CopyPass.create s
  ({ copy := copy.withFlags .withoutSwap, fixed }, s)

/-- The texture of the saved image. -/
def texture (p : SavePass) : Option Texture := p.surface.map (·.color)

def setUp (p : SavePass) (setup : PassSetup) (d : Device) : SavePass × Device :=
  let p := { p with copy := p.copy.setUp setup }
  match p.surface with
  | some _ => (p, d)
  | none =>
    let (t, d) := d.createSurface (.ofSize "SavePass.target" setup.width setup.height)
    ({ p with surface := some t }, d)

variable {ω : Type}

def setSize (width height : UInt32) : Act (SavePass × Stage ω) Unit := fun (p, s) =>
  if p.fixed then .ok () (p, s)
  else
    Act.within (·.surface) ({ · with surface := · })
      (resizeOptional width height) (p, s)

/-- Save the image. The surface has no stencil buffer, so the mask is lifted for the copy. -/
def render (p : SavePass) (input : Surface) (masked : Bool) : Act (Stage ω) Unit :=
  match p.surface with
  | none => throw (.setting (.notSetUp "SavePass"))
  | some t =>
    let copy : Act (Stage ω) Unit := p.copy.shader.draw input t false
    if masked then do
      modify (·.mapDevice (·.setStencil .disabled))
      copy.ensuring (·.mapDevice (·.setStencil .insideMask))
    else copy

def dispose (p : SavePass) (d : Device) : SavePass × Device :=
  ({ p with surface := none, copy := p.copy.withFlags { p.copy.flags with disposed := true } },
    disposeOptional p.surface d)

end SavePass

end ScreenEffects
