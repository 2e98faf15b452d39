import ScreenEffects.Pass.Basic

/-!
# Stencil masks

A `MaskPass` draws the outline of a scene into the stencil buffer of both surfaces, or of the screen,
with colour and depth closed to writes; from then on drawing is confined to the outline. A
`ClearMaskPass` ends that. Whatever happens while the outline is drawn, colour and depth are open
again afterwards.
-/

namespace ScreenEffects

/-- Confines what follows to the outline of a scene, or to what lies outside of it. -/
structure MaskPass where
  flags : PassFlags := .withoutSwap
  scene : Scene
  camera : Camera
  /-- The mask is what lies outside of the outline. -/
  inverted : Bool := false
  /-- The stencil buffer is cleared before the outline is drawn. -/
  clears : Bool := true

namespace MaskPass

/-- The stencil value of the outline. -/
def drawnValue (p : MaskPass) : UInt32 := if p.inverted then 0 else maskValue

/-- Draw the outline into the target, over the opposite value. -/
def fill (p : MaskPass) : Act Device Unit := do
  if p.clears then
    modify (·.clear { stencil := true } { stencil := maskValue - p.drawnValue })
  Device.drawScene p.scene p.camera none

/-- Draw the outline wherever it is needed. -/
def fills (p : MaskPass) (input output : Surface) : Act Device Unit := do
  if p.flags.toScreen then
    modify (·.setTarget none)
    p.fill
  else
    modify (·.setTarget (some input.id))
    p.fill
    modify (·.setTarget (some output.id))
    p.fill

def render (p : MaskPass) (input output : Surface) : Act Device Unit := do
  modify (·.setWriteMask .none)
  modify (·.setStencil (.write p.drawnValue))
  (p.fills input output).ensuring fun d => (d.setWriteMask .all).setStencil .insideMask

end MaskPass

/-- Ends the confinement to a mask. -/
structure ClearMaskPass where
  flags : PassFlags := .withoutSwap

def ClearMaskPass.render (d : Device) : Device := d.setStencil .disabled

end ScreenEffects
