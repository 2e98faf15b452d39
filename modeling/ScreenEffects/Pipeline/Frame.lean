import ScreenEffects.Pipeline.Basic

/-!
# Frames

A frame goes once through the list of passes. Disabled passes are passed over. What moves from pass
to pass is a `FrameState`: which surface holds the current image, whether drawing is confined to a
mask, and what has been counted. After a pass that moves the image the two surfaces exchange their
roles. Between a mask and its end, what lies outside of the mask is first copied along, so that it
is not lost.

* `FrameState.next` is what one pass does to the frame.
* `Pipeline.render` renders a whole frame.
-/

namespace ScreenEffects

/-- What is handed on from pass to pass. -/
structure FrameState where
  /-- Holds the current image. -/
  input : Surface
  output : Surface
  /-- Drawing is confined to a mask. -/
  masked : Bool := false
  rendered : Nat := 0
  swaps : Nat := 0

/-- Summary of a frame. -/
structure FrameReport where
  rendered : Nat
  swaps : Nat
  /-- The surface that holds the image, unless the last pass drew to the screen. -/
  final : SurfaceId
  deriving DecidableEq

namespace FrameState

variable {P ω : Type}

/-- The surfaces have exchanged their roles. -/
def swap (f : FrameState) : FrameState :=
  { f with input := f.output, output := f.input, swaps := f.swaps + 1 }

/-- The frame after a pass of the given role. -/
def afterRole (f : FrameState) : PassRole → FrameState
  | .regular => f
  | .mask => { f with masked := true }
  | .clearMask => { f with masked := false }

/-- Copy what lies outside of the mask to where a pass has drawn. -/
def copyOutside (f : FrameState) (copy : CopyPass) (toScreen : Bool) : Act (Stage ω) Unit := do
  modify (·.mapDevice (·.setStencil .outsideMask))
  copy.shader.draw f.input f.output toScreen
  modify (·.mapDevice (·.setStencil .insideMask))

/-- The frame after one more pass. The flags are read again once the pass is rendered, because
rendering may change them. -/
def next [Pass P ω] (copy : CopyPass) (delta : Float32) (f : FrameState) :
    Act (P × Stage ω) FrameState := do
  let (q, _) ← get
  if !(Pass.flags q).enabled then return f
  if (Pass.flags q).disposed then throw (.disposed (Pass.name q))
  Pass.render f.input f.output delta f.masked
  let (q, _) ← get
  let f := { f with rendered := f.rendered + 1 }
  let flags := Pass.flags q
  if !flags.needsSwap then return f.afterRole (Pass.role q)
  if f.masked then Act.onSecond (f.copyOutside copy flags.toScreen)
  return f.swap.afterRole (Pass.role q)

def report (f : FrameState) : FrameReport := ⟨f.rendered, f.swaps, f.input.id⟩

end FrameState

/-- The seconds of a frame: given, or to be read off the clock at a moment in nanoseconds. -/
inductive FrameDelta
  | seconds (delta : Float32)
  | clock (now : Nat)

namespace Pipeline

variable {P ω : Type} [Pass P ω]

/-- The seconds of the next frame. -/
def takeDelta : FrameDelta → Act (Pipeline P × Stage ω) Float32
  | .seconds delta => pure delta
  | .clock now => fun (p, s) =>
    let (delta, timer) := p.timer.tick now
    .ok delta ({ p with timer }, s)

/-- Render a frame. The need for depth and the pass for the screen are settled first, because an edit
may have changed them. -/
def render (delta : FrameDelta) : Act (Pipeline P × Stage ω) FrameReport := do
  checkAlive
  let delta ← takeDelta delta
  modify fun (p, s) => p.updateDepthTexture s
  modify fun (p, s) => (p.presentLast, s)
  let (p, _) ← get
  let f ← onPasses
    (Act.foldEach (FrameState.next p.copy delta) { input := p.input, output := p.output })
  return f.report

end Pipeline

end ScreenEffects
