import ScreenEffects.Pass.Basic
import ScreenEffects.Pass.Screen

/-!
# The pipeline

A pipeline owns two surfaces, the one that holds the current image (`input`) and the other (`output`),
the triangle over the screen, and, as long as some pass asks for it, a depth texture that all passes
share. It keeps a list of passes of any type with the operations of `Pass`.

What changes a pipeline is here: passes that come and go, a new size, a reset, the end. What happens
in a frame is in `Pipeline/Frame.lean`.

* `updateDepthTexture` makes the shared texture live exactly as long as some pass needs it.
* `presentLast` sends the last enabled pass to the screen.
-/

namespace ScreenEffects

/-- Settings of a pipeline. -/
structure PipelineConfig where
  depthBuffer : Bool := true
  stencilBuffer : Bool := false
  alpha : Bool := true
  multisampling : UInt32 := 0
  precision : Precision := .byte
  /-- The last enabled pass draws to the screen. -/
  autoToScreen : Bool := true

/-! ## Time -/

/-- The clock of a pipeline, in nanoseconds: the moment of the last frame, and the seconds of all
frames. -/
structure FrameTimer where
  last : Option Nat := none
  elapsed : Float32 := 0

namespace FrameTimer

/-- A span of nanoseconds in seconds: the whole seconds and the rest are rounded apart. -/
def seconds (span : Nat) : Float32 :=
  .ofNat (span / 1000000000) + .ofNat (span % 1000000000) / 1000000000

/-- The seconds since the last frame; the first frame takes none. -/
def tick (t : FrameTimer) (now : Nat) : Float32 × FrameTimer :=
  let delta := match t.last with
    | some last => seconds (now - last)
    | none => 0
  (delta, ⟨some now, t.elapsed + delta⟩)

def reset (_ : FrameTimer) : FrameTimer := {}

end FrameTimer

/-! ## The pipeline -/

structure Pipeline (P : Type) where
  config : PipelineConfig
  /-- Holds the current image. -/
  input : Surface
  output : Surface
  depthTexture : Option Texture := none
  geometry : Geometry
  /-- Carries what lies outside of a mask to the other surface. -/
  copy : CopyPass
  passes : List P := []
  timer : FrameTimer := {}
  disposed : Bool := false

namespace Pipeline

variable {P ω : Type}

/-- A surface for images. -/
def imageSpec (config : PipelineConfig) (label : String) (size : UInt32 × UInt32) : SurfaceSpec :=
  { SurfaceSpec.ofSize label size.1 size.2 with
    depthBuffer := config.depthBuffer, stencilBuffer := config.stencilBuffer }

/-- Make the two surfaces for images, at the size of the screen. -/
def createImages (config : PipelineConfig) (d : Device) : (Surface × Surface) × Device :=
  let size := d.drawingSize
  let (input, d) := d.createSurface (imageSpec config "composer.input" size)
  let (output, d) := d.createSurface (imageSpec config "composer.output" size)
  ((input, output), d)

/-- What passes are told when they join. -/
def setupFor (config : PipelineConfig) (geometry : Geometry) (size : UInt32 × UInt32) :
    PassSetup where
  alpha := config.alpha
  precision := config.precision
  geometry := geometry
  width := size.1
  height := size.2

/-- A pipeline without passes. -/
def create (config : PipelineConfig) (s : Stage ω) : Pipeline P × Stage ω :=
  let ((input, output), d) := createImages config s.device
  let (geometry, d) := d.createGeometry
  let (copy, uniforms) := CopyPass.create s.uniforms
  ({ config, input, output, geometry,
      copy := copy.setUp (setupFor config geometry input.size) },
    { s with device := d, uniforms })

/-- The size of the images. -/
def size (p : Pipeline P) : UInt32 × UInt32 := p.input.size

def setup (p : Pipeline P) : PassSetup := setupFor p.config p.geometry p.size

/-- Fail if the pipeline has come to its end. -/
def checkAlive : Act (Pipeline P × Stage ω) Unit := do
  if (← get).1.disposed then throw (.disposed "EffectComposer")

variable [Pass P ω]

/-! ## The screen -/

/-- A pass with its drawing sent to the screen, or kept from it. -/
def sendToScreen (q : P) (toScreen : Bool) : P :=
  Pass.withFlags q { Pass.flags q with toScreen }

/-- A list of passes of which the last enabled one draws to the screen, and no other. -/
def sendLastToScreen : List P → List P
  | [] => []
  | q :: qs =>
    sendToScreen q ((Pass.flags q).enabled && !qs.any fun r => (Pass.flags r).enabled) ::
      sendLastToScreen qs

/-- The pipeline with the last enabled pass sent to the screen, if that is its affair. -/
def presentLast (p : Pipeline P) : Pipeline P :=
  if p.config.autoToScreen then { p with passes := sendLastToScreen p.passes } else p

/-! ## The shared depth texture -/

/-- Some pass, enabled or not, needs the depth. -/
def needsDepth (p : Pipeline P) : Bool := p.passes.any fun q => (Pass.flags q).needsDepth

/-- Hand the depth texture, or its absence, to every pass. -/
def shareDepthTexture (p : Pipeline P) (t : Option Texture) (s : Stage ω) :
    Pipeline P × Stage ω :=
  let (passes, shared) :=
    threadList (fun q s => Pass.setDepthTexture q t .basic s) p.passes s.toShared
  ({ p with passes }, s.withShared shared)

/-- Make the depth texture, attach it to the image and hand it to every pass. -/
def createDepthTexture (p : Pipeline P) (s : Stage ω) : Pipeline P × Stage ω :=
  let (t, d) := s.device.createDepthTexture p.input.width p.input.height
  let (input, d) := d.attachDepth p.input (some t)
  let (p, s) := { p with input }.shareDepthTexture (some t) { s with device := d }
  ({ p with depthTexture := some t }, s)

/-- Detach a depth texture from a surface that carries it. -/
def detachDepth (t : Texture) (x : Surface) (d : Device) : Surface × Device :=
  if x.depthTexture = some t then d.attachDepth x none else (x, d)

/-- End the depth texture, if there is one. -/
def deleteDepthTexture (p : Pipeline P) (s : Stage ω) : Pipeline P × Stage ω :=
  match p.depthTexture with
  | none => (p, s)
  | some t =>
    let (p, s) := { p with depthTexture := none }.shareDepthTexture none s
    let (input, d) := detachDepth t p.input s.device
    let (output, d) := detachDepth t p.output d
    ({ p with input, output }, { s with device := d.disposeTexture t })

/-- Let the depth texture live exactly if some pass needs it. -/
def updateDepthTexture (p : Pipeline P) (s : Stage ω) : Pipeline P × Stage ω :=
  match p.needsDepth, p.depthTexture with
  | true, none => p.createDepthTexture s
  | false, some _ => p.deleteDepthTexture s
  | _, _ => (p, s)

/-! ## Passes that come and go -/

/-- What came of adding a pass. A pass that could not join is given back, with the reason. -/
structure Added (P ω : Type) where
  pipeline : Pipeline P
  stage : Stage ω
  refused : Option (Fault × P) := none

/-- Make a pass ready to join: set it up, give it the size, and hand it the depth texture. -/
def ready (p : Pipeline P) : Act (P × Stage ω) Unit := do
  Pass.setUp p.setup
  Pass.setSize p.setup.width p.setup.height
  if p.depthTexture.isSome then
    modify fun (q, s) =>
      let (q, shared) := Pass.setDepthTexture q p.depthTexture .basic s.toShared
      (q, s.withShared shared)

/-- Add a pass at a place of the list, or at its end. -/
def add (p : Pipeline P) (q : P) (index : Option Nat) (s : Stage ω) : Added P ω :=
  let index := index.getD p.passes.length
  if p.disposed then ⟨p, s, some (.disposed "EffectComposer", q)⟩
  else if index > p.passes.length then
    ⟨p, s, some (.noSuchPlace index p.passes.length, q)⟩
  else
    match ready p (q, s) with
    | .error e (q, s) => ⟨p, s, some (e, q)⟩
    | .ok () (q, s) =>
      let (p, s) := { p with passes := p.passes.insertIdx index q }.updateDepthTexture s
      ⟨p.presentLast, s, none⟩

/-- Let the pass `q` go, `rest` being the other passes. -/
def release (p : Pipeline P) (q : P) (rest : List P) (s : Stage ω) : P × Pipeline P × Stage ω :=
  let (q, s) :=
    if p.depthTexture.isSome then
      let (q, shared) := Pass.setDepthTexture q none .basic s.toShared
      (q, s.withShared shared)
    else (q, s)
  let q := if p.config.autoToScreen then sendToScreen q false else q
  let (p, s) := { p with passes := rest }.updateDepthTexture s
  (q, p.presentLast, s)

/-- Take the pass at a place out and give it back. -/
def remove (index : Nat) : Act (Pipeline P × Stage ω) P := fun (p, s) =>
  match p.passes[index]? with
  | none => .error (.noSuchPlace index p.passes.length) (p, s)
  | some q =>
    let (q, p, s) := p.release q (p.passes.eraseIdx index) s
    .ok q (p, s)

/-- Take the first `n` passes out, one after the other. -/
def removeFirst : Nat → Pipeline P → Stage ω → List P × Pipeline P × Stage ω
  | 0, p, s => ([], p, s)
  | n + 1, p, s =>
    match p.passes with
    | [] => ([], p, s)
    | q :: rest =>
      let (q, p, s) := p.release q rest s
      let (qs, p, s) := removeFirst n p s
      (q :: qs, p, s)

/-- Take all passes out and give them back. -/
def removeAll (p : Pipeline P) (s : Stage ω) : List P × Pipeline P × Stage ω :=
  removeFirst p.passes.length p s

/-! ## Changes of all passes -/

/-- Tell every pass the scene to draw. -/
def setMainScene (p : Pipeline P) (x : Scene) (s : Stage ω) : Pipeline P × Stage ω :=
  let (passes, shared) := threadList (fun q s => Pass.setMainScene q x s) p.passes s.toShared
  ({ p with passes }, s.withShared shared)

/-- Tell every pass the camera to see through. -/
def setMainCamera (p : Pipeline P) (x : Camera) (s : Stage ω) : Pipeline P × Stage ω :=
  let (passes, shared) := threadList (fun q s => Pass.setMainCamera q x s) p.passes s.toShared
  ({ p with passes }, s.withShared shared)

/-- An act on the passes and the stage, within the pipeline. -/
def onPasses {α : Type} (act : Act (List P × Stage ω) α) : Act (Pipeline P × Stage ω) α :=
  act.within (·.passes) ({ · with passes := · })

/-- Give the screen, the images and every pass a new size. -/
def setSize (width height : UInt32) : Act (Pipeline P × Stage ω) Unit := do
  checkAlive
  modify fun (p, s) => (p, s.mapDevice (·.setSize width height))
  let (p, s) ← get
  let (w, h) := s.device.drawingSize
  let input ← Act.onSecond (Stage.onDevice (Device.resizeSurface p.input w h))
  modify fun (p, s) => ({ p with input }, s)
  let output ← Act.onSecond (Stage.onDevice (Device.resizeSurface p.output w h))
  modify fun (p, s) => ({ p with output }, s)
  onPasses (Act.forEach (Pass.setSize w h))

/-- Make the images and the depth texture anew; the passes stay. -/
def reset : Act (Pipeline P × Stage ω) Unit := do
  checkAlive
  let hadDepth := (← get).1.depthTexture.isSome
  modify fun (p, s) => p.deleteDepthTexture s
  modify fun (p, s) =>
    let ((input, output), d) := createImages p.config s.device
    ({ p with input, output },
      { s with device := (d.disposeSurface p.input).disposeSurface p.output })
  modify fun (p, s) => if hadDepth || p.needsDepth then p.createDepthTexture s else (p, s)
  modify fun (p, s) => ({ p with timer := p.timer.reset }, s)

/-- Give up all passes and resources. The passes are given back, disposed. -/
def dispose (p : Pipeline P) (s : Stage ω) : List P × Pipeline P × Stage ω :=
  if p.disposed then ([], p, s)
  else
    let (passes, s) := threadList (fun q s => Pass.dispose q s) p.passes s
    let (p, s) := { p with passes := [] }.deleteDepthTexture s
    let d := ((s.device.disposeSurface p.input).disposeSurface p.output).disposeGeometry p.geometry
    (passes, { p with disposed := true }, { s with device := d })

end Pipeline

end ScreenEffects
