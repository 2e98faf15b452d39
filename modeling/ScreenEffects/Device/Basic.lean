import ScreenEffects.Act
import ScreenEffects.Device.Command
import ScreenEffects.Device.Program
import ScreenEffects.Pixels

/-!
# The device

A device without pixels: it hands out handles, keeps account of what lives, and records each call in
a journal. Surfaces, textures and geometries get their handles from one counter, so none is ever
used twice. Objects start on layer 0 alone.

* `Device.resizeSurface`, `Device.drawScene` and `Device.drawScreen` are the calls that can fail. A
  failure that was asked for (`failNext`) strikes once.
-/

namespace ScreenEffects

/-- Limits of a device. -/
structure Limits where
  fragmentUniforms : Nat := 16
  varyings : Nat := 8
  deriving DecidableEq

/-- What a device knows of a texture. -/
structure TextureRecord where
  width : UInt32
  height : UInt32
  /-- The texture stores depth. -/
  depth : Bool
  deriving DecidableEq

/-- The state of a device. -/
structure Device where
  nextId : Nat := 1
  width : UInt32
  height : UInt32
  /-- Pixels per unit of the logical size. -/
  pixelRatio : Float32 := 1
  limits : Limits := {}
  surfaces : OrderedMap SurfaceId (UInt32 × UInt32) := ∅
  textures : OrderedMap Texture TextureRecord := ∅
  geometries : List Geometry := []
  target : Option SurfaceId := none
  stencil : Stencil := .disabled
  writeMask : WriteMask := .all
  clipRanges : OrderedMap Camera (Float32 × Float32) := ∅
  layers : OrderedMap SceneObject UInt32 := ∅
  surfacesCreated : Nat := 0
  depthTexturesCreated : Nat := 0
  /-- The reason with which the next draw is to fail. -/
  failNext : Option String := none
  journal : Array Command := #[]

namespace Device

/-- A device of the given logical size. -/
def ofSize (width height : UInt32) : Device where
  width := max 1 width
  height := max 1 height

/-- The device with a pixel ratio, which is not let down to zero. -/
def withPixelRatio (d : Device) (ratio : Float32) : Device :=
  { d with pixelRatio := largerNumber ratio (.ofBits 0x34000000) }

def record (d : Device) (c : Command) : Device := { d with journal := d.journal.push c }

/-! ## Size -/

/-- The size of the screen in pixels. -/
def drawingSize (d : Device) : UInt32 × UInt32 :=
  (wholePixels (d.width.toFloat32 * d.pixelRatio), wholePixels (d.height.toFloat32 * d.pixelRatio))

/-- Change the logical size. -/
def setSize (d : Device) (width height : UInt32) : Device :=
  { d with width := max 1 width, height := max 1 height }.record (.setSize width height)

/-! ## Textures and surfaces -/

/-- A handle never used before. -/
def takeId (d : Device) : Nat × Device := (d.nextId, { d with nextId := d.nextId + 1 })

/-- Make a texture. -/
def createTexture (d : Device) (width height : UInt32) (depth : Bool) : Texture × Device :=
  let (id, d) := d.takeId
  (⟨id⟩, { d with textures := d.textures.insert ⟨id⟩ ⟨width, height, depth⟩ }.record
    (.createTexture ⟨id⟩ width height))

/-- Make a texture for depth. -/
def createDepthTexture (d : Device) (width height : UInt32) : Texture × Device :=
  { d with depthTexturesCreated := d.depthTexturesCreated + 1 }.createTexture
    (max 1 width) (max 1 height) true

/-- Make a surface, with its colour texture. -/
def createSurface (d : Device) (spec : SurfaceSpec) : Surface × Device :=
  let (color, d) := d.createTexture spec.width spec.height false
  let (id, d) := d.takeId
  let d := { d with
    surfaces := d.surfaces.insert ⟨id⟩ (spec.width, spec.height)
    surfacesCreated := d.surfacesCreated + 1 }
  ({ id := ⟨id⟩, label := spec.label, width := spec.width, height := spec.height, color,
      depthBuffer := spec.depthBuffer, stencilBuffer := spec.stencilBuffer },
    d.record (.createSurface ⟨id⟩ spec.label spec.width spec.height))

/-- Give a texture that lives a new size. -/
def resizeTexture (d : Device) (width height : UInt32) (t : Texture) : Device :=
  { d with textures := d.textures.modify t fun r => { r with width, height } }

/-- Give a surface that lives, and the textures it carries, a new size. -/
def resizeSurface (s : Surface) (width height : UInt32) : Act Device Surface := fun d =>
  let width := max 1 width
  let height := max 1 height
  if d.surfaces.contains s.id then
    let d := { d with surfaces := d.surfaces.insert s.id (width, height) }
    let d := (s.color :: s.depthTexture.toList).foldl (·.resizeTexture width height) d
    .ok { s with width, height } (d.record (.resizeSurface s.id width height))
  else .error (.device (.unknownSurface s.label)) d

/-- End a surface and its colour texture; one that does not live is left alone. -/
def disposeSurface (d : Device) (s : Surface) : Device :=
  if d.surfaces.contains s.id then
    { d with
      surfaces := d.surfaces.erase s.id
      textures := d.textures.erase s.color }.record (.disposeSurface s.id)
  else d

/-- Attach a depth texture to a surface, or detach the one it has. -/
def attachDepth (d : Device) (s : Surface) (t : Option Texture) : Surface × Device :=
  ({ s with depthTexture := t }, d.record (.attachDepth s.id t))

/-- End a texture; one that does not live is left alone. -/
def disposeTexture (d : Device) (t : Texture) : Device :=
  if d.textures.contains t then
    { d with textures := d.textures.erase t }.record (.disposeTexture t)
  else d

/-! ## The screen triangle -/

/-- Make a triangle that covers the screen. -/
def createGeometry (d : Device) : Geometry × Device :=
  let (id, d) := d.takeId
  (⟨id⟩, { d with geometries := d.geometries ++ [⟨id⟩] })

def disposeGeometry (d : Device) (g : Geometry) : Device :=
  { d with geometries := d.geometries.erase g }

/-! ## Drawing -/

/-- Choose the target of what follows; `none` is the screen. -/
def setTarget (d : Device) (target : Option SurfaceId) : Device :=
  { d with target }.record (.setTarget target)

/-- Choose the screen or a surface. -/
def bind (d : Device) (s : Surface) (toScreen : Bool) : Device :=
  d.setTarget (if toScreen then none else some s.id)

def setStencil (d : Device) (stencil : Stencil) : Device :=
  { d with stencil }.record (.setStencil stencil)

def setWriteMask (d : Device) (mask : WriteMask) : Device :=
  { d with writeMask := mask }.record (.setWriteMask mask)

/-- Clear buffers of the target. A clear of nothing is not recorded, and the values never are. -/
def clear (d : Device) (flags : ClearFlags) (_values : ClearValues) : Device :=
  if flags.any then d.record (.clear d.target flags) else d

/-- Fail if the next draw is to fail. -/
def checkDraw : Act Device Unit := fun d =>
  match d.failNext with
  | some reason => .error (.device (.refused reason)) { d with failNext := none }
  | none => .ok () d

/-- Draw a scene into the target. -/
def drawScene (scene : Scene) (camera : Camera) (override : Option DepthPacking) :
    Act Device Unit := do
  checkDraw
  modify fun d => d.record (.drawScene d.target scene camera override d.stencil d.writeMask)

/-- Draw a program over the target, with the uniforms as they are. -/
def drawScreen (geometry : Geometry) (program : ShaderProgram) (uniforms : UniformStore) :
    Act Device Unit := do
  if geometry ∉ (← get).geometries then
    throw (.device (.unknownGeometry program.label geometry))
  checkDraw
  modify fun d => d.record
    (.drawScreen d.target program.label d.stencil (program.uniformBytes uniforms))

/-! ## Cameras and layers -/

def setClipRange (d : Device) (c : Camera) (near far : Float32) : Device :=
  { d with clipRanges := d.clipRanges.insert c (near, far) }

/-- The distances at which a camera starts and stops seeing. -/
def clipRange (d : Device) (c : Camera) : Float32 × Float32 :=
  (d.clipRanges.get? c).getD (0.3, 1000)

/-- The layers of an object, as bits. -/
def layerMask (d : Device) (o : SceneObject) : UInt32 := (d.layers.get? o).getD 1

def enableLayer (d : Device) (o : SceneObject) (layer : UInt8) : Device :=
  { d with layers := d.layers.insert o (d.layerMask o ||| 1 <<< layer.toUInt32) }

def disableLayer (d : Device) (o : SceneObject) (layer : UInt8) : Device :=
  { d with layers := d.layers.insert o (d.layerMask o &&& ~~~(1 <<< layer.toUInt32)) }

/-! ## The account -/

def liveDepthTextures (d : Device) : Nat := (d.textures.values.filter (·.depth)).length

/-- The draws over the screen, in order. -/
def screenDraws (d : Device) : List Command := d.journal.toList.filter (·.isScreenDraw)

end Device

end ScreenEffects
