import ScreenEffects.Proofs.Act
import ScreenEffects.Stage

/-!
# Draws touch nothing that lives

To choose a target, to clear it and to draw changes the draw state of a device and its journal, and no
surface, texture or geometry, nor the size of the screen. Whatever is about these alone is kept by every
draw, failed or not (`Device.Untouched`).
-/

namespace ScreenEffects

namespace Device

/-- From `d₀` to `d` no surface, texture or geometry was touched, no handle was taken, and the screen kept
its size. -/
structure Untouched (d₀ d : Device) : Prop where
  surfaces : d.surfaces = d₀.surfaces
  textures : d.textures = d₀.textures
  geometries : d.geometries = d₀.geometries
  nextId : d.nextId = d₀.nextId
  drawingSize : d.drawingSize = d₀.drawingSize

variable {d₀ d d' : Device}

theorem Untouched.refl (d : Device) : Untouched d d := ⟨rfl, rfl, rfl, rfl, rfl⟩

theorem Untouched.trans (h : Untouched d₀ d) (h' : Untouched d d') : Untouched d₀ d' :=
  ⟨h'.surfaces.trans h.surfaces, h'.textures.trans h.textures, h'.geometries.trans h.geometries,
    h'.nextId.trans h.nextId, h'.drawingSize.trans h.drawingSize⟩

theorem Untouched.setTarget (h : Untouched d₀ d) (target : Option SurfaceId) :
    Untouched d₀ (d.setTarget target) := ⟨h.surfaces, h.textures, h.geometries, h.nextId, h.drawingSize⟩

theorem Untouched.setStencil (h : Untouched d₀ d) (stencil : Stencil) :
    Untouched d₀ (d.setStencil stencil) := ⟨h.surfaces, h.textures, h.geometries, h.nextId, h.drawingSize⟩

theorem Untouched.setWriteMask (h : Untouched d₀ d) (mask : WriteMask) :
    Untouched d₀ (d.setWriteMask mask) := ⟨h.surfaces, h.textures, h.geometries, h.nextId, h.drawingSize⟩

theorem Untouched.clear (h : Untouched d₀ d) (flags : ClearFlags) (values : ClearValues) :
    Untouched d₀ (d.clear flags values) := by
  unfold Device.clear
  split
  · exact ⟨h.surfaces, h.textures, h.geometries, h.nextId, h.drawingSize⟩
  · exact h

theorem keeps_untouched_checkDraw : Act.Keeps (Untouched d₀) checkDraw := by
  intro d h
  unfold Act.after checkDraw
  cases d.failNext with
  | none => exact h
  | some reason => exact ⟨h.surfaces, h.textures, h.geometries, h.nextId, h.drawingSize⟩

theorem keeps_untouched_drawScene (scene : Scene) (camera : Camera)
    (override : Option DepthPacking) :
    Act.Keeps (Untouched d₀) (drawScene scene camera override) :=
  keeps_untouched_checkDraw.bind fun _ => Act.keeps_modify fun _ h =>
    ⟨h.surfaces, h.textures, h.geometries, h.nextId, h.drawingSize⟩

theorem keeps_untouched_drawScreen (geometry : Geometry) (program : ShaderProgram)
    (uniforms : UniformStore) :
    Act.Keeps (Untouched d₀) (drawScreen geometry program uniforms) := by
  unfold drawScreen
  refine Act.keeps_get.bind fun d => ?_
  have draw : Act.Keeps (Untouched d₀) (do
      checkDraw
      modify fun d => d.record
        (.drawScreen d.target program.label d.stencil (program.uniformBytes uniforms))) :=
    keeps_untouched_checkDraw.bind fun _ => Act.keeps_modify fun _ h =>
      ⟨h.surfaces, h.textures, h.geometries, h.nextId, h.drawingSize⟩
  split
  · exact (Act.keeps_throw _).bind fun _ => draw
  · exact draw

end Device

end ScreenEffects
