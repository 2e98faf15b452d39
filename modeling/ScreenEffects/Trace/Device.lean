import ScreenEffects.Device.Basic
import ScreenEffects.Probe.Event
import ScreenEffects.Trace.Basic

/-!
# Traces of devices

How the state of a device, the commands in its journal and the events of probes are shown: a command
or an event is a list that starts with its name.
-/

namespace ScreenEffects

open Json

/-! ## State -/

instance : Traced (Colour Float32) := ⟨fun c => trace [c.r, c.g, c.b, c.a]⟩

instance : Traced DepthPacking := ⟨fun p => trace p.code⟩

instance : Traced Precision where
  trace
    | .byte => .text "unsignedByte"
    | .half => .text "halfFloat"

instance : Traced Surface where
  trace s := .record [
    ("id", trace s.id), ("label", trace s.label), ("size", trace s.size), ("color", trace s.color),
    ("depthTexture", trace s.depthTexture), ("depthBuffer", trace s.depthBuffer),
    ("stencilBuffer", trace s.stencilBuffer)]

instance : Traced StencilTest where
  trace
    | .always => .text "always"
    | .equal => .text "equal"
    | .notEqual => .text "notEqual"

instance : Traced StencilOp where
  trace
    | .keep => .text "keep"
    | .replace => .text "replace"

instance : Traced Stencil where
  trace s := .list [trace s.enabled, trace s.test, trace s.reference, trace s.mask, trace s.onFail,
    trace s.onDepthFail, trace s.onPass, trace s.locked]

instance : Traced WriteMask := ⟨fun m => trace (m.color, m.depth)⟩

instance : Traced ClearFlags := ⟨fun f => trace [f.color, f.depth, f.stencil]⟩

instance : Traced ClearValues :=
  ⟨fun v => .list [trace v.color, trace v.depth, trace v.stencil]⟩

/-- The account of a device and its draw state. -/
instance : Traced Device where
  trace d := .record [
    ("surfaces", trace d.surfaces.size), ("textures", trace d.textures.size),
    ("depthTextures", trace d.liveDepthTextures), ("geometries", trace d.geometries.length),
    ("surfacesCreated", trace d.surfacesCreated),
    ("depthTexturesCreated", trace d.depthTexturesCreated), ("target", trace d.target),
    ("stencil", trace d.stencil), ("mask", trace d.writeMask), ("size", trace d.drawingSize)]

/-! ## Commands and events -/

instance : Traced Command where
  trace
    | .setSize w h => .list [.text "SetSize", trace w, trace h]
    | .createSurface id label w h =>
      .list [.text "CreateSurface", trace id, trace label, trace w, trace h]
    | .resizeSurface id w h => .list [.text "ResizeSurface", trace id, trace w, trace h]
    | .disposeSurface id => .list [.text "DisposeSurface", trace id]
    | .createTexture t w h => .list [.text "CreateTexture", trace t, trace w, trace h]
    | .disposeTexture t => .list [.text "DisposeTexture", trace t]
    | .attachDepth s t => .list [.text "AttachDepth", trace s, trace t]
    | .setTarget t => .list [.text "SetRenderTarget", trace t]
    | .setStencil s => .list [.text "SetStencil", trace s]
    | .setWriteMask m => .list [.text "SetWriteMask", trace m]
    | .clear t flags => .list [.text "Clear", trace t, trace flags]
    | .drawScene t scene camera override stencil mask =>
      .list [.text "Render", trace t, trace scene, trace camera, trace override, trace stencil,
        trace mask]
    | .drawScreen t label stencil bytes =>
      .list [.text "DrawFullscreen", trace t, trace label, trace stencil, trace bytes]

instance : Traced ProbeEvent where
  trace
    | .hooksPrepared tag alpha precision =>
      .list [.text "hook-init", trace tag, trace alpha, trace precision]
    | .hooksUpdated tag input delta names =>
      .list [.text "hook-update", trace tag, trace input, trace delta, trace names]
    | .hooksSized tag w h => .list [.text "hook-size", trace tag, trace w, trace h]
    | .hooksGivenDepth tag t packing =>
      .list [.text "hook-depth", trace tag, trace t, trace packing]
    | .hooksDisposed tag => .list [.text "hook-dispose", trace tag]
    | .passSetUp name alpha precision geometry w h =>
      .list [.text "init", trace name, trace alpha, trace precision, trace geometry, trace w,
        trace h]
    | .passSized name w h => .list [.text "size", trace name, trace w, trace h]
    | .passGivenDepth name t packing => .list [.text "depth", trace name, trace t, trace packing]
    | .passGivenScene name scene => .list [.text "scene", trace name, trace scene]
    | .passGivenCamera name camera => .list [.text "camera", trace name, trace camera]
    | .passRendered name input output delta masked toScreen depth =>
      .list [.text "render", trace name, trace input, trace output, trace delta, trace masked,
        trace toScreen, trace depth]

end ScreenEffects
