import ScreenEffects.Pass.Builtin
import ScreenEffects.Proofs.Device.Recording
import ScreenEffects.Proofs.Effect.Quiet
import ScreenEffects.Proofs.Pass.Operations

/-!
# What the passes draw

For each pass of the library: into which targets it draws, with which draw state, and what it leaves
behind, failed or not (`BuiltinPass.Drew`). Most passes draw with the state they find. A mask is drawn
with a state of its own while colours and depth are closed, and a saved image is not confined to a
mask.

* `BuiltinPass.drew_after_render` : what a pass draws.
* `BuiltinPass.endsOn_of_render` : a pass that moves the image ends on a draw into its destination.
-/

namespace ScreenEffects

variable {H ω : Type} {reach : List (Option SurfaceId)}

/-! ## Scenes -/

section Scenes

variable {d₀ : Device}

theorem ClearPass.draws_render (colour : d₀.writeMask.color = true) (p : ClearPass)
    (input : Surface) (ht : (if p.flags.toScreen then none else some input.id) ∈ reach) :
    d₀.Draws reach (p.render input d₀) :=
  (((Device.Draws.refl reach d₀).aims_setTarget ht).clear (fun _ => colour) p.values).1

theorem ScenePass.keeps_renderInto (colour : d₀.writeMask.color = true) (p : ScenePass)
    {target : Option SurfaceId} (ht : target ∈ reach) :
    Act.Keeps (d₀.Draws reach) (p.renderInto target) := by
  intro d hd
  have draw : Act.Keeps (Device.Aims reach d₀) (do
      if p.clears then modify (·.clear p.clearPass.clear p.clearPass.values)
      Device.drawScene p.scene p.camera p.override) := by
    have scene : Act.Keeps (Device.Aims reach d₀)
        (Device.drawScene p.scene p.camera p.override) := Device.keeps_drawScene _ _ _
    split
    · exact (Act.keeps_modify fun _ h => h.clear (fun _ => colour) _).bind fun _ => scene
    · exact scene
  exact (draw (d.setTarget target) (hd.aims_setTarget ht)).1

theorem DepthPass.keeps_render (colour : d₀.writeMask.color = true) (p : DepthPass)
    (screen : p.drawing.flags.toScreen = true → none ∈ reach)
    (own : p.drawing.flags.toScreen = false → ∀ t ∈ p.surface, some t.id ∈ reach) :
    Act.Keeps (d₀.Draws reach) p.render := by
  unfold DepthPass.render
  cases hs : p.drawing.flags.toScreen with
  | true => exact p.drawing.keeps_renderInto colour (screen hs)
  | false =>
    cases ht : p.surface with
    | none => exact Act.keeps_throw _
    | some t => exact p.drawing.keeps_renderInto colour (own hs t ht)

theorem MaskPass.keeps_fill (p : MaskPass) : Act.Keeps (Device.Aims reach d₀) p.fill := by
  unfold MaskPass.fill
  have scene : Act.Keeps (Device.Aims reach d₀) (Device.drawScene p.scene p.camera none) :=
    Device.keeps_drawScene _ _ _
  split
  · exact (Act.keeps_modify fun _ h => h.clear (by simp) _).bind fun _ => scene
  · exact scene

/-- The targets of a mask. -/
def MaskPass.targets (p : MaskPass) (input output : Surface) : List (Option SurfaceId) :=
  if p.flags.toScreen then [none] else [some input.id, some output.id]

theorem MaskPass.keeps_fills (p : MaskPass) (input output : Surface) :
    Act.Keeps (d₀.Draws (p.targets input output)) (p.fills input output) := by
  unfold MaskPass.fills MaskPass.targets
  cases p.flags.toScreen with
  | true =>
    intro d hd
    exact (p.keeps_fill (d.setTarget none) (hd.aims_setTarget List.mem_cons_self)).1
  | false =>
    intro d hd
    have first : Act.Keeps (Device.Aims [some input.id, some output.id] d₀) (do
        p.fill
        modify (·.setTarget (some output.id))
        p.fill) :=
      p.keeps_fill.bind fun _ => Act.Keeps.bind
        (Act.keeps_modify fun _ h => h.1.aims_setTarget (by simp)) fun _ => p.keeps_fill
    exact (first (d.setTarget (some input.id)) (hd.aims_setTarget (by simp))).1

/-- The outline is drawn with colours and depth closed, and they are open again afterwards. -/
theorem MaskPass.after_render (p : MaskPass) (input output : Surface) (d : Device) :
    d.Recorded (Command.Fits (.write p.drawnValue) .none (p.targets input output))
        ((p.render input output).after d) ∧
      ((p.render input output).after d).stencil = .insideMask ∧
      ((p.render input output).after d).writeMask = .all := by
  have drawn := p.keeps_fills input output
    ((d.setWriteMask .none).setStencil (.write p.drawnValue)) (.refl _ _)
  have e : (p.render input output).after d =
      ((((p.fills input output).after ((d.setWriteMask .none).setStencil
        (.write p.drawnValue))).setWriteMask .all).setStencil .insideMask) :=
    Act.after_ensuring (p.fills input output) _ _
  rw [e]
  refine ⟨?_, rfl, rfl⟩
  have opened (d : Device) (mask : WriteMask) (stencil : Stencil) : d.Recorded
      (Command.Fits (.write p.drawnValue) .none (p.targets input output))
      ((d.setWriteMask mask).setStencil stencil) :=
    ⟨[.setWriteMask mask, .setStencil stencil],
      by simp [Device.setWriteMask, Device.setStencil, Device.record],
      by simp [Command.Fits]⟩
  exact ((opened _ _ _).trans drawn.recorded).trans (opened _ _ _)

end Scenes

/-! ## Programs -/

section Programs

variable {s₀ : Stage ω}

theorem ShaderPass.device_bindInput (p : ShaderPass) (input : Surface) (s : Stage ω) :
    (p.bindInput input s).device = s.device := by
  unfold ShaderPass.bindInput
  cases p.program.uniforms.get? p.inputName <;> rfl

theorem ShaderPass.draws_bindInput (p : ShaderPass) (input : Surface) {s : Stage ω}
    (h : s₀.Draws reach s) : s₀.Draws reach (p.bindInput input s) := by
  unfold ShaderPass.bindInput
  cases p.program.uniforms.get? p.inputName with
  | none => exact h
  | some u => exact h.setUniform u _

theorem ShaderPass.keeps_draw (colour : s₀.device.writeMask.color = true) (p : ShaderPass)
    (input target : Surface) (toScreen : Bool)
    (ht : (if toScreen then none else some target.id) ∈ reach) :
    Act.Keeps (s₀.Draws reach) (p.draw input target toScreen) := by
  unfold ShaderPass.draw
  cases p.geometry with
  | none => exact Act.keeps_throw _
  | some geometry =>
    exact (Act.keeps_modify fun _ h => p.draws_bindInput input h).bind fun _ =>
      Stage.keeps_drawInto colour ht

theorem ShaderPass.draw_eq_ok {p : ShaderPass} {input target : Surface} {toScreen : Bool}
    {s t : Stage ω} {a : Unit} (h : p.draw input target toScreen s = .ok a t) :
    ∃ geometry, Stage.drawInto (if toScreen then none else some target.id) geometry p.program
      (p.bindInput input s) = .ok a t := by
  unfold ShaderPass.draw at h
  cases hg : p.geometry with
  | none =>
    rw [hg] at h
    exact absurd h Act.throw_ne_ok
  | some geometry =>
    rw [hg] at h
    obtain ⟨_, u, hu, h⟩ := Act.bind_eq_ok.1 h
    obtain rfl := Act.modify_eq_ok.1 hu
    exact ⟨geometry, h⟩

theorem ShaderPass.endsOn_of_draw {p : ShaderPass} {input target : Surface} {toScreen : Bool}
    {s t : Stage ω} {a : Unit} (h : p.draw input target toScreen s = .ok a t) :
    s.device.EndsOn (if toScreen then none else some target.id) t.device := by
  obtain ⟨geometry, hd⟩ := ShaderPass.draw_eq_ok h
  have bound : s.Draws [] (p.bindInput input s) := p.draws_bindInput input (.refl _ _)
  exact bound.device.endsOn (Stage.endsOn_of_drawInto hd)

/-- The targets of a blur that goes to `final`. -/
def BlurPass.targets (p : BlurPass) (final : Option SurfaceId) : List (Option SurfaceId) :=
  (p.surfaces.elim [] fun (a, b) => [some a.id, some b.id]) ++ [final]

/-- The stage with the uniforms of one draw of a blur. -/
def BlurPass.bindStep (p : BlurPass) (source : Surface) (offset : Float32) (s : Stage ω) :
    Stage ω :=
  ((s.setUniform p.inputBuffer (.texture (some source.color))).setUniform p.texelSize
    (texel source)).setUniform p.kernel (.float offset)

theorem BlurPass.step_apply (p : BlurPass) (geometry : Geometry) (source : Surface)
    (offset : Float32) (target : Option SurfaceId) (s : Stage ω) :
    p.step geometry source offset target s =
      Stage.drawInto target geometry p.program (p.bindStep source offset s) := rfl

theorem BlurPass.draws_bindStep (p : BlurPass) (source : Surface) (offset : Float32) {s : Stage ω}
    (h : s₀.Draws reach s) : s₀.Draws reach (p.bindStep source offset s) :=
  ((h.setUniform _ _).setUniform _ _).setUniform _ _

theorem BlurPass.keeps_step (colour : s₀.device.writeMask.color = true) (p : BlurPass)
    (geometry : Geometry) (source : Surface) (offset : Float32) {target : Option SurfaceId}
    (ht : target ∈ reach) :
    Act.Keeps (s₀.Draws reach) (p.step geometry source offset target) := by
  intro s h
  unfold Act.after
  rw [p.step_apply]
  exact Stage.keeps_drawInto colour ht (p.bindStep source offset s) (p.draws_bindStep source offset h)

theorem BlurPass.keeps_steps (colour : s₀.device.writeMask.color = true) (p : BlurPass)
    (geometry : Geometry) {final : Option SurfaceId} (hf : final ∈ reach) {near far : Surface}
    (hn : some near.id ∈ reach) (hr : some far.id ∈ reach) (offsets : List Float32)
    (source : Surface) :
    Act.Keeps (s₀.Draws reach) (p.steps geometry final offsets source near far) := by
  induction offsets generalizing source near far with
  | nil => exact Act.keeps_pure _
  | cons offset offsets ih =>
    cases offsets with
    | nil => exact p.keeps_step colour geometry source offset hf
    | cons =>
      exact (p.keeps_step colour geometry source offset hn).bind fun _ => ih hr hn near

theorem BlurPass.endsOn_of_step {p : BlurPass} {geometry : Geometry} {source : Surface}
    {offset : Float32} {target : Option SurfaceId} {s t : Stage ω} {a : Unit}
    (h : p.step geometry source offset target s = .ok a t) :
    s.device.EndsOn target t.device := by
  rw [p.step_apply] at h
  exact (p.draws_bindStep source offset (.refl [] s)).device.endsOn (Stage.endsOn_of_drawInto h)

/-- The last draw of a blur goes to the end. -/
theorem BlurPass.endsOn_of_steps {p : BlurPass} {geometry : Geometry} {final : Option SurfaceId}
    {offsets : List Float32} (hne : offsets ≠ []) {source near far : Surface} {s t : Stage ω}
    (colour : s.device.writeMask.color = true) {a : Unit}
    (h : p.steps geometry final offsets source near far s = .ok a t) :
    s.device.EndsOn final t.device := by
  induction offsets generalizing source near far s with
  | nil => exact absurd rfl hne
  | cons offset offsets ih =>
    cases offsets with
    | nil => exact endsOn_of_step h
    | cons =>
      obtain ⟨_, u, hu, h⟩ := Act.bind_eq_ok.1 h
      have first : s.Draws [some near.id] u :=
        (p.keeps_step colour geometry source offset List.mem_cons_self).of_eq_ok hu (.refl _ s)
      exact first.device.endsOn (ih (by simp) (first.device.writeMask ▸ colour) h)

theorem BlurPass.keeps_render (colour : s₀.device.writeMask.color = true) (p : BlurPass)
    (input output : Surface) :
    Act.Keeps (s₀.Draws (p.targets (if p.flags.toScreen then none else some output.id)))
      (p.render input output) := by
  unfold BlurPass.render BlurPass.targets
  cases p.geometry with
  | none => exact Act.keeps_throw _
  | some geometry =>
    cases p.surfaces with
    | none => exact Act.keeps_throw _
    | some pair =>
      exact p.keeps_steps colour geometry (by simp) (by simp) (by simp) p.kernelSize.kernel input

theorem BlurPass.endsOn_of_render {p : BlurPass} {input output : Surface} {s t : Stage ω}
    (colour : s.device.writeMask.color = true) {a : Unit} (h : p.render input output s = .ok a t) :
    s.device.EndsOn (if p.flags.toScreen then none else some output.id) t.device := by
  unfold BlurPass.render at h
  cases hg : p.geometry with
  | none =>
    rw [hg] at h
    exact absurd h Act.throw_ne_ok
  | some geometry =>
    cases hs : p.surfaces with
    | none =>
      rw [hg, hs] at h
      exact absurd h Act.throw_ne_ok
    | some pair =>
      rw [hg, hs] at h
      exact endsOn_of_steps p.kernelSize.kernel_ne_nil colour h

end Programs

/-! ## Merged effects -/

theorem Stage.Draws.quiet {s₀ s t : Stage ω} (h : s₀.Draws reach s) (hq : s.Quiet t) :
    s₀.Draws reach t :=
  ⟨h.device.of_eq hq.journal hq.stencil hq.writeMask, Nat.le_trans h.grows hq.grows⟩

namespace EffectPass

/-- The pass is sent to the screen, or not, and it asks for a swap as its merge does. -/
def SwapsByMerge (toScreen : Bool) (p : EffectPass H) : Prop :=
  p.flags.toScreen = toScreen ∧ p.flags.needsSwap = p.merged.needsSwap

variable {toScreen : Bool}

theorem keeps_toScreen_recompile :
    Act.Keeps (fun p : EffectPass H => p.flags.toScreen = toScreen) recompile :=
  keeps_recompile_of_withMerge fun _ _ h _ => h

theorem keeps_swapsByMerge_recompile : Act.Keeps (SwapsByMerge toScreen) (recompile (H := H)) :=
  keeps_recompile_of_withMerge fun _ _ h _ => ⟨h.1, rfl⟩

variable {s₀ : Stage ω}

theorem keeps_drawProgram (colour : s₀.device.writeMask.color = true) (p : EffectPass H)
    (output : Surface) (ht : (if p.flags.toScreen then none else some output.id) ∈ reach) :
    Act.Keeps (s₀.Draws reach) (p.drawProgram output) := by
  unfold drawProgram
  split
  · exact Act.keeps_pure _
  · cases p.geometry with
    | none => exact Act.keeps_throw _
    | some geometry => exact Stage.keeps_drawInto colour ht

/-- A pass without active effects draws nothing, unless it is sent to the screen. -/
theorem drawProgram_of_idle {p : EffectPass H} {output : Surface} (idle : p.merged.isIdle = true)
    (hidden : p.flags.toScreen = false) :
    p.drawProgram output = (pure () : Act (Stage ω) Unit) := by
  unfold drawProgram
  rw [idle, hidden]
  rfl

/-- A pass with active effects ends on a draw into its destination. -/
theorem endsOn_of_drawProgram {p : EffectPass H} {output : Surface} (busy : p.merged.isIdle = false)
    {s t : Stage ω} {a : Unit} (h : p.drawProgram output s = .ok a t) :
    s.device.EndsOn (if p.flags.toScreen then none else some output.id) t.device := by
  unfold drawProgram at h
  rw [busy, Bool.false_and, if_neg Bool.false_ne_true] at h
  cases hg : p.geometry with
  | none =>
    rw [hg] at h
    exact absurd h Act.throw_ne_ok
  | some geometry =>
    rw [hg] at h
    exact Stage.endsOn_of_drawInto h

variable [EffectHooks H ω] (quiet : QuietHooks H)

/-- On the way through a frame, up to the draw at its end. -/
def InFrame (toScreen : Bool) (s₀ : Stage ω) (x : EffectPass H × Stage ω) : Prop :=
  s₀.Quiet x.2 ∧ x.1.SwapsByMerge toScreen

include quiet

/-- Up to the draw at its end a frame issues no commands. -/
theorem keeps_quiet_beforeDraw (input : Surface) (delta : Float32) :
    Act.Keeps (fun x : EffectPass H × Stage ω => s₀.Quiet x.2) (beforeDraw input delta) :=
  keeps_beforeDraw_of_hooks (quiet.keep s₀) (fun u v h => h.setUniform u v) input delta

theorem keeps_inFrame_beforeDraw (input : Surface) (delta : Float32) :
    Act.Keeps (InFrame toScreen s₀) (beforeDraw (H := H) input delta) := by
  have swaps : Act.Keeps (fun x : EffectPass H × Stage ω => x.1.SwapsByMerge toScreen)
      (beforeDraw input delta) :=
    leads_beforeDraw
      (A := fun flags m => flags.toScreen = toScreen ∧ flags.needsSwap = m.needsSwap)
      keeps_swapsByMerge_recompile.leads input delta
  exact fun x h => ⟨keeps_quiet_beforeDraw quiet input delta x h.1, swaps x h.2⟩

/-- What a frame has drawn into, failed or not. -/
theorem draws_after_render (colour : s₀.device.writeMask.color = true) (input output : Surface)
    (delta : Float32) (p : EffectPass H) :
    s₀.Draws [if p.flags.toScreen then none else some output.id]
      ((render input output delta).after (p, s₀)).2 := by
  let Ready (x : EffectPass H × Stage ω) : Prop :=
    s₀.Quiet x.2 ∧ x.1.flags.toScreen = p.flags.toScreen
  let Drawn (x : EffectPass H × Stage ω) : Prop :=
    s₀.Draws [if p.flags.toScreen then none else some output.id] x.2
  have weaken {x : EffectPass H × Stage ω} (h : Ready x) : Drawn x :=
    (Stage.Draws.refl _ s₀).quiet h.1
  have screen : Act.Keeps (fun x : EffectPass H × Stage ω => x.1.flags.toScreen = p.flags.toScreen)
      (beforeDraw input delta) :=
    leads_beforeDraw (A := fun flags _ => flags.toScreen = p.flags.toScreen)
      keeps_toScreen_recompile.leads input delta
  have ready : Act.Keeps Ready (beforeDraw input delta) := fun x h =>
    ⟨keeps_quiet_beforeDraw quiet input delta x h.1, screen x h.2⟩
  rw [render_eq_beforeDraw]
  refine Act.Leads.bind ready.leads weaken (fun _ => ?_) (p, s₀) ⟨.refl _, rfl⟩
  rintro ⟨q, s⟩ ⟨hq, hs⟩
  have goal : (if q.flags.toScreen then none else some output.id) ∈
      [if p.flags.toScreen then none else some output.id] :=
    hs ▸ List.mem_cons_self
  have drawn := keeps_drawProgram colour q output goal s ((Stage.Draws.refl _ s₀).quiet hq)
  change Drawn ((Act.onSecond (q.drawProgram output)).after (q, s))
  rw [Act.after_onSecond]
  exact drawn

/-- A frame that ends well has done nothing but to draw at its end. -/
theorem render_eq_ok {input output : Surface} {delta : Float32} {p q : EffectPass H}
    (hp : p.SwapsByMerge toScreen) {t : Stage ω} {a : Unit}
    (h : render input output delta (p, s₀) = .ok a (q, t)) :
    ∃ u, InFrame toScreen s₀ (q, u) ∧ q.drawProgram output u = .ok a t := by
  rw [render_eq_beforeDraw] at h
  simp only [Act.bind_eq_ok, Act.get_eq_ok] at h
  obtain ⟨_, ⟨r, u⟩, ready, _, _, ⟨rfl, rfl⟩, h⟩ := h
  have inFrame := (keeps_inFrame_beforeDraw quiet input delta).of_eq_ok ready ⟨.refl _, hp⟩
  obtain ⟨v, hv, hx⟩ := Act.onSecond_eq_ok.1 h
  obtain ⟨rfl, rfl⟩ := Prod.mk.inj hx
  exact ⟨u, inFrame, hv⟩

end EffectPass

/-! ## All passes -/

namespace BuiltinPass

/-- The pass asks for a swap, unless its flag is edited: an effect pass as its merge does, other
passes always or never. -/
def swapsOfItself : BuiltinPass H → Bool
  | shader _ => true
  | copy _ => true
  | blur _ => true
  | effects p => p.merged.needsSwap
  | _ => false

/-- The pass asks for swaps as it does of itself. -/
def OwnSwap (q : BuiltinPass H) : Prop := q.flags.needsSwap = q.swapsOfItself

instance (q : BuiltinPass H) : Decidable q.OwnSwap :=
  inferInstanceAs (Decidable (q.flags.needsSwap = q.swapsOfItself))

/-- The surfaces that belong to the pass. -/
def ownSurfaces : BuiltinPass H → List SurfaceId
  | depth p => p.surface.toList.map (·.id)
  | save p => p.surface.toList.map (·.id)
  | blur p => p.surfaces.elim [] fun (a, b) => [a.id, b.id]
  | _ => []

/-- The targets of the pass. -/
def targets (input output : Surface) : BuiltinPass H → List (Option SurfaceId)
  | clear p => [if p.flags.toScreen then none else some input.id]
  | scene p => [if p.flags.toScreen then none else some input.id]
  | depth p => if p.drawing.flags.toScreen then [none] else p.surface.toList.map fun t => some t.id
  | mask p => p.targets input output
  | clearMask _ => []
  | shader p => [if p.flags.toScreen then none else some output.id]
  | copy p => [if p.flags.toScreen then none else some output.id]
  | save p => p.surface.toList.map fun t => some t.id
  | blur p => p.targets (if p.flags.toScreen then none else some output.id)
  | effects p => [if p.flags.toScreen then none else some output.id]

/-- The stencil state in which the pass draws, if it is called in the state `stencil`, in a mask or
not. -/
def drawStencil (masked : Bool) (stencil : Stencil) : BuiltinPass H → Stencil
  | mask p => .write p.drawnValue
  | save _ => if masked then .disabled else stencil
  | _ => stencil

/-- The buffers that accept writes while the pass draws. -/
def drawMask : BuiltinPass H → WriteMask
  | mask _ => .none
  | _ => .all

/-- The stencil state that the pass leaves behind, if it is called in the state `stencil`. -/
def stencilAfter (stencil : Stencil) : BuiltinPass H → Stencil
  | mask _ => .insideMask
  | clearMask _ => .disabled
  | _ => stencil

/-- The stencil state that fits to a frame in a mask, or not in one. -/
def frameStencil (masked : Bool) : Stencil := if masked then .insideMask else .disabled

/-- What the pass `q` does from the stage `s` to the stage `t`, with the surfaces `input` and
`output`, in a mask or not. -/
structure Drew (q : BuiltinPass H) (input output : Surface) (masked : Bool) (s t : Stage ω) :
    Prop where
  recorded : s.device.Recorded (Command.Fits (q.drawStencil masked s.device.stencil) q.drawMask
    (q.targets input output)) t.device
  stencil : (masked = true → s.device.stencil = .insideMask) →
    t.device.stencil = q.stencilAfter s.device.stencil
  writeMask : t.device.writeMask = .all
  grows : s.uniforms.cells.size ≤ t.uniforms.cells.size

variable {q : BuiltinPass H} {input output : Surface} {s t : Stage ω}

/-- Most passes draw with the state they find. -/
theorem Drew.of_draws {masked : Bool} (h : s.Draws (q.targets input output) t)
    (opened : s.device.writeMask = .all)
    (stencil : q.drawStencil masked s.device.stencil = s.device.stencil) (mask : q.drawMask = .all)
    (after : q.stencilAfter s.device.stencil = s.device.stencil) :
    q.Drew input output masked s t where
  recorded := by
    rw [stencil, mask, ← opened]
    exact h.device.recorded
  stencil _ := after.symm ▸ h.device.stencil
  writeMask := h.device.writeMask.trans opened
  grows := h.grows

/-- A saved image is not confined to the mask, which is in force again afterwards. -/
theorem drew_after_save (p : SavePass) {masked : Bool} (opened : s.device.writeMask = .all) :
    (save p : BuiltinPass H).Drew input output masked s ((p.render input masked).after s) := by
  unfold SavePass.render
  cases ht : p.surface with
  | none => exact ⟨.refl _ _, fun _ => rfl, opened, Nat.le_refl _⟩
  | some t =>
    have goal : some t.id ∈ (save p : BuiltinPass H).targets input output := by
      simp [targets, ht]
    have copied {s₀ : Stage ω} (h₀ : s₀.device.writeMask = .all) :
        s₀.Draws ((save p : BuiltinPass H).targets input output)
          ((p.copy.shader.draw input t false).after s₀) :=
      p.copy.shader.keeps_draw (h₀ ▸ rfl) input t false goal s₀ (.refl _ _)
    cases masked with
    | false => exact .of_draws (copied opened) opened rfl rfl rfl
    | true =>
      let s₁ : Stage ω := s.mapDevice (·.setStencil .disabled)
      have drawn : s₁.Draws _ _ := copied opened
      have switched (d : Device) (σ : Stencil) : d.Recorded
          (Command.Fits .disabled .all ((save p : BuiltinPass H).targets input output))
          (d.setStencil σ) := Device.recorded_record { d with stencil := σ } trivial
      have recorded := drawn.device.recorded
      have same : s₁.device.writeMask = .all := opened
      rw [same] at recorded
      change (save p).Drew input output true s (((p.copy.shader.draw input t false).ensuring
        (·.mapDevice (·.setStencil .insideMask))).after s₁)
      rw [Act.after_ensuring]
      exact {
        recorded := ((switched s.device .disabled).trans recorded).trans (switched _ _)
        stencil := fun inside => (inside rfl).symm
        writeMask := drawn.device.writeMask.trans opened
        grows := drawn.grows }

variable [EffectHooks H ω]

theorem after_render_effects (input output : Surface) (delta : Float32) (masked : Bool)
    (p : EffectPass H) (s : Stage ω) :
    (render input output delta masked).after (effects p, s) =
      (effects ((EffectPass.render input output delta).after (p, s)).1,
        ((EffectPass.render input output delta).after (p, s)).2) :=
  after_wrap rfl

theorem render_effects_eq_ok {delta : Float32} {masked : Bool} {p : EffectPass H}
    {q' : BuiltinPass H} {a : Unit} :
    render input output delta masked (effects p, s) = .ok a (q', t) ↔
      ∃ p', EffectPass.render input output delta (p, s) = .ok a (p', t) ∧ q' = effects p' := by
  unfold render wrap
  cases h : EffectPass.render input output delta (p, s) with
  | ok b x =>
    obtain ⟨r, u⟩ := x
    simp only [h, EStateM.Result.ok.injEq, Prod.mk.injEq]
    constructor
    · rintro ⟨-, rfl, rfl⟩
      exact ⟨r, ⟨trivial, rfl, rfl⟩, rfl⟩
    · rintro ⟨_, ⟨-, rfl, rfl⟩, rfl⟩
      exact ⟨trivial, rfl, rfl⟩
  | error e x => simp [h]

/-- What a pass draws, and what it leaves behind, failed or not. -/
theorem drew_after_render (quiet : QuietHooks H) (q : BuiltinPass H) (input output : Surface)
    (delta : Float32) (masked : Bool) (opened : s.device.writeMask = .all) :
    q.Drew input output masked s ((render input output delta masked).after (q, s)).2 := by
  have colour : s.device.writeMask.color = true := by rw [opened]; rfl
  have onDevice {reach : List (Option SurfaceId)} {act : Act Device Unit}
      (h : Act.Keeps (s.device.Draws reach) act) : s.Draws reach ((Stage.onDevice act).after s) := by
    rw [Stage.after_onDevice]
    exact ⟨h s.device (.refl _ _), Nat.le_refl _⟩
  have alone (q : BuiltinPass H) (act : Act (Stage ω) Unit) :
      ((act.onSecond : Act (BuiltinPass H × Stage ω) Unit).after (q, s)).2 = act.after s :=
    congrArg Prod.snd (Act.after_onSecond act q s)
  cases q with
  | clear p =>
    exact .of_draws ⟨p.draws_render colour input List.mem_cons_self, Nat.le_refl _⟩ opened rfl rfl rfl
  | scene p =>
    have drawn : s.Draws ((scene p : BuiltinPass H).targets input output) _ :=
      onDevice (p.keeps_renderInto colour List.mem_cons_self)
    exact (alone (scene p) _).symm ▸ .of_draws drawn opened rfl rfl rfl
  | depth p =>
    have drawn : s.Draws ((depth p : BuiltinPass H).targets input output) _ :=
      onDevice (p.keeps_render colour (fun h => by simp [targets, h])
        fun h t ht => by simp [targets, h, Option.mem_def.1 ht])
    exact (alone (depth p) _).symm ▸ .of_draws drawn opened rfl rfl rfl
  | mask p =>
    obtain ⟨recorded, confined, open_⟩ := p.after_render input output s.device
    have after : ((render input output delta masked).after (mask p, s)).2 =
        { s with device := (p.render input output).after s.device } :=
      (alone (mask p) _).trans (Stage.after_onDevice _ s)
    exact after.symm ▸ ⟨recorded, fun _ => confined, open_, Nat.le_refl _⟩
  | clearMask p =>
    exact ⟨Device.recorded_record { s.device with stencil := .disabled } trivial, fun _ => rfl,
      opened, Nat.le_refl _⟩
  | shader p =>
    have drawn : s.Draws ((shader p : BuiltinPass H).targets input output) _ :=
      p.keeps_draw colour input output p.flags.toScreen List.mem_cons_self s (.refl _ _)
    exact (alone (shader p) _).symm ▸ .of_draws drawn opened rfl rfl rfl
  | copy p =>
    have drawn : s.Draws ((copy p : BuiltinPass H).targets input output) _ :=
      p.shader.keeps_draw colour input output p.flags.toScreen List.mem_cons_self s (.refl _ _)
    exact (alone (copy p) _).symm ▸ .of_draws drawn opened rfl rfl rfl
  | save p =>
    exact (alone (save p) _).symm ▸ drew_after_save p opened
  | blur p =>
    have drawn := p.keeps_render colour input output s (.refl _ _)
    exact (alone (blur p) _).symm ▸ .of_draws drawn opened rfl rfl rfl
  | effects p =>
    have drawn := EffectPass.draws_after_render quiet colour input output delta p
    have after := congrArg Prod.snd (after_render_effects input output delta masked p s)
    exact after.symm ▸ .of_draws drawn opened rfl rfl rfl

/-- Rendering changes no pass that is not one of effects. -/
theorem eq_or_effects_of_render {delta : Float32} {masked : Bool} {q' : BuiltinPass H} {a : Unit}
    (h : render input output delta masked (q, s) = .ok a (q', t)) :
    q' = q ∨ ∃ p p', q = effects p ∧ q' = effects p' ∧
      EffectPass.render input output delta (p, s) = .ok a (p', t) := by
  have regular {f : Act (Stage ω) Unit} (h : f.onSecond (q, s) = .ok a (q', t)) : q' = q := by
    obtain ⟨u, -, hx⟩ := Act.onSecond_eq_ok.1 h
    exact (Prod.mk.inj hx).1
  cases q with
  | effects p =>
    obtain ⟨p', hp, rfl⟩ := render_effects_eq_ok.1 h
    exact .inr ⟨p, p', rfl, rfl, hp⟩
  | clear p => exact .inl (regular (f := modify fun t : Stage ω => t.mapDevice (p.render input)) h)
  | clearMask p =>
    exact .inl (regular (f := modify fun t : Stage ω => t.mapDevice ClearMaskPass.render) h)
  | _ => exact .inl (regular h)

theorem role_of_render {delta : Float32} {masked : Bool} {q' : BuiltinPass H} {a : Unit}
    (h : render input output delta masked (q, s) = .ok a (q', t)) : q'.role = q.role := by
  obtain rfl | ⟨p, p', rfl, rfl, -⟩ := eq_or_effects_of_render h <;> rfl

/-- A pass that is rendered still asks for swaps as it does of itself, and is still sent to the
screen, or not. -/
theorem kept_of_render (quiet : QuietHooks H) {delta : Float32} {masked : Bool} {q' : BuiltinPass H}
    (own : q.OwnSwap) {a : Unit} (h : render input output delta masked (q, s) = .ok a (q', t)) :
    q'.OwnSwap ∧ q'.flags.toScreen = q.flags.toScreen ∧ q'.role = q.role := by
  obtain rfl | ⟨p, p', rfl, rfl, hp⟩ := eq_or_effects_of_render h
  · exact ⟨own, rfl, rfl⟩
  · obtain ⟨u, kept, -⟩ := EffectPass.render_eq_ok quiet ⟨rfl, own⟩ hp
    exact ⟨kept.2.2, kept.2.1, rfl⟩

/-- A pass that asks for a swap after it was rendered has ended on a draw into its destination. -/
theorem endsOn_of_render (quiet : QuietHooks H) {delta : Float32} {masked : Bool}
    {q' : BuiltinPass H} (own : q.OwnSwap) (opened : s.device.writeMask = .all) {a : Unit}
    (h : render input output delta masked (q, s) = .ok a (q', t))
    (swap : q'.flags.needsSwap = true) :
    s.device.EndsOn (if q.flags.toScreen then none else some output.id) t.device := by
  have colour : s.device.writeMask.color = true := by rw [opened]; rfl
  have drawn {f : Act (Stage ω) Unit} (h : f.onSecond (q, s) = .ok a (q', t)) :
      f s = .ok a t ∧ q.flags.needsSwap = true := by
    obtain ⟨u, hu, hx⟩ := Act.onSecond_eq_ok.1 h
    obtain ⟨rfl, rfl⟩ := Prod.mk.inj hx
    exact ⟨hu, swap⟩
  cases q with
  | shader p => exact ShaderPass.endsOn_of_draw (drawn h).1
  | copy p => exact ShaderPass.endsOn_of_draw (drawn h).1
  | blur p => exact BlurPass.endsOn_of_render colour (drawn h).1
  | effects p =>
    obtain ⟨p', hp, rfl⟩ := render_effects_eq_ok.1 h
    obtain ⟨u, kept, hu⟩ := EffectPass.render_eq_ok quiet ⟨rfl, own⟩ hp
    have busy : p'.merged.isIdle = false := by
      simpa [Merged.needsSwap] using kept.2.2.symm.trans swap
    exact kept.2.1 ▸ ((Stage.Draws.refl [] s).quiet kept.1).device.endsOn
      (EffectPass.endsOn_of_drawProgram busy hu)
  | clear p =>
    have still := (drawn (f := modify fun t : Stage ω => t.mapDevice (p.render input)) h).2
    exact absurd (own.symm.trans still) Bool.false_ne_true
  | clearMask p =>
    have still := (drawn (f := modify fun t : Stage ω => t.mapDevice ClearMaskPass.render) h).2
    exact absurd (own.symm.trans still) Bool.false_ne_true
  | _ => exact absurd (own.symm.trans (drawn h).2) Bool.false_ne_true

/-- A pass that leaves the image where it is, and is not sent to the screen, paints nothing but the
image and surfaces of its own. -/
theorem painted_of_render (quiet : QuietHooks H) {delta : Float32} {masked : Bool}
    {q' : BuiltinPass H} (own : q.OwnSwap) (opened : s.device.writeMask = .all) {a : Unit}
    (h : render input output delta masked (q, s) = .ok a (q', t))
    (still : q'.flags.needsSwap = false) (inside : q.flags.toScreen = false) :
    s.device.Recorded (fun c => ∀ x, c.painted? = some x → x = input.id ∨ x ∈ q.ownSurfaces)
      t.device := by
  have drew := drew_after_render quiet q input output delta masked opened
  unfold Act.after at drew
  rw [h] at drew
  have painted (mem : ∀ x, some x ∈ q.targets input output → q.drawMask.color = true →
      x = input.id ∨ x ∈ q.ownSurfaces) :
      s.device.Recorded (fun c => ∀ x, c.painted? = some x → x = input.id ∨ x ∈ q.ownSurfaces)
        t.device :=
    drew.recorded.mono fun c hc x hx => mem x (hc.of_painted? hx).1 (hc.of_painted? hx).2
  have regular {f : Act (Stage ω) Unit} (h : f.onSecond (q, s) = .ok a (q', t)) :
      q.flags.needsSwap = false := by
    obtain ⟨u, -, hx⟩ := Act.onSecond_eq_ok.1 h
    obtain ⟨rfl, rfl⟩ := Prod.mk.inj hx
    exact still
  cases q with
  | effects p =>
    obtain ⟨p', hp, rfl⟩ := render_effects_eq_ok.1 h
    obtain ⟨u, ⟨hu, screen, swaps⟩, drawn⟩ := EffectPass.render_eq_ok quiet ⟨rfl, own⟩ hp
    have idle : p'.merged.isIdle = true := by
      simpa [Merged.needsSwap] using swaps.symm.trans still
    have hidden : p'.flags.toScreen = false := screen.trans inside
    rw [EffectPass.drawProgram_of_idle idle hidden] at drawn
    obtain ⟨-, rfl⟩ := Act.pure_eq_ok.1 drawn
    exact ⟨[], by rw [hu.journal, List.append_nil], fun _ hc => absurd hc List.not_mem_nil⟩
  | shader p => exact absurd (own.symm.trans (regular h)) nofun
  | copy p => exact absurd (own.symm.trans (regular h)) nofun
  | blur p => exact absurd (own.symm.trans (regular h)) nofun
  | mask p => exact painted fun x _ closed => absurd closed Bool.false_ne_true
  | clearMask p => exact painted fun x hx _ => absurd hx List.not_mem_nil
  | clear p =>
    have hidden : p.flags.toScreen = false := inside
    exact painted fun x hx _ => .inl (by simpa [targets, hidden] using hx)
  | scene p =>
    have hidden : p.flags.toScreen = false := inside
    exact painted fun x hx _ => .inl (by simpa [targets, hidden] using hx)
  | depth p =>
    have hidden : p.drawing.flags.toScreen = false := inside
    exact painted fun x hx _ => .inr (by simpa [targets, hidden, ownSurfaces] using hx)
  | save p => exact painted fun x hx _ => .inr (by simpa [targets, ownSurfaces] using hx)

end BuiltinPass

end ScreenEffects
