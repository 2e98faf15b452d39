import ScreenEffects.Pass.Builtin
import ScreenEffects.Proofs.Device.Recording
import ScreenEffects.Proofs.Device.Untouched
import ScreenEffects.Proofs.Pass.Operations

/-!
# What passes keep

To render a pass of the library is to make a few calls of the device, to set uniforms, and to let the
hooks of effects do their work. A property that each of these keeps is kept by the whole, failed or not.

* `SceneCalls` : the calls of passes that draw scenes; `StageCalls` : those of all passes, which touch
  nothing that lives (`StageCalls.of_untouched`).
* `HooksKeep` : the hooks of effects keep the property.
* `BuiltinPass.keeps_of_calls` : a pass of the library keeps it.
-/

namespace ScreenEffects

variable {H ω α : Type}

/-! ## Scenes -/

section Scenes

/-- The property `I` is kept by every call that passes of scenes make. -/
structure SceneCalls (I : Device → Prop) : Prop where
  setTarget : ∀ {d} target, I d → I (d.setTarget target)
  setStencil : ∀ {d} stencil, I d → I (d.setStencil stencil)
  setWriteMask : ∀ {d} mask, I d → I (d.setWriteMask mask)
  clear : ∀ {d} flags values, I d → I (d.clear flags values)
  drawScene : ∀ scene camera override, Act.Keeps I (Device.drawScene scene camera override)

theorem sceneCalls_untouched (d₀ : Device) : SceneCalls d₀.Untouched where
  setTarget target h := h.setTarget target
  setStencil stencil h := h.setStencil stencil
  setWriteMask mask h := h.setWriteMask mask
  clear flags values h := h.clear flags values
  drawScene _ _ _ := Device.keeps_untouched_drawScene _ _ _

variable {I : Device → Prop} (calls : SceneCalls I)

include calls

theorem ClearPass.of_calls (p : ClearPass) (input : Surface) {d : Device} (h : I d) :
    I (p.render input d) :=
  calls.clear p.clear p.values (calls.setTarget _ h)

theorem ScenePass.keeps_of_calls (p : ScenePass) (target : Option SurfaceId) :
    Act.Keeps I (p.renderInto target) := by
  have scene := calls.drawScene p.scene p.camera p.override
  unfold ScenePass.renderInto
  refine Act.Keeps.bind (Act.keeps_modify fun _ h => calls.setTarget target h) fun _ => ?_
  split
  · exact (Act.keeps_modify fun _ h => calls.clear _ _ h).bind fun _ => scene
  · exact scene

theorem DepthPass.keeps_of_calls (p : DepthPass) : Act.Keeps I p.render := by
  unfold DepthPass.render
  split
  · exact p.drawing.keeps_of_calls calls none
  · cases p.surface with
    | none => exact Act.keeps_throw _
    | some t => exact p.drawing.keeps_of_calls calls (some t.id)

theorem MaskPass.keeps_of_calls (p : MaskPass) (input output : Surface) :
    Act.Keeps I (p.render input output) := by
  have aim (target : Option SurfaceId) :
      Act.Keeps I (modify (·.setTarget target) : Act Device Unit) :=
    Act.keeps_modify fun _ h => calls.setTarget target h
  have fill : Act.Keeps I p.fill := by
    have scene := calls.drawScene p.scene p.camera none
    unfold MaskPass.fill
    split
    · exact (Act.keeps_modify fun _ h => calls.clear _ _ h).bind fun _ => scene
    · exact scene
  have fills : Act.Keeps I (p.fills input output) := by
    unfold MaskPass.fills
    split
    · exact (aim _).bind fun _ => fill
    · exact (aim _).bind fun _ => fill.bind fun _ => (aim _).bind fun _ => fill
  unfold MaskPass.render
  refine Act.Keeps.bind (Act.keeps_modify fun _ h => calls.setWriteMask .none h) fun _ => ?_
  refine Act.Keeps.bind (Act.keeps_modify fun _ h => calls.setStencil _ h) fun _ d h => ?_
  rw [Act.after_ensuring]
  exact calls.setStencil _ (calls.setWriteMask _ (fills d h))

end Scenes

/-! ## Programs -/

/-- The property `I` of the stage is kept by every call that passes make on their own, without hooks of
effects. -/
structure StageCalls (I : Stage ω → Prop) : Prop where
  setUniform : ∀ {s} u v, I s → I (s.setUniform u v)
  scene : ∀ shared : Shared ω, SceneCalls fun d => I ⟨shared, d⟩
  drawScreen : ∀ (shared : Shared ω) geometry program uniforms,
    Act.Keeps (fun d => I ⟨shared, d⟩) (Device.drawScreen geometry program uniforms)

namespace StageCalls

variable {I : Stage ω → Prop}

/-- The calls of a pass touch nothing that lives. -/
theorem of_untouched (setUniform : ∀ {s : Stage ω} u v, I s → I (s.setUniform u v))
    (untouched : ∀ {shared : Shared ω} {d d' : Device}, I ⟨shared, d⟩ → d.Untouched d' → I ⟨shared, d'⟩) :
    StageCalls I where
  setUniform := setUniform
  scene _ := {
    setTarget target h := untouched h ((Device.Untouched.refl _).setTarget target)
    setStencil stencil h := untouched h ((Device.Untouched.refl _).setStencil stencil)
    setWriteMask mask h := untouched h ((Device.Untouched.refl _).setWriteMask mask)
    clear flags values h := untouched h ((Device.Untouched.refl _).clear flags values)
    drawScene _ _ _ d h := untouched h (Device.keeps_untouched_drawScene _ _ _ d (.refl d)) }
  drawScreen _ _ _ _ d h := untouched h (Device.keeps_untouched_drawScreen _ _ _ d (.refl d))

variable (calls : StageCalls I)

include calls

theorem setTarget {s : Stage ω} (h : I s) (target : Option SurfaceId) :
    I (s.mapDevice (·.setTarget target)) := (calls.scene s.toShared).setTarget target h

theorem setStencil {s : Stage ω} (h : I s) (stencil : Stencil) :
    I (s.mapDevice (·.setStencil stencil)) := (calls.scene s.toShared).setStencil stencil h

omit calls in
theorem keeps_onDevice {act : Act Device α}
    (h : ∀ shared : Shared ω, Act.Keeps (fun d => I ⟨shared, d⟩) act) :
    Act.Keeps I (Stage.onDevice act) := by
  intro s hs
  rw [Stage.after_onDevice]
  exact h s.toShared s.device hs

theorem keeps_drawInto (target : Option SurfaceId) (geometry : Geometry) (program : ShaderProgram) :
    Act.Keeps I (Stage.drawInto target geometry program) := by
  refine Act.Keeps.bind (Act.keeps_modify fun s h => calls.setTarget h target) fun _ s h => ?_
  have drawn : Act.Keeps I (Stage.onDevice (Device.drawScreen geometry program s.uniforms)) :=
    keeps_onDevice fun shared => calls.drawScreen shared geometry program s.uniforms
  exact drawn s h

end StageCalls

section Programs

variable {I : Stage ω → Prop} (calls : StageCalls I)

include calls

theorem ShaderPass.bindInput_of_calls (p : ShaderPass) (input : Surface) {s : Stage ω} (h : I s) :
    I (p.bindInput input s) := by
  unfold ShaderPass.bindInput
  cases p.program.uniforms.get? p.inputName with
  | none => exact h
  | some u => exact calls.setUniform u _ h

theorem ShaderPass.keeps_draw_of_calls (p : ShaderPass) (input target : Surface)
    (toScreen : Bool) : Act.Keeps I (p.draw input target toScreen) := by
  unfold ShaderPass.draw
  cases p.geometry with
  | none => exact Act.keeps_throw _
  | some geometry =>
    exact (Act.keeps_modify fun s h => p.bindInput_of_calls calls input h).bind fun _ =>
      calls.keeps_drawInto _ geometry p.program

theorem SavePass.keeps_of_calls (p : SavePass) (input : Surface) (masked : Bool) :
    Act.Keeps I (p.render input masked) := by
  unfold SavePass.render
  cases p.surface with
  | none => exact Act.keeps_throw _
  | some t =>
    have copy : Act.Keeps I (p.copy.shader.draw input t false) :=
      p.copy.shader.keeps_draw_of_calls calls input t false
    cases masked with
    | false => exact copy
    | true =>
      refine Act.Keeps.bind (Act.keeps_modify fun s h => calls.setStencil h .disabled) fun _ s h => ?_
      rw [Act.after_ensuring]
      exact calls.setStencil (copy s h) .insideMask

theorem BlurPass.keeps_step_of_calls (p : BlurPass) (geometry : Geometry) (source : Surface)
    (offset : Float32) (target : Option SurfaceId) :
    Act.Keeps I (p.step geometry source offset target) :=
  (Act.keeps_modify fun _ h => calls.setUniform _ _ h).bind fun _ =>
    (Act.keeps_modify fun _ h => calls.setUniform _ _ h).bind fun _ =>
      (Act.keeps_modify fun _ h => calls.setUniform _ _ h).bind fun _ =>
        calls.keeps_drawInto target geometry p.program

theorem BlurPass.keeps_steps_of_calls (p : BlurPass) (geometry : Geometry)
    (final : Option SurfaceId) (offsets : List Float32) (source near far : Surface) :
    Act.Keeps I (p.steps geometry final offsets source near far) := by
  induction offsets generalizing source near far with
  | nil => exact Act.keeps_pure _
  | cons offset offsets ih =>
    have step (target : Option SurfaceId) : Act.Keeps I (p.step geometry source offset target) :=
      p.keeps_step_of_calls calls geometry source offset target
    cases offsets with
    | nil => exact step final
    | cons => exact (step _).bind fun _ => ih near far near

theorem BlurPass.keeps_of_calls (p : BlurPass) (input output : Surface) :
    Act.Keeps I (p.render input output) := by
  unfold BlurPass.render
  cases p.geometry with
  | none => exact Act.keeps_throw _
  | some geometry =>
    cases p.surfaces with
    | none => exact Act.keeps_throw _
    | some pair => exact p.keeps_steps_of_calls calls geometry _ _ _ _ _

end Programs

/-! ## Hooks -/

/-- The property `I` of the stage is kept by the hooks. -/
structure HooksKeep (I : Stage ω → Prop) (H : Type) [EffectHooks H ω] : Prop where
  prepare : ∀ (k : H) (alpha : Bool) (precision : Precision) (s : Stage ω), I s →
    I (EffectHooks.prepare k alpha precision s).2
  update : ∀ (input : Surface) (delta : Float32) (uniforms : UniformMap),
    Act.Keeps (fun x : H × Stage ω => I x.2) (EffectHooks.update input delta uniforms)
  setSize : ∀ (k : H) (width height : UInt32) (s : Stage ω), I s →
    I (s.withShared (EffectHooks.setSize k width height s.toShared).2)
  setDepthTexture : ∀ (k : H) (t : Option Texture) (packing : DepthPacking) (s : Stage ω), I s →
    I (s.withShared (EffectHooks.setDepthTexture k t packing s.toShared).2)

section Hooks

variable [EffectHooks H ω] {I : Stage ω → Prop} (hooks : HooksKeep I H)

include hooks

namespace Hosted

variable (h : Hosted H) {s : Stage ω}

theorem prepare_of_hooks (hs : I s) (alpha : Bool) (precision : Precision) :
    I (h.prepare alpha precision s).2 := by
  unfold prepare
  split
  · exact hs
  · cases h.hooks with
    | none => exact hs
    | some k => exact hooks.prepare k alpha precision s hs

theorem setSize_of_hooks (hs : I s) (width height : UInt32) :
    I (s.withShared (h.setSize width height s.toShared).2) := by
  unfold setSize
  cases h.hooks with
  | none => exact hs
  | some k => exact hooks.setSize k width height s hs

theorem setDepthTexture_of_hooks (hs : I s) (t : Option Texture) (packing : DepthPacking) :
    I (s.withShared (h.setDepthTexture t packing s.toShared).2) := by
  unfold setDepthTexture
  cases h.hooks with
  | none => exact hs
  | some k => exact hooks.setDepthTexture k t packing s hs

omit h in
theorem keeps_update_of_hooks (input : Surface) (delta : Float32) :
    Act.Keeps (fun x : Hosted H × Stage ω => I x.2) (update input delta) := by
  rintro ⟨h, s⟩ hs
  unfold Act.after update
  cases hk : h.hooks with
  | none =>
    simp only [hk]
    exact hs
  | some k =>
    have kept := hooks.update input delta h.effect.uniforms (k, s) hs
    unfold Act.after at kept
    simp only [hk]
    cases hu : EffectHooks.update input delta h.effect.uniforms (k, s) <;> rw [hu] at kept <;>
      exact kept

end Hosted

namespace EffectPass

variable (p : EffectPass H) {s : Stage ω}

theorem setUp_of_hooks (hs : I s) (setup : PassSetup) : I (p.setUp setup s).2 :=
  keeps_threadList (fun e _ ht => e.prepare_of_hooks hooks ht setup.alpha setup.precision) p.effects hs

theorem syncEffect_of_hooks (e : Hosted H) (hs : I s) : I (p.syncEffect e s).2 := by
  unfold syncEffect
  have prepared := e.prepare_of_hooks hooks hs p.alpha p.precision
  cases p.size with
  | none => exact Hosted.setDepthTexture_of_hooks hooks _ prepared _ _
  | some size =>
    exact Hosted.setDepthTexture_of_hooks hooks _
      (Hosted.setSize_of_hooks hooks _ prepared size.1 size.2) _ _

theorem syncEffects_of_hooks (hs : I s) : I (p.syncEffects s).2 := by
  unfold syncEffects
  split
  · exact keeps_threadList (fun e t ht => p.syncEffect_of_hooks hooks e ht) p.effects hs
  · exact hs

omit p in
theorem keeps_updateEffects_of_hooks (input : Surface) (delta : Float32) :
    Act.Keeps (fun x : EffectPass H × Stage ω => I x.2) (updateEffects input delta) := by
  rintro ⟨p, s⟩ hs
  unfold updateEffects
  rw [Act.after_within]
  exact (Act.keeps_forEach (A := fun _ => True) (I := I)
    (fun y hy => ⟨trivial, Hosted.keeps_update_of_hooks hooks input delta y hy.2⟩) (p.effects, s)
    ⟨fun _ _ => trivial, hs⟩).2

section Uniforms

variable (set : ∀ {s : Stage ω} u v, I s → I (s.setUniform u v))

include set

omit hooks [EffectHooks H ω] in
theorem bindFrame_of_setUniform (hs : I s) (input : Surface) (delta : Float32) :
    I (p.bindFrame input delta s) := by
  have timed : I ((s.setUniform p.runtime.inputBuffer (.texture (some input.color))).setUniform
      p.runtime.time (.float (p.time (s.setUniform p.runtime.inputBuffer
        (.texture (some input.color))).uniforms + delta))) :=
    set _ _ (set _ _ hs)
  unfold bindFrame
  cases p.camera with
  | none => exact timed
  | some camera => exact set _ _ (set _ _ timed)

omit p in
/-- Up to the draw at its end, a frame of effects sets uniforms and leaves the rest to the hooks. -/
theorem keeps_beforeDraw_of_hooks (input : Surface) (delta : Float32) :
    Act.Keeps (fun x : EffectPass H × Stage ω => I x.2) (beforeDraw input delta) := by
  unfold beforeDraw
  refine Act.Keeps.bind (fun x h => ?_) fun _ => ?_
  · rw [Act.after_onFirst]
    exact h
  refine Act.Keeps.bind
    (Act.keeps_modify fun x h => x.1.syncEffects_of_hooks hooks h) fun _ => ?_
  refine Act.keeps_get.bind fun _ => Act.Keeps.bind
    (Act.keeps_modify fun x h => x.1.bindFrame_of_setUniform set h input _) fun _ => ?_
  exact keeps_updateEffects_of_hooks hooks input _

end Uniforms

variable (calls : StageCalls I)

include calls

omit hooks [EffectHooks H ω] in
theorem keeps_drawProgram_of_calls (output : Surface) : Act.Keeps I (p.drawProgram output) := by
  unfold drawProgram
  split
  · exact Act.keeps_pure _
  · cases p.geometry with
    | none => exact Act.keeps_throw _
    | some geometry => exact calls.keeps_drawInto _ geometry p.program

omit p in
theorem keeps_of_calls (input output : Surface) (delta : Float32) :
    Act.Keeps (fun x : EffectPass H × Stage ω => I x.2) (render input output delta) := by
  rw [render_eq_beforeDraw]
  refine (keeps_beforeDraw_of_hooks hooks calls.setUniform input delta).bind fun _ => ?_
  refine Act.keeps_get.bind fun x => ?_
  rintro ⟨p, s⟩ h
  rw [Act.after_onSecond]
  exact x.1.keeps_drawProgram_of_calls calls output s h

end EffectPass

/-! ## All passes -/

omit hooks in
/-- Rendering changes no pass that is not one of effects, and such a pass stays one. -/
theorem BuiltinPass.eq_or_effects_after_render (input output : Surface) (delta : Float32)
    (masked : Bool) (q : BuiltinPass H) (s : Stage ω) :
    ((render input output delta masked).after (q, s)).1 = q ∨
      ∃ p, q = effects p ∧ ((render input output delta masked).after (q, s)).1 =
        effects ((EffectPass.render input output delta).after (p, s)).1 := by
  have alone (act : Act (Stage ω) Unit) :
      ((act.onSecond : Act (BuiltinPass H × Stage ω) Unit).after (q, s)).1 = q :=
    congrArg Prod.fst (Act.after_onSecond act q s)
  cases q with
  | effects p => exact .inr ⟨p, rfl, congrArg Prod.fst (after_wrap rfl)⟩
  | clear p => exact .inl (alone (modify (·.mapDevice (p.render input))))
  | clearMask p => exact .inl (alone (modify (·.mapDevice ClearMaskPass.render)))
  | _ => exact .inl (alone _)

/-- **To render a pass of the library keeps what its calls and the hooks of effects keep.** -/
theorem BuiltinPass.keeps_of_calls (calls : StageCalls I) (input output : Surface) (delta : Float32)
    (masked : Bool) :
    Act.Keeps (fun x : BuiltinPass H × Stage ω => I x.2) (render input output delta masked) := by
  rintro ⟨q, s⟩ hs
  have alone {f : Act (Stage ω) Unit} (kept : Act.Keeps I f) :
      I (f.onSecond.after (q, s)).2 := by
    rw [Act.after_onSecond]
    exact kept s hs
  cases q with
  | clear p =>
    exact alone (f := modify (·.mapDevice (p.render input)))
      (Act.keeps_modify fun t ht => p.of_calls (calls.scene t.toShared) input ht)
  | scene p =>
    exact alone (StageCalls.keeps_onDevice fun shared => p.keeps_of_calls (calls.scene shared) _)
  | depth p =>
    exact alone (StageCalls.keeps_onDevice fun shared => p.keeps_of_calls (calls.scene shared))
  | mask p =>
    exact alone (StageCalls.keeps_onDevice fun shared =>
      p.keeps_of_calls (calls.scene shared) input output)
  | clearMask p =>
    exact alone (f := modify (·.mapDevice ClearMaskPass.render))
      (Act.keeps_modify fun t ht => calls.setStencil ht .disabled)
  | shader p => exact alone (p.keeps_draw_of_calls calls input output _)
  | copy p => exact alone (p.shader.keeps_draw_of_calls calls input output _)
  | save p => exact alone (p.keeps_of_calls calls input masked)
  | blur p => exact alone (p.keeps_of_calls calls input output)
  | effects p =>
    rw [after_wrap rfl]
    exact EffectPass.keeps_of_calls hooks calls input output delta (p, s) hs

end Hooks

end ScreenEffects
