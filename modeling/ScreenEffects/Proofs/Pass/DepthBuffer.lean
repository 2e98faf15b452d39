import ScreenEffects.Pass.Builtin
import ScreenEffects.Pipeline.Basic
import ScreenEffects.Proofs.Effect.Sparing
import ScreenEffects.Proofs.Merge.Isolation
import ScreenEffects.Proofs.Pass.Operations
import ScreenEffects.Proofs.Pass.Coherence
import ScreenEffects.Proofs.Pass.Kept

/-!
# The depth buffer of a pass

A pass of effects keeps the depth texture it was handed in two places, in a field and in a uniform of
its own under the name `depthBuffer`. If that uniform is reserved, then nothing but handing the pass a
texture changes either: no merge hides the name, and no pass and no hooks write the uniform.

* `BuiltinPass.Guards R b t` : the pass writes no uniform of `R` but its own depth buffer `b`, and it
  holds the depth texture `t`.
* `BuiltinPass.guards_setDepthTexture` : what handing a pass a texture does.
* `keeps_setUp`, `keeps_setSize`, `keeps_render` : nothing else changes what it holds.
-/

namespace ScreenEffects

variable {H ω : Type} {R : Uniform → Prop} {u : Uniform} {t : Option Texture}

/-- Of the uniforms of a pass, just the depth buffer is reserved. -/
structure RuntimeUniforms.Reserves (R : Uniform → Prop) (r : RuntimeUniforms) : Prop where
  depthBuffer : R r.depthBuffer
  inputBuffer : ¬ R r.inputBuffer
  resolution : ¬ R r.resolution
  texelSize : ¬ R r.texelSize
  cameraNear : ¬ R r.cameraNear
  cameraFar : ¬ R r.cameraFar
  aspect : ¬ R r.aspect
  time : ¬ R r.time

/-- The uniforms of a pass are new, and its depth buffer begins without a texture. -/
theorem RuntimeUniforms.spares_create (R : Uniform → Prop) (s : UniformStore) :
    s.Spares R (create s).2 ∧ ¬ s.Holds (create s).1.depthBuffer ∧
      (create s).2.Holds (create s).1.depthBuffer ∧
      (create s).2.get (create s).1.depthBuffer = .texture none := by
  let image := (s.alloc (.texture none)).2
  let depth := (image.alloc (.texture none)).2
  have later (R : Uniform → Prop) : depth.Spares R (create s).2 :=
    ((((((UniformStore.Spares.refl R depth).alloc _).alloc _).alloc _).alloc _).alloc _).alloc _
  have held : depth.Holds (create s).1.depthBuffer := by
    change image.cells.size < (image.cells.push _).size
    rw [Array.size_push]
    exact Nat.lt_succ_self _
  have new : ¬ s.Holds (create s).1.depthBuffer := by
    change ¬ (s.cells.push _).size < s.cells.size
    rw [Array.size_push]
    exact Nat.not_succ_lt_self
  refine ⟨(((UniformStore.Spares.refl R s).alloc _).alloc _).trans (later R), new,
    (later R).holds held, ?_⟩
  exact ((later fun _ => True).kept _ trivial held).trans (image.get_alloc_self _)

/-! ## Passes of effects -/

namespace EffectPass

/-- The depth buffer `u` of the pass is reserved, its program reads it under its name, nothing else
that the pass or its effects write is reserved, and the pass holds the depth texture `t`. -/
structure Guards (R : Uniform → Prop) (u : Uniform) (t : Option Texture) (p : EffectPass H) :
    Prop where
  runtime : p.runtime.Reserves R
  buffer : p.runtime.depthBuffer = u
  bound : p.program.uniforms.get? "depthBuffer" = some u
  effects : ∀ h ∈ p.effects, UniformMap.Avoids R h.effect.uniforms
  texture : p.depthTexture = t

variable {p : EffectPass H}

theorem Guards.withMerge (h : p.Guards R u t) {effects : List (Hosted H)}
    (avoids : ∀ h ∈ effects, UniformMap.Avoids R h.effect.uniforms) {m : Merged}
    (hm : mergeHosted effects = .ok m) : (p.withMerge effects m).Guards R u t where
  runtime := h.runtime
  buffer := h.buffer
  bound := by
    rw [← h.buffer]
    exact get?_table_extend (mergeHosted_eq_ok_iff.1 hm) p.runtime (by decide)
  effects := by
    intro e he
    obtain ⟨e', he', rfl⟩ := List.mem_map.1 he
    exact avoids e' he'
  texture := h.texture

/-- A pass of effects is made with new uniforms of its own, and without a depth texture. -/
theorem guards_of_create {camera : Option Camera} {effects : List (Hosted H)}
    {config : EffectPassConfig} {s s' : UniformStore} (h : create camera effects config s = .ok (p, s'))
    (reserves : (RuntimeUniforms.create s).1.Reserves R)
    (avoids : ∀ h ∈ effects, UniformMap.Avoids R h.effect.uniforms) :
    p.Guards R (RuntimeUniforms.create s).1.depthBuffer none ∧ s' = (RuntimeUniforms.create s).2 := by
  obtain ⟨m, hm, rfl, rfl⟩ := exists_withMerge_of_create h
  refine ⟨⟨reserves, rfl, ?_, fun e he => ?_, rfl⟩, rfl⟩
  · exact get?_table_extend (mergeHosted_eq_ok_iff.1 hm) _ (by decide)
  · obtain ⟨e', he', rfl⟩ := List.mem_map.1 he
    exact avoids e' he'

theorem keeps_guards_changeEffects {effects : List (Hosted H)}
    (avoids : ∀ h ∈ effects, UniformMap.Avoids R h.effect.uniforms) :
    Act.Keeps (Guards R u t) (changeEffects effects) :=
  keeps_changeEffects_of_withMerge fun _ _ h hm => h.withMerge avoids hm

theorem keeps_guards_recompile : Act.Keeps (Guards R u t) (recompile (H := H)) :=
  keeps_recompile_of_withMerge fun _ _ h hm => h.withMerge h.effects hm

/-- A change of the effects that leaves their descriptions alone is none to the depth buffer. -/
theorem Guards.withEffects (h : p.Guards R u t) {effects : List (Hosted H)}
    (hv : effects.map Hosted.view = p.effects.map Hosted.view) :
    Guards R u t { p with effects } := by
  refine { h with effects := fun e he => ?_ }
  have mem : e.effect ∈ p.effects.map (·.effect) :=
    Hosted.map_effect_eq hv ▸ List.mem_map_of_mem he
  obtain ⟨e', he', eq⟩ := List.mem_map.1 mem
  exact eq ▸ h.effects e' he'

/-! ### Edits -/

/-- The operation brings in no uniform of `R`. -/
def Op.Avoids (R : Uniform → Prop) : Op H ω → Prop
  | .setEffects effects => ∀ h ∈ effects, UniformMap.Avoids R h.effect.uniforms
  | .addEffect h => UniformMap.Avoids R h.effect.uniforms
  | .editEffect _ (.addUniform _ u) => ¬ R u
  | _ => True

theorem avoids_ite {c : Prop} [Decidable c] {h h' : Hosted H}
    (avoids : UniformMap.Avoids R h.effect.uniforms)
    (avoids' : UniformMap.Avoids R h'.effect.uniforms) :
    UniformMap.Avoids R (if c then h else h').effect.uniforms := by
  split <;> assumption

theorem avoids_apply {h : Hosted H} (avoids : UniformMap.Avoids R h.effect.uniforms)
    {edit : Hosted.Edit} {index : Nat} (he : (Op.editEffect index edit : Op H ω).Avoids R) :
    UniformMap.Avoids R (edit.apply h).effect.uniforms := by
  cases edit with
  | addUniform name u =>
    intro w hw
    rcases OrderedMap.mem_values_insert hw with rfl | hw
    · exact he
    · exact avoids w hw
  | removeUniform name =>
    exact avoids_ite (fun w hw => avoids w (OrderedMap.mem_values_of_mem_erase hw)) avoids
  | removeDefine name => exact avoids_ite avoids avoids
  | setAttributes a => exact avoids_ite avoids avoids
  | setBlendFunction f => exact avoids_ite avoids avoids
  | _ => exact avoids

section Hooks

variable [EffectHooks H ω]

/-- An edit that brings in no reserved uniform leaves the depth buffer alone, failed or not. -/
theorem Guards.edit {op : Op H ω} (edits : op.IsEdit) (avoids : op.Avoids R) (h : p.Guards R u t)
    (s : Stage ω) : (op.perform.after (p, s)).1.Guards R u t := by
  have first {α : Type} {act : Act (EffectPass H) α} (hk : Act.Keeps (Guards R u t) act) :
      ((act.onFirst).after (p, s)).1.Guards R u t := by
    rw [Act.after_onFirst]
    exact hk p h
  cases op with
  | setEffects effects =>
    have keeps : Act.Keeps (Guards R u t) (setEffects effects) :=
      keeps_setEffects_of_changeEffects (keeps_guards_changeEffects avoids)
    exact (keeps.onFirst.bind fun _ => Act.keeps_pure _) (p, s) h
  | addEffect effect =>
    refine first (keeps_addEffect_of_changeEffects fun p h =>
      keeps_guards_changeEffects (fun e he => ?_) p h)
    rcases List.mem_append.1 he with he | he
    · exact h.effects e he
    · exact List.mem_singleton.1 he ▸ avoids
  | removeEffect index =>
    have keeps : Act.Keeps (Guards R u t) (removeEffect (H := H) index) :=
      keeps_removeEffect_of_changeEffects fun p h => keeps_guards_changeEffects
        (fun e he => h.effects e (List.mem_of_mem_eraseIdx he)) p h
    exact (keeps.onFirst.bind fun _ => Act.keeps_pure _) (p, s) h
  | editEffect index edit =>
    exact { h with
      effects := forall_mem_modify (A := fun e : Hosted H => UniformMap.Avoids R e.effect.uniforms)
        (fun e he => avoids_apply he avoids) h.effects index }
  | markDirty => exact { h with }
  | recompile => exact first keeps_guards_recompile
  | setDithering dithering =>
    change (p.setDithering dithering).Guards R u t
    unfold EffectPass.setDithering
    split
    · exact h
    · exact { h with }
  | setFlags flags => exact { h with }
  | setMainCamera camera => exact { h with }
  | _ => exact edits.elim

/-! ### Life in a pipeline -/

theorem Guards.setUp (h : p.Guards R u t) (setup : PassSetup) (s : Stage ω) :
    (p.setUp setup s).1.Guards R u t :=
  { h.withEffects (map_threadList
    (fun e s => Hosted.view_prepare e setup.alpha setup.precision s) p.effects s) with }

theorem Guards.setSize (h : p.Guards R u t) (width height : UInt32) (s : Shared ω) :
    (p.setSize width height s).1.Guards R u t :=
  { h.withEffects (map_threadList (fun e s => Hosted.view_setSize e width height s) p.effects
    (bindSize p.runtime width height s)) with }

theorem Guards.syncEffects (h : p.Guards R u t) (s : Stage ω) :
    (p.syncEffects s).1.Guards R u t := by
  unfold EffectPass.syncEffects
  split
  · exact { h.withEffects (map_threadList (view_syncEffect p) p.effects s) with }
  · exact h

theorem Guards.dispose (h : p.Guards R u t) (s : Stage ω) : (p.dispose s).1.Guards R u t :=
  { h.withEffects (map_threadList (fun e s => Hosted.view_dispose e s) p.effects s) with }

/-- To hand the pass a texture changes what it holds, and nothing else of this. -/
theorem Guards.setDepthTexture (h : p.Guards R u t) (t' : Option Texture) (packing : DepthPacking)
    (s : Shared ω) : (p.setDepthTexture t' packing s).1.Guards R u t' :=
  { h.withEffects (map_threadList (fun e s => Hosted.view_setDepthTexture e t' packing s) p.effects
    (s.setUniform p.runtime.depthBuffer (.texture t'))) with texture := rfl }

/-! ### The stage -/

section Sparing

variable (sparing : SparingHooks R H)

include sparing

theorem spares_setUp (p : EffectPass H) (setup : PassSetup) (s : Stage ω) :
    s.Spares R (p.setUp setup s).2 :=
  keeps_threadList
    (fun e t ht => ht.trans (e.spares_prepare sparing setup.alpha setup.precision t)) p.effects
    (.refl R s)

theorem spares_setSize (h : p.runtime.Reserves R) (width height : UInt32) (s : Shared ω) :
    s.uniforms.Spares R (p.setSize width height s).2.uniforms :=
  keeps_threadList (I := fun t : Shared ω => s.uniforms.Spares R t.uniforms)
    (fun e t ht => ht.trans (e.spares_setSize sparing width height t)) p.effects
    ((((UniformStore.Spares.refl R s.uniforms).set h.resolution _).set h.texelSize _).set
      h.aspect _)

/-- To hand the pass a texture changes its depth buffer, and no other reserved uniform. -/
theorem spares_setDepthTexture (p : EffectPass H) (t : Option Texture) (packing : DepthPacking)
    (s : Shared ω) :
    s.uniforms.Spares (fun w => R w ∧ w ≠ p.runtime.depthBuffer)
        (p.setDepthTexture t packing s).2.uniforms ∧
      (R p.runtime.depthBuffer → s.uniforms.Holds p.runtime.depthBuffer →
        (p.setDepthTexture t packing s).2.uniforms.get p.runtime.depthBuffer = .texture t) := by
  have told : (s.setUniform p.runtime.depthBuffer (.texture t)).uniforms.Spares R
      (p.setDepthTexture t packing s).2.uniforms :=
    keeps_threadList (I := fun v : Shared ω =>
        (s.setUniform p.runtime.depthBuffer (.texture t)).uniforms.Spares R v.uniforms)
      (fun e v hv => hv.trans (e.spares_setDepthTexture sparing t packing v)) p.effects (.refl R _)
  have set : s.uniforms.Spares (fun w => R w ∧ w ≠ p.runtime.depthBuffer)
      (s.setUniform p.runtime.depthBuffer (.texture t)).uniforms :=
    (UniformStore.Spares.refl _ s.uniforms).set (fun h => h.2 rfl) _
  refine ⟨set.trans (told.mono fun w hw => hw.1), fun hR held => ?_⟩
  have bound : (s.setUniform p.runtime.depthBuffer (.texture t)).uniforms.get
      p.runtime.depthBuffer = .texture t := by
    rw [Shared.setUniform, UniformStore.get_set held, if_pos rfl]
  refine (told.kept _ hR ?_).trans bound
  exact Nat.lt_of_lt_of_le held (Nat.le_of_eq (UniformStore.size_set ..).symm)

theorem spares_syncEffect (p : EffectPass H) (e : Hosted H) (s : Stage ω) :
    s.Spares R (p.syncEffect e s).2 := by
  unfold syncEffect
  have prepared := e.spares_prepare sparing p.alpha p.precision s
  cases p.size with
  | none => exact prepared.withShared (Hosted.spares_setDepthTexture sparing _ _ _ _)
  | some size =>
    exact prepared.withShared ((Hosted.spares_setSize sparing _ _ _ _).trans
      (Hosted.spares_setDepthTexture sparing _ _ _ _))

theorem spares_syncEffects (p : EffectPass H) (s : Stage ω) : s.Spares R (p.syncEffects s).2 := by
  unfold syncEffects
  split
  · exact keeps_threadList (fun e t ht => ht.trans (p.spares_syncEffect sparing e t)) p.effects
      (.refl R s)
  · exact .refl R s

theorem spares_dispose (p : EffectPass H) (s : Stage ω) : s.Spares R (p.dispose s).2 :=
  keeps_threadList (fun e t ht => ht.trans (e.spares_dispose sparing t)) p.effects (.refl R s)

omit sparing [EffectHooks H ω] in
theorem spares_bindFrame (h : p.runtime.Reserves R) (input : Surface) (delta : Float32)
    (s : Stage ω) : s.Spares R (p.bindFrame input delta s) := by
  have image : s.Spares R (s.setUniform p.runtime.inputBuffer (.texture (some input.color))) :=
    (Stage.Spares.refl R s).setUniform h.inputBuffer _
  have times := image.setUniform h.time (.float (p.time (s.setUniform p.runtime.inputBuffer
    (.texture (some input.color))).uniforms + delta))
  unfold bindFrame
  cases p.camera with
  | none => exact times
  | some camera => exact (times.setUniform h.cameraNear _).setUniform h.cameraFar _

variable {s₀ : Stage ω}

theorem keeps_guards_updateEffects (input : Surface) (delta : Float32) :
    Act.Keeps (fun x : EffectPass H × Stage ω => x.1.Guards R u t ∧ s₀.Spares R x.2)
      (updateEffects input delta) := by
  rintro ⟨p, s⟩ ⟨h, hs⟩
  unfold updateEffects
  rw [Act.after_within]
  refine ⟨h.withEffects (Act.map_after_forEach (Hosted.view_update input delta) p.effects s), ?_⟩
  refine (Act.keeps_forEach (A := fun e => UniformMap.Avoids R e.effect.uniforms)
    (I := s₀.Spares R) (fun y hy => ?_) (p.effects, s) ⟨h.effects, hs⟩).2
  have same : ((Hosted.update input delta).after y).1.effect = y.1.effect :=
    congrArg Prod.fst (Hosted.view_update input delta y)
  exact ⟨same ▸ hy.1, hy.2.trans (Hosted.spares_update sparing input delta y hy.1)⟩

omit sparing [EffectHooks H ω] in
theorem keeps_spares_drawProgram (p : EffectPass H) (output : Surface) :
    Act.Keeps (s₀.Spares R) (p.drawProgram output) := by
  unfold drawProgram
  split
  · exact Act.keeps_pure _
  · cases p.geometry with
    | none => exact Act.keeps_throw _
    | some geometry =>
      refine Act.Keeps.bind (Act.keeps_modify fun s h => ?_) fun _ =>
        Stage.Spares.keeps_drawScreen geometry p.program
      exact h.mapDevice ((Device.SparesDepth.refl s.device).congr rfl rfl)

theorem keeps_guards_beforeDraw (input : Surface) (delta : Float32) :
    Act.Keeps (fun x : EffectPass H × Stage ω => x.1.Guards R u t ∧ s₀.Spares R x.2)
      (beforeDraw input delta) := by
  unfold beforeDraw
  refine keeps_guards_recompile.onFirst_and.bind fun _ => ?_
  refine (Act.keeps_modify fun x h =>
    ⟨h.1.syncEffects x.2, h.2.trans (x.1.spares_syncEffects sparing x.2)⟩).bind fun _ => ?_
  refine Act.keeps_get.bind fun _ => ?_
  refine Act.Keeps.bind (Act.keeps_modify fun x h =>
    ⟨h.1, h.2.trans (spares_bindFrame h.1.runtime input _ x.2)⟩) fun _ => ?_
  exact keeps_guards_updateEffects sparing input _

theorem keeps_guards_render (input output : Surface) (delta : Float32) :
    Act.Keeps (fun x : EffectPass H × Stage ω => x.1.Guards R u t ∧ s₀.Spares R x.2)
      (render input output delta) := by
  rw [render_eq_beforeDraw]
  refine (keeps_guards_beforeDraw sparing input delta).bind fun _ => ?_
  exact Act.keeps_get.bind fun x => (keeps_spares_drawProgram x.1 output).and_onSecond

end Sparing

end Hooks

end EffectPass

/-! ## The other passes -/

section Programs

variable {s₀ : Stage ω}

/-- The pass binds the image to no uniform of `R`. -/
def ShaderPass.Avoids (R : Uniform → Prop) (p : ShaderPass) : Prop :=
  ∀ u, p.program.uniforms.get? p.inputName = some u → ¬ R u

theorem ShaderPass.Avoids.setUp {p : ShaderPass} (h : p.Avoids R) (setup : PassSetup) :
    (p.setUp setup).Avoids R := by
  have same : (p.setUp setup).program.uniforms = p.program.uniforms := by
    unfold ShaderPass.setUp ShaderProgram.forPrecision
    cases setup.precision <;> rfl
  intro u hu
  rw [same] at hu
  exact h u hu

theorem ShaderPass.keeps_spares_draw {p : ShaderPass} (h : p.Avoids R) (input target : Surface)
    (toScreen : Bool) : Act.Keeps (s₀.Spares R) (p.draw input target toScreen) := by
  unfold ShaderPass.draw
  cases p.geometry with
  | none => exact Act.keeps_throw _
  | some geometry =>
    refine Act.Keeps.bind (Act.keeps_modify fun s hs => ?_) fun _ => ?_
    · unfold ShaderPass.bindInput
      cases hu : p.program.uniforms.get? p.inputName with
      | none => exact hs
      | some u => exact hs.setUniform (h u hu) _
    · refine Act.Keeps.bind (Act.keeps_modify fun s hs => ?_) fun _ =>
        Stage.Spares.keeps_drawScreen geometry p.program
      exact hs.mapDevice ((Device.SparesDepth.refl s.device).congr rfl rfl)

/-- The uniforms of the blur are none of `R`. -/
structure BlurPass.Avoids (R : Uniform → Prop) (p : BlurPass) : Prop where
  inputBuffer : ¬ R p.inputBuffer
  texelSize : ¬ R p.texelSize
  kernel : ¬ R p.kernel

theorem BlurPass.keeps_spares_step {p : BlurPass} (h : p.Avoids R) (geometry : Geometry)
    (source : Surface) (offset : Float32) (target : Option SurfaceId) :
    Act.Keeps (s₀.Spares R) (p.step geometry source offset target) := by
  unfold BlurPass.step
  refine Act.Keeps.bind (Act.keeps_modify fun s hs => hs.setUniform h.inputBuffer _) fun _ => ?_
  refine Act.Keeps.bind (Act.keeps_modify fun s hs => hs.setUniform h.texelSize _) fun _ => ?_
  refine Act.Keeps.bind (Act.keeps_modify fun s hs => hs.setUniform h.kernel _) fun _ => ?_
  refine Act.Keeps.bind (Act.keeps_modify fun s hs => ?_) fun _ =>
    Stage.Spares.keeps_drawScreen geometry p.program
  exact hs.mapDevice ((Device.SparesDepth.refl s.device).congr rfl rfl)

theorem BlurPass.keeps_spares_steps {p : BlurPass} (h : p.Avoids R) (geometry : Geometry)
    (final : Option SurfaceId) (offsets : List Float32) (source near far : Surface) :
    Act.Keeps (s₀.Spares R) (p.steps geometry final offsets source near far) := by
  induction offsets generalizing source near far with
  | nil => exact Act.keeps_pure _
  | cons offset offsets ih =>
    cases offsets with
    | nil => exact keeps_spares_step h geometry source offset final
    | cons => exact (keeps_spares_step h geometry source offset _).bind fun _ => ih near far near

theorem BlurPass.keeps_spares_render {p : BlurPass} (h : p.Avoids R) (input output : Surface) :
    Act.Keeps (s₀.Spares R) (p.render input output) := by
  unfold BlurPass.render
  cases p.geometry with
  | none => exact Act.keeps_throw _
  | some geometry =>
    cases p.surfaces with
    | none => exact Act.keeps_throw _
    | some pair => exact keeps_spares_steps h geometry _ _ _ _ _

theorem SavePass.keeps_spares_render {p : SavePass} (h : p.copy.shader.Avoids R) (input : Surface)
    (masked : Bool) : Act.Keeps (s₀.Spares R) (p.render input masked) := by
  unfold SavePass.render
  cases p.surface with
  | none => exact Act.keeps_throw _
  | some t =>
    have copy : Act.Keeps (s₀.Spares R) (p.copy.shader.draw input t false) :=
      ShaderPass.keeps_spares_draw h input t false
    have tested (stencil : Stencil) {s : Stage ω} (hs : s₀.Spares R s) :
        s₀.Spares R (s.mapDevice (·.setStencil stencil)) :=
      hs.mapDevice ((Device.SparesDepth.refl s.device).congr rfl rfl)
    cases masked with
    | false => exact copy
    | true =>
      intro s hs
      change s₀.Spares R (((p.copy.shader.draw input t false).ensuring
        (·.mapDevice (·.setStencil .insideMask))).after (s.mapDevice (·.setStencil .disabled)))
      rw [Act.after_ensuring]
      exact tested _ (copy _ (tested _ hs))

/-! ### Surfaces of passes -/

theorem DepthPass.sparesDepth_setUp (p : DepthPass) (setup : PassSetup) (d : Device) :
    d.SparesDepth (p.setUp setup d).2 := by
  unfold DepthPass.setUp
  cases p.surface with
  | none => exact (Device.SparesDepth.refl d).createSurface _
  | some x => exact .refl d

theorem SavePass.sparesDepth_setUp (p : SavePass) (setup : PassSetup) (d : Device) :
    d.SparesDepth (p.setUp setup d).2 := by
  unfold SavePass.setUp
  cases p.surface with
  | none => exact (Device.SparesDepth.refl d).createSurface _
  | some x => exact .refl d

theorem SavePass.avoids_setUp {p : SavePass} (h : p.copy.shader.Avoids R) (setup : PassSetup)
    (d : Device) : (p.setUp setup d).1.copy.shader.Avoids R := by
  unfold SavePass.setUp
  cases p.surface <;> exact h.setUp setup

theorem BlurPass.sparesDepth_setUp (p : BlurPass) (setup : PassSetup) (d : Device) :
    d.SparesDepth (p.setUp setup d).2 := by
  unfold BlurPass.setUp
  cases p.surfaces with
  | none => exact ((Device.SparesDepth.refl d).createSurface _).createSurface _
  | some x => exact .refl d

theorem BlurPass.Avoids.setUp {p : BlurPass} (h : p.Avoids R) (setup : PassSetup) (d : Device) :
    (p.setUp setup d).1.Avoids R := by
  unfold BlurPass.setUp
  cases p.surfaces <;> exact ⟨h.1, h.2, h.3⟩

theorem keeps_spares_resizeSurface (x : Surface) (width height : UInt32) :
    Act.Keeps (s₀.Spares R)
      (Stage.onDevice (Device.resizeSurface x width height) : Act (Stage ω) Surface) :=
  Stage.Spares.keeps_onDevice fun _ => Device.SparesDepth.keeps_resizeSurface x width height

theorem keeps_spares_resizeOptional (width height : UInt32) :
    Act.Keeps (fun x : Option Surface × Stage ω => s₀.Spares R x.2)
      (resizeOptional width height) := by
  rintro ⟨t, s⟩ hs
  cases t with
  | none => exact hs
  | some t =>
    have kept := keeps_spares_resizeSurface t width height s hs
    unfold Act.after at kept ⊢
    unfold resizeOptional
    simp only
    cases h : Stage.onDevice (Device.resizeSurface t width height) s <;> rw [h] at kept <;>
      exact kept

theorem DepthPass.keeps_spares_setSize (width height : UInt32) :
    Act.Keeps (fun x : DepthPass × Stage ω => s₀.Spares R x.2) (setSize width height) := by
  rintro ⟨p, s⟩ hs
  unfold DepthPass.setSize
  change s₀.Spares R ((Act.within _ _ _).after _).2
  rw [Act.after_within]
  exact keeps_spares_resizeOptional _ _ (p.surface, s) hs

theorem SavePass.keeps_avoids_setSize (width height : UInt32) :
    Act.Keeps (fun x : SavePass × Stage ω => x.1.copy.shader.Avoids R ∧ s₀.Spares R x.2)
      (setSize width height) := by
  rintro ⟨p, s⟩ ⟨hp, hs⟩
  cases hf : p.fixed with
  | true =>
    have e : (setSize width height : Act (SavePass × Stage ω) Unit) (p, s) = .ok () (p, s) :=
      if_pos hf
    unfold Act.after
    rw [e]
    exact ⟨hp, hs⟩
  | false =>
    have e : (setSize width height : Act (SavePass × Stage ω) Unit) (p, s) =
        Act.within (·.surface) ({ · with surface := · }) (resizeOptional width height) (p, s) :=
      if_neg (by simp [hf])
    have resized : (setSize width height : Act (SavePass × Stage ω) Unit).after (p, s) =
        (Act.within (·.surface) ({ · with surface := · })
          (resizeOptional width height)).after (p, s) := by
      unfold Act.after
      rw [e]
    rw [resized, Act.after_within]
    exact ⟨hp, keeps_spares_resizeOptional _ _ (p.surface, s) hs⟩

theorem BlurPass.keeps_avoids_setSize (width height : UInt32) :
    Act.Keeps (fun x : BlurPass × Stage ω => x.1.Avoids R ∧ s₀.Spares R x.2)
      (setSize width height) := by
  have resize (x : Surface) (w h : UInt32) :
      Act.Keeps (fun x : BlurPass × Stage ω => x.1.Avoids R ∧ s₀.Spares R x.2)
        (Act.onSecond (Stage.onDevice (Device.resizeSurface x w h))) :=
    (keeps_spares_resizeSurface x w h).and_onSecond
  unfold BlurPass.setSize
  refine Act.Keeps.bind (Act.keeps_modify fun x h => ⟨⟨h.1.1, h.1.2, h.1.3⟩, h.2⟩) fun _ => ?_
  refine Act.keeps_get.bind fun x => ?_
  cases hx : x.1.surfaces with
  | none =>
    simp only [hx]
    exact Act.keeps_pure _
  | some pair =>
    simp only [hx]
    refine (resize pair.1 _ _).bind fun a => ?_
    refine Act.Keeps.bind (Act.keeps_modify fun x h => ⟨⟨h.1.1, h.1.2, h.1.3⟩, h.2⟩) fun _ => ?_
    exact (resize pair.2 _ _).bind fun b =>
      Act.keeps_modify fun x h => ⟨⟨h.1.1, h.1.2, h.1.3⟩, h.2⟩

end Programs

/-! ## Passes of the library -/

namespace BuiltinPass

/-- The depth buffer of a pass of effects; the other passes have none. -/
def depthBuffer? : BuiltinPass H → Option Uniform
  | effects p => some p.runtime.depthBuffer
  | _ => none

/-- The pass writes no uniform of `R` apart from its depth buffer, which is `b`, and it holds the
depth texture `t`, if it is a pass that is handed one. -/
def Guards (R : Uniform → Prop) (b : Option Uniform) (t : Option Texture) : BuiltinPass H → Prop
  | shader p => b = none ∧ p.Avoids R
  | copy p => b = none ∧ p.shader.Avoids R
  | save p => b = none ∧ p.copy.shader.Avoids R
  | blur p => b = none ∧ p.Avoids R
  | effects p => ∃ u, b = some u ∧ p.Guards R u t
  | _ => b = none

variable {b : Option Uniform} {q : BuiltinPass H}

theorem guards_iff :
    q.Guards R b t ↔ q.depthBuffer? = b ∧ q.Guards R q.depthBuffer? t := by
  have buffer (h : q.Guards R b t) : q.depthBuffer? = b := by
    cases q with
    | effects p =>
      obtain ⟨u, rfl, h⟩ := h
      exact congrArg some h.buffer
    | shader | copy | save | blur => exact h.1.symm
    | _ => exact Eq.symm h
  exact ⟨fun h => ⟨buffer h, (buffer h).symm ▸ h⟩, fun h => h.1 ▸ h.2⟩

/-- The depth buffer of a pass is reserved. -/
theorem Guards.reserved {u : Uniform} (h : q.Guards R (some u) t) : R u := by
  cases q with
  | effects p =>
    obtain ⟨w, e, h⟩ := h
    obtain rfl := Option.some.inj e
    exact h.buffer ▸ h.runtime.depthBuffer
  | shader | copy | save | blur => exact absurd h.1 nofun
  | _ => exact absurd h nofun

theorem Guards.withFlags (h : q.Guards R b t) (flags : PassFlags) :
    (q.withFlags flags).Guards R b t := by
  cases q with
  | effects p =>
    obtain ⟨u, hb, h⟩ := h
    exact ⟨u, hb, { h with }⟩
  | blur p => exact ⟨h.1, h.2.1, h.2.2, h.2.3⟩
  | _ => exact h

theorem Guards.edit [EffectHooks H ω] {op : EffectPass.Op H ω} (edits : op.IsEdit)
    (avoids : op.Avoids R) (h : q.Guards R b t) (s : Stage ω) : (q.edit op s).Guards R b t := by
  cases q with
  | effects p =>
    obtain ⟨u, hb, h⟩ := h
    exact ⟨u, hb, h.edit edits avoids s⟩
  | _ => exact h

variable [EffectHooks H ω] (sparing : SparingHooks R H) {s₀ : Stage ω}

omit [EffectHooks H ω] in
/-- What keeps a kind of pass as it is, as far as its depth buffer goes, keeps the pass. -/
theorem guards_after_wrap {Q : Type} {mk : Q → BuiltinPass H} {p : Q} {s : Stage ω}
    {act : Act (Q × Stage ω) Unit} {f : Act (BuiltinPass H × Stage ω) Unit}
    (hf : f (mk p, s) = wrap mk p s act)
    (h : (mk (act.after (p, s)).1).Guards R b t ∧ s₀.Spares R (act.after (p, s)).2) :
    (f.after (mk p, s)).1.Guards R b t ∧ s₀.Spares R (f.after (mk p, s)).2 := by
  rwa [after_wrap hf]

include sparing

theorem keeps_guards_setUp (setup : PassSetup) :
    Act.Keeps (fun x : BuiltinPass H × Stage ω => x.1.Guards R b t ∧ s₀.Spares R x.2)
      (Pass.setUp setup) := by
  rintro ⟨q, s⟩ ⟨h, hs⟩
  change (q.setUp setup s).1.Guards R b t ∧ s₀.Spares R (q.setUp setup s).2
  have made (d : Device) (hd : s.device.SparesDepth d) : s₀.Spares R { s with device := d } :=
    ⟨hs.uniforms, hs.depth.trans hd⟩
  cases q with
  | depth p =>
    exact ⟨h, made _ (p.sparesDepth_setUp setup s.device)⟩
  | shader p => exact ⟨⟨h.1, h.2.setUp setup⟩, hs⟩
  | copy p => exact ⟨⟨h.1, h.2.setUp setup⟩, hs⟩
  | save p =>
    exact ⟨⟨h.1, SavePass.avoids_setUp h.2 setup s.device⟩,
      made _ (p.sparesDepth_setUp setup s.device)⟩
  | blur p =>
    exact ⟨⟨h.1, h.2.setUp setup s.device⟩, made _ (p.sparesDepth_setUp setup s.device)⟩
  | effects p =>
    obtain ⟨u, hb, h⟩ := h
    exact ⟨⟨u, hb, h.setUp setup s⟩, hs.trans (EffectPass.spares_setUp sparing p setup s)⟩
  | _ => exact ⟨h, hs⟩

theorem keeps_guards_setSize (width height : UInt32) :
    Act.Keeps (fun x : BuiltinPass H × Stage ω => x.1.Guards R b t ∧ s₀.Spares R x.2)
      (Pass.setSize width height) := by
  rintro ⟨q, s⟩ ⟨h, hs⟩
  cases q with
  | depth p =>
    exact guards_after_wrap rfl ⟨h, DepthPass.keeps_spares_setSize width height (p, s) hs⟩
  | save p =>
    have kept := SavePass.keeps_avoids_setSize width height (p, s) ⟨h.2, hs⟩
    exact guards_after_wrap rfl ⟨⟨h.1, kept.1⟩, kept.2⟩
  | blur p =>
    have kept := BlurPass.keeps_avoids_setSize width height (p, s) ⟨h.2, hs⟩
    exact guards_after_wrap rfl ⟨⟨h.1, kept.1⟩, kept.2⟩
  | effects p =>
    obtain ⟨u, hb, h⟩ := h
    exact ⟨⟨u, hb, h.setSize width height s.toShared⟩,
      hs.withShared (EffectPass.spares_setSize sparing h.runtime width height s.toShared)⟩
  | _ => exact ⟨h, hs⟩

theorem keeps_guards_render (input output : Surface) (delta : Float32) (masked : Bool) :
    Act.Keeps (fun x : BuiltinPass H × Stage ω => x.1.Guards R b t ∧ s₀.Spares R x.2)
      (Pass.render input output delta masked) := by
  rintro ⟨q, s⟩ ⟨h, hs⟩
  have drawn {act : Act (Stage ω) Unit} (hact : Act.Keeps (s₀.Spares R) act) :
      (act.onSecond.after (q, s)).1.Guards R b t ∧ s₀.Spares R (act.onSecond.after (q, s)).2 := by
    rw [Act.after_onSecond]
    exact ⟨h, hact s hs⟩
  have bound (f : Device → Device) (hf : ∀ d : Device, d.SparesDepth (f d)) :
      Act.Keeps (s₀.Spares R) (modify (·.mapDevice f) : Act (Stage ω) Unit) :=
    Act.keeps_modify fun t ht => ht.mapDevice (hf t.device)
  have calls (d : Device) : SceneCalls d.Untouched := sceneCalls_untouched d
  cases q with
  | clear p =>
    exact drawn (bound (p.render input) fun d =>
      (p.of_calls (calls d) input (.refl d)).sparesDepth)
  | scene p =>
    exact drawn (Stage.Spares.keeps_onDevice fun _ =>
      .keeps_of_untouched fun d => p.keeps_of_calls (calls d) _)
  | depth p =>
    exact drawn (Stage.Spares.keeps_onDevice fun _ =>
      .keeps_of_untouched fun d => p.keeps_of_calls (calls d))
  | mask p =>
    exact drawn (Stage.Spares.keeps_onDevice fun _ =>
      .keeps_of_untouched fun d => p.keeps_of_calls (calls d) input output)
  | clearMask p =>
    exact drawn (bound ClearMaskPass.render fun d => (Device.SparesDepth.refl d).congr rfl rfl)
  | shader p => exact drawn (ShaderPass.keeps_spares_draw h.2 input output _)
  | copy p => exact drawn (ShaderPass.keeps_spares_draw h.2 input output _)
  | save p => exact drawn (SavePass.keeps_spares_render h.2 input masked)
  | blur p => exact drawn (BlurPass.keeps_spares_render h.2 input output)
  | effects p =>
    obtain ⟨u, hb, h⟩ := h
    have keeps : Act.Keeps (fun x : EffectPass H × Stage ω => x.1.Guards R u t ∧ s₀.Spares R x.2)
        (EffectPass.render input output delta) :=
      EffectPass.keeps_guards_render sparing input output delta
    have kept := keeps (p, s) ⟨h, hs⟩
    exact guards_after_wrap rfl ⟨⟨u, hb, kept.1⟩, kept.2⟩

/-- To hand a pass a texture changes what it holds and what its depth buffer is bound to. -/
theorem guards_setDepthTexture (h : q.Guards R b t) (t' : Option Texture) (s : Shared ω) :
    (Pass.setDepthTexture q t' .basic s).1.Guards R b t' ∧
      s.uniforms.Spares (fun w => R w ∧ b ≠ some w)
        (Pass.setDepthTexture q t' .basic s).2.uniforms ∧
      ∀ u, b = some u → s.uniforms.Holds u →
        (Pass.setDepthTexture q t' .basic s).2.uniforms.get u = .texture t' := by
  cases q with
  | effects p =>
    obtain ⟨u, rfl, h⟩ := h
    obtain ⟨spares, bound⟩ := EffectPass.spares_setDepthTexture sparing p t' .basic s
    refine ⟨⟨u, rfl, h.setDepthTexture t' .basic s⟩, spares.mono fun w hw => ?_, ?_⟩
    · exact ⟨hw.1, fun e => hw.2 (by rw [e, h.buffer])⟩
    · intro w e held
      obtain rfl := Option.some.inj e
      rw [← h.buffer] at held ⊢
      exact bound h.runtime.depthBuffer held
  | shader | copy | save | blur =>
    exact ⟨h, .refl _ _, fun u e => absurd (h.1.symm.trans e) nofun⟩
  | _ => exact ⟨h, .refl _ _, fun u e => absurd (Eq.trans (Eq.symm h) e) nofun⟩

/-- A pass that ends may take textures with it. -/
theorem spares_dispose (q : BuiltinPass H) (s : Stage ω) :
    s.uniforms.Spares R (q.dispose s).2.uniforms ∧
      ∀ L, s.device.DepthWithin L → (q.dispose s).2.device.DepthWithin L := by
  have dropped (x : Option Surface) (L : List Texture) (h : s.device.DepthWithin L) :
      (disposeOptional x s.device).DepthWithin L := by
    cases x with
    | none => exact h
    | some x => exact h.disposeSurface x
  cases q with
  | depth p => exact ⟨.refl _ _, dropped p.surface⟩
  | save p => exact ⟨.refl _ _, dropped p.surface⟩
  | blur p =>
    refine ⟨.refl _ _, fun L h => ?_⟩
    change (p.dispose s.device).2.DepthWithin L
    unfold BlurPass.dispose
    cases p.surfaces with
    | none => exact h
    | some pair => exact (h.disposeSurface pair.1).disposeSurface pair.2
  | effects p =>
    have spares := EffectPass.spares_dispose sparing p s
    exact ⟨spares.uniforms, fun L h => h.spares spares.depth⟩
  | _ => exact ⟨.refl _ _, fun _ h => h⟩

end BuiltinPass

end ScreenEffects
