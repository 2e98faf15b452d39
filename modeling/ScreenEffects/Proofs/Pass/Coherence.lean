import ScreenEffects.Probe.Hooks
import ScreenEffects.Proofs.Merge.Acceptance
import ScreenEffects.Proofs.Pass.Operations

/-!
# The program of an effect pass

A pass of effects holds its program in parts that are written by different operations: its macros by
all that tells it something, the rest by merges. `Coherent c p` says that the parts fit: they are
those of the merge that the pass holds, under the conditions `c`, and this merge is the one of its
effects unless the pass is dirty.

* `Coherent.perform` is the step: every operation keeps a pass coherent, failed or not.
* `coherent_run` is the run.
-/

namespace ScreenEffects

variable {H ω : Type}

/-! ## What hooks cannot change -/

/-- What a pass reads of an effect to know whether its merge is out of date. -/
def Hosted.view (h : Hosted H) : Effect × Bool := (h.effect, h.dirty)

namespace Hosted

theorem map_effect_eq {as bs : List (Hosted H)} (h : as.map view = bs.map view) :
    as.map (·.effect) = bs.map (·.effect) := by
  have e : ∀ hs : List (Hosted H), hs.map (·.effect) = (hs.map view).map (·.1) := fun hs => by
    rw [List.map_map]
    rfl
  rw [e as, e bs, h]

theorem any_dirty_eq {as bs : List (Hosted H)} (h : as.map view = bs.map view) :
    as.any (·.dirty) = bs.any (·.dirty) := by
  have e : ∀ hs : List (Hosted H), hs.any (·.dirty) = (hs.map view).any (·.2) := fun hs => by
    rw [List.any_map]
    rfl
  rw [e as, e bs, h]

theorem map_effect_clearDirty (hs : List (Hosted H)) :
    (hs.map (·.clearDirty)).map (·.effect) = hs.map (·.effect) := by
  rw [List.map_map]
  rfl

variable [EffectHooks H ω]

theorem view_prepare (h : Hosted H) (alpha : Bool) (precision : Precision) (s : Stage ω) :
    (h.prepare alpha precision s).1.view = h.view := by
  unfold prepare
  by_cases hp : h.prepared
  · rw [if_pos hp]
  · rw [if_neg hp]
    cases h.hooks <;> rfl

theorem view_setSize (h : Hosted H) (width height : UInt32) (s : Shared ω) :
    (h.setSize width height s).1.view = h.view := by
  unfold setSize
  cases h.hooks <;> rfl

theorem view_setDepthTexture (h : Hosted H) (t : Option Texture) (packing : DepthPacking)
    (s : Shared ω) : (h.setDepthTexture t packing s).1.view = h.view := by
  unfold setDepthTexture
  cases h.hooks <;> rfl

theorem view_dispose (h : Hosted H) (s : Stage ω) : (h.dispose s).1.view = h.view := by
  unfold dispose
  cases h.hooks <;> rfl

theorem view_update (input : Surface) (delta : Float32) (x : Hosted H × Stage ω) :
    ((update input delta).after x).1.view = x.1.view := by
  obtain ⟨h, s⟩ := x
  unfold Act.after update
  cases hk : h.hooks with
  | none => simp only [hk]
  | some k =>
    simp only [hk]
    cases EffectHooks.update input delta h.effect.uniforms (k, s) <;> rfl

end Hosted

namespace EffectPass

variable {c : Conditions} {p : EffectPass H}

theorem view_syncEffect [EffectHooks H ω] (p : EffectPass H) (h : Hosted H) (s : Stage ω) :
    (p.syncEffect h s).1.view = h.view := by
  unfold syncEffect
  cases p.size with
  | none => exact (Hosted.view_setDepthTexture ..).trans (Hosted.view_prepare ..)
  | some size =>
    exact (Hosted.view_setDepthTexture ..).trans
      ((Hosted.view_setSize ..).trans (Hosted.view_prepare ..))

/-! ## Coherence -/

/-- The conditions that a pass keeps in mind. -/
def conditions (p : EffectPass H) : Conditions where
  dithering := p.config.dithering
  packing := p.packing
  precision := p.precision
  limits := p.limits

/-- The program of the pass is made of the merge it holds, as the conditions `c` ask for, and a clean
pass holds the merge of its effects. -/
structure Coherent (c : Conditions) (p : EffectPass H) : Prop where
  conditions : p.conditions = c
  uniforms : p.program.uniforms = p.runtime.table.extend p.merged.uniforms
  defines : p.program.defines = (OrderedMap.ofList c.macros).extend p.merged.defines
  vertex : p.program.vertex = p.merged.vertex
  fragment : p.program.fragment = p.merged.fragment
  extensions : p.program.extensions = p.merged.extensions
  warnings : p.warnings = c.exceeded p.merged
  fresh : p.isDirty = false → merge (p.effects.map (·.effect)) = .ok p.merged

theorem defines_eq (p : EffectPass H) :
    p.defines = (OrderedMap.ofList p.conditions.macros).extend p.merged.defines := by
  unfold defines Conditions.macros conditions
  cases p.packing <;> rfl

theorem warnings_refreshWarnings (p : EffectPass H) :
    p.refreshWarnings.warnings = p.conditions.exceeded p.merged := by
  unfold refreshWarnings Conditions.exceeded conditions
  cases p.limits with
  | none => rfl
  | some l =>
    by_cases hu : l.fragmentUniforms < p.merged.uniformCount <;>
      by_cases hv : l.varyings < p.merged.varyings <;>
        simp [budgetWarnings, BudgetWarning.isExceeded, hu, hv]

theorem mergeHosted_eq_ok_iff {effects : List (Hosted H)} {m : Merged} :
    mergeHosted effects = .ok m ↔ merge (effects.map (·.effect)) = .ok m := by
  unfold mergeHosted
  cases merge (effects.map (·.effect)) <;> simp

theorem exists_mergeHosted_eq_ok {effects : List (Hosted H)}
    (h : Mergeable (effects.map (·.effect))) : ∃ m, mergeHosted effects = .ok m :=
  (exists_merge_eq_ok_iff.2 h).imp fun _ => mergeHosted_eq_ok_iff.2

theorem exists_create_eq_ok {effects : List (Hosted H)} (h : Mergeable (effects.map (·.effect)))
    (camera : Option Camera) (config : EffectPassConfig) (s : UniformStore) :
    ∃ p t, create camera effects config s = .ok (p, t) := by
  obtain ⟨m, hm⟩ := exists_mergeHosted_eq_ok h
  unfold create
  rw [hm]
  exact ⟨_, _, rfl⟩

theorem coherent_withMerge (p : EffectPass H) {effects : List (Hosted H)} {m : Merged}
    (h : mergeHosted effects = .ok m) : Coherent p.conditions (p.withMerge effects m) where
  conditions := rfl
  uniforms := rfl
  defines := defines_eq { p with effects, merged := m }
  vertex := rfl
  fragment := rfl
  extensions := rfl
  warnings := warnings_refreshWarnings { p with effects, merged := m }
  fresh _ := by
    show merge ((effects.map (·.clearDirty)).map (·.effect)) = .ok m
    rw [Hosted.map_effect_clearDirty]
    exact mergeHosted_eq_ok_iff.1 h

theorem coherent_create {camera : Option Camera} {effects : List (Hosted H)}
    {config : EffectPassConfig} {s t : UniformStore}
    (h : create camera effects config s = .ok (p, t)) :
    Coherent { dithering := config.dithering } p := by
  obtain ⟨m, hm, -, rfl⟩ := exists_withMerge_of_create h
  exact coherent_withMerge
    { name := nameOf effects, config, effects, camera, merged := m,
      runtime := (RuntimeUniforms.create s).1 } hm

/-! ## Operations without hooks -/

theorem Coherent.withMerge (h : Coherent c p) {effects : List (Hosted H)} {m : Merged}
    (hm : mergeHosted effects = .ok m) : Coherent c (p.withMerge effects m) := by
  have hc : Coherent p.conditions (p.withMerge effects m) := coherent_withMerge p hm
  rwa [h.conditions] at hc

theorem keeps_changeEffects (effects : List (Hosted H)) :
    Act.Keeps (Coherent c) (changeEffects effects) :=
  keeps_changeEffects_of_withMerge fun _ _ h hm => h.withMerge hm

theorem keeps_setEffects (effects : List (Hosted H)) :
    Act.Keeps (Coherent c) (setEffects effects) :=
  keeps_setEffects_of_changeEffects (keeps_changeEffects effects)

theorem keeps_addEffect (effect : Hosted H) : Act.Keeps (Coherent c) (addEffect effect) :=
  keeps_addEffect_of_changeEffects fun p h => keeps_changeEffects _ p h

theorem keeps_removeEffect (index : Nat) :
    Act.Keeps (Coherent c) (removeEffect (H := H) index) :=
  keeps_removeEffect_of_changeEffects fun p h => keeps_changeEffects _ p h

theorem keeps_recompile : Act.Keeps (Coherent c) (recompile (H := H)) :=
  keeps_recompile_of_withMerge fun _ _ h hm => h.withMerge hm

/-- An edit that leaves the effects clean has changed nothing. -/
theorem modify_apply_eq_self (edit : Hosted.Edit) {hs : List (Hosted H)} {index : Nat}
    (hc : (hs.modify index edit.apply).any (·.dirty) = false) :
    hs.modify index edit.apply = hs := by
  induction hs generalizing index with
  | nil => exact List.modify_nil ..
  | cons h hs ih =>
    cases index with
    | zero =>
      rw [List.modify_zero_cons, List.any_cons, Bool.or_eq_false_iff] at hc
      rw [List.modify_zero_cons, edit.apply_eq_self hc.1]
    | succ index =>
      rw [List.modify_succ_cons, List.any_cons, Bool.or_eq_false_iff] at hc
      rw [List.modify_succ_cons, ih hc.2]

theorem Coherent.editEffect (h : Coherent c p) (index : Nat) (edit : Hosted.Edit) :
    Coherent c (p.editEffect index edit.apply) := by
  refine { h with fresh := fun hd => ?_ }
  have he : p.effects.modify index edit.apply = p.effects :=
    modify_apply_eq_self edit (Bool.or_eq_false_iff.1 hd).2
  have hp : p.editEffect index edit.apply = p := by
    unfold EffectPass.editEffect
    rw [he]
  rw [hp] at hd ⊢
  exact h.fresh hd

theorem Coherent.setDithering (h : Coherent c p) (dithering : Bool) :
    Coherent { c with dithering } (p.setDithering dithering) := by
  have hc : p.conditions = c := h.conditions
  unfold EffectPass.setDithering
  by_cases hd : dithering = p.config.dithering
  · rw [if_pos hd, hd]
    subst hc
    exact h
  · rw [if_neg hd]
    subst hc
    exact { h with conditions := rfl, defines := defines_eq _ }

/-! ## Operations with hooks -/

/-- A change of the effects that their merge does not notice keeps a pass coherent. -/
theorem Coherent.withEffects (h : Coherent c p) {effects : List (Hosted H)}
    (hv : effects.map Hosted.view = p.effects.map Hosted.view) :
    Coherent c { p with effects } := by
  refine { h with fresh := fun hd => ?_ }
  have hp : p.isDirty = false := by
    unfold isDirty at hd ⊢
    rwa [Hosted.any_dirty_eq hv] at hd
  rw [Hosted.map_effect_eq hv]
  exact h.fresh hp

section Hooks

variable [EffectHooks H ω]

theorem Coherent.forEffects (h : Coherent c p) {σ : Type} {f : Hosted H → σ → Hosted H × σ}
    (hf : ∀ e s, (f e s).1.view = e.view) (s : σ) : Coherent c (p.forEffects f s).1 :=
  h.withEffects (map_threadList hf p.effects s)

theorem Coherent.setUp (h : Coherent c p) (setup : PassSetup) (s : Stage ω) :
    Coherent { c with precision := setup.precision, limits := some s.device.limits }
      (p.setUp setup s).1 := by
  have hc : p.conditions = c := h.conditions
  subst hc
  have he := h.forEffects (f := fun e s => e.prepare setup.alpha setup.precision s)
    (fun e s => e.view_prepare _ _ s) s
  exact { he with
    conditions := rfl
    defines := defines_eq _
    warnings := warnings_refreshWarnings
      { p with precision := setup.precision, limits := some s.device.limits } }

theorem Coherent.setSize (h : Coherent c p) (width height : UInt32) (s : Shared ω) :
    Coherent c (p.setSize width height s).1 := by
  have hp : Coherent c { p with size := some (width, height) } := { h with }
  exact hp.forEffects (fun e s => e.view_setSize width height s) _

theorem Coherent.setDepthTexture (h : Coherent c p) (texture : Option Texture)
    (packing : DepthPacking) (s : Shared ω) :
    Coherent { c with packing } (p.setDepthTexture texture packing s).1 := by
  have hc : p.conditions = c := h.conditions
  subst hc
  have he := h.forEffects (f := fun e s => e.setDepthTexture texture packing s)
    (fun e s => e.view_setDepthTexture _ _ s)
    (s.setUniform p.runtime.depthBuffer (.texture texture))
  exact { he with conditions := rfl, defines := defines_eq _ }

theorem Coherent.syncEffects (h : Coherent c p) (s : Stage ω) :
    Coherent c (p.syncEffects s).1 := by
  unfold EffectPass.syncEffects
  by_cases hs : p.needsSync
  · rw [if_pos hs]
    exact { h.forEffects (view_syncEffect p) s with }
  · rwa [if_neg hs]

theorem Coherent.dispose (h : Coherent c p) (s : Stage ω) : Coherent c (p.dispose s).1 :=
  { h.forEffects (fun e s => e.view_dispose s) s with }

theorem keeps_updateEffects (input : Surface) (delta : Float32) :
    Act.Keeps (fun x : EffectPass H × Stage ω => Coherent c x.1) (updateEffects input delta) := by
  rintro ⟨p, s⟩ h
  unfold updateEffects
  rw [Act.after_within]
  exact h.withEffects (Act.map_after_forEach (Hosted.view_update input delta) p.effects s)

theorem keeps_render (input output : Surface) (delta : Float32) :
    Act.Keeps (fun x : EffectPass H × Stage ω => Coherent c x.1) (render input output delta) := by
  unfold render
  refine keeps_recompile.onFirst.bind fun _ => ?_
  refine (Act.keeps_modify fun x h => h.syncEffects x.2).bind fun _ => ?_
  refine Act.keeps_get.bind fun _ => ?_
  refine Act.Keeps.bind (Act.keeps_modify fun _ h => h) fun _ => ?_
  refine (keeps_updateEffects input _).bind fun _ => ?_
  exact Act.keeps_get.bind fun _ => Act.keeps_onSecond _

/-! ## Runs -/

theorem Coherent.perform {x : EffectPass H × Stage ω} (h : Coherent c x.1) (op : Op H ω) :
    Coherent (c.next x.2 op) (op.perform.after x).1 := by
  cases op with
  | setEffects effects =>
    exact ((keeps_setEffects effects).onFirst.bind fun _ => Act.keeps_pure _) x h
  | addEffect effect => exact (keeps_addEffect effect).onFirst x h
  | removeEffect index =>
    exact ((keeps_removeEffect index).onFirst.bind fun _ => Act.keeps_pure _) x h
  | editEffect index edit => exact h.editEffect index edit
  | markDirty => exact { h with fresh := nofun }
  | recompile => exact keeps_recompile.onFirst x h
  | setDithering dithering => exact h.setDithering dithering
  | setFlags flags => exact { h with }
  | setMainCamera camera => exact { h with }
  | setUp setup => exact h.setUp setup x.2
  | setSize width height => exact h.setSize width height _
  | setDepthTexture texture packing => exact h.setDepthTexture texture packing _
  | render input output delta => exact keeps_render input output delta x h
  | dispose => exact h.dispose x.2
  | elsewhere s => exact h

theorem Coherent.run {x : EffectPass H × Stage ω} (h : Coherent c x.1) (ops : List (Op H ω)) :
    Coherent (c.after ops x) (EffectPass.run ops x).1 := by
  induction ops generalizing c x with
  | nil => exact h
  | cons op ops ih => exact ih (h.perform op)

/-- Whatever happened to a pass, and whatever of it failed, its program has the uniforms, macros,
sources and extensions of the merge it holds, its warnings are the limits that this merge exceeds,
and if it is clean, then this merge is the one of its effects. -/
theorem coherent_run {camera : Option Camera} {effects : List (Hosted H)}
    {config : EffectPassConfig} {s : Stage ω} {t : UniformStore}
    (h : create camera effects config s.uniforms = .ok (p, t)) (ops : List (Op H ω)) :
    Coherent (({ dithering := config.dithering } : Conditions).after ops
      (p, { s with uniforms := t })) (run ops (p, { s with uniforms := t })).1 :=
  (coherent_create h).run ops

end Hooks

/-- A pass that is set up, broken by an edit, drawn in vain and then told other conditions. -/
theorem coherent_after_broken_frame :
    let glow : Hosted ProbeHooks :=
      { effect := Effect.ofEntry "glow" "mainImage" ⟨.normal, ⟨0⟩⟩ .none }
    let s : Stage ProbeLog := { uniforms := ⟨#[.float 1]⟩, host := #[], device := .ofSize 64 32 }
    let surface (id : Nat) : Surface :=
      { id := ⟨id⟩, label := "surface", width := 64, height := 32, color := ⟨id + 1⟩,
        depthBuffer := false, stencilBuffer := false }
    let ops : List (Op ProbeHooks ProbeLog) :=
      [.setUp ⟨true, .half, ⟨9⟩, 64, 32⟩, .editEffect 0 (.setFragment ""),
        .render (surface 1) (surface 3) 1, .setDithering true, .setDepthTexture (some ⟨7⟩) .rgba]
    ∃ p t, create none [glow] {} s.uniforms = .ok (p, t) ∧
      Coherent ⟨true, .rgba, .half, some {}⟩ (run ops (p, { s with uniforms := t })).1 := by
  intro glow s surface ops
  obtain ⟨m, hm⟩ : ∃ m, merge [glow.effect] = .ok m :=
    exists_merge_eq_ok_iff.2 (by decide +kernel)
  have hg : mergeHosted [glow] = .ok m := mergeHosted_eq_ok_iff.2 hm
  have hc : ∃ x, create none [glow] {} s.uniforms = .ok x := by
    unfold create
    rw [hg]
    exact ⟨_, rfl⟩
  obtain ⟨⟨p, t⟩, hp⟩ := hc
  exact ⟨p, t, hp, coherent_run hp ops⟩

end EffectPass

end ScreenEffects
