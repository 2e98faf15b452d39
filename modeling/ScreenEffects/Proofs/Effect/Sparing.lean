import ScreenEffects.Proofs.Device.Depth
import ScreenEffects.Proofs.Device.Recording
import ScreenEffects.Proofs.Effect.Quiet

/-!
# Hooks that spare what is not theirs

Uniforms are shared by name, and anyone with a handle may write one. Some are reserved for their owner:
`Stage.Spares R` says that from one stage to another those of `R` kept their values, no uniform was
lost, and the depth textures of the device are what they were.

Hooks that hold handles of their own fit here as the type of those that hold none of `R`.

* `SparingHooks R H` : the hooks of the type `H` spare the uniforms of `R`, as long as these are not
  given to them as the effect's own.
-/

namespace ScreenEffects

variable {H ω α : Type} {R : Uniform → Prop}

/-! ## Uniforms -/

/-- None of the uniforms of the table is in `R`. -/
def UniformMap.Avoids (R : Uniform → Prop) (m : UniformMap) : Prop := ∀ u ∈ m.values, ¬ R u

/-- From `s` to `t` no uniform was lost, and those of `R` kept their values. -/
structure UniformStore.Spares (R : Uniform → Prop) (s t : UniformStore) : Prop where
  grows : s.cells.size ≤ t.cells.size
  kept : ∀ u, R u → s.Holds u → t.get u = s.get u

namespace UniformStore

variable {s t r : UniformStore} {u : Uniform}

theorem Spares.refl (R : Uniform → Prop) (s : UniformStore) : Spares R s s :=
  ⟨Nat.le_refl _, fun _ _ _ => rfl⟩

theorem Spares.holds (h : Spares R s t) (hu : s.Holds u) : t.Holds u := Nat.lt_of_lt_of_le hu h.grows

theorem Spares.trans (h : Spares R s t) (h' : Spares R t r) : Spares R s r :=
  ⟨Nat.le_trans h.grows h'.grows, fun u hR hu =>
    (h'.kept u hR (h.holds hu)).trans (h.kept u hR hu)⟩

theorem Spares.mono {R' : Uniform → Prop} (h : Spares R s t) (hR : ∀ u, R' u → R u) :
    Spares R' s t :=
  ⟨h.grows, fun u hu => h.kept u (hR u hu)⟩

theorem Spares.set (h : Spares R s t) (hu : ¬ R u) (v : UniformValue) : Spares R s (t.set u v) where
  grows := Nat.le_trans h.grows (Nat.le_of_eq (t.size_set u v).symm)
  kept w hR hw := (get_set_of_ne (fun e : w = u => hu (e ▸ hR)) v).trans (h.kept w hR hw)

theorem Spares.alloc (h : Spares R s t) (v : UniformValue) : Spares R s (t.alloc v).2 where
  grows := by
    unfold UniformStore.alloc
    rw [Array.size_push]
    exact Nat.le_succ_of_le h.grows
  kept w hR hw := (get_alloc (h.holds hw)).trans (h.kept w hR hw)

end UniformStore

/-! ## The stage -/

/-- From `s` to `t` the uniforms of `R` and the depth textures were spared. -/
structure Stage.Spares (R : Uniform → Prop) (s t : Stage ω) : Prop where
  uniforms : s.uniforms.Spares R t.uniforms
  depth : s.device.SparesDepth t.device

namespace Stage

variable {s₀ s t : Stage ω}

theorem Spares.refl (R : Uniform → Prop) (s : Stage ω) : Spares R s s := ⟨.refl R _, .refl _⟩

theorem Spares.trans {u : Stage ω} (h : Spares R s t) (h' : Spares R t u) : Spares R s u :=
  ⟨h.uniforms.trans h'.uniforms, h.depth.trans h'.depth⟩

theorem Spares.setUniform (h : Spares R s t) {u : Uniform} (hu : ¬ R u) (v : UniformValue) :
    Spares R s (t.setUniform u v) :=
  ⟨h.uniforms.set hu v, h.depth⟩

theorem Spares.withShared (h : Spares R s t) {shared : Shared ω}
    (hs : t.uniforms.Spares R shared.uniforms) : Spares R s (t.withShared shared) :=
  ⟨h.uniforms.trans hs, h.depth⟩

theorem Spares.mapDevice (h : Spares R s t) {f : Device → Device}
    (hf : t.device.SparesDepth (f t.device)) : Spares R s (t.mapDevice f) :=
  ⟨h.uniforms, h.depth.trans hf⟩

theorem Spares.keeps_onDevice {act : Act Device α}
    (h : ∀ d : Device, Act.Keeps d.SparesDepth act) :
    Act.Keeps (s₀.Spares R) (onDevice act : Act (Stage ω) α) := by
  intro s hs
  rw [after_onDevice]
  exact ⟨hs.uniforms, hs.depth.trans (h s.device s.device (.refl _))⟩

theorem Spares.keeps_drawScreen (geometry : Geometry) (program : ShaderProgram) :
    Act.Keeps (s₀.Spares R) (drawScreen geometry program : Act (Stage ω) Unit) := fun s hs =>
  Spares.keeps_onDevice (fun _ => .keeps_of_untouched fun _ =>
    Device.keeps_untouched_drawScreen geometry program s.uniforms) s hs

end Stage

/-! ## Hooks -/

/-- The hooks spare the uniforms of `R`, unless they are given them as the effect's own, and the depth
textures. -/
structure SparingHooks (R : Uniform → Prop) (H : Type) {ω : Type} [EffectHooks H ω] : Prop where
  prepare : ∀ (k : H) (alpha : Bool) (precision : Precision) (s : Stage ω),
    s.Spares R (EffectHooks.prepare k alpha precision s).2
  update : ∀ (input : Surface) (delta : Float32) (uniforms : UniformMap) (k : H) (s : Stage ω),
    UniformMap.Avoids R uniforms →
      s.Spares R ((EffectHooks.update input delta uniforms).after (k, s)).2
  setSize : ∀ (k : H) (width height : UInt32) (s : Shared ω),
    s.uniforms.Spares R (EffectHooks.setSize k width height s).2.uniforms
  setDepthTexture : ∀ (k : H) (t : Option Texture) (packing : DepthPacking) (s : Shared ω),
    s.uniforms.Spares R (EffectHooks.setDepthTexture k t packing s).2.uniforms
  dispose : ∀ (k : H) (s : Stage ω), s.Spares R (EffectHooks.dispose k s).2

theorem sparingHooks_probeHooks (R : Uniform → Prop) : SparingHooks R ProbeHooks where
  prepare _ _ _ _ := ⟨.refl R _, .refl _⟩
  update input delta _ k s avoids :=
    ProbeHooks.keeps_update input delta (fun _ _ h => ⟨h.1, h.2⟩)
      (fun _ u hu v h => h.setUniform (avoids u hu) v) (k, s) (.refl R s)
  setSize _ _ _ _ := .refl R _
  setDepthTexture _ _ _ _ := .refl R _
  dispose _ _ := ⟨.refl R _, .refl _⟩

/-! ## Hosted effects -/

namespace Hosted

variable [EffectHooks H ω] (sparing : SparingHooks R H) (h : Hosted H)

include sparing

theorem spares_prepare (alpha : Bool) (precision : Precision) (s : Stage ω) :
    s.Spares R (h.prepare alpha precision s).2 := by
  unfold prepare
  split
  · exact .refl R s
  · cases h.hooks with
    | none => exact .refl R s
    | some k => exact sparing.prepare k alpha precision s

theorem spares_setSize (width height : UInt32) (s : Shared ω) :
    s.uniforms.Spares R (h.setSize width height s).2.uniforms := by
  unfold setSize
  cases h.hooks with
  | none => exact .refl R _
  | some k => exact sparing.setSize k width height s

theorem spares_setDepthTexture (t : Option Texture) (packing : DepthPacking) (s : Shared ω) :
    s.uniforms.Spares R (h.setDepthTexture t packing s).2.uniforms := by
  unfold setDepthTexture
  cases h.hooks with
  | none => exact .refl R _
  | some k => exact sparing.setDepthTexture k t packing s

theorem spares_dispose (s : Stage ω) : s.Spares R (h.dispose s).2 := by
  unfold dispose
  cases h.hooks with
  | none => exact .refl R s
  | some k => exact sparing.dispose k s

omit h in
theorem spares_update (input : Surface) (delta : Float32) (x : Hosted H × Stage ω)
    (avoids : UniformMap.Avoids R x.1.effect.uniforms) :
    x.2.Spares R ((update input delta).after x).2 := by
  obtain ⟨h, s⟩ := x
  unfold Act.after update
  cases hk : h.hooks with
  | none =>
    simp only [hk]
    exact .refl R s
  | some k =>
    have hs := sparing.update input delta h.effect.uniforms k s avoids
    unfold Act.after at hs
    simp only [hk]
    cases hu : EffectHooks.update input delta h.effect.uniforms (k, s) <;> rw [hu] at hs <;> exact hs

end Hosted

end ScreenEffects
