import ScreenEffects.Probe.Hooks
import ScreenEffects.Proofs.OrderedMap
import ScreenEffects.Proofs.Pass.Kept

/-!
# Quiet hooks

Hooks get the whole stage in their hands. Those that issue no command to the device are quiet: the
journal and the draw state are as they were, whether a hook failed or not. Uniforms are shared, and
none is ever lost.

* `QuietHooks H` : the hooks of the type `H` are quiet.
* `EffectPass.quiet_syncEffects`, `EffectPass.quiet_updateEffects` : so is what a pass does with them.
-/

namespace ScreenEffects

variable {H ω : Type}

/-- From `s` to `t` no command was issued, and no uniform was lost. -/
structure Stage.Quiet (s t : Stage ω) : Prop where
  journal : t.device.journal = s.device.journal
  stencil : t.device.stencil = s.device.stencil
  writeMask : t.device.writeMask = s.device.writeMask
  grows : s.uniforms.cells.size ≤ t.uniforms.cells.size

/-- The hooks issue no command and lose no uniform. -/
structure QuietHooks (H : Type) {ω : Type} [EffectHooks H ω] : Prop where
  prepare : ∀ (k : H) (alpha : Bool) (precision : Precision) (s : Stage ω),
    s.Quiet (EffectHooks.prepare k alpha precision s).2
  update : ∀ (input : Surface) (delta : Float32) (uniforms : UniformMap) (k : H) (s : Stage ω),
    s.Quiet ((EffectHooks.update input delta uniforms).after (k, s)).2
  setSize : ∀ (k : H) (width height : UInt32) (s : Shared ω),
    s.uniforms.cells.size ≤ (EffectHooks.setSize k width height s).2.uniforms.cells.size
  setDepthTexture : ∀ (k : H) (t : Option Texture) (packing : DepthPacking) (s : Shared ω),
    s.uniforms.cells.size ≤ (EffectHooks.setDepthTexture k t packing s).2.uniforms.cells.size

namespace Stage

theorem Quiet.refl (s : Stage ω) : s.Quiet s := ⟨rfl, rfl, rfl, Nat.le_refl _⟩

theorem Quiet.trans {s t u : Stage ω} (h : s.Quiet t) (h' : t.Quiet u) : s.Quiet u :=
  ⟨h'.journal.trans h.journal, h'.stencil.trans h.stencil, h'.writeMask.trans h.writeMask,
    Nat.le_trans h.grows h'.grows⟩

theorem Quiet.setUniform {s t : Stage ω} (h : s.Quiet t) (u : Uniform) (v : UniformValue) :
    s.Quiet (t.setUniform u v) :=
  ⟨h.journal, h.stencil, h.writeMask, (t.uniforms.size_set u v).symm ▸ h.grows⟩

theorem Quiet.withShared {s t : Stage ω} (h : s.Quiet t) {shared : Shared ω}
    (grows : t.uniforms.cells.size ≤ shared.uniforms.cells.size) : s.Quiet (t.withShared shared) :=
  ⟨h.journal, h.stencil, h.writeMask, Nat.le_trans h.grows grows⟩

end Stage

/-- In a frame, probe hooks write their notes and uniforms of the effect, and nothing else. -/
theorem ProbeHooks.keeps_update {I : Stage ProbeLog → Prop} (input : Surface) (delta : Float32)
    {uniforms : UniformMap} (noted : ∀ s (host : ProbeLog), I s → I { s with host })
    (added : ∀ s, ∀ u ∈ uniforms.values, ∀ v, I s → I (s.setUniform u v)) :
    Act.Keeps (fun x : ProbeHooks × Stage ProbeLog => I x.2) (update input delta uniforms) := by
  unfold update
  refine Act.Keeps.bind (Act.keeps_modify fun x h => noted x.2 _ h) fun _ => ?_
  refine Act.keeps_get.bind fun x => ?_
  have adding (name : String) : Act.Keeps (fun x : ProbeHooks × Stage ProbeLog => I x.2)
      (modify fun x => (x.1, addSeconds name delta uniforms x.2)) := by
    refine Act.keeps_modify fun x h => ?_
    unfold addSeconds
    cases hu : uniforms.get? name with
    | none => exact h
    | some u => exact added x.2 u (OrderedMap.mem_values_of_get? hu) _ h
  obtain ⟨k, t⟩ := x
  cases k with
  | silent => exact Act.keeps_pure _
  | noting tag adds fails =>
    cases adds <;> cases fails
    · exact Act.keeps_pure _
    · exact Act.keeps_throw _
    · exact (adding _).bind fun _ => Act.keeps_pure _
    · exact (adding _).bind fun _ => Act.keeps_throw _

theorem quietHooks_probeHooks : QuietHooks ProbeHooks where
  prepare _ _ _ _ := ⟨rfl, rfl, rfl, Nat.le_refl _⟩
  update input delta _ k s :=
    ProbeHooks.keeps_update input delta (fun _ _ h => ⟨h.1, h.2, h.3, h.4⟩)
      (fun _ u _ v h => h.setUniform u v) (k, s) (.refl s)
  setSize _ _ _ _ := Nat.le_refl _
  setDepthTexture _ _ _ _ := Nat.le_refl _

/-! ## Passes of effects -/

section Passes

variable [EffectHooks H ω] (quiet : QuietHooks H)

include quiet

theorem QuietHooks.keep (s₀ : Stage ω) : HooksKeep s₀.Quiet H where
  prepare k alpha precision s h := h.trans (quiet.prepare k alpha precision s)
  update input delta uniforms x h := h.trans (quiet.update input delta uniforms x.1 x.2)
  setSize k width height s h := h.withShared (quiet.setSize k width height s.toShared)
  setDepthTexture k t packing s h := h.withShared (quiet.setDepthTexture k t packing s.toShared)

theorem Hosted.size_setDepthTexture (h : Hosted H) (t : Option Texture) (packing : DepthPacking)
    (s : Shared ω) : s.uniforms.cells.size ≤ (h.setDepthTexture t packing s).2.uniforms.cells.size := by
  unfold setDepthTexture
  cases h.hooks with
  | none => exact Nat.le_refl _
  | some k => exact quiet.setDepthTexture k t packing s

namespace EffectPass

theorem quiet_syncEffects (p : EffectPass H) (s : Stage ω) : s.Quiet (p.syncEffects s).2 :=
  p.syncEffects_of_hooks (quiet.keep s) (.refl s)

omit quiet [EffectHooks H ω] in
theorem quiet_bindFrame (p : EffectPass H) (input : Surface) (delta : Float32) (s : Stage ω) :
    s.Quiet (p.bindFrame input delta s) :=
  p.bindFrame_of_setUniform (fun u v h => h.setUniform u v) (.refl s) input delta

theorem quiet_updateEffects (input : Surface) (delta : Float32) (x : EffectPass H × Stage ω) :
    x.2.Quiet ((updateEffects input delta).after x).2 :=
  keeps_updateEffects_of_hooks (quiet.keep x.2) input delta x (.refl x.2)

end EffectPass

end Passes

end ScreenEffects
