import Mathlib.Logic.IsEmpty.Basic
import ScreenEffects.Pass.Builtin
import ScreenEffects.Proofs.Pipeline.Routine

/-!
# Passes of effects without hooks

Where the type of hooks is empty, no effect has any. A pass of such effects that has been set up waits
for nothing: it is merged, up to date, and a frame changes uniforms only, apart from what it draws.

* `EffectPass.Waiting m toScreen p` : the pass `p` has the merge `m` as its program, and a frame finds
  nothing to do but to draw. A new pass is so (`EffectPass.exists_waiting_of_create`), and what it is
  told when it joins a pipeline leaves it so.
* `EffectPass.Waiting.routine` : such a pass is routine. It draws once in a frame, unless it is idle
  and kept from the screen.
-/

namespace ScreenEffects

variable {H ω : Type} [IsEmpty H] [EffectHooks H ω]

namespace Act

variable {α τ : Type}

/-- What each element of a list leaves as it is, the list leaves as it is. -/
theorem forEach_of_still {act : Act (α × τ) Unit} (still : ∀ a t, act (a, t) = .ok () (a, t))
    (as : List α) (t : τ) : forEach act (as, t) = .ok () (as, t) := by
  unfold forEach
  induction as with
  | nil => rw [foldEach]
  | cons a as ih =>
    rw [foldEach, still]
    simp only [ih]

end Act

/-- An operation that leaves the state as it is changes the elements of a list one by one. -/
theorem threadList_eq_map {α σ : Type} {f : α → σ → α × σ} {g : α → α}
    (h : ∀ a s, f a s = (g a, s)) (as : List α) (s : σ) : threadList f as s = (as.map g, s) := by
  induction as with
  | nil => rfl
  | cons a as ih =>
    rw [threadList, h]
    simp only [ih, List.map_cons]

/-! ## Effects -/

namespace Hosted

omit [EffectHooks H ω] in
theorem exists_eq_of_isEmpty (h : Hosted H) :
    ∃ effect dirty prepared, h = { effect, dirty, prepared } := by
  obtain ⟨effect, hooks, dirty, prepared⟩ := h
  cases hooks with
  | none => exact ⟨effect, dirty, prepared, rfl⟩
  | some k => exact isEmptyElim k

theorem prepare_of_isEmpty (h : Hosted H) (alpha : Bool) (precision : Precision) (s : Stage ω) :
    h.prepare alpha precision s = ({ h with prepared := true }, s) := by
  obtain ⟨effect, dirty, prepared, rfl⟩ := h.exists_eq_of_isEmpty
  cases prepared <;> rfl

theorem update_of_isEmpty (input : Surface) (delta : Float32) (h : Hosted H) (s : Stage ω) :
    update input delta (h, s) = .ok () (h, s) := by
  obtain ⟨effect, dirty, prepared, rfl⟩ := h.exists_eq_of_isEmpty
  rfl

theorem setSize_of_isEmpty (h : Hosted H) (width height : UInt32) (s : Shared ω) :
    h.setSize width height s = (h, s) := by
  obtain ⟨effect, dirty, prepared, rfl⟩ := h.exists_eq_of_isEmpty
  rfl

theorem setDepthTexture_of_isEmpty (h : Hosted H) (t : Option Texture) (packing : DepthPacking)
    (s : Shared ω) : h.setDepthTexture t packing s = (h, s) := by
  obtain ⟨effect, dirty, prepared, rfl⟩ := h.exists_eq_of_isEmpty
  rfl

theorem dispose_of_isEmpty (h : Hosted H) (s : Stage ω) : h.dispose s = (h, s) := by
  obtain ⟨effect, dirty, prepared, rfl⟩ := h.exists_eq_of_isEmpty
  rfl

end Hosted

/-! ## Passes -/

namespace EffectPass

variable {m : Merged} {p : EffectPass H} {g : Geometry}

omit [IsEmpty H] [EffectHooks H ω] in
theorem forEffects_eq_map {σ : Type} {f : Hosted H → σ → Hosted H × σ} {k : Hosted H → Hosted H}
    (h : ∀ e s, f e s = (k e, s)) (p : EffectPass H) (s : σ) :
    p.forEffects f s = ({ p with effects := p.effects.map k }, s) := by
  unfold forEffects
  rw [threadList_eq_map h]

omit [IsEmpty H] [EffectHooks H ω] in
theorem forEffects_of_still {σ : Type} {f : Hosted H → σ → Hosted H × σ}
    (still : ∀ e s, f e s = (e, s)) (p : EffectPass H) (s : σ) : p.forEffects f s = (p, s) := by
  rw [forEffects_eq_map (k := id) still, List.map_id]

/-- The flags of a pass with the merge `m`. -/
def flagsOf (m : Merged) (toScreen : Bool) : PassFlags :=
  { needsSwap := m.needsSwap, needsDepth := m.needsDepthTexture, toScreen }

/-- The pass has the merge `m` as its program, it draws to the screen or not, and a frame finds nothing
to do before it draws: the merge is not stale, and no effect came late. -/
structure Waiting (m : Merged) (toScreen : Bool) (p : EffectPass H) : Prop where
  merged : p.merged = m
  clean : p.isDirty = false
  synced : p.needsSync = false
  flags : p.flags = flagsOf m toScreen

omit [IsEmpty H] [EffectHooks H ω] in
/-- A new pass for effects that can be merged. -/
theorem exists_waiting_of_create {effects : List (Hosted H)}
    (merged : merge (effects.map (·.effect)) = .ok m) (camera : Option Camera)
    (config : EffectPassConfig) (s : UniformStore) :
    ∃ p t, create camera effects config s = .ok (p, t) ∧ Waiting m false p := by
  unfold create mergeHosted
  rw [merged]
  refine ⟨_, _, rfl, rfl, ?_, rfl, rfl⟩
  unfold isDirty
  rw [List.any_map]
  exact List.any_eq_false.2 fun _ _ => Bool.false_ne_true

namespace Waiting

variable {toScreen : Bool}

theorem setUp (h : Waiting m toScreen p) (setup : PassSetup) (s : Stage ω) :
    ∃ q, p.setUp setup s = (q, s) ∧ Waiting m toScreen q ∧ q.geometry = some setup.geometry := by
  unfold EffectPass.setUp
  simp only [forEffects_eq_map fun e s => e.prepare_of_isEmpty setup.alpha setup.precision s]
  refine ⟨_, rfl, ⟨h.merged, ?_, h.synced, h.flags⟩, rfl⟩
  have clean := h.clean
  unfold isDirty at clean ⊢
  simp only [refreshWarnings, refreshDefines, List.any_map]
  exact clean

theorem setSize (h : Waiting m toScreen p) (width height : UInt32) (s : Shared ω) :
    ∃ q t, p.setSize width height s = (q, t) ∧ Waiting m toScreen q ∧ q.geometry = p.geometry := by
  unfold EffectPass.setSize
  simp only [forEffects_of_still fun e s => e.setSize_of_isEmpty width height s]
  exact ⟨_, _, rfl, ⟨h.merged, h.clean, h.synced, h.flags⟩, rfl⟩

theorem setDepthTexture (h : Waiting m toScreen p) (t : Option Texture) (packing : DepthPacking)
    (s : Shared ω) :
    ∃ q u, p.setDepthTexture t packing s = (q, u) ∧ Waiting m toScreen q ∧
      q.geometry = p.geometry := by
  unfold EffectPass.setDepthTexture
  simp only [forEffects_of_still fun e s => e.setDepthTexture_of_isEmpty t packing s]
  exact ⟨_, _, rfl, ⟨h.merged, h.clean, h.synced, h.flags⟩, rfl⟩

omit [IsEmpty H] [EffectHooks H ω] in
theorem sendToScreen (h : Waiting m toScreen p) (toScreen' : Bool) :
    Waiting m toScreen' { p with flags := { p.flags with toScreen := toScreen' } } where
  merged := h.merged
  clean := h.clean
  synced := h.synced
  flags := by rw [h.flags]; rfl

/-- Before it draws, a frame changes uniforms only. -/
theorem beforeDraw_eq_ok (h : Waiting m toScreen p) (input : Surface) (delta : Float32)
    (s : Stage ω) :
    beforeDraw input delta (p, s) = .ok () (p, p.bindFrame input (p.config.clampDelta delta) s) := by
  have merged : Act.onFirst recompile (p, s) = .ok () (p, s) := by
    have kept : recompile p = .ok () p := by
      unfold recompile
      rw [Act.get_bind_apply, if_neg (h.clean ▸ Bool.false_ne_true)]
      rfl
    simp only [Act.onFirst, kept]
  have synced : p.syncEffects s = (p, s) := by
    unfold syncEffects
    rw [if_neg (h.synced ▸ Bool.false_ne_true)]
  have updated (delta : Float32) (t : Stage ω) :
      updateEffects input delta (p, t) = .ok () (p, t) :=
    Act.within_eq_ok.2 ⟨_, _, Act.forEach_of_still (Hosted.update_of_isEmpty input delta) _ _, rfl⟩
  refine (Act.bind_of_eq_ok merged _).trans ?_
  refine (Act.bind_of_eq_ok (a := ⟨⟩) (t := (p, s)) ?_ _).trans (updated _ _)
  exact Act.modify_eq_ok.2 synced.symm

end Waiting

/-- The commands of a frame that are due to the pass, and the draws over the screen among them. -/
def frameLoad (p : EffectPass H) : Nat × Nat :=
  if p.merged.isIdle && !p.flags.toScreen then (0, 0) else (2, 1)

omit [IsEmpty H] [EffectHooks H ω] in
theorem Waiting.frameLoad_eq {toScreen : Bool} (h : Waiting m toScreen p) :
    p.frameLoad = if m.needsSwap || toScreen then (2, 1) else (0, 0) := by
  have sent : p.flags.toScreen = toScreen := congrArg PassFlags.toScreen h.flags
  rw [frameLoad, h.merged, sent, Merged.needsSwap]
  cases m.isIdle <;> cases toScreen <;> rfl

omit [IsEmpty H] [EffectHooks H ω] in
theorem worked_drawProgram (hg : p.geometry = some g) {s : Stage ω} (serves : s.device.Serves g)
    (output : Surface) :
    ∃ t, p.drawProgram output s = .ok () t ∧ s.device.Worked p.frameLoad.1 p.frameLoad.2 t.device := by
  unfold drawProgram frameLoad
  rw [hg]
  split
  · exact ⟨s, rfl, .refl _⟩
  · have bound := s.device.worked_bind output p.flags.toScreen
    obtain ⟨d, drawn, worked⟩ :=
      Device.worked_drawScreen (serves.of_worked bound) p.program s.uniforms
    refine ⟨{ s with device := d }, ?_, bound.trans worked⟩
    change Stage.onDevice (Device.drawScreen g p.program s.uniforms)
      (s.mapDevice (·.bind output p.flags.toScreen)) = _
    exact Stage.onDevice_eq_ok.2 ⟨d, drawn, rfl⟩

/-- A pass that waits for nothing is routine. -/
theorem Waiting.routine {toScreen : Bool} (h : Waiting m toScreen p) (hg : p.geometry = some g) :
    Routine (ω := ω) g p.frameLoad.1 p.frameLoad.2 (BuiltinPass.effects p) where
  enabled := congrArg PassFlags.enabled h.flags
  alive := congrArg PassFlags.disposed h.flags
  role := rfl
  render input output delta s serves := by
    let bound := p.bindFrame input (p.config.clampDelta delta) s
    have device : bound.device = s.device := by
      unfold bound bindFrame
      cases p.camera <;> rfl
    obtain ⟨t, drawn, worked⟩ := worked_drawProgram hg (s := bound) (device ▸ serves) output
    have run : EffectPass.render input output delta (p, s) = .ok () (p, t) := by
      rw [render_eq_beforeDraw, Act.bind_of_eq_ok (h.beforeDraw_eq_ok input delta s)]
      exact Act.onSecond_eq_ok.2 ⟨t, drawn, rfl⟩
    refine ⟨t, ?_, device ▸ worked⟩
    change BuiltinPass.wrap .effects p s (EffectPass.render input output delta) = _
    unfold BuiltinPass.wrap
    rw [run]

end EffectPass

end ScreenEffects
