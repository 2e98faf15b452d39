import Mathlib.Data.List.Perm.Basic
import ScreenEffects.Proofs.Pipeline.CurrentImage
import ScreenEffects.Proofs.Pipeline.Operations
import ScreenEffects.Proofs.Pipeline.SharedDepth

/-!
# The depth texture in a run

The shared depth texture of `Pipeline.SharesDepth` lasts through every run of a rig: no operation
misplaces it, none leaves a second one behind, and a pass that has left holds none. What is asked of the
rest of the program is that it keeps away from the reserved uniforms, which are the depth buffers of the
passes that are made in the run, and makes no depth texture of its own (`Rig.Respects`).

That the texture is there exactly if some pass needs it is settled when a pass joins or leaves, and
before the passes of a frame are rendered, since an edit may have changed the need in between.

* `Pipeline.depthAsNeeded_settled` : the texture is there as it is needed.
* `Rig.shares_perform` : what one operation keeps.
* `Rig.sharesDepth_run` : the run.
-/

namespace ScreenEffects

variable {H P Q ω : Type} {R : Uniform → Prop}

/-- Whether a pass needs the depth is told by flags that can be written, and is not changed by handing
it a texture. -/
structure SteadyNeeds (P : Type) {ω : Type} [Pass P ω] : Prop where
  withFlags : KeepsFlags P
  setDepthTexture : ∀ (q : P) (t : Option Texture) (s : Shared ω),
    (Pass.flags (Pass.setDepthTexture q t .basic s).1).needsDepth = (Pass.flags q).needsDepth

theorem steadyNeeds_anyPass [EffectHooks H ω] [Pass Q ω] (own : SteadyNeeds Q) :
    SteadyNeeds (AnyPass H Q) where
  withFlags := keepsFlags_anyPass own.withFlags
  setDepthTexture q t s := by
    cases q with
    | builtin q => exact congrArg PassFlags.needsDepth (Pipeline.flags_setDepthTexture q t s)
    | own q => exact own.setDepthTexture q t s

theorem steadyNeeds_probePass : SteadyNeeds ProbePass := ⟨fun _ _ => rfl, fun _ _ _ => rfl⟩

namespace Pipeline

variable [Pass P ω] {p : Pipeline P} {s : Stage ω}

/-! ## As needed -/

/-- The texture exists exactly if some pass, enabled or not, needs the depth. -/
def DepthAsNeeded (p : Pipeline P) : Prop :=
  p.depthTexture.isSome = true ↔ ∃ q ∈ p.passes, (Pass.flags q).needsDepth = true

theorem isSome_updateDepthTexture (p : Pipeline P) (s : Stage ω) :
    (p.updateDepthTexture s).1.depthTexture.isSome = p.needsDepth := by
  unfold updateDepthTexture
  split
  · rename_i needed _
    exact needed.symm
  · rename_i t needed present
    unfold deleteDepthTexture
    rw [present, needed]
    rfl
  · rename_i other other'
    cases hn : p.needsDepth with
    | true =>
      cases ht : p.depthTexture with
      | none => exact absurd ht (other hn)
      | some t => rfl
    | false =>
      cases ht : p.depthTexture with
      | none => rfl
      | some t => exact absurd ht (other' t hn)

section Steady

variable (steady : SteadyNeeds P)

include steady

/-- Once it is settled, the texture exists as it is needed, also when the last pass is sent to the
screen. -/
theorem depthAsNeeded_settled (p : Pipeline P) (s : Stage ω) :
    (p.updateDepthTexture s).1.presentLast.DepthAsNeeded := by
  let needs (q : P) : Bool := (Pass.flags q).needsDepth
  have kept : (p.updateDepthTexture s).1.presentLast.passes.map needs = p.passes.map needs := by
    have sent (q : P) (b : Bool) : needs (sendToScreen q b) = needs q := by
      unfold needs sendToScreen
      rw [steady.withFlags]
    exact (map_presentLast sent _).trans (map_updateDepthTexture steady.setDepthTexture p s)
  have same : (p.updateDepthTexture s).1.presentLast.depthTexture =
      (p.updateDepthTexture s).1.depthTexture := by
    unfold presentLast
    split <;> rfl
  have mem (qs : List P) : (∃ q ∈ qs, needs q = true) ↔ true ∈ qs.map needs := List.mem_map.symm
  unfold DepthAsNeeded
  rw [same, isSome_updateDepthTexture, mem, kept, ← mem]
  exact List.any_eq_true

theorem depthAsNeeded_add {q : P} {index : Option Nat} (h : (p.add q index s).refused = none) :
    (p.add q index s).pipeline.DepthAsNeeded := by
  revert h
  unfold add
  simp only
  split
  · exact nofun
  split
  · exact nofun
  cases ready p (q, s) with
  | error e x => exact nofun
  | ok a x => exact fun _ => depthAsNeeded_settled steady _ x.2

theorem depthAsNeeded_remove {index : Nat} {q : P} {p' : Pipeline P} {s' : Stage ω}
    (h : remove index (p, s) = .ok q (p', s')) : p'.DepthAsNeeded := by
  unfold remove at h
  cases hq : p.passes[index]? with
  | none =>
    simp only [hq] at h
    cases h
  | some r =>
    simp only [hq] at h
    cases h
    exact depthAsNeeded_settled steady _ _

end Steady

end Pipeline

/-! ## Rigs -/

namespace Rig

/-- The pipeline of the rig shares its depth texture, and a loose pass holds none. -/
structure Shares (R : Uniform → Prop) (x : Rig H Q ω) : Prop where
  pipeline : x.pipeline.Shares R x.stage
  loose : ∀ q ∈ x.loose, q.Carries R none x.stage.uniforms
  nodup : (depthBuffers (x.pipeline.passes ++ x.loose)).Nodup

variable {x : Rig H Q ω} {p : Pipeline (AnyPass H Q)} {s s' : Stage ω}
  {base loose qs : List (AnyPass H Q)}

/-- If only the depth buffers of the passes `base` are written, of which some are in the list then and
some are loose, then the other loose passes are left alone. -/
theorem Shares.of_apart (nodup : (depthBuffers (base ++ loose)).Nodup)
    (holds : ∀ q ∈ loose, q.Carries R none s.uniforms)
    (others : s.uniforms.Spares (fun u => R u ∧ u ∉ depthBuffers base) s'.uniforms)
    (shares : p.Shares R s') (left : ∀ q ∈ qs, q.Carries R none s'.uniforms)
    (buffers : (depthBuffers (p.passes ++ qs)).Subperm (depthBuffers base)) :
    Shares R ⟨p, loose ++ qs, s'⟩ where
  pipeline := shares
  loose := List.forall_mem_append.2
    ⟨fun q hq => carries_of_apart nodup hq others (holds q hq), left⟩
  nodup := by
    have perm : (depthBuffers (p.passes ++ (loose ++ qs))).Perm
        (depthBuffers (p.passes ++ qs) ++ depthBuffers loose) := by
      rw [← depthBuffers_append, List.append_assoc]
      exact (List.perm_append_comm.append_left _).filterMap _
    obtain ⟨us, same, sub⟩ := buffers
    rw [depthBuffers_append] at nodup
    rw [perm.nodup_iff, ← (same.append_right _).nodup_iff]
    exact (sub.append_right _).nodup nodup

theorem Shares.of_apart_nil (nodup : (depthBuffers (base ++ loose)).Nodup)
    (holds : ∀ q ∈ loose, q.Carries R none s.uniforms)
    (others : s.uniforms.Spares (fun u => R u ∧ u ∉ depthBuffers base) s'.uniforms)
    (shares : p.Shares R s') (buffers : (depthBuffers p.passes).Subperm (depthBuffers base)) :
    Shares R ⟨p, loose, s'⟩ := by
  have none_left : ∀ q ∈ ([] : List (AnyPass H Q)), q.Carries R none s'.uniforms :=
    fun _ hq => absurd hq List.not_mem_nil
  have next := of_apart nodup holds others shares none_left (by rwa [List.append_nil])
  rwa [List.append_nil] at next

theorem Shares.left (h : x.Shares R) {y : Pipeline (AnyPass H Q) × Stage ω}
    (hy : Pipeline.Left R x.pipeline x.stage qs y) : Shares R ⟨y.1, x.loose ++ qs, y.2⟩ :=
  .of_apart h.nodup h.loose hy.others hy.shares hy.left
    ((List.perm_append_comm.filterMap _).trans hy.buffers).subperm

theorem Shares.since (h : x.Shares R) {y : Pipeline (AnyPass H Q) × Stage ω}
    (hy : Pipeline.SharesSince R x.pipeline x.stage y) : Shares R ⟨y.1, x.loose, y.2⟩ :=
  .of_apart_nil h.nodup h.loose hy.others hy.shares (hy.buffers ▸ .refl _)

/-! ### Changes of one pass -/

/-- A change that leaves its depth buffer to a pass does no harm to a rig. -/
theorem Shares.change {f : AnyPass H Q → AnyPass H Q}
    (keeps : ∀ q b t, q.Guards R b t → (f q).Guards R b t) (h : x.Shares R) (place : Place) :
    (x.change f place).Shares R := by
  have changed {t : Option Texture} {qs : List (AnyPass H Q)}
      (hqs : ∀ q ∈ qs, q.Carries R t x.stage.uniforms) (i : Nat) :
      (∀ q ∈ qs.modify i f, q.Carries R t x.stage.uniforms) ∧
        (qs.modify i f).map (·.depthBuffer?) = qs.map (·.depthBuffer?) := by
    constructor
    · exact forall_mem_modify (A := fun q : AnyPass H Q => q.Carries R t x.stage.uniforms)
        (fun q hq => hq.of_guards (keeps q _ t hq.guards)) hqs i
    · exact map_modify (fun q hq =>
        (AnyPass.guards_iff.1 (keeps q _ t (hqs q hq).guards)).1) i
  cases place with
  | listed i =>
    obtain ⟨carries, buffers⟩ := changed h.pipeline.passes i
    exact h.since (h.pipeline.since.withPasses buffers (fun q hq => (carries q hq).guards)
      (.refl R x.stage))
  | loose i =>
    obtain ⟨carries, buffers⟩ := changed h.loose i
    refine ⟨h.pipeline, carries, ?_⟩
    change (depthBuffers (x.pipeline.passes ++ x.loose.modify i f)).Nodup
    rw [depthBuffers_append, depthBuffers_congr buffers, ← depthBuffers_append]
    exact h.nodup

/-! ### Passes that come and go -/

theorem Shares.holds (h : x.Shares R) {u : Uniform}
    (hu : u ∈ depthBuffers (x.pipeline.passes ++ x.loose)) : x.stage.uniforms.Holds u := by
  obtain ⟨q, hq, hqu⟩ := List.mem_filterMap.1 hu
  rcases List.mem_append.1 hq with hq | hq
  · exact ((h.pipeline.passes q hq).bound u hqu).1
  · exact ((h.loose q hq).bound u hqu).1

/-- A pass can be made whose depth buffer is new, or that has none. -/
theorem Shares.make (h : x.Shares R) {q : AnyPass H Q} {uniforms : UniformStore}
    (carries : q.Carries R none uniforms) (spares : x.stage.uniforms.Spares R uniforms)
    (new : ∀ u, q.depthBuffer? = some u → ¬ x.stage.uniforms.Holds u) :
    Shares R { x with loose := x.loose ++ [q], stage := { x.stage with uniforms } } := by
  have nodup : (depthBuffers ((q :: x.pipeline.passes) ++ x.loose)).Nodup := by
    rw [List.cons_append, depthBuffers_cons, List.nodup_append]
    refine ⟨by cases q.depthBuffer? <;> simp, h.nodup, fun u hu w hw => ?_⟩
    rintro rfl
    exact new u (Option.mem_toList.1 hu) (h.holds hw)
  have made : x.stage.Spares R { x.stage with uniforms } := ⟨spares, .refl _⟩
  refine .of_apart nodup h.loose (spares.mono fun u hu => hu.1)
    (h.pipeline.since.onStage made).shares (List.forall_mem_singleton.2 carries) ?_
  exact (List.perm_append_comm.filterMap _).subperm

theorem Shares.makeEffects (h : x.Shares R) {camera : Option Camera} {effects : List (Hosted H)}
    {config : EffectPassConfig} {q : EffectPass H} {uniforms : UniformStore}
    (hq : EffectPass.create camera effects config x.stage.uniforms = .ok (q, uniforms))
    (reserves : (RuntimeUniforms.create x.stage.uniforms).1.Reserves R)
    (avoids : ∀ h ∈ effects, UniformMap.Avoids R h.effect.uniforms) :
    Shares R { x with
      loose := x.loose ++ [.builtin (.effects q)], stage := { x.stage with uniforms } } := by
  obtain ⟨guards, rfl⟩ := EffectPass.guards_of_create hq reserves avoids
  obtain ⟨spares, new, held, unbound⟩ := RuntimeUniforms.spares_create R x.stage.uniforms
  have carries : (AnyPass.builtin (.effects q) : AnyPass H Q).Carries R none
      (RuntimeUniforms.create x.stage.uniforms).2 := by
    refine ⟨⟨_, rfl, guards.buffer ▸ guards⟩, fun u hu => ?_⟩
    obtain rfl := Option.some.inj hu
    rw [guards.buffer]
    exact ⟨held, unbound⟩
  refine h.make carries spares fun u hu => ?_
  obtain rfl := Option.some.inj hu
  rwa [guards.buffer]

theorem Shares.nodup_cons (h : x.Shares R) {q : AnyPass H Q} {rest : List (AnyPass H Q)}
    (hx : x.loose.Perm (q :: rest)) :
    (depthBuffers (q :: (x.pipeline.passes ++ rest))).Nodup := by
  have perm : (x.pipeline.passes ++ x.loose).Perm (q :: (x.pipeline.passes ++ rest)) :=
    (hx.append_left _).trans List.perm_middle
  exact (perm.filterMap _).nodup_iff.1 h.nodup

/-- A pass that could not join is loose as before. -/
theorem Shares.replace (h : x.Shares R) {q q' : AnyPass H Q} {rest qs : List (AnyPass H Q)}
    (hx : x.loose.Perm (q :: rest)) (hqs : qs.Perm (q' :: rest))
    (hq : Pipeline.CarriesSince R q.depthBuffer? none x.stage (q', s')) :
    Shares R ⟨x.pipeline, qs, s'⟩ := by
  have nodup : (depthBuffers ([q] ++ (x.pipeline.passes ++ rest))).Nodup := h.nodup_cons hx
  have others : x.stage.uniforms.Spares (fun u => R u ∧ u ∉ depthBuffers [q]) s'.uniforms :=
    hq.others.mono fun u hu =>
      ⟨hu.1, fun e => hu.2 (List.mem_filterMap.2 ⟨q, List.mem_singleton_self q, e⟩)⟩
  have apart {r : AnyPass H Q} {t : Option Texture} (hr : r ∈ x.pipeline.passes ++ rest) :
      r.Carries R t x.stage.uniforms → r.Carries R t s'.uniforms :=
    carries_of_apart nodup hr others
  refine ⟨{ h.pipeline with
    device := hq.depth _ h.pipeline.device
    passes := fun r hr => apart (List.mem_append_left _ hr) (h.pipeline.passes r hr) },
    fun r hr => ?_, ?_⟩
  · rcases List.mem_cons.1 (hqs.mem_iff.1 hr) with rfl | hr
    · exact hq.carries
    · have mem : r ∈ x.loose := hx.mem_iff.2 (List.mem_cons_of_mem q hr)
      exact apart (List.mem_append_right _ hr) (h.loose r mem)
  · have perm : (x.pipeline.passes ++ qs).Perm (q' :: (x.pipeline.passes ++ rest)) :=
      (hqs.append_left _).trans List.perm_middle
    rw [List.singleton_append, depthBuffers_cons, ← hq.buffer, ← depthBuffers_cons] at nodup
    exact (perm.filterMap _).nodup_iff.2 nodup

section Hooks

variable [EffectHooks H ω] [Pass Q ω] (sparing : SparingProgram R H Q)

include sparing

theorem Shares.add (h : x.Shares R) (i : Nat) (index : Option Nat) : (x.add i index).Shares R := by
  unfold Rig.add
  cases hq : x.loose[i]? with
  | none => exact h
  | some q =>
    obtain ⟨inside, rfl⟩ := List.getElem?_eq_some_iff.1 hq
    have perm := (List.getElem_cons_eraseIdx_perm inside).symm
    have nodup := h.nodup_cons perm
    have new : ∀ u, x.loose[i].depthBuffer? = some u → u ∉ depthBuffers x.pipeline.passes := by
      rw [depthBuffers_cons, depthBuffers_append, List.nodup_append] at nodup
      intro u hu e
      exact nodup.2.2 u (Option.mem_toList.2 hu) u (List.mem_append_left _ e) rfl
    have joined := h.pipeline.add sparing (h.loose _ (List.getElem_mem inside)) new index
    unfold Pipeline.JoinedOrRefused at joined
    simp only
    cases hr : (x.pipeline.add x.loose[i] index x.stage).refused with
    | none =>
      rw [hr] at joined
      obtain ⟨shares, buffers, others⟩ := joined
      have stay : ∀ q ∈ x.loose.eraseIdx i, q.Carries R none x.stage.uniforms := fun q hq =>
        h.loose q (List.mem_of_mem_eraseIdx hq)
      exact of_apart_nil (List.cons_append ▸ nodup) stay others shares buffers.subperm
    | some refused =>
      rw [hr] at joined
      obtain ⟨same, since⟩ := joined
      rw [same]
      exact h.replace perm (List.set_perm_cons_eraseIdx inside _) since

theorem Shares.dispose (h : x.Shares R) :
    Shares R ⟨(x.pipeline.dispose x.stage).2.1, x.loose, (x.pipeline.dispose x.stage).2.2⟩ := by
  obtain ⟨shares, sub, spares⟩ := h.pipeline.dispose sparing
  exact of_apart_nil h.nodup h.loose (spares.mono fun u hu => hu.1) shares
    (sub.filterMap _).subperm

theorem Shares.remove (h : x.Shares R) (index : Nat) : (x.remove index).Shares R := by
  unfold Rig.remove Pipeline.remove
  cases hq : x.pipeline.passes[index]? with
  | none =>
    simp only [hq]
    exact h
  | some q =>
    simp only [hq]
    obtain ⟨inside, rfl⟩ := List.getElem?_eq_some_iff.1 hq
    exact h.left (h.pipeline.release sparing (List.getElem_cons_eraseIdx_perm inside).symm)

/-! ### Runs -/

omit sparing in
/-- An operation brings in nothing that writes a reserved uniform, and reserved is just the depth
buffer of the pass that it makes. The rest of the program writes no reserved uniform, and makes or ends
no depth texture. -/
def Op.Respects (R : Uniform → Prop) (x : Rig H Q ω) : Op H Q ω → Prop
  | .makeEffects _ effects _ => (RuntimeUniforms.create x.stage.uniforms).1.Reserves R ∧
    ∀ h ∈ effects, UniformMap.Avoids R h.effect.uniforms
  | .make q => q.Guards R none none
  | .edit _ op => op.IsEdit ∧ op.Avoids R
  | .elsewhere s => x.stage.Spares R s
  | _ => True

omit sparing in
/-- Each operation of a run respects what is reserved. -/
def Respects (R : Uniform → Prop) : List (Op H Q ω) → Rig H Q ω → Prop
  | [], _ => True
  | op :: ops, x => op.Respects R x ∧ Respects R ops (op.perform x)

/-- An operation keeps the depth texture shared, failed or not. -/
theorem shares_perform (h : x.Shares R) {op : Op H Q ω} (respects : op.Respects R x) :
    (op.perform x).Shares R := by
  cases op with
  | makeEffects camera effects config =>
    simp only [Op.perform]
    cases hc : EffectPass.create camera effects config x.stage.uniforms with
    | error e => exact h
    | ok y => exact h.makeEffects hc respects.1 respects.2
  | make q =>
    obtain ⟨bare, guards⟩ := AnyPass.guards_iff.1 respects
    have unbuffered (u : Uniform) : q.depthBuffer? ≠ some u := fun hu => nomatch bare.symm.trans hu
    exact h.make ⟨guards, fun u hu => absurd hu (unbuffered u)⟩ (.refl R _)
      fun u hu => absurd hu (unbuffered u)
  | add i index => exact h.add sparing i index
  | remove index => exact h.remove sparing index
  | removeAll => exact h.left (h.pipeline.removeAll sparing)
  | setFlags place flags => exact h.change (fun q b t hq => hq.withFlags flags) place
  | edit place op =>
    exact h.change (fun q b t hq => hq.edit respects.1 respects.2 x.stage) place
  | setSize width height =>
    exact h.since (Pipeline.keeps_sharesSince_setSize sparing width height _ h.pipeline.since)
  | reset => exact h.since (Pipeline.keeps_sharesSince_reset sparing _ h.pipeline.since)
  | render delta =>
    exact h.since (Pipeline.keeps_sharesSince_render sparing delta _ h.pipeline.since)
  | dispose => exact h.dispose sparing
  | elsewhere s =>
    have spared : x.stage.Spares R s := respects
    exact h.since (h.pipeline.since.onStage spared)

/-- A run keeps the depth texture shared. -/
theorem shares_run {ops : List (Op H Q ω)} (h : x.Shares R) (respects : Respects R ops x) :
    (run ops x).Shares R := by
  induction ops generalizing x with
  | nil => exact h
  | cons op ops ih => exact ih (shares_perform sparing h respects.1) respects.2

omit sparing [EffectHooks H ω] [Pass Q ω] in
/-- A pipeline without passes shares what is not there. -/
theorem shares_start {config : PipelineConfig} (device : s.device.HasDepth [])
    (copy : (start config s : Rig H Q ω).pipeline.copy.shader.Avoids R) :
    (start config s : Rig H Q ω).Shares R := by
  have made : s.device.SparesDepth (Pipeline.createImages config s.device).2 :=
    ((Device.SparesDepth.refl s.device).createSurface _).createSurface _
  refine ⟨⟨(made _ device).takeId.congr rfl rfl, rfl, rfl, copy, ?_, List.nodup_nil⟩, ?_,
    List.nodup_nil⟩
  · exact fun q hq => absurd hq List.not_mem_nil
  · exact fun q hq => absurd hq List.not_mem_nil

/-- **The depth texture is shared in every run.** Passes of effects are made, and any passes join and
leave, are edited, resized and rendered; the pipeline is reset and comes to its end, and operations may
fail. At each moment the device has at most one depth texture, and the pipeline, its surfaces and its
passes agree on it. It exists exactly if a pass needs it whenever a pass has joined or left, and in
every frame before the first pass is rendered. -/
theorem sharesDepth_run (steady : SteadyNeeds Q) {config : PipelineConfig}
    (device : s.device.HasDepth [])
    (copy : (start config s : Rig H Q ω).pipeline.copy.shader.Avoids R) {ops : List (Op H Q ω)}
    (respects : Respects R ops (start config s)) (hx : run ops (start config s) = x) :
    x.pipeline.SharesDepth x.stage ∧
      (∀ q index, (x.pipeline.add q index x.stage).refused = none →
        (x.pipeline.add q index x.stage).pipeline.DepthAsNeeded) ∧
      (∀ index q p s, Pipeline.remove index (x.pipeline, x.stage) = .ok q (p, s) →
        p.DepthAsNeeded) ∧
      ∀ delta p s, x.pipeline.disposed = false →
        Pipeline.frameStart delta x.pipeline x.stage = (p, s) →
        Pipeline.render delta (x.pipeline, x.stage) =
            Pipeline.renderPasses (Pipeline.readDelta x.pipeline.timer delta).1 (p, s) ∧
          p.SharesDepth s ∧ p.DepthAsNeeded := by
  have needs : SteadyNeeds (AnyPass H Q) := steadyNeeds_anyPass steady
  have shares : x.Shares R := hx ▸ shares_run sparing (shares_start device copy) respects
  refine ⟨shares.pipeline.sharesDepth, fun q index => Pipeline.depthAsNeeded_add needs,
    fun index q p s => Pipeline.depthAsNeeded_remove needs, fun delta p s alive hs => ?_⟩
  have timed : Pipeline.SharesSince R x.pipeline x.stage
      ({ x.pipeline with timer := (Pipeline.readDelta x.pipeline.timer delta).2 }, x.stage) :=
    { shares.pipeline.since with shares := { shares.pipeline with } }
  have started := (timed.updateDepthTexture sparing).presentLast
  cases hs
  exact ⟨Pipeline.render_eq_renderPasses alive delta x.stage, started.shares.sharesDepth,
    Pipeline.depthAsNeeded_settled needs _ _⟩

end Hooks

/-- A pipeline of probes without passes. Its copy has the first two uniforms. -/
def bareProbe : Rig ProbeHooks ProbePass ProbeLog :=
  start {} { host := #[], device := .ofSize 64 32 }

/-- The depth buffer of the first pass of effects is a uniform that the copy does not write. -/
theorem avoids_bareProbe : bareProbe.pipeline.copy.shader.Avoids (· = ⟨3⟩) := by
  have image : bareProbe.pipeline.copy.shader.program.uniforms.get?
      bareProbe.pipeline.copy.shader.inputName = some ⟨1⟩ := by
    decide +kernel
  intro u hu
  rw [image] at hu
  cases hu
  decide

theorem reserves_bareProbe :
    (RuntimeUniforms.create bareProbe.stage.uniforms).1.Reserves (· = ⟨3⟩) := by
  constructor <;> decide +kernel

/-- A pass of a program's own that needs the depth joins before a pass of effects; after a frame, an
attempt to remove a third pass fails. -/
def depthOps : List (Op ProbeHooks ProbePass ProbeLog) :=
  [.makeEffects none [] {}, .make (.own { name := "ssao", flags := { needsDepth := true } }),
    .add 1 none, .add 0 none, .render (.seconds 1), .remove 2]

/-- The run ends with a texture, which both passes have been handed. -/
theorem sharesDepth_run_depthOps :
    ∃ x : Rig ProbeHooks ProbePass ProbeLog,
      run depthOps (start {} { host := #[], device := .ofSize 64 32 }) = x ∧
        x.pipeline.depthTexture.isSome = true ∧ x.pipeline.passes.length = 2 ∧
        x.pipeline.SharesDepth x.stage := by
  have respects : Respects (· = ⟨3⟩) depthOps bareProbe :=
    ⟨⟨reserves_bareProbe, fun _ h => absurd h List.not_mem_nil⟩, rfl, trivial, trivial, trivial,
      trivial, trivial⟩
  refine ⟨_, rfl, by decide +kernel, by decide +kernel, ?_⟩
  exact (sharesDepth_run (sparingProgram_probe _) steadyNeeds_probePass (Device.hasDepth_ofSize 64 32)
    avoids_bareProbe respects rfl).1

end Rig

end ScreenEffects
