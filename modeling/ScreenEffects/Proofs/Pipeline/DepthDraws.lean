import ScreenEffects.Proofs.Pipeline.DepthRuns
import ScreenEffects.Proofs.Pipeline.Lasting

/-!
# What the draws of a run find in their depth buffers

A pipeline settles its depth texture at the start of a frame, from what the passes ask for then. A pass
of effects that was edited merges anew within the frame, and it may be that it asks for the depth only
from then on. Its draw in this frame finds the texture that was settled, which may be none.

* `EffectPass.NeedsByMerge` : the pass asks for the depth as its merge does; this lasts.
* `EffectPass.Draws` : the pass comes to drawing its program.
* `Rig.draws_with_settled_texture` : what the draw finds, in every frame of every run.
* `Rig.fog_draws_without_texture` : an edit that makes a pass read the depth comes a frame too soon.
-/

namespace ScreenEffects

variable {H Q ω : Type} {R : Uniform → Prop}

/-! ## Asking for the depth -/

namespace EffectPass

/-- The pass asks for the depth as its merge does. -/
def NeedsByMerge (p : EffectPass H) : Prop := p.flags.needsDepth = p.merged.needsDepthTexture

/-- A pass that merges anew asks for the depth as the new merge does. -/
theorem keeps_needsByMerge_changeEffects (effects : List (Hosted H)) :
    Act.Keeps NeedsByMerge (changeEffects effects) :=
  keeps_changeEffects_of_withMerge fun _ _ _ _ => rfl

theorem keeps_needsByMerge_recompile : Act.Keeps NeedsByMerge (recompile (H := H)) :=
  keeps_recompile_of_withMerge fun _ _ _ _ => rfl

theorem needsByMerge_create {camera : Option Camera} {effects : List (Hosted H)}
    {config : EffectPassConfig} {s s' : UniformStore} {p : EffectPass H}
    (h : create camera effects config s = .ok (p, s')) : p.NeedsByMerge := by
  obtain ⟨m, -, -, rfl⟩ := exists_withMerge_of_create h
  rfl

variable {p p' : EffectPass H} [EffectHooks H ω]

/-- An edit that does not write the flag lets a pass ask as before, failed or not. -/
theorem NeedsByMerge.edit {op : Op H ω} (edits : op.IsEdit) (h : p.NeedsByMerge)
    (unwritten : ∀ flags, op = .setFlags flags → flags.needsDepth = p.flags.needsDepth)
    (s : Stage ω) : (op.perform.after (p, s)).1.NeedsByMerge := by
  have first {α : Type} {act : Act (EffectPass H) α} (hk : Act.Keeps NeedsByMerge act) :
      ((act.onFirst).after (p, s)).1.NeedsByMerge := by
    rw [Act.after_onFirst]
    exact hk p h
  cases op with
  | setEffects effects =>
    have keeps : Act.Keeps NeedsByMerge (setEffects effects) :=
      keeps_setEffects_of_changeEffects (keeps_needsByMerge_changeEffects effects)
    exact (keeps.onFirst.bind fun _ => Act.keeps_pure _) (p, s) h
  | addEffect effect =>
    exact first (keeps_addEffect_of_changeEffects fun p h => keeps_needsByMerge_changeEffects _ p h)
  | removeEffect index =>
    have keeps : Act.Keeps NeedsByMerge (removeEffect (H := H) index) :=
      keeps_removeEffect_of_changeEffects fun p h => keeps_needsByMerge_changeEffects _ p h
    exact (keeps.onFirst.bind fun _ => Act.keeps_pure _) (p, s) h
  | recompile => exact first keeps_needsByMerge_recompile
  | setDithering dithering =>
    change (p.setDithering dithering).NeedsByMerge
    unfold EffectPass.setDithering
    split <;> exact h
  | setFlags flags => exact (unwritten flags rfl).trans h
  | editEffect index edit => exact h
  | markDirty => exact h
  | setMainCamera camera => exact h
  | _ => exact edits.elim

/-! ### Frames -/

theorem keeps_needsByMerge_beforeDraw (input : Surface) (delta : Float32) :
    Act.Keeps (fun x : EffectPass H × Stage ω => x.1.NeedsByMerge) (beforeDraw input delta) :=
  leads_beforeDraw (A := fun flags m => flags.needsDepth = m.needsDepthTexture)
    keeps_needsByMerge_recompile.leads input delta

theorem keeps_needsByMerge_render (input output : Surface) (delta : Float32) :
    Act.Keeps (fun x : EffectPass H × Stage ω => x.1.NeedsByMerge) (render input output delta) := by
  rw [render_eq_beforeDraw]
  refine (keeps_needsByMerge_beforeDraw input delta).bind fun _ => ?_
  exact Act.keeps_get.bind fun _ => Act.keeps_onSecond _

/-- A pass that is clean when a frame begins draws the merge that it holds then. -/
theorem merged_of_beforeDraw (clean : p.isDirty = false) {input : Surface} {delta : Float32}
    {s s' : Stage ω} {a : Unit} (ready : beforeDraw input delta (p, s) = .ok a (p', s')) :
    p'.merged = p.merged := by
  have recompiled : Act.Leads (· = p) (fun r => r.merged = p.merged) (recompile (H := H)) := by
    rintro r rfl
    change (Act.after (if r.isDirty then changeEffects r.effects else pure ()) r).merged = _
    rw [clean]
    rfl
  have led := leads_beforeDraw (A := fun _ m => m = p.merged) recompiled input delta (p, s) rfl
  unfold Act.after at led
  rwa [ready] at led

/-- In a frame, the pass `p` comes to drawing its program, as `p'`, on the stage `s'`. -/
def Draws (input : Surface) (delta : Float32) (p : EffectPass H) (s : Stage ω) (p' : EffectPass H)
    (s' : Stage ω) : Prop :=
  beforeDraw input delta (p, s) = .ok () (p', s') ∧
    (p'.merged.isIdle && !p'.flags.toScreen) = false

end EffectPass

namespace AnyPass

/-- A pass of effects asks for the depth as its merge does. -/
def NeedsByMerge : AnyPass H Q → Prop
  | builtin (.effects p) => p.NeedsByMerge
  | _ => True

variable [EffectHooks H ω] [Pass Q ω]

/-- That a pass asks for the depth as its merge does, lasts. -/
theorem lasting_needsByMerge : Lasting (NeedsByMerge : AnyPass H Q → Prop) where
  setUp setup := by
    rintro ⟨q, s⟩ h
    rcases q with q | q
    · cases q with
      | effects p => exact h
      | _ => trivial
    · rw [after_wrap rfl]
      trivial
  setSize width height := by
    rintro ⟨q, s⟩ h
    rcases q with q | q
    · rw [after_wrap rfl]
      cases q with
      | effects p => exact h
      | depth | save | blur =>
        rw [BuiltinPass.after_wrap rfl]
        trivial
      | _ => trivial
    · rw [after_wrap rfl]
      trivial
  setDepthTexture q t s := by
    rcases q with q | q
    · cases q <;> rfl
    · rfl
  sendToScreen q b := by
    rcases q with q | q
    · cases q <;> rfl
    · rfl
  render input output delta masked := by
    rintro ⟨q, s⟩ h
    have alone (q : BuiltinPass H) (act : Act (Stage ω) Unit)
        (hq : (builtin q : AnyPass H Q).NeedsByMerge) :
        (builtin ((act.onSecond : Act (BuiltinPass H × Stage ω) Unit).after (q, s)).1 :
          AnyPass H Q).NeedsByMerge := by
      rwa [Act.after_onSecond]
    rcases q with q | q
    · rw [after_wrap rfl]
      cases q with
      | effects p =>
        rw [BuiltinPass.after_wrap rfl]
        exact EffectPass.keeps_needsByMerge_render input output delta (p, s) h
      | clear | clearMask => trivial
      | _ => exact alone _ _ h
    · rw [after_wrap rfl]
      trivial

end AnyPass

/-! ## Draws of a run -/

namespace Pipeline

variable [EffectHooks H ω] [Pass Q ω]

/-- What the draw of the pass `q` finds, which it makes as `q'` on the stage `t`, in a frame that begins
with the pipeline `p`. -/
structure DrawsSettled (p : Pipeline (AnyPass H Q)) (q q' : EffectPass H) (t : Stage ω) : Prop where
  /-- The device has no other depth texture than that of the pipeline. -/
  live : t.device.depthTextures = p.depthTexture.toList
  /-- It is what the program reads as its depth buffer. -/
  bound : ∃ u, q'.program.uniforms.get? "depthBuffer" = some u ∧
    t.uniforms.get u = .texture p.depthTexture
  /-- There is one exactly if some pass asked for it when the frame began. -/
  asked : p.DepthAsNeeded
  /-- A merge that was not made in this frame finds one, if it reads the depth. -/
  present : q.isDirty = false → q'.merged.needsDepthTexture = true → p.depthTexture.isSome = true
  /-- A merge that was made in this frame is asked for from the next one on. -/
  asks : q'.NeedsByMerge

end Pipeline

namespace Rig

open Pipeline

/-- An operation that writes flags to a pass of effects leaves alone whether it asks for the depth. -/
def Op.KeepsNeeds (x : Rig H Q ω) : Op H Q ω → Prop
  | .setFlags place flags => ∀ p, x.at? place = some (.builtin (.effects p)) →
    flags.needsDepth = p.flags.needsDepth
  | .edit place (.setFlags flags) => ∀ p, x.at? place = some (.builtin (.effects p)) →
    flags.needsDepth = p.flags.needsDepth
  | _ => True

variable {x : Rig H Q ω} [EffectHooks H ω] [Pass Q ω]

/-- Each operation of a run leaves alone whether passes of effects ask for the depth. -/
def KeepsNeeds : List (Op H Q ω) → Rig H Q ω → Prop
  | [], _ => True
  | op :: ops, x => op.KeepsNeeds x ∧ KeepsNeeds ops (op.perform x)

theorem Op.admits_needsByMerge {op : Op H Q ω} (respects : op.Respects R x) (keeps : op.KeepsNeeds x) :
    op.Admits AnyPass.NeedsByMerge x := by
  cases op with
  | makeEffects camera effects config => exact fun p s hp => EffectPass.needsByMerge_create hp
  | make q =>
    rcases q with q | q
    · cases q with
      | effects p =>
        obtain ⟨u, hu, -⟩ := respects
        exact nomatch hu
      | _ => trivial
    · trivial
  | setFlags place flags =>
    intro q hq h
    rcases q with q | q
    · cases q with
      | effects p => exact (keeps p hq).trans h
      | _ => trivial
    · trivial
  | edit place op =>
    intro q hq h
    rcases q with q | q
    · cases q with
      | effects p =>
        refine EffectPass.NeedsByMerge.edit respects.1 h ?_ x.stage
        rintro flags rfl
        exact keeps p hq
      | _ => trivial
    · trivial
  | _ => trivial

theorem admits_needsByMerge {ops : List (Op H Q ω)} (respects : Respects R ops x)
    (keeps : KeepsNeeds ops x) : Admits AnyPass.NeedsByMerge ops x := by
  induction ops generalizing x with
  | nil => trivial
  | cons op ops ih =>
    exact ⟨Op.admits_needsByMerge respects.1 keeps.1, ih respects.2 keeps.2⟩

/-- At each call of a frame the pass still holds the texture that was settled at its start, and no
depth texture has come or gone. -/
theorem carries_of_calls (sparing : SparingProgram R H Q) (shares : x.Shares R) {delta : FrameDelta}
    {q : AnyPass H Q} {f : FrameState} {t : Stage ω} (called : Calls delta x.pipeline x.stage q f t) :
    q.Carries R (frameStart delta x.pipeline x.stage).1.depthTexture t.uniforms ∧
      t.device.HasDepth (frameStart delta x.pipeline x.stage).1.depthTexture.toList := by
  have timed : SharesSince R x.pipeline x.stage
      ({ x.pipeline with timer := (readDelta x.pipeline.timer delta).2 }, x.stage) :=
    { shares.pipeline.since with shares := { shares.pipeline with } }
  have settled : SharesSince R x.pipeline x.stage (settle delta x.pipeline x.stage) :=
    timed.updateDepthTexture sparing
  have started : (frameStart delta x.pipeline x.stage).1.Shares R
      (frameStart delta x.pipeline x.stage).2 := settled.presentLast.shares
  have spares : (frameStart delta x.pipeline x.stage).2.Spares R t := by
    refine of_calls (J := fun _ t => (frameStart delta x.pipeline x.stage).2.Spares R t) (.refl R _)
      called fun pre post hp r hr f t f' r' t' spares hn => ?_
    have mem : r ∈ framePasses delta x.pipeline x.stage := hp ▸ List.mem_append_left _ hr
    have guards := (started.passes r mem).guards
    exact ((keeps_guards_next sparing settled.shares.copy _ f).of_eq_ok hn ⟨guards, spares⟩).2
  obtain ⟨-, -, pre, post, -, hp, -⟩ := called
  have mem : q ∈ framePasses delta x.pipeline x.stage := hp ▸ List.mem_append_right _ List.mem_cons_self
  exact ⟨(started.passes q mem).spares spares.uniforms fun _ _ hR => hR,
    spares.depth _ started.device⟩

/-- **A draw finds the depth texture that was settled at the start of its frame.** In every frame of
every run, in which passes of effects are made, join and leave, and are edited, a pass that comes to
drawing reads the shared depth texture of the pipeline, if there is one. There is one if its merge
reads the depth and was not made in this very frame. A merge that was made in it, after an edit, finds
one only if some pass had asked for it before. -/
theorem draws_with_settled_texture (sparing : SparingProgram R H Q) (steady : SteadyNeeds Q)
    {config : PipelineConfig} {s : Stage ω} (device : s.device.HasDepth [])
    (copy : (start config s : Rig H Q ω).pipeline.copy.shader.Avoids R) {ops : List (Op H Q ω)}
    (respects : Respects R ops (start config s)) (keeps : KeepsNeeds ops (start config s))
    (hx : run ops (start config s) = x) {delta : FrameDelta} {q q' : EffectPass H} {f : FrameState}
    {t t' : Stage ω} (called : Calls delta x.pipeline x.stage (.builtin (.effects q)) f t)
    (draws : q.Draws f.input (readDelta x.pipeline.timer delta).1 t q' t') :
    DrawsSettled (frameStart delta x.pipeline x.stage).1 q q' t' := by
  have shares : x.Shares R := hx ▸ shares_run sparing (shares_start device copy) respects
  have each : x.Each AnyPass.NeedsByMerge :=
    hx ▸ each_run AnyPass.lasting_needsByMerge (each_start config s)
      (admits_needsByMerge respects keeps)
  obtain ⟨⟨⟨u, hu, guards⟩, bound⟩, depth⟩ := carries_of_calls sparing shares called
  obtain ⟨drawn, spares⟩ := (EffectPass.keeps_guards_beforeDraw sparing.hooks f.input _).of_eq_ok
    draws.1 ⟨guards, .refl R t⟩
  obtain ⟨held, value⟩ := bound u hu
  have reserved : R u := drawn.buffer ▸ drawn.runtime.depthBuffer
  have asked : (frameStart delta x.pipeline x.stage).1.DepthAsNeeded :=
    depthAsNeeded_settled (steadyNeeds_anyPass steady) _ _
  have mem : .builtin (.effects q) ∈ framePasses delta x.pipeline x.stage := by
    obtain ⟨-, -, pre, post, -, hp, -⟩ := called
    exact hp ▸ List.mem_append_right pre List.mem_cons_self
  have needs : q.NeedsByMerge :=
    forall_mem_framePasses AnyPass.lasting_needsByMerge.setDepthTexture
      AnyPass.lasting_needsByMerge.sendToScreen delta each.passes _ mem
  refine ⟨(spares.depth _ depth).textures, ⟨u, drawn.bound, ?_⟩, asked, fun clean reads => ?_, ?_⟩
  · exact (spares.uniforms.kept u reserved held).trans value
  · rw [EffectPass.merged_of_beforeDraw clean draws.1] at reads
    exact asked.2 ⟨_, mem, needs.trans reads⟩
  · exact (EffectPass.keeps_needsByMerge_beforeDraw f.input _).of_eq_ok draws.1 needs

/-- The first pass of a frame, if it is one of effects that comes to drawing: as it is called, as it
draws, and the stage on which it does. -/
def firstDraw (delta : FrameDelta) (p : Pipeline (AnyPass H Q)) (s : Stage ω) :
    Option (EffectPass H × EffectPass H × Stage ω) :=
  match framePasses delta p s with
  | .builtin (.effects q) :: _ =>
    match EffectPass.beforeDraw (settle delta p s).1.input (readDelta p.timer delta).1
        (q, (settle delta p s).2) with
    | .ok _ (q', t) =>
      if q.flags.enabled && !q.flags.disposed && !(q'.merged.isIdle && !q'.flags.toScreen) then
        some (q, q', t)
      else none
    | .error _ _ => none
  | _ => none

theorem exists_draws_of_firstDraw (delta : FrameDelta) (p : Pipeline (AnyPass H Q)) (s : Stage ω)
    (found : EffectPass H → EffectPass H → Stage ω → Bool)
    (h : (firstDraw delta p s).any (fun d => found d.1 d.2.1 d.2.2) = true) :
    ∃ q q' f t t', Calls delta p s (.builtin (.effects q)) f t ∧
      q.Draws f.input (readDelta p.timer delta).1 t q' t' ∧ found q q' t' = true := by
  unfold firstDraw at h
  split at h
  · rename_i q rest hp
    split at h
    · rename_i q' t ready
      split at h
      · rename_i drawing
        simp only [Bool.and_eq_true, Bool.not_eq_true'] at drawing
        obtain ⟨⟨enabled, alive⟩, drawing⟩ := drawing
        have called : Calls delta p s (.builtin (.effects q))
            { input := (settle delta p s).1.input, output := (settle delta p s).1.output }
            (settle delta p s).2 :=
          ⟨enabled, alive, [], rest, [], hp, Act.foldEach_nil_eq_ok.2 ⟨rfl, rfl, rfl⟩⟩
        exact ⟨q, q', _, _, t, called, ⟨ready, drawing⟩, h⟩
      · exact absurd h Bool.false_ne_true
    · exact absurd h Bool.false_ne_true
  · exact absurd h Bool.false_ne_true

/-- An effect without hooks that asks for the depth, or does not. -/
def fog (depth : Bool) : Hosted ProbeHooks :=
  { effect := Effect.ofEntry "fog" "mainImage" ⟨.normal, ⟨0⟩⟩ { depth } }

/-- A pass with one effect, made and added; the effect is then edited, if it is to read the depth only
from then on. -/
def fogOps (late : Bool) : List (Op ProbeHooks ProbePass ProbeLog) :=
  [.makeEffects none [fog !late] {}, .add 0 none] ++
    if late then [.edit (.listed 0) (.editEffect 0 (.setAttributes .ofDepth))] else []

/-- A pass that reads the depth from the beginning finds a texture in its first frame. -/
theorem draws_with_texture_fog :
    let x := run (fogOps false) (start {} { host := #[], device := .ofSize 64 32 })
    ∃ q q' f t t', Calls (.seconds 1) x.pipeline x.stage (.builtin (.effects q)) f t ∧
      q.Draws f.input 1 t q' t' ∧ q'.merged.needsDepthTexture = true ∧
      DrawsSettled (frameStart (.seconds 1) x.pipeline x.stage).1 q q' t' ∧
      (frameStart (.seconds 1) x.pipeline x.stage).1.depthTexture.isSome = true := by
  intro x
  have bare : ∀ h ∈ [fog true], UniformMap.Avoids (· = ⟨3⟩) h.effect.uniforms := by
    intro h hh
    obtain rfl := List.mem_singleton.1 hh
    exact fun u hu => absurd hu List.not_mem_nil
  have respects : Respects (· = ⟨3⟩) (fogOps false) bareProbe :=
    ⟨⟨reserves_bareProbe, bare⟩, trivial, trivial⟩
  have keeps : KeepsNeeds (fogOps false) bareProbe := ⟨trivial, trivial, trivial⟩
  obtain ⟨q, q', f, t, t', called, draws, found⟩ :=
    exists_draws_of_firstDraw (.seconds 1) x.pipeline x.stage
      (fun q q' _ => !q.isDirty && q'.merged.needsDepthTexture) (by decide +kernel)
  simp only [Bool.and_eq_true, Bool.not_eq_true'] at found
  have settled := draws_with_settled_texture (sparingProgram_probe _) steadyNeeds_probePass
    (Device.hasDepth_ofSize 64 32) avoids_bareProbe respects keeps rfl called draws
  exact ⟨q, q', f, t, t', called, draws, found.2, settled, settled.present found.1 found.2⟩

/-- An edit makes the pass read the depth. In the next frame it merges anew, and draws the merge that
reads the depth with a depth buffer that is bound to no texture. -/
theorem fog_draws_without_texture :
    let x := run (fogOps true) (start {} { host := #[], device := .ofSize 64 32 })
    ∃ q q' f t t', Calls (.seconds 1) x.pipeline x.stage (.builtin (.effects q)) f t ∧
      q.Draws f.input 1 t q' t' ∧ q'.merged.needsDepthTexture = true ∧
      ∃ u, q'.program.uniforms.get? "depthBuffer" = some u ∧
        t'.uniforms.get u = .texture none := by
  intro x
  obtain ⟨q, q', f, t, t', called, draws, found⟩ :=
    exists_draws_of_firstDraw (.seconds 1) x.pipeline x.stage
      (fun _ q' t' => q'.merged.needsDepthTexture &&
        (q'.program.uniforms.get? "depthBuffer").any fun u =>
          (t'.uniforms.get u).shaderType == "sampler2D" && (t'.uniforms.get u).asTexture.isNone)
      (by decide +kernel)
  rw [Bool.and_eq_true, Option.any_eq_true] at found
  obtain ⟨reads, u, hu, unbound⟩ := found
  rw [Bool.and_eq_true, beq_iff_eq, Option.isNone_iff_eq_none] at unbound
  have bound := UniformValue.eq_texture_of_shaderType unbound.1
  rw [unbound.2] at bound
  exact ⟨q, q', f, t, t', called, draws, reads, u, hu, bound⟩

end Rig

end ScreenEffects
