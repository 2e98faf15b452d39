import ScreenEffects.Proofs.Pipeline.DepthDraws

/-!
# Draws that read the depth of their target

The two surfaces of a pipeline exchange their roles from pass to pass, and the shared depth texture
stays attached to the one that holds the image when a frame begins. A pass of effects draws into the
other surface of the moment. So after an even number of swaps its target has no depth texture, and
after an odd number it has the very texture that the program may read.

* `Pipeline.surfaces_of_calls` : which surface is which when a pass is called.
* `Rig.reads_target_iff_odd_swaps` : when a draw finds the depth texture of its target.
* `Rig.haze_reads_target` : one pass that moves the image before a pass that reads the depth is enough.
-/

namespace ScreenEffects

variable {H Q ω : Type} {R : Uniform → Prop}

theorem UniformValue.eq_texture_of_asTexture {v : UniformValue} {t : Texture}
    (h : v.asTexture = some t) : v = .texture (some t) := by
  cases v with
  | texture t' => exact congrArg texture h
  | _ => cases h

namespace EffectPass

/-- The program of the pass has, as its depth buffer, the depth texture that is attached to
`target`. -/
def ReadsTarget (p : EffectPass H) (target : Surface) (s : Stage ω) : Prop :=
  ∃ u t, p.program.uniforms.get? "depthBuffer" = some u ∧ s.uniforms.get u = .texture (some t) ∧
    target.depthTexture = some t

/-- A pass that comes to drawing, and not to the screen, ends on a draw into its output. -/
theorem endsOn_of_draws [EffectHooks H ω] {p p' r : EffectPass H} {input output : Surface}
    {delta : Float32} {s s' t : Stage ω} (draws : p.Draws input delta s p' s')
    (inside : p'.flags.toScreen = false) {a : Unit}
    (h : render input output delta (p, s) = .ok a (r, t)) :
    s'.device.EndsOn (some output.id) t.device := by
  obtain ⟨ready, busy⟩ := draws
  rw [inside, Bool.not_false, Bool.and_true] at busy
  rw [render_eq_beforeDraw] at h
  obtain ⟨_, _, first, h⟩ := Act.bind_eq_ok.1 h
  obtain ⟨-, rfl⟩ := EStateM.Result.ok.inj (first.symm.trans ready)
  rw [Act.get_bind_apply] at h
  obtain ⟨_, hu, hx⟩ := Act.onSecond_eq_ok.1 h
  obtain ⟨-, rfl⟩ := Prod.mk.inj hx
  have drawn := endsOn_of_drawProgram busy hu
  rwa [inside, if_neg Bool.false_ne_true] at drawn

end EffectPass

namespace Pipeline

variable {P : Type} [Pass P ω] {delta : FrameDelta} {p : Pipeline P} {s t : Stage ω} {q : P}
  {f : FrameState}

/-- When a pass is called, the surfaces have exchanged their roles once for each swap. -/
theorem surfaces_of_calls (h : Calls delta p s q f t) :
    (f.input, f.output) = if f.swaps % 2 = 0 then
      ((settle delta p s).1.input, (settle delta p s).1.output) else
      ((settle delta p s).1.output, (settle delta p s).1.input) := by
  obtain ⟨-, -, pre, post, rs, -, ran⟩ := h
  obtain ⟨turns, -, -, -, -, rfl⟩ := Turn.turns_of_foldEach Turn.allFollow_nil rfl ran
  rfl

end Pipeline

namespace Rig

open Pipeline

variable {x : Rig H Q ω} [EffectHooks H ω] [Pass Q ω]

section Draw

variable (sparing : SparingProgram R H Q) (shares : x.Shares R) {delta : FrameDelta}
  {q q' : EffectPass H} {f : FrameState} {t t' : Stage ω}
  (called : Calls delta x.pipeline x.stage (.builtin (.effects q)) f t)

include sparing shares called

/-- The depth buffer of a program that is drawn is the texture that was settled at the start of the
frame. -/
theorem bound_of_draws (draws : q.Draws f.input (readDelta x.pipeline.timer delta).1 t q' t') :
    ∃ u, q'.program.uniforms.get? "depthBuffer" = some u ∧
      t'.uniforms.get u = .texture (frameStart delta x.pipeline x.stage).1.depthTexture := by
  obtain ⟨⟨⟨u, hu, guards⟩, bound⟩, -⟩ := carries_of_calls sparing shares called
  obtain ⟨drawn, spares⟩ := (EffectPass.keeps_guards_beforeDraw sparing.hooks f.input _).of_eq_ok
    draws.1 ⟨guards, .refl R t⟩
  obtain ⟨held, value⟩ := bound u hu
  have reserved : R u := drawn.buffer ▸ drawn.runtime.depthBuffer
  exact ⟨u, drawn.bound, (spares.uniforms.kept u reserved held).trans value⟩

/-- The target of a call has the shared depth texture after an odd number of swaps, and none after an
even number. -/
theorem depthTexture_output_of_calls : f.output.depthTexture =
    if f.swaps % 2 = 0 then none else (frameStart delta x.pipeline x.stage).1.depthTexture := by
  have timed : SharesSince R x.pipeline x.stage
      ({ x.pipeline with timer := (readDelta x.pipeline.timer delta).2 }, x.stage) :=
    { shares.pipeline.since with shares := { shares.pipeline with } }
  have settled : SharesSince R x.pipeline x.stage (settle delta x.pipeline x.stage) :=
    timed.updateDepthTexture sparing
  have same : (frameStart delta x.pipeline x.stage).1.depthTexture =
      (settle delta x.pipeline x.stage).1.depthTexture := by
    unfold frameStart presentLast
    split <;> rfl
  have output := congrArg Prod.snd (surfaces_of_calls called)
  rw [same]
  split_ifs at output ⊢ with even
  · exact (congrArg Surface.depthTexture output).trans settled.shares.output
  · exact (congrArg Surface.depthTexture output).trans settled.shares.input

end Draw

/-- **A draw finds the depth texture of its target exactly after an odd number of swaps.** In every
frame of every run, a pass of effects that comes to drawing has the shared depth texture as its depth
buffer, if there is one. The surface it draws into has no depth texture if the passes before it have
moved the image an even number of times, and this very texture if they have moved it an odd number of
times. -/
theorem reads_target_iff_odd_swaps (sparing : SparingProgram R H Q) {config : PipelineConfig}
    {s : Stage ω} (device : s.device.HasDepth [])
    (copy : (start config s : Rig H Q ω).pipeline.copy.shader.Avoids R) {ops : List (Op H Q ω)}
    (respects : Respects R ops (start config s)) (hx : run ops (start config s) = x)
    {delta : FrameDelta} {q q' : EffectPass H} {f : FrameState} {t t' : Stage ω}
    (called : Calls delta x.pipeline x.stage (.builtin (.effects q)) f t)
    (draws : q.Draws f.input (readDelta x.pipeline.timer delta).1 t q' t') :
    (∀ a r s', EffectPass.render f.input f.output (readDelta x.pipeline.timer delta).1 (q, t) =
        .ok a (r, s') → q'.flags.toScreen = false →
        t'.device.EndsOn (some f.output.id) s'.device) ∧
      (q'.ReadsTarget f.output t' ↔ f.swaps % 2 = 1 ∧
        (frameStart delta x.pipeline x.stage).1.depthTexture.isSome = true) := by
  refine ⟨fun a r s' h inside => EffectPass.endsOn_of_draws draws inside h, ?_⟩
  have shares : x.Shares R := hx ▸ shares_run sparing (shares_start device copy) respects
  obtain ⟨u, bound, value⟩ := bound_of_draws sparing shares called draws
  have target := depthTexture_output_of_calls sparing shares called
  constructor
  · rintro ⟨_, a, -, -, attached⟩
    rw [target] at attached
    split_ifs at attached with even
    exact ⟨by omega, by rw [attached]; rfl⟩
  · rintro ⟨odd, present⟩
    obtain ⟨a, ha⟩ := Option.isSome_iff_exists.1 present
    rw [if_neg (by omega), ha] at target
    exact ⟨u, a, bound, ha ▸ value, target⟩

/-- The pass at a place of a frame, if it is one of effects that is called and comes to drawing: as it
is called, as it draws, what is handed on to it, and the stages of the call and of the draw. -/
def drawAt (i : Nat) (delta : FrameDelta) (p : Pipeline (AnyPass H Q)) (s : Stage ω) :
    Option (EffectPass H × EffectPass H × FrameState × Stage ω × Stage ω) :=
  match (framePasses delta p s)[i]?, runTurns delta p s ((framePasses delta p s).take i) with
  | some (.builtin (.effects q)), .ok f (_, t) =>
    match EffectPass.beforeDraw f.input (readDelta p.timer delta).1 (q, t) with
    | .ok _ (q', t') =>
      if q.flags.enabled && !q.flags.disposed && !(q'.merged.isIdle && !q'.flags.toScreen) then
        some (q, q', f, t, t')
      else none
    | .error _ _ => none
  | _, _ => none

theorem exists_draws_of_drawAt (i : Nat) (delta : FrameDelta) (p : Pipeline (AnyPass H Q))
    (s : Stage ω) (found : EffectPass H → FrameState → Stage ω → Bool)
    (h : (drawAt i delta p s).any (fun d => found d.2.1 d.2.2.1 d.2.2.2.2) = true) :
    ∃ q q' f t t', Calls delta p s (.builtin (.effects q)) f t ∧
      q.Draws f.input (readDelta p.timer delta).1 t q' t' ∧ found q' f t' = true := by
  unfold drawAt at h
  split at h
  · rename_i q f rs t hq ran
    split at h
    · rename_i q' t' ready
      split at h
      · rename_i drawing
        simp only [Bool.and_eq_true, Bool.not_eq_true'] at drawing
        obtain ⟨⟨enabled, alive⟩, drawing⟩ := drawing
        obtain ⟨inside, hq⟩ := List.getElem?_eq_some_iff.1 hq
        have split : framePasses delta p s =
            (framePasses delta p s).take i ++ .builtin (.effects q) ::
              (framePasses delta p s).drop (i + 1) := by
          rw [← hq, ← List.drop_eq_getElem_cons inside, List.take_append_drop]
        exact ⟨q, q', f, t, t', ⟨enabled, alive, _, _, rs, split, ran⟩, ⟨ready, drawing⟩, h⟩
      · exact absurd h Bool.false_ne_true
    · exact absurd h Bool.false_ne_true
  · exact absurd h Bool.false_ne_true

/-- An effect that is given the depth. -/
def haze : Hosted ProbeHooks :=
  { effect := { Effect.ofEntry "haze" "mainImage" ⟨.normal, ⟨0⟩⟩ .ofDepth with
      fragment := "void mainImage(float depth) \x7b\x7d" } }

/-- A pass that reads the depth, and one after it that clears the screen. Before them there may be a
pass of effects that does not read the depth. -/
def hazeOps (after : Bool) : List (Op ProbeHooks ProbePass ProbeLog) :=
  (if after then [.makeEffects none [fog false] {}, .add 0 none] else []) ++
    [.makeEffects none [haze] {}, .add 0 none, .make (.builtin (.clear {})), .add 0 none]

/-- As the first pass, it draws into a surface that has no depth texture. -/
theorem haze_spares_target :
    let x := run (hazeOps false) (start {} { host := #[], device := .ofSize 64 32 })
    ∃ q q' f t t', Calls (.seconds 1) x.pipeline x.stage (.builtin (.effects q)) f t ∧
      q.Draws f.input 1 t q' t' ∧ q'.merged.readsDepth = true ∧ q'.flags.toScreen = false ∧
      (frameStart (.seconds 1) x.pipeline x.stage).1.depthTexture.isSome = true ∧
      ¬ q'.ReadsTarget f.output t' := by
  intro x
  have bare : ∀ h ∈ [haze], UniformMap.Avoids (· = ⟨3⟩) h.effect.uniforms := by
    intro h hh
    obtain rfl := List.mem_singleton.1 hh
    exact fun u hu => absurd hu List.not_mem_nil
  have respects : Respects (· = ⟨3⟩) (hazeOps false) bareProbe :=
    ⟨⟨reserves_bareProbe, bare⟩, trivial, rfl, trivial, trivial⟩
  obtain ⟨q, q', f, t, t', called, draws, found⟩ :=
    exists_draws_of_drawAt 0 (.seconds 1) x.pipeline x.stage
      (fun q' f _ => q'.merged.readsDepth && !q'.flags.toScreen && f.swaps == 0)
      (by decide +kernel)
  simp only [Bool.and_eq_true, Bool.not_eq_true', beq_iff_eq] at found
  obtain ⟨⟨reads, inside⟩, first⟩ := found
  have settled := reads_target_iff_odd_swaps (sparingProgram_probe _) (Device.hasDepth_ofSize 64 32)
    avoids_bareProbe respects rfl called draws
  have even : ¬ f.swaps % 2 = 1 := by rw [first]; decide
  exact ⟨q, q', f, t, t', called, draws, reads, inside, by decide +kernel,
    fun h => even (settled.2.1 h).1⟩

/-- After one pass that moves the image, it draws into the surface whose depth texture it reads. -/
theorem haze_reads_target :
    let x := run (hazeOps true) (start {} { host := #[], device := .ofSize 64 32 })
    ∃ q q' f t t', Calls (.seconds 1) x.pipeline x.stage (.builtin (.effects q)) f t ∧
      q.Draws f.input 1 t q' t' ∧ q'.merged.readsDepth = true ∧ q'.flags.toScreen = false ∧
      q'.ReadsTarget f.output t' := by
  intro x
  obtain ⟨q, q', f, t, t', called, draws, found⟩ :=
    exists_draws_of_drawAt 1 (.seconds 1) x.pipeline x.stage
      (fun q' f t' => q'.merged.readsDepth && !q'.flags.toScreen &&
        (q'.program.uniforms.get? "depthBuffer").any fun u =>
          (t'.uniforms.get u).asTexture.isSome &&
            (t'.uniforms.get u).asTexture == f.output.depthTexture)
      (by decide +kernel)
  simp only [Bool.and_eq_true, Bool.not_eq_true', Option.any_eq_true, beq_iff_eq] at found
  obtain ⟨⟨reads, inside⟩, u, hu, present, same⟩ := found
  obtain ⟨a, ha⟩ := Option.isSome_iff_exists.1 present
  exact ⟨q, q', f, t, t', called, draws, reads, inside, u, a, hu,
    UniformValue.eq_texture_of_asTexture ha, same ▸ ha⟩

end Rig

end ScreenEffects
