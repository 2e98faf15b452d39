import ScreenEffects.Proofs.Pass.Issued
import ScreenEffects.Proofs.Pipeline.AccountRuns

/-!
# No draw reads what it writes

In a frame the two images of the pipeline change places, and blurs and saves draw to surfaces of their
own. All of these are different surfaces, at each moment of a run, and so the texture with the image
that a draw reads is never the one of the surface that it writes.

`Pipeline.issued` lists the draws of programs in a frame: those of the passes of the library, and those
by which what lies outside of a mask is copied along.

* `FrameState.noFeedback_issued`, `Pipeline.noFeedback_issued` : a turn and a frame, with all surfaces
  being different ones.
* `Pipeline.screenDraws_after_render` : a frame records the draws that it issues, and no others.
* `Rig.no_colour_feedback` : at each moment of a run.
-/

namespace ScreenEffects

variable {H Q ω : Type} {theirs : ω → Multiset Resource}

/-! ## Single draws -/

/-- The draw has bound the image of a surface that lives, and it writes another one, or the screen. -/
structure ScreenDraw.ReadsElsewhere (d : ScreenDraw ω) : Prop where
  bound : ∀ u ∈ d.input?, d.bound.uniforms.Holds u →
    d.bound.uniforms.get u = .texture (some d.source.color)
  source : d.source.id ∈ d.stage.device.surfaces.keys ∧
    d.source.color ∈ d.stage.device.textures.keys
  target : ∀ t ∈ d.target, t.id ∈ d.stage.device.surfaces.keys
  apart : ∀ t ∈ d.target, t.id ≠ d.source.id ∧ t.color ≠ d.source.color

/-- The draws of a call that is given the image of `input` hand it on, and none reads what it
writes. -/
structure NoFeedback (input : Surface) (ds : List (ScreenDraw ω)) : Prop where
  handsOn : HandsOn input ds
  elsewhere : ∀ d ∈ ds, d.ReadsElsewhere

section Surfaces

variable {input output : Surface} {own : List Surface} {rest : Multiset Resource} {s : Stage ω}

theorem Stage.Owns.apart (owns : s.Owns theirs (resourcesOf (input :: output :: own) + rest)) :
    ((input :: output :: own).map Surface.id).Nodup ∧
      ((input :: output :: own).map Surface.color).Nodup :=
  have nodup := (Multiset.nodup_add.1 (Device.Lives.nodup owns)).1
  nodup_of_resourcesOf (Multiset.nodup_add.1 nodup).1

/-- What moves an image among surfaces that live reads elsewhere. -/
theorem ScreenDraw.Moves.readsElsewhere {d : ScreenDraw ω}
    (h : d.Moves theirs input output own s)
    (owns : s.Owns theirs (resourcesOf (input :: output :: own) + rest)) : d.ReadsElsewhere := by
  have lives : d.stage.device.Lives _ := h.steady _ owns
  have live {x : Surface} (hx : x ∈ input :: output :: own) :
      x.id ∈ d.stage.device.surfaces.keys ∧ x.color ∈ d.stage.device.textures.keys := by
    have sub : x.resources ≤ resourcesOf (input :: output :: own) + rest + theirs d.stage.host :=
      ((resources_le_resourcesOf hx).trans (Multiset.le_add_right _ _)).trans
        (Multiset.le_add_right _ _)
    exact ⟨Device.mem_surfaces.1 (lives.mem (Multiset.mem_of_le sub (by simp [Surface.resources]))),
      Device.mem_textures.1 (lives.mem (Multiset.mem_of_le sub (by simp [Surface.resources])))⟩
  have source : d.source ∈ input :: output :: own := by
    rcases List.mem_cons.1 h.source with e | own
    · exact e ▸ List.mem_cons_self
    · exact List.mem_cons_of_mem _ (List.mem_cons_of_mem _ own)
  have target {t : Surface} (ht : t ∈ d.target) : t ∈ input :: output :: own :=
    List.mem_cons_of_mem _ (h.target t ht)
  refine ⟨h.bound, live source, fun t ht => (live (target ht)).1, fun t ht => ⟨h.apart t ht, ?_⟩⟩
  intro e
  have same : t = d.source := List.inj_on_of_nodup_map owns.apart.2 (target ht) source e
  exact h.apart t ht (congrArg Surface.id same)

end Surfaces

/-- The pass is one of the library. -/
def AnyPass.isBuiltin : AnyPass H Q → Bool
  | builtin _ => true
  | own _ => false

theorem AnyPass.exists_of_isBuiltin {q : AnyPass H Q} (h : q.isBuiltin = true) :
    ∃ p, q = builtin p := by
  cases q with
  | builtin p => exact ⟨p, rfl⟩
  | own q => cases h

/-! ## A turn -/

namespace FrameState

section Draws

/-- The draw that copies along what lies outside of a mask. -/
def outsideDraws (copy : CopyPass) (f : FrameState) (toScreen : Bool) (s : Stage ω) :
    List (ScreenDraw ω) :=
  copy.shader.issued f.input f.output toScreen (s.mapDevice (·.setStencil .outsideMask))

variable [EffectHooks H ω] [Pass Q ω]

/-- The draws of a turn: those of the pass, if it is called, and then the copy, if there is one. -/
def issued (copy : CopyPass) (delta : Float32) (f : FrameState) (q : AnyPass H Q) (s : Stage ω) :
    List (List (ScreenDraw ω)) :=
  if !(Pass.flags q).enabled || (Pass.flags q).disposed then []
  else
    q.issued f.input f.output delta f.masked s ::
      match Pass.render f.input f.output delta f.masked (q, s) with
      | .error _ _ => []
      | .ok _ (q, s) =>
        if (Pass.flags q).needsSwap && f.masked then
          [f.outsideDraws copy (Pass.flags q).toScreen s]
        else []

end Draws

section Turn

variable {copy : CopyPass} {delta : Float32} {f g : FrameState} {rest : Multiset Resource}
  {s s' : Stage ω}

theorem noFeedback_outsideDraws
    (owns : s.Owns theirs (resourcesOf [f.input, f.output] + rest)) (toScreen : Bool) :
    NoFeedback f.input (f.outsideDraws copy toScreen s) := by
  have apart : f.output.id ≠ f.input.id := fun e => by simpa [e] using owns.apart.1
  have masked : s.Steady theirs (s.mapDevice (·.setStencil .outsideMask)) :=
    (stageCalls_steady s).setStencil (.refl theirs s) .outsideMask
  obtain ⟨handsOn, moves⟩ :=
    copy.shader.moves_issued toScreen masked (List.mem_singleton_self f.output) apart
  exact ⟨handsOn, fun d hd => (moves d hd).readsElsewhere owns⟩

/-- The images are the same two before and after a turn. -/
theorem images_next {P : Type} [Pass P ω] {q q' : P}
    (h : next copy delta f (q, s) = .ok g (q', s')) :
    g.input.resources + g.output.resources = f.input.resources + f.output.resources := by
  have role (f : FrameState) (r : PassRole) :
      (f.afterRole r).input = f.input ∧ (f.afterRole r).output = f.output := by
    cases r <;> exact ⟨rfl, rfl⟩
  rcases next_eq_ok h with ⟨-, rfl, -, -⟩ | ⟨-, drawn, -, -, rfl⟩
  · rfl
  · rw [(role _ _).1, (role _ _).2]
    split
    · exact add_comm _ _
    · rfl

variable [EffectHooks H ω] [Pass Q ω] {q : AnyPass H Q}

section Tidy

variable (tidy : TidyProgram theirs H Q)

include tidy

/-- In a turn no draw reads what it writes. -/
theorem noFeedback_issued
    (owns : s.Owns theirs (f.input.resources + f.output.resources + q.resources + rest)) :
    ∀ ds ∈ f.issued copy delta q s, NoFeedback f.input ds := by
  have own : s.Owns theirs (resourcesOf (f.input :: f.output :: q.owned) + rest) := by
    rw [resourcesOf_cons, resourcesOf_cons, ← add_assoc]
    exact owns
  unfold issued
  split
  · exact fun _ hds => absurd hds List.not_mem_nil
  · refine List.forall_mem_cons.2 ⟨?_, ?_⟩
    · obtain ⟨handsOn, moves⟩ := q.moves_issued tidy.hooks own.apart.1 delta f.masked
      exact ⟨handsOn, fun d hd => (moves d hd).readsElsewhere own⟩
    · have rendered := AnyPass.keeps_owned_render tidy f.input f.output delta f.masked (q, s)
        ⟨rfl, .refl theirs s⟩
      unfold Act.after at rendered
      cases hr : Pass.render f.input f.output delta f.masked (q, s) with
      | error e x => exact fun _ hds => absurd hds List.not_mem_nil
      | ok a x =>
        rw [hr] at rendered
        simp only
        split
        · have left : x.2.Owns theirs (resourcesOf [f.input, f.output] + (q.resources + rest)) := by
            simpa [add_assoc] using rendered.2 _ owns
          exact List.forall_mem_singleton.2 (noFeedback_outsideDraws left _)
        · exact fun _ hds => absurd hds List.not_mem_nil

end Tidy

omit [EffectHooks H ω] [Pass Q ω] in
/-- To copy along what lies outside of a mask is to issue one draw. -/
theorem screenDraws_after_copyOutside (copy : CopyPass) (f : FrameState) (toScreen : Bool)
    (s : Stage ω) :
    ((f.copyOutside copy toScreen).after s).device.screenDraws = s.device.screenDraws ++
      (f.outsideDraws copy toScreen s).flatMap (·.recorded) := by
  let t := s.mapDevice (·.setStencil .outsideMask)
  have masked : t.device.screenDraws = s.device.screenDraws :=
    Device.screenDraws_of_silent (c := .setStencil .outsideMask) rfl rfl
  have drawn := copy.shader.screenDraws_after_draw f.input f.output toScreen t
  have e : (f.copyOutside copy toScreen).after s = (copy.shader.draw f.input f.output toScreen >>=
      fun _ => modify (·.mapDevice (·.setStencil .insideMask)) : Act (Stage ω) PUnit).after t := rfl
  rw [e, Act.after_bind]
  unfold Act.after at drawn
  rw [masked] at drawn
  cases hd : copy.shader.draw f.input f.output toScreen t with
  | error e u =>
    rw [hd] at drawn
    exact drawn
  | ok a u =>
    rw [hd] at drawn
    exact (Device.screenDraws_of_silent (c := .setStencil .insideMask) rfl rfl).trans drawn

/-- If the call of a pass records what it issues, then so does the turn, with the copy that may follow.
-/
theorem screenDraws_after_called (copy : CopyPass) (enabled : (Pass.flags q).enabled = true)
    (alive : (Pass.flags q).disposed = false)
    (drawn : ((Pass.render f.input f.output delta f.masked).after (q, s)).2.device.screenDraws =
      s.device.screenDraws ++ (q.issued f.input f.output delta f.masked s).flatMap (·.recorded)) :
    ((next copy delta f).after (q, s)).2.device.screenDraws = s.device.screenDraws ++
      (f.issued copy delta q s).flatMap fun ds => ds.flatMap (·.recorded) := by
  unfold issued
  rw [enabled, alive]
  unfold Act.after at drawn ⊢
  rw [next_of_called enabled alive]
  cases hr : Pass.render f.input f.output delta f.masked (q, s) with
  | error e x =>
    rw [hr] at drawn
    simpa using drawn
  | ok a x =>
    obtain ⟨r, t⟩ := x
    rw [hr] at drawn
    have copied := screenDraws_after_copyOutside copy f (Pass.flags r).toScreen t
    unfold Act.after at copied
    simp only at drawn ⊢
    cases (Pass.flags r).needsSwap with
    | false => simpa using drawn
    | true =>
      cases masked : f.masked with
      | false => simpa [masked] using drawn
      | true =>
        simp only [if_true]
        cases hc : f.copyOutside copy (Pass.flags r).toScreen t <;> rw [hc] at copied <;>
          simp [copied, drawn, masked]

/-- A turn of a pass of the library records the draws that it issues, and no others. -/
theorem screenDraws_after_next (quiet : QuietHooks H) (copy : CopyPass) (delta : Float32)
    (f : FrameState) (p : BuiltinPass H) (s : Stage ω) :
    ((next copy delta f).after ((.builtin p : AnyPass H Q), s)).2.device.screenDraws =
      s.device.screenDraws ++
        (f.issued copy delta (.builtin p : AnyPass H Q) s).flatMap fun ds =>
          ds.flatMap (·.recorded) := by
  cases enabled : (Pass.flags (.builtin p : AnyPass H Q)).enabled with
  | false =>
    unfold issued
    rw [Act.after, next_of_disabled enabled, enabled]
    exact (List.append_nil _).symm
  | true =>
    cases alive : (Pass.flags (.builtin p : AnyPass H Q)).disposed with
    | true =>
      unfold issued
      rw [Act.after, next_of_disposed enabled alive, enabled, alive]
      exact (List.append_nil _).symm
    | false =>
      refine screenDraws_after_called copy enabled alive ?_
      rw [AnyPass.after_wrap rfl]
      exact p.screenDraws_after_render quiet f.input f.output delta f.masked s

end Turn

end FrameState

/-! ## A frame -/

namespace Pipeline

variable [EffectHooks H ω] [Pass Q ω]

/-- The draws of the turns of some passes, up to the first that fails, each call with what it is
handed. -/
def issuedFrom (copy : CopyPass) (delta : Float32) :
    FrameState → List (AnyPass H Q) → Stage ω → List (FrameState × List (ScreenDraw ω))
  | _, [], _ => []
  | f, q :: qs, s => (f.issued copy delta q s).map (f, ·) ++
    match FrameState.next copy delta f (q, s) with
    | .error _ _ => []
    | .ok g (_, t) => issuedFrom copy delta g qs t

/-- The draws of programs in a frame. -/
def issued (delta : FrameDelta) (p : Pipeline (AnyPass H Q)) (s : Stage ω) :
    List (FrameState × List (ScreenDraw ω)) :=
  if p.disposed then []
  else
    issuedFrom (settle delta p s).1.copy (readDelta p.timer delta).1
      { input := (settle delta p s).1.input, output := (settle delta p s).1.output }
      (framePasses delta p s) (settle delta p s).2

section Tidy

variable (tidy : TidyProgram theirs H Q)

include tidy

theorem noFeedback_issuedFrom {copy : CopyPass} {delta : Float32} {f : FrameState}
    {qs : List (AnyPass H Q)} {rest : Multiset Resource} {s : Stage ω}
    (owns : s.Owns theirs (f.input.resources + f.output.resources + passResources qs + rest)) :
    ∀ y ∈ issuedFrom copy delta f qs s, NoFeedback y.1.input y.2 := by
  induction qs generalizing f s rest with
  | nil => exact fun _ hy => absurd hy List.not_mem_nil
  | cons q qs ih =>
    rw [passResources_cons] at owns
    have own : s.Owns theirs (f.input.resources + f.output.resources + q.resources +
        (passResources qs + rest)) := by
      simpa only [add_assoc] using owns
    have now : ∀ y ∈ (f.issued copy delta q s).map (f, ·), NoFeedback y.1.input y.2 :=
      List.forall_mem_map.2 (FrameState.noFeedback_issued tidy own)
    have turned := keeps_owned_next tidy copy delta f (q, s) ⟨rfl, .refl theirs s⟩
    unfold Act.after at turned
    have later : ∀ y ∈ (match FrameState.next copy delta f (q, s) with
        | .error _ _ => []
        | .ok g (_, t) => issuedFrom copy delta g qs t), NoFeedback y.1.input y.2 := by
      cases hn : FrameState.next copy delta f (q, s) with
      | error e x => exact fun _ hy => absurd hy List.not_mem_nil
      | ok g x =>
        obtain ⟨r, t⟩ := x
        rw [hn] at turned
        have left : t.Owns theirs (g.input.resources + g.output.resources + passResources qs +
            (q.resources + rest)) := by
          have sum : g.input.resources + g.output.resources + passResources qs +
              (q.resources + rest) = f.input.resources + f.output.resources + q.resources +
                (passResources qs + rest) := by
            rw [FrameState.images_next hn]
            abel
          exact sum ▸ turned.2 _ own
        exact ih left
    exact fun y hy => (List.mem_append.1 hy).elim (now y) (later y)

/-- In a frame no draw reads what it writes. -/
theorem noFeedback_issued {m : Multiset Resource} {p : Pipeline (AnyPass H Q)} {s : Stage ω}
    (h : Tended theirs m (p, s)) (delta : FrameDelta) :
    ∀ y ∈ p.issued delta s, NoFeedback y.1.input y.2 := by
  have begun : Tended theirs m ({ p with timer := (readDelta p.timer delta).2 }, s) :=
    ⟨h.alive, h.owns⟩
  have settled : Tended theirs m (settle delta p s) := begun.updateDepthTexture tidy
  have alive : p.disposed = false := h.alive
  have passes : framePasses delta p s = (settle delta p s).1.presentLast.passes := rfl
  unfold issued
  rw [alive, if_neg Bool.false_ne_true, passes]
  obtain ⟨⟨p', t⟩, hp⟩ : ∃ x, settle delta p s = x := ⟨_, rfl⟩
  rw [hp] at settled ⊢
  have owns : t.Owns theirs (p'.presentLast.resources + passResources p'.presentLast.passes + m) :=
    settled.presentLast.owns
  have same : p'.presentLast.resources = p'.resources := by
    rw [presentLast_eq]
    rfl
  have sum : p'.presentLast.resources + passResources p'.presentLast.passes + m =
      p'.input.resources + p'.output.resources + passResources p'.presentLast.passes +
        ({.geometry p'.geometry} + depthResources p'.depthTexture + m) := by
    rw [same, resources, fixtures]
    abel
  exact noFeedback_issuedFrom tidy (sum ▸ owns)

end Tidy

/-! ## What a frame records -/

section Recorded

theorem screenDraws_detachDepth (t : Texture) (x : Surface) (d : Device) :
    (detachDepth t x d).2.screenDraws = d.screenDraws := by
  unfold detachDepth
  split
  · exact Device.screenDraws_of_silent (c := .attachDepth x.id none) rfl rfl
  · rfl

theorem screenDraws_disposeTexture (t : Texture) (d : Device) :
    (d.disposeTexture t).screenDraws = d.screenDraws := by
  unfold Device.disposeTexture
  split
  · exact Device.screenDraws_of_silent (c := .disposeTexture t) rfl rfl
  · rfl

theorem screenDraws_deleteDepthTexture {P : Type} [Pass P ω] (p : Pipeline P) (s : Stage ω) :
    (p.deleteDepthTexture s).2.device.screenDraws = s.device.screenDraws := by
  unfold deleteDepthTexture
  split
  · rfl
  · exact (screenDraws_disposeTexture _ _).trans
      ((screenDraws_detachDepth _ _ _).trans (screenDraws_detachDepth _ _ _))

/-- To settle who reads the depth, nothing is drawn. -/
theorem screenDraws_settle {P : Type} [Pass P ω] (delta : FrameDelta) (p : Pipeline P)
    (s : Stage ω) : (settle delta p s).2.device.screenDraws = s.device.screenDraws := by
  unfold settle updateDepthTexture
  split
  · exact (Device.screenDraws_of_silent (c := .attachDepth p.input.id _) rfl rfl).trans
      (Device.screenDraws_of_silent (c := .createTexture _ _ _) rfl rfl)
  · exact screenDraws_deleteDepthTexture _ s
  · rfl

/-- The turns of passes of the library record the draws that they issue, and no others. -/
theorem screenDraws_after_foldEach (quiet : QuietHooks H) {copy : CopyPass} {delta : Float32}
    {f : FrameState} {qs : List (AnyPass H Q)} (library : ∀ q ∈ qs, q.isBuiltin = true)
    (s : Stage ω) :
    ((Act.foldEach (FrameState.next copy delta) f).after (qs, s)).2.device.screenDraws =
      s.device.screenDraws ++
        (issuedFrom copy delta f qs s).flatMap fun y => y.2.flatMap (·.recorded) := by
  induction qs generalizing f s with
  | nil =>
    rw [issuedFrom, List.flatMap_nil, List.append_nil, Act.after_foldEach_nil]
  | cons q qs ih =>
    obtain ⟨first, others⟩ := List.forall_mem_cons.1 library
    obtain ⟨p, rfl⟩ := AnyPass.exists_of_isBuiltin first
    have turned := FrameState.screenDraws_after_next (Q := Q) quiet copy delta f p s
    unfold Act.after at turned
    rw [Act.snd_after_foldEach_cons, issuedFrom, List.flatMap_append, List.flatMap_map,
      ← List.append_assoc]
    cases hn : FrameState.next copy delta f ((.builtin p : AnyPass H Q), s) with
    | error e x =>
      rw [hn] at turned
      exact turned.trans (List.append_nil _).symm
    | ok g x =>
      rw [hn] at turned
      rw [← turned]
      exact ih others x.2

/-- A frame of passes of the library records the draws that it issues, and no others. -/
theorem screenDraws_after_render (quiet : QuietHooks H) {p : Pipeline (AnyPass H Q)}
    (library : ∀ q ∈ p.passes, q.isBuiltin = true) (delta : FrameDelta) (s : Stage ω) :
    ((render delta).after (p, s)).2.device.screenDraws = s.device.screenDraws ++
      (p.issued delta s).flatMap fun y => y.2.flatMap (·.recorded) := by
  unfold issued
  cases alive : p.disposed with
  | true =>
    rw [Act.after, render_of_disposed alive]
    exact (List.append_nil _).symm
  | false =>
    have passes : ∀ q ∈ framePasses delta p s, q.isBuiltin = true := by
      refine forall_mem_framePasses (fun q _ _ => ?_) (fun q _ => ?_) delta library <;>
        cases q <;> rfl
    rw [stage_after_render alive, screenDraws_after_foldEach quiet passes, screenDraws_settle]
    rfl

end Recorded

end Pipeline

/-! ## A run -/

namespace Rig

variable [EffectHooks H ω] [Pass Q ω] {x : Rig H Q ω}

/-- **No colour feedback.** A program has a pipeline on a device. Passes are made, join and leave, are
disposed of and changed; the pipeline is resized, reset and rendered, and operations may fail. At each
moment of this, and whatever is rendered next, each draw of a program that a pass of the library issues,
or that copies along what lies outside of a mask, reads the texture of a surface that lives and is not
the one it writes. The draws of a call hand the image on: the first draws what the pass is given, and
each other one what the one before it has written. Nothing else is drawn over the screen, if all passes
are of the library and no effect draws by itself. -/
theorem no_colour_feedback (tidy : TidyProgram theirs H Q) {config : PipelineConfig} {s : Stage ω}
    (bare : s.device.Lives (theirs s.host)) {es : List (Event H Q ω)}
    (honest : Honest theirs es (start config s)) (hx : follow es (start config s) = x)
    (delta : FrameDelta) :
    (∀ y ∈ x.pipeline.issued delta x.stage, NoFeedback y.1.input y.2) ∧
    (QuietHooks H → (∀ q ∈ x.pipeline.passes, q.isBuiltin = true) →
      ((Pipeline.render delta).after (x.pipeline, x.stage)).2.device.screenDraws =
        x.stage.device.screenDraws ++
          (x.pipeline.issued delta x.stage).flatMap fun y => y.2.flatMap (·.recorded)) := by
  have accounts : x.Accounts theirs := hx ▸ accounts_follow tidy (accounts_start bare config) honest
  refine ⟨?_, fun quiet library => Pipeline.screenDraws_after_render quiet library delta x.stage⟩
  rcases accounts with tended | ended
  · exact Pipeline.noFeedback_issued tidy tended delta
  · have disposed : x.pipeline.disposed = true := ended.disposed
    unfold Pipeline.issued
    rw [disposed, if_pos rfl]
    exact fun _ hy => absurd hy List.not_mem_nil

/-- A blur inside of a mask, a save and a copy, and the uniforms they were made with. -/
def maskedBlur : List ProbedPass × UniformStore :=
  let (blur, s) := BlurPass.create .small {}
  let (save, s) := SavePass.create false s
  let (copy, s) := CopyPass.create s
  ([.builtin (.mask { scene := ⟨0⟩, camera := ⟨0⟩ }), .builtin (.blur blur),
    .builtin (.clearMask {}), .builtin (.save save), .builtin (.copy copy)], s)

/-- A new device, with the uniforms of the passes. -/
def maskedBlurStage : Stage ProbeLog where
  uniforms := maskedBlur.2
  host := #[]
  device := .ofSize 64 32

/-- The passes of `maskedBlur` join, and the pipeline is reset. -/
def maskedBlurEvents : List (Event ProbeHooks ProbePass ProbeLog) :=
  maskedBlur.1.map (fun q => .op (.make q)) ++
    [.op (.add 0 none), .op (.add 0 none), .op (.add 0 none), .op (.add 0 none),
      .op (.add 0 none), .op .reset]

/-- The blur issues three draws, and a copy of what lies outside of the mask follows; the save and the
copy to the screen issue one draw each. All of them have a uniform for the image. -/
theorem no_colour_feedback_maskedBlurEvents :
    ∃ x : Rig ProbeHooks ProbePass ProbeLog,
      follow maskedBlurEvents (start {} maskedBlurStage) = x ∧
      (x.pipeline.issued (.seconds 1) x.stage).map (·.2.length) = [0, 3, 1, 0, 1, 1] ∧
      (∀ y ∈ x.pipeline.issued (.seconds 1) x.stage, ∀ d ∈ y.2,
        ∃ u ∈ d.input?, d.bound.uniforms.Holds u) ∧
      (∀ y ∈ x.pipeline.issued (.seconds 1) x.stage, NoFeedback y.1.input y.2) ∧
      ((Pipeline.render (.seconds 1)).after (x.pipeline, x.stage)).2.device.screenDraws =
        x.stage.device.screenDraws ++
          (x.pipeline.issued (.seconds 1) x.stage).flatMap fun y => y.2.flatMap (·.recorded) := by
  have honest : Honest (fun _ => 0) maskedBlurEvents (start {} maskedBlurStage) :=
    ⟨rfl, rfl, rfl, rfl, rfl, trivial, trivial, trivial, trivial, trivial, trivial, trivial⟩
  obtain ⟨elsewhere, recorded⟩ := no_colour_feedback tidyProgram_probe (Device.lives_ofSize 64 32)
    honest rfl (.seconds 1)
  exact ⟨_, rfl, by decide +kernel, by unfold UniformStore.Holds; decide +kernel, elsewhere,
    recorded quietHooks_probeHooks (by decide +kernel)⟩

end Rig

end ScreenEffects
