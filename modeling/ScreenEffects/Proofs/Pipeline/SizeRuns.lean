import ScreenEffects.Proofs.Pipeline.AccountRuns
import ScreenEffects.Proofs.Pipeline.Sizes

/-!
# Sizes in a run

At each moment of a run the images of a pipeline and its shared depth texture are as large as the screen,
and the surfaces of the passes in its list fit: however often passes join and leave, and whatever was
resized or reset while they were away.

* `Rig.Fair` : the resolution of a pass is not changed once the pass is made, and nobody but the pipeline
  resizes the screen.
* `Rig.scaled_event`, `Rig.scaled_follow` : what one event keeps, and what a run keeps.
* `Rig.sizes_follow` : the sizes at each moment of a run, and what a new size does then.
-/

namespace ScreenEffects

variable {H Q ω : Type} {theirs : ω → Multiset Resource} {m : Multiset Resource}

namespace Rig

open Pipeline

variable {x : Rig H Q ω}

section Events

variable [EffectHooks H ω] [Pass Q ω]

/-- A pass that is made is a fresh one of the library, with a resolution that can be made; nobody changes
its resolution then, reaches for its surfaces, or takes back that it is disposed of. The rest of the
program resizes neither the screen nor what is not its own, and the pipeline does not come to its end. -/
def Event.Fair (theirs : ω → Multiset Resource) (x : Rig H Q ω) : Event H Q ω → Prop
  | .op (.make q) => q.owned = [] ∧ q.Sound
  | .op (.setFlags place flags) => ∀ q, x.at? place = some q → (Pass.flags q).disposed = true →
    flags.disposed = true
  | .op (.elsewhere s) => x.stage.KeepsSizes theirs s
  | .op .dispose => False
  | .adjust _ f => ∀ q, (f q).owned = q.owned ∧ (f q).sizing? = q.sizing? ∧ (q.Sound → (f q).Sound)
  | _ => True

/-- Each event of a run is fair. -/
def Fair (theirs : ω → Multiset Resource) : List (Event H Q ω) → Rig H Q ω → Prop
  | [], _ => True
  | e :: es, x => e.Fair theirs x ∧ Fair theirs es (e.perform x)

theorem Event.Fair.honest {e : Event H Q ω} (h : e.Fair theirs x) : e.Honest theirs x := by
  cases e with
  | op operation =>
    cases operation with
    | make q => exact h.1
    | elsewhere s => exact h.steady
    | _ => trivial
  | disposePass place => trivial
  | adjust place f => exact fun q => (h q).1

end Events

/-- The accounts of the pipeline are in order, everything has its size, and all passes are sound. -/
structure Scaled (theirs : ω → Multiset Resource) (x : Rig H Q ω) : Prop where
  scaled : Pipeline.Scaled theirs (passResources x.loose) (x.pipeline, x.stage)
  sound : x.Each AnyPass.Sound

variable [EffectHooks H ω] [Pass Q ω]

/-- A fair event leaves all passes sound. -/
theorem sound_event (h : x.Each AnyPass.Sound) {e : Event H Q ω} (fair : e.Fair theirs x) :
    (e.perform x).Each AnyPass.Sound := by
  cases e with
  | op operation =>
    refine each_perform AnyPass.lasting_sound h ?_
    cases operation with
    | makeEffects camera effects config => exact fun p uniforms _ => nofun
    | make q => exact fair.2
    | setFlags place flags => exact fun q _ sound => sound.withFlags flags
    | edit place op => exact fun q _ sound => sound.edit op x.stage
    | _ => trivial
  | disposePass place =>
    change (x.disposePass place).Each AnyPass.Sound
    cases hq : x.at? place with
    | none =>
      unfold disposePass
      rw [hq]
      exact h
    | some q =>
      rw [disposePass_eq hq]
      have changed : (x.change (fun _ => (Pass.dispose q x.stage).1) place).Each AnyPass.Sound :=
        h.change fun q' hq' sound => by
          obtain rfl := Option.some.inj (hq.symm.trans hq')
          exact sound.dispose x.stage
      exact ⟨changed.passes, changed.loose⟩
  | adjust place f => exact h.change fun q _ => (fair q).2.2

/-! ## What an event leaves of sizes -/

section Alive

variable (tidy : TidyProgram theirs H Q) (sized : SizedHooks theirs H)
  (h : Pipeline.Scaled theirs (passResources x.loose) (x.pipeline, x.stage))

include h

omit [EffectHooks H ω] [Pass Q ω] in
/-- A change after which the pass at its place still fits leaves all in step. -/
theorem sized_change {f : AnyPass H Q → AnyPass H Q} {place : Place}
    (keeps : ∀ q, x.at? place = some q → q.InStep x.stage.device → (f q).InStep x.stage.device) :
    (x.change f place).pipeline.disposed = false ∧
      (x.change f place).pipeline.Sized (x.change f place).stage.device := by
  cases place with
  | listed i =>
    exact ⟨h.tended.alive,
      { h.sized with passes := forall_mem_modify_of_getElem? h.sized.passes keeps }⟩
  | loose i => exact ⟨h.tended.alive, h.sized⟩

omit [EffectHooks H ω] [Pass Q ω] in
theorem sized_adjust {f : AnyPass H Q → AnyPass H Q} (same : ∀ q, (f q).sizing? = q.sizing?)
    (place : Place) :
    (x.change f place).pipeline.disposed = false ∧
      (x.change f place).pipeline.Sized (x.change f place).stage.device :=
  sized_change h fun q _ fits => (AnyPass.inStep_congr (same q) _).mpr fits

theorem sized_setFlags {place : Place} {flags : PassFlags}
    (fair : (Event.op (.setFlags place flags) : Event H Q ω).Fair theirs x) :
    (x.change (Pass.withFlags · flags) place).pipeline.disposed = false ∧
      (x.change (Pass.withFlags · flags) place).pipeline.Sized
        (x.change (Pass.withFlags · flags) place).stage.device := by
  refine sized_change h fun q hq fits z hz alive => ?_
  rw [AnyPass.sizing?_withFlags] at hz
  obtain ⟨y, hy, rfl⟩ := Option.mem_map.1 hz
  have before : y.disposed = false := by
    rw [← AnyPass.disposed_flags hy, Bool.eq_false_iff]
    exact fun gone => Bool.false_ne_true (alive.symm.trans (fair q hq gone))
  exact { fits y hy before with }

include tidy

theorem scaled_remove (index : Nat) :
    ∃ m, Pipeline.Scaled theirs m ((x.remove index).pipeline, (x.remove index).stage) := by
  unfold Rig.remove Pipeline.remove
  cases hq : x.pipeline.passes[index]? with
  | none =>
    simp only [hq]
    exact ⟨_, h⟩
  | some q =>
    simp only [hq]
    exact ⟨_, h.release tidy (perm_cons_eraseIdx hq)⟩

include sized

theorem scaled_add (sound : x.Each AnyPass.Sound) (i : Nat) (index : Option Nat) :
    ∃ m, Pipeline.Scaled theirs m ((x.add i index).pipeline, (x.add i index).stage) := by
  unfold Rig.add
  cases hq : x.loose[i]? with
  | none => exact ⟨_, h⟩
  | some q =>
    rw [passResources_eraseIdx hq] at h
    exact ⟨_, h.add tidy sized (sound.loose q (List.mem_of_getElem? hq)) index⟩

omit tidy in
/-- A pass that is disposed of where it is leaves the others in step. -/
theorem sized_disposePass (sound : x.Each AnyPass.Sound) (place : Place) :
    (x.disposePass place).pipeline.disposed = false ∧
      (x.disposePass place).pipeline.Sized (x.disposePass place).stage.device := by
  cases hq : x.at? place with
  | none =>
    unfold disposePass
    rw [hq]
    exact ⟨h.tended.alive, h.sized⟩
  | some q =>
    rw [disposePass_eq hq]
    cases place with
    | listed i =>
      have left := (h.leave (perm_cons_eraseIdx hq)).disposeOther sized
        (sound.passes q (List.mem_of_getElem? hq))
      refine ⟨h.tended.alive, { left with passes := fun r hr => ?_ }⟩
      rcases List.mem_cons.1 ((modify_perm_cons_eraseIdx hq _).mem_iff.1 hr) with rfl | hr
      · exact AnyPass.inStep_dispose q x.stage _
      · exact left.passes r hr
    | loose i =>
      rw [passResources_eraseIdx hq] at h
      exact ⟨h.tended.alive, h.disposeOther sized (sound.loose q (List.mem_of_getElem? hq))⟩

/-- A fair event ends nothing and leaves all in step. -/
theorem sized_event (sound : x.Each AnyPass.Sound) {e : Event H Q ω} (fair : e.Fair theirs x) :
    (e.perform x).pipeline.disposed = false ∧
      (e.perform x).pipeline.Sized (e.perform x).stage.device := by
  have of_scaled {y : Pipeline (AnyPass H Q) × Stage ω}
      (hy : ∃ m, Pipeline.Scaled theirs m y) : y.1.disposed = false ∧ y.1.Sized y.2.device :=
    hy.elim fun _ hy => ⟨hy.tended.alive, hy.sized⟩
  cases e with
  | op operation =>
    cases operation with
    | makeEffects camera effects config =>
      simp only [Event.perform, Op.perform]
      split <;> exact of_scaled ⟨_, h⟩
    | make q => exact of_scaled ⟨_, h⟩
    | add i index => exact of_scaled (scaled_add tidy sized h sound i index)
    | remove index => exact of_scaled (scaled_remove tidy h index)
    | removeAll => exact of_scaled ⟨_, h.removeFirst tidy x.pipeline.passes.length⟩
    | setFlags place flags => exact sized_setFlags h fair
    | edit place op => exact sized_adjust h (fun q => q.sizing?_edit op x.stage) place
    | setSize width height =>
      obtain ⟨y, t, done, scaled, -⟩ := h.exists_setSize tidy sound.passes width height
      have after : (Pipeline.setSize width height).after (x.pipeline, x.stage) = y := by
        rw [Act.after, done]
      rw [← after] at scaled
      exact of_scaled ⟨_, scaled⟩
    | reset => exact of_scaled ⟨_, keeps_scaled_reset tidy _ h⟩
    | render delta => exact of_scaled ⟨_, (keeps_scaled_render tidy sized delta _ ⟨h, sound.passes⟩).1⟩
    | dispose => exact fair.elim
    | elsewhere s => exact of_scaled ⟨_, h.onStage fair⟩
  | disposePass place => exact sized_disposePass sized h sound place
  | adjust place f => exact sized_adjust h (fun q => (fair q).2.1) place

end Alive

/-! ## Runs -/

section Runs

variable (tidy : TidyProgram theirs H Q) (sized : SizedHooks theirs H)

include tidy sized

/-- What one event keeps. -/
theorem scaled_event (h : x.Scaled theirs) {e : Event H Q ω} (fair : e.Fair theirs x) :
    (e.perform x).Scaled theirs := by
  obtain ⟨alive, all⟩ := sized_event tidy sized h.scaled h.sound fair
  rcases accounts_event tidy (.inl h.scaled.tended) fair.honest with tended | ended
  · exact ⟨⟨tended, all⟩, sound_event h.sound fair⟩
  · exact absurd (alive.symm.trans ended.disposed) Bool.false_ne_true

/-- What a run keeps. -/
theorem scaled_follow {es : List (Event H Q ω)} (h : x.Scaled theirs) (fair : Fair theirs es x) :
    (follow es x).Scaled theirs := by
  induction es generalizing x with
  | nil => exact h
  | cons e es ih => exact ih (scaled_event tidy sized h fair.1) fair.2

end Runs

omit [EffectHooks H ω] [Pass Q ω] in
/-- At first there are the images. -/
theorem scaled_start {s : Stage ω} (h : s.device.Lives (theirs s.host)) (config : PipelineConfig) :
    (start config s : Rig H Q ω).Scaled theirs := by
  have bare : s.Owns theirs 0 := by rwa [Stage.Owns, zero_add]
  exact ⟨scaled_create bare config, each_start config s⟩

/-- **Sizes are in step at each moment of a run.** A program has a pipeline on a device of which it resizes
nothing by itself. Passes of the library are made, each with a resolution that it keeps; they join and
leave, are disposed of and join again; the pipeline is resized, reset and rendered, and operations may
fail. At each moment the images, their textures and the shared depth texture are as large as the screen,
and the surfaces of the passes in the list fit, in their descriptions and on record.

A new size then reaches everything: it does not fail, each pass of the list is given the size of the
screen once, one after the other, and all is in step again. What is done with the passes is this and
nothing else: whatever other passes there were in the list, they would be given that size in turn. -/
theorem sizes_follow (sized : SizedHooks theirs H) (passes : TidyPasses theirs Q)
    {config : PipelineConfig} {s : Stage ω} (bare : s.device.Lives (theirs s.host))
    {es : List (Event H Q ω)} (fair : Fair theirs es (start config s))
    (hx : follow es (start config s) = x) :
    x.pipeline.disposed = false ∧ x.pipeline.Sized x.stage.device ∧
      (∀ q ∈ x.pipeline.passes, ∃ b, q = .builtin b) ∧
      ∀ width height, ∃ p u t,
        Pipeline.setSize width height (x.pipeline, x.stage) = .ok () (p, u) ∧
          p.Sized u.device ∧
          u.device.drawingSize = (x.stage.device.setSize width height).drawingSize ∧
          t.toShared = x.stage.toShared ∧
          EachResized u.device.drawingSize x.pipeline.passes t p.passes u ∧
          ∀ (P : Type) [Pass P ω] (qs : List P),
            Pipeline.setSize width height ({ x.pipeline with passes := qs }, x.stage) =
              onPasses (Act.forEach (Pass.setSize u.device.drawingSize.1 u.device.drawingSize.2))
                ({ p with passes := qs }, t) := by
  have tidy : TidyProgram theirs H Q := ⟨sized.toTidyHooks, passes⟩
  have now : x.Scaled theirs := hx ▸ scaled_follow tidy sized (scaled_start bare config) fair
  refine ⟨now.scaled.tended.alive, now.scaled.sized,
    fun q hq => (now.sound.passes q hq).exists_builtin, fun width height => ?_⟩
  obtain ⟨y, t, done, scaled, screen, shared, chain, turn⟩ :=
    now.scaled.exists_setSize tidy now.sound.passes width height
  exact ⟨y.1, y.2, t, done, scaled.sized, screen, shared, chain, turn⟩

/-- A pass that draws the depth at half the size, one that saves the image and needs the depth, and a blur
join. The pipeline is resized; the blur leaves and misses a new size, joins again, and is there for a
reset and a frame. -/
def sizeEvents : List (Event ProbeHooks ProbePass ProbeLog) :=
  [.op (.make (.builtin (.depth (.create ⟨0⟩ ⟨0⟩ (some 0.5))))),
    .op (.make (.builtin (.save { copy := (CopyPass.create {}).1.withFlags { needsDepth := true } }))),
    .op (.make (.builtin (.blur (BlurPass.create .small {}).1))),
    .op (.add 0 none), .op (.add 0 none), .op (.add 0 none), .op (.setSize 100 50), .op (.remove 2),
    .op (.setSize 37 21), .op (.add 0 (some 1)), .op .reset, .op (.render (.seconds 1))]

theorem fair_sizeEvents : Fair (fun _ => 0) sizeEvents
    (start {} { host := #[], device := .ofSize 64 32 }) := by
  have whole : ({} : Resolution).Sound := ⟨nofun, nofun⟩
  refine ⟨⟨rfl, ?_⟩, ⟨rfl, ?_⟩, ⟨rfl, ?_⟩, trivial, trivial, trivial, trivial, trivial, trivial, trivial,
    trivial, trivial, trivial⟩ <;> refine AnyPass.sound_of_fresh rfl ?_ <;> rintro _ ⟨⟩
  · rintro _ ⟨⟩
    exact whole.setScale 0.5
  · nofun
  · rintro _ ⟨⟩
    exact Resolution.sound_ofScale 0.5

/-- In the end three passes are in the list, and there is a depth texture. All of them have their sizes,
and they have them again when the screen gets another one. -/
theorem sizes_follow_sizeEvents :
    ∃ x : Rig ProbeHooks ProbePass ProbeLog,
      follow sizeEvents (start {} { host := #[], device := .ofSize 64 32 }) = x ∧
        x.pipeline.passes.length = 3 ∧ x.pipeline.depthTexture.isSome = true ∧
        x.pipeline.Sized x.stage.device ∧
        ∃ p u, Pipeline.setSize 80 60 (x.pipeline, x.stage) = .ok () (p, u) ∧ p.Sized u.device := by
  obtain ⟨-, now, -, resized⟩ := sizes_follow sizedHooks_probeHooks tidyPasses_probePass
    (Device.lives_ofSize 64 32) fair_sizeEvents rfl
  obtain ⟨p, u, t, done, then_, -⟩ := resized 80 60
  exact ⟨_, rfl, by decide +kernel, by decide +kernel, now, p, u, done, then_⟩

end Rig

end ScreenEffects
