import ScreenEffects.Proofs.Pipeline.DepthRuns
import ScreenEffects.Proofs.Pipeline.Masks

/-!
# Masks that stay open

Every frame begins with its flag saying that there is no mask. The stencil state of the device is not
reset: it is what the last frame left, and a frame that opens a mask and does not come to close it,
because the list has no end of the mask or the frame fails before, leaves the mask in force.

* `FrameState.marks` : what a turn does to the mask, failed or not.
* `Pipeline.History` : frames, failed or not, and in between whatever leaves the draw state alone.
* `Pipeline.stencil_follows_marks` : the stencil test is off exactly if the last mask was closed, in
  whichever frame that was.
* `Pipeline.broken_frame_leaves_mask` : after a frame that fails within a mask the next one is confined
  to it.
-/

namespace ScreenEffects

variable {P H ω : Type}

/-! ## Turns that may fail -/

namespace FrameState

section Marks

variable [Pass P ω]

/-- What one more pass does to the mask. A pass that is not called does nothing to it; a pass that is
called does what its role says, even if it fails. To copy along what lies outside sets the mask up
again. -/
def marks (delta : Float32) (f : FrameState) (x : P × Stage ω) : List PassRole :=
  if (Pass.flags x.1).enabled && !(Pass.flags x.1).disposed then
    match Pass.render f.input f.output delta f.masked x with
    | .ok _ (q, _) =>
      if (Pass.flags q).needsSwap && f.masked then [Pass.role x.1, .mask] else [Pass.role x.1]
    | .error _ _ => [Pass.role x.1]
  else []

/-- What some passes do to the mask, one after the other, up to the first failure. -/
def marksOf (copy : CopyPass) (delta : Float32) : FrameState → List P → Stage ω → List PassRole
  | _, [], _ => []
  | f, q :: qs, s =>
    f.marks delta (q, s) ++
      match next copy delta f (q, s) with
      | .ok g (_, t) => marksOf copy delta g qs t
      | .error _ _ => []

end Marks

end FrameState

namespace Pipeline

/-! ## Marks and the device -/

/-- The stencil test of the device is off exactly if what happened to the mask leaves none, and colours
and depth are open. -/
structure Marked (marks : List PassRole) (d : Device) : Prop where
  stencil : d.stencil = .disabled ↔ leavesMask marks = false
  writeMask : d.writeMask = .all

/-- In a mask the test is on, also where only what lies outside is let through. -/
theorem Marked.of_ne {marks : List PassRole} {d : Device} (on : d.stencil ≠ .disabled)
    (writeMask : d.writeMask = .all) : Marked (marks ++ [.mask]) d := by
  refine ⟨⟨fun off => absurd off on, fun none => ?_⟩, writeMask⟩
  rw [leavesMask_append_singleton] at none
  cases none

/-- The device is as the marks say, and as the frame says if the frame is in a mask. -/
structure InMarks (marks : List PassRole) (f : FrameState) (t : Stage ω) : Prop where
  marked : Marked marks t.device
  inside : f.masked = true → t.device.stencil = .insideMask

/-- A pass that is called does to the stencil state what its role says. -/
theorem Marked.stencilAfter {marks : List PassRole} {d d' : Device} (h : Marked marks d)
    {q : BuiltinPass H} (stencil : d'.stencil = q.stencilAfter d.stencil)
    (writeMask : d'.writeMask = .all) : Marked (marks ++ [q.role]) d' := by
  cases q with
  | mask p =>
    have inside : d'.stencil = .insideMask := stencil
    exact .of_ne (inside ▸ by decide) writeMask
  | clearMask p =>
    refine ⟨?_, writeMask⟩
    rw [stencil, leavesMask_append_singleton]
    exact ⟨fun _ => rfl, fun _ => rfl⟩
  | _ =>
    refine ⟨?_, writeMask⟩
    rw [stencil, leavesMask_append_singleton]
    exact h.stencil

theorem InMarks.stencilAfter {marks : List PassRole} {f g : FrameState} {t t' : Stage ω}
    (h : InMarks marks f t) {q : BuiltinPass H}
    (stencil : t'.device.stencil = q.stencilAfter t.device.stencil)
    (writeMask : t'.device.writeMask = .all) (masked : g.masked = f.masked) :
    InMarks (marks ++ [q.role]) (g.afterRole q.role) t' := by
  refine ⟨h.marked.stencilAfter stencil writeMask, fun inMask => ?_⟩
  rw [stencil]
  cases q with
  | mask p => rfl
  | clearMask p => cases inMask
  | _ => exact h.inside (masked ▸ inMask)

/-- While what lies outside of the mask is copied along, only that is let through; if this fails, it
stays so. -/
theorem brings_copyOutside (f : FrameState) (copy : CopyPass) (toScreen : Bool) :
    Act.Brings (fun t : Stage ω => t.device.writeMask = .all)
      (fun _ t => t.device.stencil = .insideMask ∧ t.device.writeMask = .all)
      (fun t => t.device.stencil = .outsideMask ∧ t.device.writeMask = .all)
      (f.copyOutside copy toScreen) := by
  let Outside (t : Stage ω) : Prop :=
    t.device.stencil = .outsideMask ∧ t.device.writeMask = .all
  have draw : Act.Keeps Outside (copy.shader.draw f.input f.output toScreen) := by
    rintro t ⟨outside, opened⟩
    have drawn : t.Draws [if toScreen then none else some f.output.id] _ :=
      copy.shader.keeps_draw (by rw [opened]; rfl) f.input f.output toScreen List.mem_cons_self t
        (.refl _ t)
    exact ⟨drawn.device.stencil.trans outside, drawn.device.writeMask.trans opened⟩
  have confine : Act.Brings (fun t : Stage ω => t.device.writeMask = .all) (fun _ => Outside) Outside
      (modify (·.mapDevice (·.setStencil .outsideMask))) :=
    Act.brings_modify fun t opened => ⟨rfl, opened⟩
  unfold FrameState.copyOutside
  exact confine.bind fun _ => draw.brings.bind fun _ => Act.brings_modify fun t h => ⟨rfl, h.2⟩

/-- To copy along what lies outside of the mask sets the mask up, also where it fails. -/
theorem brings_marked_copyOutside (marks : List PassRole) (f : FrameState) (copy : CopyPass)
    (toScreen : Bool) :
    Act.Brings (fun t : Stage ω => t.device.writeMask = .all)
      (fun _ t => Marked (marks ++ [.mask]) t.device ∧ t.device.stencil = .insideMask)
      (fun t => Marked (marks ++ [.mask]) t.device) (f.copyOutside copy toScreen) :=
  (brings_copyOutside f copy toScreen).mono
    (fun _ _ h => ⟨.of_ne (h.1 ▸ by decide) h.2, h.1⟩) fun _ h => .of_ne (h.1 ▸ by decide) h.2

/-! ## Frames -/

section Frames

variable [EffectHooks H ω] {marks : List PassRole} {f : FrameState} {t : Stage ω}

/-- What a frame does to the mask, failed or not, up to the end of the passes `qs`. -/
def marksUpTo (delta : FrameDelta) (x : Pipeline (BuiltinPass H) × Stage ω)
    (qs : List (BuiltinPass H)) : List PassRole :=
  FrameState.marksOf (settle delta x.1 x.2).1.copy (readDelta x.1.timer delta).1
    { input := (settle delta x.1 x.2).1.input, output := (settle delta x.1 x.2).1.output } qs
    (settle delta x.1 x.2).2

/-- What a frame does to the mask, failed or not. -/
def frameMarks (delta : FrameDelta) (x : Pipeline (BuiltinPass H) × Stage ω) : List PassRole :=
  if x.1.disposed then [] else marksUpTo delta x (framePasses delta x.1 x.2)

variable {x : Pipeline (BuiltinPass H) × Stage ω}

/-- Before its first pass is rendered, a frame does nothing to the mask. -/
theorem Marked.inMarks_settle (h : Marked marks x.2.device) (delta : FrameDelta) :
    InMarks marks
      { input := (settle delta x.1 x.2).1.input, output := (settle delta x.1 x.2).1.output }
      (settle delta x.1 x.2).2 := by
  have settled := settled_settle delta x.1 x.2
  refine ⟨⟨?_, settled.undrawn.writeMask.trans h.writeMask⟩, nofun⟩
  rw [settled.undrawn.stencil]
  exact h.stencil

/-- From `x` to `y` there were frames, failed or not, that did `marks` to the mask; between two of them
anything may have happened that leaves the draw state of the device alone. -/
inductive History (x : Pipeline (BuiltinPass H) × Stage ω) :
    List PassRole → Pipeline (BuiltinPass H) × Stage ω → Prop
  | start : History x [] x
  | frame {marks : List PassRole} {y : Pipeline (BuiltinPass H) × Stage ω} (h : History x marks y)
      (delta : FrameDelta) : History x (marks ++ frameMarks delta y) ((render delta).after y)
  | change {marks : List PassRole} {y z : Pipeline (BuiltinPass H) × Stage ω}
      (h : History x marks y) (stencil : z.2.device.stencil = y.2.device.stencil)
      (writeMask : z.2.device.writeMask = y.2.device.writeMask) : History x marks z

/-- In a frame that begins with `x`, the pass `q` is called on the stage `t`, with the frame state `f`,
after the turns of the passes `pre`. -/
def CallsAfter (delta : FrameDelta) (x : Pipeline (BuiltinPass H) × Stage ω)
    (pre : List (BuiltinPass H)) (q : BuiltinPass H) (f : FrameState) (t : Stage ω) : Prop :=
  (Pass.flags q).enabled = true ∧ (Pass.flags q).disposed = false ∧
    ∃ post rs, framePasses delta x.1 x.2 = pre ++ q :: post ∧
      runTurns delta x.1 x.2 pre = .ok f (rs, t)

/-- Disabled passes do nothing to the mask. -/
theorem marksOf_of_disabled {copy : CopyPass} {delta : Float32} {qs : List (BuiltinPass H)}
    (disabled : ∀ q ∈ qs, (Pass.flags q).enabled = false) :
    FrameState.marksOf copy delta f qs t = [] := by
  induction qs with
  | nil => rfl
  | cons q qs ih =>
    obtain ⟨hq, hqs⟩ := List.forall_mem_cons.1 disabled
    unfold FrameState.marksOf
    rw [FrameState.next_of_disabled hq]
    simp only [FrameState.marks, hq, ih hqs]
    rfl

theorem exists_callsAfter_nil (delta : FrameDelta) (x : Pipeline (BuiltinPass H) × Stage ω)
    (h : (framePasses delta x.1 x.2).head?.any
      (fun q => (Pass.flags q).enabled && !(Pass.flags q).disposed) = true) :
    ∃ q, CallsAfter delta x [] q
      { input := (settle delta x.1 x.2).1.input, output := (settle delta x.1 x.2).1.output }
      (settle delta x.1 x.2).2 := by
  cases hp : framePasses delta x.1 x.2 with
  | nil =>
    rw [hp] at h
    cases h
  | cons q rest =>
    rw [hp] at h
    have called : (Pass.flags q).enabled && !(Pass.flags q).disposed := h
    rw [Bool.and_eq_true, Bool.not_eq_true'] at called
    exact ⟨q, called.1, called.2, rest, [], hp, Act.foldEach_nil_eq_ok.2 ⟨rfl, rfl, rfl⟩⟩

/-! ## Hooks that issue no commands -/

section Quiet

variable (quiet : QuietHooks H)

include quiet

/-- One more turn: failed or not, the device is as the marks say. -/
theorem InMarks.next (h : InMarks marks f t) (copy : CopyPass) (delta : Float32) (q : BuiltinPass H) :
    match FrameState.next copy delta f (q, t) with
    | .ok g x => InMarks (marks ++ f.marks delta (q, t)) g x.2
    | .error _ x => Marked (marks ++ f.marks delta (q, t)) x.2.device := by
  unfold FrameState.marks
  cases enabled : (Pass.flags q).enabled with
  | false =>
    rw [FrameState.next_of_disabled enabled]
    simpa using h
  | true =>
    cases alive : (Pass.flags q).disposed with
    | true =>
      rw [FrameState.next_of_disposed enabled alive]
      simpa using h.marked
    | false =>
      have drew := q.drew_after_render quiet f.input f.output delta f.masked h.marked.writeMask
      have stencil := drew.stencil h.inside
      have opened := drew.writeMask
      rw [FrameState.next_of_called enabled alive]
      unfold Act.after at stencil opened
      cases hr : Pass.render f.input f.output delta f.masked (q, t) with
      | error e x =>
        change BuiltinPass.render f.input f.output delta f.masked (q, t) = _ at hr
        rw [hr] at stencil opened
        exact h.marked.stencilAfter stencil opened
      | ok a x =>
        obtain ⟨r, drawn⟩ := x
        change BuiltinPass.render f.input f.output delta f.masked (q, t) = _ at hr
        rw [hr] at stencil opened
        have role : Pass.role r = q.role := BuiltinPass.role_of_render hr
        simp only [role]
        cases swap : (Pass.flags r).needsSwap with
        | false => exact h.stencilAfter stencil opened rfl
        | true =>
          cases masked : f.masked with
          | false => exact h.stencilAfter stencil opened masked.symm
          | true =>
            have copied := brings_marked_copyOutside (marks ++ [q.role]) f copy
              (Pass.flags r).toScreen drawn opened
            rw [List.append_assoc] at copied
            cases hc : f.copyOutside copy (Pass.flags r).toScreen drawn with
            | error e u =>
              rw [hc] at copied
              exact copied
            | ok b u =>
              rw [hc] at copied
              exact ⟨copied.1, fun _ => copied.2⟩

/-- Some turns: failed or not, the device is as the marks say. -/
theorem InMarks.foldEach (h : InMarks marks f t) (copy : CopyPass) (delta : Float32)
    (qs : List (BuiltinPass H)) :
    match Act.foldEach (FrameState.next copy delta) f (qs, t) with
    | .ok g x => InMarks (marks ++ FrameState.marksOf copy delta f qs t) g x.2
    | .error _ x => Marked (marks ++ FrameState.marksOf copy delta f qs t) x.2.device := by
  induction qs generalizing marks f t with
  | nil => simpa [Act.foldEach, FrameState.marksOf] using h
  | cons q qs ih =>
    have turn := h.next quiet copy delta q
    unfold FrameState.marksOf Act.foldEach
    cases hn : FrameState.next copy delta f (q, t) with
    | error e x =>
      rw [hn] at turn
      simpa using turn
    | ok g x =>
      rw [hn] at turn
      have rest := ih turn
      rw [List.append_assoc] at rest
      simp only
      cases hr : Act.foldEach (FrameState.next copy delta) g (qs, x.2) <;> rw [hr] at rest <;>
        exact rest

/-- A frame leaves the device as its marks say, failed or not. -/
theorem Marked.after_render (h : Marked marks x.2.device) (delta : FrameDelta) :
    Marked (marks ++ frameMarks delta x) ((render delta).after x).2.device := by
  unfold frameMarks
  cases disposed : x.1.disposed with
  | true =>
    unfold Act.after
    rw [render_of_disposed disposed delta]
    simpa using h
  | false =>
    have turns := (h.inMarks_settle delta).foldEach quiet (settle delta x.1 x.2).1.copy
      (readDelta x.1.timer delta).1 (framePasses delta x.1 x.2)
    rw [stage_after_render disposed]
    unfold Act.after
    cases ht : Act.foldEach _ _ _ with
    | ok g y =>
      rw [ht] at turns
      exact turns.marked
    | error e y =>
      rw [ht] at turns
      exact turns

theorem Marked.history (fresh : Marked [] x.2.device) {past : List PassRole}
    {y : Pipeline (BuiltinPass H) × Stage ω} (history : History x past y) :
    Marked past y.2.device := by
  induction history with
  | start => exact fresh
  | frame h delta ih => exact ih.after_render quiet delta
  | change h stencil writeMask ih => exact ⟨stencil ▸ ih.stencil, writeMask ▸ ih.writeMask⟩

/-- **The stencil test follows the masks of all frames.** In a pipeline of passes of the library with
hooks that issue no commands, after any frames, failed or not, the stencil test is off at a call
exactly if the last mask that was opened, in this frame or an earlier one, was closed. So it is off at
the first call of a frame, where the frame says that there is no mask, exactly if no earlier frame left
one open. -/
theorem stencil_follows_marks {y : Pipeline (BuiltinPass H) × Stage ω}
    (off : x.2.device.stencil = .disabled) (opened : x.2.device.writeMask = .all)
    {past : List PassRole} (history : History x past y) {delta : FrameDelta}
    {pre : List (BuiltinPass H)} {q : BuiltinPass H} (called : CallsAfter delta y pre q f t) :
    (t.device.stencil = .disabled ↔ leavesMask (past ++ marksUpTo delta y pre) = false) ∧
      ((∀ r ∈ pre, (Pass.flags r).enabled = false) →
        f.masked = false ∧ (t.device.stencil = .disabled ↔ leavesMask past = false)) := by
  have fresh : Marked [] x.2.device := ⟨⟨fun _ => rfl, fun _ => off⟩, opened⟩
  have turns := ((fresh.history quiet history).inMarks_settle delta).foldEach quiet
    (settle delta y.1 y.2).1.copy (readDelta y.1.timer delta).1 pre
  obtain ⟨-, -, post, rs, -, ht⟩ := called
  unfold runTurns at ht
  rw [ht] at turns
  refine ⟨turns.marked.stencil, fun disabled => ⟨?_, ?_⟩⟩
  · exact Act.of_foldEach_eq_ok (J := fun f (_ : Stage ω) => f.masked = false)
      (fun r hr f s g r' s' masked hn => by
        rw [FrameState.next_of_disabled (disabled r hr)] at hn
        cases hn
        exact masked) ht rfl
  · have same : past ++ marksUpTo delta y pre = past := by
      unfold marksUpTo
      rw [marksOf_of_disabled disabled, List.append_nil]
    exact same ▸ turns.marked.stencil

end Quiet

end Frames

/-- A scene, then a mask, an effect in the mask, and the end of the mask. The effect may be broken by
an edit, so that frames fail within the mask. -/
def greyInMask (broken : Bool) : Pipeline (BuiltinPass ProbeHooks) × Stage ProbeLog :=
  let (p, s) := create {} { host := #[], device := .ofSize 64 32 }
  let grey : Hosted ProbeHooks :=
    { effect := Effect.ofEntry "grey" "mainImage" ⟨.normal, ⟨0⟩⟩ .none }
  match EffectPass.create none [grey] {} s.uniforms with
  | .error _ => (p, s)
  | .ok (q, uniforms) =>
    let q := if broken then q.editEffect 0 (Hosted.Edit.setFragment "").apply else q
    addAll [.scene { scene := ⟨1⟩, camera := ⟨1⟩ }, .mask { scene := ⟨2⟩, camera := ⟨1⟩ },
      .effects q, .clearMask {}] (p, { s with uniforms })

/-- After a frame that closes its mask the next one begins without stencil test. -/
theorem stencil_follows_marks_greyInMask :
    let y := (render (.seconds 1)).after (greyInMask false)
    ∃ past q f t, History (greyInMask false) past y ∧
      past = [.regular, .mask, .regular, .mask, .clearMask] ∧ CallsAfter (.seconds 1) y [] q f t ∧
      f.masked = false ∧ t.device.stencil = .disabled := by
  intro y
  have history : History (greyInMask false) (frameMarks (.seconds 1) (greyInMask false)) y :=
    .frame .start (.seconds 1)
  obtain ⟨q, called⟩ := exists_callsAfter_nil (.seconds 1) y (by decide +kernel)
  have off : (greyInMask false).2.device.stencil = .disabled := by decide +kernel
  have opened : (greyInMask false).2.device.writeMask = .all := by decide +kernel
  have marks : frameMarks (.seconds 1) (greyInMask false) =
      [.regular, .mask, .regular, .mask, .clearMask] := by
    decide +kernel
  have closed : leavesMask (frameMarks (.seconds 1) (greyInMask false)) = false := by
    rw [marks]
    decide
  obtain ⟨unmasked, iff⟩ := (stencil_follows_marks quietHooks_probeHooks off opened history called).2
    fun _ h => absurd h List.not_mem_nil
  exact ⟨_, q, _, _, history, marks, called, unmasked, iff.2 closed⟩

/-- The first frame fails at the broken effect, within the mask. In the second one the scene is called
with the frame saying that there is no mask, and is drawn only where the mask of the first was. -/
theorem broken_frame_leaves_mask :
    let y := (render (.seconds 1)).after (greyInMask true)
    (render (.seconds 1) : Act _ FrameReport).fails (greyInMask true) = true ∧
      ∃ past q f t, History (greyInMask true) past y ∧ CallsAfter (.seconds 1) y [] q f t ∧
        f.masked = false ∧ t.device.stencil = .insideMask := by
  intro y
  have failed : (render (.seconds 1) : Act _ FrameReport).fails (greyInMask true) = true := by
    decide +kernel
  have history : History (greyInMask true) (frameMarks (.seconds 1) (greyInMask true)) y :=
    .frame .start (.seconds 1)
  have inside : (settle (.seconds 1) y.1 y.2).2.device.stencil = .insideMask := by decide +kernel
  obtain ⟨q, called⟩ := exists_callsAfter_nil (.seconds 1) y (by decide +kernel)
  exact ⟨failed, _, q, _, _, history, called, rfl, inside⟩

end Pipeline

end ScreenEffects
