import ScreenEffects.Probe.Pass
import ScreenEffects.Proofs.Pipeline.Turns

/-!
# Whole frames

A frame first settles who reads the depth and which pass draws to the screen, and then gives every
pass its turn. `IsFrame` says what a frame is: the passes at its start, the turns they have, what they
are left as, and what is reported of them.

* `isFrame_of_render` : a frame that ends well is one.
-/

namespace ScreenEffects

variable {P ω : Type} [Pass P ω]

/-- Flags that are written to a pass can be read off it. -/
def KeepsFlags (P : Type) {ω : Type} [Pass P ω] : Prop :=
  ∀ (q : P) (flags : PassFlags), Pass.flags (Pass.withFlags q flags) = flags

theorem keepsFlags_builtinPass {H ω : Type} [EffectHooks H ω] : KeepsFlags (BuiltinPass H) := by
  intro q flags
  cases q <;> rfl

theorem keepsFlags_anyPass {H Q ω : Type} [EffectHooks H ω] [Pass Q ω] (own : KeepsFlags Q) :
    KeepsFlags (AnyPass H Q) := by
  intro q flags
  cases q with
  | builtin q => exact keepsFlags_builtinPass q flags
  | own q => exact own q flags

theorem keepsFlags_probedPass : KeepsFlags ProbedPass := keepsFlags_anyPass fun _ _ => rfl

namespace Pipeline

/-! ## The pass for the screen -/

/-- The pass `q` is enabled and none of those after it is. -/
def IsLastEnabled (q : P) (rest : List P) : Prop :=
  (Pass.flags q).enabled = true ∧ ∀ r ∈ rest, (Pass.flags r).enabled = false

instance (q : P) (rest : List P) : Decidable (IsLastEnabled q rest) :=
  inferInstanceAs (Decidable (_ ∧ ∀ r ∈ rest, (Pass.flags r).enabled = false))

theorem sendLastToScreen_cons (q : P) (qs : List P) :
    sendLastToScreen (q :: qs) =
      sendToScreen q (decide (IsLastEnabled q qs)) :: sendLastToScreen qs := by
  have hb : ((Pass.flags q).enabled && !qs.any fun r => (Pass.flags r).enabled) =
      decide (IsLastEnabled q qs) := by
    rw [Bool.eq_iff_iff, decide_eq_true_iff]
    simp [IsLastEnabled]
  rw [sendLastToScreen, hb]

theorem sendLastToScreen_append_cons (pre : List P) (q : P) (post : List P) :
    ∃ pre', pre'.length = pre.length ∧ sendLastToScreen (pre ++ q :: post) =
      pre' ++ sendToScreen q (decide (IsLastEnabled q post)) :: sendLastToScreen post := by
  induction pre with
  | nil => exact ⟨[], rfl, sendLastToScreen_cons q post⟩
  | cons r pre ih =>
    obtain ⟨pre', hl, he⟩ := ih
    refine ⟨sendToScreen r (decide (IsLastEnabled r (pre ++ q :: post))) :: pre', ?_, ?_⟩
    · rw [List.length_cons, List.length_cons, hl]
    · rw [List.cons_append, sendLastToScreen_cons, he, List.cons_append]

theorem getElem?_sendLastToScreen (pre : List P) (q : P) (post : List P) :
    (sendLastToScreen (pre ++ q :: post))[pre.length]? =
      some (sendToScreen q (decide (IsLastEnabled q post))) := by
  obtain ⟨pre', hl, he⟩ := sendLastToScreen_append_cons pre q post
  rw [he, ← hl, List.getElem?_append_right (Nat.le_refl _), Nat.sub_self]
  rfl

theorem length_sendLastToScreen (qs : List P) : (sendLastToScreen qs).length = qs.length := by
  induction qs with
  | nil => rfl
  | cons q qs ih => rw [sendLastToScreen_cons, List.length_cons, List.length_cons, ih]

theorem enabled_sendToScreen (hk : KeepsFlags P) (q : P) (b : Bool) :
    (Pass.flags (sendToScreen q b)).enabled = (Pass.flags q).enabled := by
  unfold sendToScreen
  rw [hk]

theorem map_enabled_sendLastToScreen (hk : KeepsFlags P) (qs : List P) :
    (sendLastToScreen qs).map (fun q => (Pass.flags q).enabled) =
      qs.map fun q => (Pass.flags q).enabled := by
  induction qs with
  | nil => rfl
  | cons q qs ih =>
    rw [sendLastToScreen_cons, List.map_cons, List.map_cons, ih, enabled_sendToScreen hk]

theorem countP_sendLastToScreen (hk : KeepsFlags P) (qs : List P) :
    (sendLastToScreen qs).countP (fun q => (Pass.flags q).enabled) =
      qs.countP fun q => (Pass.flags q).enabled := by
  have e : ∀ rs : List P, rs.countP (fun q => (Pass.flags q).enabled) =
      (rs.map fun q => (Pass.flags q).enabled).countP id := fun rs => by
    rw [List.countP_map]
    rfl
  rw [e, e qs, map_enabled_sendLastToScreen hk]

theorem isLastEnabled_sendToScreen (hk : KeepsFlags P) (q : P) (b : Bool) (qs : List P) :
    IsLastEnabled (sendToScreen q b) (sendLastToScreen qs) ↔ IsLastEnabled q qs := by
  have e : ∀ (r : P) (rs : List P), IsLastEnabled r rs ↔
      (Pass.flags r).enabled = true ∧ ∀ c ∈ rs.map (fun r => (Pass.flags r).enabled), c = false :=
    fun r rs => by
      rw [List.forall_mem_map]
      rfl
  rw [e, e q, enabled_sendToScreen hk, map_enabled_sendLastToScreen hk]

theorem toScreen_sendLastToScreen (hk : KeepsFlags P) {qs pre post : List P} {q : P}
    (h : sendLastToScreen qs = pre ++ q :: post) :
    (Pass.flags q).toScreen = decide (IsLastEnabled q post) := by
  induction qs generalizing pre with
  | nil => simp [sendLastToScreen] at h
  | cons r qs ih =>
    rw [sendLastToScreen_cons] at h
    cases pre with
    | nil =>
      obtain ⟨rfl, rfl⟩ := List.cons.inj h
      simp only [isLastEnabled_sendToScreen hk]
      unfold sendToScreen
      rw [hk]
    | cons r' pre => exact ih (List.cons.inj h).2

/-! ## Frames -/

/-- The seconds of a frame, and the clock after they are taken. -/
def readDelta (timer : FrameTimer) : FrameDelta → Float32 × FrameTimer
  | .seconds delta => (delta, timer)
  | .clock now => timer.tick now

open Turn

/-- A frame of `delta` seconds that begins with the pipeline `p` on the stage `s`, the depth texture
being settled, has the given turns, reports `report`, and ends with `p'` on `s'`. -/
structure IsFrame (p : Pipeline P) (s : Stage ω) (delta : Float32) (turns : List (Turn P ω))
    (report : FrameReport) (p' : Pipeline P) (s' : Stage ω) : Prop where
  /-- Every pass of the list has its turn, as it is. -/
  kept : p.config.autoToScreen = false → turns.map (·.before) = p.passes
  /-- Every pass of the list has its turn, the last enabled one being sent to the screen and all
  others kept from it. -/
  sent : p.config.autoToScreen = true → turns.length = p.passes.length ∧
    ∀ pre q post, p.passes = pre ++ q :: post →
      (turns.map (·.before))[pre.length]? = some (sendToScreen q (decide (IsLastEnabled q post)))
  /-- Flags that are written being read, this is what the flags say. -/
  flags : KeepsFlags P → p.config.autoToScreen = true →
    ∀ pre q post, turns.map (·.before) = pre ++ q :: post →
      (Pass.flags q).toScreen = decide (IsLastEnabled q post)
  follow : AllFollow p.copy delta p.input p.output s turns
  passes : p'.passes = turns.map (·.after)
  stage : s' = stageAfter s turns
  rendered : report.rendered = (turns.map (·.before)).countP fun q => (Pass.flags q).enabled
  enabled : KeepsFlags P → report.rendered = p.passes.countP fun q => (Pass.flags q).enabled
  swaps : report.swaps = Turn.swaps turns
  final : report.final = if Turn.swaps turns % 2 = 0 then p.input.id else p.output.id
  input : p'.input = p.input
  output : p'.output = p.output

/-- The pipeline and the stage of a frame once the clock is read and the depth texture settled. -/
def settle (delta : FrameDelta) (p : Pipeline P) (s : Stage ω) : Pipeline P × Stage ω :=
  { p with timer := (readDelta p.timer delta).2 }.updateDepthTexture s

omit [Pass P ω] in
theorem takeDelta_eq_ok {delta : FrameDelta} {p : Pipeline P} {s : Stage ω} {d : Float32}
    {x : Pipeline P × Stage ω} (h : takeDelta delta (p, s) = .ok d x) :
    d = (readDelta p.timer delta).1 ∧ x = ({ p with timer := (readDelta p.timer delta).2 }, s) := by
  cases delta <;> cases h <;> exact ⟨rfl, rfl⟩

omit [Pass P ω] in
theorem checkAlive_of_disposed {x : Pipeline P × Stage ω} (h : x.1.disposed = true) :
    checkAlive x = .error (.disposed "EffectComposer") x := by
  unfold checkAlive
  rw [Act.get_bind_apply, h]
  rfl

omit [Pass P ω] in
theorem checkAlive_eq_ok {x y : Pipeline P × Stage ω} {a : Unit} (h : checkAlive x = .ok a y) :
    y = x := by
  unfold checkAlive at h
  rw [Act.get_bind_apply] at h
  cases hd : x.1.disposed with
  | false =>
    simp only [hd, Bool.false_eq_true, if_false, Act.pure_eq_ok] at h
    exact h.2
  | true =>
    simp only [hd, if_true] at h
    exact absurd h Act.throw_ne_ok

theorem presentLast_eq (p : Pipeline P) :
    p.presentLast = { p with passes := p.presentLast.passes } := by
  unfold presentLast
  split <;> rfl

theorem isFrame_of_foldEach {p : Pipeline P} {s s' : Stage ω} {delta : Float32} {f : FrameState}
    {qs : List P}
    (h : Act.foldEach (FrameState.next p.copy delta) { input := p.input, output := p.output }
      (p.presentLast.passes, s) = .ok f (qs, s')) :
    ∃ turns, IsFrame p s delta turns f.report { p with passes := qs } s' := by
  obtain ⟨turns, hb, rfl, ha, rfl, rfl⟩ := turns_of_foldEach allFollow_nil rfl h
  have hp : p.presentLast.passes =
      if p.config.autoToScreen then sendLastToScreen p.passes else p.passes := by
    unfold presentLast
    split <;> rfl
  have hr : turns.countP isRendered =
      (turns.map (·.before)).countP fun q => (Pass.flags q).enabled := by
    rw [List.countP_map]
    rfl
  refine ⟨turns, ?_, ?_, ?_, ha, rfl, rfl, hr, ?_, rfl, ?_, rfl, rfl⟩
  · intro hauto
    rw [hb, hp, hauto]
    rfl
  · intro hauto
    rw [hauto, if_pos rfl] at hp
    refine ⟨?_, fun pre q post hq => ?_⟩
    · rw [← length_sendLastToScreen p.passes, ← hp, ← hb, List.length_map]
    · rw [hb, hp, hq]
      exact getElem?_sendLastToScreen pre q post
  · intro hk hauto pre q post hq
    rw [hauto, if_pos rfl] at hp
    rw [hb, hp] at hq
    exact toScreen_sendLastToScreen hk hq
  · intro hk
    show turns.countP isRendered = _
    rw [hr, hb, hp]
    split
    · exact countP_sendLastToScreen hk p.passes
    · rfl
  · show (surfaces p.input p.output turns).1.id = _
    unfold surfaces
    split <;> rfl

/-- A frame that ends well settles what it needs and gives each pass its turn. -/
theorem render_eq_ok {delta : FrameDelta} {p p' : Pipeline P} {s s' : Stage ω}
    {report : FrameReport} (h : render delta (p, s) = .ok report (p', s')) :
    ∃ f qs, report = f.report ∧ p' = { (settle delta p s).1 with passes := qs } ∧
      Act.foldEach (FrameState.next (settle delta p s).1.copy (readDelta p.timer delta).1)
        { input := (settle delta p s).1.input, output := (settle delta p s).1.output }
        ((settle delta p s).1.presentLast.passes, (settle delta p s).2) = .ok f (qs, s') := by
  unfold render at h
  simp only [Act.bind_eq_ok, Act.modify_eq_ok, Act.get_eq_ok] at h
  obtain ⟨_, x, ha, seconds, y, hd, _, z, hz, _, w, hw, _, _, ⟨rfl, rfl⟩, f, v, ht, hf⟩ := h
  obtain rfl := checkAlive_eq_ok ha
  obtain ⟨rfl, rfl⟩ := takeDelta_eq_ok hd
  obtain ⟨rfl, rfl⟩ := Act.pure_eq_ok.1 hf
  have hs : z = settle delta p s := hz
  subst hs hw
  obtain ⟨qs, t, hl, hx⟩ := Act.within_eq_ok.1 ht
  obtain ⟨rfl, rfl⟩ := Prod.mk.inj hx
  rw [presentLast_eq] at hl ⊢
  exact ⟨f, qs, rfl, rfl, hl⟩

/-- **A frame renders the enabled passes in order**, each with the surfaces and the mask that the
passes before it leave behind. -/
theorem isFrame_of_render {delta : FrameDelta} {p p' : Pipeline P} {s s' : Stage ω}
    {report : FrameReport} (h : render delta (p, s) = .ok report (p', s')) :
    ∃ turns, IsFrame (settle delta p s).1 (settle delta p s).2 (readDelta p.timer delta).1 turns
      report p' s' := by
  obtain ⟨f, qs, rfl, rfl, hl⟩ := render_eq_ok h
  exact isFrame_of_foldEach hl

/-- A pipeline with one pass inside a mask, one that is out of use, and one behind the mask. -/
def outlined : Pipeline ProbedPass × Stage ProbeLog :=
  let start : Pipeline ProbedPass × Stage ProbeLog :=
    create {} { host := #[], device := .ofSize 64 32 }
  let probe (name : String) (flags : PassFlags) (role : PassRole) : ProbedPass :=
    .probe { name, flags, role }
  ({ start.1 with
      passes := [probe "mask" .withoutSwap .mask, probe "outline" {} .regular,
        probe "off" { enabled := false } .clearMask, probe "end" .withoutSwap .clearMask,
        probe "grade" {} .regular] }, start.2)

/-- Four passes are rendered and two of them move the image, so that it ends where it began. -/
theorem isFrame_outlined :
    let report : FrameReport := ⟨4, 2, outlined.1.input.id⟩
    ∃ p' s', render (.seconds 1) outlined = .ok report (p', s') ∧ KeepsFlags ProbedPass ∧
      ∃ turns, IsFrame (settle (.seconds 1) outlined.1 outlined.2).1
        (settle (.seconds 1) outlined.1 outlined.2).2 1 turns report p' s' := by
  intro report
  have hr : (match render (.seconds 1) outlined with
      | .ok r _ => some r
      | .error _ _ => none) = some report := by
    decide +kernel
  cases h : render (.seconds 1) outlined with
  | error e x =>
    rw [h] at hr
    cases hr
  | ok r x =>
    rw [h] at hr
    obtain rfl := Option.some.inj hr
    exact ⟨x.1, x.2, rfl, keepsFlags_probedPass, isFrame_of_render h⟩

end Pipeline

end ScreenEffects
