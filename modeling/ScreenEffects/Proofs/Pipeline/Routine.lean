import Mathlib.Algebra.GroupWithZero.Nat
import ScreenEffects.Proofs.Pipeline.Calls

/-!
# Frames of routine passes

A pass is routine if a frame leaves it as it was and takes the same number of commands each time. A
pipeline of routine passes, whose depth texture and way to the screen are settled, is itself left as it
was by a frame; what the frame takes is the sum over the passes.

* `Device.Worked n k d d'` : from `d` to `d'` the device recorded `n` commands, `k` of them draws over
  the screen. Such stretches of work are put together by `Device.Worked.trans`.
* `Pipeline.render_of_routine` : a frame of routine passes.
-/

namespace ScreenEffects

/-! ## Work of a device -/

namespace Device

/-- From `d` to `d'` the device recorded a number of commands, some of them draws over the screen. The
surfaces and geometries that live are what they were, and no failure was asked for in between. -/
structure Worked (commands draws : Nat) (d d' : Device) : Prop where
  journal : d'.journal.size = d.journal.size + commands
  screenDraws : d'.screenDraws.length = d.screenDraws.length + draws
  surfaces : d'.surfaces = d.surfaces
  geometries : d'.geometries = d.geometries
  failNext : d'.failNext = d.failNext

/-- A draw with the triangle `g` cannot fail. -/
structure Serves (g : Geometry) (d : Device) : Prop where
  lives : g ∈ d.geometries
  willing : d.failNext = none

variable {d d' d₀ d₁ d₂ : Device} {g : Geometry} {n n' k k' : Nat}

theorem Worked.refl (d : Device) : Worked 0 0 d d := ⟨rfl, rfl, rfl, rfl, rfl⟩

theorem Worked.trans (h : Worked n k d₀ d₁) (h' : Worked n' k' d₁ d₂) :
    Worked (n + n') (k + k') d₀ d₂ where
  journal := by rw [h'.journal, h.journal, Nat.add_assoc]
  screenDraws := by rw [h'.screenDraws, h.screenDraws, Nat.add_assoc]
  surfaces := h'.surfaces.trans h.surfaces
  geometries := h'.geometries.trans h.geometries
  failNext := h'.failNext.trans h.failNext

theorem Worked.cast (h : Worked n k d d') (hn : n = n') (hk : k = k') : Worked n' k' d d' :=
  hn ▸ hk ▸ h

/-- The device records one command, which draws nothing over the screen. -/
theorem worked_of_silent {c : Command} (silent : c.isScreenDraw = false)
    (journal : d'.journal = d.journal.push c) (surfaces : d'.surfaces = d.surfaces)
    (geometries : d'.geometries = d.geometries) (failNext : d'.failNext = d.failNext) :
    Worked 1 0 d d' where
  journal := by rw [journal, Array.size_push]
  screenDraws := by rw [screenDraws_of_silent silent journal, Nat.add_zero]
  surfaces := surfaces
  geometries := geometries
  failNext := failNext

theorem worked_bind (d : Device) (x : Surface) (toScreen : Bool) :
    Worked 1 0 d (d.bind x toScreen) :=
  worked_of_silent (c := .setTarget (if toScreen then none else some x.id)) rfl rfl rfl rfl rfl

theorem Serves.of_worked (h : Serves g d) (worked : Worked n k d d') : Serves g d' :=
  ⟨worked.geometries ▸ h.lives, worked.failNext.trans h.willing⟩

theorem checkDraw_of_willing (willing : d.failNext = none) : checkDraw d = .ok () d := by
  unfold checkDraw
  rw [willing]

theorem worked_drawScene (willing : d.failNext = none) (scene : Scene) (camera : Camera)
    (override : Option DepthPacking) :
    ∃ d', drawScene scene camera override d = .ok () d' ∧ Worked 1 0 d d' := by
  refine ⟨_, Act.bind_of_eq_ok (checkDraw_of_willing willing) _, ?_⟩
  exact worked_of_silent
    (c := .drawScene d.target scene camera override d.stencil d.writeMask) rfl rfl rfl rfl rfl

theorem worked_drawScreen (serves : Serves g d) (program : ShaderProgram)
    (uniforms : UniformStore) :
    ∃ d', drawScreen g program uniforms d = .ok () d' ∧ Worked 1 1 d d' := by
  let drawn := d.record (.drawScreen d.target program.label d.stencil (program.uniformBytes uniforms))
  have run : drawScreen g program uniforms d = .ok () drawn := by
    unfold drawScreen
    rw [Act.get_bind_apply, if_neg (not_not_intro serves.lives)]
    exact Act.bind_of_eq_ok (checkDraw_of_willing serves.willing) _
  refine ⟨drawn, run, ?_, ?_, rfl, rfl, rfl⟩
  · exact Array.size_push _
  · rw [screenDraws_record rfl, List.length_append]
    rfl

end Device

/-! ## Routine passes -/

variable {P ω : Type} [Pass P ω] {g : Geometry} {n k : Nat}

/-- The pass takes part in frames. Where there is no mask, a frame leaves it as it is and takes the
given numbers of commands and of draws over the screen. -/
structure Routine (g : Geometry) (commands draws : Nat) (q : P) : Prop where
  enabled : (Pass.flags q).enabled = true
  alive : (Pass.flags q).disposed = false
  role : Pass.role q = .regular
  render : ∀ (input output : Surface) (delta : Float32) (s : Stage ω), s.device.Serves g →
    ∃ t, Pass.render input output delta false (q, s) = .ok () (q, t) ∧
      s.device.Worked commands draws t.device

namespace FrameState

variable {f : FrameState} {q : P} {qs : List P} {s : Stage ω}

/-- The frame after one more pass has been rendered. -/
def passed (f : FrameState) (swaps : Bool) : FrameState :=
  let f := { f with rendered := f.rendered + 1 }
  if swaps then f.swap else f

theorem masked_passed (f : FrameState) (swaps : Bool) : (f.passed swaps).masked = f.masked := by
  cases swaps <;> rfl

theorem rendered_passed (f : FrameState) (swaps : Bool) :
    (f.passed swaps).rendered = f.rendered + 1 := by
  cases swaps <;> rfl

theorem swaps_passed (f : FrameState) (swaps : Bool) :
    (f.passed swaps).swaps = f.swaps + swaps.toNat := by
  cases swaps <;> rfl

theorem next_of_routine (routine : Routine g n k q) (unmasked : f.masked = false)
    (serves : s.device.Serves g) (copy : CopyPass) (delta : Float32) :
    ∃ t, next copy delta f (q, s) = .ok (f.passed (Pass.flags q).needsSwap) (q, t) ∧
      s.device.Worked n k t.device := by
  obtain ⟨input, output, masked, rendered, swaps⟩ := f
  obtain rfl : masked = false := unmasked
  obtain ⟨t, run, worked⟩ := routine.render input output delta s serves
  refine ⟨t, ?_, worked⟩
  rw [next_of_called routine.enabled routine.alive, run]
  simp only [routine.role, passed, afterRole]
  cases (Pass.flags q).needsSwap <;> rfl

/-- The turns of routine passes add up. -/
theorem foldEach_next_of_routine {commands draws : P → Nat}
    (routine : ∀ q ∈ qs, Routine g (commands q) (draws q) q) (unmasked : f.masked = false)
    (serves : s.device.Serves g) (copy : CopyPass) (delta : Float32) :
    ∃ f' t, Act.foldEach (next copy delta) f (qs, s) = .ok f' (qs, t) ∧
      f'.rendered = f.rendered + qs.length ∧
      f'.swaps = f.swaps + qs.countP (fun q => (Pass.flags q).needsSwap) ∧
      s.device.Worked (qs.map commands).sum (qs.map draws).sum t.device := by
  induction qs generalizing f s with
  | nil => exact ⟨f, s, by rw [Act.foldEach], rfl, rfl, .refl _⟩
  | cons q qs ih =>
    obtain ⟨first, others⟩ := List.forall_mem_cons.1 routine
    obtain ⟨t, hq, worked⟩ := next_of_routine first unmasked serves copy delta
    obtain ⟨f', t', hqs, rendered, swaps, worked'⟩ :=
      ih others ((masked_passed f (Pass.flags q).needsSwap).trans unmasked) (serves.of_worked worked)
    refine ⟨f', t', ?_, ?_, ?_, ?_⟩
    · rw [Act.foldEach, hq]
      simp only [hqs]
    · rw [rendered, rendered_passed, List.length_cons, Nat.add_assoc, Nat.add_comm 1]
    · rw [swaps, swaps_passed, List.countP_cons, Nat.add_assoc, Nat.add_comm (Bool.toNat _)]
      cases (Pass.flags q).needsSwap <;> rfl
    · rw [List.map_cons, List.map_cons, List.sum_cons, List.sum_cons]
      exact worked.trans worked'

end FrameState

/-! ## Frames -/

namespace Pipeline

/-- A frame has nothing to settle before it renders the passes, and they are routine. -/
structure InRoutine (commands draws : P → Nat) (p : Pipeline P) : Prop where
  alive : p.disposed = false
  depth : p.depthTexture.isSome = p.needsDepth
  presented : p.presentLast = p
  passes : ∀ q ∈ p.passes, Routine p.geometry (commands q) (draws q) q

variable {commands draws : P → Nat} {p : Pipeline P} {s : Stage ω}

theorem updateDepthTexture_of_isSome_eq (h : p.depthTexture.isSome = p.needsDepth) (s : Stage ω) :
    p.updateDepthTexture s = (p, s) := by
  unfold updateDepthTexture
  rw [← h]
  cases p.depthTexture <;> rfl

/-- A frame of routine passes succeeds, leaves the pipeline as it is, and takes what its passes take. -/
theorem render_of_routine (h : p.InRoutine commands draws) (serves : s.device.Serves p.geometry)
    (delta : Float32) :
    ∃ report t, render (.seconds delta) (p, s) = .ok report (p, t) ∧
      report.rendered = p.passes.length ∧
      report.swaps = p.passes.countP (fun q => (Pass.flags q).needsSwap) ∧
      s.device.Worked (p.passes.map commands).sum (p.passes.map draws).sum t.device := by
  obtain ⟨f, t, run, rendered, swaps, worked⟩ :=
    FrameState.foldEach_next_of_routine (f := { input := p.input, output := p.output }) h.passes rfl
      serves p.copy delta
  have start : frameStart (.seconds delta) p s = (p, s) := by
    have settled : settle (.seconds delta) p s = (p, s) := updateDepthTexture_of_isSome_eq h.depth s
    rw [frameStart, settled, h.presented]
  refine ⟨f.report, t, ?_, rendered.trans (Nat.zero_add _), swaps.trans (Nat.zero_add _), worked⟩
  rw [render_eq_renderPasses h.alive, start]
  change (onPasses (Act.foldEach (FrameState.next p.copy delta) _) >>= _) (p, s) = _
  exact Act.bind_of_eq_ok (Act.within_eq_ok.2 ⟨_, _, run, rfl⟩) _

end Pipeline

end ScreenEffects
