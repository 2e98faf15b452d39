import Mathlib.Data.List.InsertIdx
import ScreenEffects.CommandLine.Basic
import ScreenEffects.CommandLine.Simulation
import ScreenEffects.Proofs.Merge.Skipped
import ScreenEffects.Proofs.OrderedMap
import ScreenEffects.Proofs.Pass.Hookless

/-!
# What a simulation reports

A simulation draws a scene and lays effects over it. Once both passes have joined, the pipeline is in
its routine (`Simulation.Installed`): each frame leaves it as it is and takes the same commands. So the
summary can be told from the settings and the descriptions alone, without a frame being rendered.

* `Simulation.exists_installed_of_addPasses` : how both passes join.
* `Simulation.renderFrames_of_installed` : what any number of frames takes.
* `Simulation.size_surfaces_dispose` : no surface outlives the pipeline.
* `simulate_foretold` : what a simulation reports, and the command that tells it.
-/

namespace ScreenEffects

/-! ## Merges -/

/-- The merge moves the image if some effect is active. -/
theorem needsSwap_of_merge {effects : List Effect} {m : Merged} (h : merge effects = .ok m) :
    m.needsSwap = effects.any (·.isActive) := by
  obtain ⟨-, rfl⟩ := merge_eq_ok_iff.1 h
  have busy := Draft.ofEffects_eq_any (fun d => !d.active.isEmpty) (fun _ => true) rfl
    (fun d index e => by simp [Draft.add]) (fun _ _ => rfl) effects
  simp only [Bool.and_true] at busy
  exact busy

/-- The merge reads the depth if some effect does, a skipped one included. -/
theorem needsDepthTexture_of_merge {effects : List Effect} {m : Merged}
    (h : merge effects = .ok m) : m.needsDepthTexture = effects.any (·.attributes.depth) := by
  obtain ⟨-, rfl⟩ := merge_eq_ok_iff.1 h
  exact Draft.depth_ofEffects effects

namespace Simulation

/-- What an effect needs is what its description says. -/
theorem map_createEffects (descriptors : List EffectDescriptor) (s : UniformStore) :
    ((createEffects descriptors s).1.map (·.effect)).map (fun e => (e.isActive, e.attributes)) =
      descriptors.map fun d => (d.blend != .skip, d.attributes) := by
  induction descriptors generalizing s with
  | nil => rfl
  | cons d ds ih =>
    rw [createEffects]
    simp only [List.map_cons, ih]
    rfl

/-! ## Passes -/

/-- The pass that draws the scene. -/
def scenePass (toScreen : Bool) : ScenePass where
  scene := ⟨1⟩
  camera := ⟨1⟩
  flags := { PassFlags.withoutSwap with toScreen }

/-- The commands of a frame that are due to a pass, and the draws over the screen among them. -/
def frameLoad : SimulatedPass → Nat × Nat
  | .effects q => q.frameLoad
  | _ => (3, 0)

/-- The target is chosen, it is cleared, and the scene is drawn. -/
theorem worked_renderInto (toScreen : Bool) (target : Option SurfaceId) {d : Device}
    (willing : d.failNext = none) :
    ∃ d', (scenePass toScreen).renderInto target d = .ok () d' ∧ d.Worked 3 0 d' := by
  let aimed := d.setTarget target
  let cleared := aimed.clear { color := true, depth := true } {}
  have first : d.Worked 1 0 aimed :=
    Device.worked_of_silent (c := .setTarget target) rfl rfl rfl rfl rfl
  have second : aimed.Worked 1 0 cleared :=
    Device.worked_of_silent (c := .clear target { color := true, depth := true }) rfl rfl rfl rfl rfl
  obtain ⟨d', drawn, third⟩ := Device.worked_drawScene (d := cleared) willing ⟨1⟩ ⟨1⟩ none
  exact ⟨d', drawn, (first.trans second).trans third⟩

theorem routine_scenePass (g : Geometry) (toScreen : Bool) :
    Routine g 3 0 (.scene (scenePass toScreen) : SimulatedPass) where
  enabled := rfl
  alive := rfl
  role := rfl
  render input output delta s serves := by
    obtain ⟨d, drawn, worked⟩ := worked_renderInto toScreen
      (if toScreen then none else some input.id) serves.willing
    refine ⟨{ s with device := d }, ?_, worked⟩
    exact Act.onSecond_eq_ok.2 ⟨_, Stage.onDevice_eq_ok.2 ⟨d, drawn, rfl⟩, rfl⟩

/-! ## Installed passes -/

/-- Both passes have joined, and the frames to come find nothing to settle. -/
structure Installed (m : Merged) (x : SimulatedState) : Prop where
  alive : x.1.disposed = false
  depth : x.1.depthTexture.isSome = m.needsDepthTexture
  passes : ∃ q : EffectPass Empty, x.1.passes = [.scene (scenePass false), .effects q] ∧
    q.Waiting m x.1.config.autoToScreen ∧ q.geometry = some x.1.geometry
  serves : x.2.device.Serves x.1.geometry
  surfaces : x.2.device.surfaces.keys = [x.1.input.id, x.1.output.id]

variable {m : Merged} {p : Pipeline SimulatedPass} {s t : Stage Unit}

theorem Installed.of_worked (h : Installed m (p, s)) {n k : Nat}
    (worked : s.device.Worked n k t.device) : Installed m (p, t) where
  alive := h.alive
  depth := h.depth
  passes := h.passes
  serves := h.serves.of_worked worked
  surfaces := (congrArg OrderedMap.keys worked.surfaces).trans h.surfaces

theorem needsDepth_of_waiting {q : EffectPass Empty} {before toScreen : Bool}
    (waiting : q.Waiting m toScreen)
    (passes : p.passes = [.scene (scenePass before), .effects q]) :
    p.needsDepth = m.needsDepthTexture := by
  have needs : q.flags.needsDepth = m.needsDepthTexture :=
    congrArg PassFlags.needsDepth waiting.flags
  rw [Pipeline.needsDepth, passes, ← needs]
  exact Bool.or_false _

/-- The effects are sent to the screen, and the scene is kept from it. -/
theorem sendLastToScreen_pair {q : EffectPass Empty} {toScreen : Bool} (h : q.Waiting m toScreen)
    (before : Bool) :
    Pipeline.sendLastToScreen [.scene (scenePass before), .effects q] =
      ([.scene (scenePass false), .effects { q with flags := { q.flags with toScreen := true } }] :
        List SimulatedPass) := by
  have enabled : q.flags.enabled = true := congrArg PassFlags.enabled h.flags
  simp [Pipeline.sendLastToScreen, Pipeline.sendToScreen, Pass.flags, Pass.withFlags,
    BuiltinPass.flags, BuiltinPass.withFlags, scenePass, enabled]

theorem Installed.inRoutine (h : Installed m (p, s)) :
    p.InRoutine (fun q => (frameLoad q).1) fun q => (frameLoad q).2 := by
  obtain ⟨q, passes, waiting, geometry⟩ := h.passes
  change p.passes = _ at passes
  refine ⟨h.alive, h.depth.trans (needsDepth_of_waiting waiting passes).symm, ?_, ?_⟩
  · unfold Pipeline.presentLast
    split
    · rename_i auto
      have sent : { q.flags with toScreen := true } = q.flags := by
        rw [waiting.flags]
        exact congrArg (EffectPass.flagsOf m) auto.symm
      have presented : Pipeline.sendLastToScreen p.passes = p.passes := by
        rw [passes, sendLastToScreen_pair waiting, sent]
      rw [presented]
    · rfl
  · rw [passes]
    refine List.forall_mem_cons.2 ⟨routine_scenePass p.geometry false, ?_⟩
    exact List.forall_mem_singleton.2 (waiting.routine geometry)

/-! ## How the passes join -/

/-- A pass that can be made ready joins at the end of the list. -/
theorem join_of_ready {q q' : SimulatedPass} {qs : List SimulatedPass}
    {p' : Pipeline SimulatedPass} {t' : Stage Unit} (alive : p.disposed = false)
    (ready : p.ready (q, s) = .ok () (q', t)) (listed : p.passes ++ [q'] = qs)
    (settled : { p with passes := qs }.updateDepthTexture t = (p', t')) :
    join q (p, s) = .ok () (p'.presentLast, t') := by
  unfold join Pipeline.add
  simp only [alive] at settled
  simp only [Option.getD_none, alive, Bool.false_eq_true, if_false, gt_iff_lt, Nat.lt_irrefl, ready,
    List.insertIdx_length_self, listed, settled]

/-- The pipeline with the scene as its only pass. -/
def withScene (p : Pipeline SimulatedPass) (toScreen : Bool) : Pipeline SimulatedPass :=
  { p with passes := [.scene (scenePass toScreen)] }

/-- The pipeline with the scene and effects over it. -/
def withBoth (p : Pipeline SimulatedPass) (toScreen : Bool) (q : EffectPass Empty) :
    Pipeline SimulatedPass :=
  { p with passes := [.scene (scenePass toScreen), .effects q] }

/-- The scene joins as the only pass, and is sent to the screen for the time being. -/
theorem join_scene (alive : p.disposed = false) (absent : p.depthTexture = none)
    (empty : p.passes = []) (s : Stage Unit) :
    join (.scene (scenePass false)) (p, s) = .ok () (withScene p p.config.autoToScreen, s) := by
  have ready : p.ready (.scene (scenePass false), s) = .ok () (.scene (scenePass false), s) := by
    unfold Pipeline.ready
    rw [absent]
    rfl
  have settled : (withScene p false).updateDepthTexture s = (withScene p false, s) :=
    Pipeline.updateDepthTexture_of_isSome_eq (p := withScene p false)
      ((congrArg Option.isSome absent).trans rfl) s
  have presented : (withScene p false).presentLast = withScene p p.config.autoToScreen := by
    cases auto : p.config.autoToScreen
    · exact if_neg (auto ▸ Bool.false_ne_true)
    · exact if_pos auto
  rw [join_of_ready alive ready (congrArg (· ++ [.scene (scenePass false)]) empty) settled, presented]

/-- The effects are made ready before they join. -/
theorem exists_ready_of_waiting {q : EffectPass Empty} {toScreen : Bool}
    (waiting : q.Waiting m toScreen) (absent : p.depthTexture = none) (s : Stage Unit) :
    ∃ (q' : EffectPass Empty) (u : Shared Unit),
      p.ready (.effects q, s) = .ok () (.effects q', s.withShared u) ∧
      q'.Waiting m toScreen ∧ q'.geometry = some p.geometry := by
  obtain ⟨q₁, isSetUp, waiting₁, geometry₁⟩ := waiting.setUp p.setup s
  obtain ⟨q₂, u, sized, waiting₂, geometry₂⟩ :=
    waiting₁.setSize p.setup.width p.setup.height s.toShared
  refine ⟨q₂, u, ?_, waiting₂, geometry₂.trans geometry₁⟩
  have first : Pass.setUp p.setup ((.effects q : SimulatedPass), s) = .ok () (.effects q₁, s) := by
    change EStateM.Result.ok () (match q.setUp p.setup s with
      | (q, s) => (BuiltinPass.effects q, s)) = _
    rw [isSetUp]
  have second : Pass.setSize p.setup.width p.setup.height ((.effects q₁ : SimulatedPass), s) =
      .ok () (.effects q₂, s.withShared u) := by
    change (match q₁.setSize p.setup.width p.setup.height s.toShared with
      | (q, t) => EStateM.Result.ok () (BuiltinPass.effects q, s.withShared t)) = _
    rw [sized]
  unfold Pipeline.ready
  rw [absent, Act.bind_of_eq_ok first, Act.bind_of_eq_ok second]
  rfl

/-- The depth texture is made if the effects need it. -/
theorem updateDepthTexture_of_waiting {q : EffectPass Empty} {toScreen : Bool}
    (waiting : q.Waiting m toScreen) (absent : p.depthTexture = none) (before : Bool)
    (s : Stage Unit) :
    ∃ input depthTexture q' t, (withBoth p before q).updateDepthTexture s =
        (withBoth { p with input, depthTexture } before q', t) ∧
      input.id = p.input.id ∧ depthTexture.isSome = m.needsDepthTexture ∧
      q'.Waiting m toScreen ∧ q'.geometry = q.geometry ∧
      s.device.Worked (if m.needsDepthTexture then 2 else 0) 0 t.device := by
  have needs : (withBoth p before q).needsDepth = m.needsDepthTexture :=
    needsDepth_of_waiting waiting rfl
  have bare : (withBoth p before q).depthTexture = none := absent
  cases hm : m.needsDepthTexture with
  | false =>
    refine ⟨p.input, none, q, s, ?_, rfl, rfl, waiting, rfl, .refl _⟩
    rw [Pipeline.updateDepthTexture_of_isSome_eq (by rw [bare, needs, hm]; rfl), ← absent]
  | true =>
    let made := s.device.createDepthTexture p.input.width p.input.height
    let attached := made.2.attachDepth p.input (some made.1)
    obtain ⟨q', u, told, waiting', geometry⟩ :=
      waiting.setDepthTexture (some made.1) .basic s.toShared
    have shared : threadList (fun q s => Pass.setDepthTexture q (some made.1) .basic s)
        (withBoth p before q).passes s.toShared =
          ([.scene (scenePass before), .effects q'], u) := by
      change (match (match q.setDepthTexture (some made.1) .basic s.toShared with
          | (q, s) => (BuiltinPass.effects q, s)) with
        | (r, s) => ([BuiltinPass.scene (scenePass before), r], s)) = _
      rw [told]
    have worked : s.device.Worked 1 0 made.2 :=
      Device.worked_of_silent (c := .createTexture made.1 (max 1 p.input.width) (max 1 p.input.height))
        rfl rfl rfl rfl rfl
    have worked' : made.2.Worked 1 0 attached.2 :=
      Device.worked_of_silent (c := .attachDepth p.input.id (some made.1)) rfl rfl rfl rfl rfl
    let final : Stage Unit := { u with device := attached.2 }
    refine ⟨attached.1, some made.1, q', final, ?_, rfl, rfl, waiting', geometry,
      worked.trans worked'⟩
    unfold Pipeline.updateDepthTexture
    rw [needs, hm, bare]
    exact congrArg (fun x : List SimulatedPass × Shared Unit =>
      ({ p with input := attached.1, depthTexture := some made.1, passes := x.1 },
        { s with device := attached.2 }.withShared x.2)) shared

/-- The effects are sent to the screen if that is the affair of the pipeline. -/
theorem presentLast_of_waiting {q : EffectPass Empty} (waiting : q.Waiting m false) :
    ∃ q' : EffectPass Empty,
      (withBoth p p.config.autoToScreen q).presentLast = withBoth p false q' ∧
      q'.Waiting m p.config.autoToScreen ∧ q'.geometry = q.geometry := by
  unfold Pipeline.presentLast
  change ∃ q', (if p.config.autoToScreen then _ else _) = _ ∧ _
  cases p.config.autoToScreen with
  | false => exact ⟨q, rfl, waiting, rfl⟩
  | true =>
    refine ⟨_, ?_, waiting.sendToScreen true, rfl⟩
    exact congrArg (fun passes => { p with passes }) (sendLastToScreen_pair waiting true)

/-- The effects join after the scene, and both passes are installed. -/
theorem exists_installed_of_join {q : EffectPass Empty} (waiting : q.Waiting m false)
    (alive : p.disposed = false) (absent : p.depthTexture = none)
    (serves : s.device.Serves p.geometry)
    (surfaces : s.device.surfaces.keys = [p.input.id, p.output.id]) :
    ∃ p' t, join (.effects q) (withScene p p.config.autoToScreen, s) = .ok () (p', t) ∧
      Installed m (p', t) ∧ p'.config = p.config ∧
      s.device.Worked (if m.needsDepthTexture then 2 else 0) 0 t.device := by
  -- the pass is made ready, the depth texture settled and the way to the screen, in this order
  obtain ⟨q₁, u, ready, waiting₁, geometry₁⟩ :=
    exists_ready_of_waiting (p := withScene p p.config.autoToScreen) waiting absent s
  obtain ⟨input, depthTexture, q₂, t, settled, same, depth, waiting₂, geometry₂, worked⟩ :=
    updateDepthTexture_of_waiting waiting₁ absent p.config.autoToScreen (s.withShared u)
  obtain ⟨q₃, presented, waiting₃, geometry₃⟩ :=
    presentLast_of_waiting (p := { p with input, depthTexture }) waiting₂
  refine ⟨withBoth { p with input, depthTexture } false q₃, t, ?_, ?_, rfl, worked⟩
  · rw [join_of_ready (p := withScene p p.config.autoToScreen) alive ready rfl settled]
    exact congrArg (fun p => EStateM.Result.ok () (p, t)) presented
  · exact {
      alive := alive
      depth := depth
      passes := ⟨q₃, rfl, waiting₃, (geometry₃.trans geometry₂).trans geometry₁⟩
      serves := serves.of_worked worked
      surfaces := by
        rw [worked.surfaces]
        exact surfaces.trans (congrArg (fun x => [x, p.output.id]) same.symm) }

/-- The passes of effects that can be merged join, one after the other. -/
theorem exists_installed_of_addPasses {effects : List (Hosted Empty)}
    (merged : merge (effects.map (·.effect)) = .ok m) (settings : SimulationSettings)
    (uniforms : UniformStore) :
    ∃ p t, addPasses effects (start settings uniforms) = .ok () (p, t) ∧ Installed m (p, t) ∧
      p.config = settings.config ∧
      t.device.journal.size = 4 + (if m.needsDepthTexture then 2 else 0) ∧
      t.device.screenDraws.length = 0 := by
  let p : Pipeline SimulatedPass := (start settings uniforms).1
  let s : Stage Unit := (start settings uniforms).2
  have serves : s.device.Serves p.geometry := ⟨List.mem_singleton_self _, rfl⟩
  have surfaces : s.device.surfaces.keys = [p.input.id, p.output.id] := rfl
  obtain ⟨q, uniforms', made, waiting⟩ :=
    EffectPass.exists_waiting_of_create merged (some ⟨1⟩) {} s.uniforms
  obtain ⟨p', t, joined, installed, config, worked⟩ :=
    exists_installed_of_join (p := p) (s := { s with uniforms := uniforms' }) waiting rfl rfl serves
      surfaces
  refine ⟨p', t, ?_, installed, config, worked.journal, worked.screenDraws⟩
  have makes : makeEffectPass effects (withScene p p.config.autoToScreen, s) =
      .ok q (withScene p p.config.autoToScreen, { s with uniforms := uniforms' }) := by
    simp only [makeEffectPass, made]
  unfold addPasses
  refine (Act.bind_of_eq_ok (join_scene (p := p) rfl rfl rfl s) _).trans ?_
  rw [Act.bind_of_eq_ok makes]
  exact joined

/-! ## Frames -/

/-- A frame renders both passes. It draws the scene, and the effects if some are active or are sent to
the screen. -/
theorem render_of_installed (h : Installed m (p, s)) (delta : Float32) :
    ∃ report t, Pipeline.render (.seconds delta) (p, s) = .ok report (p, t) ∧
      report.rendered = 2 ∧ report.swaps = (if m.needsSwap then 1 else 0) ∧
      s.device.Worked (3 + if m.needsSwap || p.config.autoToScreen then 2 else 0)
        (if m.needsSwap || p.config.autoToScreen then 1 else 0) t.device := by
  obtain ⟨q, passes, waiting, -⟩ := h.passes
  obtain ⟨report, t, run, rendered, swaps, worked⟩ :=
    Pipeline.render_of_routine h.inRoutine h.serves delta
  change p.passes = _ at passes
  have moves : q.flags.needsSwap = m.needsSwap := congrArg PassFlags.needsSwap waiting.flags
  have due := waiting.frameLoad_eq
  rw [passes] at rendered swaps worked
  refine ⟨report, t, run, rendered, swaps.trans ?_, worked.cast ?_ ?_⟩
  · rw [← moves]
    simp [List.countP_cons, Pass.flags, BuiltinPass.flags, scenePass, PassFlags.withoutSwap]
  · simp only [List.map_cons, List.map_nil, List.sum_cons, List.sum_nil, frameLoad, due]
    split <;> rfl
  · simp only [List.map_cons, List.map_nil, List.sum_cons, List.sum_nil, frameLoad, due]
    split <;> rfl

/-- Each of the frames takes the same. -/
theorem renderFrames_of_installed (h : Installed m (p, s)) (delta : Float32)
    (n rendered swaps : Nat) :
    ∃ t, renderFrames delta n rendered swaps (p, s) =
        .ok (rendered + 2 * n, swaps + if m.needsSwap then n else 0) (p, t) ∧
      s.device.Worked (n * (3 + if m.needsSwap || p.config.autoToScreen then 2 else 0))
        (if m.needsSwap || p.config.autoToScreen then n else 0) t.device := by
  -- on the frames: work keeps the passes installed, so the next frame begins as this one did
  induction n generalizing rendered swaps s with
  | zero =>
    have total : (swaps + if m.needsSwap then 0 else 0) = swaps := by split <;> rfl
    refine ⟨s, ?_, (Device.Worked.refl _).cast (Nat.zero_mul _).symm ?_⟩
    · rw [total]
      rfl
    · split <;> rfl
  | succ n ih =>
    obtain ⟨report, t, run, renders, moves, worked⟩ := render_of_installed h delta
    obtain ⟨t', rest, worked'⟩ := ih (h.of_worked worked) (rendered + report.rendered)
      (swaps + report.swaps)
    refine ⟨t', ?_, (worked.trans worked').cast ?_ ?_⟩
    · have total : swaps + (if m.needsSwap then 1 else 0) + (if m.needsSwap then n else 0) =
          swaps + if m.needsSwap then n + 1 else 0 := by
        split <;> omega
      rw [renderFrames, Act.bind_of_eq_ok run, rest, renders, moves, total, Nat.add_assoc, Nat.mul_succ,
        Nat.add_comm 2]
    · rw [Nat.succ_mul, Nat.add_comm]
    · split <;> omega

/-! ## The end -/

end Simulation

theorem Device.keys_disposeSurface (d : Device) (x : Surface) :
    (d.disposeSurface x).surfaces.keys = d.surfaces.keys.erase x.id := by
  unfold Device.disposeSurface
  split
  · exact OrderedMap.keys_erase x.id
  · rename_i gone
    refine (List.erase_of_not_mem fun lives => gone ?_).symm
    obtain ⟨size, found⟩ := OrderedMap.exists_get?_of_mem_keys lives
    rw [OrderedMap.contains, found]
    rfl

theorem Pipeline.surfaces_deleteDepthTexture {P ω : Type} [Pass P ω] (p : Pipeline P) (s : Stage ω) :
    (p.deleteDepthTexture s).2.device.surfaces = s.device.surfaces := by
  have detached (t : Texture) (x : Surface) (d : Device) :
      (Pipeline.detachDepth t x d).2.surfaces = d.surfaces := by
    unfold Pipeline.detachDepth
    split <;> rfl
  have ended (t : Texture) (d : Device) : (d.disposeTexture t).surfaces = d.surfaces := by
    unfold Device.disposeTexture
    split <;> rfl
  unfold Pipeline.deleteDepthTexture
  split
  · rfl
  · exact (ended _ _).trans ((detached _ _ _).trans (detached _ _ _))

namespace Simulation

/-- No surface outlives the pipeline. -/
theorem size_surfaces_dispose (h : Installed m (p, s)) :
    (p.dispose s).2.2.device.surfaces.size = 0 := by
  obtain ⟨q, passes, -⟩ := h.passes
  change p.passes = _ at passes
  have ended : (threadList (fun q s => Pass.dispose q s) p.passes s).2 = s := by
    have still : (q.dispose s).2 = s := by
      unfold EffectPass.dispose
      rw [EffectPass.forEffects_of_still fun e s => e.dispose_of_isEmpty s]
    rw [passes]
    exact still
  let bare : Pipeline SimulatedPass := { p with passes := [] }
  have surfaces := Pipeline.surfaces_deleteDepthTexture bare s
  obtain ⟨_, input⟩ := (Pipeline.settled_deleteDepthTexture bare s).input
  obtain ⟨_, output⟩ := (Pipeline.settled_deleteDepthTexture bare s).output
  obtain ⟨⟨p', s'⟩, deleted⟩ : ∃ x, bare.deleteDepthTexture s = x := ⟨_, rfl⟩
  rw [deleted] at surfaces input output
  unfold Pipeline.dispose
  rw [if_neg (h.alive ▸ Bool.false_ne_true)]
  simp only [ended]
  rw [deleted]
  change ((s'.device.disposeSurface p'.input).disposeSurface p'.output).surfaces.size = 0
  rw [OrderedMap.size_eq_length_keys, Device.keys_disposeSurface, Device.keys_disposeSurface,
    surfaces, h.surfaces, input, output, List.erase_cons_head, List.erase_cons_head]
  rfl

/-! ## The whole -/

/-- What a simulation of a number of frames will report, by whether some effect is active, whether some
effect needs the depth, and whether the last pass draws to the screen. -/
def foretell (frames : Nat) (active depth toScreen : Bool) : SimulationSummary where
  rendered := 2 * frames
  swaps := if active then frames else 0
  commands := 4 + (if depth then 2 else 0) + frames * (3 + if active || toScreen then 2 else 0)
  screenDraws := if active || toScreen then frames else 0
  sharesDepth := depth
  leakedSurfaces := 0

variable {effects : List (Hosted Empty)}

/-- A simulation of effects that can be merged. -/
theorem run_of_merge (merged : merge (effects.map (·.effect)) = .ok m)
    (settings : SimulationSettings) (uniforms : UniformStore) :
    ∃ x, run settings effects (start settings uniforms) = .ok
      (foretell settings.frames m.needsSwap m.needsDepthTexture settings.config.autoToScreen) x := by
  obtain ⟨p, s, joined, installed, config, commands, draws⟩ :=
    exists_installed_of_addPasses merged settings uniforms
  obtain ⟨t, rendered, worked⟩ :=
    renderFrames_of_installed installed (frameSeconds settings) settings.frames 0 0
  have total := worked.journal
  have drawn := worked.screenDraws
  rw [commands, config] at total
  rw [draws, config, Nat.zero_add] at drawn
  have closed :
      close (0 + 2 * settings.frames) (0 + if m.needsSwap then settings.frames else 0) (p, t) =
        foretell settings.frames m.needsSwap m.needsDepthTexture settings.config.autoToScreen := by
    unfold close foretell
    simp only [Nat.zero_add, total, drawn, size_surfaces_dispose (installed.of_worked worked)]
    rw [installed.depth]
  refine ⟨(p, t), ?_⟩
  unfold run
  rw [Act.bind_of_eq_ok joined, Act.bind_of_eq_ok rendered]
  exact congrArg (EStateM.Result.ok · (p, t)) closed

/-- A simulation of effects that cannot be merged fails as their merge does. -/
theorem run_of_merge_eq_error {f : MergeFault}
    (refused : merge (effects.map (·.effect)) = .error f) (settings : SimulationSettings)
    (uniforms : UniformStore) :
    ∃ x, run settings effects (start settings uniforms) = .error (.merge f) x := by
  let p : Pipeline SimulatedPass := (start settings uniforms).1
  let s : Stage Unit := (start settings uniforms).2
  have unmade : makeEffectPass effects (withScene p p.config.autoToScreen, s) =
      .error (.merge f) (withScene p p.config.autoToScreen, s) := by
    simp only [makeEffectPass, EffectPass.create, mergeHosted, refused]
  have failed : addPasses effects (p, s) =
      .error (.merge f) (withScene p p.config.autoToScreen, s) := by
    unfold addPasses
    refine (Act.bind_of_eq_ok (join_scene (p := p) rfl rfl rfl s) _).trans ?_
    exact Act.bind_eq_error.2 (.inl unmade)
  exact ⟨_, Act.bind_eq_error.2 (.inl failed)⟩

end Simulation

open Simulation

theorem simulate_eq (settings : SimulationSettings) (descriptors : List EffectDescriptor) :
    simulate settings descriptors =
      match mergeDescribed descriptors with
      | .error f => .error (.merge f)
      | .ok _ => .ok (foretell settings.frames (descriptors.any (·.blend != .skip))
          (descriptors.any (·.attributes.depth)) settings.config.autoToScreen) := by
  have described := map_createEffects descriptors {}
  unfold simulate mergeDescribed
  cases hm : merge ((createEffects descriptors {}).1.map (·.effect)) with
  | error f =>
    obtain ⟨x, failed⟩ := run_of_merge_eq_error hm settings (createEffects descriptors {}).2
    simp only [failed]
  | ok m =>
    obtain ⟨x, done⟩ := run_of_merge hm settings (createEffects descriptors {}).2
    have active : m.needsSwap = descriptors.any (·.blend != .skip) := by
      rw [needsSwap_of_merge hm]
      simpa only [List.any_map, Function.comp_def] using congrArg (List.any · (·.1)) described
    have depth : m.needsDepthTexture = descriptors.any (·.attributes.depth) := by
      rw [needsDepthTexture_of_merge hm]
      simpa only [List.any_map, Function.comp_def] using congrArg (List.any · (·.2.depth)) described
    simp only [done, active, depth]

/-- **A simulation is foretold.** It fails exactly if the effects cannot be merged, and as their merge
does. Otherwise each frame renders two passes, moves the image once if some effect is active, and takes
three commands for the scene, and two for the effects if some is active or the last pass draws to the
screen. The images take four commands, the shared depth texture two more if some effect, a skipped one
included, needs it. No surface is left. Whatever the disk holds, the command tells just that of the
effects and the settings that it reads. -/
theorem simulate_foretold :
    (∀ (settings : SimulationSettings) (descriptors : List EffectDescriptor),
      simulate settings descriptors =
        match mergeDescribed descriptors with
        | .error f => .error (.merge f)
        | .ok _ => .ok (foretell settings.frames (descriptors.any (·.blend != .skip))
            (descriptors.any (·.attributes.depth)) settings.config.autoToScreen)) ∧
    ∀ {M : Type → Type} [Monad M] [Disk M] (effects : String) (config : Option String)
      (settings : SimulationSettings),
      (simulateCommand effects config settings : CommandM M String) = do
        let descriptors ← loadEffects effects
        let config ← match config with
          | some path => loadConfig path
          | none => pure settings.config
        match mergeDescribed descriptors with
        | .error f => throw (.simulation (.merge f))
        | .ok _ =>
          return SimulationSummary.text { settings with config }
            (foretell settings.frames (descriptors.any (·.blend != .skip))
              (descriptors.any (·.attributes.depth)) config.autoToScreen) := by
  refine ⟨simulate_eq, fun effects config settings => ?_⟩
  cases config with
  | none =>
    refine bind_congr fun descriptors => bind_congr fun config => ?_
    simp only [simulate_eq]
    cases mergeDescribed descriptors <;> rfl
  | some path =>
    refine bind_congr fun descriptors => bind_congr fun config => ?_
    simp only [simulate_eq]
    cases mergeDescribed descriptors <;> rfl

end ScreenEffects
