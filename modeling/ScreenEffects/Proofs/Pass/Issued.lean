import Mathlib.Data.List.Chain
import ScreenEffects.Proofs.Pass.Account
import ScreenEffects.Proofs.Pass.Drawing

/-!
# Draws that passes issue

A pass that draws a program over the screen binds an image to one of its uniforms and draws into its
target; a blur does so once for each entry of its kernel, and what an entry has written is the image
of the next. A `ScreenDraw` is one such draw, with the stage on which it is issued.
`BuiltinPass.issued` lists the draws of a call, of which the last may fail.

* `BuiltinPass.screenDraws_after_render` : a call records the draws that it issues, and no others.
* `BuiltinPass.moves_issued` : the draws of a call hand the image on from surface to surface, and
  each goes to a surface other than the one with its image.
-/

namespace ScreenEffects

variable {H Q ω : Type} {theirs : ω → Multiset Resource}

/-- A draw of a program over the screen, or over a surface. -/
structure ScreenDraw (ω : Type) where
  /-- The uniform that the image is bound to, if the program has it. -/
  input? : Option Uniform
  /-- The surface with the image. -/
  source : Surface
  target : Option Surface
  geometry : Geometry
  program : ShaderProgram
  /-- The stage once the image is bound. -/
  bound : Stage ω
  /-- The stage on which the draw is issued. -/
  stage : Stage ω

namespace ScreenDraw

/-- What the draw does on its stage. -/
def act (d : ScreenDraw ω) : Act (Stage ω) Unit :=
  Stage.drawInto (d.target.map (·.id)) d.geometry d.program

/-- What the device records of the draw, if it does not fail. -/
def command (d : ScreenDraw ω) : Command :=
  .drawScreen (d.target.map (·.id)) d.program.label d.stage.device.stencil
    (d.program.uniformBytes d.stage.uniforms)

/-- What the device records of the draw. -/
def recorded (d : ScreenDraw ω) : List Command :=
  if d.act.fails d.stage then [] else [d.command]

theorem screenDraws_after_act (d : ScreenDraw ω) :
    (d.act.after d.stage).device.screenDraws = d.stage.device.screenDraws ++ d.recorded :=
  Stage.screenDraws_after_drawInto d.stage

/-- The target of a draw to a surface or to the screen. -/
def targetOf (target : Surface) (toScreen : Bool) : Option Surface :=
  if toScreen then none else some target

theorem map_targetOf (target : Surface) (toScreen : Bool) :
    (targetOf target toScreen).map (·.id) = if toScreen then none else some target.id := by
  cases toScreen <;> rfl

end ScreenDraw

/-! ## The draws of a call -/

/-- The draw of a program with the image of `input`. -/
def ShaderPass.issued (p : ShaderPass) (input target : Surface) (toScreen : Bool) (s : Stage ω) :
    List (ScreenDraw ω) :=
  p.geometry.toList.map fun geometry => {
    input? := p.program.uniforms.get? p.inputName
    source := input
    target := ScreenDraw.targetOf target toScreen
    geometry
    program := p.program
    bound := p.bindInput input s
    stage := p.bindInput input s }

/-- The draw of a saved image. -/
def SavePass.issued (p : SavePass) (input : Surface) (masked : Bool) (s : Stage ω) :
    List (ScreenDraw ω) :=
  p.surface.toList.flatMap fun t =>
    p.copy.shader.issued input t false (if masked then s.mapDevice (·.setStencil .disabled) else s)

namespace BlurPass

/-- The draw for one entry of the kernel. -/
def stepDraw (p : BlurPass) (geometry : Geometry) (source : Surface) (offset : Float32)
    (target : Option Surface) (s : Stage ω) : ScreenDraw ω where
  input? := some p.inputBuffer
  source := source
  target := target
  geometry := geometry
  program := p.program
  bound := s.setUniform p.inputBuffer (.texture (some source.color))
  stage := p.bindStep source offset s

/-- The draws for a kernel, up to the first that fails. -/
def issuedSteps (p : BlurPass) (geometry : Geometry) (final : Option Surface) :
    List Float32 → (source near far : Surface) → Stage ω → List (ScreenDraw ω)
  | [], _, _, _, _ => []
  | [offset], source, _, _, s => [p.stepDraw geometry source offset final s]
  | offset :: offset' :: offsets, source, near, far, s =>
    let d := p.stepDraw geometry source offset (some near) s
    d :: match d.act d.stage with
      | .ok _ t => p.issuedSteps geometry final (offset' :: offsets) near far near t
      | .error _ _ => []

def issued (p : BlurPass) (input output : Surface) (s : Stage ω) : List (ScreenDraw ω) :=
  match p.geometry, p.surfaces with
  | some geometry, some (a, b) =>
    p.issuedSteps geometry (ScreenDraw.targetOf output p.flags.toScreen) p.kernelSize.kernel input
      a b s
  | _, _ => []

end BlurPass

namespace EffectPass

/-- The frame of a pass up to where it binds the image. -/
def beforeBind [EffectHooks H ω] : Act (EffectPass H × Stage ω) Unit := do
  Act.onFirst recompile
  modify fun (p, s) => p.syncEffects s

/-- The draw of a pass, once its effects are up to date. The image was bound to `u` on the stage
`bound`, and the effects have left the stage `s`. -/
def programDraw (p : EffectPass H) (u : Uniform) (input output : Surface) (bound s : Stage ω) :
    List (ScreenDraw ω) :=
  if p.merged.isIdle && !p.flags.toScreen then []
  else
    p.geometry.toList.map fun geometry => {
      input? := some u
      source := input
      target := ScreenDraw.targetOf output p.flags.toScreen
      geometry
      program := p.program
      bound
      stage := s }

/-- The draw of a pass of effects, if the effects let it come to that. -/
def issued [EffectHooks H ω] (p : EffectPass H) (input output : Surface) (delta : Float32)
    (s : Stage ω) : List (ScreenDraw ω) :=
  match beforeBind (p, s) with
  | .error _ _ => []
  | .ok _ (p, s) =>
    let delta := p.config.clampDelta delta
    match updateEffects input delta (p, p.bindFrame input delta s) with
    | .error _ _ => []
    | .ok _ (q, t) =>
      let u := p.runtime.inputBuffer
      q.programDraw u input output (s.setUniform u (.texture (some input.color))) t

end EffectPass

/-- The draws of programs that a pass of the library issues when it is rendered. -/
def BuiltinPass.issued [EffectHooks H ω] (input output : Surface) (delta : Float32) (masked : Bool)
    (q : BuiltinPass H) (s : Stage ω) : List (ScreenDraw ω) :=
  match q with
  | shader p => p.issued input output p.flags.toScreen s
  | copy p => p.shader.issued input output p.shader.flags.toScreen s
  | save p => p.issued input masked s
  | blur p => p.issued input output s
  | effects p => p.issued input output delta s
  | _ => []

/-- What a pass of a program's own draws is not known. -/
def AnyPass.issued [EffectHooks H ω] (input output : Surface) (delta : Float32) (masked : Bool) :
    AnyPass H Q → Stage ω → List (ScreenDraw ω)
  | builtin q, s => q.issued input output delta masked s
  | own _, _ => []

/-! ## A call records what it issues -/

section Recorded

/-- Apart from programs, passes of scenes draw what they like. -/
theorem sceneCalls_screenDraws (commands : List Command) :
    SceneCalls (·.screenDraws = commands) where
  setTarget _ h := (Device.screenDraws_of_silent rfl rfl).trans h
  setStencil _ h := (Device.screenDraws_of_silent rfl rfl).trans h
  setWriteMask _ h := (Device.screenDraws_of_silent rfl rfl).trans h
  clear flags _ h := by
    unfold Device.clear
    split
    · exact (Device.screenDraws_of_silent rfl rfl).trans h
    · exact h
  drawScene _ _ _ := by
    have checked : Act.Keeps (·.screenDraws = commands) Device.checkDraw := by
      intro d h
      unfold Act.after Device.checkDraw
      cases d.failNext <;> exact h
    exact checked.bind fun _ =>
      Act.keeps_modify fun _ h => (Device.screenDraws_of_silent rfl rfl).trans h

theorem ShaderPass.screenDraws_after_draw (p : ShaderPass) (input target : Surface)
    (toScreen : Bool) (s : Stage ω) :
    ((p.draw input target toScreen).after s).device.screenDraws =
      s.device.screenDraws ++ (p.issued input target toScreen s).flatMap (·.recorded) := by
  unfold ShaderPass.draw ShaderPass.issued
  cases p.geometry with
  | none => exact (List.append_nil _).symm
  | some geometry =>
    let d : ScreenDraw ω := ⟨p.program.uniforms.get? p.inputName, input,
      ScreenDraw.targetOf target toScreen, geometry, p.program, p.bindInput input s,
      p.bindInput input s⟩
    have drawn := d.screenDraws_after_act
    have bound : d.stage.device = s.device := p.device_bindInput input s
    rw [bound, ScreenDraw.act, ScreenDraw.map_targetOf] at drawn
    exact drawn.trans (by simp [d])

theorem SavePass.screenDraws_after_render (p : SavePass) (input : Surface) (masked : Bool)
    (s : Stage ω) :
    ((p.render input masked).after s).device.screenDraws =
      s.device.screenDraws ++ (p.issued input masked s).flatMap (·.recorded) := by
  obtain ⟨copy, surface, fixed⟩ := p
  cases surface with
  | none => exact (List.append_nil _).symm
  | some t =>
    have drawn := copy.shader.screenDraws_after_draw (ω := ω) input t false
    have one (s : Stage ω) : issued ⟨copy, some t, fixed⟩ input masked s =
        copy.shader.issued input t false
          (if masked then s.mapDevice (·.setStencil .disabled) else s) := List.flatMap_singleton ..
    rw [one]
    cases masked with
    | false => exact drawn s
    | true =>
      have lifted := drawn (s.mapDevice (·.setStencil .disabled))
      have e : (render ⟨copy, some t, fixed⟩ input true).after s =
          ((copy.shader.draw input t false).after
            (s.mapDevice (·.setStencil .disabled))).mapDevice (·.setStencil .insideMask) :=
        Act.after_ensuring (copy.shader.draw input t false) _ _
      rw [e]
      refine (Device.screenDraws_of_silent (c := .setStencil .insideMask) rfl rfl).trans
        (lifted.trans ?_)
      rw [Stage.mapDevice, Device.screenDraws_of_silent (c := .setStencil .disabled) rfl rfl]
      rfl

namespace BlurPass

variable (p : BlurPass) (geometry : Geometry)

theorem step_eq_act (source : Surface) (offset : Float32) (target : Option Surface) (s : Stage ω) :
    p.step geometry source offset (target.map (·.id)) s =
      (p.stepDraw geometry source offset target s).act
        (p.stepDraw geometry source offset target s).stage :=
  p.step_apply geometry source offset _ s

theorem screenDraws_after_step (source : Surface) (offset : Float32) (target : Option Surface)
    (s : Stage ω) :
    ((p.step geometry source offset (target.map (·.id))).after s).device.screenDraws =
      s.device.screenDraws ++ (p.stepDraw geometry source offset target s).recorded := by
  have drawn := (p.stepDraw geometry source offset target s).screenDraws_after_act
  unfold Act.after at drawn ⊢
  rw [step_eq_act]
  exact drawn

theorem screenDraws_after_steps (final : Option Surface) (offsets : List Float32)
    (source near far : Surface) (s : Stage ω) :
    ((p.steps geometry (final.map (·.id)) offsets source near far).after s).device.screenDraws =
      s.device.screenDraws ++
        (p.issuedSteps geometry final offsets source near far s).flatMap (·.recorded) := by
  induction offsets generalizing source near far s with
  | nil => exact (List.append_nil _).symm
  | cons offset offsets ih =>
    cases offsets with
    | nil =>
      rw [issuedSteps, List.flatMap_singleton]
      exact p.screenDraws_after_step geometry source offset final s
    | cons offset' offsets =>
      have e : p.steps geometry (final.map (·.id)) (offset :: offset' :: offsets) source near far =
          (p.step geometry source offset ((some near).map (·.id)) : Act (Stage ω) Unit) >>=
            fun _ => p.steps geometry (final.map (·.id)) (offset' :: offsets) near far near := rfl
      have first := p.screenDraws_after_step geometry source offset (some near) s
      unfold Act.after at first
      rw [step_eq_act] at first
      rw [e, Act.after_bind, step_eq_act, issuedSteps, List.flatMap_cons, ← List.append_assoc,
        ← first]
      cases (p.stepDraw geometry source offset (some near) s).act
        (p.stepDraw geometry source offset (some near) s).stage with
      | ok a t => exact ih near far near t
      | error e t => exact (List.append_nil _).symm

theorem screenDraws_after_render (input output : Surface) (s : Stage ω) :
    ((p.render input output).after s).device.screenDraws =
      s.device.screenDraws ++ (p.issued input output s).flatMap (·.recorded) := by
  unfold render issued
  cases p.geometry with
  | none => exact (List.append_nil _).symm
  | some geometry =>
    cases p.surfaces with
    | none => exact (List.append_nil _).symm
    | some pair =>
      rw [← ScreenDraw.map_targetOf]
      exact p.screenDraws_after_steps geometry _ p.kernelSize.kernel input pair.1 pair.2 s

end BlurPass

namespace EffectPass

variable [EffectHooks H ω]

theorem render_apply (input output : Surface) (delta : Float32) (p : EffectPass H) (s : Stage ω) :
    render input output delta (p, s) =
      match beforeBind (p, s) with
      | .error e x => .error e x
      | .ok _ (p, s) =>
        let delta := p.config.clampDelta delta
        match updateEffects input delta (p, p.bindFrame input delta s) with
        | .error e x => .error e x
        | .ok _ (q, t) => Act.onSecond (q.drawProgram output) (q, t) := by
  have e : render input output delta = beforeBind >>= fun _ => get >>= fun x =>
      modify (fun y => (y.1, y.1.bindFrame input (x.1.config.clampDelta delta) y.2)) >>= fun _ =>
        updateEffects input (x.1.config.clampDelta delta) >>= fun _ => get >>= fun y =>
          (Act.onSecond (y.1.drawProgram output) : Act (EffectPass H × Stage ω) Unit) := by
    unfold render beforeBind
    simp only [bind_assoc]
  rw [e, Act.bind_apply]
  cases beforeBind (p, s) with
  | error e x => rfl
  | ok a x =>
    obtain ⟨q, t⟩ := x
    change (updateEffects input (q.config.clampDelta delta) >>= _)
      (q, q.bindFrame input (q.config.clampDelta delta) t) = _
    rw [Act.bind_apply]
    simp only
    cases updateEffects input (q.config.clampDelta delta)
      (q, q.bindFrame input (q.config.clampDelta delta) t) <;> rfl

/-- Up to where it binds the image, a frame brings the effects up to date and does no more. -/
theorem keeps_beforeBind {I : Stage ω → Prop}
    (sync : ∀ (p : EffectPass H) s, I s → I (p.syncEffects s).2) :
    Act.Keeps (fun x : EffectPass H × Stage ω => I x.2) beforeBind := by
  refine Act.Keeps.bind (fun x h => ?_) fun _ => Act.keeps_modify fun x h => sync x.1 x.2 h
  rw [Act.after_onFirst]
  exact h

omit [EffectHooks H ω] in
theorem screenDraws_after_drawProgram (p : EffectPass H) (u : Uniform) (input output : Surface)
    (bound s : Stage ω) :
    ((p.drawProgram output).after s).device.screenDraws = s.device.screenDraws ++
      (p.programDraw u input output bound s).flatMap (·.recorded) := by
  unfold drawProgram programDraw
  split
  · exact (List.append_nil _).symm
  · cases p.geometry with
    | none => exact (List.append_nil _).symm
    | some geometry =>
      let d : ScreenDraw ω := ⟨some u, input, ScreenDraw.targetOf output p.flags.toScreen, geometry,
        p.program, bound, s⟩
      have drawn := d.screenDraws_after_act
      rw [ScreenDraw.act, ScreenDraw.map_targetOf] at drawn
      exact drawn.trans (by simp [d])

theorem screenDraws_after_render (quiet : QuietHooks H) (p : EffectPass H) (input output : Surface)
    (delta : Float32) (s : Stage ω) :
    ((render input output delta).after (p, s)).2.device.screenDraws = s.device.screenDraws ++
      (p.issued input output delta s).flatMap (·.recorded) := by
  have begun := keeps_beforeBind (I := s.Quiet)
    (fun p _ h => h.trans (p.quiet_syncEffects quiet _)) (p, s) (.refl s)
  unfold Act.after at begun ⊢
  rw [render_apply]
  unfold issued
  cases hb : beforeBind (p, s) with
  | error e x =>
    rw [hb] at begun
    exact (Device.screenDraws_congr begun.journal).trans (List.append_nil _).symm
  | ok a x =>
    rw [hb] at begun
    have bound := x.1.quiet_bindFrame input (x.1.config.clampDelta delta) x.2
    have updated := quiet_updateEffects quiet input (x.1.config.clampDelta delta)
      (x.1, x.1.bindFrame input (x.1.config.clampDelta delta) x.2)
    unfold Act.after at updated
    cases hu : updateEffects input (x.1.config.clampDelta delta)
      (x.1, x.1.bindFrame input (x.1.config.clampDelta delta) x.2) with
    | error e y =>
      rw [hu] at updated
      simp only [hu]
      have silent := Device.screenDraws_congr ((begun.trans bound).trans updated).journal
      exact silent.trans (List.append_nil _).symm
    | ok b y =>
      rw [hu] at updated
      simp only [hu]
      have silent := Device.screenDraws_congr ((begun.trans bound).trans updated).journal
      rw [← silent]
      have drawn := y.1.screenDraws_after_drawProgram x.1.runtime.inputBuffer input output
        (x.2.setUniform x.1.runtime.inputBuffer (.texture (some input.color))) y.2
      have ended := Act.after_onSecond (y.1.drawProgram output) y.1 y.2
      unfold Act.after at ended drawn
      rw [ended]
      exact drawn

end EffectPass

/-- A pass of the library records the draws of programs that it issues, and no others. -/
theorem BuiltinPass.screenDraws_after_render [EffectHooks H ω] (quiet : QuietHooks H)
    (q : BuiltinPass H) (input output : Surface) (delta : Float32) (masked : Bool) (s : Stage ω) :
    ((render input output delta masked).after (q, s)).2.device.screenDraws =
      s.device.screenDraws ++ (q.issued input output delta masked s).flatMap (·.recorded) := by
  have drawn {act : Act (Stage ω) Unit} {ds : List (ScreenDraw ω)}
      (hact : (act.after s).device.screenDraws = s.device.screenDraws ++ ds.flatMap (·.recorded)) :
      (act.onSecond.after (q, s)).2.device.screenDraws =
        s.device.screenDraws ++ ds.flatMap (·.recorded) := by
    rw [Act.after_onSecond]
    exact hact
  have calls := sceneCalls_screenDraws s.device.screenDraws
  have silent {act : Act (Stage ω) Unit}
      (hact : (act.after s).device.screenDraws = s.device.screenDraws) :
      (act.onSecond.after (q, s)).2.device.screenDraws =
        s.device.screenDraws ++ ([] : List (ScreenDraw ω)).flatMap (·.recorded) :=
    drawn (by rw [hact, List.flatMap_nil, List.append_nil])
  have changed (f : Device → Device) (h : (f s.device).screenDraws = s.device.screenDraws) :
      ((modify (·.mapDevice f) : Act (Stage ω) Unit).after s).device.screenDraws =
        s.device.screenDraws := h
  have called {act : Act Device Unit} (h : Act.Keeps (·.screenDraws = s.device.screenDraws) act) :
      ((Stage.onDevice act : Act (Stage ω) Unit).after s).device.screenDraws =
        s.device.screenDraws := by
    rw [Stage.after_onDevice]
    exact h s.device rfl
  cases q with
  | clear p => exact silent (changed (p.render input) (p.of_calls calls input rfl))
  | scene p => exact silent (called (p.keeps_of_calls calls _))
  | depth p => exact silent (called (p.keeps_of_calls calls))
  | mask p => exact silent (called (p.keeps_of_calls calls input output))
  | clearMask p => exact silent (changed ClearMaskPass.render (calls.setStencil .disabled rfl))
  | shader p => exact drawn (p.screenDraws_after_draw input output _ s)
  | copy p => exact drawn (p.shader.screenDraws_after_draw input output _ s)
  | save p => exact drawn (p.screenDraws_after_render input masked s)
  | blur p => exact drawn (p.screenDraws_after_render input output s)
  | effects p =>
    rw [after_wrap rfl]
    exact p.screenDraws_after_render quiet input output delta s

end Recorded

/-! ## From surface to surface -/

/-- The draws hand an image on: the first of them has the image of `input`, and each other one has
what the draw before it has written. -/
structure HandsOn (input : Surface) (ds : List (ScreenDraw ω)) : Prop where
  first : ∀ d ∈ ds.head?, d.source = input
  next : ds.IsChain fun d d' => d.target = some d'.source

theorem handsOn_nil (input : Surface) : HandsOn input ([] : List (ScreenDraw ω)) :=
  ⟨by simp, .nil⟩

theorem handsOn_singleton (d : ScreenDraw ω) : HandsOn d.source [d] :=
  ⟨by simp, .singleton d⟩

theorem HandsOn.cons {d : ScreenDraw ω} {ds : List (ScreenDraw ω)} {near : Surface}
    (h : HandsOn near ds) (hd : d.target = some near) : HandsOn d.source (d :: ds) where
  first := by simp
  next := List.isChain_cons.2 ⟨fun d' hd' => by rw [hd, h.first d' hd'], h.next⟩

namespace ScreenDraw

/-- The draw moves an image in a call that began on the stage `s`: from the input or one of the surfaces
`own`, to the output or another one of `own`. -/
structure Moves (theirs : ω → Multiset Resource) (input output : Surface) (own : List Surface)
    (s : Stage ω) (d : ScreenDraw ω) : Prop where
  -- A uniform that was never made holds nothing.
  bound : ∀ u ∈ d.input?, d.bound.uniforms.Holds u →
    d.bound.uniforms.get u = .texture (some d.source.color)
  steady : s.Steady theirs d.stage
  source : d.source ∈ input :: own
  target : ∀ t ∈ d.target, t ∈ output :: own
  apart : ∀ t ∈ d.target, t.id ≠ d.source.id

theorem mem_targetOf {target t : Surface} {toScreen : Bool} (h : t ∈ targetOf target toScreen) :
    t = target := by
  unfold targetOf at h
  split at h
  · cases h
  · exact (Option.mem_some.1 h).symm

end ScreenDraw

theorem Stage.get_setUniform {s : Stage ω} {u : Uniform} {v : UniformValue}
    (h : (s.setUniform u v).uniforms.Holds u) : (s.setUniform u v).uniforms.get u = v := by
  have held : s.uniforms.Holds u := by
    unfold UniformStore.Holds at h ⊢
    exact (s.uniforms.size_set u v) ▸ h
  change (s.uniforms.set u v).get u = v
  rw [UniformStore.get_set held, if_pos rfl]

section Moves

variable {input output : Surface} {own : List Surface} {s₀ s : Stage ω}

theorem ShaderPass.bindInput_eq (p : ShaderPass) (input : Surface) (s : Stage ω) {u : Uniform}
    (hu : p.program.uniforms.get? p.inputName = some u) :
    p.bindInput input s = s.setUniform u (.texture (some input.color)) := by
  unfold ShaderPass.bindInput
  rw [hu]

/-- A program draws the image that it is given, to a surface that is another one. -/
theorem ShaderPass.moves_issued (p : ShaderPass) {target : Surface} (toScreen : Bool)
    (steady : s₀.Steady theirs s) (known : target ∈ output :: own) (apart : target.id ≠ input.id) :
    HandsOn input (p.issued input target toScreen s) ∧
      ∀ d ∈ p.issued input target toScreen s, d.Moves theirs input output own s₀ := by
  unfold ShaderPass.issued
  cases p.geometry with
  | none => exact ⟨handsOn_nil input, by simp⟩
  | some geometry =>
    refine ⟨⟨by simp, .singleton _⟩, List.forall_mem_singleton.2 ⟨fun u hu held => ?_, ?_,
      List.mem_cons_self, fun t ht => ?_, fun t ht => ?_⟩⟩
    · change (p.bindInput input s).uniforms.Holds u at held
      change (p.bindInput input s).uniforms.get u = .texture (some input.color)
      rw [p.bindInput_eq input s hu] at held ⊢
      exact Stage.get_setUniform held
    · exact p.bindInput_of_calls (stageCalls_steady _) input steady
    · exact (ScreenDraw.mem_targetOf ht).symm ▸ known
    · exact (ScreenDraw.mem_targetOf ht).symm ▸ apart

/-- An image is saved in the surface of the pass. -/
theorem SavePass.moves_issued (p : SavePass) (masked : Bool)
    (apart : ∀ t ∈ p.surface, t.id ≠ input.id) :
    HandsOn input (p.issued input masked s) ∧
      ∀ d ∈ p.issued input masked s, d.Moves theirs input output p.surface.toList s := by
  have lifted : s.Steady theirs
      (if masked then s.mapDevice (·.setStencil .disabled) else s) := by
    split
    · exact (stageCalls_steady s).setStencil (.refl theirs s) .disabled
    · exact .refl theirs s
  obtain ⟨copy, surface, fixed⟩ := p
  cases surface with
  | none => exact ⟨handsOn_nil input, by simp [SavePass.issued]⟩
  | some t =>
    have one : SavePass.issued ⟨copy, some t, fixed⟩ input masked s =
        copy.shader.issued input t false
          (if masked then s.mapDevice (·.setStencil .disabled) else s) := List.flatMap_singleton ..
    rw [one]
    exact copy.shader.moves_issued false lifted (by simp) (apart t rfl)

namespace BlurPass

variable (p : BlurPass) (geometry : Geometry)

theorem handsOn_issuedSteps (final : Option Surface) (offsets : List Float32)
    (source near far : Surface) (s : Stage ω) :
    HandsOn source (p.issuedSteps geometry final offsets source near far s) := by
  induction offsets generalizing source near far s with
  | nil => exact handsOn_nil source
  | cons offset offsets ih =>
    cases offsets with
    | nil => exact handsOn_singleton (p.stepDraw geometry source offset final s)
    | cons offset' offsets =>
      let d := p.stepDraw geometry source offset (some near) s
      have later : HandsOn near (match d.act d.stage with
          | .ok _ t => p.issuedSteps geometry final (offset' :: offsets) near far near t
          | .error _ _ => []) := by
        cases d.act d.stage with
        | ok a t => exact ih near far near t
        | error e t => exact handsOn_nil near
      exact later.cons (d := d) rfl

theorem moves_stepDraw (steady : s₀.Steady theirs s) {source : Surface} {target : Option Surface}
    (hs : source ∈ input :: own) (ht : ∀ t ∈ target, t ∈ output :: own)
    (apart : ∀ t ∈ target, t.id ≠ source.id) (offset : Float32) :
    (p.stepDraw geometry source offset target s).Moves theirs input output own s₀ where
  bound u hu held := by
    obtain rfl : p.inputBuffer = u := Option.mem_some.1 hu
    exact Stage.get_setUniform held
  steady :=
    have calls : StageCalls (s₀.Steady theirs) := stageCalls_steady s₀
    calls.setUniform _ _ (calls.setUniform _ _ (calls.setUniform _ _ steady))
  source := hs
  target := ht
  apart := apart

/-- The draws go back and forth between two surfaces, and no one reads what it writes. -/
theorem moves_issuedSteps {final : Option Surface} (hf : ∀ t ∈ final, t ∈ output :: own)
    (offsets : List Float32) {source near far : Surface} (steady : s₀.Steady theirs s)
    (hs : source ∈ input :: own) (hn : near ∈ own) (hr : far ∈ own)
    (apart : ∀ t ∈ final, t.id ∉ [source.id, near.id, far.id])
    (first : near.id ≠ source.id) (turns : near.id ≠ far.id) :
    ∀ d ∈ p.issuedSteps geometry final offsets source near far s,
      d.Moves theirs input output own s₀ := by
  induction offsets generalizing source near far s with
  | nil => exact fun _ hd => absurd hd List.not_mem_nil
  | cons offset offsets ih =>
    cases offsets with
    | nil =>
      refine List.forall_mem_singleton.2 (p.moves_stepDraw geometry steady hs hf ?_ offset)
      exact fun t ht e => apart t ht (e ▸ List.mem_cons_self)
    | cons offset' offsets =>
      let d := p.stepDraw geometry source offset (some near) s
      have moved : d.Moves theirs input output own s₀ :=
        p.moves_stepDraw geometry steady hs (by simp [hn]) (by simpa using first) offset
      have later : ∀ d' ∈ (match d.act d.stage with
          | .ok _ t => p.issuedSteps geometry final (offset' :: offsets) near far near t
          | .error _ _ => []), d'.Moves theirs input output own s₀ := by
        cases ran : d.act d.stage with
        | error e t => exact fun _ hd => absurd hd List.not_mem_nil
        | ok a t =>
          have drawn : s₀.Steady theirs t :=
            ((stageCalls_steady s₀).keeps_drawInto _ geometry p.program).of_eq_ok ran moved.steady
          refine ih drawn (List.mem_cons_of_mem _ hn) hr hn ?_
            turns.symm turns.symm
          intro t ht
          obtain ⟨-, tn, tr⟩ : t.id ≠ source.id ∧ t.id ≠ near.id ∧ t.id ≠ far.id := by
            simpa using apart t ht
          simp [tn, tr]
      exact List.forall_mem_cons.2 ⟨moved, later⟩

theorem moves_issued (apart : ((input :: output :: p.owned).map (·.id)).Nodup) :
    HandsOn input (p.issued input output s) ∧
      ∀ d ∈ p.issued input output s, d.Moves theirs input output p.owned s := by
  unfold issued owned at *
  cases p.geometry with
  | none => exact ⟨handsOn_nil input, by simp⟩
  | some geometry =>
    cases hs : p.surfaces with
    | none => exact ⟨handsOn_nil input, by simp⟩
    | some pair =>
      obtain ⟨a, b⟩ := pair
      simp only [hs, Option.elim_some, List.map_cons, List.map_nil, List.nodup_cons,
        List.mem_cons, List.not_mem_nil, or_false, not_or] at apart
      obtain ⟨⟨io, ia, ib⟩, ⟨oa, ob⟩, ab, -⟩ := apart
      refine ⟨p.handsOn_issuedSteps geometry _ _ input a b s,
        p.moves_issuedSteps geometry (fun t ht => ?_) _ (.refl theirs s) List.mem_cons_self
          List.mem_cons_self (by simp) (fun t ht => ?_) (Ne.symm ia) ab⟩
      · rw [ScreenDraw.mem_targetOf ht]
        exact List.mem_cons_self
      · rw [ScreenDraw.mem_targetOf ht]
        simp [Ne.symm io, oa, ob]

end BlurPass

section Hooks

variable [EffectHooks H ω] (tidy : TidyHooks theirs H)

include tidy

/-- Effects draw the image that they are given. -/
theorem EffectPass.moves_issued (p : EffectPass H) (apart : output.id ≠ input.id)
    (delta : Float32) :
    HandsOn input (p.issued input output delta s) ∧
      ∀ d ∈ p.issued input output delta s, d.Moves theirs input output own s := by
  have begun := keeps_beforeBind (I := s.Steady theirs)
    (fun p _ h => p.syncEffects_of_hooks (tidy.keep s) h) (p, s) (.refl theirs s)
  unfold Act.after at begun
  unfold issued
  cases hb : beforeBind (p, s) with
  | error e x => exact ⟨handsOn_nil input, by simp⟩
  | ok a x =>
    obtain ⟨q, t⟩ := x
    rw [hb] at begun
    have bound : s.Steady theirs (q.bindFrame input (q.config.clampDelta delta) t) :=
      q.bindFrame_of_setUniform (I := s.Steady theirs) (stageCalls_steady s).setUniform begun input _
    have updated := keeps_updateEffects_of_hooks (tidy.keep s) input (q.config.clampDelta delta)
      (q, q.bindFrame input (q.config.clampDelta delta) t) bound
    unfold Act.after at updated
    simp only
    cases hu : updateEffects input (q.config.clampDelta delta)
      (q, q.bindFrame input (q.config.clampDelta delta) t) with
    | error e y => exact ⟨handsOn_nil input, by simp⟩
    | ok b y =>
      obtain ⟨r, u⟩ := y
      rw [hu] at updated
      simp only [programDraw]
      split
      · exact ⟨handsOn_nil input, by simp⟩
      · cases r.geometry with
        | none => exact ⟨handsOn_nil input, by simp⟩
        | some geometry =>
          refine ⟨⟨by simp, .singleton _⟩, List.forall_mem_singleton.2 ⟨fun w hw held => ?_,
            updated, List.mem_cons_self, fun t ht => ?_, fun t ht => ?_⟩⟩
          · obtain rfl : q.runtime.inputBuffer = w := Option.mem_some.1 hw
            exact Stage.get_setUniform held
          · exact (ScreenDraw.mem_targetOf ht).symm ▸ List.mem_cons_self
          · exact (ScreenDraw.mem_targetOf ht).symm ▸ apart

/-- The draws of a call hand the image on from surface to surface, if the surfaces of the pass are
not those it is given. -/
theorem BuiltinPass.moves_issued (q : BuiltinPass H)
    (apart : ((input :: output :: q.owned).map (·.id)).Nodup) (delta : Float32) (masked : Bool) :
    HandsOn input (q.issued input output delta masked s) ∧
      ∀ d ∈ q.issued input output delta masked s, d.Moves theirs input output q.owned s := by
  have images : output.id ≠ input.id := fun e => by simp [e] at apart
  cases q with
  | shader p => exact p.moves_issued _ (.refl theirs s) List.mem_cons_self images
  | copy p => exact p.shader.moves_issued _ (.refl theirs s) List.mem_cons_self images
  | save p =>
    refine p.moves_issued masked fun t ht e => ?_
    have own : p.surface = some t := ht
    simp [owned, own, e] at apart
  | blur p => exact p.moves_issued apart
  | effects p => exact p.moves_issued tidy images delta
  | _ => exact ⟨handsOn_nil input, by simp [issued]⟩

theorem AnyPass.moves_issued (q : AnyPass H Q)
    (apart : ((input :: output :: q.owned).map (·.id)).Nodup) (delta : Float32) (masked : Bool) :
    HandsOn input (q.issued input output delta masked s) ∧
      ∀ d ∈ q.issued input output delta masked s, d.Moves theirs input output q.owned s := by
  cases q with
  | builtin q => exact q.moves_issued tidy apart delta masked
  | own q => exact ⟨handsOn_nil input, by simp [issued]⟩

end Hooks

end Moves

end ScreenEffects
