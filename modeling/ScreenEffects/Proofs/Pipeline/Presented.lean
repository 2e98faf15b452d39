import ScreenEffects.Proofs.Pipeline.Masks

/-!
# What a frame shows

A frame shows something if some command writes colours with the screen as its target. A pipeline that
sends its last enabled pass to the screen leaves that to this pass alone: a mask, its end and a saved
image have no colours for the screen, and then nothing is shown, whatever comes before. Any other last
pass shows something in each frame that ends well, one that draws a scene without clearing the colours
only if colours are open to writes.

* `BuiltinPass.paints` : the pass writes colours wherever it is sent.
* `BuiltinPass.presented_of_render` : on the screen it shows something.
* `Pipeline.presented_of_last` : so does a frame whose last enabled pass paints.
* `Pipeline.nothing_presented` : a frame that ends with the end of a mask.
-/

namespace ScreenEffects

variable {H ω : Type}

/-! ## The device -/

/-- The command writes colours, and its target is the screen. -/
def Command.presents : Command → Bool
  | .clear target flags => target.isNone && flags.color
  | .drawScene target _ _ _ _ mask => target.isNone && mask.color
  | .drawScreen target _ _ _ => target.isNone
  | _ => false

namespace Device

variable {d₀ d d' : Device}

/-- Since `d₀` the device has recorded commands, and forgotten none. -/
abbrev Continues (d₀ d : Device) : Prop := Recorded (fun _ => True) d₀ d

/-- Since `d₀` the device has recorded a command that shows something on the screen. -/
def Presented (d₀ d : Device) : Prop :=
  ∃ commands, d.journal.toList = d₀.journal.toList ++ commands ∧ ∃ c ∈ commands, c.presents = true

theorem Continues.push (h : d₀.Continues d) {c : Command} (journal : d'.journal = d.journal.push c) :
    d₀.Continues d' :=
  h.trans ⟨[c], by rw [journal, Array.toList_push], fun _ _ => trivial⟩

theorem Continues.presented (h : d₀.Continues d) (h' : d.Presented d') : d₀.Presented d' := by
  obtain ⟨cs, hj, -⟩ := h
  obtain ⟨cs', hj', c, hc, shown⟩ := h'
  exact ⟨cs ++ cs', by rw [hj', hj, List.append_assoc], c, List.mem_append_right cs hc, shown⟩

theorem Presented.continues (h : d₀.Presented d) (h' : d.Continues d') : d₀.Presented d' := by
  obtain ⟨cs, hj, c, hc, shown⟩ := h
  obtain ⟨cs', hj', -⟩ := h'
  exact ⟨cs ++ cs', by rw [hj', hj, List.append_assoc], c, List.mem_append_left cs' hc, shown⟩

theorem presented_record (d : Device) {c : Command} (shown : c.presents = true) :
    d.Presented (d.record c) :=
  ⟨[c], Array.toList_push, c, List.mem_singleton_self c, shown⟩

theorem not_presented
    (silent : ∀ c ∈ d.journal.toList.drop d₀.journal.toList.length, c.presents = false) :
    ¬ d₀.Presented d := by
  rintro ⟨commands, hj, c, hc, shown⟩
  rw [hj, List.drop_left] at silent
  exact absurd ((silent c hc).symm.trans shown) Bool.false_ne_true

theorem EndsOn.presented (h : EndsOn none d₀ d) : d₀.Presented d := by
  obtain ⟨before, label, bytes, hj⟩ := h
  exact ⟨before ++ [.drawScreen none label d₀.stencil bytes], by rw [hj, List.append_assoc],
    _, List.mem_append_right before (List.mem_singleton_self _), rfl⟩

theorem Continues.clear (h : d₀.Continues d) (flags : ClearFlags) (values : ClearValues) :
    d₀.Continues (d.clear flags values) := by
  unfold Device.clear
  split
  · exact h.push rfl
  · exact h

theorem Continues.checkDraw : Act.Keeps d₀.Continues checkDraw := by
  intro d h
  unfold Act.after Device.checkDraw
  cases d.failNext <;> exact h

theorem Continues.drawScreen (geometry : Geometry) (program : ShaderProgram)
    (uniforms : UniformStore) : Act.Keeps d₀.Continues (drawScreen geometry program uniforms) := by
  unfold Device.drawScreen
  refine Act.keeps_get.bind fun d => ?_
  have draw : Act.Keeps d₀.Continues (do
      Device.checkDraw
      modify fun d => d.record
        (.drawScreen d.target program.label d.stencil (program.uniformBytes uniforms))) :=
    checkDraw.bind fun _ => Act.keeps_modify fun _ h => h.push rfl
  split
  · exact (Act.keeps_throw _).bind fun _ => draw
  · exact draw

theorem drawScene_eq_ok {scene : Scene} {camera : Camera} {override : Option DepthPacking} {a : Unit}
    (h : drawScene scene camera override d = .ok a d') :
    d' = d.record (.drawScene d.target scene camera override d.stencil d.writeMask) := by
  obtain ⟨_, e, checked, h⟩ := Act.bind_eq_ok.1 h
  rw [Act.modify_eq_ok.1 h, checkDraw_eq_ok checked]

end Device

/-- The calls of a pass add to the journal. -/
theorem stageCalls_continues (d₀ : Device) : StageCalls fun s : Stage ω => d₀.Continues s.device where
  setUniform _ _ h := h
  scene _ := {
    setTarget _ h := h.push rfl
    setStencil _ h := h.push rfl
    setWriteMask _ h := h.push rfl
    clear flags values h := Device.Continues.clear h flags values
    drawScene _ _ _ := Device.Continues.checkDraw.bind fun _ => Act.keeps_modify fun _ h => h.push rfl }
  drawScreen _ _ _ _ := Device.Continues.drawScreen _ _ _

/-! ## Hooks -/

/-- The hooks may issue commands; they cannot take back what was recorded. -/
structure JournalingHooks (H : Type) {ω : Type} [EffectHooks H ω] : Prop where
  prepare : ∀ (k : H) (alpha : Bool) (precision : Precision) (s : Stage ω),
    s.device.Continues (EffectHooks.prepare k alpha precision s).2.device
  update : ∀ (input : Surface) (delta : Float32) (uniforms : UniformMap) (k : H) (s : Stage ω),
    s.device.Continues ((EffectHooks.update input delta uniforms).after (k, s)).2.device

section Hooks

variable [EffectHooks H ω]

theorem QuietHooks.journaling (quiet : QuietHooks H) : JournalingHooks H where
  prepare k alpha precision s :=
    ⟨[], by rw [(quiet.prepare k alpha precision s).journal, List.append_nil], by simp⟩
  update input delta uniforms k s :=
    ⟨[], by rw [(quiet.update input delta uniforms k s).journal, List.append_nil], by simp⟩

theorem JournalingHooks.keep (journaling : JournalingHooks H) (d₀ : Device) :
    HooksKeep (fun s : Stage ω => d₀.Continues s.device) H where
  prepare k alpha precision s h := h.trans (journaling.prepare k alpha precision s)
  update input delta uniforms x h := h.trans (journaling.update input delta uniforms x.1 x.2)
  setSize _ _ _ _ h := h
  setDepthTexture _ _ _ _ h := h

end Hooks

/-! ## Passes on the screen -/

section Draws

variable {s t : Stage ω} {a : Unit}

/-- The pass clears colours, or draws the scene with colours open to writes. -/
def ScenePass.paints (p : ScenePass) (colour : Bool) : Bool :=
  (p.clears && p.clearPass.clear.color) || colour

theorem Device.presented_clear {d : Device} (screen : d.target = none) {flags : ClearFlags}
    (colour : flags.color = true) (values : ClearValues) : d.Presented (d.clear flags values) := by
  have any : flags.any = true := by simp [ClearFlags.any, colour]
  rw [Device.clear, if_pos any]
  exact presented_record d (by rw [screen]; exact colour)

theorem ScenePass.presented_of_renderInto {p : ScenePass} {d d' : Device}
    (paints : p.paints d.writeMask.color = true) (h : p.renderInto none d = .ok a d') :
    d.Presented d' := by
  obtain ⟨e, continues, target, writeMask, cleared, drawn⟩ : ∃ e : Device, d.Continues e ∧
      e.target = none ∧ e.writeMask = d.writeMask ∧
      (p.clears = true → p.clearPass.clear.color = true → d.Presented e) ∧
      Device.drawScene p.scene p.camera p.override e = .ok a d' := by
    have aimed : d.Continues (d.setTarget none) := Device.Continues.push (.refl _ d) rfl
    unfold ScenePass.renderInto at h
    obtain ⟨_, _, aim, h⟩ := Act.bind_eq_ok.1 h
    obtain rfl := Act.modify_eq_ok.1 aim
    cases clears : p.clears with
    | false =>
      rw [clears, if_neg Bool.false_ne_true] at h
      exact ⟨_, aimed, rfl, rfl, nofun, h⟩
    | true =>
      rw [clears, if_pos rfl] at h
      obtain ⟨_, _, clear, h⟩ := Act.bind_eq_ok.1 h
      obtain rfl := Act.modify_eq_ok.1 clear
      refine ⟨_, aimed.clear _ _, ?_, ?_, fun _ colour => ?_, h⟩
      · unfold Device.clear
        split <;> rfl
      · unfold Device.clear
        split <;> rfl
      · exact aimed.presented (Device.presented_clear rfl colour _)
  rw [Device.drawScene_eq_ok drawn, target, writeMask]
  rcases Bool.or_eq_true_iff.1 paints with clear | colour
  · obtain ⟨clears, colour⟩ := Bool.and_eq_true_iff.1 clear
    exact (cleared clears colour).continues (Device.Continues.push (.refl _ e) rfl)
  · exact continues.presented (Device.presented_record e colour)

theorem BlurPass.presented_of_steps {p : BlurPass} {geometry : Geometry} {offsets : List Float32}
    (hne : offsets ≠ []) {source near far : Surface}
    (h : p.steps geometry none offsets source near far s = .ok a t) : s.device.Presented t.device := by
  induction offsets generalizing source near far s with
  | nil => exact absurd rfl hne
  | cons offset offsets ih =>
    cases offsets with
    | nil => exact (endsOn_of_step h).presented
    | cons =>
      obtain ⟨_, u, hu, h⟩ := Act.bind_eq_ok.1 h
      have first : s.device.Continues u.device :=
        (p.keeps_step_of_calls (stageCalls_continues s.device) geometry source offset _).of_eq_ok hu
          (.refl _ _)
      exact first.presented (ih (List.cons_ne_nil _ _) h)

theorem BlurPass.presented_of_render {p : BlurPass} (screen : p.flags.toScreen = true)
    {input output : Surface} (h : p.render input output s = .ok a t) : s.device.Presented t.device := by
  unfold BlurPass.render at h
  cases hg : p.geometry with
  | none =>
    rw [hg] at h
    exact absurd h Act.throw_ne_ok
  | some geometry =>
    cases hs : p.surfaces with
    | none =>
      rw [hg, hs] at h
      exact absurd h Act.throw_ne_ok
    | some pair =>
      rw [hg, hs, if_pos screen] at h
      exact presented_of_steps p.kernelSize.kernel_ne_nil h

/-- On the screen a pass of effects draws also if none of them is active. -/
theorem EffectPass.presented_of_drawProgram {p : EffectPass H} (screen : p.flags.toScreen = true)
    {output : Surface} (h : p.drawProgram output s = .ok a t) : s.device.Presented t.device := by
  unfold drawProgram at h
  rw [screen, Bool.not_true, Bool.and_false, if_neg Bool.false_ne_true] at h
  cases hg : p.geometry with
  | none =>
    rw [hg] at h
    exact absurd h Act.throw_ne_ok
  | some geometry =>
    rw [hg] at h
    exact (Stage.endsOn_of_drawInto h).presented

variable [EffectHooks H ω]

theorem EffectPass.presented_of_render (journaling : JournalingHooks H) {p q : EffectPass H}
    (screen : p.flags.toScreen = true) {input output : Surface} {delta : Float32}
    (h : render input output delta (p, s) = .ok a (q, t)) : s.device.Presented t.device := by
  rw [render_eq_beforeDraw] at h
  simp only [Act.bind_eq_ok, Act.get_eq_ok] at h
  obtain ⟨_, ⟨r, u⟩, ready, _, _, ⟨rfl, rfl⟩, h⟩ := h
  have still : r.flags.toScreen = true :=
    Act.Keeps.of_eq_ok (leads_beforeDraw (A := fun flags _ => flags.toScreen = true)
      keeps_toScreen_recompile.leads input delta) ready screen
  have begun : s.device.Continues u.device :=
    (keeps_beforeDraw_of_hooks (journaling.keep s.device) (stageCalls_continues _).setUniform input
      delta).of_eq_ok ready (.refl _ _)
  obtain ⟨v, hv, hx⟩ := Act.onSecond_eq_ok.1 h
  obtain ⟨rfl, rfl⟩ := Prod.mk.inj hx
  exact begun.presented (presented_of_drawProgram still hv)

namespace BuiltinPass

/-- The pass writes colours to where it is sent, if it ends well; `colour` says whether colours are open
to writes when it is called. -/
def paints (colour : Bool) : BuiltinPass H → Bool
  | clear p => p.clear.color
  | scene p => p.paints colour
  | depth p => p.drawing.paints colour
  | mask _ => false
  | clearMask _ => false
  | shader _ => true
  | copy _ => true
  | save _ => false
  | blur _ => true
  | effects _ => true

omit [EffectHooks H ω] in
/-- A pass that paints with colours closed to writes paints in any case. -/
theorem paints_of_closed {q : BuiltinPass H} (h : q.paints false = true) (colour : Bool) :
    q.paints colour = true := by
  cases colour with
  | false => exact h
  | true => cases q <;> simp_all [paints, ScenePass.paints]

/-- A pass that paints shows something when it is sent to the screen. -/
theorem presented_of_render (journaling : JournalingHooks H) {q q' : BuiltinPass H}
    (paints : q.paints s.device.writeMask.color = true) (screen : q.flags.toScreen = true)
    {input output : Surface} {delta : Float32} {masked : Bool}
    (h : render input output delta masked (q, s) = .ok a (q', t)) : s.device.Presented t.device := by
  have alone {f : Act (Stage ω) Unit} (h : f.onSecond (q, s) = .ok a (q', t)) : f s = .ok a t := by
    obtain ⟨u, hu, hx⟩ := Act.onSecond_eq_ok.1 h
    exact (Prod.mk.inj hx).2 ▸ hu
  have onDevice {act : Act Device Unit} (h : Stage.onDevice act s = .ok a t) :
      act s.device = .ok a t.device := by
    obtain ⟨d, hd, rfl⟩ := Stage.onDevice_eq_ok.1 h
    exact hd
  cases q with
  | clear p =>
    have rendered := alone (f := modify fun t : Stage ω => t.mapDevice (p.render input)) h
    obtain rfl := Act.modify_eq_ok.1 rendered
    change s.device.Presented ((s.device.bind input p.flags.toScreen).clear p.clear p.values)
    rw [Device.bind, if_pos (show p.flags.toScreen = true from screen)]
    exact (Device.Continues.push (.refl _ s.device) rfl).presented
      (Device.presented_clear rfl paints _)
  | scene p =>
    have drawn := onDevice (alone h)
    rw [ScenePass.render, if_pos (show p.flags.toScreen = true from screen)] at drawn
    exact ScenePass.presented_of_renderInto paints drawn
  | depth p =>
    have drawn := onDevice (alone h)
    rw [DepthPass.render, if_pos (show p.drawing.flags.toScreen = true from screen)] at drawn
    exact ScenePass.presented_of_renderInto paints drawn
  | shader p =>
    have drawn := ShaderPass.endsOn_of_draw (alone h)
    rw [if_pos (show p.flags.toScreen = true from screen)] at drawn
    exact drawn.presented
  | copy p =>
    have drawn := ShaderPass.endsOn_of_draw (alone h)
    rw [if_pos (show p.shader.flags.toScreen = true from screen)] at drawn
    exact drawn.presented
  | blur p => exact BlurPass.presented_of_render screen (alone h)
  | effects p =>
    obtain ⟨p', hp, -⟩ := render_effects_eq_ok.1 h
    exact EffectPass.presented_of_render journaling screen hp
  | mask p => exact absurd paints Bool.false_ne_true
  | clearMask p => exact absurd paints Bool.false_ne_true
  | save p => exact absurd paints Bool.false_ne_true

end BuiltinPass

end Draws

/-! ## Turns -/

section Turns

variable [EffectHooks H ω] {q q' : BuiltinPass H} {copy : CopyPass} {delta : Float32}
  {f g : FrameState} {t t' : Stage ω}

/-- No turn takes back what was recorded. -/
theorem FrameState.continues_of_next (journaling : JournalingHooks H)
    (h : next copy delta f (q, t) = .ok g (q', t')) : t.device.Continues t'.device := by
  have calls := stageCalls_continues (ω := ω) t.device
  have kept : Act.Keeps (fun x : BuiltinPass H × Stage ω => t.device.Continues x.2.device)
      (next copy delta f) :=
    keeps_next (BuiltinPass.keeps_of_calls (journaling.keep _) calls _ _ _ _)
      fun g toScreen => (g.keeps_copyOutside_of_calls calls copy toScreen).onSecond
  exact kept.of_eq_ok h (.refl _ _)

/-- The turn of an enabled pass that is sent to the screen and paints shows something. -/
theorem FrameState.presented_of_next (journaling : JournalingHooks H) (enabled : q.flags.enabled = true)
    (screen : q.flags.toScreen = true) (paints : q.paints t.device.writeMask.color = true)
    (h : next copy delta f (q, t) = .ok g (q', t')) : t.device.Presented t'.device := by
  rcases next_eq_ok h with ⟨passed, -⟩ | ⟨-, drawn, hr, hc, -⟩
  · exact absurd (passed.symm.trans enabled) Bool.false_ne_true
  have shown := BuiltinPass.presented_of_render journaling paints screen hr
  split at hc
  · exact shown.continues <| (f.keeps_copyOutside_of_calls (stageCalls_continues drawn.device) copy
      _).of_eq_ok hc (.refl _ _)
  · exact hc ▸ shown

/-- A turn that begins with all buffers open to writes leaves them so. -/
theorem FrameState.writeMask_of_next (quiet : QuietHooks H)
    (h : next copy delta f (q, t) = .ok g (q', t')) (opened : t.device.writeMask = .all) :
    t'.device.writeMask = .all := by
  rcases next_eq_ok h with ⟨-, -, -, rfl⟩ | ⟨-, drawn, hr, hc, -⟩
  · exact opened
  have after := (Pipeline.drew_of_render quiet opened hr).writeMask
  split at hc
  · obtain ⟨-, -, -, same, -⟩ := copyOutside_eq_ok hc
    exact same.trans after
  · exact hc ▸ after

end Turns

/-! ## Frames -/

namespace Pipeline

section Frames

variable [EffectHooks H ω] {p p' : Pipeline (BuiltinPass H)} {s s' : Stage ω} {delta : FrameDelta}

/-- The last enabled pass of a pipeline, as the frame calls it: what it paints is what it painted before,
and it is sent to the screen. -/
theorem exists_framePasses_last (auto : p.config.autoToScreen = true) {pre post : List (BuiltinPass H)}
    {q : BuiltinPass H} (hp : p.passes = pre ++ q :: post) (last : IsLastEnabled q post)
    (delta : FrameDelta) (s : Stage ω) :
    ∃ pre' q' post', framePasses delta p s = pre' ++ q' :: post' ∧ q'.flags.enabled = true ∧
      q'.flags.toScreen = true ∧ ∀ colour, q'.paints colour = q.paints colour := by
  let key (q : BuiltinPass H) := (q.flags.enabled, fun colour => q.paints colour)
  have shared (q : BuiltinPass H) (t : Option Texture) (s : Shared ω) :
      key (Pass.setDepthTexture q t .basic s).1 = key q := by cases q <;> rfl
  have sent (q : BuiltinPass H) (b : Bool) : key (sendToScreen q b) = key q := by cases q <;> rfl
  have keys := map_framePasses shared sent delta p s
  rw [hp, List.map_append, List.map_cons, List.map_eq_append_iff] at keys
  obtain ⟨pre', rest, hf, -, hr⟩ := keys
  obtain ⟨q', post', rfl, hq, hpost⟩ := List.map_eq_cons_iff.1 hr
  obtain ⟨enabled, paints⟩ := Prod.mk.inj hq
  refine ⟨pre', q', post', hf, enabled.trans last.1, ?_, congrFun paints⟩
  have settled : (settle delta p s).1.config.autoToScreen = true := by
    rw [(settled_settle delta p s).config, auto]
  have presented : sendLastToScreen (settle delta p s).1.passes = pre' ++ q' :: post' := by
    rw [← hf, framePasses, presentLast, if_pos settled]
  rw [show q'.flags = Pass.flags q' from rfl, toScreen_sendLastToScreen keepsFlags_builtinPass presented,
    decide_eq_true_iff]
  refine ⟨enabled.trans last.1, ?_⟩
  have disabled (rs : List (BuiltinPass H)) : (∀ r ∈ rs, (Pass.flags r).enabled = false) ↔
      ∀ k ∈ rs.map key, k.1 = false := by rw [List.forall_mem_map]; rfl
  rw [disabled, hpost, ← disabled]
  exact last.2

/-- **A last pass that paints shows something.** A pipeline sends its last enabled pass to the screen. If
this pass clears colours or draws a program, then each frame that ends well records a command that writes
colours to the screen; so it does if the pass draws a scene without clearing the colours, provided that
colours are open to writes when the frame begins and that hooks issue no commands. Other passes may be
anything. -/
theorem presented_of_last (journaling : JournalingHooks H) (auto : p.config.autoToScreen = true)
    {pre post : List (BuiltinPass H)} {q : BuiltinPass H} (hp : p.passes = pre ++ q :: post)
    (last : IsLastEnabled q post)
    (paints : q.paints false = true ∨
      QuietHooks H ∧ s.device.writeMask = .all ∧ q.paints true = true)
    {report : FrameReport} (h : render delta (p, s) = .ok report (p', s')) :
    s.device.Presented s'.device := by
  obtain ⟨pre', q', post', hf, enabled, screen, same⟩ := exists_framePasses_last auto hp last delta s
  have settled := (settled_settle delta p s).undrawn
  obtain ⟨f, qs, -, -, turns⟩ := render_eq_ok h
  rw [show (settle delta p s).1.presentLast.passes = pre' ++ q' :: post' from hf] at turns
  obtain ⟨g, rs, t, _, before, turns, -⟩ := Act.foldEach_append_eq_ok.1 turns
  obtain ⟨g', r, t', _, turn, after, -⟩ := Act.foldEach_cons_eq_ok.1 turns
  have begun : s.device.Continues t.device :=
    Act.of_foldEach_eq_ok (J := fun _ t => s.device.Continues t.device)
      (fun _ _ _ _ _ _ _ hJ hn => hJ.trans (FrameState.continues_of_next journaling hn)) before
      (settled.recorded.mono fun _ _ => trivial)
  have painted : q'.paints t.device.writeMask.color = true := by
    rw [same]
    rcases paints with closed | ⟨quiet, opened, paints⟩
    · exact BuiltinPass.paints_of_closed closed _
    · have mask : t.device.writeMask = .all :=
        Act.of_foldEach_eq_ok (J := fun _ t => t.device.writeMask = .all)
          (fun _ _ _ _ _ _ _ hJ hn => FrameState.writeMask_of_next quiet hn hJ) before
          (settled.writeMask.trans opened)
      rw [mask]
      exact paints
  have shown := FrameState.presented_of_next journaling enabled screen painted turn
  have ended : t'.device.Continues s'.device :=
    Act.of_foldEach_eq_ok (J := fun _ u => t'.device.Continues u.device)
      (fun _ _ _ _ _ _ _ hJ hn => hJ.trans (FrameState.continues_of_next journaling hn)) after (.refl _ _)
  exact (begun.presented shown).continues ended

end Frames

/-- A pipeline of a pass that draws a scene, and of the end of a mask. -/
def sceneOutline (clears enabled : Bool) : Pipeline (BuiltinPass ProbeHooks) × Stage ProbeLog :=
  addAll [.scene { scene := ⟨1⟩, camera := ⟨1⟩, clears },
    .clearMask { flags := { enabled, needsSwap := false } }]
    (create {} { host := #[], device := .ofSize 64 32 })

/-- The scene is drawn over what the screen shows; the end of a mask behind it is out of use. -/
theorem presented_sceneOutline :
    ∃ report x, render (.seconds 1) (sceneOutline false false) = .ok report x ∧
      (sceneOutline false false).2.device.Presented x.2.device := by
  obtain ⟨report, x, h⟩ := Act.exists_of_not_fails
    (show (render (.seconds 1)).fails (sceneOutline false false) = false by decide +kernel)
  exact ⟨report, x, h, presented_of_last quietHooks_probeHooks.journaling rfl
    (show _ = [] ++ _ from rfl) ⟨rfl, by decide⟩ (.inr ⟨quietHooks_probeHooks, rfl, rfl⟩) h⟩

/-- The scene is drawn and its colours are cleared, but not on the screen, which the end of a mask has to
itself. -/
theorem nothing_presented :
    let x := sceneOutline true true
    x.1.config.autoToScreen = true ∧
      (∃ p, x.1.passes.head? = some (.scene p) ∧ p.flags.enabled = true) ∧
      ∃ report y, render (.seconds 1) x = .ok report y ∧ ¬ x.2.device.Presented y.2.device := by
  intro x
  refine ⟨rfl, ⟨_, rfl, rfl⟩, ?_⟩
  obtain ⟨report, y, h⟩ := Act.exists_of_not_fails
    (show (render (.seconds 1)).fails x = false by decide +kernel)
  have silent : (match render (.seconds 1) x with
      | .ok _ y => (y.2.device.journal.toList.drop x.2.device.journal.toList.length).all
          fun c => !c.presents
      | .error _ _ => false) = true := by decide +kernel
  rw [h] at silent
  refine ⟨report, y, h, Device.not_presented fun c hc => ?_⟩
  simpa using List.all_eq_true.1 silent c hc

end Pipeline

end ScreenEffects
