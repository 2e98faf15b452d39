import ScreenEffects.Proofs.Pass.Drawing
import ScreenEffects.Proofs.Pipeline.Calls

/-!
# Masks

Whether drawing is confined to a mask is known twice: the frame carries a flag from pass to pass, and
the device has a stencil state. `KeepsMask` says of a call that the two agree, that the pass draws
with the state it finds, and that the image of a pass that moves it is completed by what lies outside
of the mask.

* `InStep.next` : a turn that ends well leaves flag and state in agreement.
* `keepsMask_of_calls` : every call of a frame keeps the mask.
-/

namespace ScreenEffects

variable {H ω : Type} [EffectHooks H ω]

namespace BuiltinPass

/-! ## What the frame does to a pass before it is called -/

theorem ownSwap_setDepthTexture (q : BuiltinPass H) (t : Option Texture) (s : Shared ω) :
    (Pass.setDepthTexture q t .basic s).1.OwnSwap = q.OwnSwap := by
  cases q <;> rfl

theorem ownSwap_sendToScreen (q : BuiltinPass H) (b : Bool) :
    (Pipeline.sendToScreen q b).OwnSwap = q.OwnSwap := by
  cases q <;> rfl

theorem size_setDepthTexture (quiet : QuietHooks H) (q : BuiltinPass H) (t : Option Texture)
    (s : Shared ω) : s.uniforms.cells.size ≤
      (Pass.setDepthTexture q t .basic s).2.uniforms.cells.size := by
  cases q with
  | effects p =>
    have bound : s.uniforms.cells.size ≤
        (s.setUniform p.runtime.depthBuffer (.texture t)).uniforms.cells.size :=
      Nat.le_of_eq (s.uniforms.size_set _ _).symm
    exact keeps_threadList (I := fun u : Shared ω => s.uniforms.cells.size ≤ u.uniforms.cells.size)
      (fun h u hu => Nat.le_trans hu (h.size_setDepthTexture quiet t .basic u)) p.effects bound
  | _ => exact Nat.le_refl _

omit [EffectHooks H ω] in
/-- A pass that moves the image neither opens a mask nor closes one. -/
theorem role_eq_regular {q : BuiltinPass H} (own : q.OwnSwap) (swap : q.flags.needsSwap = true) :
    q.role = .regular := by
  cases q with
  | mask p => exact absurd (own.symm.trans swap) Bool.false_ne_true
  | clearMask p => exact absurd (own.symm.trans swap) Bool.false_ne_true
  | _ => rfl

omit [EffectHooks H ω] in
/-- The stencil state that a pass leaves behind fits to the frame after it. -/
theorem stencilAfter_frameStencil (q : BuiltinPass H) (f : FrameState) :
    q.stencilAfter (frameStencil f.masked) = frameStencil (f.afterRole q.role).masked := by
  cases q <;> rfl

end BuiltinPass

/-! ## The copy of what lies outside -/

omit [EffectHooks H ω] in
theorem FrameState.copyOutside_eq_ok {f : FrameState} {copy : CopyPass} {toScreen : Bool}
    {s t : Stage ω} {a : Unit} (h : f.copyOutside copy toScreen s = .ok a t) :
    ∃ bytes, t.device.journal.toList = s.device.journal.toList ++
        [.setStencil .outsideMask, .setTarget (if toScreen then none else some f.output.id),
          .drawScreen (if toScreen then none else some f.output.id) copy.shader.program.label
            .outsideMask bytes,
          .setStencil .insideMask] ∧
      t.device.stencil = .insideMask ∧ t.device.writeMask = s.device.writeMask ∧
      t.uniforms = (copy.shader.bindInput f.input s).uniforms := by
  unfold copyOutside at h
  simp only [Act.bind_eq_ok, Act.modify_eq_ok] at h
  obtain ⟨_, u, rfl, _, v, hv, rfl⟩ := h
  obtain ⟨geometry, hd⟩ := ShaderPass.draw_eq_ok hv
  rw [Stage.drawInto_eq_ok hd]
  have uniforms : (copy.shader.bindInput f.input (s.mapDevice (·.setStencil .outsideMask))).uniforms =
      (copy.shader.bindInput f.input s).uniforms := by
    unfold ShaderPass.bindInput
    cases copy.shader.program.uniforms.get? copy.shader.inputName <;> rfl
  have device : (copy.shader.bindInput f.input (s.mapDevice (·.setStencil .outsideMask))).device =
      s.device.setStencil .outsideMask := copy.shader.device_bindInput f.input _
  generalize copy.shader.bindInput f.input (s.mapDevice (·.setStencil .outsideMask)) = b at uniforms device
  obtain ⟨shared, d⟩ := b
  obtain rfl : d = s.device.setStencil .outsideMask := device
  refine ⟨copy.shader.program.uniformBytes shared.uniforms, ?_, rfl, rfl, uniforms⟩
  simp [Stage.mapDevice, Device.setStencil, Device.setTarget, Device.record]

namespace Pipeline

variable {p : Pipeline (BuiltinPass H)} {s : Stage ω}

/-- The copy of the pipeline is one made for a pipeline on this stage. -/
structure HasCopy (p : Pipeline (BuiltinPass H)) (s : Stage ω) : Prop where
  label : p.copy.shader.program.label = "CopyPass"
  inputName : p.copy.shader.inputName = "inputBuffer"
  input : ∃ u, p.copy.shader.program.uniforms.get? "inputBuffer" = some u ∧ s.uniforms.Holds u

omit [EffectHooks H ω] in
theorem hasCopy_create (config : PipelineConfig) (s : Stage ω) :
    HasCopy (create config s : Pipeline (BuiltinPass H) × Stage ω).1
      (create config s : Pipeline (BuiltinPass H) × Stage ω).2 := by
  have fields (program : ShaderProgram) : (program.forPrecision config.precision).label = program.label ∧
      (program.forPrecision config.precision).uniforms = program.uniforms := by
    cases config.precision <;> exact ⟨rfl, rfl⟩
  have held : UniformStore.Holds (CopyPass.create s.uniforms).2 ⟨s.uniforms.cells.size + 1⟩ := by
    simp [UniformStore.Holds, CopyPass.create, UniformStore.alloc]
  have bound : (CopyPass.create s.uniforms).1.shader.program.uniforms.get? "inputBuffer" =
      some ⟨s.uniforms.cells.size + 1⟩ := by
    simp [CopyPass.create, UniformStore.alloc, ShaderPass.create]
    rfl
  exact {
    label := (fields _).1
    inputName := rfl
    input := ⟨_, (congrArg (·.get? "inputBuffer") (fields _).2).trans bound, held⟩ }

/-! ## Turns -/

/-- Flag and state agree, colours and depth are open, and no uniform was lost. -/
structure InStep (s : Stage ω) (f : FrameState) (t : Stage ω) : Prop where
  stencil : t.device.stencil = BuiltinPass.frameStencil f.masked
  writeMask : t.device.writeMask = .all
  grows : s.uniforms.cells.size ≤ t.uniforms.cells.size

omit [EffectHooks H ω] in
theorem InStep.stencil_of_masked {f : FrameState} {t : Stage ω} (h : InStep s f t)
    (masked : f.masked = true) : t.device.stencil = .insideMask := by
  rw [h.stencil, masked]
  rfl

/-- The state that the rendering of a pass leaves behind. -/
theorem drew_of_render (quiet : QuietHooks H) {q q' : BuiltinPass H} {f : FrameState}
    {delta : Float32} {t t' : Stage ω} {a : Unit}
    (opened : t.device.writeMask = .all)
    (h : Pass.render f.input f.output delta f.masked (q, t) = .ok a (q', t')) :
    q.Drew f.input f.output f.masked t t' := by
  have drew := q.drew_after_render quiet f.input f.output delta f.masked opened
  have after : (BuiltinPass.render f.input f.output delta f.masked).after (q, t) = (q', t') := by
    unfold Act.after
    rw [show BuiltinPass.render f.input f.output delta f.masked (q, t) = _ from h]
  rwa [after] at drew

omit [EffectHooks H ω] in
theorem swaps_afterRole (f : FrameState) (r : PassRole) : (f.afterRole r).swaps = f.swaps := by
  cases r <;> rfl

theorem InStep.next (quiet : QuietHooks H) {q q' : BuiltinPass H} {copy : CopyPass}
    {delta : Float32} {f g : FrameState} {t t' : Stage ω} (own : q.OwnSwap) (h : InStep s f t)
    (hn : FrameState.next copy delta f (q, t) = .ok g (q', t')) : InStep s g t' := by
  rcases FrameState.next_eq_ok hn with ⟨-, rfl, -, rfl⟩ | ⟨-, drawn, hr, hc, rfl⟩
  · exact h
  have drew := drew_of_render quiet h.writeMask hr
  obtain ⟨own', -, role⟩ := BuiltinPass.kept_of_render quiet own hr
  have agrees : drawn.device.stencil = BuiltinPass.frameStencil (f.afterRole q'.role).masked := by
    rw [drew.stencil h.stencil_of_masked, h.stencil, role]
    exact q.stencilAfter_frameStencil f
  have grows := Nat.le_trans h.grows drew.grows
  change (if q'.flags.needsSwap && f.masked then
    f.copyOutside copy q'.flags.toScreen drawn = .ok () t' else t' = drawn) at hc
  change InStep s ((if q'.flags.needsSwap then { f with rendered := f.rendered + 1 }.swap
    else { f with rendered := f.rendered + 1 }).afterRole q'.role) t'
  obtain ⟨input, output, masked, rendered, swaps⟩ := f
  cases swap : q'.flags.needsSwap with
  | false =>
    rw [swap] at hc
    obtain rfl : t' = drawn := hc
    refine ⟨agrees.trans ?_, drew.writeMask, grows⟩
    cases q'.role <;> rfl
  | true =>
    rw [BuiltinPass.role_eq_regular own' swap] at agrees ⊢
    cases masked with
    | false =>
      rw [swap] at hc
      obtain rfl : t' = drawn := hc
      exact ⟨agrees, drew.writeMask, grows⟩
    | true =>
      rw [swap] at hc
      obtain ⟨-, -, inside, mask, uniforms⟩ := FrameState.copyOutside_eq_ok hc
      have bound := (copy.shader.draws_bindInput input (.refl [] drawn)).grows
      exact ⟨inside, mask.trans drew.writeMask, Nat.le_trans grows (uniforms.symm ▸ bound)⟩

/-! ## Calls -/

/-- The pass that moves the image from `f.input` draws it to its destination, and what lies outside
of the mask is then copied there from where the image was. -/
def CopiesOutside (copy : CopyPass) (delta : Float32) (f : FrameState) (q q' : BuiltinPass H)
    (t t' : Stage ω) : Prop :=
  ∃ drawn target before label bytes bytes' u,
    Pass.render f.input f.output delta f.masked (q, t) = .ok () (q', drawn) ∧
    target = (if q'.flags.toScreen then none else some f.output.id) ∧
    drawn.device.journal.toList =
      t.device.journal.toList ++ before ++ [.drawScreen target label .insideMask bytes] ∧
    t'.device.journal.toList = drawn.device.journal.toList ++
      [.setStencil .outsideMask, .setTarget target,
        .drawScreen target "CopyPass" .outsideMask bytes', .setStencil .insideMask] ∧
    copy.shader.program.uniforms.get? "inputBuffer" = some u ∧
    t'.uniforms.get u = .texture (some f.input.color)

/-- The call of `q` on the stage `t` keeps to the mask of the frame `f`. -/
structure KeepsMask (copy : CopyPass) (delta : Float32) (q : BuiltinPass H) (f : FrameState)
    (t : Stage ω) : Prop where
  stencil : t.device.stencil = if f.masked then .insideMask else .disabled
  writeMask : t.device.writeMask = .all
  /-- Colours and depth are open when the call is over, also if it fails. -/
  writeMask_after : ((Pass.render f.input f.output delta f.masked).after (q, t)).2.device.writeMask
    = .all
  drawn : t.device.Recorded
    (Command.Fits (q.drawStencil f.masked t.device.stencil) q.drawMask (q.targets f.input f.output))
    ((Pass.render f.input f.output delta f.masked).after (q, t)).2.device
  copied : ∀ g q' t', FrameState.next copy delta f (q, t) = .ok g (q', t') → f.masked = true →
    g.swaps ≠ f.swaps → CopiesOutside copy delta f q q' t t'

theorem copiesOutside_of_next (quiet : QuietHooks H) {q q' : BuiltinPass H} {delta : Float32}
    {f g : FrameState} {t t' : Stage ω} (hcopy : HasCopy p s) (own : q.OwnSwap)
    (h : InStep s f t) (hn : FrameState.next p.copy delta f (q, t) = .ok g (q', t'))
    (masked : f.masked = true) (swapped : g.swaps ≠ f.swaps) :
    CopiesOutside p.copy delta f q q' t t' := by
  rcases FrameState.next_eq_ok hn with ⟨-, rfl, -, -⟩ | ⟨-, drawn, hr, hc, rfl⟩
  · exact absurd rfl swapped
  have swap : q'.flags.needsSwap = true := by
    cases still : q'.flags.needsSwap with
    | true => rfl
    | false =>
      have e : (Pass.flags q').needsSwap = false := still
      rw [swaps_afterRole, e] at swapped
      exact absurd rfl swapped
  have drew := drew_of_render quiet h.writeMask hr
  obtain ⟨-, screen, -⟩ := BuiltinPass.kept_of_render quiet own hr
  obtain ⟨before, label, bytes, hb⟩ := BuiltinPass.endsOn_of_render quiet own h.writeMask hr swap
  change (if q'.flags.needsSwap && f.masked then
    f.copyOutside p.copy q'.flags.toScreen drawn = .ok () t' else t' = drawn) at hc
  rw [swap, masked] at hc
  obtain ⟨bytes', hj, -, -, uniforms⟩ := FrameState.copyOutside_eq_ok hc
  obtain ⟨u, hu, held⟩ := hcopy.input
  have inside : t.device.stencil = .insideMask := h.stencil_of_masked masked
  have holds : drawn.uniforms.Holds u :=
    Nat.lt_of_lt_of_le held (Nat.le_trans h.grows drew.grows)
  refine ⟨drawn, _, before, label, bytes, bytes', u, hr, rfl, ?_, ?_, hu, ?_⟩
  · rw [hb, inside, screen]
  · rw [hj, hcopy.label]
  · rw [uniforms]
    unfold ShaderPass.bindInput
    rw [hcopy.inputName, hu]
    exact (UniformStore.get_set holds).trans (if_pos rfl)

/-- **Every call of a frame keeps the mask.** In a frame that begins with the stencil test off and all
buffers open, with passes that ask for swaps as they do of themselves and hooks that issue no
commands, flag and state agree at every call, and each pass draws with the state it finds, but for the
outline of a mask and a saved image. -/
theorem keepsMask_of_calls (quiet : QuietHooks H) {delta : FrameDelta}
    (own : ∀ q ∈ p.passes, q.OwnSwap) (copy : HasCopy p s) (stencil : s.device.stencil = .disabled)
    (writeMask : s.device.writeMask = .all) {q : BuiltinPass H} {f : FrameState} {t : Stage ω}
    (h : Calls delta p s q f t) : KeepsMask p.copy (readDelta p.timer delta).1 q f t := by
  have settled := settled_settle delta p s
  have owns : ∀ r ∈ framePasses delta p s, r.OwnSwap :=
    forall_mem_framePasses BuiltinPass.ownSwap_setDepthTexture BuiltinPass.ownSwap_sendToScreen
      delta own
  have start : InStep s { input := (settle delta p s).1.input, output := (settle delta p s).1.output }
      (settle delta p s).2 :=
    ⟨settled.undrawn.stencil.trans stencil, settled.undrawn.writeMask.trans writeMask,
      size_settle (BuiltinPass.size_setDepthTexture quiet) delta p s⟩
  have inStep : InStep s f t := of_calls start h fun pre post hp r hr f t f' r' t' hJ hn =>
    hJ.next quiet (owns r (hp ▸ List.mem_append_left _ hr)) hn
  obtain ⟨-, -, pre, post, -, hp, -⟩ := h
  have ownq : q.OwnSwap := owns q (hp ▸ List.mem_append_right pre List.mem_cons_self)
  have drew := q.drew_after_render quiet f.input f.output (readDelta p.timer delta).1 f.masked
    inStep.writeMask
  exact {
    stencil := inStep.stencil
    writeMask := inStep.writeMask
    writeMask_after := drew.writeMask
    drawn := drew.recorded
    copied := fun g q' t' hn masked swapped =>
      copiesOutside_of_next quiet copy ownq inStep hn masked swapped }

/-- In the frame, the second pass is called after the first one alone, within its mask, and moves the
image. -/
def movesImageInMask (delta : FrameDelta) (p : Pipeline (BuiltinPass H)) (s : Stage ω) : Bool :=
  match framePasses delta p s with
  | m :: c :: _ =>
    match runTurns delta p s [m] with
    | .ok f _ => c.flags.enabled && !c.flags.disposed && c.flags.needsSwap && f.masked
    | .error _ _ => false
  | _ => false

theorem exists_calls_of_movesImageInMask {delta : FrameDelta}
    (h : movesImageInMask delta p s = true) :
    ∃ q f t, Calls delta p s q f t ∧ f.masked = true ∧ q.flags.needsSwap = true := by
  unfold movesImageInMask at h
  split at h
  · rename_i m c rest hp
    split at h
    · rename_i f x hr
      simp only [Bool.and_eq_true, Bool.not_eq_true'] at h
      obtain ⟨⟨⟨enabled, alive⟩, swap⟩, masked⟩ := h
      exact ⟨c, f, x.2, ⟨enabled, alive, [m], rest, x.1, hp, hr⟩, masked, swap⟩
    · cases h
  · cases h

/-- A pipeline of a mask, a copy that moves the image, and the end of the mask. -/
def copiedOutline : Pipeline (BuiltinPass ProbeHooks) × Stage ProbeLog :=
  let (p, s) := create {} { host := #[], device := .ofSize 64 32 }
  let (copy, uniforms) := CopyPass.create s.uniforms
  addAll [.mask { scene := ⟨1⟩, camera := ⟨1⟩ }, .copy copy, .clearMask {}] (p, { s with uniforms })

/-- The copy is called in the mask, and the image moves. -/
theorem keepsMask_copiedOutline :
    ∃ q f t, Calls (.seconds 1) copiedOutline.1 copiedOutline.2 q f t ∧ f.masked = true ∧
      q.flags.needsSwap = true ∧ KeepsMask copiedOutline.1.copy 1 q f t := by
  have own : ∀ q ∈ copiedOutline.1.passes, q.OwnSwap := by decide +kernel
  have copy : HasCopy copiedOutline.1 copiedOutline.2 := by
    refine ⟨by decide +kernel, by decide +kernel, ⟨1⟩, by decide +kernel, ?_⟩
    change 1 < copiedOutline.2.uniforms.cells.size
    decide +kernel
  have stencil : copiedOutline.2.device.stencil = .disabled := by decide +kernel
  have writeMask : copiedOutline.2.device.writeMask = .all := by decide +kernel
  obtain ⟨q, f, t, called, masked, swap⟩ :
      ∃ q f t, Calls (.seconds 1) copiedOutline.1 copiedOutline.2 q f t ∧ f.masked = true ∧
        q.flags.needsSwap = true :=
    exists_calls_of_movesImageInMask (by decide +kernel)
  exact ⟨q, f, t, called, masked, swap,
    keepsMask_of_calls quietHooks_probeHooks own copy stencil writeMask called⟩

end Pipeline

end ScreenEffects
