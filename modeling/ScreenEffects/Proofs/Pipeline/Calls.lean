import ScreenEffects.Proofs.Device.Recording
import ScreenEffects.Proofs.Pipeline.Frames

/-!
# Calls of a frame

A frame calls its passes one after the other, up to the first failure. `Pipeline.Calls` says that a
pass is called in a frame, on which stage and with what is handed on from pass to pass; the frame may
fail later, or at this very call.

* `of_calls`, `of_render_eq_ok` : what every turn of a pass keeps holds at each call, and at the end of
  a frame that ends well.
* `keeps_setSize`, `keeps_reset`, `keeps_render` : what is kept of a pipeline and its stage, if each of
  the steps keeps it.
* `settled_settle`, `map_framePasses` : what is kept before the first call, while the depth texture is
  settled and the last pass sent to the screen.
-/

namespace ScreenEffects

/-! ## Folds over a list -/

namespace Act

variable {τ α β : Type}

theorem foldEach_append_eq_ok {act : β → Act (α × τ) β} {b b' : β} {as bs cs : List α}
    {t t' : τ} :
    foldEach act b (as ++ bs, t) = .ok b' (cs, t') ↔
      ∃ b₁ as' t₁ bs', foldEach act b (as, t) = .ok b₁ (as', t₁) ∧
        foldEach act b₁ (bs, t₁) = .ok b' (bs', t') ∧ cs = as' ++ bs' := by
  induction as generalizing b t cs with
  | nil =>
    simp only [List.nil_append, foldEach_nil_eq_ok]
    constructor
    · intro h
      exact ⟨b, [], t, cs, ⟨rfl, rfl, rfl⟩, h, rfl⟩
    · rintro ⟨_, _, _, bs', ⟨rfl, rfl, rfl⟩, h, rfl⟩
      exact h
  | cons a as ih =>
    simp only [List.cons_append, foldEach_cons_eq_ok, ih]
    constructor
    · rintro ⟨b₁, a₁, t₁, _, ha, ⟨b₂, as', t₂, bs', has, hbs, rfl⟩, rfl⟩
      exact ⟨b₂, a₁ :: as', t₂, bs', ⟨b₁, a₁, t₁, as', ha, has, rfl⟩, hbs, rfl⟩
    · rintro ⟨b₂, _, t₂, bs', ⟨b₁, a₁, t₁, as', ha, has, rfl⟩, hbs, rfl⟩
      exact ⟨b₁, a₁, t₁, as' ++ bs', ha, ⟨b₂, as', t₂, bs', has, hbs, rfl⟩, rfl⟩

/-- What each element keeps of the value and the state holds after all of them. -/
theorem of_foldEach_eq_ok {J : β → τ → Prop} {act : β → Act (α × τ) β} {as as' : List α}
    (step : ∀ a ∈ as, ∀ b t b' a' t', J b t → act b (a, t) = .ok b' (a', t') → J b' t') {b b' : β}
    {t t' : τ} (h : foldEach act b (as, t) = .ok b' (as', t')) (hJ : J b t) : J b' t' := by
  induction as generalizing b t as' with
  | nil =>
    obtain ⟨rfl, -, rfl⟩ := foldEach_nil_eq_ok.1 h
    exact hJ
  | cons a as ih =>
    obtain ⟨b₁, a₁, t₁, as₁, ha, has, -⟩ := foldEach_cons_eq_ok.1 h
    exact ih (fun c hc => step c (List.mem_cons_of_mem a hc)) has
      (step a List.mem_cons_self b t b₁ a₁ t₁ hJ ha)

end Act

variable {P ω : Type} [Pass P ω]

/-- An enabled pass whose turn ends well is not disposed. -/
theorem FrameState.disposed_of_next {copy : CopyPass} {delta : Float32} {f g : FrameState} {q : P}
    {s : Stage ω} {x : P × Stage ω} (h : next copy delta f (q, s) = .ok g x)
    (enabled : (Pass.flags q).enabled = true) : (Pass.flags q).disposed = false := by
  cases hd : (Pass.flags q).disposed with
  | false => rfl
  | true =>
    rw [next_of_disposed enabled hd] at h
    cases h

namespace Pipeline

/-- The pass `q`, made to forget the depth texture, if `p` has one. -/
def forget (p : Pipeline P) (q : P) (s : Stage ω) : P × Stage ω :=
  if p.depthTexture.isSome then
    ((Pass.setDepthTexture q none .basic s.toShared).1,
      s.withShared (Pass.setDepthTexture q none .basic s.toShared).2)
  else (q, s)

/-- A pass that is let go forgets the depth texture before the others are asked who still needs it. -/
theorem release_eq (p : Pipeline P) (q : P) (rest : List P) (s : Stage ω) :
    p.release q rest s =
      let x := { p with passes := rest }.updateDepthTexture (p.forget q s).2
      (if p.config.autoToScreen then sendToScreen (p.forget q s).1 false else (p.forget q s).1,
        x.1.presentLast, x.2) :=
  rfl

/-! ## What changes of the whole keep -/

section Whole

variable {I : Pipeline P × Stage ω → Prop}

omit [Pass P ω] in
theorem keeps_checkAlive : Act.Keeps I checkAlive := by
  refine Act.keeps_get.bind fun x => ?_
  split
  · exact Act.keeps_throw _
  · exact Act.keeps_pure _

omit [Pass P ω] in
/-- The size of a surface is all that is changed when it is resized. -/
theorem brings_resizeSurface {p : Pipeline P} {x : Surface} {w h : UInt32}
    (resize : Act.Keeps (fun s => I (p, s)) (Stage.onDevice (Device.resizeSurface x w h))) :
    Act.Brings (fun y => y.1 = p ∧ I y)
      (fun x' y => (∃ w h, x' = { x with width := w, height := h }) ∧ y.1 = p ∧ I y) I
      (Act.onSecond (Stage.onDevice (Device.resizeSurface x w h))) := by
  rintro ⟨p, s⟩ ⟨rfl, hs⟩
  have kept := resize s hs
  unfold Act.after Stage.onDevice Device.resizeSurface at kept
  unfold Act.onSecond Stage.onDevice Device.resizeSurface
  by_cases live : s.device.surfaces.contains x.id
  · simp only [if_pos live] at kept ⊢
    exact ⟨⟨_, _, rfl⟩, trivial, kept⟩
  · simp only [if_neg live] at kept ⊢
    exact kept

/-- What the new sizes of the screen, of the images and of the passes leave as it is. -/
theorem keeps_setSize {width height : UInt32}
    (screen : ∀ p s, I (p, s) → I (p, s.mapDevice (·.setSize width height)))
    (resize : ∀ p x w h, Act.Keeps (fun s => I (p, s)) (Stage.onDevice (Device.resizeSurface x w h)))
    (input : ∀ p s w h, I (p, s) → I ({ p with input := { p.input with width := w, height := h } }, s))
    (output : ∀ p s w h, I (p, s) →
      I ({ p with output := { p.output with width := w, height := h } }, s))
    (passes : ∀ w h, Act.Keeps I (onPasses (Act.forEach (Pass.setSize w h)))) :
    Act.Keeps I (setSize width height) := by
  have putInput (p : Pipeline P) (x : Surface) : Act.Brings
      (fun y => (∃ w h, x = { p.input with width := w, height := h }) ∧ y.1 = p ∧ I y)
      (fun _ y => y.1 = { p with input := x } ∧ I y) I
      (modify fun y => ({ y.1 with input := x }, y.2)) := by
    refine Act.brings_modify ?_
    rintro ⟨_, s⟩ ⟨⟨w, h, rfl⟩, rfl, hI⟩
    exact ⟨rfl, input _ s w h hI⟩
  have putOutput (p : Pipeline P) (x : Surface) : Act.Brings
      (fun y => (∃ w h, x = { p.output with width := w, height := h }) ∧ y.1 = p ∧ I y)
      (fun _ => I) I (modify fun y => ({ y.1 with output := x }, y.2)) := by
    refine Act.brings_modify ?_
    rintro ⟨_, s⟩ ⟨⟨w, h, rfl⟩, rfl, hI⟩
    exact output _ s w h hI
  have got : Act.Brings I (fun x y => y.1 = x.1 ∧ I y) I (get : Act (Pipeline P × Stage ω) _) :=
    Act.brings_get fun _ h => ⟨rfl, h⟩
  unfold setSize
  refine keeps_checkAlive.bind fun _ => ?_
  refine Act.Keeps.bind (Act.keeps_modify fun x h => screen x.1 x.2 h) fun _ => ?_
  refine Act.Brings.after (got.bind fun x => ?_)
  refine (brings_resizeSurface (resize x.1 x.1.input _ _)).bind fun resized => ?_
  refine (putInput x.1 resized).bind fun _ => ?_
  refine (brings_resizeSurface (resize _ x.1.output _ _)).bind fun resized' => ?_
  exact (putOutput { x.1 with input := resized } resized').bind fun _ => (passes _ _).brings

/-- What is kept when the depth texture is deleted, the images are made anew, and a depth texture is
created; in between, `J` holds. -/
theorem keeps_reset {J : Pipeline P × Stage ω → Prop} (weaken : ∀ {x}, J x → I x)
    (delete : ∀ p s, I (p, s) → J (p.deleteDepthTexture s))
    (images : ∀ p s, J (p, s) → J
      ({ p with
          input := (createImages p.config s.device).1.1
          output := (createImages p.config s.device).1.2 },
        { s with
          device := ((createImages p.config s.device).2.disposeSurface p.input).disposeSurface
            p.output }))
    (create : ∀ p s, J (p, s) → I (p.createDepthTexture s))
    (clock : ∀ p s timer, I (p, s) → I ({ p with timer }, s)) : Act.Keeps I reset := by
  unfold reset
  refine keeps_checkAlive.bind fun _ => Act.keeps_get.bind fun x => ?_
  refine Act.Leads.bind (J := J) (fun y h => delete y.1 y.2 h) weaken fun _ => ?_
  refine Act.Leads.bind (J := J) (fun y h => images y.1 y.2 h) weaken fun _ => ?_
  refine Act.Leads.bind (J := I) (fun y h => ?_) id fun _ => ?_
  · change I (if _ then y.1.createDepthTexture y.2 else y)
    split
    · exact create y.1 y.2 h
    · exact weaken h
  · exact Act.keeps_modify fun y h => clock y.1 y.2 _ h

/-- What is kept when the clock is read, when the depth texture and the pass for the screen are
settled, and by the turns of the passes. -/
theorem keeps_render {delta : FrameDelta} (clock : ∀ p s timer, I (p, s) → I ({ p with timer }, s))
    (update : ∀ p s, I (p, s) → I (p.updateDepthTexture s))
    (present : ∀ p s, I (p, s) → I (p.presentLast, s))
    (turns : ∀ p s seconds f, I (p, s) →
      Act.Keeps I (onPasses (Act.foldEach (FrameState.next p.copy seconds) f))) :
    Act.Keeps I (render delta) := by
  have timed : Act.Keeps I (takeDelta delta : Act (Pipeline P × Stage ω) Float32) := by
    rintro ⟨p, s⟩ h
    cases delta with
    | seconds => exact h
    | clock => exact clock p s _ h
  unfold render
  refine keeps_checkAlive.bind fun _ => timed.bind fun seconds => ?_
  refine Act.Keeps.bind (Act.keeps_modify fun x h => update x.1 x.2 h) fun _ => ?_
  refine Act.Keeps.bind (Act.keeps_modify fun x h => present x.1 x.2 h) fun _ => ?_
  refine Act.keeps_get_bind fun x h => ?_
  exact (turns x.1 x.2 seconds _ h).bind fun _ => Act.keeps_pure _

end Whole

/-! ## Before the first call -/

section Settle

variable {κ : Type} {key : P → κ}
  (kept : ∀ q t (s : Shared ω), key (Pass.setDepthTexture q t .basic s).1 = key q)

include kept

theorem map_shareDepthTexture (p : Pipeline P) (t : Option Texture) (s : Stage ω) :
    (p.shareDepthTexture t s).1.passes.map key = p.passes.map key :=
  map_threadList (fun q s => kept q t s) p.passes s.toShared

theorem map_updateDepthTexture (p : Pipeline P) (s : Stage ω) :
    (p.updateDepthTexture s).1.passes.map key = p.passes.map key := by
  unfold updateDepthTexture
  split
  · exact map_shareDepthTexture kept _ _ _
  · unfold deleteDepthTexture
    cases p.depthTexture with
    | none => rfl
    | some t => exact map_shareDepthTexture kept _ _ _
  · rfl

end Settle

theorem map_sendLastToScreen {κ : Type} {key : P → κ} (kept : ∀ q b, key (sendToScreen q b) = key q)
    (qs : List P) : (sendLastToScreen qs).map key = qs.map key := by
  induction qs with
  | nil => rfl
  | cons q qs ih => rw [sendLastToScreen, List.map_cons, List.map_cons, kept, ih]

theorem map_presentLast {κ : Type} {key : P → κ} (kept : ∀ q b, key (sendToScreen q b) = key q)
    (p : Pipeline P) : p.presentLast.passes.map key = p.passes.map key := by
  unfold presentLast
  split
  · exact map_sendLastToScreen kept p.passes
  · rfl

theorem forall_mem_sendLastToScreen {A : P → Prop} (kept : ∀ q b, A q → A (sendToScreen q b))
    {qs : List P} (h : ∀ q ∈ qs, A q) : ∀ q ∈ sendLastToScreen qs, A q := by
  induction qs with
  | nil => exact h
  | cons q qs ih =>
    obtain ⟨hq, hqs⟩ := List.forall_mem_cons.1 h
    rw [sendLastToScreen]
    exact List.forall_mem_cons.2 ⟨kept q _ hq, ih hqs⟩

/-- From `d` to `d'` nothing was drawn, and the draw state is what it was. -/
structure Undrawn (d d' : Device) : Prop where
  recorded : d.Recorded (·.painted? = none) d'
  stencil : d'.stencil = d.stencil
  writeMask : d'.writeMask = d.writeMask

theorem Undrawn.refl (d : Device) : Undrawn d d := ⟨.refl _ d, rfl, rfl⟩

theorem Undrawn.trans {d₀ d₁ d₂ : Device} (h : Undrawn d₀ d₁) (h' : Undrawn d₁ d₂) :
    Undrawn d₀ d₂ :=
  ⟨h.recorded.trans h'.recorded, h'.stencil.trans h.stencil, h'.writeMask.trans h.writeMask⟩

theorem undrawn_record {d d' : Device} {c : Command} (hc : c.painted? = none)
    (journal : d'.journal = d.journal.push c) (stencil : d'.stencil = d.stencil)
    (writeMask : d'.writeMask = d.writeMask) : Undrawn d d' :=
  ⟨⟨[c], by rw [journal, Array.toList_push], by simpa using hc⟩, stencil, writeMask⟩

theorem undrawn_detachDepth (t : Texture) (x : Surface) (d : Device) :
    Undrawn d (detachDepth t x d).2 := by
  unfold detachDepth
  split
  · exact undrawn_record (c := .attachDepth x.id none) rfl rfl rfl rfl
  · exact .refl d

theorem undrawn_disposeTexture (t : Texture) (d : Device) : Undrawn d (d.disposeTexture t) := by
  unfold Device.disposeTexture
  split
  · exact undrawn_record (c := .disposeTexture t) rfl rfl rfl rfl
  · exact .refl d

theorem detachDepth_eq (t : Texture) (x : Surface) (d : Device) :
    ∃ a, (detachDepth t x d).1 = { x with depthTexture := a } := by
  unfold detachDepth
  split
  · exact ⟨none, rfl⟩
  · exact ⟨x.depthTexture, rfl⟩

/-- The pipelines and the stages agree in all that the calls of a frame depend on, apart from the
passes. -/
structure Settled (p p' : Pipeline P) (s s' : Stage ω) : Prop where
  config : p'.config = p.config
  copy : p'.copy = p.copy
  input : ∃ a, p'.input = { p.input with depthTexture := a }
  output : ∃ a, p'.output = { p.output with depthTexture := a }
  undrawn : Undrawn s.device s'.device

theorem settled_createDepthTexture (p : Pipeline P) (s : Stage ω) :
    Settled p (p.createDepthTexture s).1 s (p.createDepthTexture s).2 where
  config := rfl
  copy := rfl
  input := ⟨_, rfl⟩
  output := ⟨_, rfl⟩
  undrawn := by
    have made : Undrawn s.device
        (s.device.createDepthTexture p.input.width p.input.height).2 :=
      undrawn_record (c := .createTexture (s.device.createDepthTexture p.input.width
        p.input.height).1 (max 1 p.input.width) (max 1 p.input.height)) rfl rfl rfl rfl
    exact made.trans (undrawn_record (c := .attachDepth p.input.id _) rfl rfl rfl rfl)

theorem settled_deleteDepthTexture (p : Pipeline P) (s : Stage ω) :
    Settled p (p.deleteDepthTexture s).1 s (p.deleteDepthTexture s).2 := by
  unfold deleteDepthTexture
  cases p.depthTexture with
  | none => exact ⟨rfl, rfl, ⟨_, rfl⟩, ⟨_, rfl⟩, .refl _⟩
  | some t =>
    exact {
      config := rfl
      copy := rfl
      input := detachDepth_eq t p.input _
      output := detachDepth_eq t p.output _
      undrawn := ((undrawn_detachDepth t p.input _).trans (undrawn_detachDepth t p.output _)).trans
        (undrawn_disposeTexture t _) }

theorem settled_settle (delta : FrameDelta) (p : Pipeline P) (s : Stage ω) :
    Settled p (settle delta p s).1 s (settle delta p s).2 := by
  unfold settle updateDepthTexture
  split
  · exact { settled_createDepthTexture _ s with }
  · exact { settled_deleteDepthTexture _ s with }
  · exact ⟨rfl, rfl, ⟨_, rfl⟩, ⟨_, rfl⟩, .refl _⟩

/-- Passes that lose no uniform when they are handed a depth texture lose none before a frame. -/
theorem size_settle (grows : ∀ (q : P) t (s : Shared ω), s.uniforms.cells.size ≤
      (Pass.setDepthTexture q t .basic s).2.uniforms.cells.size)
    (delta : FrameDelta) (p : Pipeline P) (s : Stage ω) :
    s.uniforms.cells.size ≤ (settle delta p s).2.uniforms.cells.size := by
  have share (p : Pipeline P) (t : Option Texture) (u : Stage ω)
      (hu : s.uniforms.cells.size ≤ u.uniforms.cells.size) :
      s.uniforms.cells.size ≤ (p.shareDepthTexture t u).2.uniforms.cells.size :=
    keeps_threadList (I := fun v : Shared ω => s.uniforms.cells.size ≤ v.uniforms.cells.size)
      (fun q v hv => Nat.le_trans hv (grows q t v)) p.passes hu
  unfold settle updateDepthTexture
  split
  · exact share _ _ _ (Nat.le_refl _)
  · unfold deleteDepthTexture
    split
    · exact Nat.le_refl _
    · exact share _ _ _ (Nat.le_refl _)
  · exact Nat.le_refl _

/-! ## Calls -/

/-- The passes of a frame, as they are when it begins to render. -/
def framePasses (delta : FrameDelta) (p : Pipeline P) (s : Stage ω) : List P :=
  (settle delta p s).1.presentLast.passes

theorem map_framePasses {κ : Type} {key : P → κ}
    (keptBySharing : ∀ q t (s : Shared ω), key (Pass.setDepthTexture q t .basic s).1 = key q)
    (keptBySending : ∀ q b, key (sendToScreen q b) = key q) (delta : FrameDelta) (p : Pipeline P)
    (s : Stage ω) : (framePasses delta p s).map key = p.passes.map key := by
  have settled : (settle delta p s).1.passes.map key = p.passes.map key :=
    map_updateDepthTexture keptBySharing _ s
  exact (map_presentLast keptBySending _).trans settled

/-- What the passes are, whatever their depth texture and their way to the screen, they are in a
frame. -/
theorem forall_mem_framePasses {A : P → Prop}
    (keptBySharing : ∀ q t (s : Shared ω), A (Pass.setDepthTexture q t .basic s).1 = A q)
    (keptBySending : ∀ q b, A (sendToScreen q b) = A q) (delta : FrameDelta) {p : Pipeline P}
    {s : Stage ω} (h : ∀ q ∈ p.passes, A q) : ∀ q ∈ framePasses delta p s, A q :=
  forall_mem_of_map_eq (map_framePasses keptBySharing keptBySending delta p s) h

/-- What a frame finds when its first pass is rendered: the depth texture is settled, and so is the
pass for the screen. -/
def frameStart (delta : FrameDelta) (p : Pipeline P) (s : Stage ω) : Pipeline P × Stage ω :=
  ((settle delta p s).1.presentLast, (settle delta p s).2)

/-- A frame, from its first pass on. -/
def renderPasses (delta : Float32) : Act (Pipeline P × Stage ω) FrameReport := do
  let (p, _) ← get
  let f ← onPasses
    (Act.foldEach (FrameState.next p.copy delta) { input := p.input, output := p.output })
  return f.report

omit [Pass P ω] in
/-- A pipeline that has not come to its end goes on. -/
theorem checkAlive_bind {α : Type} {x : Pipeline P × Stage ω} (alive : x.1.disposed = false)
    (next : Unit → Act (Pipeline P × Stage ω) α) : (checkAlive >>= next) x = next () x := by
  have checked : (checkAlive : Act (Pipeline P × Stage ω) Unit) x = .ok () x := by
    unfold checkAlive
    rw [Act.get_bind_apply, alive]
    rfl
  exact Act.bind_of_eq_ok checked next

theorem render_eq_renderPasses {p : Pipeline P} (alive : p.disposed = false) (delta : FrameDelta)
    (s : Stage ω) :
    render delta (p, s) = renderPasses (readDelta p.timer delta).1 (frameStart delta p s) := by
  unfold render
  rw [checkAlive_bind alive]
  cases delta <;> rfl

theorem render_of_disposed {x : Pipeline P × Stage ω} (disposed : x.1.disposed = true)
    (delta : FrameDelta) : render delta x = .error (.disposed "EffectComposer") x := by
  unfold render
  rw [Act.bind_apply, checkAlive_of_disposed disposed]

/-- A frame leaves the stage as the turns of its passes leave it. -/
theorem stage_after_render {x : Pipeline P × Stage ω} (alive : x.1.disposed = false)
    (delta : FrameDelta) :
    ((render delta).after x).2 =
      ((Act.foldEach (FrameState.next (settle delta x.1 x.2).1.copy (readDelta x.1.timer delta).1)
        { input := (settle delta x.1 x.2).1.input, output := (settle delta x.1 x.2).1.output }).after
        (framePasses delta x.1 x.2, (settle delta x.1 x.2).2)).2 := by
  have rendered : render delta x = renderPasses (readDelta x.1.timer delta).1
      ({ (settle delta x.1 x.2).1 with passes := framePasses delta x.1 x.2 },
        (settle delta x.1 x.2).2) := by
    have started := render_eq_renderPasses alive delta x.2
    unfold frameStart at started
    rwa [presentLast_eq] at started
  have after : (render delta).after x = ((onPasses (Act.foldEach
        (FrameState.next (settle delta x.1 x.2).1.copy (readDelta x.1.timer delta).1)
        { input := (settle delta x.1 x.2).1.input, output := (settle delta x.1 x.2).1.output })
      >>= fun f => pure f.report : Act _ FrameReport).after
      ({ (settle delta x.1 x.2).1 with passes := framePasses delta x.1 x.2 },
        (settle delta x.1 x.2).2)) := by
    unfold Act.after
    rw [rendered]
    rfl
  rw [after, Act.after_bind_pure]
  unfold onPasses
  rw [Act.after_within]

/-- The turns of some passes, from the beginning of a frame on. -/
def runTurns (delta : FrameDelta) (p : Pipeline P) (s : Stage ω) (qs : List P) :
    EStateM.Result Fault (List P × Stage ω) FrameState :=
  Act.foldEach (FrameState.next (settle delta p s).1.copy (readDelta p.timer delta).1)
    { input := (settle delta p s).1.input, output := (settle delta p s).1.output }
    (qs, (settle delta p s).2)

/-- In a frame that begins with `p` on `s`, the pass `q` is called on the stage `t`, with the frame
state `f`. -/
def Calls (delta : FrameDelta) (p : Pipeline P) (s : Stage ω) (q : P) (f : FrameState)
    (t : Stage ω) : Prop :=
  (Pass.flags q).enabled = true ∧ (Pass.flags q).disposed = false ∧
    ∃ pre post rs, framePasses delta p s = pre ++ q :: post ∧
      runTurns delta p s pre = .ok f (rs, t)

section Calls

variable {delta : FrameDelta} {p : Pipeline P} {s : Stage ω} {J : FrameState → Stage ω → Prop}
  (start : J { input := (settle delta p s).1.input, output := (settle delta p s).1.output }
    (settle delta p s).2)

include start

/-- What holds at the beginning and is kept by each turn before a call holds at the call. -/
theorem of_calls {q : P} {f : FrameState} {t : Stage ω} (h : Calls delta p s q f t)
    (step : ∀ pre post, framePasses delta p s = pre ++ q :: post → ∀ r ∈ pre, ∀ f t f' r' t',
      J f t → FrameState.next (settle delta p s).1.copy (readDelta p.timer delta).1 f (r, t) =
        .ok f' (r', t') → J f' t') : J f t := by
  obtain ⟨-, -, pre, post, rs, hq, ht⟩ := h
  exact Act.of_foldEach_eq_ok (step pre post hq) ht start

/-- What holds at the beginning and is kept by each turn holds at the end. -/
theorem of_render_eq_ok {report : FrameReport} {p' : Pipeline P} {s' : Stage ω}
    (h : render delta (p, s) = .ok report (p', s'))
    (step : ∀ r ∈ framePasses delta p s, ∀ f t f' r' t', J f t →
      FrameState.next (settle delta p s).1.copy (readDelta p.timer delta).1 f (r, t) =
        .ok f' (r', t') → J f' t') : ∃ f, report = f.report ∧ J f s' := by
  obtain ⟨f, qs, rfl, -, ht⟩ := render_eq_ok h
  exact ⟨f, rfl, Act.of_foldEach_eq_ok step ht start⟩

end Calls

/-- A frame that ends well calls every enabled pass. -/
theorem exists_calls_of_render {delta : FrameDelta} {p p' : Pipeline P} {s s' : Stage ω}
    {report : FrameReport} (h : render delta (p, s) = .ok report (p', s')) {q : P}
    (hq : q ∈ framePasses delta p s) (enabled : (Pass.flags q).enabled = true) :
    ∃ f t, Calls delta p s q f t := by
  obtain ⟨f, qs, -, -, ht⟩ := render_eq_ok h
  obtain ⟨pre, post, hp⟩ := List.append_of_mem hq
  unfold framePasses at hp
  rw [hp] at ht
  obtain ⟨f₁, rs, t₁, _, hpre, hpost, -⟩ := Act.foldEach_append_eq_ok.1 ht
  obtain ⟨f₂, q', t₂, _, hn, -, -⟩ := Act.foldEach_cons_eq_ok.1 hpost
  exact ⟨f₁, t₁, enabled, FrameState.disposed_of_next hn enabled, pre, post, rs, hp, hpre⟩

/-- The pipeline with more passes at the end of its list, as far as they can join. -/
def addAll (qs : List P) (x : Pipeline P × Stage ω) : Pipeline P × Stage ω :=
  qs.foldl (fun (p, s) q => ((p.add q none s).pipeline, (p.add q none s).stage)) x

end Pipeline

end ScreenEffects
