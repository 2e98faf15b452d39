import ScreenEffects.Proofs.Act
import ScreenEffects.Stage

/-!
# What the device records

A pass shows in the journal of the device by the commands it leaves there. `Device.Draws T d₀ d` says
what happened from `d₀` to `d`: the draw state is what it was, and all that was drawn was drawn with
this state, into the targets of the list `T`. A draw needs a target first, so the acts that draw keep
this together with a target of `T` (`Aims`).

* `Command.painted?` : the surface whose colours a command writes.
* `keeps_drawScene`, `keeps_drawScreen` : what a draw records, failed or not.
* `drawInto_eq_ok` : what a draw over a target records if it ends well.
-/

namespace ScreenEffects

/-! ## Commands -/

namespace Command

/-- The command draws, if it does, with the given state into one of the targets. Clears and programs
are recorded without the write mask: they write no colours while these are closed. -/
def Fits (stencil : Stencil) (mask : WriteMask) (targets : List (Option SurfaceId)) :
    Command → Prop
  | .clear target flags => target ∈ targets ∧ (flags.color = true → mask.color = true)
  | .drawScene target _ _ _ σ μ => target ∈ targets ∧ σ = stencil ∧ μ = mask
  | .drawScreen target _ σ _ => target ∈ targets ∧ σ = stencil ∧ mask.color = true
  | _ => True

/-- The surface whose colours the command writes. -/
def painted? : Command → Option SurfaceId
  | .clear target flags => if flags.color then target else none
  | .drawScene target _ _ _ _ mask => if mask.color then target else none
  | .drawScreen target _ _ _ => target
  | _ => none

theorem Fits.of_painted? {stencil : Stencil} {mask : WriteMask}
    {targets : List (Option SurfaceId)} {c : Command} (h : c.Fits stencil mask targets)
    {x : SurfaceId} (hx : c.painted? = some x) : some x ∈ targets ∧ mask.color = true := by
  cases c with
  | clear target flags =>
    rw [painted?] at hx
    split at hx
    · exact ⟨hx ▸ h.1, h.2 ‹_›⟩
    · cases hx
  | drawScene target _ _ _ _ mask =>
    obtain ⟨ht, -, rfl⟩ := h
    rw [painted?] at hx
    split at hx
    · exact ⟨hx ▸ ht, ‹_›⟩
    · cases hx
  | drawScreen target _ _ _ => exact ⟨hx ▸ h.1, h.2.2⟩
  | _ => cases hx

end Command

/-! ## The device -/

namespace Device

/-- Since `d₀`, the device recorded commands of the kind `Φ` and no others. -/
def Recorded (Φ : Command → Prop) (d₀ d : Device) : Prop :=
  ∃ commands, d.journal.toList = d₀.journal.toList ++ commands ∧ ∀ c ∈ commands, Φ c

theorem Recorded.refl (Φ : Command → Prop) (d : Device) : Recorded Φ d d :=
  ⟨[], (List.append_nil _).symm, fun _ hc => absurd hc List.not_mem_nil⟩

theorem Recorded.trans {Φ : Command → Prop} {d₀ d₁ d₂ : Device} (h : Recorded Φ d₀ d₁)
    (h' : Recorded Φ d₁ d₂) : Recorded Φ d₀ d₂ := by
  obtain ⟨cs, hj, hc⟩ := h
  obtain ⟨cs', hj', hc'⟩ := h'
  refine ⟨cs ++ cs', by rw [hj', hj, List.append_assoc], fun c hm => ?_⟩
  exact (List.mem_append.1 hm).elim (hc c) (hc' c)

theorem Recorded.mono {Φ Ψ : Command → Prop} {d₀ d : Device} (h : Recorded Φ d₀ d)
    (hi : ∀ c, Φ c → Ψ c) : Recorded Ψ d₀ d := by
  obtain ⟨cs, hj, hc⟩ := h
  exact ⟨cs, hj, fun c hm => hi c (hc c hm)⟩

theorem recorded_record {Φ : Command → Prop} (d : Device) {c : Command} (h : Φ c) :
    Recorded Φ d (d.record c) :=
  ⟨[c], Array.toList_push, by simpa using h⟩

/-- Since `d₀`, all that the device drew was drawn into some of the targets with the draw state of
`d₀`, which it still has. -/
structure Draws (targets : List (Option SurfaceId)) (d₀ d : Device) : Prop where
  recorded : Recorded (Command.Fits d₀.stencil d₀.writeMask targets) d₀ d
  stencil : d.stencil = d₀.stencil
  writeMask : d.writeMask = d₀.writeMask

section Draws

variable {targets : List (Option SurfaceId)} {d₀ d : Device}

theorem Draws.refl (targets : List (Option SurfaceId)) (d : Device) : Draws targets d d :=
  ⟨.refl _ d, rfl, rfl⟩

/-- What leaves the journal and the draw state alone can be left out of account. -/
theorem Draws.of_eq {d' : Device} (h : Draws targets d₀ d) (journal : d'.journal = d.journal)
    (stencil : d'.stencil = d.stencil) (writeMask : d'.writeMask = d.writeMask) :
    Draws targets d₀ d' := by
  obtain ⟨⟨cs, hj, hc⟩, hs, hw⟩ := h
  exact ⟨⟨cs, by rw [journal, hj], hc⟩, stencil.trans hs, writeMask.trans hw⟩

theorem Draws.record (h : Draws targets d₀ d) {c : Command}
    (hc : c.Fits d₀.stencil d₀.writeMask targets) : Draws targets d₀ (d.record c) :=
  ⟨h.recorded.trans (recorded_record d hc), h.stencil, h.writeMask⟩

theorem Draws.setTarget (h : Draws targets d₀ d) (target : Option SurfaceId) :
    Draws targets d₀ (d.setTarget target) :=
  have aimed : Draws targets d₀ { d with target } := h.of_eq rfl rfl rfl
  aimed.record trivial

/-- A target of the list is chosen, and what was drawn so far was drawn as the list says. -/
def Aims (targets : List (Option SurfaceId)) (d₀ d : Device) : Prop :=
  Draws targets d₀ d ∧ d.target ∈ targets

theorem Draws.aims_setTarget (h : Draws targets d₀ d) {target : Option SurfaceId}
    (ht : target ∈ targets) : Aims targets d₀ (d.setTarget target) :=
  ⟨h.setTarget target, ht⟩

theorem Aims.clear (h : Aims targets d₀ d) {flags : ClearFlags}
    (hc : flags.color = true → d₀.writeMask.color = true) (values : ClearValues) :
    Aims targets d₀ (d.clear flags values) := by
  unfold Device.clear
  split
  · exact ⟨h.1.record ⟨h.2, hc⟩, h.2⟩
  · exact h

theorem keeps_checkDraw : Act.Keeps (Aims targets d₀) checkDraw := by
  intro d h
  unfold Act.after checkDraw
  cases d.failNext with
  | none => exact h
  | some reason => exact ⟨h.1.of_eq rfl rfl rfl, h.2⟩

theorem keeps_drawScene (scene : Scene) (camera : Camera) (override : Option DepthPacking) :
    Act.Keeps (Aims targets d₀) (drawScene scene camera override) :=
  keeps_checkDraw.bind fun _ => Act.keeps_modify fun _ h =>
    ⟨h.1.record ⟨h.2, h.1.stencil, h.1.writeMask⟩, h.2⟩

theorem keeps_drawScreen (colour : d₀.writeMask.color = true) (geometry : Geometry)
    (program : ShaderProgram) (uniforms : UniformStore) :
    Act.Keeps (Aims targets d₀) (drawScreen geometry program uniforms) := by
  unfold drawScreen
  refine Act.keeps_get.bind fun d => ?_
  have draw : Act.Keeps (Aims targets d₀) (do
      checkDraw
      modify fun d => d.record
        (.drawScreen d.target program.label d.stencil (program.uniformBytes uniforms))) :=
    keeps_checkDraw.bind fun _ => Act.keeps_modify fun _ h =>
      ⟨h.1.record ⟨h.2, h.1.stencil, colour⟩, h.2⟩
  by_cases hg : geometry ∉ d.geometries
  · rw [if_pos hg]
    exact (Act.keeps_throw _).bind fun _ => draw
  · rw [if_neg hg]
    exact draw

end Draws

/-- The last command since `d₀` drew a program over the screen into `target`. -/
def EndsOn (target : Option SurfaceId) (d₀ d : Device) : Prop :=
  ∃ before label bytes, d.journal.toList =
    d₀.journal.toList ++ before ++ [.drawScreen target label d₀.stencil bytes]

theorem Draws.endsOn {targets : List (Option SurfaceId)} {target : Option SurfaceId}
    {d₀ d₁ d₂ : Device} (h : Draws targets d₀ d₁) (h' : EndsOn target d₁ d₂) :
    EndsOn target d₀ d₂ := by
  obtain ⟨cs, hj, -⟩ := h.recorded
  obtain ⟨before, label, bytes, hj'⟩ := h'
  exact ⟨cs ++ before, label, bytes, by rw [hj', hj, h.stencil, List.append_assoc _ cs]⟩

theorem checkDraw_eq_ok {d d' : Device} {a : Unit} (h : checkDraw d = .ok a d') : d' = d := by
  unfold checkDraw at h
  cases hf : d.failNext with
  | none =>
    rw [hf] at h
    cases h
    rfl
  | some reason =>
    rw [hf] at h
    cases h

theorem drawScreen_eq_ok {geometry : Geometry} {program : ShaderProgram}
    {uniforms : UniformStore} {d d' : Device} {a : Unit}
    (h : drawScreen geometry program uniforms d = .ok a d') :
    d' = d.record (.drawScreen d.target program.label d.stencil
      (program.uniformBytes uniforms)) := by
  unfold drawScreen at h
  rw [Act.get_bind_apply] at h
  by_cases hg : geometry ∉ d.geometries
  · simp only [if_pos hg, Act.bind_eq_ok] at h
    obtain ⟨_, _, h, -⟩ := h
    exact absurd h Act.throw_ne_ok
  · simp only [if_neg hg, Act.bind_eq_ok, Act.modify_eq_ok] at h
    obtain ⟨_, x, hc, rfl⟩ := h
    rw [checkDraw_eq_ok hc]

/-! ## Screen draws -/

theorem screenDraws_congr {d d' : Device} (h : d'.journal = d.journal) :
    d'.screenDraws = d.screenDraws := by
  unfold screenDraws
  rw [h]

theorem screenDraws_record {d d' : Device} {c : Command} (h : d'.journal = d.journal.push c) :
    d'.screenDraws = d.screenDraws ++ [c].filter (·.isScreenDraw) := by
  unfold screenDraws
  rw [h, Array.toList_push, List.filter_append]

theorem screenDraws_of_silent {d d' : Device} {c : Command} (silent : c.isScreenDraw = false)
    (h : d'.journal = d.journal.push c) : d'.screenDraws = d.screenDraws := by
  rw [screenDraws_record h, List.filter_cons, silent]
  exact List.append_nil _

theorem journal_of_drawScreen_eq_error {geometry : Geometry} {program : ShaderProgram}
    {uniforms : UniformStore} {d d' : Device} {e : Fault}
    (h : drawScreen geometry program uniforms d = .error e d') : d'.journal = d.journal := by
  unfold drawScreen at h
  rw [Act.get_bind_apply] at h
  by_cases hg : geometry ∉ d.geometries
  · simp only [if_pos hg, Act.bind_eq_error] at h
    rcases h with h | ⟨_, _, h, -⟩
    · cases h
      rfl
    · exact absurd h Act.throw_ne_ok
  · simp only [if_neg hg, Act.bind_eq_error] at h
    rcases h with h | ⟨_, _, -, h⟩
    · unfold checkDraw at h
      split at h <;> cases h
      rfl
    · cases h

end Device

/-! ## The stage -/

namespace Stage

variable {ω α : Type}

theorem after_onDevice (act : Act Device α) (s : Stage ω) :
    (onDevice act).after s = { s with device := act.after s.device } := by
  cases h : act s.device <;> simp only [Act.after, onDevice, h]

theorem onDevice_eq_ok {act : Act Device α} {a : α} {s t : Stage ω} :
    onDevice act s = .ok a t ↔
      ∃ d, act s.device = .ok a d ∧ t = { s with device := d } := by
  cases h : act s.device with
  | ok b d =>
    simp only [onDevice, h, EStateM.Result.ok.injEq]
    constructor
    · rintro ⟨rfl, rfl⟩
      exact ⟨d, ⟨rfl, rfl⟩, rfl⟩
    · rintro ⟨_, ⟨rfl, rfl⟩, rfl⟩
      exact ⟨rfl, rfl⟩
  | error e d => simp [onDevice, h]

theorem onDevice_eq_error {act : Act Device α} {e : Fault} {s t : Stage ω} :
    onDevice act s = .error e t ↔
      ∃ d, act s.device = .error e d ∧ t = { s with device := d } := by
  cases h : act s.device with
  | ok b d => simp [onDevice, h]
  | error e' d =>
    simp only [onDevice, h, EStateM.Result.error.injEq]
    constructor
    · rintro ⟨rfl, rfl⟩
      exact ⟨d, ⟨rfl, rfl⟩, rfl⟩
    · rintro ⟨_, ⟨rfl, rfl⟩, rfl⟩
      exact ⟨rfl, rfl⟩

/-- What `Device.Draws` says of the devices; and no uniform is lost. -/
structure Draws (targets : List (Option SurfaceId)) (s₀ s : Stage ω) : Prop where
  device : s₀.device.Draws targets s.device
  grows : s₀.uniforms.cells.size ≤ s.uniforms.cells.size

variable {targets : List (Option SurfaceId)} {s₀ s : Stage ω}

theorem Draws.refl (targets : List (Option SurfaceId)) (s : Stage ω) : Draws targets s s :=
  ⟨.refl _ _, Nat.le_refl _⟩

theorem Draws.setUniform (h : Draws targets s₀ s) (u : Uniform) (v : UniformValue) :
    Draws targets s₀ (s.setUniform u v) where
  device := h.device
  grows := (s.uniforms.size_set u v).symm ▸ h.grows

/-- Choose a target and go on. -/
theorem keeps_setTarget_bind {target : Option SurfaceId} (ht : target ∈ targets)
    {act : Act (Stage ω) α}
    (h : Act.Keeps (fun s => Draws targets s₀ s ∧ s.device.target ∈ targets) act) :
    Act.Keeps (Draws targets s₀) (do
      modify (·.mapDevice (·.setTarget target))
      act) := fun s hs =>
  (h (s.mapDevice (·.setTarget target)) ⟨⟨hs.device.setTarget target, hs.grows⟩, ht⟩).1

theorem keeps_drawScreen (colour : s₀.device.writeMask.color = true) (geometry : Geometry)
    (program : ShaderProgram) :
    Act.Keeps (fun s => Draws targets s₀ s ∧ s.device.target ∈ targets)
      (drawScreen geometry program : Act (Stage ω) Unit) := by
  intro s h
  have e : (drawScreen geometry program : Act (Stage ω) Unit).after s =
      { s with device := (Device.drawScreen geometry program s.uniforms).after s.device } :=
    after_onDevice (Device.drawScreen geometry program s.uniforms) s
  have hd := Device.keeps_drawScreen colour geometry program s.uniforms s.device
    ⟨h.1.device, h.2⟩
  rw [e]
  exact ⟨⟨hd.1, h.1.grows⟩, hd.2⟩

/-- Choose a target and draw a program over it. -/
def drawInto (target : Option SurfaceId) (geometry : Geometry) (program : ShaderProgram) :
    Act (Stage ω) Unit := do
  modify fun s => s.mapDevice (·.setTarget target)
  drawScreen geometry program

section Into

variable {target : Option SurfaceId} {geometry : Geometry} {program : ShaderProgram}

theorem keeps_drawInto (colour : s₀.device.writeMask.color = true) (ht : target ∈ targets) :
    Act.Keeps (Draws targets s₀) (drawInto target geometry program) :=
  keeps_setTarget_bind ht (keeps_drawScreen colour geometry program)

theorem drawInto_eq_ok {s t : Stage ω} {a : Unit}
    (h : drawInto target geometry program s = .ok a t) :
    t = s.mapDevice fun d => (d.setTarget target).record
      (.drawScreen target program.label d.stencil (program.uniformBytes s.uniforms)) := by
  unfold drawInto at h
  rw [Act.bind_eq_ok] at h
  obtain ⟨_, u, hu, h⟩ := h
  obtain rfl := Act.modify_eq_ok.1 hu
  obtain ⟨d, hd, rfl⟩ := onDevice_eq_ok.1 h
  rw [Device.drawScreen_eq_ok hd]
  rfl

theorem endsOn_of_drawInto {s t : Stage ω} {a : Unit}
    (h : drawInto target geometry program s = .ok a t) : s.device.EndsOn target t.device := by
  rw [drawInto_eq_ok h]
  refine ⟨[.setTarget target], program.label, program.uniformBytes s.uniforms, ?_⟩
  simp [mapDevice, Device.setTarget, Device.record]

/-- A draw is recorded, unless it fails. -/
theorem screenDraws_after_drawInto (s : Stage ω) :
    ((drawInto target geometry program).after s).device.screenDraws = s.device.screenDraws ++
      if (drawInto target geometry program).fails s then [] else
        [.drawScreen target program.label s.device.stencil (program.uniformBytes s.uniforms)] := by
  have aimed : (s.device.setTarget target).screenDraws = s.device.screenDraws :=
    Device.screenDraws_of_silent (c := .setTarget target) rfl rfl
  unfold Act.after Act.fails
  cases h : drawInto target geometry program s with
  | ok a t =>
    rw [drawInto_eq_ok h]
    exact (Device.screenDraws_record rfl).trans (congrArg (· ++ _) aimed)
  | error e t =>
    have refused : onDevice (Device.drawScreen geometry program s.uniforms)
        (s.mapDevice (·.setTarget target)) = .error e t := h
    obtain ⟨d, hd, rfl⟩ := onDevice_eq_error.1 refused
    have still : d.journal = (s.device.setTarget target).journal :=
      Device.journal_of_drawScreen_eq_error hd
    exact ((Device.screenDraws_congr still).trans aimed).trans (List.append_nil _).symm

end Into

end Stage

end ScreenEffects
