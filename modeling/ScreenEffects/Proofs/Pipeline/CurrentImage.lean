import ScreenEffects.Proofs.Pipeline.Masks

/-!
# The current image

A frame goes back and forth between two surfaces, and calls the one with the current image `input`.
The name is right at every call: of the two surfaces, `input` is the one that was painted last. Each
pass either paints the image where it is and asks for no swap, or ends on a draw into the other
surface and asks for one; what else it paints is its own.

* `lastPainted` : the surface, of some, that a list of commands painted last.
* `ShowsImage.next` : what each turn keeps.
* `input_is_current` : the image is in `input` at every call, and in the surface reported at the end.
-/

namespace ScreenEffects

/-- The surface among `images` that the commands painted last. -/
def lastPainted (images : List SurfaceId) (commands : List Command) : Option SurfaceId :=
  ((commands.filterMap Command.painted?).filter (· ∈ images)).getLast?

theorem lastPainted_append (images : List SurfaceId) (cs ds : List Command) :
    lastPainted images (cs ++ ds) = (lastPainted images ds).or (lastPainted images cs) := by
  unfold lastPainted
  rw [List.filterMap_append, List.filter_append, List.getLast?_append]

theorem exists_of_lastPainted {images : List SurfaceId} {commands : List Command} {x : SurfaceId}
    (h : lastPainted images commands = some x) :
    x ∈ images ∧ ∃ c ∈ commands, c.painted? = some x := by
  have mem := List.mem_of_getLast? h
  rw [List.mem_filter, List.mem_filterMap, decide_eq_true_iff] at mem
  exact ⟨mem.2, mem.1⟩

theorem lastPainted_singleton {images : List SurfaceId} {c : Command} {x : SurfaceId}
    (hc : c.painted? = some x) (hx : x ∈ images) : lastPainted images [c] = some x := by
  simp [lastPainted, hc, hx]

namespace Pipeline

variable {H ω : Type} [EffectHooks H ω] {p : Pipeline (BuiltinPass H)} {s : Stage ω}

/-- The surfaces that belong to a pass are none of the images. -/
def Apart (images : List SurfaceId) (q : BuiltinPass H) : Prop := ∀ x ∈ q.ownSurfaces, x ∉ images

instance (images : List SurfaceId) (q : BuiltinPass H) : Decidable (Apart images q) :=
  inferInstanceAs (Decidable (∀ x ∈ q.ownSurfaces, x ∉ images))

/-- The surfaces that a pass makes when it is set up are none that there were. -/
theorem apart_setUp {images : List SurfaceId} {q : BuiltinPass H} (fresh : q.ownSurfaces = [])
    (old : ∀ x ∈ images, x.id < s.device.nextId) (setup : PassSetup) :
    Apart images (q.setUp setup s).1 := by
  have new {x : SurfaceId} (h : s.device.nextId ≤ x.id) : x ∉ images := fun hx =>
    absurd (old x hx) (Nat.not_lt.2 h)
  have none_of {t : Option Surface} (h : t.toList.map (·.id) = []) : t = none := by
    cases t with
    | none => rfl
    | some t => cases h
  cases q with
  | depth p =>
    have absent : p.surface = none := none_of fresh
    unfold BuiltinPass.setUp DepthPass.setUp
    simp only [absent]
    intro x hx
    obtain rfl := List.mem_singleton.1 hx
    exact new (Nat.le_succ _)
  | save p =>
    have absent : p.surface = none := none_of fresh
    unfold BuiltinPass.setUp SavePass.setUp
    simp only [absent]
    intro x hx
    obtain rfl := List.mem_singleton.1 hx
    exact new (Nat.le_succ _)
  | blur p =>
    have absent : p.surfaces = none := by
      cases hp : p.surfaces with
      | none => rfl
      | some pair =>
        simp only [BuiltinPass.ownSurfaces, hp] at fresh
        cases fresh
    unfold BuiltinPass.setUp BlurPass.setUp
    simp only [absent]
    intro x hx
    rcases List.mem_cons.1 hx with rfl | hx
    · exact new (Nat.le_succ _)
    · obtain rfl := List.mem_singleton.1 hx
      exact new (Nat.le_add_right _ 3)
  | _ => exact fun x hx => absurd hx List.not_mem_nil

/-- The frame state holds the images, and since `s` the one with the current image was painted
last. -/
structure ShowsImage (images : List SurfaceId) (s : Stage ω) (f : FrameState) (t : Stage ω) :
    Prop where
  input : f.input.id ∈ images
  output : f.output.id ∈ images
  writeMask : t.device.writeMask = .all
  shown : ∃ commands, t.device.journal.toList = s.device.journal.toList ++ commands ∧
    ∀ x, lastPainted images commands = some x → x = f.input.id

section Turns

variable {images : List SurfaceId} {q q' : BuiltinPass H} {copy : CopyPass} {delta : Float32}
  {f g : FrameState} {t t' : Stage ω}

omit [EffectHooks H ω] in
theorem ShowsImage.congr (h : ShowsImage images s f t) (input : g.input = f.input)
    (output : g.output = f.output) : ShowsImage images s g t :=
  ⟨input ▸ h.input, output ▸ h.output, h.writeMask, input ▸ h.shown⟩

omit [EffectHooks H ω] in
/-- Commands that paint no image but the current one leave it current. -/
theorem ShowsImage.of_recorded (h : ShowsImage images s f t) (opened : t'.device.writeMask = .all)
    (recorded : t.device.Recorded
      (fun c => ∀ x ∈ images, c.painted? = some x → x = f.input.id) t'.device) :
    ShowsImage images s f t' := by
  obtain ⟨cs, hj, hl⟩ := h.shown
  obtain ⟨ds, hj', hc⟩ := recorded
  refine ⟨h.input, h.output, opened, cs ++ ds, by rw [hj', hj, List.append_assoc], fun x hx => ?_⟩
  rw [lastPainted_append] at hx
  cases hd : lastPainted images ds with
  | none =>
    rw [hd] at hx
    exact hl x hx
  | some y =>
    rw [hd] at hx
    obtain rfl := Option.some.inj hx
    obtain ⟨mem, c, hm, hp⟩ := exists_of_lastPainted hd
    exact hc c hm y mem hp

omit [EffectHooks H ω] in
/-- The last command paints the other image, and the two change their roles. -/
theorem ShowsImage.swap (h : ShowsImage images s f t) (opened : t'.device.writeMask = .all)
    {before after : List Command} {c : Command} (painted : c.painted? = some f.output.id)
    (unpainted : ∀ d ∈ after, d.painted? = none)
    (hj : t'.device.journal.toList = t.device.journal.toList ++ before ++ c :: after) :
    ShowsImage images s f.swap t' := by
  obtain ⟨cs, hs, -⟩ := h.shown
  refine ⟨h.output, h.input, opened, (cs ++ before) ++ ([c] ++ after), ?_, fun x hx => ?_⟩
  · simp [hj, hs]
  have still : lastPainted images after = none := by
    refine Option.eq_none_iff_forall_ne_some.2 fun y hy => ?_
    obtain ⟨-, d, hm, hd⟩ := exists_of_lastPainted hy
    rw [unpainted d hm] at hd
    cases hd
  rw [lastPainted_append, lastPainted_append, still, lastPainted_singleton painted h.output] at hx
  exact (Option.some.inj hx).symm

theorem ShowsImage.next (quiet : QuietHooks H) (own : q.OwnSwap) (apart : Apart images q)
    (hidden : q.flags.enabled = true → q.flags.toScreen = false) (h : ShowsImage images s f t)
    (hn : FrameState.next copy delta f (q, t) = .ok g (q', t')) : ShowsImage images s g t' := by
  rcases FrameState.next_eq_ok hn with ⟨-, rfl, -, rfl⟩ | ⟨enabled, drawn, hr, hc, rfl⟩
  · exact h
  have inside := hidden enabled
  have drew := drew_of_render quiet h.writeMask hr
  obtain ⟨own', screen, role⟩ := BuiltinPass.kept_of_render quiet own hr
  change (if q'.flags.needsSwap && f.masked then
    f.copyOutside copy q'.flags.toScreen drawn = .ok () t' else t' = drawn) at hc
  change ShowsImage images s ((if q'.flags.needsSwap then { f with rendered := f.rendered + 1 }.swap
    else { f with rendered := f.rendered + 1 }).afterRole q'.role) t'
  cases swap : q'.flags.needsSwap with
  | false =>
    rw [swap] at hc
    obtain rfl : t' = drawn := hc
    have painted := BuiltinPass.painted_of_render quiet own h.writeMask hr swap inside
    have same : ShowsImage images s f t' := h.of_recorded drew.writeMask <|
      painted.mono fun c hc x mem hx => (hc x hx).resolve_right fun own => apart x own mem
    cases q'.role <;> exact same.congr rfl rfl
  | true =>
    rw [BuiltinPass.role_eq_regular own' swap]
    obtain ⟨before, label, bytes, hb⟩ := BuiltinPass.endsOn_of_render quiet own h.writeMask hr swap
    rw [inside] at hb
    cases masked : f.masked with
    | false =>
      rw [swap, masked] at hc
      obtain rfl : t' = drawn := hc
      have moved : ShowsImage images s f.swap t' := h.swap drew.writeMask rfl (by simp) hb
      exact moved.congr rfl rfl
    | true =>
      rw [swap, masked, screen, inside] at hc
      obtain ⟨bytes', hj, -, mask, -⟩ := FrameState.copyOutside_eq_ok hc
      let moving : Command := .drawScreen (some f.output.id) label t.device.stencil bytes
      let aiming : List Command := [.setStencil .outsideMask, .setTarget (some f.output.id)]
      let copying : Command :=
        .drawScreen (some f.output.id) copy.shader.program.label .outsideMask bytes'
      have journal : t'.device.journal.toList = t.device.journal.toList ++
          (before ++ moving :: aiming) ++ copying :: [.setStencil .insideMask] := by
        rw [hj, hb]
        simp [moving, aiming, copying]
      have moved : ShowsImage images s f.swap t' :=
        h.swap (mask.trans drew.writeMask) rfl (by simp [Command.painted?]) journal
      exact moved.congr rfl rfl

end Turns

/-! ## Frames -/

theorem flags_setDepthTexture (q : BuiltinPass H) (t : Option Texture) (s : Shared ω) :
    (Pass.setDepthTexture q t .basic s).1.flags = q.flags := by
  cases q <;> rfl

theorem apart_setDepthTexture (images : List SurfaceId) (q : BuiltinPass H) (t : Option Texture)
    (s : Shared ω) : Apart images (Pass.setDepthTexture q t .basic s).1 = Apart images q := by
  cases q <;> rfl

theorem apart_sendToScreen (images : List SurfaceId) (q : BuiltinPass H) (b : Bool) :
    Apart images (sendToScreen q b) = Apart images q := by
  cases q <;> rfl

/-- An enabled pass that is sent to the screen has no enabled pass behind it. -/
def ScreenLast (qs : List (BuiltinPass H)) : Prop :=
  qs.Pairwise fun q r => q.flags.enabled = true → q.flags.toScreen = true → r.flags.enabled = false

instance (qs : List (BuiltinPass H)) : Decidable (ScreenLast qs) :=
  inferInstanceAs (Decidable (qs.Pairwise _))

omit [EffectHooks H ω] in
theorem screenLast_iff_of_map_flags {qs rs : List (BuiltinPass H)}
    (h : qs.map (·.flags) = rs.map (·.flags)) : ScreenLast qs ↔ ScreenLast rs := by
  have e (qs : List (BuiltinPass H)) : ScreenLast qs ↔ (qs.map (·.flags)).Pairwise fun a b =>
      a.enabled = true → a.toScreen = true → b.enabled = false := by
    rw [List.pairwise_map]
    rfl
  rw [e, e, h]

theorem screenLast_sendLastToScreen (qs : List (BuiltinPass H)) :
    ScreenLast (sendLastToScreen qs) := by
  induction qs with
  | nil => exact List.Pairwise.nil
  | cons q qs ih =>
    rw [sendLastToScreen_cons]
    refine List.Pairwise.cons (fun r hr _ screen => ?_) ih
    have last : decide (IsLastEnabled q qs) = true :=
      (congrArg PassFlags.toScreen (keepsFlags_builtinPass q _)).symm.trans screen
    have mem : r.flags.enabled ∈ qs.map fun q => q.flags.enabled :=
      map_enabled_sendLastToScreen keepsFlags_builtinPass qs ▸ List.mem_map_of_mem hr
    obtain ⟨r', hr', e⟩ := List.mem_map.1 mem
    exact e.symm.trans ((of_decide_eq_true last).2 r' hr')

theorem screenLast_framePasses (delta : FrameDelta)
    (last : p.config.autoToScreen = false → ScreenLast p.passes) :
    ScreenLast (framePasses delta p s) := by
  unfold framePasses presentLast
  rw [(settled_settle delta p s).config]
  cases auto : p.config.autoToScreen with
  | true => exact screenLast_sendLastToScreen _
  | false =>
    have flags : (settle delta p s).1.passes.map (·.flags) = p.passes.map (·.flags) :=
      map_updateDepthTexture flags_setDepthTexture _ s
    exact (screenLast_iff_of_map_flags flags).2 (last auto)

/-- **The input is the current image.** -/
theorem input_is_current (quiet : QuietHooks H) {delta : FrameDelta}
    (own : ∀ q ∈ p.passes, q.OwnSwap)
    (apart : ∀ q ∈ p.passes, Apart [p.input.id, p.output.id] q)
    (last : p.config.autoToScreen = false → ScreenLast p.passes)
    (writeMask : s.device.writeMask = .all) :
    (∀ q f t, Calls delta p s q f t →
      ∃ commands, t.device.journal.toList = s.device.journal.toList ++ commands ∧
        ∀ x, lastPainted [p.input.id, p.output.id] commands = some x → x = f.input.id) ∧
    ∀ report p' s', render delta (p, s) = .ok report (p', s') →
      (∀ q ∈ framePasses delta p s, q.flags.enabled = true → q.flags.toScreen = false) →
      ∃ commands, s'.device.journal.toList = s.device.journal.toList ++ commands ∧
        ∀ x, lastPainted [p.input.id, p.output.id] commands = some x → x = report.final := by
  have owns : ∀ r ∈ framePasses delta p s, r.OwnSwap :=
    forall_mem_framePasses BuiltinPass.ownSwap_setDepthTexture BuiltinPass.ownSwap_sendToScreen
      delta own
  have aparts : ∀ r ∈ framePasses delta p s, Apart [p.input.id, p.output.id] r :=
    forall_mem_framePasses (apart_setDepthTexture _) (apart_sendToScreen _) delta apart
  have settled := settled_settle delta p s
  obtain ⟨a, input⟩ := settled.input
  obtain ⟨b, output⟩ := settled.output
  have start : ShowsImage [p.input.id, p.output.id] s
      { input := (settle delta p s).1.input, output := (settle delta p s).1.output }
      (settle delta p s).2 := by
    refine ShowsImage.of_recorded (t := s) ⟨?_, ?_, writeMask, [], ?_, nofun⟩
      (settled.undrawn.writeMask.trans writeMask)
      (settled.undrawn.recorded.mono fun c hc x _ hx => ?_)
    · simp [input]
    · simp [output]
    · simp
    · rw [hc] at hx
      cases hx
  refine ⟨fun q f t h => ?_, fun report p' s' h hidden => ?_⟩
  · have shows : ShowsImage [p.input.id, p.output.id] s f t :=
      of_calls start h fun pre post hp r hr f t f' r' t' hJ hn => by
        have mem : r ∈ framePasses delta p s := hp ▸ List.mem_append_left _ hr
        have before := (List.pairwise_append.1 (hp ▸ screenLast_framePasses delta last)).2.2 r hr q
          List.mem_cons_self
        refine hJ.next quiet (owns r mem) (aparts r mem) (fun enabled => ?_) hn
        cases screen : r.flags.toScreen with
        | false => rfl
        | true => exact absurd (h.1.symm.trans (before enabled screen)) nofun
    exact shows.shown
  · obtain ⟨f, rfl, shows⟩ := of_render_eq_ok start h fun r mem f t f' r' t' hJ hn =>
      hJ.next quiet (owns r mem) (aparts r mem) (hidden r mem) hn
    exact shows.shown

/-- A pipeline of a scene, a pass of effects that is to merge anew, a mask, a copy that moves the
image, and the end of the mask. -/
def sceneInMask : Pipeline (BuiltinPass ProbeHooks) × Stage ProbeLog :=
  let (p, s) := create { autoToScreen := false } { host := #[], device := .ofSize 64 32 }
  let (copy, uniforms) := CopyPass.create s.uniforms
  let (idle, uniforms) : List (BuiltinPass ProbeHooks) × UniformStore :=
    match EffectPass.create none [] {} uniforms with
    | .ok (q, uniforms) => ([.effects q.markDirty], uniforms)
    | .error _ => ([], uniforms)
  addAll (.scene { scene := ⟨1⟩, camera := ⟨1⟩ } :: idle ++
    [.mask { scene := ⟨2⟩, camera := ⟨1⟩ }, .copy copy, .clearMask {}]) (p, { s with uniforms })

/-- The image moves once, in the mask; the copy has painted it last. -/
theorem input_is_current_sceneInMask :
    (sceneInMask.1.passes.map fun q => q.flags.needsSwap) = [false, false, false, true, false] ∧
      ∃ report p' s' commands, render (.seconds 1) sceneInMask = .ok report (p', s') ∧
        s'.device.journal.toList = sceneInMask.2.device.journal.toList ++ commands ∧
        lastPainted [sceneInMask.1.input.id, sceneInMask.1.output.id] commands =
          some sceneInMask.1.output.id ∧
        report.final = sceneInMask.1.output.id := by
  have own : ∀ q ∈ sceneInMask.1.passes, q.OwnSwap := by decide +kernel
  have apart : ∀ q ∈ sceneInMask.1.passes,
      Apart [sceneInMask.1.input.id, sceneInMask.1.output.id] q := by
    decide +kernel
  have last : sceneInMask.1.config.autoToScreen = false → ScreenLast sceneInMask.1.passes := by
    decide +kernel
  have writeMask : sceneInMask.2.device.writeMask = .all := by decide +kernel
  have hidden : ∀ q ∈ framePasses (.seconds 1) sceneInMask.1 sceneInMask.2,
      q.flags.enabled = true → q.flags.toScreen = false := by
    decide +kernel
  have seen : (match render (.seconds 1) sceneInMask with
      | .ok _ x => lastPainted [sceneInMask.1.input.id, sceneInMask.1.output.id]
        (x.2.device.journal.toList.drop sceneInMask.2.device.journal.toList.length)
      | .error _ _ => none) = some sceneInMask.1.output.id := by
    decide +kernel
  refine ⟨by decide +kernel, ?_⟩
  cases h : render (.seconds 1) sceneInMask with
  | error e x =>
    rw [h] at seen
    cases seen
  | ok report x =>
    rw [h] at seen
    obtain ⟨commands, hj, current⟩ := (input_is_current quietHooks_probeHooks own apart last
      writeMask).2 report x.1 x.2 h hidden
    change lastPainted _ (x.2.device.journal.toList.drop _) = _ at seen
    rw [hj, List.drop_left] at seen
    exact ⟨report, x.1, x.2, commands, rfl, hj, seen, (current _ seen).symm⟩

end Pipeline

end ScreenEffects
