import ScreenEffects.Proofs.Device.Sizes
import ScreenEffects.Proofs.Pass.Account

/-!
# Sizes of passes

Some passes have surfaces of their own: as large as the screen, as their resolution asks for, or of a
size that never changes. `Sizing` is what this depends on, and `Sizing.Fits` says that the surfaces are
there, that the resolution has the size of the screen for its base, and that each surface has its size,
in its description and on record.

Of the hooks of effects it is asked that they keep their accounts and resize nothing that is not theirs
(`SizedHooks`). Preferred sides of a resolution are at least one pixel long (`Resolution.Sound`), however
the resolution was made.

* `BuiltinPass.length_surfaces_setUp` : a pass that is set up has all its surfaces.
* `BuiltinPass.exists_setSize` : a pass with all its surfaces that is given the size of the screen fits
  it, and this does not fail.
-/

namespace ScreenEffects

variable {H Q ω : Type} {theirs : ω → Multiset Resource}

/-! ## Resolutions -/

theorem max_one_eq {n : UInt32} (h : 1 ≤ n) : max 1 n = n := by simp [max, h]

theorem Device.one_le_drawingSize (d : Device) : 1 ≤ d.drawingSize.1 ∧ 1 ≤ d.drawingSize.2 :=
  ⟨one_le_wholePixels _, one_le_wholePixels _⟩

namespace Resolution

/-- The base size. -/
def base (r : Resolution) : UInt32 × UInt32 := (r.baseWidth, r.baseHeight)

/-- Preferred sides are at least one pixel long. -/
structure Sound (r : Resolution) : Prop where
  width : ∀ w ∈ r.preferredWidth, 1 ≤ w
  height : ∀ h ∈ r.preferredHeight, 1 ≤ h

variable {r : Resolution}

/-! Every way to make a resolution and to change its settings makes a sound one. -/

theorem sound_ofScale (scale : Float32) : (ofScale scale).Sound := ⟨nofun, nofun⟩

theorem one_le_ofSetting {side : Int32} : ∀ n ∈ ofSetting side, 1 ≤ n := by
  intro n hn
  unfold ofSetting at hn
  split at hn
  · rename_i positive
    obtain rfl := Option.mem_some.1 hn
    obtain ⟨n⟩ := side
    rw [UInt32.le_iff_toNat_le]
    refine Nat.one_le_iff_ne_zero.2 fun zero => ?_
    have none_left : n = 0 := UInt32.toNat_inj.1 zero
    subst none_left
    exact absurd positive (by decide)
  · cases hn

theorem sound_withPreferredSize (r : Resolution) (width height : Int32) :
    (r.withPreferredSize width height).Sound :=
  ⟨one_le_ofSetting, one_le_ofSetting⟩

theorem Sound.setScale (h : r.Sound) (scale : Float32) : (r.setScale scale).Sound := by
  unfold Resolution.setScale
  split
  · exact ⟨h.width, h.height⟩
  · exact h

theorem one_le_map_max {side : Option UInt32} : ∀ n ∈ side.map (max 1), 1 ≤ n := by
  intro n hn
  obtain ⟨m, -, rfl⟩ := Option.mem_map.1 hn
  exact one_le_max_one m

theorem Sound.setPreferredSize (h : r.Sound) (width height : Option UInt32) :
    (r.setPreferredSize width height).Sound := by
  have first : (r.setPreferredWidth width).Sound := by
    unfold setPreferredWidth
    split
    · exact h
    · exact ⟨one_le_map_max, h.height⟩
  unfold Resolution.setPreferredSize setPreferredHeight
  split
  · exact first
  · exact ⟨first.width, one_le_map_max⟩

theorem Sound.setBaseSize (h : r.Sound) (width height : UInt32) :
    (r.setBaseSize width height).Sound := by
  unfold Resolution.setBaseSize
  simp only
  split
  · exact h
  · exact ⟨h.width, h.height⟩

/-! The base becomes what is asked for, and the size has no side below one pixel. -/

theorem base_setBaseSize (r : Resolution) {width height : UInt32} (hw : 1 ≤ width)
    (hh : 1 ≤ height) : (r.setBaseSize width height).base = (width, height) := by
  unfold Resolution.setBaseSize
  rw [max_one_eq hw, max_one_eq hh]
  simp only
  split
  · rename_i same
    rw [base, same.1, same.2]
  · rfl

theorem Sound.max_one_size (h : r.Sound) : (max 1 r.width, max 1 r.height) = r.size := by
  rw [max_one_eq (one_le_width h.width), max_one_eq (one_le_height h.height), size]

end Resolution

/-! ## The stage -/

namespace Stage

/-- Whatever was owned before is owned afterwards, and it kept its size; so did the screen. -/
def KeepsSizes (theirs : ω → Multiset Resource) (s t : Stage ω) : Prop :=
  ∀ m, s.Owns theirs m → t.Owns theirs m ∧ s.device.SameSizes m t.device

variable {m : Multiset Resource} {s₀ s t u : Stage ω}

theorem KeepsSizes.refl (theirs : ω → Multiset Resource) (s : Stage ω) : s.KeepsSizes theirs s :=
  fun m h => ⟨h, .refl m s.device⟩

theorem KeepsSizes.trans (h : s.KeepsSizes theirs t) (h' : t.KeepsSizes theirs u) :
    s.KeepsSizes theirs u := fun m hm =>
  have first := h m hm
  have second := h' m first.1
  ⟨second.1, first.2.trans second.2⟩

theorem KeepsSizes.steady (h : s.KeepsSizes theirs t) : s.Steady theirs t := fun m hm => (h m hm).1

/-- What touches nothing that lives changes no size. -/
theorem KeepsSizes.untouched (h : s.KeepsSizes theirs t) (device : t.device.Untouched u.device)
    (host : theirs u.host = theirs t.host) : s.KeepsSizes theirs u := fun m hm =>
  have first := h m hm
  ⟨h.steady.still device.still host m hm, first.2.trans (device.sameSizes m)⟩

theorem KeepsSizes.withShared (h : s.KeepsSizes theirs t) {shared : Shared ω}
    (hs : theirs shared.host = theirs t.host) : s.KeepsSizes theirs (t.withShared shared) :=
  h.untouched (.refl _) hs

/-- What a call of the device does not resize, whatever lives. -/
theorem Owns.sameSizes (h : s.Owns theirs m) {d : Device}
    (hd : ∀ m', s.device.Lives m' → s.device.SameSizes m' d) : s.device.SameSizes m d :=
  (hd _ h).mono (Multiset.le_add_right m _)

/-- A surface that is owned can be given a new size. -/
theorem Owns.exists_resizeSurface {x : Surface} (h : s.Owns theirs (x.resources + m))
    (width height : UInt32) :
    ∃ d, Stage.onDevice (Device.resizeSurface x width height) s =
        .ok { x with width := max 1 width, height := max 1 height } { s with device := d } ∧
      Owns theirs (x.resources + m) { s with device := d } ∧
      Device.Resized x (max 1 width, max 1 height) m s.device d := by
  have lives : s.device.Lives (x.resources + (m + theirs s.host)) := by
    rw [← add_assoc]
    exact h
  obtain ⟨d, resized, outcome⟩ := lives.exists_resizeSurface width height
  have still := Device.keeps_still_resizeSurface x width height s.device (.refl s.device)
  unfold Act.after at still
  rw [resized] at still
  refine ⟨d, ?_, Device.Lives.still h still, outcome.screen, outcome.isSized, ?_, ?_⟩
  · obtain ⟨shared, device⟩ := s
    simp only [Stage.onDevice, resized]
  · exact fun t ht live => outcome.carried t ht (Multiset.mem_add.2 (.inl live))
  · exact fun r hr => outcome.others r (Multiset.mem_add.2 (.inl hr))

end Stage

/-- No size changes by the calls of a pass. -/
theorem stageCalls_keepsSizes (s₀ : Stage ω) : StageCalls (s₀.KeepsSizes theirs) :=
  .of_untouched (fun _ _ h => h.untouched (.refl _) rfl) fun h device => h.untouched device rfl

/-! ## Hooks -/

/-- The hooks keep their accounts, and they resize neither the screen nor what is not theirs. -/
structure SizedHooks (theirs : ω → Multiset Resource) (H : Type) [EffectHooks H ω] : Prop
    extends TidyHooks theirs H where
  prepare_sizes : ∀ (k : H) (alpha : Bool) (precision : Precision) (s : Stage ω) m, s.Owns theirs m →
    s.device.SameSizes m (EffectHooks.prepare k alpha precision s).2.device
  update_sizes : ∀ (input : Surface) (delta : Float32) (uniforms : UniformMap) (k : H) (s : Stage ω) m,
    s.Owns theirs m →
    s.device.SameSizes m ((EffectHooks.update input delta uniforms).after (k, s)).2.device
  dispose_sizes : ∀ (k : H) (s : Stage ω) m, s.Owns theirs m →
    s.device.SameSizes m (EffectHooks.dispose k s).2.device

theorem sizedHooks_probeHooks : SizedHooks (fun _ => 0) ProbeHooks where
  toTidyHooks := tidyHooks_probeHooks
  prepare_sizes _ _ _ s m _ := .refl m s.device
  update_sizes input delta _ k s m _ :=
    ProbeHooks.keeps_update input delta (I := fun t => s.device.SameSizes m t.device)
      (fun _ _ h => h) (fun _ _ _ _ h => h) (k, s) (.refl m s.device)
  dispose_sizes _ s m _ := .refl m s.device

section Hooks

variable [EffectHooks H ω] (sized : SizedHooks theirs H)

include sized

theorem SizedHooks.keep (s₀ : Stage ω) : HooksKeep (s₀.KeepsSizes theirs) H where
  prepare k alpha precision s h := h.trans fun m hm =>
    ⟨sized.prepare k alpha precision s m hm, sized.prepare_sizes k alpha precision s m hm⟩
  update input delta uniforms x h := h.trans fun m hm =>
    ⟨sized.update input delta uniforms x.1 x.2 m hm,
      sized.update_sizes input delta uniforms x.1 x.2 m hm⟩
  setSize k width height s h := h.withShared (sized.setSize k width height s.toShared)
  setDepthTexture k t packing s h := h.withShared (sized.setDepthTexture k t packing s.toShared)

theorem EffectPass.keepsSizes_dispose (p : EffectPass H) (s : Stage ω) :
    s.KeepsSizes theirs (p.dispose s).2 := by
  refine keeps_threadList (I := s.KeepsSizes theirs) (fun e t h => ?_) p.effects (.refl theirs s)
  unfold Hosted.dispose
  cases e.hooks with
  | none => exact h
  | some k => exact h.trans fun m hm => ⟨sized.dispose k t m hm, sized.dispose_sizes k t m hm⟩

end Hooks

/-! ## What sizes depend on -/

/-- What the sizes of the surfaces of a pass depend on. -/
structure Sizing where
  /-- The surfaces that there are. -/
  surfaces : List Surface
  /-- The number of surfaces that the pass has while it works. -/
  count : Nat
  resolution : Option Resolution := none
  /-- The surfaces keep the size that they were made with. -/
  fixed : Bool := false
  /-- The pass has given up its surfaces. -/
  disposed : Bool

namespace Sizing

variable {z : Sizing} {d d' : Device}

/-- The size of the surfaces on a screen of the given size. -/
def size (z : Sizing) (screen : UInt32 × UInt32) : UInt32 × UInt32 :=
  z.resolution.elim screen Resolution.size

/-- The resolution is a sound one, and no surface carries a depth texture. -/
structure Sound (z : Sizing) : Prop where
  resolution : ∀ r ∈ z.resolution, r.Sound
  bare : ∀ x ∈ z.surfaces, x.depthTexture = none

/-- The surfaces are there, the resolution has the size of the screen for its base, and each surface has
its size. -/
structure Fits (d : Device) (z : Sizing) : Prop where
  complete : z.surfaces.length = z.count
  base : ∀ r ∈ z.resolution, r.base = d.drawingSize
  sized : z.fixed = false → ∀ x ∈ z.surfaces, x.IsSized d (z.size d.drawingSize)

theorem Fits.same {m : Multiset Resource} (h : z.Fits d) (same : d.SameSizes m d')
    (hm : resourcesOf z.surfaces ≤ m) : z.Fits d' where
  complete := h.complete
  base r hr := (h.base r hr).trans same.screen.symm
  sized fixed x hx := same.screen ▸
    (h.sized fixed x hx).same same ((resources_le_resourcesOf hx).trans hm)

end Sizing

namespace BuiltinPass

/-- What the sizes of a pass depend on, if it has surfaces of its own. -/
def sizing? : BuiltinPass H → Option Sizing
  | depth p => some {
      surfaces := p.surface.toList
      count := 1
      resolution := some p.resolution
      disposed := p.drawing.flags.disposed }
  | save p => some {
      surfaces := p.surface.toList
      count := 1
      fixed := p.fixed
      disposed := p.copy.flags.disposed }
  | blur p => some {
      surfaces := p.owned
      count := 2
      resolution := some p.resolution
      disposed := p.flags.disposed }
  | _ => none

/-- The surfaces of a pass are those on which its sizes depend. -/
theorem owned_eq_surfaces {q : BuiltinPass H} {z : Sizing} (hz : z ∈ q.sizing?) :
    q.owned = z.surfaces := by
  cases q <;> cases hz <;> rfl

theorem sizing?_withFlags (q : BuiltinPass H) (flags : PassFlags) :
    (q.withFlags flags).sizing? = q.sizing?.map ({ · with disposed := flags.disposed }) := by
  cases q <;> rfl

/-- To send a pass to the screen changes nothing that sizes depend on. -/
theorem sizing?_sendToScreen (q : BuiltinPass H) (toScreen : Bool) :
    (q.withFlags { q.flags with toScreen }).sizing? = q.sizing? := by
  cases q <;> rfl

variable [EffectHooks H ω]

theorem sizing?_edit (q : BuiltinPass H) (op : EffectPass.Op H ω) (s : Stage ω) :
    (q.edit op s).sizing? = q.sizing? := by
  cases q <;> rfl

theorem sizing?_setDepthTexture (q : BuiltinPass H) (t : Option Texture) (packing : DepthPacking)
    (s : Shared ω) : (q.setDepthTexture t packing s).1.sizing? = q.sizing? := by
  cases q <;> rfl

theorem sizing?_after_render (input output : Surface) (delta : Float32) (masked : Bool)
    (x : BuiltinPass H × Stage ω) :
    ((render input output delta masked).after x).1.sizing? = x.1.sizing? := by
  obtain ⟨q, s⟩ := x
  rcases eq_or_effects_after_render input output delta masked q s with same | ⟨p, rfl, after⟩
  · rw [same]
  · rw [after]
    rfl

/-- A pass that is disposed of has no surfaces, and is marked as disposed. -/
theorem sizing?_dispose (q : BuiltinPass H) (s : Stage ω) :
    (q.dispose s).1.sizing? = q.sizing?.map ({ · with surfaces := [], disposed := true }) := by
  cases q <;> rfl

/-! ## Passes that join -/

section SetUp

variable (setup : PassSetup)

/-- A pass that is set up has all its surfaces. -/
theorem length_surfaces_setUp (q : BuiltinPass H) (s : Stage ω) :
    ∀ z ∈ (q.setUp setup s).1.sizing?, z.surfaces.length = z.count := by
  intro z hz
  cases q with
  | depth p =>
    obtain ⟨drawing, packing, resolution, surface⟩ := p
    cases surface <;> cases hz <;> rfl
  | save p =>
    obtain ⟨copy, surface, fixed⟩ := p
    cases surface <;> cases hz <;> rfl
  | blur p =>
    obtain ⟨flags, size, resolution, program, input, texel, kernel, surfaces, geometry⟩ := p
    cases surfaces <;> cases hz <;> rfl
  | _ => cases hz

/-- A sound pass is sound once it is set up. -/
theorem sound_setUp {q : BuiltinPass H} (h : ∀ z ∈ q.sizing?, z.Sound) (s : Stage ω) :
    ∀ z ∈ (q.setUp setup s).1.sizing?, z.Sound := by
  have based {r : Resolution} (hr : ∀ r' ∈ some r, r'.Sound) :
      ∀ r' ∈ some (r.setBaseSize setup.width setup.height), r'.Sound := by
    rintro _ ⟨⟩
    exact (hr r rfl).setBaseSize _ _
  intro z hz
  cases q with
  | depth p =>
    obtain ⟨drawing, packing, resolution, surface⟩ := p
    have sound := h _ rfl
    cases surface with
    | none =>
      cases hz
      exact ⟨based sound.resolution, by simp⟩
    | some x =>
      cases hz
      exact ⟨based sound.resolution, sound.bare⟩
  | save p =>
    obtain ⟨copy, surface, fixed⟩ := p
    have sound := h _ rfl
    cases surface with
    | none =>
      cases hz
      exact ⟨nofun, by simp⟩
    | some x =>
      cases hz
      exact ⟨nofun, sound.bare⟩
  | blur p =>
    obtain ⟨flags, size, resolution, program, input, texel, kernel, surfaces, geometry⟩ := p
    have sound := h _ rfl
    cases surfaces with
    | none =>
      cases hz
      exact ⟨based sound.resolution, by simp [BlurPass.owned]⟩
    | some pair =>
      cases hz
      exact ⟨based sound.resolution, sound.bare⟩
  | _ => cases hz

end SetUp

variable {m : Multiset Resource} {s : Stage ω} {q : BuiltinPass H} (sized : SizedHooks theirs H)

include sized

/-- A pass that is set up changes no size, neither of its surfaces nor of what others own. -/
theorem sameSizes_setUp (setup : PassSetup) (h : s.Owns theirs (resourcesOf q.owned + m)) :
    s.device.SameSizes (resourcesOf q.owned + m) (q.setUp setup s).2.device := by
  have created (spec : SurfaceSpec) :
      s.device.SameSizes (resourcesOf q.owned + m) (s.device.createSurface spec).2 :=
    h.sameSizes fun _ hd => hd.sameSizes_createSurface spec
  have second (spec spec' : SurfaceSpec) : s.device.SameSizes (resourcesOf q.owned + m)
      ((s.device.createSurface spec).2.createSurface spec').2 :=
    h.sameSizes fun m' hd => (hd.sameSizes_createSurface spec).trans
      (((hd.createSurface spec).sameSizes_createSurface spec').mono (Multiset.le_add_left m' _))
  cases q with
  | depth p =>
    obtain ⟨drawing, packing, resolution, surface⟩ := p
    cases surface with
    | none => exact created _
    | some x => exact .refl _ _
  | save p =>
    obtain ⟨copy, surface, fixed⟩ := p
    cases surface with
    | none => exact created _
    | some x => exact .refl _ _
  | blur p =>
    obtain ⟨flags, size, resolution, program, input, texel, kernel, surfaces, geometry⟩ := p
    cases surfaces with
    | none => exact second _ _
    | some pair => exact .refl _ _
  | effects p =>
    exact (p.setUp_of_hooks (sized.keep s) (.refl theirs s) setup _ h).2
  | _ => exact .refl _ _

/-- A pass that is disposed of changes no size of what others own. -/
theorem sameSizes_dispose (h : s.Owns theirs (resourcesOf q.owned + m)) :
    s.device.SameSizes m (q.dispose s).2.device := by
  have balance : s.device.Lives (resourcesOf q.owned + (m + theirs s.host)) := by
    rw [← add_assoc]
    exact h
  have optional {x : Option Surface}
      (hx : s.device.Lives (resourcesOf x.toList + (m + theirs s.host))) :
      s.device.SameSizes m (disposeOptional x s.device) := by
    cases x with
    | none => exact .refl m _
    | some x =>
      have single : s.device.Lives (x.resources + (m + theirs s.host)) := by simpa using hx
      exact single.sameSizes_disposeSurface.mono (Multiset.le_add_right _ _)
  cases q with
  | depth p => exact optional balance
  | save p => exact optional balance
  | blur p =>
    obtain ⟨flags, size, resolution, program, input, texel, kernel, surfaces, geometry⟩ := p
    cases surfaces with
    | none => exact .refl m _
    | some pair =>
      have both : s.device.Lives
          (pair.1.resources + (pair.2.resources + (m + theirs s.host))) := by
        simpa [owned, BlurPass.owned, add_assoc] using balance
      have first := both.sameSizes_disposeSurface
      have second := both.disposeSurface.sameSizes_disposeSurface
      exact ((first.mono (Multiset.le_add_left _ _)).trans second).mono (Multiset.le_add_right _ _)
  | effects p =>
    have bare : s.Owns theirs m := by
      have empty : resourcesOf (effects p).owned + m = m := zero_add m
      rwa [empty] at h
    exact (p.keepsSizes_dispose sized s m bare).2
  | _ => exact .refl m _

end BuiltinPass

/-! ## A new size -/

section SetSize

variable {m : Multiset Resource} {s : Stage ω}

/-- A surface that a pass may have can be given a new size. -/
theorem exists_resizeOptional {x : Option Surface} (h : s.Owns theirs (resourcesOf x.toList + m))
    (bare : ∀ y ∈ x.toList, y.depthTexture = none) (width height : UInt32) :
    ∃ y d, resizeOptional width height (x, s) = .ok () (y, { s with device := d }) ∧
      y.toList.length = x.toList.length ∧
      (∀ z ∈ y.toList, z.IsSized d (max 1 width, max 1 height)) ∧ s.device.SameSizes m d := by
  cases x with
  | none => exact ⟨none, s.device, rfl, rfl, by simp, .refl m _⟩
  | some x =>
    have single : s.Owns theirs (x.resources + m) := by simpa using h
    obtain ⟨d, resized, -, outcome⟩ := single.exists_resizeSurface width height
    refine ⟨some { x with width := max 1 width, height := max 1 height }, d, ?_, rfl, ?_,
      outcome.sameSizes (bare x (by simp))⟩
    · simp only [resizeOptional, resized]
    · simpa using outcome.isSized

theorem BlurPass.exists_setSize {p : BlurPass} (h : s.Owns theirs (resourcesOf p.owned + m))
    (bare : ∀ y ∈ p.owned, y.depthTexture = none) (width height : UInt32) :
    let r := p.resolution.setBaseSize width height
    ∃ q d, setSize width height (p, s) = .ok () (q, { s with device := d }) ∧
      q.resolution = r ∧ q.flags = p.flags ∧ q.owned.length = p.owned.length ∧
      (∀ x ∈ q.owned, x.IsSized d (max 1 r.width, max 1 r.height)) ∧ s.device.SameSizes m d := by
  intro r
  obtain ⟨flags, size, resolution, program, input, texel, kernel, surfaces, geometry⟩ := p
  cases surfaces with
  | none => exact ⟨_, s.device, rfl, rfl, rfl, rfl, by simp [owned], .refl m _⟩
  | some pair =>
    obtain ⟨a, b⟩ := pair
    have both : s.Owns theirs (a.resources + (b.resources + m)) := by
      simpa [owned, add_assoc] using h
    have bare : a.depthTexture = none ∧ b.depthTexture = none := by simpa [owned] using bare
    obtain ⟨d, first, owns, sized⟩ := both.exists_resizeSurface r.width r.height
    rw [add_left_comm] at owns
    obtain ⟨d', second, -, sized'⟩ := owns.exists_resizeSurface r.width r.height
    have same : d.SameSizes (a.resources + m) d' := sized'.sameSizes bare.2
    refine ⟨⟨flags, size, r, program, input, texel, kernel,
      some ({ a with width := max 1 r.width, height := max 1 r.height },
        { b with width := max 1 r.width, height := max 1 r.height }), geometry⟩, d', ?_, rfl, rfl, rfl,
      ?_, ?_⟩
    · rw [setSize_eq]
      simp only [r] at first second ⊢
      simp only [first, second]
    · intro x hx
      rcases List.mem_pair.1 hx with rfl | rfl
      · exact sized.isSized.same same (Multiset.le_add_right _ m)
      · exact sized'.isSized
    · exact ((sized.sameSizes bare.1).mono (Multiset.le_add_left m _)).trans
        (same.mono (Multiset.le_add_left m _))

/-- A surface with a new size carries the depth texture that it carried. -/
theorem Stage.depthTexture_of_resizeSurface {x y : Surface} {width height : UInt32} {t : Stage ω}
    (h : Stage.onDevice (Device.resizeSurface x width height) s = .ok y t) :
    y.depthTexture = x.depthTexture := by
  obtain ⟨d, resized, -⟩ := Stage.onDevice_eq_ok.1 h
  unfold Device.resizeSurface at resized
  split at resized <;> cases resized
  rfl

/-- No surface carries a depth texture after it is given a new size, if it did not before. -/
theorem keeps_bare_resizeOptional (width height : UInt32) :
    Act.Keeps (fun x : Option Surface × Stage ω => ∀ y ∈ x.1.toList, y.depthTexture = none)
      (resizeOptional width height) := by
  rintro ⟨x, s⟩ h
  cases x with
  | none => exact h
  | some x =>
    unfold Act.after resizeOptional
    simp only
    cases hx : Stage.onDevice (Device.resizeSurface x width height) s with
    | error e t => exact h
    | ok y t =>
      intro z hz
      obtain rfl : z = y := by simpa using hz
      exact (Stage.depthTexture_of_resizeSurface hx).trans (h x (by simp))

theorem BlurPass.keeps_bare_setSize (width height : UInt32) :
    Act.Keeps (fun x : BlurPass × Stage ω => x.1.resolution.Sound ∧
      ∀ y ∈ x.1.owned, y.depthTexture = none) (setSize width height) := by
  rintro ⟨p, s⟩ ⟨sound, bare⟩
  have resolved := sound.setBaseSize width height
  let w := (p.resolution.setBaseSize width height).width
  let h := (p.resolution.setBaseSize width height).height
  unfold Act.after
  rw [setSize_eq]
  unfold owned at bare ⊢
  cases hx : p.surfaces with
  | none =>
    rw [hx] at bare
    exact ⟨resolved, bare⟩
  | some pair =>
    obtain ⟨a, b⟩ := pair
    rw [hx] at bare
    obtain ⟨bareA, bareB⟩ : a.depthTexture = none ∧ b.depthTexture = none := by simpa using bare
    simp only
    cases ha : Stage.onDevice (Device.resizeSurface a w h) s with
    | error e t => exact ⟨resolved, bare⟩
    | ok a' t =>
      have same := (Stage.depthTexture_of_resizeSurface ha).trans bareA
      simp only
      cases hb : Stage.onDevice (Device.resizeSurface b w h) t with
      | error e u => exact ⟨resolved, by simpa using ⟨same, bareB⟩⟩
      | ok b' u =>
        exact ⟨resolved, by simpa using ⟨same, (Stage.depthTexture_of_resizeSurface hb).trans bareB⟩⟩

namespace BuiltinPass

variable [EffectHooks H ω] {q : BuiltinPass H}

/-- **A pass that is given the size of the screen fits it.** It does not fail, and what others own keeps
its size. -/
theorem exists_setSize (h : s.Owns theirs (resourcesOf q.owned + m))
    (sound : ∀ z ∈ q.sizing?, z.Sound)
    (complete : ∀ z ∈ q.sizing?, z.disposed = false → z.surfaces.length = z.count)
    {width height : UInt32} (screen : s.device.drawingSize = (width, height)) :
    ∃ q' t, setSize width height (q, s) = .ok () (q', t) ∧ s.device.SameSizes m t.device ∧
      ∀ z ∈ q'.sizing?, z.disposed = false → z.Fits t.device := by
  obtain ⟨hw, hh⟩ : 1 ≤ width ∧ 1 ≤ height := by
    have sides := s.device.one_le_drawingSize
    rwa [screen] at sides
  -- the screen keeps its size while the pass gets its own
  have fits {z : Sizing} {d : Device} (same : s.device.SameSizes m d)
      (length : z.surfaces.length = z.count) (base : ∀ r ∈ z.resolution, r.base = (width, height))
      (sized : z.fixed = false → ∀ x ∈ z.surfaces, x.IsSized d (z.size (width, height))) :
      z.Fits d := by
    rw [← screen, ← same.screen] at base sized
    exact ⟨length, base, sized⟩
  have based {r r' : Resolution} (hr : r' ∈ some (r.setBaseSize width height)) :
      r'.base = (width, height) := Option.mem_some.1 hr ▸ r.base_setBaseSize hw hh
  cases q with
  | depth p =>
    obtain ⟨drawing, packing, resolution, surface⟩ := p
    have resolved : (resolution.setBaseSize width height).Sound :=
      ((sound _ rfl).resolution _ rfl).setBaseSize width height
    obtain ⟨y, d, resized, length, sized, same⟩ := exists_resizeOptional h (sound _ rfl).bare
      (resolution.setBaseSize width height).width (resolution.setBaseSize width height).height
    rw [resolved.max_one_size] at sized
    refine ⟨depth ⟨drawing, packing, resolution.setBaseSize width height, y⟩, { s with device := d }, ?_,
      same, ?_⟩
    · simp only [setSize, wrap, DepthPass.setSize, Act.within, resized]
    · rintro _ ⟨⟩ alive
      exact fits same (length.trans (complete _ rfl alive)) (fun r => based) fun _ => sized
  | save p =>
    obtain ⟨copy, surface, fixed⟩ := p
    cases fixed with
    | true =>
      refine ⟨save ⟨copy, surface, true⟩, s, rfl, .refl m _, ?_⟩
      rintro _ ⟨⟩ alive
      exact fits (.refl m _) (complete _ rfl alive) (fun _ hr => by cases hr) fun adapts => by cases adapts
    | false =>
      obtain ⟨y, d, resized, length, sized, same⟩ :=
        exists_resizeOptional h (sound _ rfl).bare width height
      rw [max_one_eq hw, max_one_eq hh] at sized
      refine ⟨save ⟨copy, y, false⟩, { s with device := d }, ?_, same, ?_⟩
      · simp only [setSize, wrap, SavePass.setSize, Act.within, resized, Bool.false_eq_true, if_false]
      · rintro _ ⟨⟩ alive
        exact fits same (length.trans (complete _ rfl alive)) (fun _ hr => by cases hr) fun _ => sized
  | blur p =>
    have resolved : (p.resolution.setBaseSize width height).Sound :=
      ((sound _ rfl).resolution _ rfl).setBaseSize width height
    obtain ⟨q, d, resized, resolution, flags, length, sized, same⟩ :=
      BlurPass.exists_setSize h (sound _ rfl).bare width height
    rw [resolved.max_one_size, ← resolution] at sized
    refine ⟨blur q, { s with device := d }, ?_, same, ?_⟩
    · simp only [setSize, wrap, resized]
    · rintro _ ⟨⟩ alive
      refine fits same (length.trans (complete _ rfl (flags ▸ alive))) (fun r hr => ?_) fun _ => sized
      exact based (resolution ▸ hr)
  | effects p => exact ⟨_, _, rfl, .refl m _, fun _ hz => by cases hz⟩
  | _ => exact ⟨_, s, rfl, .refl m _, fun _ hz => by cases hz⟩

/-- A sound pass is sound once it has a new size, failed or not. -/
theorem keeps_sound_setSize (width height : UInt32) :
    Act.Keeps (fun x : BuiltinPass H × Stage ω => ∀ z ∈ x.1.sizing?, z.Sound)
      (setSize width height) := by
  rintro ⟨q, s⟩ sound
  cases q with
  | depth p =>
    rw [after_wrap rfl, DepthPass.after_setSize]
    rintro _ ⟨⟩
    refine ⟨?_, keeps_bare_resizeOptional _ _ (p.surface, s) (sound _ rfl).bare⟩
    rintro _ ⟨⟩
    exact ((sound _ rfl).resolution _ rfl).setBaseSize width height
  | save p =>
    rw [after_wrap rfl, SavePass.after_setSize]
    split
    · exact sound
    · rintro _ ⟨⟩
      exact ⟨nofun, keeps_bare_resizeOptional width height (p.surface, s) (sound _ rfl).bare⟩
  | blur p =>
    rw [after_wrap rfl]
    rintro _ ⟨⟩
    obtain ⟨resolved, bare⟩ := BlurPass.keeps_bare_setSize width height (p, s)
      ⟨(sound _ rfl).resolution _ rfl, (sound _ rfl).bare⟩
    refine ⟨?_, bare⟩
    rintro _ ⟨⟩
    exact resolved
  | effects p => nofun
  | _ => exact sound

end BuiltinPass

end SetSize

end ScreenEffects
