import ScreenEffects.Proofs.Pass.Any
import ScreenEffects.Proofs.Pipeline.Calls

/-!
# The shared depth texture

The passes of a pipeline share one depth texture. It is made when the first pass asks for depth and ends
with the last such pass, and in between it is everywhere at once: attached to the surface with the
image, in each pass of effects and in its depth buffer. Passes join and leave at any time, may change
their needs, and frames may fail half-way.

* `Pipeline.SharesDepth` : the texture is where it should be, and the device has no other.
* `Pipeline.Shares R` : the same with what makes it last; `SharesSince` is what an operation keeps of it.
* `keeps_sharesSince_setSize`, `keeps_sharesSince_reset`, `keeps_sharesSince_render` : no change of the
  whole harms it, failed or not.
* `Shares.add`, `Shares.release`, `Shares.removeAll`, `Shares.dispose` : passes that come and go.
-/

namespace ScreenEffects

variable {H Q ω : Type} {R : Uniform → Prop}

/-! ## Passes that hold a texture -/

/-- The depth buffers of the passes of effects. -/
def depthBuffers (qs : List (AnyPass H Q)) : List Uniform := qs.filterMap (·.depthBuffer?)

namespace AnyPass

/-- The pass holds the texture `t`, also in its depth buffer, which the store knows. -/
structure Carries (R : Uniform → Prop) (t : Option Texture) (s : UniformStore)
    (q : AnyPass H Q) : Prop where
  guards : q.Guards R q.depthBuffer? t
  bound : ∀ u, q.depthBuffer? = some u → s.Holds u ∧ s.get u = .texture t

variable {q : AnyPass H Q} {t : Option Texture} {s s' : UniformStore}

theorem Carries.spares (h : q.Carries R t s) {R' : Uniform → Prop} (hs : s.Spares R' s')
    (hR : ∀ u, q.depthBuffer? = some u → R u → R' u) : q.Carries R t s' where
  guards := h.guards
  bound u hu := by
    obtain ⟨held, value⟩ := h.bound u hu
    have reserved : R u := (hu ▸ h.guards).reserved
    exact ⟨hs.holds held, (hs.kept u (hR u hu reserved) held).trans value⟩

theorem Carries.of_guards (h : q.Carries R t s) {q' : AnyPass H Q}
    (hq : q'.Guards R q.depthBuffer? t) : q'.Carries R t s := by
  obtain ⟨same, guards⟩ := guards_iff.1 hq
  exact ⟨guards, same ▸ h.bound⟩

end AnyPass

/-! ## Handing out a texture -/

theorem depthBuffers_cons (q : AnyPass H Q) (qs : List (AnyPass H Q)) :
    depthBuffers (q :: qs) = q.depthBuffer?.toList ++ depthBuffers qs := by
  unfold depthBuffers
  rw [List.filterMap_cons]
  cases q.depthBuffer? <;> rfl

theorem mem_depthBuffers {qs : List (AnyPass H Q)} {q : AnyPass H Q} (hq : q ∈ qs) {u : Uniform}
    (hu : q.depthBuffer? = some u) : u ∈ depthBuffers qs :=
  List.mem_filterMap.2 ⟨q, hq, hu⟩

theorem depthBuffers_append (qs rs : List (AnyPass H Q)) :
    depthBuffers (qs ++ rs) = depthBuffers qs ++ depthBuffers rs :=
  List.filterMap_append

/-- A pass holds what it held if only the depth buffers of others were written. -/
theorem carries_of_apart {qs rs : List (AnyPass H Q)} {q : AnyPass H Q} {t : Option Texture}
    {s s' : UniformStore} (nodup : (depthBuffers (qs ++ rs)).Nodup) (hq : q ∈ rs)
    (others : s.Spares (fun u => R u ∧ u ∉ depthBuffers qs) s') (h : q.Carries R t s) :
    q.Carries R t s' := by
  rw [depthBuffers_append, List.nodup_append] at nodup
  exact h.spares others fun u hu hR => ⟨hR, fun e => nodup.2.2 u e u (mem_depthBuffers hq hu) rfl⟩

theorem depthBuffers_congr {qs qs' : List (AnyPass H Q)}
    (h : qs'.map (·.depthBuffer?) = qs.map (·.depthBuffer?)) :
    depthBuffers qs' = depthBuffers qs := by
  have e (qs : List (AnyPass H Q)) : depthBuffers qs = (qs.map (·.depthBuffer?)).filterMap id := by
    rw [List.filterMap_map]
    rfl
  rw [e, e, h]

section Hand

variable [EffectHooks H ω] [Pass Q ω]

variable (sparing : SparingProgram R H Q) {t : Option Texture}

include sparing

/-- A pass that is handed a texture holds it from then on, and the depth buffers of other passes are
left alone. -/
theorem AnyPass.Carries.setDepthTexture {q : AnyPass H Q} {s : Shared ω}
    (h : q.Carries R t s.uniforms) (t' : Option Texture) :
    (Pass.setDepthTexture q t' .basic s).1.Carries R t'
        (Pass.setDepthTexture q t' .basic s).2.uniforms ∧
      s.uniforms.Spares (fun w => R w ∧ q.depthBuffer? ≠ some w)
        (Pass.setDepthTexture q t' .basic s).2.uniforms := by
  obtain ⟨guards, spares, bound⟩ := guards_setDepthTexture sparing h.guards t' s
  refine ⟨⟨?_, fun u hu => ?_⟩, spares⟩
  · rwa [depthBuffer?_setDepthTexture]
  · rw [depthBuffer?_setDepthTexture] at hu
    exact ⟨spares.holds (h.bound u hu).1, bound u hu (h.bound u hu).1⟩

theorem carries_threadList {qs : List (AnyPass H Q)} {s : Shared ω}
    (h : ∀ q ∈ qs, q.Carries R t s.uniforms) (nodup : (depthBuffers qs).Nodup)
    (t' : Option Texture) :
    (∀ q ∈ (threadList (fun q s => Pass.setDepthTexture q t' .basic s) qs s).1, q.Carries R t'
        (threadList (fun q s => Pass.setDepthTexture q t' .basic s) qs s).2.uniforms) ∧
      s.uniforms.Spares (fun w => R w ∧ w ∉ depthBuffers qs)
        (threadList (fun q s => Pass.setDepthTexture q t' .basic s) qs s).2.uniforms := by
  induction qs generalizing s with
  | nil => exact ⟨fun q hq => absurd hq List.not_mem_nil, .refl _ _⟩
  | cons q qs ih =>
    obtain ⟨hq, hqs⟩ := List.forall_mem_cons.1 h
    rw [depthBuffers_cons, List.nodup_append] at nodup
    obtain ⟨-, nodup, apart⟩ := nodup
    have own {r : AnyPass H Q} (hr : r ∈ qs) {w : Uniform} (hw : r.depthBuffer? = some w) :
        q.depthBuffer? ≠ some w := fun e =>
      apart w (Option.mem_toList.2 e) w (mem_depthBuffers hr hw) rfl
    obtain ⟨carries, spares⟩ := hq.setDepthTexture sparing t'
    have rest : ∀ r ∈ qs, r.Carries R t (Pass.setDepthTexture q t' .basic s).2.uniforms :=
      fun r hr => (hqs r hr).spares spares fun w hw hR => ⟨hR, own hr hw⟩
    obtain ⟨others, spares'⟩ := ih rest nodup
    rw [threadList]
    refine ⟨List.forall_mem_cons.2 ⟨?_, others⟩, ?_⟩
    · refine carries.spares spares' fun w hw hR => ⟨hR, ?_⟩
      rw [AnyPass.depthBuffer?_setDepthTexture] at hw
      exact fun mem => apart w (Option.mem_toList.2 hw) w mem rfl
    · rw [depthBuffers_cons]
      have first : s.uniforms.Spares (fun w => R w ∧ w ∉ q.depthBuffer?.toList ++ depthBuffers qs)
          (Pass.setDepthTexture q t' .basic s).2.uniforms :=
        spares.mono fun w hw =>
          ⟨hw.1, fun e => hw.2 (List.mem_append_left _ (Option.mem_toList.2 e))⟩
      exact first.trans (spares'.mono fun w hw =>
        ⟨hw.1, fun e => hw.2 (List.mem_append_right _ e)⟩)

end Hand

/-! ## Pipelines -/

namespace Pipeline

/-- The shared texture is the only depth texture of the device; the surface with the image has it
attached, and every pass of effects holds it, also under the name `depthBuffer` of its program. If
there is none, then none is there. -/
structure SharesDepth (p : Pipeline (AnyPass H Q)) (s : Stage ω) : Prop where
  live : s.device.depthTextures = p.depthTexture.toList
  input : p.input.depthTexture = p.depthTexture
  output : p.output.depthTexture = none
  passes : ∀ q, .builtin (.effects q) ∈ p.passes → q.depthTexture = p.depthTexture ∧
    ∃ u, q.program.uniforms.get? "depthBuffer" = some u ∧
      s.uniforms.get u = .texture p.depthTexture

theorem SharesDepth.liveDepthTextures_le_one {p : Pipeline (AnyPass H Q)} {s : Stage ω}
    (h : p.SharesDepth s) : s.device.liveDepthTextures ≤ 1 := by
  rw [Device.liveDepthTextures_eq, h.live]
  exact Option.length_toList_le

/-- The pipeline shares its depth texture, and nothing but the pipeline can change that: each depth
buffer is reserved, and belongs to one pass. -/
structure Shares (R : Uniform → Prop) (p : Pipeline (AnyPass H Q)) (s : Stage ω) : Prop where
  device : s.device.HasDepth p.depthTexture.toList
  input : p.input.depthTexture = p.depthTexture
  output : p.output.depthTexture = none
  copy : p.copy.shader.Avoids R
  passes : ∀ q ∈ p.passes, q.Carries R p.depthTexture s.uniforms
  nodup : (depthBuffers p.passes).Nodup

theorem Shares.sharesDepth {p : Pipeline (AnyPass H Q)} {s : Stage ω} (h : p.Shares R s) :
    p.SharesDepth s where
  live := h.device.textures
  input := h.input
  output := h.output
  passes q hq := by
    obtain ⟨⟨u, hu, guards⟩, bound⟩ := h.passes _ hq
    exact ⟨guards.texture, u, guards.bound, (bound u hu).2⟩

/-- Since `p₀` on `s₀` the passes are the same, the pipeline still shares its depth texture, and the
reserved uniforms of others are untouched. -/
structure SharesSince (R : Uniform → Prop) (p₀ : Pipeline (AnyPass H Q)) (s₀ : Stage ω)
    (x : Pipeline (AnyPass H Q) × Stage ω) : Prop where
  shares : x.1.Shares R x.2
  buffers : depthBuffers x.1.passes = depthBuffers p₀.passes
  others : s₀.uniforms.Spares (fun u => R u ∧ u ∉ depthBuffers p₀.passes) x.2.uniforms

section Since

variable {p₀ p : Pipeline (AnyPass H Q)} {s₀ s : Stage ω}

theorem Shares.since (h : p.Shares R s) : SharesSince R p s (p, s) := ⟨h, rfl, .refl _ _⟩

/-- What keeps the passes what they are and spares the stage keeps the texture shared. -/
theorem SharesSince.withPasses (h : SharesSince R p₀ s₀ (p, s)) {qs : List (AnyPass H Q)}
    {s' : Stage ω} (buffers : qs.map (·.depthBuffer?) = p.passes.map (·.depthBuffer?))
    (guards : ∀ q ∈ qs, q.Guards R q.depthBuffer? p.depthTexture) (spares : s.Spares R s') :
    SharesSince R p₀ s₀ ({ p with passes := qs }, s') := by
  have same : depthBuffers qs = depthBuffers p.passes := depthBuffers_congr buffers
  refine ⟨{ h.shares with
    device := spares.depth _ h.shares.device
    passes := fun q hq => ⟨guards q hq, fun u hu => ?_⟩
    nodup := same.symm ▸ h.shares.nodup }, same.trans h.buffers,
    h.others.trans (spares.uniforms.mono fun u hu => hu.1)⟩
  obtain ⟨r, hr, hru⟩ := List.mem_filterMap.1 (same ▸ mem_depthBuffers hq hu)
  exact (((h.shares.passes r hr).spares spares.uniforms fun _ _ hR => hR).bound u hru)

variable [EffectHooks H ω] [Pass Q ω]

theorem SharesSince.presentLast (h : SharesSince R p₀ s₀ (p, s)) :
    SharesSince R p₀ s₀ (p.presentLast, s) := by
  unfold Pipeline.presentLast
  split
  · refine h.withPasses (map_sendLastToScreen AnyPass.depthBuffer?_sendToScreen p.passes) ?_
      (.refl R s)
    refine forall_mem_sendLastToScreen (fun q b hq => ?_) fun q hq => (h.shares.passes q hq).guards
    rw [AnyPass.depthBuffer?_sendToScreen]
    exact hq.sendToScreen b
  · exact h

omit [EffectHooks H ω] [Pass Q ω] in
/-- An act that each pass takes without harm, a pipeline takes so. -/
theorem keeps_sharesSince_onPasses {β : Type} {act : β → Act (AnyPass H Q × Stage ω) β}
    (keeps : ∀ b t (s₀ : Stage ω) c,
      Act.Keeps (fun x => x.1.Guards R b t ∧ s₀.Spares R x.2) (act c)) (c : β) :
    Act.Keeps (SharesSince R p₀ s₀) (onPasses (Act.foldEach act c)) := by
  rintro ⟨p, s⟩ h
  have keyed (b : Option Uniform) (c : β) :
      Act.Keeps (fun x => (x.1.depthBuffer? = b ∧ x.1.Guards R x.1.depthBuffer? p.depthTexture) ∧
        s.Spares R x.2) (act c) := by
    intro x hx
    have kept := keeps b p.depthTexture s c x ⟨AnyPass.guards_iff.2 hx.1, hx.2⟩
    exact ⟨AnyPass.guards_iff.1 kept.1, kept.2⟩
  have kept := Act.keeps_foldEach_map AnyPass.depthBuffer? keyed
    (p.passes.map (·.depthBuffer?)) c (p.passes, s)
    ⟨⟨rfl, fun q hq => (h.shares.passes q hq).guards⟩, .refl R s⟩
  unfold onPasses
  rw [Act.after_within]
  exact h.withPasses kept.1.1 kept.1.2 kept.2

/-! ### The texture comes and goes -/

theorem sparesDepth_detachDepth (t : Texture) (x : Surface) (d : Device) :
    d.SparesDepth (detachDepth t x d).2 := by
  unfold detachDepth
  split
  · exact (Device.SparesDepth.refl d).congr rfl rfl
  · exact .refl d

/-- Once it is detached and ended, a texture is no depth texture any more. -/
theorem within_nil_of_release {t : Texture} {d : Device} (h : d.DepthWithin [t]) (x y : Surface) :
    ((detachDepth t y (detachDepth t x d).2).2.disposeTexture t).DepthWithin [] :=
  ((h.spares (sparesDepth_detachDepth t x d)).spares
    (sparesDepth_detachDepth t y _)).disposeTexture

theorem depthTexture_detachDepth {t : Texture} {x : Surface} (hx : x.depthTexture ∈ [none, some t])
    (d : Device) : (detachDepth t x d).1.depthTexture = none := by
  unfold detachDepth
  split
  · rfl
  · rename_i other
    simpa [other] using hx

variable (sparing : SparingProgram R H Q)

include sparing

/-- All passes are handed a texture, which the pipeline is then to have. -/
theorem SharesSince.share (h : SharesSince R p₀ s₀ (p, s)) {t : Option Texture} {d : Device}
    {input output : Surface} (device : d.HasDepth t.toList) (attached : input.depthTexture = t)
    (detached : output.depthTexture = none) :
    SharesSince R p₀ s₀
      ({ (p.shareDepthTexture t s).1 with depthTexture := t, input, output },
        { (p.shareDepthTexture t s).2 with device := d }) := by
  obtain ⟨carries, spares⟩ := carries_threadList sparing (s := s.toShared) h.shares.passes
    h.shares.nodup t
  have buffers : depthBuffers (p.shareDepthTexture t s).1.passes = depthBuffers p.passes :=
    depthBuffers_congr (map_shareDepthTexture
      (fun q t s => AnyPass.depthBuffer?_setDepthTexture q t s) p t s)
  refine ⟨⟨device, attached, detached, h.shares.copy, carries, ?_⟩, buffers.trans h.buffers, ?_⟩
  · exact buffers.symm ▸ h.shares.nodup
  · exact h.others.trans (spares.mono fun w hw => ⟨hw.1, h.buffers.symm ▸ hw.2⟩)

theorem SharesSince.createDepthTexture (h : SharesSince R p₀ s₀ (p, s))
    (absent : p.depthTexture = none) : SharesSince R p₀ s₀ (p.createDepthTexture s) := by
  have made := h.shares.device.createDepthTexture p.input.width p.input.height
  rw [absent] at made
  have attached : Device.HasDepth [(s.device.createDepthTexture p.input.width p.input.height).1]
      ((s.device.createDepthTexture p.input.width p.input.height).2.attachDepth p.input
        (some (s.device.createDepthTexture p.input.width p.input.height).1)).2 :=
    made.congr rfl rfl
  exact h.share sparing attached rfl h.shares.output

theorem SharesSince.deleteDepthTexture (h : SharesSince R p₀ s₀ (p, s)) :
    SharesSince R p₀ s₀ (p.deleteDepthTexture s) ∧
      (p.deleteDepthTexture s).1.depthTexture = none := by
  unfold Pipeline.deleteDepthTexture
  cases ht : p.depthTexture with
  | none => exact ⟨h, ht⟩
  | some t =>
    have device := h.shares.device
    have input := h.shares.input
    have output : p.output.depthTexture = none := h.shares.output
    simp only [ht] at device input
    have detached : Device.HasDepth [] _ :=
      .of_within_nil (within_nil_of_release device.within p.input p.output)
    refine ⟨h.share sparing (t := none) detached ?_ ?_, rfl⟩
    · exact depthTexture_detachDepth (by simp [input]) _
    · exact depthTexture_detachDepth (by simp [output]) _

theorem SharesSince.updateDepthTexture (h : SharesSince R p₀ s₀ (p, s)) :
    SharesSince R p₀ s₀ (p.updateDepthTexture s) := by
  unfold Pipeline.updateDepthTexture
  split
  · exact h.createDepthTexture sparing ‹_›
  · exact (h.deleteDepthTexture sparing).1
  · exact h

/-! ### Changes of all passes -/

omit [EffectHooks H ω] [Pass Q ω] sparing in
theorem SharesSince.withSurfaces (h : SharesSince R p₀ s₀ (p, s)) {input output : Surface}
    (hi : input.depthTexture = p.depthTexture) (ho : output.depthTexture = none) :
    SharesSince R p₀ s₀ ({ p with input, output }, s) :=
  ⟨{ h.shares with input := hi, output := ho }, h.buffers, h.others⟩

omit [EffectHooks H ω] [Pass Q ω] sparing in
theorem SharesSince.onStage (h : SharesSince R p₀ s₀ (p, s)) {s' : Stage ω}
    (spares : s.Spares R s') : SharesSince R p₀ s₀ (p, s') :=
  h.withPasses rfl (fun q hq => (h.shares.passes q hq).guards) spares

theorem keeps_sharesSince_setSize (width height : UInt32) :
    Act.Keeps (SharesSince R p₀ s₀) (setSize (P := AnyPass H Q) width height) := by
  refine keeps_setSize (fun p s h => ?_) (fun p x w h s hs => ?_) (fun p s w h hs => ?_)
    (fun p s w h hs => ?_) fun w h => ?_
  · exact h.onStage ((Stage.Spares.refl R s).mapDevice
      ((Device.SparesDepth.refl s.device).congr rfl rfl))
  · exact hs.onStage (keeps_spares_resizeSurface x w h s (.refl R s))
  · exact hs.withSurfaces hs.shares.input hs.shares.output
  · exact hs.withSurfaces hs.shares.input hs.shares.output
  · exact keeps_sharesSince_onPasses (fun b t s₀ _ => AnyPass.keeps_guards_setSize sparing w h) ()

omit [EffectHooks H ω] [Pass Q ω] sparing in
/-- The images made anew have no depth texture attached. -/
theorem SharesSince.withImages (h : SharesSince R p₀ s₀ (p, s)) (absent : p.depthTexture = none) :
    SharesSince R p₀ s₀
      ({ p with
          input := (createImages p.config s.device).1.1
          output := (createImages p.config s.device).1.2 },
        { s with
          device := ((createImages p.config s.device).2.disposeSurface p.input).disposeSurface
            p.output }) := by
  have device := h.shares.device
  simp only [absent] at device
  have made : s.device.SparesDepth (createImages p.config s.device).2 :=
    ((Device.SparesDepth.refl s.device).createSurface _).createSurface _
  have ended := ((made _ device).within.disposeSurface p.input).disposeSurface p.output
  refine ⟨{ h.shares with device := ?_, input := absent.symm, output := rfl }, h.buffers, h.others⟩
  change Device.HasDepth p.depthTexture.toList _
  rw [absent]
  exact .of_within_nil ended

theorem keeps_sharesSince_reset :
    Act.Keeps (SharesSince R p₀ s₀) (reset (P := AnyPass H Q)) :=
  keeps_reset (J := fun y => SharesSince R p₀ s₀ y ∧ y.1.depthTexture = none) (fun h => h.1)
    (fun _ _ h => h.deleteDepthTexture sparing) (fun _ _ h => ⟨h.1.withImages h.2, h.2⟩)
    (fun _ _ h => h.1.createDepthTexture sparing h.2)
    fun _ _ _ h => ⟨{ h.shares with }, h.buffers, h.others⟩

/-! ### Frames -/

omit sparing [EffectHooks H ω] [Pass Q ω] in
theorem keeps_spares_copyOutside {s₀ : Stage ω} {copy : CopyPass} (avoids : copy.shader.Avoids R)
    (f : FrameState) (toScreen : Bool) :
    Act.Keeps (s₀.Spares R) (f.copyOutside copy toScreen) := by
  have tested (stencil : Stencil) : Act.Keeps (s₀.Spares R)
      (modify (·.mapDevice (·.setStencil stencil)) : Act (Stage ω) Unit) :=
    Act.keeps_modify fun s hs => hs.mapDevice ((Device.SparesDepth.refl s.device).congr rfl rfl)
  unfold FrameState.copyOutside
  exact (tested _).bind fun _ => (ShaderPass.keeps_spares_draw avoids _ _ _).bind fun _ => tested _

theorem keeps_guards_next {b : Option Uniform} {t : Option Texture} {s₀ : Stage ω} {copy : CopyPass}
    (avoids : copy.shader.Avoids R) (delta : Float32) (f : FrameState) :
    Act.Keeps (fun x : AnyPass H Q × Stage ω => x.1.Guards R b t ∧ s₀.Spares R x.2)
      (FrameState.next copy delta f) :=
  FrameState.keeps_next (AnyPass.keeps_guards_render sparing f.input f.output delta f.masked)
    fun g toScreen => (keeps_spares_copyOutside avoids g toScreen).and_onSecond

theorem keeps_sharesSince_render (delta : FrameDelta) :
    Act.Keeps (SharesSince R p₀ s₀) (render (P := AnyPass H Q) delta) :=
  keeps_render (fun _ _ _ h => ⟨{ h.shares with }, h.buffers, h.others⟩)
    (fun _ _ h => h.updateDepthTexture sparing) (fun _ _ h => h.presentLast)
    fun _ _ seconds _ h => keeps_sharesSince_onPasses (fun _ _ _ f =>
      keeps_guards_next sparing h.shares.copy seconds f) _

end Since

/-! ### Passes that come and go -/

/-- Since `s₀` the pass, whose depth buffer is `b`, has come to hold the texture `t`, and the reserved
uniforms of others are untouched. -/
structure CarriesSince (R : Uniform → Prop) (b : Option Uniform) (t : Option Texture)
    (s₀ : Stage ω) (x : AnyPass H Q × Stage ω) : Prop where
  carries : x.1.Carries R t x.2.uniforms
  buffer : x.1.depthBuffer? = b
  others : s₀.uniforms.Spares (fun u => R u ∧ b ≠ some u) x.2.uniforms
  depth : s₀.device.SparesDepth x.2.device

section Passes

variable {b : Option Uniform} {t : Option Texture} {s₀ s s' : Stage ω} {q q' : AnyPass H Q}
  {p : Pipeline (AnyPass H Q)} {rest : List (AnyPass H Q)}

/-- A pass that joins holds the texture, and the others still do. -/
theorem Shares.insert (h : p.Shares R s) (hq : CarriesSince R b p.depthTexture s (q, s'))
    (new : ∀ u, b = some u → u ∉ depthBuffers p.passes) {qs : List (AnyPass H Q)}
    (hqs : qs.Perm (q :: p.passes)) : Shares R { p with passes := qs } s' where
  device := hq.depth _ h.device
  input := h.input
  output := h.output
  copy := h.copy
  passes r hr := by
    rcases List.mem_cons.1 (hqs.mem_iff.1 hr) with rfl | hr
    · exact hq.carries
    · refine (h.passes r hr).spares hq.others fun u hu hR => ⟨hR, fun e => ?_⟩
      exact new u e (mem_depthBuffers hr hu)
  nodup := by
    have perm : (depthBuffers qs).Perm (depthBuffers (q :: p.passes)) := hqs.filterMap _
    rw [perm.nodup_iff, depthBuffers_cons, List.nodup_append]
    refine ⟨by cases q.depthBuffer? <;> simp, h.nodup, fun u hu w hw => ?_⟩
    rintro rfl
    exact new u (hq.buffer ▸ Option.mem_toList.1 hu) hw

/-- The passes that stay behind when one leaves hold the texture as before. -/
theorem Shares.erase (h : p.Shares R s) (hp : p.passes.Perm (q :: rest))
    (hq : CarriesSince R q.depthBuffer? none s (q', s')) :
    Shares R { p with passes := rest } s' := by
  have perm : (depthBuffers p.passes).Perm (depthBuffers (q :: rest)) := hp.filterMap _
  have nodup := perm.nodup_iff.1 h.nodup
  rw [depthBuffers_cons, List.nodup_append] at nodup
  obtain ⟨-, nodup, apart⟩ := nodup
  refine { h with device := hq.depth _ h.device, passes := fun r hr => ?_, nodup := nodup }
  have carries := h.passes r (hp.mem_iff.2 (List.mem_cons_of_mem q hr))
  refine carries.spares hq.others fun u hu hR => ⟨hR, fun e => ?_⟩
  exact apart u (Option.mem_toList.2 e) u (mem_depthBuffers hr hu) rfl

theorem CarriesSince.step (h : CarriesSince R b t s₀ (q, s)) (guards : q'.Guards R b t)
    (spares : s.Spares R s') : CarriesSince R b t s₀ (q', s') where
  carries := by
    have carries := h.carries.spares spares.uniforms fun _ _ hR => hR
    exact carries.of_guards (h.buffer ▸ guards)
  buffer := (AnyPass.guards_iff.1 guards).1
  others := h.others.trans (spares.uniforms.mono fun u hu => hu.1)
  depth := h.depth.trans spares.depth

variable [EffectHooks H ω] [Pass Q ω] (sparing : SparingProgram R H Q)

include sparing

theorem CarriesSince.setDepthTexture (h : CarriesSince R b t s₀ (q, s)) (t' : Option Texture) :
    CarriesSince R b t' s₀ ((Pass.setDepthTexture q t' .basic s.toShared).1,
      s.withShared (Pass.setDepthTexture q t' .basic s.toShared).2) := by
  obtain ⟨carries, spares⟩ := h.carries.setDepthTexture sparing (s := s.toShared) t'
  refine ⟨carries, ?_, h.others.trans (h.buffer ▸ spares), h.depth⟩
  exact (AnyPass.depthBuffer?_setDepthTexture q t' s.toShared).trans h.buffer

/-- A pass that is made ready holds the texture of the pipeline; one that cannot join holds none. -/
theorem brings_ready (p : Pipeline (AnyPass H Q)) :
    Act.Brings (CarriesSince R b none s₀) (fun _ => CarriesSince R b p.depthTexture s₀)
      (CarriesSince R b none s₀) (ready p) := by
  have told {act : Act (AnyPass H Q × Stage ω) Unit}
      (keeps : ∀ s : Stage ω, Act.Keeps (fun x => x.1.Guards R b none ∧ s.Spares R x.2) act) :
      Act.Keeps (CarriesSince R b none s₀) act := by
    intro x h
    have kept := keeps x.2 x ⟨AnyPass.guards_iff.2 ⟨h.buffer, h.carries.guards⟩, .refl R _⟩
    exact h.step kept.1 kept.2
  unfold ready
  refine (told fun s => AnyPass.keeps_guards_setUp sparing _).brings.bind fun _ => ?_
  refine (told fun s => AnyPass.keeps_guards_setSize sparing _ _).brings.bind fun _ => ?_
  cases ht : p.depthTexture with
  | none => exact (Act.keeps_pure _).brings
  | some t => exact Act.brings_modify fun x h => h.setDepthTexture sparing (some t)

/-- What came of adding the pass `q` to `p`: the pass is in the list of a pipeline that shares its
texture, or the pipeline is as before and the pass holds none. -/
def JoinedOrRefused (R : Uniform → Prop) (p : Pipeline (AnyPass H Q)) (q : AnyPass H Q)
    (s : Stage ω) (added : Added (AnyPass H Q) ω) : Prop :=
  match added.refused with
  | none =>
    added.pipeline.Shares R added.stage ∧
      (depthBuffers added.pipeline.passes).Perm (depthBuffers (q :: p.passes)) ∧
      s.uniforms.Spares (fun u => R u ∧ u ∉ depthBuffers (q :: p.passes)) added.stage.uniforms
  | some (_, q') =>
    added.pipeline = p ∧ CarriesSince R q.depthBuffer? none s (q', added.stage)

theorem Shares.add (h : p.Shares R s) (hq : q.Carries R none s.uniforms)
    (new : ∀ u, q.depthBuffer? = some u → u ∉ depthBuffers p.passes) (index : Option Nat) :
    JoinedOrRefused R p q s (p.add q index s) := by
  have still : CarriesSince R q.depthBuffer? none s (q, s) :=
    ⟨hq, rfl, .refl _ _, .refl _⟩
  unfold Pipeline.add
  simp only
  split
  · exact ⟨rfl, still⟩
  split
  · exact ⟨rfl, still⟩
  rename_i inside
  have readied : Act.Brings (CarriesSince R q.depthBuffer? none s)
      (fun _ => CarriesSince R q.depthBuffer? p.depthTexture s)
      (CarriesSince R q.depthBuffer? none s) (ready p) := brings_ready sparing p
  have brought := readied (q, s) still
  cases hr : ready p (q, s) with
  | error e x =>
    rw [hr] at brought
    exact ⟨rfl, brought⟩
  | ok a x =>
    rw [hr] at brought
    have perm := List.perm_insertIdx x.1 p.passes (Nat.le_of_not_lt inside)
    have joined := h.insert brought new perm
    have presented := (joined.since.updateDepthTexture sparing).presentLast
    have buffers : (depthBuffers (p.passes.insertIdx (index.getD p.passes.length) x.1)).Perm
        (depthBuffers (q :: p.passes)) := by
      refine (perm.filterMap _).trans (.of_eq ?_)
      change depthBuffers (x.1 :: p.passes) = _
      rw [depthBuffers_cons, depthBuffers_cons, brought.buffer]
    refine ⟨presented.shares, presented.buffers ▸ buffers, ?_⟩
    refine (brought.others.mono fun u hu => ⟨hu.1, fun e => hu.2 ?_⟩).trans
      (presented.others.mono fun u hu => ⟨hu.1, fun e => hu.2 (buffers.mem_iff.1 e)⟩)
    exact mem_depthBuffers List.mem_cons_self e

/-- What came of letting passes go from `p`: they hold nothing any more, and the others share a texture
as before. -/
structure Left (R : Uniform → Prop) (p : Pipeline (AnyPass H Q)) (s : Stage ω)
    (qs : List (AnyPass H Q)) (x : Pipeline (AnyPass H Q) × Stage ω) : Prop where
  left : ∀ q ∈ qs, q.Carries R none x.2.uniforms
  shares : x.1.Shares R x.2
  buffers : (depthBuffers (qs ++ x.1.passes)).Perm (depthBuffers p.passes)
  others : s.uniforms.Spares (fun u => R u ∧ u ∉ depthBuffers p.passes) x.2.uniforms

/-- A pass that is let go holds nothing any more. -/
theorem Shares.release (h : p.Shares R s) (hp : p.passes.Perm (q :: rest)) :
    Left R p s [(p.release q rest s).1] (p.release q rest s).2 := by
  have told : CarriesSince R q.depthBuffer? none s (p.forget q s) := by
    have still : CarriesSince R q.depthBuffer? p.depthTexture s (q, s) :=
      ⟨h.passes q (hp.mem_iff.2 List.mem_cons_self), rfl, .refl _ _, .refl _⟩
    unfold forget
    cases ht : p.depthTexture with
    | none =>
      rw [ht] at still
      exact still
    | some t => exact still.setDepthTexture sparing none
  obtain ⟨y, hy⟩ : ∃ y, p.forget q s = y := ⟨_, rfl⟩
  rw [hy] at told
  obtain ⟨⟨p', s'⟩, hx⟩ : ∃ x, { p with passes := rest }.updateDepthTexture y.2 = x := ⟨_, rfl⟩
  have updated : SharesSince R { p with passes := rest } y.2 (p', s') :=
    hx ▸ (h.erase hp told).since.updateDepthTexture sparing
  have presented := updated.presentLast
  have buffers : (depthBuffers p.passes).Perm (q.depthBuffer?.toList ++ depthBuffers rest) :=
    depthBuffers_cons q rest ▸ hp.filterMap _
  have apart : ∀ u, q.depthBuffer? = some u → u ∉ depthBuffers rest := by
    have nodup := buffers.nodup_iff.1 h.nodup
    rw [List.nodup_append] at nodup
    exact fun u hu hr => nodup.2.2 u (Option.mem_toList.2 hu) u hr rfl
  have gone : y.1.Carries R none s'.uniforms :=
    told.carries.spares presented.others fun u hu hR => ⟨hR, apart u (told.buffer ▸ hu)⟩
  obtain ⟨left, same⟩ :
      (if p.config.autoToScreen then sendToScreen y.1 false else y.1).Carries R none s'.uniforms ∧
        (if p.config.autoToScreen then sendToScreen y.1 false else y.1).depthBuffer? =
          q.depthBuffer? := by
    split
    · exact ⟨gone.of_guards (gone.guards.sendToScreen false),
        (AnyPass.depthBuffer?_sendToScreen y.1 false).trans told.buffer⟩
    · exact ⟨gone, told.buffer⟩
  rw [release_eq, hy]
  simp only [hx]
  refine ⟨List.forall_mem_singleton.2 left, presented.shares, ?_, ?_⟩
  · rw [List.singleton_append, depthBuffers_cons, same, presented.buffers]
    exact buffers.symm
  · refine (told.others.mono fun u hu => ⟨hu.1, fun e => hu.2 ?_⟩).trans
      (presented.others.mono fun u hu => ⟨hu.1, fun e => hu.2 ?_⟩)
    · exact buffers.mem_iff.2 (List.mem_append_right _ e)
    · exact mem_depthBuffers (hp.mem_iff.2 List.mem_cons_self) e

omit sparing [EffectHooks H ω] [Pass Q ω] in
theorem Shares.left_nil (h : p.Shares R s) : Left R p s [] (p, s) :=
  ⟨fun _ hq => absurd hq List.not_mem_nil, h, .refl _, .refl _ _⟩

omit sparing [EffectHooks H ω] [Pass Q ω] in
/-- Passes that have left are not touched by what happens to the others. -/
theorem Left.trans {qs qs' : List (AnyPass H Q)} {x y : Pipeline (AnyPass H Q) × Stage ω}
    (first : Left R p s qs x) (nodup : (depthBuffers p.passes).Nodup)
    (second : Left R x.1 x.2 qs' y) : Left R p s (qs ++ qs') y := by
  have apart : (depthBuffers (x.1.passes ++ qs)).Nodup :=
    ((List.perm_append_comm.filterMap _).trans first.buffers).nodup_iff.2 nodup
  refine ⟨List.forall_mem_append.2 ⟨fun q hq => ?_, second.left⟩, second.shares, ?_, ?_⟩
  · exact carries_of_apart apart hq second.others (first.left q hq)
  · refine List.Perm.trans ?_ first.buffers
    rw [List.append_assoc, depthBuffers_append, depthBuffers_append qs]
    exact second.buffers.append_left _
  · refine first.others.trans (second.others.mono fun u hu => ⟨hu.1, fun e => hu.2 ?_⟩)
    refine first.buffers.mem_iff.1 ?_
    rw [depthBuffers_append]
    exact List.mem_append_right _ e

theorem Shares.removeFirst (h : p.Shares R s) (n : Nat) :
    Left R p s (p.removeFirst n s).1 (p.removeFirst n s).2 := by
  induction n generalizing p s with
  | zero => exact h.left_nil
  | succ n ih =>
    unfold Pipeline.removeFirst
    cases hp : p.passes with
    | nil => exact h.left_nil
    | cons q rest =>
      have first := h.release sparing (.of_eq hp)
      exact first.trans h.nodup (ih first.shares)

theorem Shares.removeAll (h : p.Shares R s) : Left R p s (p.removeAll s).1 (p.removeAll s).2 :=
  h.removeFirst sparing p.passes.length

omit sparing in
/-- A pipeline without passes can end its depth texture, even if others may have ended it. -/
theorem deleteDepthTexture_of_nil (passes : p.passes = [])
    (device : s.device.DepthWithin p.depthTexture.toList)
    (input : p.input.depthTexture = p.depthTexture) (output : p.output.depthTexture = none) :
    ∃ x y d, p.deleteDepthTexture s =
        ({ p with input := x, output := y, depthTexture := none }, { s with device := d }) ∧
      x.depthTexture = none ∧ y.depthTexture = none ∧ d.DepthWithin [] := by
  obtain ⟨config, i, o, depth, geometry, copy, qs, timer, disposed⟩ := p
  subst passes
  unfold deleteDepthTexture
  cases depth with
  | none => exact ⟨i, o, s.device, rfl, input, output, device⟩
  | some t =>
    refine ⟨_, _, _, rfl, depthTexture_detachDepth ?_ _, depthTexture_detachDepth ?_ _,
      within_nil_of_release device i o⟩
    · exact List.mem_cons_of_mem _ (List.mem_singleton.2 input)
    · exact output ▸ List.mem_cons_self

/-- A pipeline that comes to its end ends its depth texture; its passes may take textures of their own
with them. -/
theorem Shares.dispose (h : p.Shares R s) :
    (p.dispose s).2.1.Shares R (p.dispose s).2.2 ∧
      (p.dispose s).2.1.passes.Sublist p.passes ∧
      s.uniforms.Spares R (p.dispose s).2.2.uniforms := by
  unfold Pipeline.dispose
  split
  · exact ⟨h, .refl _, .refl _ _⟩
  obtain ⟨⟨qs, t⟩, ht⟩ : ∃ x, threadList (fun q s => Pass.dispose q s) p.passes s = x := ⟨_, rfl⟩
  obtain ⟨spares, within⟩ : s.uniforms.Spares R t.uniforms ∧
      t.device.DepthWithin p.depthTexture.toList := by
    have kept := keeps_threadList
      (I := fun t : Stage ω => s.uniforms.Spares R t.uniforms ∧
        t.device.DepthWithin p.depthTexture.toList)
      (f := fun (q : AnyPass H Q) (s : Stage ω) => Pass.dispose q s)
      (fun q t ht => ⟨ht.1.trans (AnyPass.spares_dispose sparing q t).1,
        (AnyPass.spares_dispose sparing q t).2 _ ht.2⟩)
      p.passes ⟨.refl R s.uniforms, h.device.within⟩
    rwa [ht] at kept
  obtain ⟨x, y, d, hd, hx, hy, ended⟩ :=
    deleteDepthTexture_of_nil (p := ({ p with passes := [] } : Pipeline (AnyPass H Q))) (s := t) rfl
      within h.input h.output
  have device : Device.HasDepth [] ((d.disposeSurface x).disposeSurface y) :=
    .of_within_nil ((ended.disposeSurface x).disposeSurface y)
  simp only [ht, hd]
  refine ⟨{ h with
    device := device.congr rfl rfl
    input := hx
    output := hy
    passes := fun q hq => absurd hq List.not_mem_nil
    nodup := List.nodup_nil }, List.nil_sublist _, spares⟩

end Passes

end Pipeline

end ScreenEffects
