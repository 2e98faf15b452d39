import ScreenEffects.Proofs.Pass.Sizes
import ScreenEffects.Proofs.Pipeline.Account
import ScreenEffects.Proofs.Pipeline.Lasting

/-!
# Sizes in a pipeline

The images of a pipeline are as large as the screen, and so is the shared depth texture; the surfaces of
its passes fit. `Pipeline.Sized` says so, of the descriptions and of what the device has on record.

* `keeps_scaled_reset`, `keeps_scaled_render`, `Scaled.add`, `Scaled.release` : nothing that happens to a
  pipeline changes this. A pass that comes back fits, whatever size the screen had when it left.
* `Scaled.exists_setSize` : a new size reaches the images, the depth texture and each pass of the list
  once (`EachResized`), and nothing fails.
-/

namespace ScreenEffects

variable {H Q ω : Type} {theirs : ω → Multiset Resource} {m : Multiset Resource}

/-! ## Passes -/

namespace AnyPass

/-- What the sizes of a pass depend on, if it is one of the library and has surfaces of its own. -/
def sizing? : AnyPass H Q → Option Sizing
  | builtin q => q.sizing?
  | own _ => none

/-- The pass is one of the library, its resolution is a sound one, and its surfaces carry no depth
textures. -/
def Sound : AnyPass H Q → Prop
  | builtin q => ∀ z ∈ q.sizing?, z.Sound
  | own _ => False

/-- Unless the pass is disposed of, its surfaces fit. -/
def InStep (d : Device) (q : AnyPass H Q) : Prop := ∀ z ∈ q.sizing?, z.disposed = false → z.Fits d

variable {q : AnyPass H Q} {d d' : Device} {s₀ s : Stage ω}

theorem owned_eq_surfaces {z : Sizing} (hz : z ∈ q.sizing?) : q.owned = z.surfaces := by
  cases q with
  | builtin q => exact BuiltinPass.owned_eq_surfaces hz
  | own q => cases hz

theorem InStep.same (h : q.InStep d) (same : d.SameSizes m d') (hm : q.resources ≤ m) :
    q.InStep d' := fun z hz alive =>
  (h z hz alive).same same (owned_eq_surfaces hz ▸ hm)

/-- Whether a pass fits is about what its sizes depend on. -/
theorem inStep_congr {q' : AnyPass H Q} (h : q'.sizing? = q.sizing?) (d : Device) :
    q'.InStep d = q.InStep d :=
  congrArg (fun o : Option Sizing => ∀ z ∈ o, z.disposed = false → z.Fits d) h

theorem Sound.exists_builtin (h : q.Sound) : ∃ b, q = builtin b := by
  cases q with
  | builtin q => exact ⟨q, rfl⟩
  | own q => exact h.elim

theorem Sound.sizing (h : q.Sound) : ∀ z ∈ q.sizing?, z.Sound := by
  cases q with
  | builtin q => exact h
  | own q => exact h.elim

/-- A pass of the library that is made with a sound resolution, and no surfaces yet, is sound. -/
theorem sound_of_fresh {b : BuiltinPass H} (fresh : b.owned = [])
    (resolution : ∀ z ∈ b.sizing?, ∀ r ∈ z.resolution, r.Sound) :
    Sound (builtin b : AnyPass H Q) := fun z hz => by
  refine ⟨resolution z hz, fun x hx => ?_⟩
  rw [← BuiltinPass.owned_eq_surfaces hz, fresh] at hx
  exact absurd hx List.not_mem_nil

/-- Soundness of a pass of the library is about what its sizes depend on. -/
theorem sound_congr {b b' : BuiltinPass H} (h : b'.sizing? = b.sizing?) :
    Sound (builtin b' : AnyPass H Q) = Sound (builtin b : AnyPass H Q) :=
  congrArg (fun z : Option Sizing => ∀ x ∈ z, x.Sound) h

variable [EffectHooks H ω]

theorem sizing?_edit (q : AnyPass H Q) (op : EffectPass.Op H ω) (s : Stage ω) :
    (q.edit op s).sizing? = q.sizing? := by
  cases q with
  | builtin q => exact q.sizing?_edit op s
  | own q => rfl

variable [Pass Q ω]

/-- A pass is marked as disposed just if what its sizes depend on says so. -/
theorem disposed_flags {z : Sizing} (hz : z ∈ q.sizing?) : (Pass.flags q).disposed = z.disposed := by
  cases q with
  | builtin q => cases q <;> cases hz <;> rfl
  | own q => cases hz

theorem sizing?_withFlags (q : AnyPass H Q) (flags : PassFlags) :
    (Pass.withFlags q flags).sizing? = q.sizing?.map ({ · with disposed := flags.disposed }) := by
  cases q with
  | builtin q => exact q.sizing?_withFlags flags
  | own q => rfl

theorem sizing?_sendToScreen (q : AnyPass H Q) (toScreen : Bool) :
    (Pipeline.sendToScreen q toScreen).sizing? = q.sizing? := by
  cases q with
  | builtin q => exact q.sizing?_sendToScreen toScreen
  | own q => rfl

theorem sizing?_setDepthTexture (q : AnyPass H Q) (t : Option Texture) (s : Shared ω) :
    (Pass.setDepthTexture q t .basic s).1.sizing? = q.sizing? := by
  cases q with
  | builtin q => exact q.sizing?_setDepthTexture t .basic s
  | own q => rfl

theorem sizing?_dispose (q : AnyPass H Q) (s : Stage ω) :
    (Pass.dispose q s).1.sizing? =
      q.sizing?.map ({ · with surfaces := [], disposed := true }) := by
  cases q with
  | builtin q => exact q.sizing?_dispose s
  | own q => rfl

/-- Nothing that a pipeline does with a sound pass makes it unsound. -/
theorem lasting_sound : Lasting (Sound (H := H) (Q := Q)) where
  setUp setup := by
    rintro ⟨q, s⟩ h
    obtain ⟨b, rfl⟩ := Sound.exists_builtin h
    rw [after_wrap rfl]
    exact BuiltinPass.sound_setUp setup h s
  setSize width height := by
    rintro ⟨q, s⟩ h
    obtain ⟨b, rfl⟩ := Sound.exists_builtin h
    rw [after_wrap rfl]
    exact BuiltinPass.keeps_sound_setSize width height (b, s) h
  setDepthTexture q t s := by
    cases q with
    | builtin q => exact sound_congr (q.sizing?_setDepthTexture t .basic s)
    | own q => rfl
  sendToScreen q b := by
    cases q with
    | builtin q => exact sound_congr (q.sizing?_sendToScreen b)
    | own q => rfl
  render input output delta masked := by
    rintro ⟨q, s⟩ h
    obtain ⟨b, rfl⟩ := Sound.exists_builtin h
    rw [after_wrap rfl]
    exact (sound_congr (BuiltinPass.sizing?_after_render input output delta masked (b, s))).mpr h

omit [Pass Q ω] in
theorem Sound.edit (h : q.Sound) (op : EffectPass.Op H ω) (s : Stage ω) : (q.edit op s).Sound := by
  obtain ⟨b, rfl⟩ := h.exists_builtin
  exact (sound_congr (b.sizing?_edit op s)).mpr h

theorem Sound.withFlags (h : q.Sound) (flags : PassFlags) : (Pass.withFlags q flags).Sound := by
  obtain ⟨b, rfl⟩ := h.exists_builtin
  intro z hz
  change z ∈ (b.withFlags flags).sizing? at hz
  rw [b.sizing?_withFlags] at hz
  obtain ⟨y, hy, rfl⟩ := Option.mem_map.1 hz
  exact ⟨(h y hy).resolution, (h y hy).bare⟩

theorem Sound.dispose (h : q.Sound) (s : Stage ω) : (Pass.dispose q s).1.Sound := by
  obtain ⟨b, rfl⟩ := h.exists_builtin
  intro z hz
  change z ∈ (b.dispose s).1.sizing? at hz
  rw [b.sizing?_dispose] at hz
  obtain ⟨y, hy, rfl⟩ := Option.mem_map.1 hz
  exact ⟨(h y hy).resolution, List.forall_mem_nil _⟩

/-- A pass that is disposed of has no surfaces that might not fit. -/
theorem inStep_dispose (q : AnyPass H Q) (s : Stage ω) (d : Device) :
    (Pass.dispose q s).1.InStep d := by
  intro z hz alive
  rw [sizing?_dispose] at hz
  obtain ⟨y, -, rfl⟩ := Option.mem_map.1 hz
  cases alive

/-- A pass that is given the size of the screen fits it, and does not fail. -/
theorem exists_setSize (tidy : TidyHooks theirs H) (h : s.Owns theirs (q.resources + m))
    (sound : q.Sound)
    (complete : ∀ z ∈ q.sizing?, z.disposed = false → z.surfaces.length = z.count)
    {width height : UInt32} (screen : s.device.drawingSize = (width, height)) :
    ∃ q' t, Pass.setSize width height (q, s) = .ok () (q', t) ∧ q'.resources = q.resources ∧
      t.Owns theirs (q.resources + m) ∧ s.device.SameSizes m t.device ∧ q'.InStep t.device := by
  obtain ⟨b, rfl⟩ := sound.exists_builtin
  obtain ⟨b', t, resized, same, fits⟩ := BuiltinPass.exists_setSize h sound complete screen
  have kept := BuiltinPass.keeps_owned_setSize tidy width height (b, s) ⟨rfl, .refl theirs s⟩
  unfold Act.after at kept
  rw [resized] at kept
  refine ⟨builtin b', t, ?_, kept.1, kept.2 _ h, same, fits⟩
  change wrap builtin b s (BuiltinPass.setSize width height) = _
  unfold wrap
  rw [resized]

variable (sized : SizedHooks theirs H)

include sized

/-- To render a sound pass changes neither what it owns nor what sizes depend on, and no size. -/
theorem keeps_sizing_render {k : Multiset Resource × Option Sizing} (input output : Surface)
    (delta : Float32) (masked : Bool) :
    Act.Keeps (fun x : AnyPass H Q × Stage ω =>
        ((x.1.resources, x.1.sizing?) = k ∧ x.1.Sound) ∧ s₀.KeepsSizes theirs x.2)
      (Pass.render input output delta masked) := by
  rintro ⟨q, s⟩ ⟨⟨same, sound⟩, hs⟩
  have sound' := lasting_sound.render input output delta masked (q, s) sound
  obtain ⟨b, rfl⟩ := sound.exists_builtin
  rw [after_wrap rfl] at sound' ⊢
  refine ⟨⟨(Prod.ext ?_ ?_).trans same, sound'⟩, ?_⟩
  · exact congrArg resourcesOf (BuiltinPass.owned_after_render input output delta masked (b, s))
  · exact BuiltinPass.sizing?_after_render input output delta masked (b, s)
  · exact BuiltinPass.keeps_of_calls (sized.keep s₀) (stageCalls_keepsSizes s₀) input output delta
      masked (b, s) hs

/-- Nor does a whole turn. -/
theorem keeps_sizing_next {k : Multiset Resource × Option Sizing} (copy : CopyPass)
    (delta : Float32) (f : FrameState) :
    Act.Keeps (fun x : AnyPass H Q × Stage ω =>
        ((x.1.resources, x.1.sizing?) = k ∧ x.1.Sound) ∧ s₀.KeepsSizes theirs x.2)
      (FrameState.next copy delta f) :=
  FrameState.keeps_next (keeps_sizing_render sized f.input f.output delta f.masked)
    fun g toScreen => Act.Keeps.and_onSecond (I := fun q : AnyPass H Q =>
      (q.resources, q.sizing?) = k ∧ q.Sound)
      (g.keeps_copyOutside_of_calls (stageCalls_keepsSizes s₀) copy toScreen)

end AnyPass

/-- Each pass of the list `qs`, in order, was given the size once: the first on the stage `s`, and each
other one on the stage that the one before it left. -/
inductive EachResized {P : Type} [Pass P ω] (size : UInt32 × UInt32) :
    List P → Stage ω → List P → Stage ω → Prop
  | nil (s : Stage ω) : EachResized size [] s [] s
  | cons {q q' : P} {qs qs' : List P} {s t u : Stage ω}
      (first : Pass.setSize size.1 size.2 (q, s) = .ok () (q', t))
      (others : EachResized size qs t qs' u) : EachResized size (q :: qs) s (q' :: qs') u

section EachResized

variable [EffectHooks H ω] [Pass Q ω]

/-- Passes that are given the size of the screen fit it, and none of them fails. -/
theorem exists_forEach_setSize (tidy : TidyHooks theirs H) {qs : List (AnyPass H Q)} {s : Stage ω}
    (h : s.Owns theirs (passResources qs + m)) (sound : ∀ q ∈ qs, q.Sound)
    (complete : ∀ q ∈ qs, ∀ z ∈ q.sizing?, z.disposed = false → z.surfaces.length = z.count)
    {size : UInt32 × UInt32} (screen : s.device.drawingSize = size) :
    ∃ qs' t, Act.forEach (Pass.setSize size.1 size.2) (qs, s) = .ok () (qs', t) ∧
      EachResized size qs s qs' t ∧ s.device.SameSizes m t.device ∧
      ∀ q ∈ qs', q.InStep t.device := by
  -- the resources of the passes before are part of what the others leave alone
  induction qs generalizing s m with
  | nil =>
    exact ⟨[], s, Act.foldEach_nil_eq_ok.2 ⟨rfl, rfl, rfl⟩, .nil s, .refl m _, List.forall_mem_nil _⟩
  | cons q qs ih =>
    obtain ⟨soundQ, sound⟩ := List.forall_mem_cons.1 sound
    obtain ⟨completeQ, complete⟩ := List.forall_mem_cons.1 complete
    rw [passResources_cons, add_assoc] at h
    obtain ⟨q', t, resized, same, owns, kept, fits⟩ :=
      AnyPass.exists_setSize tidy h soundQ completeQ screen
    rw [add_left_comm] at owns
    obtain ⟨qs', u, others, chain, kept', fits'⟩ :=
      ih owns sound complete (kept.screen.trans screen)
    refine ⟨q' :: qs', u, ?_, .cons resized chain,
      (kept.mono (Multiset.le_add_left m _)).trans (kept'.mono (Multiset.le_add_left m _)),
      List.forall_mem_cons.2 ⟨fits.same kept' (same ▸ Multiset.le_add_right _ m), fits'⟩⟩
    unfold Act.forEach at others ⊢
    rw [Act.foldEach_cons_eq_ok]
    exact ⟨(), q', t, qs', resized, others, rfl⟩

end EachResized

namespace Pipeline

/-- The images and the shared depth texture are as large as the screen, in their descriptions and on
record, and the surfaces of the passes in the list fit. The depth texture is attached to the image and to
nothing else. -/
structure Sized (d : Device) (p : Pipeline (AnyPass H Q)) : Prop where
  input : p.input.IsSized d d.drawingSize
  output : p.output.IsSized d d.drawingSize
  attached : p.input.depthTexture = p.depthTexture
  detached : p.output.depthTexture = none
  depth : ∀ t ∈ p.depthTexture, d.sizeOf? (.texture t) = some d.drawingSize
  passes : ∀ q ∈ p.passes, q.InStep d

/-- Just what the pipeline and its passes own, and the rest `m`, lives besides what is theirs, and all of
it has its size. -/
structure Scaled (theirs : ω → Multiset Resource) (m : Multiset Resource)
    (x : Pipeline (AnyPass H Q) × Stage ω) : Prop where
  tended : Tended theirs m x
  sized : x.1.Sized x.2.device

variable {p : Pipeline (AnyPass H Q)} {d d' : Device} {s t : Stage ω}

/-! ## What the pipeline owns -/

theorem input_le_resources (p : Pipeline (AnyPass H Q)) : p.input.resources ≤ p.resources := by
  unfold resources fixtures
  rw [add_assoc, add_assoc]
  exact Multiset.le_add_right _ _

theorem output_le_resources (p : Pipeline (AnyPass H Q)) : p.output.resources ≤ p.resources := by
  unfold resources fixtures
  rw [add_comm p.input.resources, add_assoc, add_assoc]
  exact Multiset.le_add_right _ _

theorem depth_mem_resources {t : Texture} (ht : t ∈ p.depthTexture) : .texture t ∈ p.resources := by
  rw [resources, Option.mem_def.1 ht]
  exact Multiset.mem_add.2 (.inr (Multiset.mem_singleton_self _))

theorem resources_le_passResources {qs : List (AnyPass H Q)} {q : AnyPass H Q} (hq : q ∈ qs) :
    q.resources ≤ passResources qs := by
  obtain ⟨before, after, rfl⟩ := List.append_of_mem hq
  rw [passResources_append, passResources_cons]
  exact (Multiset.le_add_right _ _).trans (Multiset.le_add_left _ _)

/-- What the pipeline and its passes own, and the screen, kept their sizes. -/
theorem Sized.same (h : p.Sized d) (same : d.SameSizes m d') (own : p.resources ≤ m)
    (passes : passResources p.passes ≤ m) : p.Sized d' where
  input := same.screen ▸ h.input.same same (p.input_le_resources.trans own)
  output := same.screen ▸ h.output.same same (p.output_le_resources.trans own)
  attached := h.attached
  detached := h.detached
  depth t ht := by
    have kept := same.sizes _ (Multiset.mem_of_le own (depth_mem_resources ht))
    rw [kept, same.screen]
    exact h.depth t ht
  passes q hq := (h.passes q hq).same same ((resources_le_passResources hq).trans passes)

theorem Sized.sameAll (h : p.Sized d)
    (same : d.SameSizes (p.resources + passResources p.passes + m) d') : p.Sized d' :=
  h.same same ((Multiset.le_add_right _ _).trans (Multiset.le_add_right _ m))
    ((Multiset.le_add_left _ p.resources).trans (Multiset.le_add_right _ m))

theorem Scaled.onStage (h : Scaled theirs m (p, s)) (ht : s.KeepsSizes theirs t) :
    Scaled theirs m (p, t) where
  tended := h.tended.onStage ht.steady
  sized := h.sized.sameAll (ht _ h.tended.owns).2

/-- Passes that own what they owned and depend for their sizes on what they depended on can take the
place of the passes. -/
theorem Scaled.withPasses (h : Scaled theirs m (p, s)) {qs : List (AnyPass H Q)}
    (same : qs.map (fun q => (q.resources, q.sizing?)) =
      p.passes.map fun q => (q.resources, q.sizing?)) :
    Scaled theirs m ({ p with passes := qs }, s) where
  tended := by
    have owned := congrArg (List.map Prod.fst) same
    rw [List.map_map, List.map_map] at owned
    exact h.tended.steady (passResources_congr owned) (.refl theirs s)
  sized := { h.sized with
    passes := by
      have fits := congrArg (List.map fun k : Multiset Resource × Option Sizing =>
        ∀ z ∈ k.2, z.disposed = false → z.Fits s.device) same
      rw [List.map_map, List.map_map] at fits
      exact forall_mem_of_map_eq fits h.sized.passes }

/-! ## The images -/

/-- The images are made as large as the screen. -/
theorem isSized_createImages (h : d.Lives m) (config : PipelineConfig) :
    let x := createImages config d
    x.1.1.IsSized x.2 d.drawingSize ∧ x.1.2.IsSized x.2 d.drawingSize ∧ d.SameSizes m x.2 := by
  intro x
  let spec (label : String) : SurfaceSpec := imageSpec config label d.drawingSize
  let d' := (d.createSurface (spec "composer.input")).2
  have size (label : String) : ((spec label).width, (spec label).height) = d.drawingSize :=
    Prod.ext (max_one_eq d.one_le_drawingSize.1) (max_one_eq d.one_le_drawingSize.2)
  have first := d.isSized_createSurface (spec "composer.input")
  have second := d'.isSized_createSurface (spec "composer.output")
  rw [size] at first second
  have same := (h.createSurface (spec "composer.input")).sameSizes_createSurface
    (spec "composer.output")
  exact ⟨first.same same (Multiset.le_add_right _ m), second,
    (h.sameSizes_createSurface _).trans (same.mono (Multiset.le_add_left m _))⟩

/-- A pipeline begins with images as large as the screen. -/
theorem scaled_create (h : s.Owns theirs m) (config : PipelineConfig) :
    Scaled theirs m (create config s : Pipeline (AnyPass H Q) × Stage ω) := by
  obtain ⟨input, output, same⟩ := isSized_createImages h config
  have made := Device.sameSizes_createGeometry
    ((createImages config s.device).1.1.resources + (createImages config s.device).1.2.resources)
    (createImages config s.device).2
  refine ⟨tended_create h config, ?_⟩
  have screen : (create config s : Pipeline (AnyPass H Q) × Stage ω).2.device.drawingSize =
      s.device.drawingSize := made.screen.trans same.screen
  refine ⟨?_, ?_, rfl, rfl, nofun, List.forall_mem_nil _⟩ <;> rw [screen]
  · exact input.same made (Multiset.le_add_right _ _)
  · exact output.same made (Multiset.le_add_left _ _)

section NewSize

variable {P : Type} [Pass P ω] {p : Pipeline P} {s t u : Stage ω}

/-- Once the screen and the images have their new size, it is the turn of the passes. -/
theorem setSize_of_images (alive : p.disposed = false) {width height : UInt32}
    {size : UInt32 × UInt32} (screen : (s.device.setSize width height).drawingSize = size)
    {input output : Surface}
    (first : Stage.onDevice (Device.resizeSurface p.input size.1 size.2)
      (s.mapDevice (·.setSize width height)) = .ok input t)
    (second : Stage.onDevice (Device.resizeSurface p.output size.1 size.2) t = .ok output u) :
    setSize width height (p, s) =
      onPasses (Act.forEach (Pass.setSize size.1 size.2)) ({ p with input, output }, u) := by
  subst screen
  unfold setSize
  rw [checkAlive_bind alive]
  refine (Act.bind_of_eq_ok (Act.onSecond_eq_ok.2 ⟨t, first, rfl⟩) _).trans ?_
  exact Act.bind_of_eq_ok (s := ({ p with input }, t)) (Act.onSecond_eq_ok.2 ⟨u, second, rfl⟩) _

end NewSize

variable [EffectHooks H ω] [Pass Q ω]

theorem Scaled.presentLast (h : Scaled theirs m (p, s)) : Scaled theirs m (p.presentLast, s) := by
  unfold Pipeline.presentLast
  split
  · exact h.withPasses (map_sendLastToScreen
      (fun q b => Prod.ext (resources_sendToScreen q b) (q.sizing?_sendToScreen b)) p.passes)
  · exact h

section Tidy

variable (tidy : TidyProgram theirs H Q)

include tidy

/-! ## The depth texture -/

theorem Scaled.shareDepthTexture (h : Scaled theirs m (p, s)) (t : Option Texture) :
    Scaled theirs m (p.shareDepthTexture t s) := by
  have same : (p.shareDepthTexture t s).1.passes.map (fun q => (q.resources, q.sizing?)) =
      p.passes.map fun q => (q.resources, q.sizing?) :=
    map_shareDepthTexture (fun q t s => Prod.ext (congrArg resourcesOf (q.owned_setDepthTexture t s))
      (q.sizing?_setDepthTexture t s)) p t s
  exact (h.withPasses same).onStage
    ((Stage.KeepsSizes.refl theirs s).withShared (theirs_shareDepthTexture tidy p t s))

/-- A depth texture is made as large as the image, and attached to it. -/
theorem Scaled.createDepthTexture (h : Scaled theirs m (p, s)) (absent : p.depthTexture = none) :
    Scaled theirs m (p.createDepthTexture s) := by
  let made := s.device.createDepthTexture p.input.width p.input.height
  let d := (made.2.attachDepth p.input (some made.1)).2
  have same : s.device.SameSizes (p.resources + passResources p.passes + m) d :=
    h.tended.owns.sameSizes fun _ hd =>
      (hd.sameSizes_createDepthTexture p.input.width p.input.height).congr rfl rfl rfl
  have large : (max 1 p.input.width, max 1 p.input.height) = d.drawingSize := by
    obtain ⟨width, height⟩ : p.input.width = s.device.drawingSize.1 ∧
        p.input.height = s.device.drawingSize.2 := Prod.ext_iff.1 h.sized.input.described
    rw [same.screen, width, height, max_one_eq s.device.one_le_drawingSize.1,
      max_one_eq s.device.one_le_drawingSize.2]
  have size : d.sizeOf? (.texture made.1) = some d.drawingSize :=
    large ▸ s.device.sizeOf?_createDepthTexture p.input.width p.input.height
  have kept := h.sized.sameAll same
  have begun : Scaled theirs m
      ({ p with input := { p.input with depthTexture := some made.1 }, depthTexture := some made.1 },
        { s with device := d }) := by
    refine ⟨h.tended.attachDepth absent, ⟨⟨kept.input.described, kept.input.recorded, kept.input.color⟩,
      kept.output, rfl, kept.detached, ?_, kept.passes⟩⟩
    rintro _ ⟨⟩
    exact size
  exact begun.shareDepthTexture tidy _

omit tidy [EffectHooks H ω] [Pass Q ω] in
/-- Only the image has the depth texture to give up. -/
theorem Sized.detachDepth_eq {a : Texture} (h : p.Sized d) (ha : p.depthTexture = some a) :
    detachDepth a p.input d =
        ({ p.input with depthTexture := none }, (d.attachDepth p.input none).2) ∧
      ∀ d', detachDepth a p.output d' = (p.output, d') :=
  ⟨if_pos (h.attached.trans ha), fun _ => if_neg (by rw [h.detached]; nofun)⟩

omit tidy [EffectHooks H ω] [Pass Q ω] in
/-- The depth texture is given up and disposed of without a change of any other size. -/
theorem Tended.sameSizes_disposeDepth (h : Tended theirs m (p, s)) {a : Texture}
    (ha : p.depthTexture = some a) :
    s.device.SameSizes (p.fixtures + passResources p.passes + m)
      ((s.device.attachDepth p.input none).2.disposeTexture a) := by
  let others := p.fixtures + passResources p.passes + m + theirs s.host
  have owns : s.device.Lives (p.resources + passResources p.passes + m + theirs s.host) := h.owns
  have sum : p.resources + passResources p.passes + m + theirs s.host = {.texture a} + others := by
    simp only [others, resources, ha, depthResources, Option.elim_some]
    abel
  rw [sum] at owns
  have detached : s.device.SameSizes others (s.device.attachDepth p.input none).2 :=
    (Device.SameSizes.refl _ _).congr rfl rfl rfl
  have left : Device.Lives ({.texture a} + others) (s.device.attachDepth p.input none).2 :=
    owns.still ⟨rfl, rfl⟩
  exact (detached.trans left.sameSizes_disposeTexture).mono (Multiset.le_add_right _ _)

/-- Once the depth texture is gone, the image carries none. -/
theorem Scaled.deleteDepthTexture (h : Scaled theirs m (p, s)) :
    Scaled theirs m (p.deleteDepthTexture s) ∧ (p.deleteDepthTexture s).1.depthTexture = none := by
  obtain ⟨tended, absent⟩ := h.tended.deleteDepthTexture tidy
  refine ⟨⟨tended, ?_⟩, absent⟩
  unfold Pipeline.deleteDepthTexture
  cases ha : p.depthTexture with
  | none => exact h.sized
  | some a =>
    let d := (s.device.attachDepth p.input none).2.disposeTexture a
    obtain ⟨first, second⟩ := h.sized.detachDepth_eq ha
    have same := h.tended.sameSizes_disposeDepth ha
    have bare : ({ p with
        input := { p.input with depthTexture := none }, depthTexture := none } :
          Pipeline (AnyPass H Q)).Sized s.device :=
      ⟨⟨h.sized.input.described, h.sized.input.recorded, h.sized.input.color⟩, h.sized.output, rfl,
        h.sized.detached, nofun, h.sized.passes⟩
    rw [← add_zero p.fixtures] at same
    have left := bare.sameAll same
    unfold Pipeline.shareDepthTexture
    obtain ⟨⟨qs, u⟩, hx⟩ : ∃ x, threadList
      (fun (q : AnyPass H Q) (s : Shared ω) => Pass.setDepthTexture q none .basic s) p.passes
        s.toShared = x := ⟨_, rfl⟩
    have fits : ∀ q ∈ qs, q.InStep d := by
      have threaded := map_threadList (fun (q : AnyPass H Q) s => AnyPass.inStep_congr
        (q.sizing?_setDepthTexture none s) d) p.passes s.toShared
      rw [hx] at threaded
      exact forall_mem_of_map_eq threaded left.passes
    have device : (s.withShared u).device = s.device := rfl
    simp only [hx, device, first, second]
    exact { left with passes := fits }

theorem Scaled.updateDepthTexture (h : Scaled theirs m (p, s)) :
    Scaled theirs m (p.updateDepthTexture s) := by
  unfold Pipeline.updateDepthTexture
  split
  · exact h.createDepthTexture tidy ‹_›
  · exact (h.deleteDepthTexture tidy).1
  · exact h

/-! ## A new size -/

omit tidy [EffectHooks H ω] [Pass Q ω] in
/-- **A new size reaches the screen and the images first.** The depth texture has it with the image that
carries it. Then it is the turn of the passes, whatever they do. -/
theorem Scaled.exists_resizeImages (h : Scaled theirs m (p, s)) (width height : UInt32) :
    ∃ input output t,
      (∀ (P : Type) [Pass P ω] (qs : List P),
        setSize width height ({ p with passes := qs }, s) =
          onPasses (Act.forEach (Pass.setSize t.device.drawingSize.1 t.device.drawingSize.2))
            ({ p with input, output, passes := qs }, t)) ∧
      t.toShared = s.toShared ∧
      t.device.drawingSize = (s.device.setSize width height).drawingSize ∧
      Tended theirs m ({ p with input, output }, t) ∧
      ({ p with input, output, passes := [] } : Pipeline (AnyPass H Q)).Sized t.device := by
  let size := (s.device.setSize width height).drawingSize
  have sides : (max 1 size.1, max 1 size.2) = size :=
    Prod.ext (max_one_eq (s.device.setSize width height).one_le_drawingSize.1)
      (max_one_eq (s.device.setSize width height).one_le_drawingSize.2)
  let others := {Resource.geometry p.geometry} + depthResources p.depthTexture +
    passResources p.passes + m
  -- first the image, with the depth texture that it carries
  have owns : Stage.Owns theirs (p.input.resources + (p.output.resources + others))
      (s.mapDevice (·.setSize width height)) := by
    have still : s.Steady theirs (s.mapDevice (·.setSize width height)) :=
      (Stage.Steady.refl theirs s).still ⟨rfl, rfl⟩ rfl
    have sum : p.resources + passResources p.passes + m =
        p.input.resources + (p.output.resources + others) := by
      simp only [resources, fixtures, others]
      abel
    exact sum ▸ still _ h.tended.owns
  obtain ⟨d, first, owns, outcome⟩ := owns.exists_resizeSurface size.1 size.2
  rw [sides] at outcome
  -- then the other image, which carries none
  rw [add_left_comm] at owns
  obtain ⟨d', second, owns, outcome'⟩ := owns.exists_resizeSurface size.1 size.2
  rw [sides] at outcome'
  have same : d.SameSizes (p.input.resources + others) d' := outcome'.sameSizes h.sized.detached
  have screen : d'.drawingSize = size := same.screen.trans outcome.screen
  let input : Surface := { p.input with width := max 1 size.1, height := max 1 size.2 }
  let output : Surface := { p.output with width := max 1 size.1, height := max 1 size.2 }
  refine ⟨input, output, { s with device := d' }, fun P _ qs => ?_, rfl, screen,
    ⟨h.tended.alive, ?_⟩, ?_⟩
  · simp only [screen]
    exact setSize_of_images (p := { p with passes := qs }) h.tended.alive rfl first second
  · have sum : p.output.resources + (p.input.resources + others) =
        p.input.resources + p.output.resources + {.geometry p.geometry} +
          depthResources p.depthTexture + passResources p.passes + m := by
      simp only [others]
      abel
    exact sum ▸ owns
  · have image : input.IsSized d size :=
      ⟨sides, outcome.isSized.recorded, outcome.isSized.color⟩
    have other : output.IsSized d' size :=
      ⟨sides, outcome'.isSized.recorded, outcome'.isSized.color⟩
    have image' : input.IsSized d' size := image.same same (Multiset.le_add_right _ _)
    rw [← screen] at image' other
    refine ⟨image', other, h.sized.attached, h.sized.detached, fun a (ha : a ∈ p.depthTexture) => ?_,
      List.forall_mem_nil _⟩
    have mem : .texture a ∈ others := by
      simp only [others, Option.mem_def.1 ha, depthResources, Option.elim_some]
      simp
    have carried := outcome.carried a (h.sized.attached ▸ ha) (Multiset.mem_add.2 (.inr mem))
    exact (same.sizes _ (Multiset.mem_add.2 (.inr mem))).trans (screen.symm ▸ carried)

/-- **A new size reaches everything once.** After the screen and the images, each pass of the list is
given the size of the screen, one after the other; so would be any other passes. Nothing fails, and
afterwards everything has its size. -/
theorem Scaled.exists_setSize (h : Scaled theirs m (p, s)) (sound : ∀ q ∈ p.passes, q.Sound)
    (width height : UInt32) :
    ∃ x t, setSize width height (p, s) = .ok () x ∧ Scaled theirs m x ∧
      x.2.device.drawingSize = (s.device.setSize width height).drawingSize ∧
      t.toShared = s.toShared ∧ EachResized x.2.device.drawingSize p.passes t x.1.passes x.2 ∧
      ∀ (P : Type) [Pass P ω] (qs : List P),
        setSize width height ({ p with passes := qs }, s) =
          onPasses (Act.forEach (Pass.setSize x.2.device.drawingSize.1 x.2.device.drawingSize.2))
            ({ x.1 with passes := qs }, t) := by
  obtain ⟨input, output, t, turn, shared, screen, tended, images⟩ :=
    h.exists_resizeImages width height
  let p' : Pipeline (AnyPass H Q) := { p with input, output }
  have owns : t.Owns theirs (passResources p.passes + (p'.resources + m)) := by
    have sum : passResources p.passes + (p'.resources + m) =
        p'.resources + passResources p.passes + m := by abel
    exact sum ▸ tended.owns
  have complete : ∀ q ∈ p.passes, ∀ z ∈ q.sizing?, z.disposed = false →
      z.surfaces.length = z.count := fun q hq z hz alive => (h.sized.passes q hq z hz alive).complete
  obtain ⟨qs, u, passes, chain, kept, fits⟩ :=
    exists_forEach_setSize tidy.hooks owns sound complete rfl
  have done : setSize width height (p, s) = .ok () ({ p' with passes := qs }, u) :=
    (turn (AnyPass H Q) p.passes).trans (Act.within_eq_ok.2 ⟨qs, u, passes, rfl⟩)
  have still := images.same kept (Multiset.le_add_right _ m) (Multiset.zero_le _)
  have large : u.device.drawingSize = t.device.drawingSize := kept.screen
  refine ⟨({ p' with passes := qs }, u), t, done, ⟨?_, { still with passes := fits }⟩,
    large.trans screen, shared, large.symm ▸ chain, large.symm ▸ turn⟩
  exact (keeps_tended_setSize tidy width height).of_eq_ok done h.tended

/-! ## Changes of the whole -/

omit tidy [EffectHooks H ω] [Pass Q ω] in
theorem Scaled.withTimer (h : Scaled theirs m (p, s)) (timer : FrameTimer) :
    Scaled theirs m ({ p with timer }, s) :=
  ⟨⟨h.tended.alive, h.tended.owns⟩, { h.sized with }⟩

omit tidy [EffectHooks H ω] [Pass Q ω] in
/-- New images are as large as the screen, as the old ones were. -/
theorem Scaled.withImages (h : Scaled theirs m (p, s)) (absent : p.depthTexture = none) :
    Scaled theirs m
      ({ p with
          input := (createImages p.config s.device).1.1
          output := (createImages p.config s.device).1.2 },
        { s with
          device := ((createImages p.config s.device).2.disposeSurface p.input).disposeSurface
            p.output }) := by
  let images := (createImages p.config s.device).1
  let d := (createImages p.config s.device).2
  let d' := (d.disposeSurface p.input).disposeSurface p.output
  obtain ⟨input, output, created⟩ := isSized_createImages h.tended.owns p.config
  let kept := images.1.resources + images.2.resources + passResources p.passes
  have disposed : d.SameSizes kept d' := by
    have made : d.Lives (images.1.resources + (images.2.resources +
        (p.resources + passResources p.passes + m + theirs s.host))) :=
      h.tended.owns.createSurfaces _ _
    have sum : images.1.resources + (images.2.resources +
          (p.resources + passResources p.passes + m + theirs s.host)) =
        p.input.resources + (p.output.resources +
          (kept + ({.geometry p.geometry} + depthResources p.depthTexture + m + theirs s.host))) := by
      simp only [resources, fixtures, kept]
      abel
    rw [sum] at made
    have first := made.sameSizes_disposeSurface.mono (Multiset.le_add_left _ _)
    exact (first.trans made.disposeSurface.sameSizes_disposeSurface).mono (Multiset.le_add_right _ _)
  have screen : d'.drawingSize = s.device.drawingSize := disposed.screen.trans created.screen
  refine ⟨h.tended.withImages, ?_, ?_, absent.symm, rfl, fun t ht => ?_, fun q hq => ?_⟩
  · exact screen.symm ▸ input.same disposed
      ((Multiset.le_add_right _ _).trans (Multiset.le_add_right _ _))
  · exact screen.symm ▸ output.same disposed
      ((Multiset.le_add_left _ _).trans (Multiset.le_add_right _ _))
  · exact absurd (absent.symm.trans ht) (Option.some_ne_none t).symm
  · have others : passResources p.passes ≤
        p.resources + passResources p.passes + m + theirs s.host :=
      (Multiset.le_add_left _ p.resources).trans
        ((Multiset.le_add_right _ m).trans (Multiset.le_add_right _ _))
    exact ((h.sized.passes q hq).same created ((resources_le_passResources hq).trans others)).same
      disposed ((resources_le_passResources hq).trans (Multiset.le_add_left _ _))

theorem keeps_scaled_reset : Act.Keeps (Scaled theirs m) (reset (P := AnyPass H Q)) :=
  keeps_reset (J := fun y => Scaled theirs m y ∧ y.1.depthTexture = none) (fun h => h.1)
    (fun _ _ h => h.deleteDepthTexture tidy) (fun _ _ h => ⟨h.1.withImages h.2, h.2⟩)
    (fun _ _ h => h.1.createDepthTexture tidy h.2) fun _ _ timer h => h.withTimer timer

omit tidy [EffectHooks H ω] [Pass Q ω] in
/-- What every sound pass keeps of what it owns and of what its sizes depend on, the pipeline keeps. -/
theorem keeps_scaled_onPasses {β : Type} {act : β → Act (AnyPass H Q × Stage ω) β}
    (keeps : ∀ (k : Multiset Resource × Option Sizing) (s₀ : Stage ω) b,
      Act.Keeps (fun x => ((x.1.resources, x.1.sizing?) = k ∧ x.1.Sound) ∧ s₀.KeepsSizes theirs x.2)
        (act b)) (b : β) :
    Act.Keeps (fun x => Scaled theirs m x ∧ Each AnyPass.Sound x) (onPasses (Act.foldEach act b)) := by
  rintro ⟨p, s⟩ ⟨h, sound⟩
  have kept := Act.keeps_foldEach_map (fun q : AnyPass H Q => (q.resources, q.sizing?))
    (fun k => keeps k s) (p.passes.map fun q => (q.resources, q.sizing?)) b (p.passes, s)
    ⟨⟨rfl, sound⟩, .refl theirs s⟩
  unfold onPasses
  rw [Act.after_within]
  exact ⟨(h.withPasses kept.1.1).onStage kept.2, kept.1.2⟩

/-- A frame changes no size. -/
theorem keeps_scaled_render (sized : SizedHooks theirs H) (delta : FrameDelta) :
    Act.Keeps (fun x => Scaled theirs m x ∧ Each AnyPass.Sound x)
      (render (P := AnyPass H Q) delta) :=
  keeps_render (fun _ _ timer h => ⟨h.1.withTimer timer, h.2⟩)
    (fun _ _ h => ⟨h.1.updateDepthTexture tidy, each_updateDepthTexture AnyPass.lasting_sound h.2⟩)
    (fun _ _ h => ⟨h.1.presentLast, each_presentLast AnyPass.lasting_sound h.2⟩)
    fun p _ seconds _ _ =>
      keeps_scaled_onPasses (fun _ _ => AnyPass.keeps_sizing_next sized p.copy seconds) _

/-! ## Passes that come and go -/

/-- A sound pass that is made ready to join fits, and does not fail. -/
theorem exists_ready {q : AnyPass H Q} (sized : SizedHooks theirs H) (sound : q.Sound)
    (h : s.Owns theirs (q.resources + m)) (screen : p.size = s.device.drawingSize) :
    ∃ q' t, ready p (q, s) = .ok () (q', t) ∧ s.device.SameSizes m t.device ∧ q'.InStep t.device := by
  obtain ⟨b, rfl⟩ := sound.exists_builtin
  let b' := (b.setUp p.setup s).1
  let s' := (b.setUp p.setup s).2
  have same : s.device.SameSizes m s'.device :=
    (BuiltinPass.sameSizes_setUp sized p.setup h).mono (Multiset.le_add_left m _)
  have complete : ∀ z ∈ (AnyPass.builtin b' : AnyPass H Q).sizing?, z.disposed = false →
      z.surfaces.length = z.count := fun z hz _ => b.length_surfaces_setUp p.setup s z hz
  have sound' : (AnyPass.builtin b' : AnyPass H Q).Sound := BuiltinPass.sound_setUp p.setup sound s
  have owns : s'.Owns theirs ((AnyPass.builtin b' : AnyPass H Q).resources + m) :=
    BuiltinPass.owns_setUp tidy.hooks p.setup h
  have large : s'.device.drawingSize = (p.setup.width, p.setup.height) :=
    same.screen.trans screen.symm
  have setUp : Pass.setUp p.setup ((AnyPass.builtin b : AnyPass H Q), s) =
      .ok () (AnyPass.builtin b', s') := rfl
  obtain ⟨q', t, resized, -, -, same', fits⟩ :=
    AnyPass.exists_setSize tidy.hooks owns sound' complete large
  unfold ready
  rw [Act.bind_of_eq_ok setUp, Act.bind_of_eq_ok resized]
  split
  · refine ⟨(Pass.setDepthTexture q' p.depthTexture .basic t.toShared).1,
      t.withShared (Pass.setDepthTexture q' p.depthTexture .basic t.toShared).2, rfl,
      same.trans same', ?_⟩
    change AnyPass.InStep t.device _
    rwa [AnyPass.inStep_congr (q'.sizing?_setDepthTexture p.depthTexture t.toShared)]
  · exact ⟨q', t, rfl, same.trans same', fits⟩

/-- A pass that joins fits from then on; one that is refused leaves all sizes as they were. -/
theorem Scaled.add {q : AnyPass H Q} (sized : SizedHooks theirs H) (sound : q.Sound)
    (h : Scaled theirs (q.resources + m) (p, s)) (index : Option Nat) :
    Scaled theirs (passResources ((p.add q index s).refused.toList.map (·.2)) + m)
      ((p.add q index s).pipeline, (p.add q index s).stage) := by
  refine ⟨h.tended.add tidy index, ?_⟩
  unfold Pipeline.add
  simp only
  split
  · exact h.sized
  split
  · exact h.sized
  rename_i inside
  have owns : s.Owns theirs (p.resources + passResources p.passes + (q.resources + m)) :=
    h.tended.owns
  have sum (r : Multiset Resource) : p.resources + passResources p.passes + (r + m) =
      r + (p.resources + passResources p.passes + m) := by abel
  rw [sum] at owns
  obtain ⟨q', t, readied, same, fits⟩ := exists_ready tidy sized sound owns h.sized.input.described
  have owns' : t.Owns theirs (q'.resources + (p.resources + passResources p.passes + m)) :=
    (keeps_owns_ready tidy p).of_eq_ok readied owns
  have arrived : Tended theirs (q'.resources + m) (p, t) := ⟨h.tended.alive, sum _ ▸ owns'⟩
  have kept := h.sized.sameAll same
  have joined : Scaled theirs m
      ({ p with passes := p.passes.insertIdx (index.getD p.passes.length) q' }, t) := by
    refine ⟨arrived.join (Nat.le_of_not_lt inside), { kept with passes := fun r hr => ?_ }⟩
    rcases List.eq_or_mem_of_mem_insertIdx hr with rfl | hr
    · exact fits
    · exact kept.passes r hr
  simp only [readied]
  exact ((joined.updateDepthTexture tidy).presentLast).sized

omit tidy [EffectHooks H ω] [Pass Q ω] in
/-- The passes that stay when one is taken out of the list have their sizes. -/
theorem Scaled.leave {q : AnyPass H Q} {rest : List (AnyPass H Q)} (h : Scaled theirs m (p, s))
    (hp : p.passes.Perm (q :: rest)) :
    Scaled theirs (q.resources + m) ({ p with passes := rest }, s) :=
  ⟨h.tended.leave hp, { h.sized with
    passes := fun r hr => h.sized.passes r (hp.mem_iff.2 (List.mem_cons_of_mem q hr)) }⟩

/-- A pass that is let go leaves all sizes as they were. -/
theorem Scaled.release {q : AnyPass H Q} {rest : List (AnyPass H Q)} (h : Scaled theirs m (p, s))
    (hp : p.passes.Perm (q :: rest)) :
    Scaled theirs ((p.release q rest s).1.resources + m) (p.release q rest s).2 := by
  refine ⟨h.tended.release tidy hp, ?_⟩
  have told : s.KeepsSizes theirs (p.forget q s).2 := by
    unfold forget
    split
    · exact (Stage.KeepsSizes.refl theirs s).withShared (q.theirs_setDepthTexture tidy _ _)
    · exact .refl theirs s
  have left := (h.onStage told).leave hp
  rw [release_eq]
  exact ((left.updateDepthTexture tidy).presentLast).sized

theorem Scaled.removeFirst (h : Scaled theirs m (p, s)) (n : Nat) :
    Scaled theirs (passResources (p.removeFirst n s).1 + m) (p.removeFirst n s).2 := by
  refine ⟨h.tended.removeFirst tidy n, ?_⟩
  induction n generalizing p s m with
  | zero => exact h.sized
  | succ n ih =>
    unfold Pipeline.removeFirst
    cases hp : p.passes with
    | nil => exact h.sized
    | cons q rest => exact ih (h.release tidy (.of_eq hp))

omit tidy in
/-- A pass outside of the list that is disposed of leaves all sizes as they were. -/
theorem Scaled.disposeOther {q : AnyPass H Q} (sized : SizedHooks theirs H) (sound : q.Sound)
    (h : Scaled theirs (q.resources + m) (p, s)) : p.Sized (Pass.dispose q s).2.device := by
  obtain ⟨b, rfl⟩ := sound.exists_builtin
  have owns : s.Owns theirs
      (resourcesOf b.owned + (p.resources + passResources p.passes + m)) := by
    rw [add_left_comm]
    exact h.tended.owns
  exact h.sized.sameAll (BuiltinPass.sameSizes_dispose sized owns)

end Tidy

end Pipeline

end ScreenEffects
