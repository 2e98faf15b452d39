import Mathlib.Algebra.BigOperators.Group.List.Basic
import ScreenEffects.Proofs.Pass.Account
import ScreenEffects.Proofs.Pipeline.Calls

/-!
# What a pipeline owns

A pipeline owns its two images, the triangle over the screen and the shared depth texture, as long as
there is one. `Pipeline.Tended theirs m` says that besides what is theirs, just this, what the passes in
the list own, and the rest `m` lives on the device.

* `tended_create` : it begins with its images and its triangle.
* `keeps_tended_setSize`, `keeps_tended_reset`, `keeps_tended_render` : no change of the whole loses
  anything or leaves anything behind, failed or not.
* `Tended.add`, `Tended.release`, `Tended.removeAll` : a pass that comes brings what it owns, and one that
  goes takes it along.
* `Tended.dispose` : a pipeline that has come to its end (`Ended`) leaves nothing but the rest.
-/

namespace ScreenEffects

variable {H Q ω : Type} {theirs : ω → Multiset Resource} {m : Multiset Resource}

/-- What the passes of a list own. -/
def passResources (qs : List (AnyPass H Q)) : Multiset Resource := (qs.map AnyPass.resources).sum

@[simp] theorem passResources_nil : passResources ([] : List (AnyPass H Q)) = 0 := rfl

@[simp] theorem passResources_cons (q : AnyPass H Q) (qs : List (AnyPass H Q)) :
    passResources (q :: qs) = q.resources + passResources qs := by
  rw [passResources, passResources, List.map_cons, List.sum_cons]

@[simp] theorem passResources_append (qs rs : List (AnyPass H Q)) :
    passResources (qs ++ rs) = passResources qs + passResources rs := by
  rw [passResources, passResources, passResources, List.map_append, List.sum_append]

theorem passResources_perm {qs rs : List (AnyPass H Q)} (h : qs.Perm rs) :
    passResources qs = passResources rs := (h.map _).sum_eq

theorem passResources_congr {qs rs : List (AnyPass H Q)}
    (h : qs.map AnyPass.resources = rs.map AnyPass.resources) :
    passResources qs = passResources rs := congrArg List.sum h

theorem passResources_eq (qs : List (AnyPass H Q)) :
    passResources qs = resourcesOf (qs.flatMap AnyPass.owned) := by
  induction qs with
  | nil => rfl
  | cons q qs ih => rw [passResources_cons, List.flatMap_cons, resourcesOf_append, ih]; rfl

/-- A depth texture, if there is one. -/
def depthResources (t : Option Texture) : Multiset Resource := t.elim 0 fun t => {.texture t}

namespace Pipeline

/-- What a pipeline owns at all times: the images and the triangle. -/
def fixtures {P : Type} (p : Pipeline P) : Multiset Resource :=
  p.input.resources + p.output.resources + {.geometry p.geometry}

/-- What the pipeline owns besides its passes. -/
def resources {P : Type} (p : Pipeline P) : Multiset Resource :=
  p.fixtures + depthResources p.depthTexture

/-- The pipeline has not come to its end, and besides what is theirs just what it owns, what its passes
own and the rest `m` lives on the device. -/
structure Tended (theirs : ω → Multiset Resource) (m : Multiset Resource)
    (x : Pipeline (AnyPass H Q) × Stage ω) : Prop where
  alive : x.1.disposed = false
  owns : x.2.Owns theirs (x.1.resources + passResources x.1.passes + m)

variable {p : Pipeline (AnyPass H Q)} {s s' : Stage ω}

theorem Tended.steady (h : Tended theirs m (p, s)) {qs : List (AnyPass H Q)}
    (same : passResources qs = passResources p.passes) (steady : s.Steady theirs s') :
    Tended theirs m ({ p with passes := qs }, s') where
  alive := h.alive
  owns := by
    change s'.Owns theirs (p.resources + passResources qs + m)
    rw [same]
    exact steady _ h.owns

/-- A pipeline comes to life with its images and its triangle. -/
theorem tended_create (h : s.Owns theirs m) (config : PipelineConfig) :
    Tended theirs m (create config s : Pipeline (AnyPass H Q) × Stage ω) := by
  let images := createImages config s.device
  have owns : Stage.Owns theirs
      (images.1.1.resources + images.1.2.resources + {.geometry images.2.createGeometry.1} + m)
      { s with device := images.2.createGeometry.2 } := by
    refine h.mapDevice fun rest hr => ?_
    have made : Device.Lives (images.1.1.resources + (images.1.2.resources + (m + rest))) images.2 :=
      hr.createSurfaces _ _
    have sum : {.geometry images.2.createGeometry.1} +
          (images.1.1.resources + (images.1.2.resources + (m + rest))) =
        images.1.1.resources + images.1.2.resources + {.geometry images.2.createGeometry.1} + m +
          rest := by abel
    exact sum ▸ made.createGeometry
  refine ⟨rfl, ?_⟩
  rw [← add_zero (_ + {Resource.geometry _}), ← add_zero (_ + 0)] at owns
  exact owns

variable [EffectHooks H ω] [Pass Q ω]

theorem resources_sendToScreen (q : AnyPass H Q) (toScreen : Bool) :
    (sendToScreen q toScreen).resources = q.resources :=
  congrArg resourcesOf (q.owned_withFlags _)

theorem Tended.presentLast (h : Tended theirs m (p, s)) : Tended theirs m (p.presentLast, s) := by
  unfold Pipeline.presentLast
  split
  · exact h.steady (passResources_congr (map_sendLastToScreen resources_sendToScreen p.passes))
      (.refl theirs s)
  · exact h

omit [EffectHooks H ω] [Pass Q ω] in
/-- What every pass keeps of what it owns, the pipeline keeps. -/
theorem keeps_tended_onPasses {β : Type} {act : β → Act (AnyPass H Q × Stage ω) β}
    (keeps : ∀ r (s₀ : Stage ω) b,
      Act.Keeps (fun x => x.1.resources = r ∧ s₀.Steady theirs x.2) (act b)) (b : β) :
    Act.Keeps (Tended theirs m) (onPasses (Act.foldEach act b)) := by
  rintro ⟨p, s⟩ h
  have kept := Act.keeps_foldEach_map AnyPass.resources (A := fun _ => True)
    (I := s.Steady theirs)
    (fun r b x hx => ⟨⟨(keeps r s b x ⟨hx.1.1, hx.2⟩).1, trivial⟩,
      (keeps r s b x ⟨hx.1.1, hx.2⟩).2⟩)
    (p.passes.map AnyPass.resources) b (p.passes, s) ⟨⟨rfl, fun _ _ => trivial⟩, .refl theirs s⟩
  unfold onPasses
  rw [Act.after_within]
  exact h.steady (passResources_congr kept.1.1) kept.2

section Tidy

variable (tidy : TidyProgram theirs H Q)

include tidy

/-! ## The depth texture -/

theorem theirs_shareDepthTexture (p : Pipeline (AnyPass H Q)) (t : Option Texture) (s : Stage ω) :
    theirs (p.shareDepthTexture t s).2.host = theirs s.host :=
  keeps_threadList (I := fun u : Shared ω => theirs u.host = theirs s.host)
    (fun q u hu => (q.theirs_setDepthTexture tidy t u).trans hu) p.passes rfl

theorem Tended.shareDepthTexture (h : Tended theirs m (p, s)) (t : Option Texture) :
    Tended theirs m (p.shareDepthTexture t s) := by
  have kept (q : AnyPass H Q) (t : Option Texture) (s : Shared ω) :
      (Pass.setDepthTexture q t .basic s).1.resources = q.resources :=
    congrArg resourcesOf (q.owned_setDepthTexture t s)
  exact h.steady (passResources_congr (map_shareDepthTexture kept p t s))
    ((Stage.Steady.refl theirs s).withShared (theirs_shareDepthTexture tidy p t s))

omit tidy [EffectHooks H ω] [Pass Q ω] in
/-- A depth texture that is made and attached is the pipeline's own. -/
theorem Tended.attachDepth (h : Tended theirs m (p, s)) (absent : p.depthTexture = none) :
    let (t, d) := s.device.createDepthTexture p.input.width p.input.height
    Tended theirs m
      ({ p with input := { p.input with depthTexture := some t }, depthTexture := some t },
        { s with device := (d.attachDepth p.input (some t)).2 }) := by
  let t := (s.device.createDepthTexture p.input.width p.input.height).1
  let d := ((s.device.createDepthTexture p.input.width p.input.height).2.attachDepth p.input
    (some t)).2
  refine ⟨h.alive, h.owns.mapDevice fun rest hr => ?_⟩
  have made : d.Lives _ := (hr.createDepthTexture p.input.width p.input.height).still ⟨rfl, rfl⟩
  have sum : {.texture t} + (p.resources + passResources p.passes + m + rest) =
      p.fixtures + {.texture t} + passResources p.passes + m + rest := by
    rw [resources, absent, depthResources, Option.elim_none]
    abel
  exact sum ▸ made

theorem Tended.createDepthTexture (h : Tended theirs m (p, s)) (absent : p.depthTexture = none) :
    Tended theirs m (p.createDepthTexture s) :=
  (h.attachDepth absent).shareDepthTexture tidy _

omit tidy [EffectHooks H ω] [Pass Q ω] in
theorem still_detachDepth (t : Texture) (x : Surface) (d : Device) :
    d.Still (detachDepth t x d).2 ∧ (detachDepth t x d).1.resources = x.resources := by
  unfold detachDepth
  split
  · exact ⟨⟨rfl, rfl⟩, rfl⟩
  · exact ⟨.refl d, rfl⟩

theorem Tended.deleteDepthTexture (h : Tended theirs m (p, s)) :
    Tended theirs m (p.deleteDepthTexture s) ∧ (p.deleteDepthTexture s).1.depthTexture = none := by
  unfold Pipeline.deleteDepthTexture
  cases ht : p.depthTexture with
  | none => exact ⟨h, ht⟩
  | some t =>
    -- until it is disposed of, the texture is part of the rest
    have left : Tended theirs ({.texture t} + m) ({ p with depthTexture := none }, s) := by
      refine ⟨h.alive, ?_⟩
      have owns := h.owns
      have sum : p.resources + passResources p.passes + m =
          p.fixtures + 0 + passResources p.passes + ({.texture t} + m) := by
        rw [resources, ht, depthResources, Option.elim_some]
        abel
      rwa [sum] at owns
    have shared := left.shareDepthTexture tidy none
    unfold Pipeline.shareDepthTexture at shared ⊢
    obtain ⟨⟨qs, u⟩, hx⟩ : ∃ x, threadList
      (fun (q : AnyPass H Q) (s : Shared ω) => Pass.setDepthTexture q none .basic s) p.passes
        s.toShared = x := ⟨_, rfl⟩
    simp only [hx] at shared ⊢
    refine ⟨⟨h.alive, ?_⟩, trivial⟩
    obtain ⟨first, input⟩ := still_detachDepth t p.input s.device
    obtain ⟨second, output⟩ := still_detachDepth t p.output (detachDepth t p.input s.device).2
    refine shared.owns.mapDevice fun rest hr => ?_
    have sum : p.fixtures + 0 + passResources qs + ({.texture t} + m) + rest =
        {.texture t} + (p.fixtures + 0 + passResources qs + m + rest) := by abel
    have detached : Device.Lives ({.texture t} + (p.fixtures + 0 + passResources qs + m + rest)) _ :=
      sum ▸ (hr.still first).still second
    have same : (detachDepth t p.input s.device).1.resources +
        (detachDepth t p.output (detachDepth t p.input s.device).2).1.resources +
        {.geometry p.geometry} = p.fixtures := by
      rw [input, output, fixtures]
    have ended := detached.disposeTexture
    rw [← same] at ended
    exact ended

theorem Tended.updateDepthTexture (h : Tended theirs m (p, s)) :
    Tended theirs m (p.updateDepthTexture s) := by
  unfold Pipeline.updateDepthTexture
  split
  · exact h.createDepthTexture tidy ‹_›
  · exact (h.deleteDepthTexture tidy).1
  · exact h

/-! ## Changes of the whole -/

omit tidy [EffectHooks H ω] [Pass Q ω] in
theorem Tended.onStage (h : Tended theirs m (p, s)) (steady : s.Steady theirs s') :
    Tended theirs m (p, s') :=
  ⟨h.alive, steady _ h.owns⟩

theorem keeps_tended_setSize (width height : UInt32) :
    Act.Keeps (Tended theirs m) (setSize (P := AnyPass H Q) width height) := by
  refine keeps_setSize (fun p s h => ?_) (fun p x w h s hs => ?_)
    (fun _ _ _ _ h => ⟨h.alive, h.owns⟩) (fun _ _ _ _ h => ⟨h.alive, h.owns⟩) fun w h => ?_
  · exact h.onStage ((Stage.Steady.refl theirs s).still ⟨rfl, rfl⟩ rfl)
  · have resized : Act.Keeps (s.Steady theirs) (Stage.onDevice (Device.resizeSurface x w h)) :=
      ((brings_steady_resizeSurface x w h).mono (fun _ _ hy => hy.2) fun _ hy => hy).after
    exact hs.onStage (resized s (.refl theirs s))
  · exact keeps_tended_onPasses (fun r s₀ _ => AnyPass.keeps_owned_setSize tidy w h) ()

omit tidy [EffectHooks H ω] [Pass Q ω] in
/-- The images come to life before those of old end. -/
theorem Tended.withImages (h : Tended theirs m (p, s)) :
    Tended theirs m
      ({ p with
          input := (createImages p.config s.device).1.1
          output := (createImages p.config s.device).1.2 },
        { s with
          device := ((createImages p.config s.device).2.disposeSurface p.input).disposeSurface
            p.output }) := by
  let images := (createImages p.config s.device).1
  let others := {.geometry p.geometry} + depthResources p.depthTexture + passResources p.passes + m
  refine ⟨h.alive, h.owns.mapDevice fun rest hr => ?_⟩
  have made : Device.Lives (images.1.resources + (images.2.resources + _))
      (createImages p.config s.device).2 := hr.createSurfaces _ _
  have sum : images.1.resources + (images.2.resources +
        (p.resources + passResources p.passes + m + rest)) =
      p.input.resources + (p.output.resources +
        (images.1.resources + images.2.resources + others + rest)) := by
    simp only [resources, fixtures, others]
    abel
  have ended := (sum ▸ made).disposeSurface.disposeSurface
  have left : images.1.resources + images.2.resources + others + rest =
      images.1.resources + images.2.resources + {.geometry p.geometry} +
        depthResources p.depthTexture + passResources p.passes + m + rest := by
    simp only [others]
    abel
  exact left ▸ ended

theorem keeps_tended_reset : Act.Keeps (Tended theirs m) (reset (P := AnyPass H Q)) :=
  keeps_reset (J := fun y => Tended theirs m y ∧ y.1.depthTexture = none) (fun h => h.1)
    (fun _ _ h => h.deleteDepthTexture tidy) (fun _ _ h => ⟨h.1.withImages, h.2⟩)
    (fun _ _ h => h.1.createDepthTexture tidy h.2) fun _ _ _ h => ⟨h.alive, h.owns⟩

/-- A turn loses nothing and leaves nothing behind. -/
theorem keeps_owned_next {r : Multiset Resource} {s₀ : Stage ω} (copy : CopyPass) (delta : Float32)
    (f : FrameState) :
    Act.Keeps (fun x : AnyPass H Q × Stage ω => x.1.resources = r ∧ s₀.Steady theirs x.2)
      (FrameState.next copy delta f) := by
  refine FrameState.keeps_next (AnyPass.keeps_owned_render tidy f.input f.output delta f.masked)
    fun g toScreen => Act.Keeps.and_onSecond (I := fun q : AnyPass H Q => q.resources = r) ?_
  exact g.keeps_copyOutside_of_calls (stageCalls_steady s₀) copy toScreen

theorem keeps_tended_render (delta : FrameDelta) :
    Act.Keeps (Tended theirs m) (render (P := AnyPass H Q) delta) :=
  keeps_render (fun _ _ _ h => ⟨h.alive, h.owns⟩) (fun _ _ h => h.updateDepthTexture tidy)
    (fun _ _ h => h.presentLast) fun p _ seconds _ _ =>
      keeps_tended_onPasses (fun _ _ => keeps_owned_next tidy p.copy seconds) _

/-! ## Passes that come and go -/

/-- A pass that is made ready to join takes nothing from the others. -/
theorem keeps_owns_ready (p : Pipeline (AnyPass H Q)) :
    Act.Keeps (fun x : AnyPass H Q × Stage ω => x.2.Owns theirs (x.1.resources + m))
      (ready p) := by
  have sized (w h : UInt32) : Act.Keeps (fun x : AnyPass H Q × Stage ω =>
      x.2.Owns theirs (x.1.resources + m)) (Pass.setSize w h) := fun x hx => by
    obtain ⟨same, steady⟩ := AnyPass.keeps_owned_setSize tidy w h x ⟨rfl, .refl theirs x.2⟩
    simp only [same]
    exact steady _ hx
  unfold ready
  refine (AnyPass.owns_setUp tidy p.setup).bind fun _ => (sized _ _).bind fun _ => ?_
  split
  · refine Act.keeps_modify fun x hx => ?_
    have same : (Pass.setDepthTexture x.1 p.depthTexture .basic x.2.toShared).1.resources =
        x.1.resources := congrArg resourcesOf (x.1.owned_setDepthTexture _ _)
    simp only [same]
    exact (Stage.Steady.refl theirs x.2).withShared (x.1.theirs_setDepthTexture tidy _ _) _ hx
  · exact Act.keeps_pure _

omit tidy [EffectHooks H ω] [Pass Q ω] in
/-- A pass that is in the list is the pipeline's affair. -/
theorem Tended.join {q : AnyPass H Q} (h : Tended theirs (q.resources + m) (p, s)) {index : Nat}
    (inside : index ≤ p.passes.length) :
    Tended theirs m ({ p with passes := p.passes.insertIdx index q }, s) := by
  refine ⟨h.alive, ?_⟩
  have owns := h.owns
  have sum : p.resources + passResources p.passes + (q.resources + m) =
      p.resources + (q.resources + passResources p.passes) + m := by abel
  change s.Owns theirs (p.resources + passResources _ + m)
  rw [passResources_perm (List.perm_insertIdx q p.passes inside), passResources_cons, ← sum]
  exact owns

omit tidy [EffectHooks H ω] [Pass Q ω] in
/-- A pass that is not in the list is the affair of others. -/
theorem Tended.leave {q : AnyPass H Q} {rest : List (AnyPass H Q)} (h : Tended theirs m (p, s))
    (hp : p.passes.Perm (q :: rest)) :
    Tended theirs (q.resources + m) ({ p with passes := rest }, s) := by
  refine ⟨h.alive, ?_⟩
  have owns := h.owns
  have sum : p.resources + passResources p.passes + m =
      p.resources + passResources rest + (q.resources + m) := by
    rw [passResources_perm hp, passResources_cons]
    abel
  rwa [sum] at owns

/-- A pass that is made to forget the depth texture owns what it owned. -/
theorem steady_forget (p : Pipeline (AnyPass H Q)) (q : AnyPass H Q) (s : Stage ω) :
    (p.forget q s).1.resources = q.resources ∧ s.Steady theirs (p.forget q s).2 := by
  unfold forget
  split
  · exact ⟨congrArg resourcesOf (q.owned_setDepthTexture _ _),
      (Stage.Steady.refl theirs s).withShared (q.theirs_setDepthTexture tidy _ _)⟩
  · exact ⟨rfl, .refl theirs s⟩

/-- A pass that joins is the pipeline's affair from then on. One that is refused is what it was before,
the affair of others. -/
theorem Tended.add {q : AnyPass H Q} (h : Tended theirs (q.resources + m) (p, s))
    (index : Option Nat) :
    Tended theirs (passResources ((p.add q index s).refused.toList.map (·.2)) + m)
      ((p.add q index s).pipeline, (p.add q index s).stage) := by
  have refused {q' : AnyPass H Q} {s' : Stage ω} (e : Fault)
      (h : Tended theirs (q'.resources + m) (p, s')) :
      Tended theirs (passResources ((some (e, q')).toList.map (·.2)) + m) (p, s') := by
    simpa using h
  unfold Pipeline.add
  simp only
  split
  · exact refused _ h
  split
  · exact refused _ h
  rename_i inside
  have owns := h.owns
  have sum (r : AnyPass H Q) : p.resources + passResources p.passes + (r.resources + m) =
      r.resources + (p.resources + passResources p.passes + m) := by abel
  rw [sum] at owns
  have readied := keeps_owns_ready tidy p (q, s) owns
  unfold Act.after at readied
  cases hr : ready p (q, s) with
  | error e x =>
    rw [hr] at readied
    exact refused e ⟨h.alive, sum x.1 ▸ readied⟩
  | ok a x =>
    rw [hr] at readied
    have arrived : Tended theirs (x.1.resources + m) (p, x.2) := ⟨h.alive, sum x.1 ▸ readied⟩
    have joined := arrived.join (Nat.le_of_not_lt inside)
    have presented := (joined.updateDepthTexture tidy).presentLast
    rwa [← zero_add m] at presented

/-- A pass that is let go takes along what it owns. -/
theorem Tended.release {q : AnyPass H Q} {rest : List (AnyPass H Q)} (h : Tended theirs m (p, s))
    (hp : p.passes.Perm (q :: rest)) :
    Tended theirs ((p.release q rest s).1.resources + m) (p.release q rest s).2 := by
  obtain ⟨same, steady⟩ := steady_forget tidy p q s
  have left : Tended theirs (q.resources + m) ({ p with passes := rest }, (p.forget q s).2) :=
    (h.onStage steady).leave hp
  have gone : (if p.config.autoToScreen then sendToScreen (p.forget q s).1 false
      else (p.forget q s).1).resources = q.resources := by
    split
    · exact (resources_sendToScreen _ _).trans same
    · exact same
  rw [release_eq]
  simp only [gone]
  exact (left.updateDepthTexture tidy).presentLast

theorem Tended.removeFirst (h : Tended theirs m (p, s)) (n : Nat) :
    Tended theirs (passResources (p.removeFirst n s).1 + m) (p.removeFirst n s).2 := by
  induction n generalizing p s m with
  | zero => simpa [Pipeline.removeFirst] using h
  | succ n ih =>
    unfold Pipeline.removeFirst
    cases hp : p.passes with
    | nil => simpa using h
    | cons q rest =>
      have others := ih (h.release tidy (.of_eq hp))
      rw [← add_assoc, add_comm (passResources _)] at others
      exact passResources_cons _ _ ▸ others

theorem Tended.removeAll (h : Tended theirs m (p, s)) :
    Tended theirs (passResources (p.removeAll s).1 + m) (p.removeAll s).2 :=
  h.removeFirst tidy p.passes.length

/-! ## The end -/

/-- The pipeline has come to its end, and just `m` lives besides what is theirs. -/
structure Ended (theirs : ω → Multiset Resource) (m : Multiset Resource)
    (x : Pipeline (AnyPass H Q) × Stage ω) : Prop where
  disposed : x.1.disposed = true
  passes : x.1.passes = []
  depthTexture : x.1.depthTexture = none
  owns : x.2.Owns theirs m

omit tidy in
theorem passes_deleteDepthTexture (h : p.passes = []) (s : Stage ω) :
    (p.deleteDepthTexture s).1.passes = [] := by
  unfold Pipeline.deleteDepthTexture
  cases p.depthTexture with
  | none => exact h
  | some t =>
    simp only [Pipeline.shareDepthTexture, h]
    rfl

theorem owns_dispose {qs : List (AnyPass H Q)} (h : s.Owns theirs (passResources qs + m)) :
    Stage.Owns theirs m (threadList (fun q s => Pass.dispose q s) qs s).2 := by
  induction qs generalizing s with
  | nil => rwa [passResources_nil, zero_add] at h
  | cons q qs ih =>
    rw [passResources_cons, add_assoc] at h
    exact ih (q.owns_dispose tidy h)

/-- A pipeline that comes to its end leaves nothing behind. -/
theorem Tended.dispose (h : Tended theirs m (p, s)) : Ended theirs m (p.dispose s).2 := by
  obtain ⟨⟨qs, t⟩, ht⟩ : ∃ x, threadList (fun q s => Pass.dispose q s) p.passes s = x := ⟨_, rfl⟩
  let bare : Pipeline (AnyPass H Q) := { p with passes := [] }
  have emptied : Tended theirs m (bare, t) := by
    refine ⟨h.alive, ?_⟩
    have owns := h.owns
    have sum : p.resources + passResources p.passes + m =
        passResources p.passes + (p.resources + 0 + m) := by abel
    rw [sum] at owns
    have left := owns_dispose tidy owns
    rwa [ht] at left
  obtain ⟨deleted, absent⟩ := emptied.deleteDepthTexture tidy
  have passes : (bare.deleteDepthTexture t).1.passes = [] := passes_deleteDepthTexture rfl t
  obtain ⟨⟨p', t'⟩, hp'⟩ : ∃ x, bare.deleteDepthTexture t = x := ⟨_, rfl⟩
  rw [hp'] at deleted absent passes
  have alive : p.disposed = false := h.alive
  unfold Pipeline.dispose
  rw [if_neg (alive ▸ Bool.false_ne_true)]
  simp only [bare, ht, hp']
  refine ⟨rfl, passes, absent, deleted.owns.mapDevice fun rest hr => ?_⟩
  have sum : p'.resources + passResources p'.passes + m + rest =
      p'.input.resources + (p'.output.resources + ({.geometry p'.geometry} + (m + rest))) := by
    rw [passes, resources, fixtures, absent, passResources_nil, depthResources,
      Option.elim_none]
    abel
  exact (sum ▸ hr).disposeSurface.disposeSurface.disposeGeometry

omit tidy [EffectHooks H ω] [Pass Q ω] in
/-- Once it has come to its end, a pipeline does nothing any more. -/
theorem after_checkAlive_bind {P α : Type} {x : Pipeline P × Stage ω} (ended : x.1.disposed = true)
    (next : Unit → Act (Pipeline P × Stage ω) α) : (checkAlive >>= next).after x = x := by
  rw [Act.after_bind, checkAlive_of_disposed ended]

end Tidy

end Pipeline

end ScreenEffects
