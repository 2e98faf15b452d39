import ScreenEffects.Probe.Pass
import ScreenEffects.Proofs.Device.Account
import ScreenEffects.Proofs.Effect.Quiet
import ScreenEffects.Proofs.Pass.Kept

/-!
# What passes own

A pass makes surfaces of its own when it is set up, if it has none, and gives them up when it is disposed
of. Nobody else ends them. A program may own more on the same device, through the hooks of effects and
its own passes; what that is, its state tells (`theirs`), and all that is asked is that they keep their
accounts (`TidyProgram`).

`Stage.Owns theirs m s` says that besides what is theirs, just `m` lives on the device. What a pass owns
is part of `m`, and the rest of `m` is arbitrary, so that the lemmas about one pass add up to lemmas
about many.

* `AnyPass.owns_setUp`, `AnyPass.owns_dispose` : how what a pass owns comes and goes.
* `AnyPass.keeps_owned_setSize`, `keeps_owned_render`, `owned_setDepthTexture` : nothing else changes
  it.
-/

namespace ScreenEffects

variable {H Q ω α : Type} {theirs : ω → Multiset Resource}

/-! ## The stage -/

namespace Stage

/-- On the device lives what is theirs by the state of the host, and `m` besides. -/
def Owns (theirs : ω → Multiset Resource) (m : Multiset Resource) (s : Stage ω) : Prop :=
  s.device.Lives (m + theirs s.host)

/-- Whatever was owned before is owned afterwards. -/
def Steady (theirs : ω → Multiset Resource) (s t : Stage ω) : Prop :=
  ∀ m, s.Owns theirs m → t.Owns theirs m

variable {m : Multiset Resource} {s₀ s t u : Stage ω}

theorem Steady.refl (theirs : ω → Multiset Resource) (s : Stage ω) : s.Steady theirs s :=
  fun _ h => h

theorem Steady.trans (h : s.Steady theirs t) (h' : t.Steady theirs u) : s.Steady theirs u :=
  fun m hm => h' m (h m hm)

/-- Neither what lives nor what is theirs has changed. -/
theorem Steady.still (h : s.Steady theirs t) (device : t.device.Still u.device)
    (host : theirs u.host = theirs t.host) : s.Steady theirs u := fun m hm =>
  Device.Lives.still (m := m + theirs u.host) (host ▸ h m hm) device

theorem Steady.withShared (h : s.Steady theirs t) {shared : Shared ω}
    (hs : theirs shared.host = theirs t.host) : s.Steady theirs (t.withShared shared) :=
  h.still (.refl _) hs

/-- A call of the device changes the balance, and the host sees nothing of it. -/
theorem Owns.mapDevice {m m' : Multiset Resource} (h : s.Owns theirs m) {d : Device}
    (hd : ∀ rest, s.device.Lives (m + rest) → d.Lives (m' + rest)) :
    Owns theirs m' { s with device := d } :=
  hd _ h

end Stage

/-- Nothing comes to life by the calls of a pass, and nothing ends. -/
theorem stageCalls_steady (s₀ : Stage ω) : StageCalls (s₀.Steady theirs) :=
  .of_untouched (fun _ _ h => h.still (.refl _) rfl) fun h untouched => h.still untouched.still rfl

/-- A surface with a new size is the same surface. -/
theorem brings_steady_resizeSurface {s₀ : Stage ω} (x : Surface) (width height : UInt32) :
    Act.Brings (s₀.Steady theirs)
      (fun y s => y.resources = x.resources ∧ s₀.Steady theirs s) (s₀.Steady theirs)
      (Stage.onDevice (Device.resizeSurface x width height)) := by
  intro s h
  have still := Device.keeps_still_resizeSurface x width height s.device (.refl s.device)
  unfold Act.after Device.resizeSurface at still
  unfold Stage.onDevice Device.resizeSurface
  by_cases live : s.device.surfaces.contains x.id
  · simp only [if_pos live] at still ⊢
    exact ⟨rfl, h.still still rfl⟩
  · simp only [if_neg live] at still ⊢
    exact h.still still rfl

/-! ## Hooks -/

/-- The hooks keep their accounts: they end nothing that is not theirs, and the host knows what is. -/
structure TidyHooks (theirs : ω → Multiset Resource) (H : Type) [EffectHooks H ω] : Prop where
  prepare : ∀ (k : H) (alpha : Bool) (precision : Precision) (s : Stage ω),
    s.Steady theirs (EffectHooks.prepare k alpha precision s).2
  update : ∀ (input : Surface) (delta : Float32) (uniforms : UniformMap) (k : H) (s : Stage ω),
    s.Steady theirs ((EffectHooks.update input delta uniforms).after (k, s)).2
  setSize : ∀ (k : H) (width height : UInt32) (s : Shared ω),
    theirs (EffectHooks.setSize k width height s).2.host = theirs s.host
  setDepthTexture : ∀ (k : H) (t : Option Texture) (packing : DepthPacking) (s : Shared ω),
    theirs (EffectHooks.setDepthTexture k t packing s).2.host = theirs s.host
  dispose : ∀ (k : H) (s : Stage ω), s.Steady theirs (EffectHooks.dispose k s).2

/-- Probes own nothing. -/
theorem tidyHooks_probeHooks : TidyHooks (fun _ => 0) ProbeHooks where
  prepare _ _ _ s := (Stage.Steady.refl _ s).still (.refl _) rfl
  update input delta _ k s :=
    ProbeHooks.keeps_update input delta (fun _ _ h => h.still (.refl _) rfl)
      (fun _ _ _ _ h => h.still (.refl _) rfl) (k, s) (.refl _ s)
  setSize _ _ _ _ := rfl
  setDepthTexture _ _ _ _ := rfl
  dispose _ s := (Stage.Steady.refl _ s).still (.refl _) rfl

section Hooks

variable [EffectHooks H ω] (tidy : TidyHooks theirs H)

include tidy

theorem TidyHooks.keep (s₀ : Stage ω) : HooksKeep (s₀.Steady theirs) H where
  prepare k alpha precision s h := h.trans (tidy.prepare k alpha precision s)
  update input delta uniforms x h := h.trans (tidy.update input delta uniforms x.1 x.2)
  setSize k width height s h := h.withShared (tidy.setSize k width height s.toShared)
  setDepthTexture k t packing s h := h.withShared (tidy.setDepthTexture k t packing s.toShared)

namespace Hosted

variable (h : Hosted H)

theorem theirs_setSize (width height : UInt32) (s : Shared ω) :
    theirs (h.setSize width height s).2.host = theirs s.host := by
  unfold setSize
  cases h.hooks with
  | none => rfl
  | some k => exact tidy.setSize k width height s

theorem theirs_setDepthTexture (t : Option Texture) (packing : DepthPacking) (s : Shared ω) :
    theirs (h.setDepthTexture t packing s).2.host = theirs s.host := by
  unfold setDepthTexture
  cases h.hooks with
  | none => rfl
  | some k => exact tidy.setDepthTexture k t packing s

theorem steady_dispose (s : Stage ω) : s.Steady theirs (h.dispose s).2 := by
  unfold dispose
  cases h.hooks with
  | none => exact .refl theirs s
  | some k => exact tidy.dispose k s

end Hosted

namespace EffectPass

variable (p : EffectPass H)

theorem theirs_setSize (width height : UInt32) (s : Shared ω) :
    theirs (p.setSize width height s).2.host = theirs s.host :=
  keeps_threadList (I := fun t : Shared ω => theirs t.host = theirs s.host)
    (fun e t ht => (e.theirs_setSize tidy width height t).trans ht) p.effects rfl

theorem theirs_setDepthTexture (t : Option Texture) (packing : DepthPacking) (s : Shared ω) :
    theirs (p.setDepthTexture t packing s).2.host = theirs s.host :=
  keeps_threadList (I := fun u : Shared ω => theirs u.host = theirs s.host)
    (fun e u hu => (e.theirs_setDepthTexture tidy t packing u).trans hu) p.effects rfl

theorem steady_dispose (s : Stage ω) : s.Steady theirs (p.dispose s).2 :=
  keeps_threadList (fun e _ ht => ht.trans (e.steady_dispose tidy _)) p.effects (.refl theirs s)

end EffectPass

end Hooks

/-! ## Surfaces of passes -/

section Surfaces

variable {m : Multiset Resource} {s₀ : Stage ω}

theorem DepthPass.lives_setUp (p : DepthPass) (setup : PassSetup) {d : Device}
    (h : d.Lives (resourcesOf p.surface.toList + m)) :
    (p.setUp setup d).2.Lives (resourcesOf (p.setUp setup d).1.surface.toList + m) := by
  obtain ⟨drawing, packing, resolution, surface⟩ := p
  cases surface with
  | some x => exact h
  | none =>
    have bare : d.Lives m := by simpa using h
    simpa [DepthPass.setUp] using bare.createSurface _

theorem SavePass.lives_setUp (p : SavePass) (setup : PassSetup) {d : Device}
    (h : d.Lives (resourcesOf p.surface.toList + m)) :
    (p.setUp setup d).2.Lives (resourcesOf (p.setUp setup d).1.surface.toList + m) := by
  obtain ⟨copy, surface, fixed⟩ := p
  cases surface with
  | some x => exact h
  | none =>
    have bare : d.Lives m := by simpa using h
    simpa [SavePass.setUp] using bare.createSurface _

theorem lives_disposeOptional {x : Option Surface} {d : Device}
    (h : d.Lives (resourcesOf x.toList + m)) : (disposeOptional x d).Lives m := by
  cases x with
  | none =>
    have bare : d.Lives m := by simpa using h
    exact bare
  | some x => exact Device.Lives.disposeSurface (by simpa using h)

/-- A surface that a pass may have stays the same surface when it is resized. -/
theorem keeps_owned_resizeOptional {r : Multiset Resource} (width height : UInt32) :
    Act.Keeps (fun x : Option Surface × Stage ω =>
      resourcesOf x.1.toList = r ∧ s₀.Steady theirs x.2) (resizeOptional width height) := by
  rintro ⟨t, s⟩ ⟨rfl, hs⟩
  cases t with
  | none => exact ⟨rfl, hs⟩
  | some t =>
    have brought := brings_steady_resizeSurface t width height s hs
    unfold Act.after resizeOptional
    simp only
    cases h : Stage.onDevice (Device.resizeSurface t width height) s with
    | ok y s' =>
      rw [h] at brought
      exact ⟨by simp [brought.1], brought.2⟩
    | error e s' =>
      rw [h] at brought
      exact ⟨rfl, brought⟩

theorem DepthPass.after_setSize (p : DepthPass) (s : Stage ω) (width height : UInt32) :
    (setSize width height).after (p, s) =
      let q := { p with resolution := p.resolution.setBaseSize width height }
      let x := (resizeOptional q.resolution.width q.resolution.height).after (p.surface, s)
      ({ q with surface := x.1 }, x.2) := by
  let q : DepthPass := { p with resolution := p.resolution.setBaseSize width height }
  have within : (setSize width height : Act (DepthPass × Stage ω) Unit).after (p, s) =
      ((resizeOptional q.resolution.width q.resolution.height).within (·.surface)
        ({ · with surface := · }) : Act (DepthPass × Stage ω) Unit).after (q, s) := rfl
  rw [within, Act.after_within]

theorem SavePass.after_setSize (p : SavePass) (s : Stage ω) (width height : UInt32) :
    (setSize width height).after (p, s) =
      if p.fixed then (p, s)
      else
        let x := (resizeOptional width height).after (p.surface, s)
        ({ p with surface := x.1 }, x.2) := by
  obtain ⟨copy, surface, fixed⟩ := p
  cases fixed with
  | true => rfl
  | false =>
    have within : (setSize width height : Act (SavePass × Stage ω) Unit).after
          (⟨copy, surface, false⟩, s) =
        ((resizeOptional width height).within (·.surface) ({ · with surface := · }) :
          Act (SavePass × Stage ω) Unit).after (⟨copy, surface, false⟩, s) := rfl
    rw [within, Act.after_within, if_neg Bool.false_ne_true]

theorem DepthPass.keeps_owned_setSize {r : Multiset Resource} (width height : UInt32) :
    Act.Keeps (fun x : DepthPass × Stage ω =>
      resourcesOf x.1.surface.toList = r ∧ s₀.Steady theirs x.2) (setSize width height) := by
  rintro ⟨p, s⟩ h
  rw [after_setSize]
  exact keeps_owned_resizeOptional _ _ (p.surface, s) h

theorem SavePass.keeps_owned_setSize {r : Multiset Resource} (width height : UInt32) :
    Act.Keeps (fun x : SavePass × Stage ω =>
      resourcesOf x.1.surface.toList = r ∧ s₀.Steady theirs x.2) (setSize width height) := by
  rintro ⟨p, s⟩ h
  rw [after_setSize]
  split
  · exact h
  · exact keeps_owned_resizeOptional width height (p.surface, s) h

end Surfaces

namespace BlurPass

variable {m : Multiset Resource} {s₀ : Stage ω}

/-- The surfaces of the pass, if it has them. -/
def owned (p : BlurPass) : List Surface := p.surfaces.elim [] fun (a, b) => [a, b]

theorem lives_setUp (p : BlurPass) (setup : PassSetup) {d : Device}
    (h : d.Lives (resourcesOf p.owned + m)) :
    (p.setUp setup d).2.Lives (resourcesOf (p.setUp setup d).1.owned + m) := by
  obtain ⟨flags, size, resolution, program, input, texel, kernel, surfaces, geometry⟩ := p
  cases surfaces with
  | some pair => exact h
  | none =>
    have bare : d.Lives m := by simpa [owned] using h
    simpa [BlurPass.setUp, owned, add_assoc] using bare.createSurfaces _ _

theorem lives_dispose (p : BlurPass) {d : Device} (h : d.Lives (resourcesOf p.owned + m)) :
    (p.dispose d).2.Lives m := by
  obtain ⟨flags, size, resolution, program, input, texel, kernel, surfaces, geometry⟩ := p
  cases surfaces with
  | some pair =>
    have both : d.Lives (pair.1.resources + (pair.2.resources + m)) := by
      simpa [owned, add_assoc] using h
    exact both.disposeSurface.disposeSurface
  | none =>
    have bare : d.Lives m := by simpa [owned] using h
    exact bare

/-- The surfaces get their new size one after the other, up to the first that fails. -/
theorem setSize_eq (p : BlurPass) (s : Stage ω) (width height : UInt32) :
    setSize width height (p, s) =
      let q := { p with resolution := p.resolution.setBaseSize width height }
      let resize (x : Surface) : Act (Stage ω) Surface :=
        Stage.onDevice (Device.resizeSurface x q.resolution.width q.resolution.height)
      match p.surfaces with
      | none => .ok () (q, s)
      | some (a, b) =>
        match resize a s with
        | .error e t => .error e (q, t)
        | .ok a t =>
          match resize b t with
          | .error e u => .error e ({ q with surfaces := some (a, b) }, u)
          | .ok b u => .ok () ({ q with surfaces := some (a, b) }, u) := by
  obtain ⟨flags, size, resolution, program, input, texel, kernel, surfaces, geometry⟩ := p
  cases surfaces with
  | none => rfl
  | some pair =>
    obtain ⟨a, b⟩ := pair
    simp only
    let r := resolution.setBaseSize width height
    change (Act.onSecond (Stage.onDevice (Device.resizeSurface a r.width r.height)) >>= _)
      ((⟨flags, size, r, program, input, texel, kernel, some (a, b), geometry⟩ : BlurPass), s) = _
    rw [Act.bind_apply, Act.onSecond]
    cases Stage.onDevice (Device.resizeSurface a r.width r.height) s with
    | error e t => rfl
    | ok a' t =>
      simp only
      change (Act.onSecond (Stage.onDevice (Device.resizeSurface b r.width r.height)) >>= _)
        ((⟨flags, size, r, program, input, texel, kernel, some (a', b), geometry⟩ : BlurPass), t) = _
      rw [Act.bind_apply, Act.onSecond]
      cases Stage.onDevice (Device.resizeSurface b r.width r.height) t <;> rfl

/-- Both surfaces stay the same surfaces when they are resized, one after the other. -/
theorem keeps_owned_setSize {r : Multiset Resource} (width height : UInt32) :
    Act.Keeps (fun x : BlurPass × Stage ω => resourcesOf x.1.owned = r ∧ s₀.Steady theirs x.2)
      (setSize width height) := by
  rintro ⟨p, s⟩ ⟨hp, hs⟩
  let w := (p.resolution.setBaseSize width height).width
  let h := (p.resolution.setBaseSize width height).height
  unfold Act.after
  rw [setSize_eq]
  unfold owned at hp ⊢
  cases hx : p.surfaces with
  | none =>
    rw [hx] at hp
    exact ⟨hp, hs⟩
  | some pair =>
    obtain ⟨a, b⟩ := pair
    rw [hx] at hp
    have first := brings_steady_resizeSurface a w h s hs
    simp only
    cases ha : Stage.onDevice (Device.resizeSurface a w h) s with
    | error e t =>
      rw [ha] at first
      exact ⟨hp, first⟩
    | ok a' t =>
      rw [ha] at first
      have same : resourcesOf [a', b] = r := by
        rwa [resourcesOf_cons, first.1, ← resourcesOf_cons]
      have second := brings_steady_resizeSurface b w h t first.2
      simp only
      cases hb : Stage.onDevice (Device.resizeSurface b w h) t with
      | error e u =>
        rw [hb] at second
        exact ⟨same, second⟩
      | ok b' u =>
        rw [hb] at second
        refine ⟨?_, second.2⟩
        rwa [Option.elim_some, resourcesOf_cons, resourcesOf_cons, second.1, ← resourcesOf_cons,
          ← resourcesOf_cons]
end BlurPass

/-! ## Passes of the library -/

namespace BuiltinPass

/-- The surfaces of a pass. -/
def owned : BuiltinPass H → List Surface
  | depth p => p.surface.toList
  | save p => p.surface.toList
  | blur p => p.owned
  | _ => []

variable {m r : Multiset Resource} {s₀ s : Stage ω} {q : BuiltinPass H}

theorem owned_withFlags (q : BuiltinPass H) (flags : PassFlags) :
    (q.withFlags flags).owned = q.owned := by
  cases q <;> rfl

variable [EffectHooks H ω]

theorem owned_edit (q : BuiltinPass H) (op : EffectPass.Op H ω) (s : Stage ω) :
    (q.edit op s).owned = q.owned := by
  cases q <;> rfl

theorem owned_dispose (q : BuiltinPass H) (s : Stage ω) : (q.dispose s).1.owned = [] := by
  cases q <;> rfl

theorem owned_setDepthTexture (q : BuiltinPass H) (t : Option Texture) (packing : DepthPacking)
    (s : Shared ω) : (q.setDepthTexture t packing s).1.owned = q.owned := by
  cases q <;> rfl

variable (tidy : TidyHooks theirs H)

include tidy

theorem owns_setUp (setup : PassSetup) (h : s.Owns theirs (resourcesOf q.owned + m)) :
    (q.setUp setup s).2.Owns theirs (resourcesOf (q.setUp setup s).1.owned + m) := by
  have made {d : Device} {xs : List Surface}
      (hd : ∀ rest, s.device.Lives (resourcesOf q.owned + rest) → d.Lives (resourcesOf xs + rest)) :
      Stage.Owns theirs (resourcesOf xs + m) { s with device := d } := by
    refine h.mapDevice fun rest hr => ?_
    rw [add_assoc] at hr ⊢
    exact hd _ hr
  cases q with
  | depth p => exact made fun _ => p.lives_setUp setup
  | save p => exact made fun _ => p.lives_setUp setup
  | blur p => exact made fun _ => p.lives_setUp setup
  | effects p => exact p.setUp_of_hooks (tidy.keep s) (.refl theirs s) setup _ h
  | _ => exact h

theorem owns_dispose (h : s.Owns theirs (resourcesOf q.owned + m)) :
    (q.dispose s).2.Owns theirs m := by
  have ended {d : Device}
      (hd : ∀ rest, s.device.Lives (resourcesOf q.owned + rest) → d.Lives rest) :
      Stage.Owns theirs m { s with device := d } := by
    refine h.mapDevice fun rest hr => ?_
    rw [add_assoc] at hr
    exact hd _ hr
  have bare (e : resourcesOf q.owned = 0) : s.Owns theirs m := by rwa [e, zero_add] at h
  cases q with
  | depth p => exact ended fun _ => lives_disposeOptional
  | save p => exact ended fun _ => lives_disposeOptional
  | blur p => exact ended fun _ => p.lives_dispose
  | effects p => exact p.steady_dispose tidy s _ (bare rfl)
  | _ => exact bare rfl

theorem keeps_owned_setSize (width height : UInt32) :
    Act.Keeps (fun x : BuiltinPass H × Stage ω =>
      resourcesOf x.1.owned = r ∧ s₀.Steady theirs x.2) (setSize width height) := by
  rintro ⟨q, s⟩ h
  cases q with
  | depth p =>
    rw [after_wrap rfl]
    exact DepthPass.keeps_owned_setSize width height (p, s) h
  | save p =>
    rw [after_wrap rfl]
    exact SavePass.keeps_owned_setSize width height (p, s) h
  | blur p =>
    rw [after_wrap rfl]
    exact BlurPass.keeps_owned_setSize width height (p, s) h
  | effects p => exact ⟨h.1, h.2.withShared (p.theirs_setSize tidy width height s.toShared)⟩
  | _ => exact h

theorem theirs_setDepthTexture (q : BuiltinPass H) (t : Option Texture) (packing : DepthPacking)
    (s : Shared ω) : theirs (q.setDepthTexture t packing s).2.host = theirs s.host := by
  cases q with
  | effects p => exact p.theirs_setDepthTexture tidy t packing s
  | _ => rfl

omit tidy in
theorem owned_after_render (input output : Surface) (delta : Float32) (masked : Bool)
    (x : BuiltinPass H × Stage ω) :
    ((render input output delta masked).after x).1.owned = x.1.owned := by
  obtain ⟨q, s⟩ := x
  rcases eq_or_effects_after_render input output delta masked q s with same | ⟨p, rfl, after⟩
  · rw [same]
  · rw [after]
    rfl

theorem keeps_owned_render (input output : Surface) (delta : Float32) (masked : Bool) :
    Act.Keeps (fun x : BuiltinPass H × Stage ω =>
      resourcesOf x.1.owned = r ∧ s₀.Steady theirs x.2) (render input output delta masked) := fun x h =>
  ⟨(congrArg resourcesOf (owned_after_render input output delta masked x)).trans h.1,
    keeps_of_calls (tidy.keep s₀) (stageCalls_steady s₀) input output delta masked x h.2⟩

end BuiltinPass

/-! ## A program's own passes -/

/-- The passes of the type `Q` keep their accounts: they end nothing that is not theirs, and the host
knows what is. -/
structure TidyPasses (theirs : ω → Multiset Resource) (Q : Type) [Pass Q ω] : Prop where
  setUp : ∀ (setup : PassSetup) (x : Q × Stage ω), x.2.Steady theirs ((Pass.setUp setup).after x).2
  setSize : ∀ (width height : UInt32) (x : Q × Stage ω),
    x.2.Steady theirs ((Pass.setSize width height).after x).2
  setDepthTexture : ∀ (q : Q) (t : Option Texture) (s : Shared ω),
    theirs (Pass.setDepthTexture q t .basic s).2.host = theirs s.host
  render : ∀ (input output : Surface) (delta : Float32) (masked : Bool) (x : Q × Stage ω),
    x.2.Steady theirs ((Pass.render input output delta masked).after x).2
  dispose : ∀ (q : Q) (s : Stage ω), s.Steady theirs (Pass.dispose q s).2

theorem tidyPasses_probePass : TidyPasses (fun _ => 0) ProbePass := by
  have called (x : ProbePass × Stage ProbeLog) (which : ProbeCall) (event : ProbeEvent) :
      x.2.Steady (fun _ => 0) ((Act.onSecond (x.1.call which event)).after x).2 := by
    have kept : Act.Keeps (x.2.Steady fun _ => 0) (x.1.call which event) := by
      unfold ProbePass.call
      refine Act.Keeps.bind (Act.keeps_modify fun s hs => hs.still (.refl _) rfl) fun _ => ?_
      split
      · exact Act.keeps_throw _
      · exact Act.keeps_pure _
    rw [Act.after_onSecond]
    exact kept x.2 (.refl _ _)
  exact {
    setUp := fun _ x => called x .setUp _
    setSize := fun _ _ x => called x .setSize _
    setDepthTexture := fun _ _ _ => rfl
    render := fun _ _ _ _ x => called x .render _
    dispose := fun _ s => .refl _ s }

/-- What a program brings along, the hooks of its effects and its own passes, keeps its accounts. -/
structure TidyProgram (theirs : ω → Multiset Resource) (H Q : Type) [EffectHooks H ω] [Pass Q ω] :
    Prop where
  hooks : TidyHooks theirs H
  passes : TidyPasses theirs Q

theorem tidyProgram_probe : TidyProgram (fun _ => 0) ProbeHooks ProbePass :=
  ⟨tidyHooks_probeHooks, tidyPasses_probePass⟩

namespace AnyPass

/-- The surfaces of a pass of the library. What a program's own pass owns is theirs. -/
def owned : AnyPass H Q → List Surface
  | builtin q => q.owned
  | own _ => []

/-- What lives with the surfaces of the pass. -/
def resources (q : AnyPass H Q) : Multiset Resource := resourcesOf q.owned

variable {m r : Multiset Resource} {s₀ s : Stage ω} {q : AnyPass H Q} [EffectHooks H ω]

theorem owned_edit (q : AnyPass H Q) (op : EffectPass.Op H ω) (s : Stage ω) :
    (q.edit op s).owned = q.owned := by
  cases q with
  | builtin q => exact q.owned_edit op s
  | own q => rfl

variable [Pass Q ω]

theorem owned_withFlags (q : AnyPass H Q) (flags : PassFlags) :
    (Pass.withFlags q flags).owned = q.owned := by
  cases q with
  | builtin q => exact q.owned_withFlags flags
  | own q => rfl

/-- A pass that was disposed of owns no surface. -/
theorem owned_dispose (q : AnyPass H Q) (s : Stage ω) : (Pass.dispose q s).1.owned = [] := by
  cases q with
  | builtin q => exact q.owned_dispose s
  | own q => rfl

theorem owned_setDepthTexture (q : AnyPass H Q) (t : Option Texture) (s : Shared ω) :
    (Pass.setDepthTexture q t .basic s).1.owned = q.owned := by
  cases q with
  | builtin q => exact q.owned_setDepthTexture t .basic s
  | own q => rfl

omit [EffectHooks H ω] [Pass Q ω] in
/-- What both kinds of passes keep of what they own is kept. -/
theorem keeps_owned_of_builtin_own {f : Act (AnyPass H Q × Stage ω) Unit}
    {library : Act (BuiltinPass H × Stage ω) Unit} {program : Act (Q × Stage ω) Unit}
    (onBuiltin : ∀ q s, f (builtin q, s) = wrap builtin q s library)
    (onOwn : ∀ q s, f (own q, s) = wrap own q s program)
    (keeps : Act.Keeps (fun x => resourcesOf x.1.owned = r ∧ s₀.Steady theirs x.2) library)
    (steady : ∀ x : Q × Stage ω, x.2.Steady theirs (program.after x).2) :
    Act.Keeps (fun x : AnyPass H Q × Stage ω => x.1.resources = r ∧ s₀.Steady theirs x.2) f := by
  rintro ⟨q, s⟩ ⟨h, hs⟩
  cases q with
  | builtin q =>
    rw [after_wrap (onBuiltin q s)]
    exact keeps (q, s) ⟨h, hs⟩
  | own q =>
    rw [after_wrap (onOwn q s)]
    exact ⟨h, hs.trans (steady (q, s))⟩

variable (tidy : TidyProgram theirs H Q)

include tidy

/-- A pass that is set up makes its surfaces, if it has none. -/
theorem owns_setUp (setup : PassSetup) :
    Act.Keeps (fun x : AnyPass H Q × Stage ω => x.2.Owns theirs (x.1.resources + m))
      (Pass.setUp setup) := by
  rintro ⟨q, s⟩ h
  cases q with
  | builtin q =>
    rw [after_wrap rfl]
    exact BuiltinPass.owns_setUp tidy.hooks setup h
  | own q =>
    rw [after_wrap rfl]
    exact tidy.passes.setUp setup (q, s) _ h

/-- A pass that is disposed of gives up its surfaces. -/
theorem owns_dispose (h : s.Owns theirs (q.resources + m)) :
    (Pass.dispose q s).2.Owns theirs m := by
  cases q with
  | builtin q => exact BuiltinPass.owns_dispose tidy.hooks h
  | own q =>
    have bare : s.Owns theirs m := by
      rwa [resources, owned, resourcesOf_nil, zero_add] at h
    exact tidy.passes.dispose q s m bare

theorem keeps_owned_setSize (width height : UInt32) :
    Act.Keeps (fun x : AnyPass H Q × Stage ω => x.1.resources = r ∧ s₀.Steady theirs x.2)
      (Pass.setSize width height) :=
  keeps_owned_of_builtin_own (fun _ _ => rfl) (fun _ _ => rfl)
    (BuiltinPass.keeps_owned_setSize tidy.hooks width height) (tidy.passes.setSize width height)

theorem keeps_owned_render (input output : Surface) (delta : Float32) (masked : Bool) :
    Act.Keeps (fun x : AnyPass H Q × Stage ω => x.1.resources = r ∧ s₀.Steady theirs x.2)
      (Pass.render input output delta masked) :=
  keeps_owned_of_builtin_own (fun _ _ => rfl) (fun _ _ => rfl)
    (BuiltinPass.keeps_owned_render tidy.hooks input output delta masked)
    (tidy.passes.render input output delta masked)

theorem theirs_setDepthTexture (q : AnyPass H Q) (t : Option Texture) (s : Shared ω) :
    theirs (Pass.setDepthTexture q t .basic s).2.host = theirs s.host := by
  cases q with
  | builtin q => exact BuiltinPass.theirs_setDepthTexture tidy.hooks q t .basic s
  | own q => exact tidy.passes.setDepthTexture q t s

end AnyPass

end ScreenEffects
