import ScreenEffects.Probe.Pass
import ScreenEffects.Proofs.Pass.DepthBuffer

/-!
# A program's own passes

What a pass that is not of the library does is up to the program. `SparingPasses R Q` says that the
passes of the type `Q` keep away from the reserved uniforms and from the depth textures of others. With
such passes among them, passes guard their depth buffers as those of the library do.

* `AnyPass.Guards R b t` : the pass writes no uniform of `R` but its own depth buffer `b`, and it holds
  the depth texture `t`.
* `AnyPass.guards_setDepthTexture` : what handing a pass a texture does.
* `AnyPass.keeps_guards_setUp`, `keeps_guards_setSize`, `keeps_guards_render` : nothing else changes
  what it holds.
-/

namespace ScreenEffects

variable {H Q ω : Type} {R : Uniform → Prop} {t : Option Texture}

/-- The passes of the type `Q` spare the uniforms of `R` and the depth textures. A pass that ends may
take a texture of its own with it. -/
structure SparingPasses (R : Uniform → Prop) (Q : Type) {ω : Type} [Pass Q ω] : Prop where
  setUp : ∀ (setup : PassSetup) (x : Q × Stage ω), x.2.Spares R ((Pass.setUp setup).after x).2
  setSize : ∀ (width height : UInt32) (x : Q × Stage ω),
    x.2.Spares R ((Pass.setSize width height).after x).2
  setDepthTexture : ∀ (q : Q) (t : Option Texture) (s : Shared ω),
    s.uniforms.Spares R (Pass.setDepthTexture q t .basic s).2.uniforms
  render : ∀ (input output : Surface) (delta : Float32) (masked : Bool) (x : Q × Stage ω),
    x.2.Spares R ((Pass.render input output delta masked).after x).2
  dispose : ∀ (q : Q) (s : Stage ω), s.uniforms.Spares R (Pass.dispose q s).2.uniforms ∧
    ∀ L, s.device.DepthWithin L → (Pass.dispose q s).2.device.DepthWithin L

theorem ProbePass.keeps_spares_call (p : ProbePass) (which : ProbeCall) (event : ProbeEvent)
    {s₀ : Stage ProbeLog} : Act.Keeps (s₀.Spares R) (p.call which event) := by
  unfold ProbePass.call
  refine Act.Keeps.bind (Act.keeps_modify fun s hs => ⟨hs.uniforms, hs.depth⟩) fun _ => ?_
  split
  · exact Act.keeps_throw _
  · exact Act.keeps_pure _

theorem sparingPasses_probePass (R : Uniform → Prop) : SparingPasses R ProbePass := by
  have called (x : ProbePass × Stage ProbeLog) (which : ProbeCall) (event : ProbeEvent) :
      x.2.Spares R ((Act.onSecond (x.1.call which event)).after x).2 := by
    rw [Act.after_onSecond]
    exact x.1.keeps_spares_call which event x.2 (.refl R x.2)
  exact {
    setUp := fun _ x => called x .setUp _
    setSize := fun _ _ x => called x .setSize _
    setDepthTexture := fun _ _ _ => .refl R _
    render := fun _ _ _ _ x => called x .render _
    dispose := fun _ _ => ⟨.refl R _, fun _ h => h⟩ }

/-- What a program brings along, the hooks of its effects and its own passes, spares the uniforms of `R`
and the depth textures. -/
structure SparingProgram (R : Uniform → Prop) (H Q : Type) {ω : Type} [EffectHooks H ω] [Pass Q ω] :
    Prop where
  hooks : SparingHooks R H
  passes : SparingPasses R Q

theorem sparingProgram_probe (R : Uniform → Prop) : SparingProgram R ProbeHooks ProbePass :=
  ⟨sparingHooks_probeHooks R, sparingPasses_probePass R⟩

namespace AnyPass

/-- The depth buffer of a pass of effects; the other passes have none. -/
def depthBuffer? : AnyPass H Q → Option Uniform
  | builtin q => q.depthBuffer?
  | own _ => none

/-- The pass writes no uniform of `R` apart from its depth buffer, which is `b`, and it holds the
depth texture `t`, if it is a pass of effects. -/
def Guards (R : Uniform → Prop) (b : Option Uniform) (t : Option Texture) : AnyPass H Q → Prop
  | builtin q => q.Guards R b t
  | own _ => b = none

variable {b : Option Uniform} {q : AnyPass H Q}

theorem guards_iff :
    q.Guards R b t ↔ q.depthBuffer? = b ∧ q.Guards R q.depthBuffer? t := by
  cases q with
  | builtin q => exact BuiltinPass.guards_iff
  | own q => exact ⟨fun h => ⟨Eq.symm h, rfl⟩, fun h => Eq.symm h.1⟩

/-- The depth buffer of a pass is reserved. -/
theorem Guards.reserved {u : Uniform} (h : q.Guards R (some u) t) : R u := by
  cases q with
  | builtin q => exact BuiltinPass.Guards.reserved h
  | own q => exact nomatch h

variable [EffectHooks H ω]

theorem Guards.edit {op : EffectPass.Op H ω} (edits : op.IsEdit) (avoids : op.Avoids R)
    (h : q.Guards R b t) (s : Stage ω) : (q.edit op s).Guards R b t := by
  cases q with
  | builtin q => exact BuiltinPass.Guards.edit edits avoids h s
  | own q => exact h

variable [Pass Q ω]

theorem Guards.withFlags (h : q.Guards R b t) (flags : PassFlags) :
    (Pass.withFlags q flags).Guards R b t := by
  cases q with
  | builtin q => exact BuiltinPass.Guards.withFlags h flags
  | own q => exact h

theorem Guards.sendToScreen (h : q.Guards R b t) (toScreen : Bool) :
    (Pipeline.sendToScreen q toScreen).Guards R b t :=
  h.withFlags _

theorem depthBuffer?_sendToScreen (q : AnyPass H Q) (toScreen : Bool) :
    (Pipeline.sendToScreen q toScreen).depthBuffer? = q.depthBuffer? := by
  rcases q with q | q
  · cases q <;> rfl
  · rfl

theorem depthBuffer?_setDepthTexture (q : AnyPass H Q) (t : Option Texture) (s : Shared ω) :
    (Pass.setDepthTexture q t .basic s).1.depthBuffer? = q.depthBuffer? := by
  rcases q with q | q
  · cases q <;> rfl
  · rfl

variable {s₀ : Stage ω}

omit [EffectHooks H ω] [Pass Q ω] in
/-- What keeps a kind of pass as it is, as far as its depth buffer goes, keeps the pass. -/
theorem keeps_guards_of_builtin_own {f : Act (AnyPass H Q × Stage ω) Unit}
    {library : Act (BuiltinPass H × Stage ω) Unit} {program : Act (Q × Stage ω) Unit}
    (onBuiltin : ∀ q s, f (builtin q, s) = wrap builtin q s library)
    (onOwn : ∀ q s, f (own q, s) = wrap own q s program)
    (keeps : Act.Keeps (fun x => x.1.Guards R b t ∧ s₀.Spares R x.2) library)
    (spares : ∀ x : Q × Stage ω, x.2.Spares R (program.after x).2) :
    Act.Keeps (fun x : AnyPass H Q × Stage ω => x.1.Guards R b t ∧ s₀.Spares R x.2) f := by
  rintro ⟨q, s⟩ ⟨h, hs⟩
  cases q with
  | builtin q =>
    rw [after_wrap (onBuiltin q s)]
    exact keeps (q, s) ⟨h, hs⟩
  | own q =>
    rw [after_wrap (onOwn q s)]
    exact ⟨h, hs.trans (spares (q, s))⟩

variable (sparing : SparingProgram R H Q)

include sparing

theorem keeps_guards_setUp (setup : PassSetup) :
    Act.Keeps (fun x : AnyPass H Q × Stage ω => x.1.Guards R b t ∧ s₀.Spares R x.2)
      (Pass.setUp setup) :=
  keeps_guards_of_builtin_own (fun _ _ => rfl) (fun _ _ => rfl)
    (BuiltinPass.keeps_guards_setUp sparing.hooks setup) (sparing.passes.setUp setup)

theorem keeps_guards_setSize (width height : UInt32) :
    Act.Keeps (fun x : AnyPass H Q × Stage ω => x.1.Guards R b t ∧ s₀.Spares R x.2)
      (Pass.setSize width height) :=
  keeps_guards_of_builtin_own (fun _ _ => rfl) (fun _ _ => rfl)
    (BuiltinPass.keeps_guards_setSize sparing.hooks width height) (sparing.passes.setSize width height)

theorem keeps_guards_render (input output : Surface) (delta : Float32) (masked : Bool) :
    Act.Keeps (fun x : AnyPass H Q × Stage ω => x.1.Guards R b t ∧ s₀.Spares R x.2)
      (Pass.render input output delta masked) :=
  keeps_guards_of_builtin_own (fun _ _ => rfl) (fun _ _ => rfl)
    (BuiltinPass.keeps_guards_render sparing.hooks input output delta masked)
    (sparing.passes.render input output delta masked)

/-- To hand a pass a texture changes what it holds and what its depth buffer is bound to. -/
theorem guards_setDepthTexture (h : q.Guards R b t) (t' : Option Texture) (s : Shared ω) :
    (Pass.setDepthTexture q t' .basic s).1.Guards R b t' ∧
      s.uniforms.Spares (fun w => R w ∧ b ≠ some w)
        (Pass.setDepthTexture q t' .basic s).2.uniforms ∧
      ∀ u, b = some u → s.uniforms.Holds u →
        (Pass.setDepthTexture q t' .basic s).2.uniforms.get u = .texture t' := by
  cases q with
  | builtin q => exact BuiltinPass.guards_setDepthTexture sparing.hooks h t' s
  | own q =>
    obtain rfl : b = none := h
    exact ⟨rfl, (sparing.passes.setDepthTexture q t' s).mono fun w hw => hw.1, nofun⟩

/-- A pass that ends may take textures with it. -/
theorem spares_dispose (q : AnyPass H Q) (s : Stage ω) :
    s.uniforms.Spares R (Pass.dispose q s).2.uniforms ∧
      ∀ L, s.device.DepthWithin L → (Pass.dispose q s).2.device.DepthWithin L := by
  cases q with
  | builtin q => exact BuiltinPass.spares_dispose sparing.hooks q s
  | own q => exact sparing.passes.dispose q s

end AnyPass

end ScreenEffects
