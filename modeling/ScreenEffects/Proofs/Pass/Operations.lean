import Mathlib.Data.List.InsertIdx
import ScreenEffects.Pass.Any
import ScreenEffects.Proofs.Act

/-!
# Runs of an effect pass

What can happen to a pass of effects: changes of its list, edits of one effect, its life in a
pipeline and its frames, in any order, each of them failing or not (`EffectPass.Op`). Between two
operations the rest of the program may do anything to the stage (`Op.elsewhere`).

A failed operation leaves a state behind from which the run goes on (`EffectPass.run`). What a pass
was told on the way, apart from its effects, is in `Conditions`.
-/

namespace ScreenEffects

variable {H ω : Type}

/-- An edit of an effect. -/
inductive Hosted.Edit
  | setFragment (source : String)
  | setVertex (source : Option String)
  | setDefine (name value : String)
  | removeDefine (name : String)
  | addUniform (name : String) (u : Uniform)
  | removeUniform (name : String)
  | setExtensions (es : ExtensionSet)
  | setAttributes (a : Attributes)
  | setBlendFunction (f : BlendFunction)

/-- The effect after an edit. -/
def Hosted.Edit.apply (edit : Edit) (h : Hosted H) : Hosted H :=
  match edit with
  | setFragment source => h.setFragment source
  | setVertex source => h.setVertex source
  | setDefine name value => h.setDefine name value
  | removeDefine name => h.removeDefine name
  | addUniform name u => h.addUniform name u
  | removeUniform name => h.removeUniform name
  | setExtensions es => h.setExtensions es
  | setAttributes a => h.setAttributes a
  | setBlendFunction f => h.setBlendFunction f

theorem Hosted.ite_edit_eq_self {c : Prop} [Decidable c] {h : Hosted H} {f : Effect → Effect}
    (hc : (if c then h.edit f else h).dirty = false) : (if c then h.edit f else h) = h := by
  by_cases hi : c
  · rw [if_pos hi] at hc
    cases hc
  · exact if_neg hi

/-- An edit that leaves an effect clean has changed nothing. -/
theorem Hosted.Edit.apply_eq_self (edit : Edit) {h : Hosted H} (hc : (edit.apply h).dirty = false) :
    edit.apply h = h := by
  cases edit with
  | setFragment | setVertex | setDefine | addUniform | setExtensions => cases hc
  | removeDefine name => exact ite_edit_eq_self hc
  | removeUniform name => exact ite_edit_eq_self hc
  | setAttributes a =>
    simp only [apply, Hosted.setAttributes] at hc ⊢
    rw [← ite_not] at hc ⊢
    exact ite_edit_eq_self hc
  | setBlendFunction f =>
    simp only [apply, Hosted.setBlendFunction] at hc ⊢
    rw [← ite_not] at hc ⊢
    exact ite_edit_eq_self hc

namespace EffectPass

/-! ## Changes of the list -/

/-- A change in place that its undoing takes back is made as a whole or refused as a whole. -/
theorem changeInPlace_apply {change undo : List (Hosted H) → List (Hosted H)} {p : EffectPass H}
    (h : undo (change p.effects) = p.effects) :
    changeInPlace change undo p = changeEffects (change p.effects) p := by
  have run : changeInPlace change undo p =
      (changeEffects (change p.effects)).onFailure (fun p => { p with effects := undo p.effects })
        { p with effects := change p.effects } := rfl
  rw [run]
  unfold Act.onFailure changeEffects
  cases mergeHosted (change p.effects) with
  | ok m => rfl
  | error e => simp only [h]

theorem addEffect_apply (effect : Hosted H) (p : EffectPass H) :
    addEffect effect p = changeEffects (p.effects ++ [effect]) p :=
  changeInPlace_apply List.dropLast_concat

theorem removeEffect_apply (index : Nat) (p : EffectPass H) :
    removeEffect index p =
      match p.effects[index]? with
      | none => .error (.noSuchPlace index p.effects.length) p
      | some removed => (changeEffects (p.effects.eraseIdx index) >>= fun _ => pure removed) p := by
  unfold removeEffect
  rw [Act.get_bind_apply]
  cases h : p.effects[index]? with
  | none => rfl
  | some removed =>
    obtain ⟨hi, rfl⟩ := List.getElem?_eq_some_iff.1 h
    have run : changeInPlace (·.eraseIdx index) (·.insertIdx index p.effects[index]) p =
        changeEffects (p.effects.eraseIdx index) p :=
      changeInPlace_apply (List.insertIdx_eraseIdx_getElem hi)
    change (changeInPlace (·.eraseIdx index) (·.insertIdx index p.effects[index]) >>= fun _ =>
      pure p.effects[index]) p = (changeEffects (p.effects.eraseIdx index) >>= fun _ =>
        pure p.effects[index]) p
    rw [Act.bind_apply, Act.bind_apply, run]

/-! ## Merges -/

/-- A new pass is an empty one with the merge of its effects. -/
theorem exists_withMerge_of_create {camera : Option Camera} {effects : List (Hosted H)}
    {config : EffectPassConfig} {s t : UniformStore} {p : EffectPass H}
    (h : create camera effects config s = .ok (p, t)) :
    ∃ m, mergeHosted effects = .ok m ∧ t = (RuntimeUniforms.create s).2 ∧
      p = EffectPass.withMerge
        { name := nameOf effects, config, effects, camera, merged := m,
          runtime := (RuntimeUniforms.create s).1 } effects m := by
  unfold create at h
  cases hm : mergeHosted effects with
  | error e =>
    rw [hm] at h
    cases h
  | ok m =>
    rw [hm] at h
    obtain ⟨hp, ht⟩ := Prod.mk.inj (Except.ok.inj h)
    exact ⟨m, rfl, ht.symm, hp.symm⟩

/-- A change of the list keeps what a merge keeps, failed or not. -/
theorem keeps_changeEffects_of_withMerge {I : EffectPass H → Prop} {effects : List (Hosted H)}
    (keeps : ∀ p m, I p → mergeHosted effects = .ok m → I (p.withMerge effects m)) :
    Act.Keeps I (changeEffects effects) := by
  intro p h
  unfold Act.after changeEffects
  cases hm : mergeHosted effects with
  | error e => exact h
  | ok m => exact keeps p m h hm

theorem keeps_setEffects_of_changeEffects {I : EffectPass H → Prop} {effects : List (Hosted H)}
    (keeps : Act.Keeps I (changeEffects effects)) : Act.Keeps I (setEffects effects) :=
  Act.keeps_get.bind fun _ => keeps.bind fun _ => Act.keeps_pure _

theorem keeps_addEffect_of_changeEffects {I : EffectPass H → Prop} {effect : Hosted H}
    (keeps : ∀ p, I p → I ((changeEffects (p.effects ++ [effect])).after p)) :
    Act.Keeps I (addEffect effect) := by
  intro p h
  unfold Act.after
  rw [addEffect_apply]
  exact keeps p h

theorem keeps_removeEffect_of_changeEffects {I : EffectPass H → Prop} {index : Nat}
    (keeps : ∀ p, I p → I ((changeEffects (p.effects.eraseIdx index)).after p)) :
    Act.Keeps I (removeEffect index) := by
  intro p h
  unfold Act.after
  rw [removeEffect_apply]
  cases p.effects[index]? with
  | none => exact h
  | some removed =>
    have led : Act.Leads (· = p) I (changeEffects (p.effects.eraseIdx index)) := by
      rintro _ rfl
      exact keeps _ h
    exact Act.Leads.bind led id (fun _ => Act.keeps_pure removed) p rfl

theorem keeps_recompile_of_withMerge {I : EffectPass H → Prop}
    (keeps : ∀ p m, I p → mergeHosted p.effects = .ok m → I (p.withMerge p.effects m)) :
    Act.Keeps I recompile := by
  intro p h
  change I (Act.after (if p.isDirty then changeEffects p.effects else pure ()) p)
  split
  · unfold Act.after changeEffects
    cases hm : mergeHosted p.effects with
    | error e => exact h
    | ok m => exact keeps p m h hm
  · exact h

/-! ## Frames -/

/-- The frame of a pass up to the draw at its end. -/
def beforeDraw [EffectHooks H ω] (input : Surface) (delta : Float32) :
    Act (EffectPass H × Stage ω) Unit := do
  Act.onFirst recompile
  modify fun (p, s) => p.syncEffects s
  let delta := (← get).1.config.clampDelta delta
  modify fun (p, s) => (p, p.bindFrame input delta s)
  updateEffects input delta

theorem render_eq_beforeDraw [EffectHooks H ω] (input output : Surface) (delta : Float32) :
    (render input output delta : Act (EffectPass H × Stage ω) Unit) =
      beforeDraw input delta >>= fun _ => get >>= fun x => Act.onSecond (x.1.drawProgram output) := by
  unfold render beforeDraw
  simp only [bind_assoc]

/-- To bring effects up to date changes neither how the pipeline treats the pass nor its merge. -/
theorem syncEffects_fields [EffectHooks H ω] (p : EffectPass H) (s : Stage ω) :
    (p.syncEffects s).1.flags = p.flags ∧ (p.syncEffects s).1.merged = p.merged := by
  unfold syncEffects
  split <;> exact ⟨rfl, rfl⟩

/-- What the merge of a frame makes of flags and merge is left alone up to the draw. -/
theorem leads_beforeDraw [EffectHooks H ω] {I : EffectPass H → Prop} {A : PassFlags → Merged → Prop}
    (recompiled : Act.Leads I (fun p => A p.flags p.merged) recompile) (input : Surface)
    (delta : Float32) :
    Act.Leads (fun x : EffectPass H × Stage ω => I x.1) (fun x => A x.1.flags x.1.merged)
      (beforeDraw input delta) := by
  unfold beforeDraw
  refine Act.Leads.bind (J := fun x => A x.1.flags x.1.merged) (fun x h => ?_) id fun _ => ?_
  · rw [Act.after_onFirst]
    exact recompiled x.1 h
  refine Act.Keeps.bind (Act.keeps_modify fun x h => ?_) fun _ => Act.keeps_get.bind fun _ => ?_
  · obtain ⟨flags, merged⟩ := x.1.syncEffects_fields x.2
    rwa [flags, merged]
  refine Act.Keeps.bind (Act.keeps_modify fun _ h => h) fun _ x h => ?_
  unfold updateEffects
  rw [Act.after_within]
  exact h

/-! ## Operations -/

/-- An operation on a pass of effects and its stage. -/
inductive Op (H ω : Type)
  | setEffects (effects : List (Hosted H))
  | addEffect (effect : Hosted H)
  | removeEffect (index : Nat)
  | editEffect (index : Nat) (edit : Hosted.Edit)
  | markDirty
  | recompile
  | setDithering (dithering : Bool)
  | setFlags (flags : PassFlags)
  | setMainCamera (camera : Camera)
  | setUp (setup : PassSetup)
  | setSize (width height : UInt32)
  | setDepthTexture (texture : Option Texture) (packing : DepthPacking)
  | render (input output : Surface) (delta : Float32)
  | dispose
  /-- Whatever the rest of the program does to the stage. -/
  | elsewhere (s : Stage ω)

/-- The effects that an operation gives to its pass. -/
def Op.gifts : Op H ω → List (Hosted H)
  | .setEffects effects => effects
  | .addEffect effect => [effect]
  | _ => []

variable [EffectHooks H ω]

/-- What an operation does. -/
def Op.perform : Op H ω → Act (EffectPass H × Stage ω) Unit
  | setEffects effects => do
    let _ ← Act.onFirst (EffectPass.setEffects effects)
  | addEffect effect => Act.onFirst (EffectPass.addEffect effect)
  | removeEffect index => do
    let _ ← Act.onFirst (EffectPass.removeEffect index)
  | editEffect index edit => modify fun (p, s) => (p.editEffect index edit.apply, s)
  | markDirty => modify fun (p, s) => (p.markDirty, s)
  | recompile => Act.onFirst EffectPass.recompile
  | setDithering dithering => modify fun (p, s) => (p.setDithering dithering, s)
  | setFlags flags => modify fun (p, s) => ({ p with flags }, s)
  | setMainCamera camera => modify fun (p, s) => ({ p with camera := some camera }, s)
  | setUp setup => modify fun (p, s) => p.setUp setup s
  | setSize width height => modify fun (p, s) =>
    let (p, t) := p.setSize width height s.toShared
    (p, s.withShared t)
  | setDepthTexture texture packing => modify fun (p, s) =>
    let (p, t) := p.setDepthTexture texture packing s.toShared
    (p, s.withShared t)
  | render input output delta => EffectPass.render input output delta
  | dispose => modify fun (p, s) => p.dispose s
  | elsewhere s => modify fun (p, _) => (p, s)

/-- The state after operations, failed ones included. -/
def run : List (Op H ω) → EffectPass H × Stage ω → EffectPass H × Stage ω
  | [], x => x
  | op :: ops, x => run ops (op.perform.after x)

/-- An effect that can be merged with those before it is appended. -/
theorem perform_addEffect {p : EffectPass H} {effect : Hosted H} {m : Merged}
    (h : mergeHosted (p.effects ++ [effect]) = .ok m) (s : Stage ω) :
    (Op.addEffect effect).perform.after (p, s) =
      (p.withMerge (p.effects ++ [effect]) m, s) := by
  refine (Act.after_onFirst (EffectPass.addEffect effect) p s).trans ?_
  unfold Act.after
  rw [addEffect_apply, changeEffects, h]

theorem run_append (ops ops' : List (Op H ω)) (x : EffectPass H × Stage ω) :
    run (ops ++ ops') x = run ops' (run ops x) := by
  induction ops generalizing x with
  | nil => rfl
  | cons op ops ih => exact ih (op.perform.after x)

end EffectPass

/-! ## Passes wrapped up -/

/-- What an act of one kind of pass leaves behind, wrapped up again. -/
theorem BuiltinPass.after_wrap {Q : Type} {mk : Q → BuiltinPass H} {p : Q} {s : Stage ω}
    {act : Act (Q × Stage ω) Unit} {f : Act (BuiltinPass H × Stage ω) Unit}
    (hf : f (mk p, s) = wrap mk p s act) :
    f.after (mk p, s) = (mk (act.after (p, s)).1, (act.after (p, s)).2) := by
  unfold Act.after
  rw [hf]
  unfold wrap
  cases act (p, s) <;> rfl

theorem AnyPass.after_wrap {P Q : Type} {mk : P → AnyPass H Q} {p : P} {s : Stage ω}
    {act : Act (P × Stage ω) Unit} {f : Act (AnyPass H Q × Stage ω) Unit}
    (hf : f (mk p, s) = wrap mk p s act) :
    f.after (mk p, s) = (mk (act.after (p, s)).1, (act.after (p, s)).2) := by
  unfold Act.after
  rw [hf]
  unfold wrap
  cases act (p, s) <;> rfl

/-! ## Edits -/

/-- The operation edits a pass, and is not about its life in a pipeline. -/
def EffectPass.Op.IsEdit : Op H ω → Prop
  | .setEffects _ | .addEffect _ | .removeEffect _ | .editEffect _ _ | .markDirty | .recompile
  | .setDithering _ | .setFlags _ | .setMainCamera _ => True
  | _ => False

/-- A pass of the library after an edit, failed or not; only passes of effects can be edited. -/
def BuiltinPass.edit [EffectHooks H ω] (op : EffectPass.Op H ω) (s : Stage ω) :
    BuiltinPass H → BuiltinPass H
  | effects p => effects (op.perform.after (p, s)).1
  | q => q

/-- A pass after an edit, failed or not; only passes of effects can be edited. -/
def AnyPass.edit {Q : Type} [EffectHooks H ω] (op : EffectPass.Op H ω) (s : Stage ω) :
    AnyPass H Q → AnyPass H Q
  | builtin q => builtin (q.edit op s)
  | own q => own q

/-! ## What a pass was told -/

/-- The count of a warning is beyond its limit. -/
def BudgetWarning.isExceeded : BudgetWarning → Bool
  | uniforms count max | varyings count max => max < count

/-- What a pass was told, apart from its effects. -/
structure Conditions where
  dithering : Bool
  packing : DepthPacking := .basic
  precision : Precision := .byte
  /-- The limits of the device at the last time at which the pass was set up. -/
  limits : Option Limits := none

namespace Conditions

open EffectPass

/-- What an operation tells on the stage `s`. -/
def next (c : Conditions) (s : Stage ω) : Op H ω → Conditions
  | .setDithering dithering => { c with dithering }
  | .setUp setup => { c with precision := setup.precision, limits := some s.device.limits }
  | .setDepthTexture _ packing => { c with packing }
  | _ => c

/-- What a pass was told when operations are over. -/
def after [EffectHooks H ω] (c : Conditions) : List (Op H ω) → EffectPass H × Stage ω → Conditions
  | [], _ => c
  | op :: ops, x => (c.next x.2 op).after ops (op.perform.after x)

/-- The macros of a program under these conditions, apart from those of its merge. -/
def macros (c : Conditions) : List (String × String) :=
  [("DEPTH_PACKING", match c.packing with | .basic => "3200" | .rgba => "3201")] ++
  (if c.dithering then [("DITHERING", "1")] else []) ++
  (if c.precision = .half then [("FRAMEBUFFER_PRECISION_HIGH", "1")] else [])

/-- The limits that a merge exceeds under these conditions: none while they are not known. -/
def exceeded (c : Conditions) (m : Merged) : List BudgetWarning :=
  match c.limits with
  | none => []
  | some l =>
    [BudgetWarning.uniforms m.uniformCount l.fragmentUniforms,
      .varyings m.varyings l.varyings].filter (·.isExceeded)

end Conditions

end ScreenEffects
