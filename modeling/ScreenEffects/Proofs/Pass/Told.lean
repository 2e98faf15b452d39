import ScreenEffects.Proofs.Effect.Noted
import ScreenEffects.Proofs.Effect.Quiet
import ScreenEffects.Proofs.Pass.Refusal

/-!
# What the effects of a pass were told

A pass hands on what it is told to the effects it has at that time; those that come later are told
before their first frame. So whenever an effect does the work of a frame, it is up to date
(`UpToDate`): it was prepared once, and what it was told last is what the pass was told last.

There is one gap. Effects that were in the list already when the pass was set up are prepared then, but
not told the depth texture: one that was told to the pass before they came does not reach them.

* `Informs.perform` is the step: a pass has informed its effects, or knows that it has to.
* `Updates` : the work of one frame, in order, each effect being up to date when its turn comes.
* `effects_up_to_date` : every frame of every run.
-/

namespace ScreenEffects

variable {H K ω : Type}

/-! ## What a pass and its effects were told -/

/-- What a pass was told since it was set up. -/
structure Told where
  size : Bool := false
  depth : Bool := false

namespace Told

open EffectPass

/-- What the pass `p` was told after an operation. -/
def next (told : Told) (p : EffectPass H) : Op H ω → Told
  | .setSize _ _ => { told with size := told.size || p.isSetUp }
  | .setDepthTexture _ _ => { told with depth := told.depth || p.isSetUp }
  | _ => told

/-- What a pass was told when operations are over. -/
def after [EffectHooks H ω] (told : Told) : List (Op H ω) → EffectPass H × Stage ω → Told
  | [], _ => told
  | op :: ops, x => (told.next x.1 op).after ops (op.perform.after x)

end Told

namespace Memo

variable {told : Told} {prepared : Bool} {size : Option (UInt32 × UInt32)}
  {depth : Option Texture × DepthPacking} {m : Memo}

/-- The memo holds nothing out of date: the effect was prepared at most once, and what it was told
last, if anything, is `size` and `depth`. -/
structure Current (size : Option (UInt32 × UInt32)) (depth : Option Texture × DepthPacking)
    (prepared : Bool) (m : Memo) : Prop where
  prepared : m.timesPrepared = if prepared then 1 else 0
  size : m.size? = none ∨ m.size? = size
  depth : m.depth? = none ∨ m.depth? = some depth

/-- The effect was prepared once, and knows the size and the depth texture as far as its pass was told
them. -/
structure Informed (told : Told) (size : Option (UInt32 × UInt32))
    (depth : Option Texture × DepthPacking) (m : Memo) : Prop where
  prepared : m.timesPrepared = 1
  size : told.size = true → m.size? = size
  depth : m.depth? = some depth ∨ m.depth? = none ∧ m.late = false ∧ told.depth = false

theorem current_new (size : Option (UInt32 × UInt32)) (depth : Option Texture × DepthPacking)
    (late : Bool) : Current size depth false { late } :=
  ⟨rfl, .inl rfl, .inl rfl⟩

theorem Current.prepare (h : m.Current size depth false) (alpha : Bool) (precision : Precision) :
    (m.add (.prepare alpha precision)).Current size depth true := by
  refine ⟨?_, ?_, ?_⟩
  · rw [timesPrepared_add, h.prepared]
    rfl
  · rw [size?_add]
    exact h.size
  · rw [depth?_add]
    exact h.depth

theorem Current.setSize (h : m.Current size depth prepared) (width height : UInt32) :
    (m.add (.setSize width height)).Current (some (width, height)) depth prepared := by
  refine ⟨?_, .inr ?_, ?_⟩
  · rw [timesPrepared_add]
    exact h.prepared
  · rw [size?_add]
    rfl
  · rw [depth?_add]
    exact h.depth

theorem Current.setDepthTexture (h : m.Current size depth prepared) (texture : Option Texture)
    (packing : DepthPacking) :
    (m.add (.setDepthTexture texture packing)).Current size (texture, packing) prepared := by
  refine ⟨?_, ?_, .inr ?_⟩
  · rw [timesPrepared_add]
    exact h.prepared
  · rw [size?_add]
    exact h.size
  · rw [depth?_add]
    rfl

/-- An effect that came before its pass was set up is informed when it is prepared. -/
theorem Current.informed (h : m.Current size depth true) (early : m.late = false) :
    m.Informed {} size depth :=
  ⟨h.prepared, nofun, h.depth.symm.imp_right fun none => ⟨none, early, rfl⟩⟩

/-- What holds of a memo after calls that neither prepare the effect nor tell it anything, if it held
before. -/
def Lasts (A : Bool → Memo → Prop) : Prop :=
  ∀ call : HookCall, call.isPrepare = false → call.size? = none → call.depth? = none →
    ∀ b m, A b m → A b (m.add call)

theorem lasts_current : Lasts (Current size depth) := by
  intro call hp hs hd b m h
  refine ⟨?_, ?_, ?_⟩
  · rw [timesPrepared_add, hp]
    exact h.prepared
  · rw [size?_add, hs]
    exact h.size
  · rw [depth?_add, hd]
    exact h.depth

theorem lasts_informed : Lasts fun _ m => m.Informed told size depth := by
  intro call hp hs hd b m h
  refine ⟨?_, fun hsize => ?_, ?_⟩
  · rw [timesPrepared_add, hp]
    exact h.prepared
  · rw [size?_add, hs]
    exact h.size hsize
  · rw [depth?_add, hd]
    exact h.depth

theorem lasts_early : Lasts fun _ m => m.late = false := fun _ _ _ _ _ _ h => h

end Memo

namespace Hosted

/-- An edit changes the description of an effect, and whether it is dirty; nothing else. -/
theorem Edit.exists_apply_eq (edit : Edit) (h : Hosted H) :
    ∃ effect dirty, edit.apply h = { h with effect, dirty } := by
  have ite_edit (c : Prop) [Decidable c] (f : Effect → Effect) :
      ∃ effect dirty, (if c then h.edit f else h) = { h with effect, dirty } := by
    split <;> exact ⟨_, _, rfl⟩
  cases edit with
  | setFragment | setVertex | setDefine | addUniform | setExtensions => exact ⟨_, _, rfl⟩
  | removeDefine | removeUniform => exact ite_edit _ _
  | setAttributes a =>
    rw [apply, Hosted.setAttributes, ← ite_not]
    exact ite_edit _ _
  | setBlendFunction f =>
    rw [apply, Hosted.setBlendFunction, ← ite_not]
    exact ite_edit _ _

theorem Notes.apply {A : Bool → Memo → Prop} {h : Hosted (Noted K)} (hn : h.Notes A) (edit : Edit) :
    (edit.apply h).Notes A := by
  obtain ⟨effect, dirty, same⟩ := edit.exists_apply_eq h
  rw [same]
  exact hn

end Hosted

namespace EffectPass

/-! ## Passes that inform their effects -/

/-- The depth texture that effects of the pass are to know, with its packing. -/
def depth (p : EffectPass H) : Option Texture × DepthPacking := (p.depthTexture, p.packing)

/-- The pass has informed its effects of what it was told since it was set up, or it knows that it has
to before the next frame. -/
structure Informs (told : Told) (p : EffectPass (Noted K)) : Prop where
  current : ∀ h ∈ p.effects, h.Notes (Memo.Current p.size p.depth)
  informed : p.isSetUp = true → p.needsSync = false →
    ∀ h ∈ p.effects, h.Notes fun _ m => m.Informed told p.size p.depth
  early : p.isSetUp = false → ∀ h ∈ p.effects, h.Notes fun _ m => m.late = false
  untold : p.isSetUp = false → told = {}
  sized : told.size = true → p.size.isSome = true
  asked : p.needsSync = true → p.isSetUp = true

variable {told : Told} {p : EffectPass (Noted K)}

/-- Calls that tell the effects nothing leave them informed. -/
theorem Informs.withEffects (h : Informs told p) {effects : List (Hosted (Noted K))}
    (lasts : ∀ A, Memo.Lasts A → (∀ e ∈ p.effects, e.Notes A) → ∀ e ∈ effects, e.Notes A) :
    Informs told { p with effects } where
  current := lasts _ Memo.lasts_current h.current
  informed hu hs := lasts _ Memo.lasts_informed (h.informed hu hs)
  early hu := lasts _ Memo.lasts_early (h.early hu)
  untold := h.untold
  sized := h.sized
  asked := h.asked

/-! ### Changes of the list -/

theorem Informs.withMerge (h : Informs told p) {effects : List (Hosted (Noted K))} (m : Merged)
    (current : ∀ e ∈ effects, e.Notes (Memo.Current p.size p.depth))
    (early : p.isSetUp = false → ∀ e ∈ effects, e.Notes fun _ m => m.late = false) :
    Informs told (p.withMerge effects m) where
  current := List.forall_mem_map.2 current
  informed hu hs := nomatch hu.symm.trans (show p.isSetUp = false from hs)
  early hu := List.forall_mem_map.2 (early hu)
  untold := h.untold
  sized := h.sized
  asked hs := hs

/-- The pass informs its effects; `isSetUp` tells whether it is set up. -/
def InformsWhile (told : Told) (isSetUp : Bool) (p : EffectPass (Noted K)) : Prop :=
  Informs told p ∧ p.isSetUp = isSetUp

/-- A change of the list to effects of the pass and new ones. -/
theorem InformsWhile.changeEffects {isSetUp : Bool} (h : InformsWhile told isSetUp p)
    {effects : List (Hosted (Noted K))}
    (known : ∀ e ∈ effects, e ∈ p.effects ∨ e.Unused isSetUp) :
    InformsWhile told isSetUp ((changeEffects effects).after p) := by
  obtain ⟨h, rfl⟩ := h
  unfold Act.after EffectPass.changeEffects
  cases mergeHosted effects with
  | error e => exact ⟨h, rfl⟩
  | ok m =>
    refine ⟨h.withMerge m (fun e he => ?_) fun hu e he => ?_, rfl⟩
    · exact (known e he).elim (h.current e) fun new => new.notes (Memo.current_new ..)
    · exact (known e he).elim (h.early hu e) fun new => new.notes hu

theorem keeps_setEffects_informs {isSetUp : Bool} {effects : List (Hosted (Noted K))}
    (unused : ∀ e ∈ effects, e.Unused isSetUp) :
    Act.Keeps (InformsWhile told isSetUp) (setEffects effects) :=
  keeps_setEffects_of_changeEffects fun _ h => h.changeEffects fun e he => .inr (unused e he)

theorem keeps_addEffect_informs {isSetUp : Bool} {effect : Hosted (Noted K)}
    (unused : effect.Unused isSetUp) :
    Act.Keeps (InformsWhile told isSetUp) (addEffect effect) := by
  refine keeps_addEffect_of_changeEffects fun p h => h.changeEffects fun e he => ?_
  rcases List.mem_append.1 he with old | new
  · exact .inl old
  · exact .inr (List.mem_singleton.1 new ▸ unused)

theorem keeps_removeEffect_informs (isSetUp : Bool) (index : Nat) :
    Act.Keeps (InformsWhile (K := K) told isSetUp) (removeEffect index) :=
  keeps_removeEffect_of_changeEffects fun _ h =>
    h.changeEffects fun _ he => .inl (List.mem_of_mem_eraseIdx he)

theorem keeps_recompile_informs : Act.Keeps (Informs (K := K) told) recompile :=
  keeps_recompile_of_withMerge fun _ m h _ => h.withMerge m h.current h.early

/-! ### What the pass is told -/

section Hooks

variable [EffectHooks K ω]

theorem Informs.setUp (h : Informs told p) (setup : PassSetup) (s : Stage ω) :
    Informs told (p.setUp setup s).1 where
  current := forall_mem_threadList (fun e s (he : e.Notes (Memo.Current p.size p.depth)) =>
    he.prepare (fun _ => id) (fun _ hm => hm.prepare _ _) s) h.current s
  informed _ hs := by
    have known : ∀ e ∈ p.effects, e.Notes fun b m => m.Current p.size p.depth b ∧
        (m.Informed told p.size p.depth ∨ m.late = false ∧ told = {}) := by
      intro e he m hm
      cases hu : p.isSetUp with
      | true => exact ⟨h.current e he m hm, .inl (h.informed hu hs e he m hm)⟩
      | false => exact ⟨h.current e he m hm, .inr ⟨h.early hu e he m hm, h.untold hu⟩⟩
    refine forall_mem_threadList (fun e s he => Hosted.Notes.prepare he ?_ ?_ s) known s
    · rintro m ⟨hm, informed | ⟨early, rfl⟩⟩
      · exact informed
      · exact hm.informed early
    · rintro m ⟨hm, informed | ⟨early, rfl⟩⟩
      · exact nomatch hm.prepared.symm.trans informed.prepared
      · exact (hm.prepare _ _).informed early
  early := nofun
  untold := nofun
  sized := h.sized
  asked _ := rfl

theorem Informs.setSize (h : Informs told p) (width height : UInt32) (s : Shared ω) :
    Informs { told with size := told.size || p.isSetUp } (p.setSize width height s).1 where
  current := forall_mem_threadList (fun e s (he : e.Notes (Memo.Current p.size p.depth)) =>
    (e.receives_setSize width height s).notes he fun _ _ hm => hm.setSize width height) h.current _
  informed hu hs := forall_mem_threadList
    (fun e s (he : e.Notes fun _ m => m.Informed told p.size p.depth) =>
      (e.receives_setSize width height s).notes he fun _ m hm => by
        refine ⟨?_, fun _ => ?_, ?_⟩
        · rw [Memo.timesPrepared_add]
          exact hm.prepared
        · rw [Memo.size?_add]
          rfl
        · rw [Memo.depth?_add]
          exact hm.depth) (h.informed hu hs) _
  early hu := forall_mem_threadList (fun e s (he : e.Notes fun _ m => m.late = false) =>
    (e.receives_setSize width height s).notes he fun _ _ hm => hm) (h.early hu) _
  untold hu := by
    have unset : p.isSetUp = false := hu
    rw [h.untold unset, unset]
    rfl
  sized _ := rfl
  asked := h.asked

theorem Informs.setDepthTexture (h : Informs told p) (texture : Option Texture)
    (packing : DepthPacking) (s : Shared ω) :
    Informs { told with depth := told.depth || p.isSetUp }
      (p.setDepthTexture texture packing s).1 where
  current := forall_mem_threadList (fun e s (he : e.Notes (Memo.Current p.size p.depth)) =>
    (e.receives_setDepthTexture texture packing s).notes he
      fun _ _ hm => hm.setDepthTexture texture packing) h.current _
  informed hu hs := forall_mem_threadList
    (fun e s (he : e.Notes fun _ m => m.Informed told p.size p.depth) =>
      (e.receives_setDepthTexture texture packing s).notes he fun _ m hm => by
        refine ⟨?_, fun hsize => ?_, .inl ?_⟩
        · rw [Memo.timesPrepared_add]
          exact hm.prepared
        · rw [Memo.size?_add]
          exact hm.size hsize
        · rw [Memo.depth?_add]
          rfl) (h.informed hu hs) _
  early hu := forall_mem_threadList (fun e s (he : e.Notes fun _ m => m.late = false) =>
    (e.receives_setDepthTexture texture packing s).notes he fun _ _ hm => hm) (h.early hu) _
  untold hu := by
    have unset : p.isSetUp = false := hu
    rw [h.untold unset, unset]
    rfl
  sized := h.sized
  asked := h.asked

/-- An effect that its pass brings up to date is informed, whatever its pass was told. -/
theorem notes_syncEffect {e : Hosted (Noted K)} (he : e.Notes (Memo.Current p.size p.depth))
    (s : Stage ω) :
    (p.syncEffect e s).1.Notes fun b m =>
      m.Current p.size p.depth b ∧ ∀ told, m.Informed told p.size p.depth := by
  have prepared : (e.prepare p.alpha p.precision s).1.Notes
      fun b m => b = true ∧ m.Current p.size p.depth true :=
    he.prepare (fun _ hm => ⟨rfl, hm⟩) (fun _ hm => ⟨rfl, hm.prepare _ _⟩) s
  -- the last call tells the depth texture, which leaves only the size to be told before
  have given (e : Hosted (Noted K)) (s : Shared ω)
      (he : e.Notes fun b m => b = true ∧ m.Current p.size p.depth true ∧ m.size? = p.size) :
      (e.setDepthTexture p.depthTexture p.packing s).1.Notes fun b m =>
        m.Current p.size p.depth b ∧ ∀ told, m.Informed told p.size p.depth := by
    refine (e.receives_setDepthTexture _ _ s).notes he ?_
    rintro b m ⟨rfl, hm, size⟩
    have current := hm.setDepthTexture p.depthTexture p.packing
    refine ⟨current, fun told => ⟨current.prepared, fun _ => ?_, .inl ?_⟩⟩
    · rw [Memo.size?_add]
      exact size
    · rw [Memo.depth?_add]
      rfl
  refine given _ _ ?_
  split
  · rename_i width height hs
    refine (Hosted.receives_setSize ..).notes prepared ?_
    rintro b m ⟨hb, hm⟩
    refine ⟨hb, hs ▸ hm.setSize width height, ?_⟩
    rw [Memo.size?_add, hs]
    rfl
  · rename_i hs
    exact prepared.mono fun _ m hm => ⟨hm.1, hm.2, hm.2.size.elim (·.trans hs.symm) id⟩

theorem Informs.syncEffects (h : Informs told p) (s : Stage ω) :
    Informs told (p.syncEffects s).1 := by
  unfold EffectPass.syncEffects
  by_cases hs : p.needsSync
  · rw [if_pos hs]
    have synced := forall_mem_threadList (fun e s => notes_syncEffect (e := e) (s := s)) h.current s
    exact {
      current := fun e he => (synced e he).mono fun _ _ hm => hm.1
      informed := fun _ _ e he => (synced e he).mono fun _ _ hm => hm.2 told
      early := fun hu => nomatch hu.symm.trans (h.asked hs)
      untold := h.untold
      sized := h.sized
      asked := nofun }
  · rwa [if_neg hs]

theorem keeps_updateEffects_informs (input : Surface) (delta : Float32) :
    Act.Keeps (fun x : EffectPass (Noted K) × Stage ω => Informs told x.1)
      (updateEffects input delta) := by
  rintro ⟨p, s⟩ h
  unfold updateEffects
  rw [Act.after_within]
  refine Informs.withEffects h fun A lasts hA => ?_
  refine (Act.keeps_forEach (A := Hosted.Notes A) (I := fun _ => True) (fun x hx => ?_)
    (p.effects, s) ⟨hA, trivial⟩).1
  exact ⟨(x.1.receives_update input delta x.2).notes hx.1 (lasts _ rfl rfl rfl), trivial⟩

theorem keeps_render_informs (input output : Surface) (delta : Float32) :
    Act.Keeps (fun x : EffectPass (Noted K) × Stage ω => Informs told x.1)
      (render input output delta) := by
  unfold render
  refine keeps_recompile_informs.onFirst.bind fun _ => ?_
  refine (Act.keeps_modify fun x h => h.syncEffects x.2).bind fun _ => ?_
  refine Act.keeps_get.bind fun _ => ?_
  refine Act.Keeps.bind (Act.keeps_modify fun _ h => h) fun _ => ?_
  refine (keeps_updateEffects_informs input _).bind fun _ => ?_
  exact Act.keeps_get.bind fun _ => Act.keeps_onSecond _

theorem Informs.dispose (h : Informs told p) (s : Stage ω) : Informs told (p.dispose s).1 :=
  have called : Informs told
      { p with effects := (threadList (fun e (s : Stage ω) => e.dispose s) p.effects s).1 } :=
    h.withEffects fun _ lasts hA => forall_mem_threadList
      (fun e s he => (e.receives_dispose s).notes he (lasts _ rfl rfl rfl)) hA s
  { called with }

/-! ## Runs -/

/-- Whenever effects are given to the pass, they were never called. -/
def GivesUnused : List (Op (Noted K) ω) → EffectPass (Noted K) × Stage ω → Prop
  | [], _ => True
  | op :: ops, x => (∀ e ∈ op.gifts, e.Unused x.1.isSetUp) ∧ GivesUnused ops (op.perform.after x)

theorem Informs.perform {x : EffectPass (Noted K) × Stage ω} (h : Informs told x.1)
    {op : Op (Noted K) ω} (unused : ∀ e ∈ op.gifts, e.Unused x.1.isSetUp) :
    Informs (told.next x.1 op) (op.perform.after x).1 := by
  cases op with
  | setEffects effects =>
    exact ((keeps_setEffects_informs unused).onFirst.bind (fun _ => Act.keeps_pure _) x ⟨h, rfl⟩).1
  | addEffect effect =>
    exact ((keeps_addEffect_informs (unused effect (List.mem_singleton.2 rfl))).onFirst x ⟨h, rfl⟩).1
  | removeEffect index =>
    exact ((keeps_removeEffect_informs _ index).onFirst.bind (fun _ => Act.keeps_pure _) x
      ⟨h, rfl⟩).1
  | editEffect index edit =>
    exact h.withEffects fun _ _ hA => forall_mem_modify (fun _ he => he.apply edit) hA index
  | markDirty => exact { h with }
  | recompile => exact keeps_recompile_informs.onFirst x h
  | setDithering dithering =>
    change Informs told (x.1.setDithering dithering)
    unfold EffectPass.setDithering
    split
    · exact h
    · exact { h with }
  | setFlags flags => exact { h with }
  | setMainCamera camera => exact { h with }
  | setUp setup => exact h.setUp setup x.2
  | setSize width height => exact h.setSize width height _
  | setDepthTexture texture packing => exact h.setDepthTexture texture packing _
  | render input output delta => exact keeps_render_informs input output delta x h
  | dispose => exact h.dispose x.2
  | elsewhere s => exact h

theorem Informs.run {x : EffectPass (Noted K) × Stage ω} (h : Informs told x.1)
    {ops : List (Op (Noted K) ω)} (gives : GivesUnused ops x) :
    Informs (told.after ops x) (EffectPass.run ops x).1 := by
  induction ops generalizing told x with
  | nil => exact h
  | cons op ops ih => exact ih (h.perform gives.1) gives.2

omit [EffectHooks K ω] in
theorem informs_create {camera : Option Camera} {effects : List (Hosted (Noted K))}
    {config : EffectPassConfig} {s t : UniformStore} (unused : ∀ e ∈ effects, e.Unused false)
    (h : create camera effects config s = .ok (p, t)) : Informs {} p := by
  obtain ⟨m, -, -, rfl⟩ := exists_withMerge_of_create h
  exact {
    current := List.forall_mem_map.2 fun e he => (unused e he).notes (Memo.current_new ..)
    informed := nofun
    early := fun _ => List.forall_mem_map.2 fun e he =>
      (unused e he).notes (A := fun _ m => m.late = false) rfl
    untold := fun _ => rfl
    sized := nofun
    asked := nofun }

/-! ## Frames -/

/-- The effects of a list do the work of a frame one after the other, up to the first that fails. Each
is `ready` when its turn comes and receives one call; those after a failure receive none. -/
inductive Updates (ready : Hosted (Noted K) → Prop) (input : Surface) (delta : Float32) :
    List (Hosted (Noted K)) × Stage ω → List (Hosted (Noted K)) × Stage ω → Option Fault → Prop
  | done (s : Stage ω) : Updates ready input delta ([], s) ([], s) none
  | next {h h' : Hosted (Noted K)} {hs hs' : List (Hosted (Noted K))} {s s' s'' : Stage ω}
      {r : Option Fault} (isReady : ready h)
      (updated : Hosted.update input delta (h, s) = .ok () (h', s'))
      (received : h.Receives (.update input delta) h')
      (others : Updates ready input delta (hs, s') (hs', s'') r) :
      Updates ready input delta (h :: hs, s) (h' :: hs', s'') r
  | failed {h h' : Hosted (Noted K)} {hs : List (Hosted (Noted K))} {s s' : Stage ω} {e : Fault}
      (isReady : ready h)
      (updated : Hosted.update input delta (h, s) = .error e (h', s'))
      (received : h.Receives (.update input delta) h') :
      Updates ready input delta (h :: hs, s) (h' :: hs, s') (some e)

/-- Go on from the state `x`, unless there was a fault. -/
def proceed {σ : Type} (r : Option Fault) (next : Act σ Unit) : Act σ Unit :=
  match r with
  | none => next
  | some e => throw e

theorem exists_updates {ready : Hosted (Noted K) → Prop} (input : Surface) (delta : Float32)
    {hs : List (Hosted (Noted K))} (isReady : ∀ h ∈ hs, ready h) (s : Stage ω) :
    ∃ y r, Updates ready input delta (hs, s) y r ∧
      Act.forEach (Hosted.update input delta) (hs, s) = proceed r (pure ()) y := by
  induction hs generalizing s with
  | nil =>
    refine ⟨_, _, .done s, ?_⟩
    unfold Act.forEach Act.foldEach
    rfl
  | cons h hs ih =>
    obtain ⟨hr, hsr⟩ := List.forall_mem_cons.1 isReady
    have received := h.receives_update input delta s
    unfold Act.after at received
    unfold Act.forEach at ih ⊢
    unfold Act.foldEach
    cases hu : Hosted.update input delta (h, s) with
    | error e x =>
      rw [hu] at received
      exact ⟨_, _, .failed hr hu received, rfl⟩
    | ok u x =>
      rw [hu] at received
      obtain ⟨y, r, others, run⟩ := ih hsr x.2
      refine ⟨(x.1 :: y.1, y.2), r, .next hr hu received others, ?_⟩
      simp only [run]
      cases r <;> rfl

theorem timesUpdated_syncEffect (p : EffectPass (Noted K)) (e : Hosted (Noted K)) (s : Stage ω) :
    (p.syncEffect e s).1.timesUpdated = e.timesUpdated := by
  unfold syncEffect
  refine ((Hosted.receives_setDepthTexture ..).timesUpdated rfl).trans ?_
  split
  · exact ((Hosted.receives_setSize ..).timesUpdated rfl).trans (e.timesUpdated_prepare _ _ s)
  · exact e.timesUpdated_prepare _ _ s

/-- From `p` to `q` no effect did the work of a frame, the list is of the same effects, and what they
are to know is the same. -/
structure Awaits (p q : EffectPass (Noted K)) : Prop where
  effects : q.effects.map (·.effect) = p.effects.map (·.effect)
  updated : q.effects.map (·.timesUpdated) = p.effects.map (·.timesUpdated)
  config : q.config = p.config
  size : q.size = p.size
  depth : q.depth = p.depth

omit [EffectHooks K ω] in
theorem keeps_awaits_recompile (p : EffectPass (Noted K)) : Act.Keeps (Awaits p) recompile :=
  keeps_recompile_of_withMerge fun q _ h _ => {
    effects := (Hosted.map_effect_clearDirty q.effects).trans h.effects
    updated := (List.map_map ..).trans h.updated
    config := h.config
    size := h.size
    depth := h.depth }

theorem Awaits.syncEffects {q : EffectPass (Noted K)} (h : Awaits p q) (s : Stage ω) :
    Awaits p (q.syncEffects s).1 := by
  unfold EffectPass.syncEffects
  split
  · exact {
      effects := (Hosted.map_effect_eq (map_threadList (view_syncEffect q) q.effects s)).trans h.effects
      updated := (map_threadList (timesUpdated_syncEffect q) q.effects s).trans h.updated
      config := h.config
      size := h.size
      depth := h.depth }
  · exact h

/-- The effect was prepared once, and what it was told last are the size and the depth texture of its
pass. Only an effect that came before the pass was set up may know no depth texture, as long as the
pass was not told one since. -/
structure UpToDate (toldDepth : Bool) (p : EffectPass H) (m : Memo) : Prop where
  prepared : m.timesPrepared = 1
  size : ∃ width height, p.size = some (width, height) ∧ m.size? = some (width, height)
  depth : m.depth? = some (p.depthTexture, p.packing) ∨
    m.depth? = none ∧ m.late = false ∧ toldDepth = false

/-- A frame on the state `x`: either the merge is refused and no effect is called, or the effects do
their work, each of them up to date. The pass draws when all of them are done. -/
inductive Frame (toldDepth : Bool) (input output : Surface) (delta : Float32)
    (x : EffectPass (Noted K) × Stage ω) : Prop
  | refused (e : Fault) (ended : render input output delta x = .error e x)
  | updated (q : EffectPass (Noted K)) (s : Stage ω) (y : List (Hosted (Noted K)) × Stage ω)
      (r : Option Fault) (awaits : Awaits x.1 q)
      (updates : Updates (Hosted.Notes fun _ m => UpToDate toldDepth x.1 m) input
        (x.1.config.clampDelta delta) (q.effects, s) y r)
      (ended : render input output delta x =
        proceed r (q.drawProgram output).onSecond ({ q with effects := y.1 }, y.2))
      (quiet : QuietHooks K → y.2.device.journal = x.2.device.journal)

/-- Hooks that note their calls are as quiet as the hooks they wrap. -/
theorem quietHooks_noted (quiet : QuietHooks K) : QuietHooks (Noted K) where
  prepare k := quiet.prepare k.hooks
  update input delta uniforms k s := by
    have after := Act.after_within (·.hooks) (fun k => Noted.after k (.update input delta))
      (EffectHooks.update input delta uniforms) k s
    exact (congrArg (fun x : Noted K × Stage ω => s.Quiet x.2) after).mpr
      (quiet.update input delta uniforms k.hooks s)
  setSize k := quiet.setSize k.hooks
  setDepthTexture k := quiet.setDepthTexture k.hooks

omit [EffectHooks K ω] in
theorem needsSync_syncEffects [EffectHooks H ω] (p : EffectPass H) (s : Stage ω) :
    (p.syncEffects s).1.needsSync = false := by
  unfold syncEffects
  split
  · rfl
  · rename_i hs
    exact Bool.eq_false_iff.2 hs

theorem Informs.upToDate (h : Informs told p) (sized : told.size = true)
    (synced : p.needsSync = false) {e : Hosted (Noted K)} (he : e ∈ p.effects) :
    e.Notes fun _ => UpToDate told.depth p := by
  have set : p.isSetUp = true := by
    by_contra unset
    rw [h.untold (Bool.eq_false_iff.2 unset)] at sized
    cases sized
  intro m hm
  have informed := h.informed set synced e he m hm
  obtain ⟨⟨width, height⟩, hs⟩ := Option.isSome_iff_exists.1 (h.sized sized)
  exact ⟨informed.prepared, ⟨width, height, hs, (informed.size sized).trans hs⟩, informed.depth⟩

omit [EffectHooks K ω] in
theorem Awaits.upToDate {q : EffectPass (Noted K)} (h : Awaits p q) {toldDepth : Bool} {m : Memo}
    (hm : UpToDate toldDepth q m) : UpToDate toldDepth p m where
  prepared := hm.prepared
  size := h.size ▸ hm.size
  depth := (congrArg (fun d => m.depth? = some d ∨ _) h.depth).mp hm.depth

omit [EffectHooks K ω] in
theorem render_of_recompile_eq_ok [EffectHooks H ω] {p q : EffectPass H} {u : Unit}
    (h : recompile p = .ok u q) (input output : Surface) (delta : Float32) (s : Stage ω) :
    render input output delta (p, s) =
      (updateEffects input ((q.syncEffects s).1.config.clampDelta delta) >>= fun _ =>
        get >>= fun x => (x.1.drawProgram output).onSecond)
      ((q.syncEffects s).1, (q.syncEffects s).1.bindFrame input
        ((q.syncEffects s).1.config.clampDelta delta) (q.syncEffects s).2) := by
  unfold render
  rw [Act.bind_apply, Act.onFirst, h]
  rfl

theorem Informs.frame (h : Informs told p) (sized : told.size = true) (input output : Surface)
    (delta : Float32) (s : Stage ω) : Frame told.depth input output delta (p, s) := by
  cases hr : recompile p with
  | error e q =>
    obtain rfl : q = p := (recompile_eq_error_iff.1 hr).2
    exact .refused e (render_of_recompile_eq_error hr input output delta s)
  | ok u q =>
    have awaits : Awaits p (q.syncEffects s).1 :=
      ((keeps_awaits_recompile p).of_eq_ok hr ⟨rfl, rfl, rfl, rfl, rfl⟩).syncEffects s
    have informs : Informs told (q.syncEffects s).1 :=
      (keeps_recompile_informs.of_eq_ok hr h).syncEffects s
    have synced := q.needsSync_syncEffects s
    have quiet (hq : QuietHooks K) := (q.quiet_syncEffects (quietHooks_noted hq) s).journal
    have begins := render_of_recompile_eq_ok hr input output delta s
    generalize q.syncEffects s = z at *
    obtain ⟨z, t⟩ := z
    obtain ⟨y, r, updates, run⟩ := exists_updates input (z.config.clampDelta delta)
      (fun e he => (informs.upToDate sized synced he).mono fun _ _ => awaits.upToDate)
      (z.bindFrame input (z.config.clampDelta delta) t)
    refine .updated z _ y r awaits (awaits.config ▸ updates) ?_ fun hq => ?_
    · rw [begins, Act.bind_apply, updateEffects, Act.within]
      simp only [run]
      cases r <;> rfl
    · have ended := (quiet_updateEffects (quietHooks_noted hq) input (z.config.clampDelta delta)
        (z, z.bindFrame input (z.config.clampDelta delta) t)).journal
      rw [updateEffects, Act.after_within] at ended
      unfold Act.after at ended
      simp only [run] at ended
      refine Eq.trans ?_ ((z.quiet_bindFrame input (z.config.clampDelta delta) t).journal.trans (quiet hq))
      cases r <;> exact ended

/-- **Effects are up to date when they update.** However a pass was used since it was made, once it
was told a size after it was set up, its next frame calls no effect that was not prepared exactly once
and does not know the size of the pass and its depth texture. The effects are called in the order of the
list, skipped ones included, each once, up to the first that fails, and before the pass draws.

An effect that was in the list when the pass was set up knows no depth texture if it was told none
itself, and the pass was told none since. -/
theorem effects_up_to_date {camera : Option Camera} {effects : List (Hosted (Noted K))}
    {config : EffectPassConfig} {s : Stage ω} {t : UniformStore}
    (created : create camera effects config s.uniforms = .ok (p, t))
    (unused : ∀ e ∈ effects, e.Unused false) {ops : List (Op (Noted K) ω)}
    (gives : GivesUnused ops (p, { s with uniforms := t }))
    (sized : (Told.after {} ops (p, { s with uniforms := t })).size = true)
    (input output : Surface) (delta : Float32) :
    Frame (Told.after {} ops (p, { s with uniforms := t })).depth input output delta
      (run ops (p, { s with uniforms := t })) :=
  ((informs_create unused created).run gives).frame sized input output delta _

/-- A pass that is set up, sized and told a depth texture, and then gets an effect. -/
theorem late_effect_up_to_date :
    let glow (late : Bool) : Hosted (Noted ProbeHooks) :=
      { effect := Effect.ofEntry "glow" "mainImage" ⟨.normal, ⟨0⟩⟩ .none
        hooks := some ⟨.noting "glow" none none, { late }⟩ }
    let s : Stage ProbeLog := { uniforms := ⟨#[.float 1]⟩, host := #[], device := .ofSize 64 32 }
    let surface (id : Nat) : Surface :=
      { id := ⟨id⟩, label := "surface", width := 64, height := 32, color := ⟨id + 1⟩,
        depthBuffer := false, stencilBuffer := false }
    let ops : List (Op (Noted ProbeHooks) ProbeLog) :=
      [.setUp ⟨true, .half, ⟨9⟩, 64, 32⟩, .setSize 64 32, .setDepthTexture (some ⟨7⟩) .rgba,
        .addEffect (glow true)]
    ∃ p t, create none [glow false] {} s.uniforms = .ok (p, t) ∧
      Frame true (surface 1) (surface 3) 1 (run ops (p, { s with uniforms := t })) := by
  intro glow s surface ops
  obtain ⟨p, t, hp⟩ :=
    exists_create_eq_ok (show Mergeable ([glow false].map (·.effect)) by decide +kernel) none {} s.uniforms
  have unused (late : Bool) : ∀ e ∈ [glow late], e.Unused late := by
    intro e he
    rw [List.mem_singleton.1 he]
    exact ⟨rfl, fun m hm => (Option.some.inj hm).symm⟩
  have told : Told.after {} ops (p, { s with uniforms := t }) = ⟨true, true⟩ := rfl
  have gives : GivesUnused ops (p, { s with uniforms := t }) :=
    ⟨List.forall_mem_nil _, List.forall_mem_nil _, List.forall_mem_nil _, unused true, trivial⟩
  have frame := effects_up_to_date hp (unused false) gives (congrArg Told.size told) (surface 1)
    (surface 3) 1
  rw [told] at frame
  exact ⟨p, t, hp, frame⟩

/-- What a frame makes of the effects, if none was edited and all are up to date. -/
theorem effects_after_render [EffectHooks H ω] {p : EffectPass H} (clean : p.isDirty = false)
    (synced : p.needsSync = false) (input output : Surface) (delta : Float32) (s : Stage ω) :
    ((render input output delta).after (p, s)).1.effects =
      ((Act.forEach (Hosted.update input (p.config.clampDelta delta))).after
        (p.effects, p.bindFrame input (p.config.clampDelta delta) s)).1 := by
  have recompiled : recompile p = .ok () p := by
    unfold recompile
    rw [Act.get_bind_apply, clean]
    rfl
  have still : p.syncEffects s = (p, s) := by
    unfold syncEffects
    rw [if_neg (Bool.eq_false_iff.1 synced)]
  have begins := render_of_recompile_eq_ok recompiled input output delta s
  rw [still] at begins
  rw [Act.after_congr begins]
  refine Act.Leads.bind (I := (· = (p, p.bindFrame input (p.config.clampDelta delta) s)))
    (J := fun x => x.1.effects = _) ?_ id (fun _ => ?_) _ rfl
  · rintro _ rfl
    rw [updateEffects, Act.after_within]
  · exact Act.keeps_get.bind fun x =>
      Act.keeps_onSecond (I := fun p : EffectPass H => p.effects = _) _

/-- An effect that came before its pass was set up, and after the pass was told a depth texture, does
the work of a frame without having been told one. -/
theorem early_effect_untold :
    let glow : Hosted (Noted ProbeHooks) :=
      { effect := Effect.ofEntry "glow" "mainImage" ⟨.normal, ⟨0⟩⟩ .none
        hooks := some ⟨.silent, {}⟩ }
    let s : Stage ProbeLog := { uniforms := ⟨#[]⟩, host := #[], device := .ofSize 64 32 }
    let surface (id : Nat) : Surface :=
      { id := ⟨id⟩, label := "surface", width := 64, height := 32, color := ⟨id + 1⟩,
        depthBuffer := false, stencilBuffer := false }
    let ops : List (Op (Noted ProbeHooks) ProbeLog) :=
      [.setDepthTexture (some ⟨7⟩) .rgba, .addEffect glow, .setUp ⟨true, .half, ⟨9⟩, 64, 32⟩,
        .setSize 64 32]
    ∃ p t, create none [] {} s.uniforms = .ok (p, t) ∧
      let x := run ops (p, { s with uniforms := t })
      x.1.isSetUp = true ∧ x.1.size = some (64, 32) ∧ x.1.depth = (some ⟨7⟩, .rgba) ∧
        ((render (surface 1) (surface 3) 1).after x).1.effects.map (·.memo) =
          [some { calls := [.prepare true .half, .setSize 64 32,
            .update (surface 1) (x.1.config.clampDelta 1)] }] := by
  intro glow s surface ops
  obtain ⟨p, t, hp⟩ := exists_create_eq_ok
    (show Mergeable (([] : List (Hosted (Noted ProbeHooks))).map (·.effect)) by decide +kernel)
    none {} s.uniforms
  obtain ⟨one, ho⟩ := exists_mergeHosted_eq_ok
    (show Mergeable ([glow].map (·.effect)) by decide +kernel)
  obtain ⟨idle, -, -, new⟩ := exists_withMerge_of_create hp
  have unset : p.isSetUp = false := congrArg (·.isSetUp) new
  let x := (Op.setDepthTexture (some ⟨7⟩) .rgba).perform.after (p, { s with uniforms := t })
  have told : x.1.effects = [] := by
    change (threadList _ p.effects _).1 = []
    rw [new]
    rfl
  have given : (Op.addEffect glow).perform.after x = (x.1.withMerge [glow] one, x.2) := by
    have appended : x.1.effects ++ [glow] = [glow] := congrArg (· ++ [glow]) told
    have performed := perform_addEffect (p := x.1) (m := one) (appended ▸ ho) x.2
    rwa [appended] at performed
  let y := run [.setUp ⟨true, .half, ⟨9⟩, 64, 32⟩, .setSize 64 32] (x.1.withMerge [glow] one, x.2)
  refine ⟨p, t, hp, ?_⟩
  intro z
  have ran : z = y := by
    change run _ ((Op.addEffect glow).perform.after x) = y
    rw [given]
  rw [ran]
  refine ⟨rfl, rfl, rfl, ?_⟩
  rw [effects_after_render (p := y.1) rfl unset (surface 1) (surface 3) 1 y.2]
  obtain ⟨e, he, hm⟩ : ∃ e, y.1.effects = [e] ∧
      e.memo = some { calls := [.prepare true .half, .setSize 64 32] } := ⟨_, rfl, rfl⟩
  rw [he, Act.fst_after_forEach_singleton, List.map_singleton, (e.receives_update _ _ _).memo, hm]
  rfl

end Hooks

end EffectPass

end ScreenEffects
