import ScreenEffects.Proofs.Pass.Told

/-!
# Which call comes first

Hooks are to be prepared before anything else is asked of them. A pass that is set up prepares the
effects that come later in its next frame, before it calls them in any other way. But it hands on a
size, a depth texture and its own disposal at once, to all effects of its list: those in the window
between their coming and the next frame are then called before they are prepared.

* `Op.IsEarly` : the operations that reach such an effect.
* `PreparesFirst.perform` is the step: every other operation keeps the order.
* `prepare_first_iff` : the order is kept in a run exactly if no operation of it is early.
-/

namespace ScreenEffects

variable {K ω : Type}

namespace Memo

variable {prepared : Bool} {m : Memo}

/-- The effect was called, and prepared before anything else. -/
structure Begun (prepared : Bool) (m : Memo) : Prop where
  prepared : prepared = true
  called : m.calls ≠ []
  first : m.StartsPrepared

/-- The effect was never called, or it was prepared before anything else. -/
def Orderly (prepared : Bool) (m : Memo) : Prop := prepared = false ∧ m.calls = [] ∨ m.Begun prepared

theorem Begun.add (h : m.Begun prepared) (call : HookCall) : (m.add call).Begun prepared :=
  ⟨h.prepared, List.append_ne_nil_of_left_ne_nil h.called _,
    (startsPrepared_add call h.called).2 h.first⟩

theorem Orderly.begun (h : m.Orderly prepared) (called : m.calls ≠ []) : m.Begun prepared :=
  h.elim (fun new => absurd new.2 called) id

theorem Orderly.startsPrepared (h : m.Orderly prepared) : m.StartsPrepared := by
  rcases h with ⟨-, new⟩ | begun
  · intro call hc
    rw [new] at hc
    cases hc
  · exact begun.first

end Memo

namespace EffectPass

/-- The operation calls an effect that was not called before, and does not prepare it. -/
def Op.IsEarly (p : EffectPass (Noted K)) : Op (Noted K) ω → Prop
  | .setSize _ _ | .setDepthTexture _ _ | .dispose => ∃ h ∈ p.effects, ∃ m ∈ h.memo, m.calls = []
  | _ => False

/-- Each effect of the pass was never called, or prepared before anything else. -/
def EachOrderly (p : EffectPass (Noted K)) : Prop := ∀ h ∈ p.effects, h.Notes Memo.Orderly

/-- The pass is set up, its effects are prepared before anything else, and all of them have been unless
the pass knows that it has to. -/
structure PreparesFirst (p : EffectPass (Noted K)) : Prop where
  isSetUp : p.isSetUp = true
  orderly : EachOrderly p
  begun : p.needsSync = false → ∀ h ∈ p.effects, h.Notes Memo.Begun

/-- The pass has prepared all effects it has. -/
def HasPrepared (p : EffectPass (Noted K)) : Prop :=
  PreparesFirst p ∧ ∀ h ∈ p.effects, h.Notes Memo.Begun

variable {p : EffectPass (Noted K)}

/-- Effects that are prepared may be called in any way. -/
theorem PreparesFirst.withEffects (h : PreparesFirst p) {effects : List (Hosted (Noted K))}
    (begun : ∀ e ∈ effects, e.Notes Memo.Begun) : HasPrepared { p with effects } :=
  ⟨⟨h.isSetUp, fun e he => (begun e he).mono fun _ _ => .inr, fun _ => begun⟩, begun⟩

/-! ## Changes of the list -/

theorem eachOrderly_withMerge (p : EffectPass (Noted K)) {effects : List (Hosted (Noted K))}
    (m : Merged) (orderly : ∀ e ∈ effects, e.Notes Memo.Orderly) :
    EachOrderly (p.withMerge effects m) :=
  List.forall_mem_map.2 orderly

theorem PreparesFirst.withMerge (h : PreparesFirst p) {effects : List (Hosted (Noted K))}
    (m : Merged) (orderly : ∀ e ∈ effects, e.Notes Memo.Orderly) :
    PreparesFirst (p.withMerge effects m) where
  isSetUp := h.isSetUp
  orderly := eachOrderly_withMerge p m orderly
  begun hs := nomatch h.isSetUp.symm.trans (show p.isSetUp = false from hs)

theorem PreparesFirst.changeEffects (h : PreparesFirst p) {effects : List (Hosted (Noted K))}
    (orderly : ∀ e ∈ effects, e.Notes Memo.Orderly) :
    PreparesFirst ((changeEffects effects).after p) :=
  keeps_changeEffects_of_withMerge (fun _ m h _ => h.withMerge m orderly) p h

theorem keeps_recompile_preparesFirst : Act.Keeps (PreparesFirst (K := K)) recompile :=
  keeps_recompile_of_withMerge fun _ m h _ => h.withMerge m h.orderly

theorem PreparesFirst.editEffect (h : PreparesFirst p) (index : Nat) (edit : Hosted.Edit) :
    PreparesFirst (p.editEffect index edit.apply) where
  isSetUp := h.isSetUp
  orderly := forall_mem_modify (fun _ he => he.apply edit) h.orderly index
  begun hs := forall_mem_modify (fun _ he => he.apply edit) (h.begun hs) index

/-! ## Calls -/

section Hooks

variable [EffectHooks K ω]

theorem notes_begun_prepare {e : Hosted (Noted K)} (he : e.Notes Memo.Orderly) (alpha : Bool)
    (precision : Precision) (s : Stage ω) :
    (e.prepare alpha precision s).1.Notes Memo.Begun := by
  refine he.prepare (fun m hm => ?_) (fun m hm => ?_) s
  · exact hm.elim (fun new => nomatch new.1) id
  · have new : m.calls = [] := hm.elim (·.2) fun begun => nomatch begun.prepared
    exact ⟨rfl, List.append_ne_nil_of_right_ne_nil _ (List.cons_ne_nil _ _),
      (Memo.startsPrepared_add_of_nil _ new).2 rfl⟩

theorem notes_begun_of_receives {call : HookCall} {e e' : Hosted (Noted K)}
    (r : e.Receives call e') (he : e.Notes Memo.Begun) : e'.Notes Memo.Begun :=
  r.notes he fun _ _ hm => hm.add call

theorem preparesFirst_setUp (orderly : EachOrderly p) (setup : PassSetup)
    (s : Stage ω) : PreparesFirst (p.setUp setup s).1 :=
  have begun : ∀ e ∈ (p.setUp setup s).1.effects, e.Notes Memo.Begun :=
    forall_mem_threadList (fun _ s he => notes_begun_prepare he setup.alpha setup.precision s)
      orderly s
  { isSetUp := rfl
    orderly := fun e he => (begun e he).mono fun _ _ => .inr
    begun := fun _ => begun }

theorem notes_begun_syncEffect {e : Hosted (Noted K)} (he : e.Notes Memo.Orderly) (s : Stage ω) :
    (p.syncEffect e s).1.Notes Memo.Begun := by
  have prepared := notes_begun_prepare he p.alpha p.precision s
  unfold syncEffect
  refine notes_begun_of_receives (Hosted.receives_setDepthTexture ..) ?_
  split
  · exact notes_begun_of_receives (Hosted.receives_setSize ..) prepared
  · exact prepared

/-- Before the effects do the work of a frame, all of them are prepared. -/
theorem PreparesFirst.syncEffects (h : PreparesFirst p) (s : Stage ω) :
    HasPrepared (p.syncEffects s).1 := by
  unfold EffectPass.syncEffects
  by_cases hs : p.needsSync
  · rw [if_pos hs]
    have synced : HasPrepared { p with effects := (threadList p.syncEffect p.effects s).1 } :=
      h.withEffects (forall_mem_threadList (fun _ s he => notes_begun_syncEffect he s) h.orderly s)
    exact ⟨{ synced.1 with begun := fun _ => synced.2 }, synced.2⟩
  · rw [if_neg hs]
    exact ⟨h, h.begun (Bool.eq_false_iff.2 hs)⟩

theorem keeps_updateEffects_hasPrepared (input : Surface) (delta : Float32) :
    Act.Keeps (fun x : EffectPass (Noted K) × Stage ω => HasPrepared x.1)
      (updateEffects input delta) := by
  rintro ⟨p, s⟩ ⟨h, begun⟩
  unfold updateEffects
  rw [Act.after_within]
  refine h.withEffects (Act.keeps_forEach (A := Hosted.Notes Memo.Begun) (I := fun _ => True)
    (fun x hx => ?_) (p.effects, s) ⟨begun, trivial⟩).1
  exact ⟨notes_begun_of_receives (x.1.receives_update input delta x.2) hx.1, trivial⟩

theorem keeps_render_preparesFirst (input output : Surface) (delta : Float32) :
    Act.Keeps (fun x : EffectPass (Noted K) × Stage ω => PreparesFirst x.1)
      (render input output delta) := by
  unfold render
  refine keeps_recompile_preparesFirst.onFirst.bind fun _ => ?_
  have synced : Act.Leads (fun x : EffectPass (Noted K) × Stage ω => PreparesFirst x.1)
      (fun x => HasPrepared x.1) (modify fun (p, s) => p.syncEffects s) :=
    fun x h => h.syncEffects x.2
  refine synced.bind (K := fun x => PreparesFirst x.1) And.left fun _ x h => ?_
  suffices prepared : HasPrepared (Act.after _ x).1 from prepared.1
  refine Act.keeps_get.bind (I := fun x : EffectPass (Noted K) × Stage ω => HasPrepared x.1)
    (fun _ => ?_) x h
  refine Act.Keeps.bind (Act.keeps_modify fun _ h => h) fun _ => ?_
  refine (keeps_updateEffects_hasPrepared input _).bind fun _ => ?_
  exact Act.keeps_get.bind fun _ => Act.keeps_onSecond _

theorem PreparesFirst.perform {x : EffectPass (Noted K) × Stage ω} (h : PreparesFirst x.1)
    {op : Op (Noted K) ω} (orderly : ∀ e ∈ op.gifts, e.Notes Memo.Orderly)
    (late : ¬ op.IsEarly x.1) : PreparesFirst (op.perform.after x).1 := by
  have begun (called : ¬ ∃ h ∈ x.1.effects, ∃ m ∈ h.memo, m.calls = []) :
      ∀ e ∈ x.1.effects, e.Notes Memo.Begun := fun e he m hm =>
    (h.orderly e he m hm).begun fun new => called ⟨e, he, m, hm, new⟩
  cases op with
  | setEffects effects =>
    exact (keeps_setEffects_of_changeEffects fun _ h => h.changeEffects orderly).onFirst.bind
      (fun _ => Act.keeps_pure _) x h
  | addEffect effect =>
    refine (keeps_addEffect_of_changeEffects fun p h => h.changeEffects fun e he => ?_).onFirst x h
    exact (List.mem_append.1 he).elim (h.orderly e) (orderly e)
  | removeEffect index =>
    refine (keeps_removeEffect_of_changeEffects fun p h => h.changeEffects fun e he =>
      h.orderly e (List.mem_of_mem_eraseIdx he)).onFirst.bind (fun _ => Act.keeps_pure _) x h
  | editEffect index edit => exact h.editEffect index edit
  | markDirty => exact { h with }
  | recompile => exact keeps_recompile_preparesFirst.onFirst x h
  | setDithering dithering =>
    change PreparesFirst (x.1.setDithering dithering)
    unfold EffectPass.setDithering
    split
    · exact h
    · exact { h with }
  | setFlags flags => exact { h with }
  | setMainCamera camera => exact { h with }
  | setUp setup => exact preparesFirst_setUp h.orderly setup x.2
  | setSize width height =>
    exact { (h.withEffects (forall_mem_threadList (fun e s => notes_begun_of_receives
      (e.receives_setSize width height s)) (begun late) _)).1 with }
  | setDepthTexture texture packing =>
    exact { (h.withEffects (forall_mem_threadList (fun e s => notes_begun_of_receives
      (e.receives_setDepthTexture texture packing s)) (begun late) _)).1 with }
  | render input output delta => exact keeps_render_preparesFirst input output delta x h
  | dispose =>
    exact { (h.withEffects (forall_mem_threadList (fun e s => notes_begun_of_receives
      (e.receives_dispose s)) (begun late) x.2)).1 with }
  | elsewhere s => exact h

/-! ## Runs -/

/-- Before a pass is set up, edits call no effect. -/
theorem keeps_eachOrderly_of_isEdit {op : Op (Noted K) ω} (isEdit : op.IsEdit)
    (orderly : ∀ e ∈ op.gifts, e.Notes Memo.Orderly) :
    Act.Keeps (fun x : EffectPass (Noted K) × Stage ω => EachOrderly x.1) op.perform := by
  have changed {effects : List (Hosted (Noted K))} {p : EffectPass (Noted K)}
      (hp : EachOrderly p) (he : ∀ e ∈ effects, e.Notes Memo.Orderly) :
      EachOrderly ((changeEffects effects).after p) :=
    keeps_changeEffects_of_withMerge (fun q m _ _ => eachOrderly_withMerge q m he) p hp
  cases op with
  | setEffects effects =>
    exact (keeps_setEffects_of_changeEffects fun _ h => changed h orderly).onFirst.bind
      fun _ => Act.keeps_pure _
  | addEffect effect =>
    refine (keeps_addEffect_of_changeEffects fun p h => changed h fun e he => ?_).onFirst
    exact (List.mem_append.1 he).elim (h e) (orderly e)
  | removeEffect index =>
    exact (keeps_removeEffect_of_changeEffects fun p h => changed h fun e he =>
      h e (List.mem_of_mem_eraseIdx he)).onFirst.bind fun _ => Act.keeps_pure _
  | editEffect index edit =>
    exact fun x h => forall_mem_modify (fun _ he => he.apply edit) h index
  | recompile =>
    exact (keeps_recompile_of_withMerge fun q m h _ => eachOrderly_withMerge q m h).onFirst
  | setDithering dithering =>
    intro x h
    change EachOrderly (x.1.setDithering dithering)
    unfold EffectPass.setDithering
    split <;> exact h
  | markDirty | setFlags | setMainCamera => exact fun _ h => h
  | _ => exact isEdit.elim

theorem eachOrderly_run_of_isEdit {x : EffectPass (Noted K) × Stage ω} (h : EachOrderly x.1)
    {ops : List (Op (Noted K) ω)} (isEdit : ∀ op ∈ ops, op.IsEdit)
    (orderly : ∀ op ∈ ops, ∀ e ∈ op.gifts, e.Notes Memo.Orderly) : EachOrderly (run ops x).1 := by
  induction ops generalizing x with
  | nil => exact h
  | cons op ops ih =>
    obtain ⟨edit, edits⟩ := List.forall_mem_cons.1 isEdit
    obtain ⟨gift, gifts⟩ := List.forall_mem_cons.1 orderly
    exact ih (keeps_eachOrderly_of_isEdit edit gift x h) edits gifts

theorem PreparesFirst.run {x : EffectPass (Noted K) × Stage ω} (h : PreparesFirst x.1)
    {ops : List (Op (Noted K) ω)} (orderly : ∀ op ∈ ops, ∀ e ∈ op.gifts, e.Notes Memo.Orderly)
    (late : ∀ done op, done ++ [op] <+: ops → ¬ op.IsEarly (run done x).1) :
    PreparesFirst (EffectPass.run ops x).1 := by
  induction ops generalizing x with
  | nil => exact h
  | cons op ops ih =>
    obtain ⟨gift, gifts⟩ := List.forall_mem_cons.1 orderly
    have first : ¬ op.IsEarly x.1 := late [] op (List.cons_prefix_cons.2 ⟨rfl, List.nil_prefix⟩)
    exact ih (h.perform gift first) gifts fun done next hd =>
      late (op :: done) next (List.cons_prefix_cons.2 ⟨rfl, hd⟩)

/-- An early operation calls some effect before it is prepared. -/
theorem not_startsPrepared_of_isEarly {x : EffectPass (Noted K) × Stage ω} {op : Op (Noted K) ω}
    (early : op.IsEarly x.1) :
    ∃ e ∈ (op.perform.after x).1.effects, ¬ e.Notes fun _ m => m.StartsPrepared := by
  have called {call : HookCall} (other : call.isPrepare = false) {e e' : Hosted (Noted K)}
      (r : e.Receives call e') {m : Memo} (hm : m ∈ e.memo) (new : m.calls = []) :
      ¬ e'.Notes fun _ m => m.StartsPrepared := by
    intro notes
    have first : (m.add call).StartsPrepared := notes _ (r.memo.trans (congrArg _ hm))
    rw [Memo.startsPrepared_add_of_nil _ new, other] at first
    cases first
  cases op with
  | setSize width height =>
    obtain ⟨e, he, m, hm, new⟩ := early
    obtain ⟨t, ht⟩ := exists_mem_threadList (fun e (s : Shared ω) => e.setSize width height s) he _
    exact ⟨_, ht, called rfl (e.receives_setSize width height t) hm new⟩
  | setDepthTexture texture packing =>
    obtain ⟨e, he, m, hm, new⟩ := early
    obtain ⟨t, ht⟩ :=
      exists_mem_threadList (fun e (s : Shared ω) => e.setDepthTexture texture packing s) he _
    exact ⟨_, ht, called rfl (e.receives_setDepthTexture texture packing t) hm new⟩
  | dispose =>
    obtain ⟨e, he, m, hm, new⟩ := early
    obtain ⟨t, ht⟩ := exists_mem_threadList (fun e (s : Stage ω) => e.dispose s) he x.2
    exact ⟨_, ht, called rfl (e.receives_dispose t) hm new⟩
  | _ => exact early.elim

/-- **Which call comes first.** Once a pass is set up, the first call that its effects receive, early
or late as they may have come, is the one that prepares them, as long as no operation reaches an
effect in the window between its coming and the next frame. A size, a depth texture or a disposal that
falls in this window is always the first call. -/
theorem prepare_first_iff {camera : Option Camera} {effects : List (Hosted (Noted K))}
    {config : EffectPassConfig} {s : Stage ω} {t : UniformStore}
    (created : create camera effects config s.uniforms = .ok (p, t))
    (orderly : ∀ e ∈ effects, e.Notes Memo.Orderly) {edits : List (Op (Noted K) ω)}
    (isEdit : ∀ op ∈ edits, op.IsEdit) (setup : PassSetup) {ops : List (Op (Noted K) ω)}
    (given : ∀ op ∈ edits ++ ops, ∀ e ∈ op.gifts, e.Notes Memo.Orderly) :
    let x := run [.setUp setup] (run edits (p, { s with uniforms := t }))
    (∀ done, done <+: ops → ∀ e ∈ (run done x).1.effects, e.Notes fun _ m => m.StartsPrepared) ↔
      ∀ done op, done ++ [op] <+: ops → ¬ op.IsEarly (run done x).1 := by
  intro x
  have unset : EachOrderly (run edits (p, { s with uniforms := t })).1 := by
    obtain ⟨m, -, -, rfl⟩ := exists_withMerge_of_create created
    exact eachOrderly_run_of_isEdit (eachOrderly_withMerge _ m orderly) isEdit
      fun op ho => given op (List.mem_append_left _ ho)
  have set : PreparesFirst x.1 := preparesFirst_setUp unset setup _
  constructor
  · intro first done op hd early
    obtain ⟨e, he, notes⟩ := not_startsPrepared_of_isEarly early
    have after : run (done ++ [op]) x = op.perform.after (run done x) := run_append done [op] x
    exact notes (first _ hd e (after ▸ he))
  · intro late done hd e he
    have kept : PreparesFirst (run done x).1 := set.run
      (fun op ho => given op (List.mem_append_right _ (hd.subset ho)))
      fun before op hb => late before op (hb.trans hd)
    exact (kept.orderly e he).mono fun _ _ hm => hm.startsPrepared

/-- An effect that comes after its pass was set up is prepared first, if the next frame is the next that
happens. -/
theorem drawn_effect_prepared_first :
    let glow : Hosted (Noted ProbeHooks) :=
      { effect := Effect.ofEntry "glow" "mainImage" ⟨.normal, ⟨0⟩⟩ .none
        hooks := some ⟨.noting "glow" none none, {}⟩ }
    let s : Stage ProbeLog := { uniforms := ⟨#[]⟩, host := #[], device := .ofSize 64 32 }
    let surface (id : Nat) : Surface :=
      { id := ⟨id⟩, label := "surface", width := 64, height := 32, color := ⟨id + 1⟩,
        depthBuffer := false, stencilBuffer := false }
    let ops : List (Op (Noted ProbeHooks) ProbeLog) :=
      [.addEffect glow, .render (surface 1) (surface 3) 1]
    ∃ p t, create none [glow] {} s.uniforms = .ok (p, t) ∧
      let x := run [.setUp ⟨true, .half, ⟨9⟩, 64, 32⟩] (p, { s with uniforms := t })
      ∀ done, done <+: ops → ∀ e ∈ (run done x).1.effects, e.Notes fun _ m => m.StartsPrepared := by
  intro glow s surface ops
  obtain ⟨p, t, hp⟩ :=
    exists_create_eq_ok (show Mergeable ([glow].map (·.effect)) by decide +kernel) none {} s.uniforms
  have orderly : ∀ e ∈ [glow], e.Notes Memo.Orderly := by
    intro e he
    rw [List.mem_singleton.1 he]
    rintro m ⟨⟩
    exact .inl ⟨rfl, rfl⟩
  have given : ∀ op ∈ [] ++ ops, ∀ e ∈ op.gifts, e.Notes Memo.Orderly :=
    List.forall_mem_cons.2 ⟨orderly, List.forall_mem_singleton.2 (List.forall_mem_nil _)⟩
  refine ⟨p, t, hp, (prepare_first_iff hp orderly (List.forall_mem_nil _) _ given).2 ?_⟩
  intro done op hd early
  have listed : op ∈ ops := hd.subset (List.mem_append_right _ (List.mem_singleton.2 rfl))
  rcases List.mem_pair.1 listed with rfl | rfl <;> exact early

/-- A size that falls between the coming of an effect and the next frame is the first call that the
effect receives. -/
theorem late_effect_sized_first :
    let glow : Hosted (Noted ProbeHooks) :=
      { effect := Effect.ofEntry "glow" "mainImage" ⟨.normal, ⟨0⟩⟩ .none
        hooks := some ⟨.noting "glow" none none, {}⟩ }
    let s : Stage ProbeLog := { uniforms := ⟨#[]⟩, host := #[], device := .ofSize 64 32 }
    let ops : List (Op (Noted ProbeHooks) ProbeLog) :=
      [.setUp ⟨true, .half, ⟨9⟩, 64, 32⟩, .addEffect glow, .setSize 64 32]
    ∃ p t, create none [] {} s.uniforms = .ok (p, t) ∧
      (run ops (p, { s with uniforms := t })).1.effects.map (·.memo) =
        [some { calls := [.setSize 64 32] }] := by
  intro glow s ops
  obtain ⟨p, t, hp⟩ := exists_create_eq_ok
    (show Mergeable (([] : List (Hosted (Noted ProbeHooks))).map (·.effect)) by decide +kernel)
    none {} s.uniforms
  obtain ⟨one, ho⟩ := exists_mergeHosted_eq_ok
    (show Mergeable ([glow].map (·.effect)) by decide +kernel)
  obtain ⟨idle, -, -, new⟩ := exists_withMerge_of_create hp
  let x := (Op.setUp ⟨true, .half, ⟨9⟩, 64, 32⟩).perform.after (p, { s with uniforms := t })
  have prepared : x.1.effects = [] := by
    change (threadList _ p.effects _).1 = []
    rw [new]
    rfl
  have appended : x.1.effects ++ [glow] = [glow] := congrArg (· ++ [glow]) prepared
  have given := perform_addEffect (p := x.1) (m := one) (appended ▸ ho) x.2
  refine ⟨p, t, hp, ?_⟩
  change (run _ ((Op.addEffect glow).perform.after x)).1.effects.map _ = _
  rw [given, appended]
  rfl

end Hooks

end EffectPass

end ScreenEffects
