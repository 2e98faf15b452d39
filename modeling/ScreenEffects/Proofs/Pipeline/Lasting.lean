import ScreenEffects.Proofs.Pipeline.Calls
import ScreenEffects.Proofs.Pipeline.Operations

/-!
# Properties that passes keep

What neither the life of a pass in a pipeline nor its frames can change, all passes of a rig keep
through every run: a property that lasts (`Lasting`) holds of the passes in the list and of the loose
ones, as long as the passes that are made have it and no edit takes it from one.

* `Pipeline.keeps_each_render` : a frame, failed or not.
* `Rig.each_run` : a run.
-/

namespace ScreenEffects

variable {P ω : Type}

/-- Nothing that a pipeline does with a pass that has the property `A` takes it from the pass. -/
structure Lasting (A : P → Prop) [Pass P ω] : Prop where
  setUp : ∀ setup, Act.Keeps (fun x : P × Stage ω => A x.1) (Pass.setUp setup)
  setSize : ∀ width height, Act.Keeps (fun x : P × Stage ω => A x.1) (Pass.setSize width height)
  setDepthTexture : ∀ q t (s : Shared ω), A (Pass.setDepthTexture q t .basic s).1 = A q
  sendToScreen : ∀ q b, A (Pipeline.sendToScreen q b) = A q
  render : ∀ input output delta masked,
    Act.Keeps (fun x : P × Stage ω => A x.1) (Pass.render input output delta masked)

namespace Pipeline

/-- Each pass of the list has the property `A`. -/
def Each (A : P → Prop) (x : Pipeline P × Stage ω) : Prop := ∀ q ∈ x.1.passes, A q

/-- What an act makes of each pass and keeps of it, it keeps of the list. -/
theorem keeps_each_onPasses {A : P → Prop} {β : Type} {act : β → Act (P × Stage ω) β}
    (keeps : ∀ b, Act.Keeps (fun x => A x.1) (act b)) (b : β) :
    Act.Keeps (Each A) (onPasses (Act.foldEach act b)) := by
  rintro ⟨p, s⟩ h
  have kept := Act.keeps_foldEach (A := A) (I := fun _ => True)
    (fun b x hx => ⟨keeps b x hx.1, trivial⟩) b (p.passes, s) ⟨h, trivial⟩
  unfold onPasses
  rw [Act.after_within]
  exact kept.1

section Lasting

variable [Pass P ω] {A : P → Prop} (lasting : Lasting A)

include lasting

theorem each_updateDepthTexture {x : Pipeline P × Stage ω} (h : Each A x) :
    Each A (x.1.updateDepthTexture x.2) :=
  forall_mem_of_map_eq (map_updateDepthTexture lasting.setDepthTexture x.1 x.2) h

theorem each_presentLast {p : Pipeline P} {s : Stage ω} (h : Each A (p, s)) :
    Each A (p.presentLast, s) :=
  forall_mem_of_map_eq (map_presentLast lasting.sendToScreen p) h

theorem each_shareDepthTexture {p : Pipeline P} {s : Stage ω} (h : Each A (p, s))
    (t : Option Texture) : Each A (p.shareDepthTexture t s) :=
  forall_mem_of_map_eq (map_shareDepthTexture lasting.setDepthTexture p t s) h

theorem each_deleteDepthTexture {x : Pipeline P × Stage ω} (h : Each A x) :
    Each A (x.1.deleteDepthTexture x.2) := by
  unfold deleteDepthTexture
  cases x.1.depthTexture with
  | none => exact h
  | some t => exact each_shareDepthTexture lasting (p := { x.1 with depthTexture := none }) h none

/-! ### Passes that come and go -/

theorem keeps_ready (p : Pipeline P) : Act.Keeps (fun x : P × Stage ω => A x.1) (ready p) := by
  unfold ready
  refine (lasting.setUp _).bind fun _ => (lasting.setSize _ _).bind fun _ => ?_
  split
  · refine Act.keeps_modify fun x h => ?_
    change A (Pass.setDepthTexture x.1 p.depthTexture .basic x.2.toShared).1
    rwa [lasting.setDepthTexture]
  · exact Act.keeps_pure _

/-- A pass that joins is one more with the property; one that is refused still has it. -/
theorem each_add {p : Pipeline P} {q : P} {s : Stage ω} (h : Each A (p, s)) (hq : A q)
    (index : Option Nat) :
    Each A ((p.add q index s).pipeline, (p.add q index s).stage) ∧
      ∀ r ∈ (p.add q index s).refused, A r.2 := by
  have readied := keeps_ready lasting p (q, s) hq
  unfold Act.after at readied
  unfold add
  simp only
  split
  · exact ⟨h, by simpa using hq⟩
  split
  · exact ⟨h, by simpa using hq⟩
  cases hr : ready p (q, s) with
  | error e x =>
    rw [hr] at readied
    exact ⟨h, by simpa using readied⟩
  | ok a x =>
    rw [hr] at readied
    have joined : Each A ({ p with
        passes := p.passes.insertIdx (index.getD p.passes.length) x.1 }, x.2) := fun r hr => by
      rcases List.eq_or_mem_of_mem_insertIdx hr with rfl | hr
      · exact readied
      · exact h r hr
    exact ⟨each_presentLast lasting (each_updateDepthTexture lasting joined), by simp⟩

theorem each_release {p : Pipeline P} {q : P} {rest : List P} {s : Stage ω} (hq : A q)
    (hrest : ∀ r ∈ rest, A r) :
    A (p.release q rest s).1 ∧ Each A (p.release q rest s).2 := by
  have told : A (p.forget q s).1 := by
    unfold forget
    split
    · rwa [lasting.setDepthTexture]
    · exact hq
  have stay : Each A ({ p with passes := rest }, (p.forget q s).2) := hrest
  rw [release_eq]
  refine ⟨?_, each_presentLast lasting (each_updateDepthTexture lasting stay)⟩
  simp only
  split
  · rwa [lasting.sendToScreen]
  · exact told

theorem each_removeFirst {p : Pipeline P} {s : Stage ω} (h : Each A (p, s)) (n : Nat) :
    (∀ q ∈ (p.removeFirst n s).1, A q) ∧ Each A (p.removeFirst n s).2 := by
  induction n generalizing p s with
  | zero => exact ⟨nofun, h⟩
  | succ n ih =>
    unfold removeFirst
    cases hp : p.passes with
    | nil => exact ⟨nofun, h⟩
    | cons q rest =>
      unfold Each at h
      simp only [hp] at h
      obtain ⟨hq, hrest⟩ := List.forall_mem_cons.1 h
      obtain ⟨gone, stay⟩ := each_release lasting (p := p) (s := s) hq hrest
      obtain ⟨others, left⟩ := ih stay
      exact ⟨List.forall_mem_cons.2 ⟨gone, others⟩, left⟩

/-! ### Changes of all passes -/

theorem keeps_each_setSize (width height : UInt32) :
    Act.Keeps (Each A) (setSize width height : Act (Pipeline P × Stage ω) Unit) :=
  keeps_setSize (fun _ _ h => h) (fun _ _ _ _ _ h => h) (fun _ _ _ _ h => h) (fun _ _ _ _ h => h)
    fun w h => keeps_each_onPasses (fun _ => lasting.setSize w h) ()

theorem keeps_each_reset : Act.Keeps (Each A) (reset : Act (Pipeline P × Stage ω) Unit) :=
  keeps_reset (J := Each A) id (fun _ _ h => each_deleteDepthTexture lasting h) (fun _ _ h => h)
    (fun _ _ h => each_shareDepthTexture lasting h _) fun _ _ _ h => h

/-- A frame takes a lasting property from no pass. -/
theorem keeps_each_render (delta : FrameDelta) :
    Act.Keeps (Each A) (render delta : Act (Pipeline P × Stage ω) FrameReport) :=
  keeps_render (fun _ _ _ h => h) (fun _ _ h => each_updateDepthTexture lasting h)
    (fun _ _ h => each_presentLast lasting h) fun _ _ _ _ _ =>
      keeps_each_onPasses (fun _ => FrameState.keeps_next (lasting.render _ _ _ _)
        fun _ _ => Act.keeps_onSecond _) _

/-- A pipeline that has come to its end has no passes. -/
theorem each_dispose {p : Pipeline P} {s : Stage ω} (h : Each A (p, s)) :
    Each A (p.dispose s).2 := by
  unfold Pipeline.dispose
  split
  · exact h
  · obtain ⟨⟨qs, t⟩, ht⟩ : ∃ x, threadList (fun q s => Pass.dispose q s) p.passes s = x := ⟨_, rfl⟩
    have emptied : Each A (({ p with passes := [] } : Pipeline P).deleteDepthTexture t) :=
      each_deleteDepthTexture lasting (x := ({ p with passes := [] }, t)) nofun
    simp only [ht]
    exact emptied

end Lasting

end Pipeline

/-! ## Rigs -/

namespace Rig

variable {H Q : Type}

/-- Each pass of the rig, in the list or loose, has the property `A`. -/
structure Each (A : AnyPass H Q → Prop) (x : Rig H Q ω) : Prop where
  passes : ∀ q ∈ x.pipeline.passes, A q
  loose : ∀ q ∈ x.loose, A q

/-- The pass at a place. -/
def at? (x : Rig H Q ω) : Place → Option (AnyPass H Q)
  | .listed i => x.pipeline.passes[i]?
  | .loose i => x.loose[i]?

variable {A : AnyPass H Q → Prop} {x : Rig H Q ω}

/-- A change that takes the property from no pass at its place leaves it to all. -/
theorem Each.change {f : AnyPass H Q → AnyPass H Q} {place : Place} (h : x.Each A)
    (keeps : ∀ q, x.at? place = some q → A q → A (f q)) : (x.change f place).Each A := by
  cases place with
  | listed i => exact ⟨forall_mem_modify_of_getElem? h.passes keeps, h.loose⟩
  | loose i => exact ⟨h.passes, forall_mem_modify_of_getElem? h.loose keeps⟩

variable [EffectHooks H ω] [Pass Q ω]

/-- The pass that the operation makes has the property `A`, and a pass that it changes from outside of
the pipeline keeps it. -/
def Op.Admits (A : AnyPass H Q → Prop) (x : Rig H Q ω) : Op H Q ω → Prop
  | .makeEffects camera effects config => ∀ p uniforms,
    EffectPass.create camera effects config x.stage.uniforms = .ok (p, uniforms) →
      A (.builtin (.effects p))
  | .make q => A q
  | .setFlags place flags => ∀ q, x.at? place = some q → A q → A (Pass.withFlags q flags)
  | .edit place op => ∀ q, x.at? place = some q → A q → A (q.edit op x.stage)
  | _ => True

variable (lasting : Lasting A)

include lasting

theorem Each.add (h : x.Each A) (i : Nat) (index : Option Nat) : (x.add i index).Each A := by
  unfold Rig.add
  cases hq : x.loose[i]? with
  | none => exact h
  | some q =>
    have mem : q ∈ x.loose := List.mem_of_getElem? hq
    obtain ⟨joined, refused⟩ :=
      Pipeline.each_add lasting (p := x.pipeline) (s := x.stage) h.passes (h.loose q mem) index
    refine ⟨joined, ?_⟩
    simp only
    cases hr : (x.pipeline.add q index x.stage).refused with
    | none => exact fun r hr => h.loose r (List.mem_of_mem_eraseIdx hr)
    | some back =>
      intro r hr'
      rcases List.mem_or_eq_of_mem_set hr' with hr' | rfl
      · exact h.loose r hr'
      · exact refused back hr

theorem Each.remove (h : x.Each A) (index : Nat) : (x.remove index).Each A := by
  unfold Rig.remove Pipeline.remove
  cases hq : x.pipeline.passes[index]? with
  | none =>
    simp only [hq]
    exact h
  | some q =>
    simp only [hq]
    obtain ⟨gone, stay⟩ := Pipeline.each_release lasting (p := x.pipeline) (s := x.stage)
      (h.passes q (List.mem_of_getElem? hq))
      fun r (hr : r ∈ x.pipeline.passes.eraseIdx index) => h.passes r (List.mem_of_mem_eraseIdx hr)
    exact ⟨stay, List.forall_mem_append.2 ⟨h.loose, List.forall_mem_singleton.2 gone⟩⟩

/-- An operation that admits only passes with a lasting property leaves it to all, failed or not. -/
theorem each_perform (h : x.Each A) {op : Op H Q ω} (admits : op.Admits A x) :
    (op.perform x).Each A := by
  cases op with
  | makeEffects camera effects config =>
    simp only [Op.perform]
    cases hc : EffectPass.create camera effects config x.stage.uniforms with
    | error e => exact h
    | ok y =>
      refine ⟨h.passes, List.forall_mem_append.2 ⟨h.loose, List.forall_mem_singleton.2 ?_⟩⟩
      exact admits y.1 y.2 hc
  | make q =>
    exact ⟨h.passes, List.forall_mem_append.2 ⟨h.loose, List.forall_mem_singleton.2 admits⟩⟩
  | add i index => exact h.add lasting i index
  | remove index => exact h.remove lasting index
  | removeAll =>
    obtain ⟨gone, stay⟩ := Pipeline.each_removeFirst lasting (p := x.pipeline) (s := x.stage)
      h.passes x.pipeline.passes.length
    exact ⟨stay, List.forall_mem_append.2 ⟨h.loose, gone⟩⟩
  | setFlags place flags => exact h.change admits
  | edit place op => exact h.change admits
  | setSize width height => exact ⟨Pipeline.keeps_each_setSize lasting width height _ h.passes, h.loose⟩
  | reset => exact ⟨Pipeline.keeps_each_reset lasting _ h.passes, h.loose⟩
  | render delta => exact ⟨Pipeline.keeps_each_render lasting delta _ h.passes, h.loose⟩
  | dispose => exact ⟨Pipeline.each_dispose lasting h.passes, h.loose⟩
  | elsewhere s => exact ⟨h.passes, h.loose⟩

omit lasting in
/-- Each operation of a run admits only passes with the property `A`. -/
def Admits (A : AnyPass H Q → Prop) : List (Op H Q ω) → Rig H Q ω → Prop
  | [], _ => True
  | op :: ops, x => op.Admits A x ∧ Admits A ops (op.perform x)

/-- A run leaves a lasting property to all passes. -/
theorem each_run {ops : List (Op H Q ω)} (h : x.Each A) (admits : Admits A ops x) :
    (run ops x).Each A := by
  induction ops generalizing x with
  | nil => exact h
  | cons op ops ih => exact ih (each_perform lasting h admits.1) admits.2

omit lasting [EffectHooks H ω] [Pass Q ω] in
/-- A pipeline begins without passes. -/
theorem each_start (config : PipelineConfig) (s : Stage ω) : (start config s : Rig H Q ω).Each A :=
  ⟨fun _ hq => absurd hq List.not_mem_nil, fun _ hq => absurd hq List.not_mem_nil⟩

end Rig

end ScreenEffects
