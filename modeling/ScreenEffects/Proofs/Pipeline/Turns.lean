import ScreenEffects.Pipeline.Frame
import ScreenEffects.Proofs.Pass.Kept

/-!
# The turns of a frame

In a frame every pass has its turn, in the order of the list; a disabled pass lets it go by. A `Turn`
is the pass and the stage before and after. What a pass is given at its turn can be read off the
turns before it: which surface holds the image from the number of passes that moved it (`surfaces`),
and whether drawing is confined to a mask from the last pass that opened or closed one (`masked`).
`Turn.Follows` says that a turn went as the turns before it ask for.

* `follows_of_next` is one turn, `turns_of_foldEach` the turns of a whole list.
-/

namespace ScreenEffects

variable {P ω : Type}

/-- The turn of a pass in a frame: the pass and the stage before and after. -/
structure Turn (P ω : Type) where
  before : P
  after : P
  entry : Stage ω
  exit : Stage ω

namespace FrameState

variable [Pass P ω] {copy : CopyPass} {delta : Float32} {f g : FrameState} {q q' : P} {s s' : Stage ω}

theorem next_of_disabled (h : (Pass.flags q).enabled = false) :
    next copy delta f (q, s) = .ok f (q, s) := by
  unfold next
  rw [Act.get_bind_apply]
  simp only [h]
  rfl

theorem next_of_disposed (enabled : (Pass.flags q).enabled = true)
    (h : (Pass.flags q).disposed = true) :
    next copy delta f (q, s) = .error (.disposed (Pass.name q)) (q, s) := by
  unfold next
  rw [Act.get_bind_apply]
  simp only [enabled, h]
  rfl

/-- A pass that is called is rendered, and then what lies outside of the mask is copied along, if the
image moves while there is a mask. -/
theorem next_of_called (enabled : (Pass.flags q).enabled = true)
    (alive : (Pass.flags q).disposed = false) :
    next copy delta f (q, s) =
      match Pass.render f.input f.output delta f.masked (q, s) with
      | .error e x => .error e x
      | .ok _ (r, drawn) =>
        let g := { f with rendered := f.rendered + 1 }
        if (Pass.flags r).needsSwap then
          if f.masked then
            match f.copyOutside copy (Pass.flags r).toScreen drawn with
            | .error e t => .error e (r, t)
            | .ok _ t => .ok (g.swap.afterRole (Pass.role r)) (r, t)
          else .ok (g.swap.afterRole (Pass.role r)) (r, drawn)
        else .ok (g.afterRole (Pass.role r)) (r, drawn) := by
  unfold next
  rw [Act.get_bind_apply]
  simp only [enabled, alive]
  change (Pass.render f.input f.output delta f.masked >>= _) (q, s) = _
  rw [Act.bind_apply]
  cases Pass.render f.input f.output delta f.masked (q, s) with
  | error e x => rfl
  | ok a x =>
    obtain ⟨r, drawn⟩ := x
    simp only
    rw [Act.get_bind_apply]
    cases (Pass.flags r).needsSwap with
    | false => rfl
    | true =>
      cases f.masked with
      | false => rfl
      | true =>
        change (Act.onSecond (f.copyOutside copy (Pass.flags r).toScreen) >>= _) (r, drawn) = _
        rw [Act.bind_apply, Act.onSecond]
        cases f.copyOutside copy (Pass.flags r).toScreen drawn <;> rfl

/-- A turn keeps what both rendering its pass and copying along what lies outside of the mask keep. -/
theorem keeps_next {I : P × Stage ω → Prop}
    (render : Act.Keeps I (Pass.render f.input f.output delta f.masked))
    (copied : ∀ (g : FrameState) toScreen, Act.Keeps I (Act.onSecond (g.copyOutside copy toScreen))) :
    Act.Keeps I (next copy delta f) := by
  have called : Act.Keeps I (do
      Pass.render f.input f.output delta f.masked
      let x ← get
      let f := { f with rendered := f.rendered + 1 }
      let flags := Pass.flags x.1
      if !flags.needsSwap then return f.afterRole (Pass.role x.1)
      if f.masked then Act.onSecond (f.copyOutside copy flags.toScreen)
      return f.swap.afterRole (Pass.role x.1)) := by
    refine render.bind fun _ => Act.keeps_get.bind fun x => ?_
    simp only
    split
    · exact Act.keeps_pure _
    · split
      · exact (copied _ _).bind fun _ => Act.keeps_pure _
      · exact Act.keeps_pure _
  unfold next
  refine Act.keeps_get.bind fun x => ?_
  simp only
  split
  · exact Act.keeps_pure _
  · split
    · exact (Act.keeps_throw _).bind fun _ => called
    · exact called

/-- To copy along what lies outside of the mask is to make a few calls. -/
theorem keeps_copyOutside_of_calls {I : Stage ω → Prop} (calls : StageCalls I) (f : FrameState)
    (copy : CopyPass) (toScreen : Bool) : Act.Keeps I (f.copyOutside copy toScreen) := by
  have tested (stencil : Stencil) :
      Act.Keeps I (modify (·.mapDevice (·.setStencil stencil)) : Act (Stage ω) Unit) :=
    Act.keeps_modify fun _ h => calls.setStencil h stencil
  unfold copyOutside
  exact (tested _).bind fun _ =>
    (copy.shader.keeps_draw_of_calls calls f.input f.output toScreen).bind fun _ => tested _

/-- All that a turn can do, if it ends well: it goes by, or the pass is rendered and what lies outside
of the mask is copied along, if the image moves while there is a mask. -/
theorem next_eq_ok (h : next copy delta f (q, s) = .ok g (q', s')) :
    ((Pass.flags q).enabled = false ∧ g = f ∧ q' = q ∧ s' = s) ∨
      ((Pass.flags q).enabled = true ∧ ∃ drawn,
        Pass.render f.input f.output delta f.masked (q, s) = .ok () (q', drawn) ∧
        (if (Pass.flags q').needsSwap && f.masked then
          f.copyOutside copy (Pass.flags q').toScreen drawn = .ok () s' else s' = drawn) ∧
        g = (if (Pass.flags q').needsSwap then { f with rendered := f.rendered + 1 }.swap
          else { f with rendered := f.rendered + 1 }).afterRole (Pass.role q')) := by
  cases enabled : (Pass.flags q).enabled with
  | false =>
    rw [next_of_disabled enabled] at h
    cases h
    exact .inl ⟨rfl, rfl, rfl, rfl⟩
  | true =>
    cases alive : (Pass.flags q).disposed with
    | true =>
      rw [next_of_disposed enabled alive] at h
      cases h
    | false =>
      rw [next_of_called enabled alive] at h
      cases hr : Pass.render f.input f.output delta f.masked (q, s) with
      | error e x =>
        rw [hr] at h
        cases h
      | ok a x =>
        obtain ⟨r, drawn⟩ := x
        rw [hr] at h
        refine .inr ⟨rfl, drawn, ?_⟩
        cases swap : (Pass.flags r).needsSwap with
        | false =>
          simp only [swap, Bool.false_eq_true, if_false] at h
          cases h
          exact ⟨rfl, by simp [swap], by simp [swap]⟩
        | true =>
          cases masked : f.masked with
          | false =>
            simp only [swap, masked, Bool.false_eq_true, if_true, if_false] at h
            cases h
            exact ⟨rfl, by simp, by simp [swap]⟩
          | true =>
            simp only [swap, masked, if_true] at h
            cases hc : f.copyOutside copy (Pass.flags r).toScreen drawn with
            | error e t =>
              rw [hc] at h
              cases h
            | ok b t =>
              rw [hc] at h
              cases h
              exact ⟨rfl, by simp [swap, hc], by simp [swap]⟩

end FrameState

/-- Of what happened to the mask, in this order, the last that opened or closed one opened it. -/
def leavesMask (marks : List PassRole) : Bool :=
  decide ((marks.filter (· ≠ .regular)).getLast? = some .mask)

theorem leavesMask_append_singleton (marks : List PassRole) (r : PassRole) :
    leavesMask (marks ++ [r]) =
      match r with
      | .regular => leavesMask marks
      | .mask => true
      | .clearMask => false := by
  unfold leavesMask
  rw [List.filter_append]
  cases r <;> simp

namespace Turn

/-- The stage after some turns of a frame that began on the stage `s`. -/
def stageAfter (s : Stage ω) (done : List (Turn P ω)) : Stage ω :=
  (done.getLast?.map (·.exit)).getD s

variable [Pass P ω]

/-- The pass was enabled when its turn came. -/
def isRendered (t : Turn P ω) : Bool := (Pass.flags t.before).enabled

/-- The pass was rendered and asked for a swap after it. -/
def isSwap (t : Turn P ω) : Bool := t.isRendered && (Pass.flags t.after).needsSwap

/-- The number of swaps. -/
def swaps (done : List (Turn P ω)) : Nat := done.countP isSwap

/-- The roles of the rendered passes. -/
def roles (done : List (Turn P ω)) : List PassRole :=
  (done.filter isRendered).map fun t => Pass.role t.after

/-- Of the rendered passes that open or close a mask, the last one opened it. -/
def masked (done : List (Turn P ω)) : Bool :=
  decide (((roles done).filter (· ≠ .regular)).getLast? = some .mask)

/-- The surface with the image and the other one, in a frame that began with `input` and `output`. -/
def surfaces (input output : Surface) (done : List (Turn P ω)) : Surface × Surface :=
  if swaps done % 2 = 0 then (input, output) else (output, input)

/-- The turn `t` went as the turns `done` before it ask for, in a frame that began with the surfaces
`input` and `output` on the stage `s`. -/
structure Follows (copy : CopyPass) (delta : Float32) (input output : Surface) (s : Stage ω)
    (done : List (Turn P ω)) (t : Turn P ω) : Prop where
  entry : t.entry = stageAfter s done
  /-- A disabled pass lets its turn go by. -/
  passed : t.isRendered = false → t.after = t.before ∧ t.exit = t.entry
  /-- An enabled pass is rendered; then what lies outside of the mask is copied along, if the image
  moves while there is a mask. -/
  rendered : t.isRendered = true → ∃ drawn : Stage ω,
    Pass.render (surfaces input output done).1 (surfaces input output done).2 delta (masked done)
      (t.before, t.entry) = .ok () (t.after, drawn) ∧
    if (Pass.flags t.after).needsSwap && masked done then
      FrameState.copyOutside
        { input := (surfaces input output done).1, output := (surfaces input output done).2 }
        copy (Pass.flags t.after).toScreen drawn = .ok () t.exit
    else t.exit = drawn

/-! ## One more turn -/

omit [Pass P ω] in
theorem stageAfter_append_singleton (s : Stage ω) (done : List (Turn P ω)) (t : Turn P ω) :
    stageAfter s (done ++ [t]) = t.exit := by
  unfold stageAfter
  rw [List.getLast?_append, List.getLast?_singleton]
  rfl

theorem swaps_append_singleton (done : List (Turn P ω)) (t : Turn P ω) :
    swaps (done ++ [t]) = swaps done + if t.isSwap then 1 else 0 := by
  unfold swaps
  rw [List.countP_append, List.countP_singleton]

theorem surfaces_append_singleton (input output : Surface) (done : List (Turn P ω))
    (t : Turn P ω) :
    surfaces input output (done ++ [t]) =
      if t.isSwap then (surfaces input output done).swap else surfaces input output done := by
  unfold surfaces
  rw [swaps_append_singleton]
  by_cases ht : t.isSwap
  · rw [if_pos ht, if_pos ht]
    by_cases hs : swaps done % 2 = 0
    · rw [if_pos hs, if_neg (by omega)]
      rfl
    · rw [if_neg hs, if_pos (by omega)]
      rfl
  · rw [if_neg ht, if_neg ht, Nat.add_zero]

theorem roles_append_singleton (done : List (Turn P ω)) (t : Turn P ω) :
    roles (done ++ [t]) = roles done ++ if t.isRendered then [Pass.role t.after] else [] := by
  unfold roles
  rw [List.filter_append, List.map_append, List.filter_cons, List.filter_nil]
  cases t.isRendered <;> rfl

theorem masked_append_singleton (done : List (Turn P ω)) (t : Turn P ω) :
    masked (done ++ [t]) =
      if t.isRendered then
        match Pass.role t.after with
        | .regular => masked done
        | .mask => true
        | .clearMask => false
      else masked done := by
  change leavesMask (roles (done ++ [t])) = _
  rw [roles_append_singleton]
  by_cases ht : t.isRendered
  · rw [if_pos ht, if_pos ht]
    exact leavesMask_append_singleton (roles done) (Pass.role t.after)
  · rw [if_neg ht, if_neg ht, List.append_nil]
    rfl

/-- What is handed on after some turns. -/
def frameAfter (input output : Surface) (done : List (Turn P ω)) : FrameState where
  input := (surfaces input output done).1
  output := (surfaces input output done).2
  masked := masked done
  rendered := done.countP isRendered
  swaps := swaps done

theorem frameAfter_of_passed {input output : Surface} {done : List (Turn P ω)} {t : Turn P ω}
    (h : t.isRendered = false) :
    frameAfter input output (done ++ [t]) = frameAfter input output done := by
  have hs : t.isSwap = false := by
    unfold isSwap
    rw [h, Bool.false_and]
  unfold frameAfter
  rw [surfaces_append_singleton, masked_append_singleton, swaps_append_singleton,
    List.countP_append, List.countP_singleton, hs, h]
  rfl

theorem frameAfter_of_rendered {input output : Surface} {done : List (Turn P ω)} {t : Turn P ω}
    (h : t.isRendered = true) {f : FrameState}
    (hf : f = { frameAfter input output done with rendered := done.countP isRendered + 1 }) :
    frameAfter input output (done ++ [t]) =
      (if (Pass.flags t.after).needsSwap then f.swap else f).afterRole (Pass.role t.after) := by
  have hs : t.isSwap = (Pass.flags t.after).needsSwap := by
    unfold isSwap
    rw [h, Bool.true_and]
  subst hf
  unfold frameAfter
  rw [surfaces_append_singleton, masked_append_singleton, swaps_append_singleton,
    List.countP_append, List.countP_singleton, hs, h]
  cases (Pass.flags t.after).needsSwap <;> cases Pass.role t.after <;> rfl

/-! ## The turns of a list -/

/-- All turns of a frame went as the turns before them ask for. -/
def AllFollow (copy : CopyPass) (delta : Float32) (input output : Surface) (s : Stage ω)
    (turns : List (Turn P ω)) : Prop :=
  ∀ done t rest, turns = done ++ t :: rest → t.Follows copy delta input output s done

section Run

variable {copy : CopyPass} {delta : Float32} {input output : Surface} {s₀ : Stage ω}

theorem allFollow_nil : AllFollow copy delta input output s₀ ([] : List (Turn P ω)) := by
  intro done t rest h
  simp at h

theorem AllFollow.append_singleton {done : List (Turn P ω)} {t : Turn P ω}
    (h : AllFollow copy delta input output s₀ done)
    (ht : t.Follows copy delta input output s₀ done) :
    AllFollow copy delta input output s₀ (done ++ [t]) := by
  intro pre u rest hu
  rcases List.eq_nil_or_concat rest with rfl | ⟨rest, v, rfl⟩
  · obtain ⟨rfl, rfl⟩ := List.append_singleton_inj.1 hu
    exact ht
  · have hd : done ++ [t] = (pre ++ u :: rest) ++ [v] := by
      rw [hu, List.append_assoc, List.cons_append, List.concat_eq_append]
    exact h pre u rest (List.append_singleton_inj.1 hd).1

theorem follows_of_next {done : List (Turn P ω)} {q q' : P} {s s' : Stage ω} {f : FrameState}
    (hs : s = stageAfter s₀ done)
    (h : FrameState.next copy delta (frameAfter input output done) (q, s) = .ok f (q', s')) :
    Follows copy delta input output s₀ done ⟨q, q', s, s'⟩ ∧
      f = frameAfter input output (done ++ [⟨q, q', s, s'⟩]) := by
  rcases FrameState.next_eq_ok h with ⟨he, rfl, rfl, rfl⟩ | ⟨he, drawn, hr, hc, rfl⟩
  · have ht : isRendered (⟨q', q', s', s'⟩ : Turn P ω) = false := he
    refine ⟨⟨hs, fun _ => ⟨rfl, rfl⟩, fun hr => ?_⟩, (frameAfter_of_passed ht).symm⟩
    exact absurd (ht.symm.trans hr) Bool.false_ne_true
  · have ht : isRendered (⟨q, q', s, s'⟩ : Turn P ω) = true := he
    refine ⟨⟨hs, fun hp => ?_, fun _ => ⟨drawn, hr, hc⟩⟩, (frameAfter_of_rendered ht rfl).symm⟩
    exact absurd (hp.symm.trans ht) Bool.false_ne_true

/-- The turns of a list of passes that end well. -/
theorem turns_of_foldEach {done : List (Turn P ω)} {qs qs' : List P} {s s' : Stage ω}
    {f : FrameState} (hd : AllFollow copy delta input output s₀ done) (hs : s = stageAfter s₀ done)
    (h : Act.foldEach (FrameState.next copy delta) (frameAfter input output done) (qs, s) =
      .ok f (qs', s')) :
    ∃ turns : List (Turn P ω), turns.map (·.before) = qs ∧ turns.map (·.after) = qs' ∧
      AllFollow copy delta input output s₀ (done ++ turns) ∧
      s' = stageAfter s₀ (done ++ turns) ∧ f = frameAfter input output (done ++ turns) := by
  induction qs generalizing done s qs' with
  | nil =>
    obtain ⟨rfl, rfl, rfl⟩ := Act.foldEach_nil_eq_ok.1 h
    refine ⟨[], rfl, rfl, ?_, ?_, ?_⟩ <;> rw [List.append_nil]
    · exact hd
    · exact hs
  | cons q qs ih =>
    obtain ⟨g, q', t, rs, hn, hr, rfl⟩ := Act.foldEach_cons_eq_ok.1 h
    obtain ⟨ht, rfl⟩ := follows_of_next hs hn
    have hd' := hd.append_singleton ht
    obtain ⟨turns, rfl, rfl, ha, hs', hf⟩ := ih hd' (stageAfter_append_singleton s₀ done _).symm hr
    rw [List.append_assoc] at ha hs' hf
    exact ⟨⟨q, q', s, t⟩ :: turns, rfl, rfl, ha, hs', hf⟩

end Run

end Turn

end ScreenEffects
