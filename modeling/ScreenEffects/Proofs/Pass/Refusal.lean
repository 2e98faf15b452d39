import ScreenEffects.Proofs.Pass.Coherence

/-!
# Refused changes

A pass of effects refuses a change of its list if the new list cannot be merged, and a frame if an
edit broke the list before it. What is refused leaves no trace: the pass is what it was, with the
program it had, and a refused frame has touched nothing on the stage. An edit that broke the list is
still there, so that other changes are refused too until it is mended.

* `setEffects_eq_error_iff`, `addEffect_eq_error_iff`, `removeEffect_eq_error_iff` and
  `recompile_eq_error_iff` : when a change is refused, with which fault, and what is left.
* `perform_of_isRefused` is the step, `run_accepted` the run: refused operations can be left out.
-/

namespace ScreenEffects.EffectPass

variable {H ω : Type} {p q : EffectPass H} {e : Fault}

/-! ## Changes of the list -/

theorem changeEffects_eq_error_iff {effects : List (Hosted H)} :
    changeEffects effects p = .error e q ↔ mergeHosted effects = .error e ∧ q = p := by
  unfold changeEffects
  cases mergeHosted effects with
  | ok m => simp
  | error f => simp [eq_comm]

theorem setEffects_eq_error_iff {effects : List (Hosted H)} :
    setEffects effects p = .error e q ↔ mergeHosted effects = .error e ∧ q = p := by
  unfold setEffects
  rw [Act.get_bind_apply, Act.bind_pure_eq_error, changeEffects_eq_error_iff]

theorem addEffect_eq_error_iff {effect : Hosted H} :
    addEffect effect p = .error e q ↔ mergeHosted (p.effects ++ [effect]) = .error e ∧ q = p := by
  rw [addEffect_apply, changeEffects_eq_error_iff]

theorem removeEffect_eq_error_iff {index : Nat} :
    removeEffect index p = .error e q ↔
      (p.effects.length ≤ index ∧ e = .noSuchPlace index p.effects.length ∨
        index < p.effects.length ∧ mergeHosted (p.effects.eraseIdx index) = .error e) ∧ q = p := by
  rw [removeEffect_apply]
  rcases Nat.lt_or_ge index p.effects.length with hi | hi
  · have absent : ¬ p.effects.length ≤ index := Nat.not_le.2 hi
    rw [List.getElem?_eq_getElem hi]
    simp only [Act.bind_pure_eq_error, changeEffects_eq_error_iff, absent, hi, false_and, true_and,
      false_or]
  · have absent : ¬ index < p.effects.length := Nat.not_lt.2 hi
    rw [List.getElem?_eq_none hi]
    simp only [EStateM.Result.error.injEq, absent, hi, false_and, true_and, or_false, eq_comm]

theorem recompile_eq_error_iff :
    recompile p = .error e q ↔ (p.isDirty = true ∧ mergeHosted p.effects = .error e) ∧ q = p := by
  unfold recompile
  rw [Act.get_bind_apply]
  by_cases hd : p.isDirty
  · rw [if_pos hd, changeEffects_eq_error_iff]
    simp only [hd, true_and]
  · rw [if_neg hd]
    simp only [hd, Act.pure_ne_error, Bool.false_eq_true, false_and]

section Hooks

variable [EffectHooks H ω]

/-- A frame that begins with a refused merge ends with it. -/
theorem render_of_recompile_eq_error (h : recompile p = .error e q) (input output : Surface)
    (delta : Float32) (s : Stage ω) :
    render input output delta (p, s) = .error e (q, s) :=
  Act.bind_eq_error.2 (.inl (Act.onFirst_of_error h s))

/-- What the pass `p` refuses on the stage `s` is refused as a whole. -/
structure RefusesWhole (p : EffectPass H) (s : Stage ω) : Prop where
  set : ∀ effects e q,
    setEffects effects p = .error e q ↔ mergeHosted effects = .error e ∧ q = p
  add : ∀ effect e q,
    addEffect effect p = .error e q ↔ mergeHosted (p.effects ++ [effect]) = .error e ∧ q = p
  remove : ∀ index e q, removeEffect index p = .error e q ↔
    (p.effects.length ≤ index ∧ e = .noSuchPlace index p.effects.length ∨
      index < p.effects.length ∧ mergeHosted (p.effects.eraseIdx index) = .error e) ∧ q = p
  recompile : ∀ e q, recompile p = .error e q ↔
    (p.isDirty = true ∧ mergeHosted p.effects = .error e) ∧ q = p
  /-- The device, the uniforms and the host are what they were, and so are the hooks. -/
  render : ∀ input output delta e q, EffectPass.recompile p = .error e q →
    render input output delta (p, s) = .error e (p, s)

theorem refusesWhole (p : EffectPass H) (s : Stage ω) : RefusesWhole p s where
  set _ _ _ := setEffects_eq_error_iff
  add _ _ _ := addEffect_eq_error_iff
  remove _ _ _ := removeEffect_eq_error_iff
  recompile _ _ := recompile_eq_error_iff
  render input output delta e q h := by
    obtain rfl : q = p := (recompile_eq_error_iff.1 h).2
    exact render_of_recompile_eq_error h input output delta s

/-! ## Runs -/

/-- The operation is refused on the state `x`: it is a change of the list or a merge that fails, or
a frame that begins with such a merge. -/
def Op.isRefused (x : EffectPass H × Stage ω) : Op H ω → Bool
  | .setEffects effects => (EffectPass.setEffects effects).fails x.1
  | .addEffect effect => (EffectPass.addEffect effect).fails x.1
  | .removeEffect index => (EffectPass.removeEffect index).fails x.1
  | .recompile | .render _ _ _ => EffectPass.recompile.fails x.1
  | _ => false

/-- The operations that are not refused when their turn comes. -/
def accepted : List (Op H ω) → EffectPass H × Stage ω → List (Op H ω)
  | [], _ => []
  | op :: ops, x =>
    if op.isRefused x then accepted ops x else op :: accepted ops (op.perform.after x)

theorem perform_of_isRefused {x : EffectPass H × Stage ω} {op : Op H ω}
    (h : op.isRefused x = true) : ∃ e, op.perform x = .error e x := by
  obtain ⟨p, s⟩ := x
  have whole := refusesWhole p s
  cases op with
  | setEffects effects =>
    obtain ⟨e, q, hf⟩ := Act.exists_of_fails h
    obtain rfl := ((whole.set effects e q).1 hf).2
    exact ⟨e, Act.bind_eq_error.2 (.inl (Act.onFirst_of_error hf s))⟩
  | addEffect effect =>
    obtain ⟨e, q, hf⟩ := Act.exists_of_fails h
    obtain rfl := ((whole.add effect e q).1 hf).2
    exact ⟨e, Act.onFirst_of_error hf s⟩
  | removeEffect index =>
    obtain ⟨e, q, hf⟩ := Act.exists_of_fails h
    obtain rfl := ((whole.remove index e q).1 hf).2
    exact ⟨e, Act.bind_eq_error.2 (.inl (Act.onFirst_of_error hf s))⟩
  | recompile =>
    obtain ⟨e, q, hf⟩ := Act.exists_of_fails h
    obtain rfl := ((whole.recompile e q).1 hf).2
    exact ⟨e, Act.onFirst_of_error hf s⟩
  | render input output delta =>
    obtain ⟨e, q, hf⟩ := Act.exists_of_fails h
    exact ⟨e, whole.render input output delta e q hf⟩
  | _ => cases h

/-- A run reaches what its accepted operations alone reach. -/
theorem run_accepted (ops : List (Op H ω)) (x : EffectPass H × Stage ω) :
    run (accepted ops x) x = run ops x := by
  induction ops generalizing x with
  | nil => rfl
  | cons op ops ih =>
    unfold accepted
    split
    · rename_i refused
      obtain ⟨e, he⟩ := perform_of_isRefused refused
      have still : op.perform.after x = x := by
        unfold Act.after
        rw [he]
      rw [ih, run, still]
    · exact ih (op.perform.after x)

/-- **Refused changes leave no trace.** Wherever a run has led a pass, a change of its list that
fails leaves it exactly as it was, and a frame that fails in its merge leaves the stage as it was
too. So the refused operations of a run can be left out. -/
theorem refused_changes_leave_no_trace (ops : List (Op H ω)) (x : EffectPass H × Stage ω) :
    RefusesWhole (run ops x).1 (run ops x).2 ∧ run (accepted ops x) x = run ops x :=
  ⟨refusesWhole _ _, run_accepted ops x⟩

end Hooks

/-- A broken edit of one effect blocks the removal of another, and the frames. -/
theorem broken_edit_blocks_removal :
    let glow : Hosted ProbeHooks :=
      { effect := Effect.ofEntry "glow" "mainImage" ⟨.normal, ⟨0⟩⟩ .none
        hooks := some (.noting "glow" none none) }
    let s : Stage ProbeLog := { uniforms := ⟨#[.float 1]⟩, host := #[], device := .ofSize 64 32 }
    let surface (id : Nat) : Surface :=
      { id := ⟨id⟩, label := "surface", width := 64, height := 32, color := ⟨id + 1⟩,
        depthBuffer := false, stencilBuffer := false }
    let fault : Fault := .merge ⟨"glow", 0, .missingEntryPoint⟩
    ∃ p t, create none [glow, glow] {} s.uniforms = .ok (p, t) ∧
      let x := run [.editEffect 0 (.setFragment "")] (p, { s with uniforms := t })
      removeEffect 1 x.1 = .error fault x.1 ∧
        render (surface 1) (surface 3) 1 x = .error fault x := by
  intro glow s surface fault
  let broken := glow.setFragment ""
  obtain ⟨m, hm⟩ : ∃ m, merge [glow.effect, glow.effect] = .ok m :=
    exists_merge_eq_ok_iff.2 (by decide +kernel)
  have hg : mergeHosted [glow, glow] = .ok m := mergeHosted_eq_ok_iff.2 hm
  obtain ⟨p, t, hp, he⟩ : ∃ p t, create none [glow, glow] {} s.uniforms = .ok (p, t) ∧
      p.effects = [glow, glow] := by
    unfold create
    rw [hg]
    exact ⟨_, _, rfl, rfl⟩
  refine ⟨p, t, hp, ?_⟩
  intro x
  have effects : x.1.effects = [broken, glow] := by
    change p.effects.modify 0 (·.setFragment "") = _
    rw [he]
    rfl
  have dirty : x.1.isDirty = true := by
    unfold isDirty
    rw [effects]
    exact Bool.or_true _
  have refused (others : List (Hosted ProbeHooks)) :
      mergeHosted (broken :: others) = .error fault := by
    unfold mergeHosted
    rw [List.map_cons, merge_cons_eq_error (c := .missingEntryPoint) rfl (by decide +kernel)]
    rfl
  have whole : RefusesWhole x.1 x.2 := (refused_changes_leave_no_trace _ _).1
  constructor
  · refine (whole.remove 1 fault _).2 ⟨.inr ?_, rfl⟩
    rw [effects]
    exact ⟨Nat.lt_add_one 1, refused []⟩
  · refine whole.render _ _ _ fault x.1 ((whole.recompile fault x.1).2 ⟨⟨dirty, ?_⟩, rfl⟩)
    rw [effects]
    exact refused [glow]

end ScreenEffects.EffectPass
