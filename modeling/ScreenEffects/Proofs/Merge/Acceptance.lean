import Mathlib.Order.Bounds.Basic
import ScreenEffects.Proofs.Merge.Ranked

/-!
# Lists of effects that can be merged

A list can be merged (`Mergeable`) if each active effect has one entry point, at most one of them
convolves, and none moves the coordinates if one convolves. This says nothing about the order in
which a merge looks at the effects; the merge finds it out on the way, from what it has taken so
far.

* `mergeable_append_singleton` : one more effect can be merged if the draft has nothing against it.
* `merge_eq_ok_iff` : the merge of a list that can be merged is the finished draft of it.
* `merge_accepts_and_blames` : the merge succeeds for these lists only, and else blames the first
  effect with which the list cannot be merged any more.
-/

namespace ScreenEffects

/-- A list of effects that can be merged. -/
structure Mergeable (effects : List Effect) : Prop where
  /-- An active effect shades the colour or moves the coordinates, and not both. -/
  oneEntry : ∀ e ∈ effects, e.isActive → e.symbols.hasMainImage ≠ e.symbols.hasMainUv
  /-- At most one active effect convolves. -/
  oneConvolution : (effects.filter fun e => e.isActive && e.attributes.convolution).length ≤ 1
  /-- No active effect moves the coordinates if one convolves, itself included. -/
  unmoved : (∃ e ∈ effects, e.isActive ∧ e.attributes.convolution) →
    ∀ e ∈ effects, e.isActive → ¬ e.symbols.hasMainUv

instance (effects : List Effect) : Decidable (Mergeable effects) :=
  decidable_of_iff
    ((∀ e ∈ effects, e.isActive → e.symbols.hasMainImage ≠ e.symbols.hasMainUv) ∧
      (effects.filter fun e => e.isActive && e.attributes.convolution).length ≤ 1 ∧
      ((∃ e ∈ effects, e.isActive ∧ e.attributes.convolution) →
        ∀ e ∈ effects, e.isActive → ¬ e.symbols.hasMainUv))
    ⟨fun ⟨h₁, h₂, h₃⟩ => ⟨h₁, h₂, h₃⟩, fun ⟨h₁, h₂, h₃⟩ => ⟨h₁, h₂, h₃⟩⟩

theorem mergeable_nil : Mergeable [] := ⟨by simp, by simp, by simp⟩

theorem Mergeable.sublist {effects sub : List Effect} (h : Mergeable effects)
    (hs : sub.Sublist effects) : Mergeable sub where
  oneEntry e he := h.oneEntry e (hs.subset he)
  oneConvolution := (hs.filter _).length_le.trans h.oneConvolution
  unmoved := fun ⟨e, he, ha⟩ f hf => h.unmoved ⟨e, hs.subset he, ha⟩ f (hs.subset hf)

/-- What is wrong with `e` after the effects `before`, if something is. -/
def conflictAfter (before : List Effect) (e : Effect) : MergeConflict :=
  if e.attributes.convolution ∧ ∃ b ∈ before, b.isActive ∧ b.attributes.convolution then
    .multipleConvolutions
  else if ¬ e.symbols.hasMainImage ∧ ¬ e.symbols.hasMainUv then .missingEntryPoint
  else if e.symbols.hasMainImage ∧ e.symbols.hasMainUv then .ambiguousEntryPoint
  else .uvTransformWithConvolution

/-- The fault blames the first effect with which the list cannot be merged any more. -/
structure BlamesFirst (effects : List Effect) (f : MergeFault) : Prop where
  least : IsLeast {i | ¬ Mergeable (effects.take (i + 1))} f.index
  culprit : ∃ e, effects[f.index]? = some e ∧ f.effect = e.name ∧
    f.conflict = conflictAfter (effects.take f.index) e

/-! ## The check of one effect -/

namespace Draft

theorem convolution_ofEffects (effects : List Effect) :
    (ofEffects effects).attributes.convolution = true ↔
      ∃ e ∈ effects, e.isActive ∧ e.attributes.convolution := by
  rw [ofEffects_eq_any (·.attributes.convolution) (·.attributes.convolution) rfl
    (fun _ _ _ => rfl) (fun d e => ?_)]
  · simp
  · simp [addSkipped, Attributes.union, Attributes.inter, Attributes.ofDepth]

theorem movesUv_ofEffects (effects : List Effect) :
    (ofEffects effects).movesUv = true ↔
      ∃ e ∈ effects, e.isActive ∧ e.symbols.hasMainUv := by
  rw [ofEffects_eq_any (·.movesUv) (·.symbols.hasMainUv) rfl (fun _ _ _ => rfl) fun _ _ => rfl]
  simp

/-- What the check of an effect asks for. -/
theorem conflict?_eq_none_iff (d : Draft) (e : Effect) :
    d.conflict? e = none ↔
      ¬ (d.attributes.convolution ∧ e.attributes.convolution) ∧
      e.symbols.hasMainImage ≠ e.symbols.hasMainUv ∧
      (d.attributes.convolution ∨ e.attributes.convolution → ¬ e.symbols.hasMainUv) ∧
      (e.attributes.convolution → ¬ d.movesUv) := by
  simp only [conflict?]
  cases d.attributes.convolution <;> cases e.attributes.convolution <;>
    cases e.symbols.hasMainImage <;> cases e.symbols.hasMainUv <;> cases d.movesUv <;> decide

theorem conflict?_ofEffects {before : List Effect} {e : Effect} {c : MergeConflict}
    (h : (ofEffects before).conflict? e = some c) : c = conflictAfter before e := by
  have hc := convolution_ofEffects before
  simp only [conflictAfter, ← hc]
  simp only [conflict?] at h
  revert h
  cases (ofEffects before).attributes.convolution <;> cases e.attributes.convolution <;>
    cases e.symbols.hasMainImage <;> cases e.symbols.hasMainUv <;>
    cases (ofEffects before).movesUv <;> simp +contextual [eq_comm]

end Draft

/-! ## One more effect -/

section Append

variable {before : List Effect} {e : Effect}

/-- The draft of a list has nothing against an active effect with which the list can be merged. -/
theorem Mergeable.conflict?_eq_none (h : Mergeable (before ++ [e])) (ha : e.isActive) :
    (Draft.ofEffects before).conflict? e = none := by
  have he : e ∈ before ++ [e] := by simp
  have hb {b : Effect} (hb : b ∈ before) : b ∈ before ++ [e] := List.mem_append_left _ hb
  rw [Draft.conflict?_eq_none_iff, Draft.convolution_ofEffects, Draft.movesUv_ofEffects]
  refine ⟨?_, h.oneEntry e he ha, ?_, ?_⟩
  · rintro ⟨⟨b, hm, hab, hbc⟩, hec⟩
    have bound := h.oneConvolution
    have mem : b ∈ before.filter fun e => e.isActive && e.attributes.convolution := by
      simp [hm, hab, hbc]
    have pos := List.length_pos_of_mem mem
    have last : [e].filter (fun e => e.isActive && e.attributes.convolution) = [e] := by
      simp [ha, hec]
    rw [List.filter_append, List.length_append, last, List.length_singleton] at bound
    omega
  · rintro (⟨b, hm, hbc⟩ | hec)
    · exact h.unmoved ⟨b, hb hm, hbc⟩ e he ha
    · exact h.unmoved ⟨e, he, ha, hec⟩ e he ha
  · rintro hec ⟨b, hm, hab, hu⟩
    exact h.unmoved ⟨e, he, ha, hec⟩ b (hb hm) hab hu

/-- An effect can join a list if it is skipped or the draft of the list has nothing against it. -/
theorem Mergeable.append_singleton (h : Mergeable before)
    (hj : e.isActive → (Draft.ofEffects before).conflict? e = none) :
    Mergeable (before ++ [e]) := by
  simp only [Draft.conflict?_eq_none_iff, Draft.convolution_ofEffects,
    Draft.movesUv_ofEffects] at hj
  refine ⟨fun f hf ha => ?_, ?_, fun ⟨c, hc, hac, hcc⟩ f hf ha hu => ?_⟩
  · rcases List.mem_append.1 hf with hf | hf
    · exact h.oneEntry f hf ha
    · obtain rfl := List.mem_singleton.1 hf
      exact (hj ha).2.1
  · rw [List.filter_append, List.length_append]
    by_cases hec : e.isActive && e.attributes.convolution
    · have absent : before.filter (fun e => e.isActive && e.attributes.convolution) = [] := by
        rw [List.filter_eq_nil_iff]
        intro b hm hbc
        simp only [Bool.and_eq_true] at hec hbc
        exact (hj hec.1).1 ⟨⟨b, hm, hbc⟩, hec.2⟩
      simp [absent, hec]
    · simpa [hec] using h.oneConvolution
  · -- whichever of the two effects is the new one, the draft knows the other
    rw [List.mem_append, List.mem_singleton] at hc hf
    rcases hf with hf | rfl
    · rcases hc with hc | rfl
      · exact h.unmoved ⟨c, hc, hac, hcc⟩ f hf ha hu
      · exact (hj hac).2.2.2 hcc ⟨f, hf, ha, hu⟩
    · rcases hc with hc | rfl
      · exact (hj ha).2.2.1 (.inl ⟨c, hc, hac, hcc⟩) hu
      · exact (hj ha).2.2.1 (.inr hcc) hu

end Append

/-- One more effect can be merged if it is skipped or the draft so far has nothing against it. -/
theorem mergeable_append_singleton (before : List Effect) (e : Effect) :
    Mergeable (before ++ [e]) ↔
      Mergeable before ∧ (e.isActive → (Draft.ofEffects before).conflict? e = none) := by
  constructor
  · intro h
    exact ⟨h.sublist (List.sublist_append_left _ _), h.conflict?_eq_none⟩
  · rintro ⟨h, hj⟩
    exact h.append_singleton hj

/-! ## The run over the list -/

theorem blamesFirst_of_conflict {before : List Effect} {e : Effect} (rest : List Effect)
    {c : MergeConflict} (h : Mergeable before) (ha : e.isActive)
    (hc : (Draft.ofEffects before).conflict? e = some c) :
    BlamesFirst (before ++ e :: rest) ⟨e.name, before.length, c⟩ where
  least := by
    have split : before ++ e :: rest = (before ++ [e]) ++ rest := by simp
    have length : (before ++ [e]).length = before.length + 1 := by simp
    constructor
    · show ¬ Mergeable _
      rw [split, ← length, List.take_left, mergeable_append_singleton]
      simp [ha, hc]
    · intro i hi
      by_contra hle
      have hlt : i < before.length := not_le.1 hle
      refine hi (h.sublist ?_)
      rw [List.take_append_of_le_length hlt]
      exact List.take_sublist _ _
  culprit := by
    refine ⟨e, by simp, rfl, ?_⟩
    rw [List.take_left]
    exact Draft.conflict?_ofEffects hc

namespace Draft

/-- From the draft of a list that can be merged, the run over the rest reaches the draft of the
whole, or blames the first effect that cannot join. -/
theorem takeAll_ofEffects {before : List Effect} (h : Mergeable before) (rest : List Effect) :
    (Mergeable (before ++ rest) ∧
        takeAll (ofEffects before) before.length rest = .ok (ofEffects (before ++ rest))) ∨
      ∃ f, takeAll (ofEffects before) before.length rest = .error f ∧
        BlamesFirst (before ++ rest) f := by
  induction rest generalizing before with
  | nil => simpa [takeAll] using h
  | cons e rest ih =>
    rw [takeAll, take_eq]
    cases hc : if e.isActive then (ofEffects before).conflict? e else none with
    | some c =>
      have ha : e.isActive := by
        by_contra ha
        simp [ha] at hc
      rw [if_pos ha] at hc
      exact .inr ⟨_, rfl, blamesFirst_of_conflict rest h ha hc⟩
    | none =>
      have joined : Mergeable (before ++ [e]) :=
        (mergeable_append_singleton before e).2 ⟨h, fun ha => by rwa [if_pos ha] at hc⟩
      have := ih joined
      rwa [ofEffects_append_singleton, List.length_append, List.append_assoc] at this

end Draft

theorem BlamesFirst.not_mergeable {effects : List Effect} {f : MergeFault}
    (h : BlamesFirst effects f) : ¬ Mergeable effects := fun hm =>
  h.least.1 (hm.sublist (List.take_sublist _ _))

/-- The run over a list that can be merged reaches the draft of it. -/
theorem Mergeable.takeAll_eq_ok {effects : List Effect} (h : Mergeable effects) :
    Draft.takeAll {} 0 effects = .ok (Draft.ofEffects effects) := by
  rcases Draft.takeAll_ofEffects mergeable_nil effects with ⟨-, run⟩ | ⟨f, -, hf⟩
  · exact run
  · exact absurd h hf.not_mergeable

/-- A list is merged if it can be, and its merge is the finished draft of it. -/
theorem merge_eq_ok_iff {effects : List Effect} {m : Merged} :
    merge effects = .ok m ↔ Mergeable effects ∧ m = (Draft.ofEffects effects).finish := by
  have run := Draft.takeAll_ofEffects mergeable_nil effects
  simp only [List.nil_append, List.length_nil, Draft.ofEffects_nil] at run
  rw [merge]
  rcases run with ⟨h, run⟩ | ⟨f, run, hf⟩
  · simp [run, h, Except.map, eq_comm]
  · simp [run, hf.not_mergeable, Except.map]

theorem exists_merge_eq_ok_iff {effects : List Effect} :
    (∃ m, merge effects = .ok m) ↔ Mergeable effects := by
  simp [merge_eq_ok_iff]

theorem blamesFirst_of_merge {effects : List Effect} {f : MergeFault}
    (h : merge effects = .error f) : BlamesFirst effects f := by
  have run := Draft.takeAll_ofEffects mergeable_nil effects
  simp only [List.nil_append, List.length_nil, Draft.ofEffects_nil] at run
  rw [merge] at h
  rcases run with ⟨-, run⟩ | ⟨g, run, hg⟩
  · simp [run, Except.map] at h
  · simp only [run, Except.map, Except.error.injEq] at h
    exact h ▸ hg

/-- The first effect of a list is checked against nothing but itself. -/
theorem merge_cons_eq_error {e : Effect} {c : MergeConflict} (ha : e.isActive = true)
    (hc : ({} : Draft).conflict? e = some c) (effects : List Effect) :
    merge (e :: effects) = .error ⟨e.name, 0, c⟩ := by
  rw [merge, Draft.takeAll, Draft.take, if_pos ha, hc]
  rfl

/-- **A merge accepts exactly the lists that can be merged**, with a list each part of it, and else
blames the first effect with which the list cannot be merged any more. -/
theorem merge_accepts_and_blames (effects : List Effect) :
    ((∃ m, merge effects = .ok m) ↔ Mergeable effects) ∧
      (∀ f, merge effects = .error f → BlamesFirst effects f) ∧
      ∀ sub : List Effect, sub.Sublist effects →
        (∃ m, merge effects = .ok m) → ∃ m, merge sub = .ok m := by
  refine ⟨exists_merge_eq_ok_iff, fun f h => blamesFirst_of_merge h, fun sub hs h => ?_⟩
  rw [exists_merge_eq_ok_iff] at h ⊢
  exact h.sublist hs

/-- An effect that has the entry point `entry` and does nothing. -/
def Effect.ofEntry (name entry : String) (blend : BlendMode) (attributes : Attributes) : Effect :=
  { name, fragment := "void " ++ entry ++ "(inout vec2 uv) \x7b\x7d", blend, attributes }

/-- A convolution cannot follow an effect that moves the coordinates; without the convolution, or
with the effect before it left out, the list is merged. -/
theorem merge_blames_convolution_over_shift :
    let shift (f : BlendFunction) := Effect.ofEntry "shift" "mainUv" ⟨f, ⟨0⟩⟩ .none
    let blur := Effect.ofEntry "blur" "mainImage" ⟨.normal, ⟨1⟩⟩ .ofConvolution
    let fault : MergeFault := ⟨"blur", 1, .uvTransformWithConvolution⟩
    merge [shift .normal, blur] = .error fault ∧ BlamesFirst [shift .normal, blur] fault ∧
      [blur].Sublist [shift .skip, blur] ∧ (∃ m, merge [shift .skip, blur] = .ok m) ∧
      ∃ m, merge [blur] = .ok m := by
  intro shift blur fault
  have found : (match merge [shift .normal, blur] with
      | .error f => some f
      | .ok _ => none) = some fault := by
    decide +kernel
  have refused : merge [shift .normal, blur] = .error fault := by
    cases h : merge [shift .normal, blur] with
    | ok m =>
      rw [h] at found
      cases found
    | error f =>
      rw [h] at found
      exact congrArg _ (Option.some.inj found)
  have sub : [blur].Sublist [shift .skip, blur] := List.sublist_cons_self _ _
  have accepted := (merge_accepts_and_blames [shift .skip, blur]).1.2 (by decide +kernel)
  exact ⟨refused, (merge_accepts_and_blames _).2.1 fault refused, sub, accepted,
    (merge_accepts_and_blames _).2.2 [blur] sub accepted⟩

end ScreenEffects
