import Mathlib.Data.List.Infix
import ScreenEffects.Proofs.Selection.Masks

/-!
# Selections on layer 0

Layer 0 is the one on which objects start, and a selection may use it like any other. It takes an
object off its layer when it lets the object go, so on layer 0 it takes objects off a layer on which
they were before they were selected. This is all that hides an object: one that is not selected is
off layer 0 exactly if it was once selected while the selection was on layer 0.

* `Change.spares` : what one change does to layer 0.
* `default_layer_kept_iff` : when layer 0 is kept over a run.
-/

namespace ScreenEffects.Selection

variable {s s' : Selection} {d d' : Device}

/-! ## Layer 0 -/

/-- The object is selected, and the selection is on the layer on which objects start. -/
def OnDefault (s : Selection) (o : SceneObject) : Prop := o ∈ s ∧ s.layer = 0

instance (s : Selection) (o : SceneObject) : Decidable (s.OnDefault o) :=
  inferInstanceAs (Decidable (_ ∧ _))

theorem not_onDefault_iff {o : SceneObject} (h : o ∈ s) : ¬ s.OnDefault o ↔ s.layer ≠ 0 :=
  not_congr (and_iff_right h)

theorem not_onDefault {o : SceneObject} (h : o ∉ s) : ¬ s.OnDefault o := fun on => h on.1

/-- What a step does to layer 0 of the objects that are not selected on it afterwards: it takes off
those that were selected on it before, and no other. -/
def Spares (y z : Selection × Device) : Prop :=
  ∀ o, ¬ z.1.OnDefault o →
    (z.2.layerMask o &&& 1 = 1 ↔ y.2.layerMask o &&& 1 = 1 ∧ ¬ y.1.OnDefault o)

theorem Spares.trans {x y z : Selection × Device} (xy : Spares x y) (yz : Spares y z)
    (stay : ∀ o, y.1.OnDefault o → z.1.OnDefault o) : Spares x z := by
  intro o off
  have off' : ¬ y.1.OnDefault o := fun on => off (stay o on)
  rw [yz o off, and_iff_left off', xy o off']

theorem Change.spares (lt : s.layer.toNat < layerCount) (change : Change (s, d) (s', d')) :
    Spares (s, d) (s', d') := by
  intro x off
  cases change with
  | @select _ _ o absent =>
    have before : ¬ s.OnDefault x := fun on => off ⟨mem_select.2 (.inr on.1), on.2⟩
    rw [layerMask_select, and_iff_left before]
    split
    · rename_i same
      have ne : s.layer ≠ 0 := fun zero => off ⟨mem_select.2 (.inl same.1), zero⟩
      rw [or_layerBit_and_one lt ne]
    · rfl
  | @deselect _ _ o present =>
    rw [layerMask_deselect]
    by_cases same : x = o
    · subst same
      rw [if_pos rfl, and_not_layerBit_and_one_iff lt, not_onDefault_iff present]
    · have before : ¬ s.OnDefault x := fun on => off ⟨mem_deselect.2 ⟨same, on.1⟩, on.2⟩
      rw [if_neg same, and_iff_left before]
  | clear =>
    rw [layerMask_disableAll]
    by_cases present : x ∈ s
    · rw [if_pos present, and_not_layerBit_and_one_iff lt, not_onDefault_iff present]
    · rw [if_neg present, and_iff_left (not_onDefault present)]
  | switchOn =>
    rw [layerMask_enableAll]
    by_cases present : x ∈ s
    · have ne : s.layer ≠ 0 := (not_onDefault_iff present).1 off
      rw [if_pos present, or_layerBit_and_one lt ne, not_onDefault_iff present, and_iff_left ne]
    · rw [if_neg present, and_iff_left (not_onDefault present)]
  | switchOff =>
    rw [layerMask_disableAll]
    by_cases present : x ∈ s
    · rw [if_pos present, and_not_layerBit_and_one_iff lt, not_onDefault_iff present]
    · rw [if_neg present, and_iff_left (not_onDefault present)]
  | @move _ _ layer lt' other =>
    rw [layerMask_moveAll]
    by_cases present : x ∈ s
    · have ne : layer ≠ 0 := fun zero => off ⟨present, zero⟩
      rw [if_pos present, not_onDefault_iff present, ← and_not_layerBit_and_one_iff lt]
      split
      · rw [or_layerBit_and_one lt' ne]
      · rfl
    · rw [if_neg present, and_iff_left (not_onDefault present)]

/-- Every edit takes off layer 0 the objects that were selected on it and are no longer. -/
theorem spares_apply (edit : Edit) {y : Selection × Device} (lt : y.1.layer.toNat < layerCount) :
    Spares y (edit.apply y) := by
  obtain ⟨s, d⟩ := y
  rcases edit.apply_cases (s, d) with idle | change | ⟨os, replaced⟩
  · rw [idle]
    exact fun o off => (and_iff_left off).symm
  · exact change.spares lt
  · rw [replaced]
    have cleared : Spares (s, d) (s.clear d) := Change.clear.spares lt
    -- what is selected one after the other stays selected
    refine (addAll_induction (P := fun y => Spares (s, d) y ∧ y.1.layer.toNat < layerCount)
      ⟨cleared, lt⟩ (fun y o ⟨spares, lt⟩ absent => ?_) os).1
    have layer : (y.1.add o y.2).1.layer = y.1.layer := congrArg Plain.layer (plain_add y.1 o y.2)
    refine ⟨spares.trans ((change_add absent y.2).spares lt) fun x on => ?_, layer ▸ lt⟩
    rw [add_of_notMem absent]
    exact ⟨mem_select.2 (.inr on.1), on.2⟩

theorem layer_lt_run (edits : List Edit) {y : Selection × Device}
    (h : y.1.layer.toNat < layerCount) : (run edits y).1.layer.toNat < layerCount := by
  induction edits generalizing y with
  | nil => exact h
  | cons edit edits ih => exact ih (layer_lt_apply edit h)

theorem run_append_singleton (edits : List Edit) (edit : Edit) (y : Selection × Device) :
    run (edits ++ [edit]) y = edit.apply (run edits y) := by
  rw [run, List.foldl_append]
  rfl

/-- **What takes an object off layer 0.** After any edits of a new selection over a device without
layers, an object that is not selected is on layer 0 exactly if at no moment it was selected while
the selection was on layer 0. -/
theorem default_layer_kept_iff (made : IsNew s) (fresh : d.layers = ∅) (edits : List Edit)
    {o : SceneObject} (gone : o ∉ (run edits (s, d)).1) :
    (run edits (s, d)).2.layerMask o &&& 1 = 1 ↔
      ∀ before, before <+: edits → ¬ (run before (s, d)).1.OnDefault o := by
  have kept : ¬ (run edits (s, d)).1.OnDefault o →
      ((run edits (s, d)).2.layerMask o &&& 1 = 1 ↔
        ∀ before, before <+: edits → ¬ (run before (s, d)).1.OnDefault o) := by
    clear gone
    induction edits using List.reverseRecOn with
    | nil =>
      refine fun _ => iff_of_true ?_ fun before h => ?_
      · rw [run, List.foldl_nil, Device.layerMask_of_layers fresh]
        decide
      · rw [List.prefix_nil.1 h]
        exact not_onDefault (made.notMem o)
    | append_singleton edits edit ih =>
      intro off
      simp only [List.prefix_concat_iff, forall_eq_or_imp, and_iff_right off]
      rw [run_append_singleton] at off ⊢
      have lt : (run edits (s, d)).1.layer.toNat < layerCount := layer_lt_run edits made.eq.2
      rw [spares_apply edit lt o off]
      by_cases on : (run edits (s, d)).1.OnDefault o
      · exact iff_of_false (fun h => h.2 on) fun h => h edits List.prefix_rfl on
      · rw [and_iff_left on, ih on]
  exact kept (not_onDefault gone)

/-- A selection that comes to layer 0 and goes again, with an object that it let go before, one that
it lets go there, and one that it takes along to another layer. -/
theorem default_layer_kept_and_lost :
    let edits : List Edit := [.add ⟨1⟩, .add ⟨2⟩, .delete ⟨1⟩, .add ⟨3⟩, .setLayer 0, .toggle ⟨2⟩,
      .setLayer 5, .delete ⟨3⟩]
    let start : Selection := { layer := 4 }
    let d := Device.ofSize 8 8
    start.IsNew ∧ d.layers = ∅ ∧
      (⟨1⟩ ∉ (run edits (start, d)).1 ∧ (run edits (start, d)).2.layerMask ⟨1⟩ &&& 1 = 1 ∧
        ∀ before, before <+: edits → ¬ (run before (start, d)).1.OnDefault ⟨1⟩) ∧
      ⟨2⟩ ∉ (run edits (start, d)).1 ∧ ¬ (run edits (start, d)).2.layerMask ⟨2⟩ &&& 1 = 1 ∧
      ⟨3⟩ ∉ (run edits (start, d)).1 ∧ ¬ (run edits (start, d)).2.layerMask ⟨3⟩ &&& 1 = 1 := by
  intro edits start d
  have made : start.IsNew := .inr ⟨4, rfl⟩
  have gone : ∀ n ∈ [1, 2, 3], ⟨n⟩ ∉ (run edits (start, d)).1 := by decide +kernel
  have kept (n : Nat) (h : n ∈ [1, 2, 3]) := default_layer_kept_iff made rfl edits (gone n h)
  have on : (run edits (start, d)).2.layerMask ⟨1⟩ &&& 1 = 1 := by decide +kernel
  have moment : edits.take 5 <+: edits := List.take_prefix 5 edits
  refine ⟨made, rfl, ⟨gone 1 (by decide), on, (kept 1 (by decide)).1 on⟩, gone 2 (by decide),
    fun h => ?_, gone 3 (by decide), fun h => ?_⟩
  · exact (kept 2 (by decide)).1 h _ moment (by decide +kernel)
  · exact (kept 3 (by decide)).1 h _ moment (by decide +kernel)

/-- Layer 0 is accepted, and a selection on it hides the object that it lets go. -/
theorem deselecting_hides :
    let edits : List Edit := [.add ⟨1⟩, .delete ⟨1⟩]
    let d := Device.ofSize 8 8
    ofLayer 0 = .ok { layer := 0 } ∧ d.layers = ∅ ∧ d.layerMask ⟨1⟩ = 1 ∧
      ⟨1⟩ ∉ (run edits ({ layer := 0 }, d)).1 ∧
      (run edits ({ layer := 0 }, d)).2.layerMask ⟨1⟩ &&& 1 = 0 :=
  ⟨rfl, rfl, by decide, by decide +kernel, by decide +kernel⟩

end ScreenEffects.Selection
