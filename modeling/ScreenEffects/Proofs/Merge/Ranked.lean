import Mathlib.Data.List.Induction
import ScreenEffects.Merge.Basic

/-!
# The draft of a list of effects

A merge takes the effects one after the other and stops at the first conflict. What it has in hand
after a list without conflict depends on the list alone: it is the draft `Draft.ofEffects`, which
takes every effect, whatever there is against it. The active effects, each with its rank, are the
list `ranked`, and a part of the draft that only active effects change is a fold over that list.

* `ofEffects_append_singleton` : one more effect is absorbed at the end.
* `ofEffects_eq_foldl` : a part of the draft is the fold of its step over the ranked effects.
* `take_eq` : to take an effect is to check it and to absorb it.
-/

namespace ScreenEffects

open Glsl

/-- The active effects in order, each with its rank among them. -/
def ranked (effects : List Effect) : List (Effect × Nat) :=
  (effects.filter (·.isActive)).zipIdx

theorem ranked_append_singleton (effects : List Effect) (e : Effect) :
    ranked (effects ++ [e]) = ranked effects ++
      if e.isActive then [(e, (effects.filter (·.isActive)).length)] else [] := by
  rw [ranked, List.filter_append, List.zipIdx_append, ranked]
  cases h : e.isActive <;> simp [h]

theorem mem_ranked_iff {effects : List Effect} {e : Effect} {k : Nat} :
    (e, k) ∈ ranked effects ↔ (effects.filter (·.isActive))[k]? = some e :=
  List.mem_zipIdx_iff_getElem?

theorem exists_mem_ranked_iff {effects : List Effect} {e : Effect} :
    (∃ k, (e, k) ∈ ranked effects) ↔ e ∈ effects ∧ e.isActive := by
  simp only [mem_ranked_iff, ← List.mem_iff_getElem?, List.mem_filter]

/-- The ranks rise along the list. -/
theorem pairwise_ranked (effects : List Effect) :
    (ranked effects).Pairwise fun x y => x.2 < y.2 := by
  rw [ranked, ← List.pairwise_map, List.zipIdx_map_snd]
  exact List.pairwise_lt_range'

theorem exists_ranked_iff {effects : List Effect} {p : Effect → Prop} :
    (∃ x ∈ ranked effects, p x.1) ↔ ∃ e ∈ effects, e.isActive ∧ p e := by
  constructor
  · rintro ⟨⟨e, k⟩, hk, hp⟩
    obtain ⟨hm, ha⟩ := exists_mem_ranked_iff.1 ⟨k, hk⟩
    exact ⟨e, hm, ha, hp⟩
  · rintro ⟨e, hm, ha, hp⟩
    obtain ⟨k, hk⟩ := exists_mem_ranked_iff.2 ⟨hm, ha⟩
    exact ⟨(e, k), hk, hp⟩

theorem any_ranked (effects : List Effect) (p : Effect → Bool) :
    ((ranked effects).any fun (e, _) => p e) = effects.any fun e => e.isActive && p e := by
  rw [Bool.eq_iff_iff, List.any_eq_true, List.any_eq_true]
  simp only [Bool.and_eq_true]
  exact exists_ranked_iff (p := fun e => p e = true)

namespace Draft

/-- The draft with the effect at place `index`, whatever there is against it. -/
def absorb (d : Draft) (index : Nat) (e : Effect) : Draft :=
  if e.isActive then d.add index e else d.addSkipped e

/-- The draft of a list of effects, whatever there is against them. -/
def ofEffects (effects : List Effect) : Draft :=
  effects.zipIdx.foldl (fun d (e, index) => d.absorb index e) {}

theorem ofEffects_nil : ofEffects [] = {} := rfl

theorem ofEffects_append_singleton (effects : List Effect) (e : Effect) :
    ofEffects (effects ++ [e]) = (ofEffects effects).absorb effects.length e := by
  rw [ofEffects, List.zipIdx_append, List.foldl_append, ← ofEffects]
  simp

/-- To take an effect is to check it, if it is active, and to absorb it. -/
theorem take_eq (d : Draft) (index : Nat) (e : Effect) :
    d.take index e =
      match if e.isActive then d.conflict? e else none with
      | some conflict => .error ⟨e.name, index, conflict⟩
      | none => .ok (d.absorb index e) := by
  rw [take, absorb]
  cases e.isActive <;> rfl

theorem rank_ofEffects (effects : List Effect) :
    (ofEffects effects).rank = (effects.filter (·.isActive)).length := by
  induction effects using List.reverseRecOn with
  | nil => rfl
  | append_singleton effects e ih =>
    rw [ofEffects_append_singleton, absorb]
    rw [rank] at ih ⊢
    cases h : e.isActive
    · simpa [addSkipped, h] using ih
    · simpa [add, h] using ih

/-- A part of the draft that only active effects change is the fold of its step over them. -/
theorem ofEffects_eq_foldl {α : Type} (f : Draft → α) (step : α → Effect × Nat → α)
    (hadd : ∀ d index e, f (d.add index e) = step (f d) (e, d.rank))
    (hskip : ∀ d e, f (d.addSkipped e) = f d) (effects : List Effect) :
    f (ofEffects effects) = (ranked effects).foldl step (f {}) := by
  induction effects using List.reverseRecOn with
  | nil => rfl
  | append_singleton effects e ih =>
    rw [ofEffects_append_singleton, absorb, ranked_append_singleton, List.foldl_append, ← ih]
    cases h : e.isActive
    · simp [hskip]
    · simp [hadd, rank_ofEffects]

/-- A text to which each active effect appends is the texts of the contributions in order. -/
theorem ofEffects_eq_join (f : Draft → String) (text : Contribution → String) (h0 : f {} = "")
    (hadd : ∀ d index e, f (d.add index e) = f d ++ text (.of d.rank e))
    (hskip : ∀ d e, f (d.addSkipped e) = f d) (effects : List Effect) :
    f (ofEffects effects) =
      String.join ((ranked effects).map fun (e, k) => text (.of k e)) := by
  rw [ofEffects_eq_foldl f (fun s (e, k) => s ++ text (.of k e)) hadd hskip, h0,
    String.join_eq_foldl, List.foldl_map]

/-- A flag that an active effect may raise is up if one of them raises it. -/
theorem ofEffects_eq_any (f : Draft → Bool) (p : Effect → Bool) (h0 : f {} = false)
    (hadd : ∀ d index e, f (d.add index e) = (f d || p e))
    (hskip : ∀ d e, f (d.addSkipped e) = f d) (effects : List Effect) :
    f (ofEffects effects) = effects.any fun e => e.isActive && p e := by
  induction effects using List.reverseRecOn with
  | nil => exact h0
  | append_singleton effects e ih =>
    rw [ofEffects_append_singleton, absorb, List.any_append, ← ih]
    cases h : e.isActive
    · simp [hskip, h]
    · simp [hadd, h]

/-- The draft needs the depth if any effect does, a skipped one included. -/
theorem depth_ofEffects (effects : List Effect) :
    (ofEffects effects).attributes.depth = effects.any (·.attributes.depth) := by
  induction effects using List.reverseRecOn with
  | nil => rfl
  | append_singleton effects e ih =>
    rw [ofEffects_append_singleton, absorb, List.any_append, ← ih]
    cases e.isActive
    · simp [addSkipped, Attributes.union, Attributes.inter, Attributes.ofDepth]
    · simp [add, Attributes.union]

end Draft

end ScreenEffects
