import Mathlib.Data.List.Forall2
import ScreenEffects.Proofs.Merge.Sections

/-!
# Skipped effects

An effect that is blended by `skip` leaves no trace in a merge but its need for depth. To leave such
effects out of a list changes the places of the others, and nothing else: the list is merged or
refused as before, the program is the same, and if an effect is blamed, it is the same one.

* `body_ofEffects_filter` : the draft is the same, apart from places and needs.
* `BlamesFirst.filter` : the fault is the same, apart from the place.
* `merge_agrees_without_skipped` : both for a merge.
-/

namespace ScreenEffects

open Glsl

variable {effects : List Effect} {e : Effect}

/-- The effect at place `i` of the list is active, and it is the one of rank `k`. -/
def StandsAt (effects : List Effect) (k i : Nat) : Prop :=
  (∃ e, effects[i]? = some e ∧ e.isActive) ∧ ((effects.take i).filter (·.isActive)).length = k

theorem standsAt_append {k i : Nat} (h : StandsAt effects k i) (more : List Effect) :
    StandsAt (effects ++ more) k i := by
  obtain ⟨⟨e, he, ha⟩, hk⟩ := h
  have hi : i < effects.length := (List.getElem?_eq_some_iff.1 he).1
  refine ⟨⟨e, ?_, ha⟩, ?_⟩
  · rw [List.getElem?_append_left hi, he]
  · rw [List.take_append_of_le_length (Nat.le_of_lt hi), hk]

theorem standsAt_length (ha : e.isActive) (rest : List Effect) :
    StandsAt (effects ++ e :: rest) (effects.filter (·.isActive)).length effects.length := by
  refine ⟨⟨e, ?_, ha⟩, ?_⟩
  · simp
  · rw [List.take_left]

/-! ## Lists that can be merged -/

theorem ranked_filter (effects : List Effect) :
    ranked (effects.filter (·.isActive)) = ranked effects := by
  simp [ranked]

theorem mergeable_filter : Mergeable (effects.filter (·.isActive)) ↔ Mergeable effects := by
  refine ⟨fun h => ?_, fun h => h.sublist List.filter_sublist⟩
  have mem {e : Effect} (he : e ∈ effects) (ha : e.isActive) :
      e ∈ effects.filter (·.isActive) := List.mem_filter.2 ⟨he, ha⟩
  constructor
  · exact fun e he ha => h.oneEntry e (mem he ha) ha
  · have same : (effects.filter (·.isActive)).filter
        (fun e => e.isActive && e.attributes.convolution) =
        effects.filter fun e => e.isActive && e.attributes.convolution := by
      rw [List.filter_filter]
      congr 1
      funext e
      cases e.isActive <;> simp
    exact same ▸ h.oneConvolution
  · rintro ⟨c, hc, hac, hcc⟩ e he ha
    exact h.unmoved ⟨c, mem hc hac, hac, hcc⟩ e (mem he ha) ha

theorem conflictAfter_filter (before : List Effect) (e : Effect) :
    conflictAfter (before.filter (·.isActive)) e = conflictAfter before e := by
  have known : (∃ b ∈ before.filter (·.isActive), b.isActive ∧ b.attributes.convolution) ↔
      ∃ b ∈ before, b.isActive ∧ b.attributes.convolution := by
    constructor
    · exact fun ⟨b, hb, h⟩ => ⟨b, (List.mem_filter.1 hb).1, h⟩
    · exact fun ⟨b, hb, h⟩ => ⟨b, List.mem_filter.2 ⟨hb, h.1⟩, h⟩
  simp only [conflictAfter, known]

/-! ## Blame -/

theorem BlamesFirst.mergeable_take {f : MergeFault} (h : BlamesFirst effects f) :
    Mergeable (effects.take f.index) := by
  cases hi : f.index with
  | zero => exact mergeable_nil
  | succ i =>
    by_contra hn
    have := h.least.2 hn
    omega

theorem BlamesFirst.unique {f g : MergeFault} (hf : BlamesFirst effects f)
    (hg : BlamesFirst effects g) : f = g := by
  have place : f.index = g.index := hf.least.unique hg.least
  obtain ⟨e, he, name, conflict⟩ := hf.culprit
  obtain ⟨e', he', name', conflict'⟩ := hg.culprit
  rw [← place, he] at he'
  obtain rfl := Option.some.inj he'
  rw [← place, ← conflict] at conflict'
  cases f
  cases g
  simp_all

/-- If a list cannot be merged with one more effect, then the draft has something against it. -/
theorem exists_conflict {before : List Effect} (h : Mergeable before)
    (hn : ¬ Mergeable (before ++ [e])) :
    e.isActive ∧ ∃ c, (Draft.ofEffects before).conflict? e = some c := by
  rw [mergeable_append_singleton, not_and, not_forall] at hn
  obtain ⟨ha, hc⟩ := hn h
  exact ⟨ha, Option.ne_none_iff_exists'.1 hc⟩

/-- The effect that a list blames is blamed without the skipped effects too. -/
theorem BlamesFirst.filter {f : MergeFault} (h : BlamesFirst effects f) :
    ∃ k, StandsAt effects k f.index ∧
      BlamesFirst (effects.filter (·.isActive)) { f with index := k } := by
  obtain ⟨e, he, name, conflict⟩ := h.culprit
  have mergeable := h.mergeable_take
  have bad : ¬ Mergeable (effects.take (f.index + 1)) := h.least.1
  -- the list is what stands before the culprit, the culprit and the rest
  obtain ⟨hi, rfl⟩ := List.getElem?_eq_some_iff.1 he
  have split :
      effects = effects.take f.index ++ effects[f.index] :: effects.drop (f.index + 1) := by
    rw [List.getElem_cons_drop, List.take_append_drop]
  have length : (effects.take f.index).length = f.index := List.length_take_of_le (Nat.le_of_lt hi)
  rw [List.take_succ_eq_append_getElem hi] at bad
  generalize effects[f.index] = e at *
  generalize effects.take f.index = before at *
  generalize effects.drop (f.index + 1) = rest at *
  subst split
  have active := (exists_conflict mergeable bad).1
  have kept : [e].filter (·.isActive) = [e] := by simp [active]
  obtain ⟨-, c, hc⟩ := exists_conflict (e := e) (mergeable_filter.2 mergeable) (by
    rwa [← kept, ← List.filter_append, mergeable_filter])
  have same : f.conflict = c := by
    rw [conflict, Draft.conflict?_ofEffects hc, conflictAfter_filter]
  refine ⟨_, length ▸ standsAt_length active rest, ?_⟩
  rw [List.filter_append, List.filter_cons_of_pos active, name, same]
  exact blamesFirst_of_conflict _ (mergeable_filter.2 mergeable) active hc

/-! ## Drafts -/

namespace Draft

/-- The draft without places and needs. -/
def body (d : Draft) : Draft := { d with attributes := .none, active := [] }

theorem body_ofEffects_filter (effects : List Effect) :
    (ofEffects (effects.filter (·.isActive))).body = (ofEffects effects).body := by
  let step (d : Draft) (x : Effect × Nat) : Draft :=
    ({ d with active := .replicate x.2 0 }.add 0 x.1).body
  have fold := ofEffects_eq_foldl body step
    (fun d index e => by simp only [step, body, add, rank, List.length_replicate])
    (fun _ _ => rfl)
  rw [fold, fold, ranked_filter]

/-- Of the texts of the finished program, only that of the image is written by needs. -/
theorem finish_eq (d : Draft) :
    d.finish = { d.body.finish with
      fragment := fill effectFragment [
        (fragmentHeadGap, gapText d.body.headText),
        (mainUvGap, gapText d.body.uvText),
        (mainImageGap, gapText d.imageText)]
      attributes := d.attributes
      active := d.active } := rfl

/-- All that skipped effects change in the finished program is what it knows of places and needs. -/
theorem finish_ofEffects_filter (effects : List Effect) :
    (ofEffects effects).finish =
      { (ofEffects (effects.filter (·.isActive))).finish with
        attributes := (ofEffects effects).attributes
        active := (ofEffects effects).active } := by
  have body := body_ofEffects_filter effects
  -- the needs decide on the line that reads the depth, but only a shading call is given it
  have image : (ofEffects (effects.filter (·.isActive))).imageText =
      (ofEffects effects).imageText := by
    rw [imageText_ofEffects, imageText_ofEffects, shadingEffects, shadingEffects, ranked_filter]
  rw [finish_eq (ofEffects effects), finish_eq (ofEffects (effects.filter (·.isActive))), body,
    image]

theorem standsAt_active (effects : List Effect) :
    List.Forall₂ (StandsAt effects) (ofEffects (effects.filter (·.isActive))).active
      (ofEffects effects).active := by
  induction effects using List.reverseRecOn with
  | nil => exact .nil
  | append_singleton effects e ih =>
    have before := ih.imp fun k i h => standsAt_append h [e]
    rw [ofEffects_append_singleton, absorb, List.filter_append]
    cases ha : e.isActive
    · rw [List.filter_cons_of_neg (by simp [ha]), List.filter_nil, List.append_nil]
      exact before
    · rw [List.filter_cons_of_pos ha, List.filter_nil, ofEffects_append_singleton, absorb, ha]
      exact List.rel_append before (.cons (standsAt_length ha []) .nil)

theorem attributes_ofEffects (effects : List Effect) :
    (ofEffects effects).attributes =
      ⟨effects.any (·.attributes.depth),
        effects.any fun e => e.isActive && e.attributes.convolution⟩ := by
  have convolution := ofEffects_eq_any (·.attributes.convolution) (·.attributes.convolution) rfl
    (fun _ _ _ => rfl)
    (fun d e => by simp [addSkipped, Attributes.union, Attributes.inter, Attributes.ofDepth])
    effects
  rw [← depth_ofEffects, ← convolution]

/-- Skipped effects add a need for depth to the needs of the others, if one of them has it. -/
theorem attributes_ofEffects_filter (effects : List Effect) :
    (ofEffects effects).attributes = (ofEffects (effects.filter (·.isActive))).attributes.union
      (if effects.any fun e => !e.isActive && e.attributes.depth then .ofDepth else .none) := by
  have depth : effects.any (·.attributes.depth) =
      (effects.any (fun e => e.isActive && e.attributes.depth) ||
        effects.any fun e => !e.isActive && e.attributes.depth) := by
    induction effects with
    | nil => rfl
    | cons e es ih =>
      simp only [List.any_cons, ih]
      cases e.isActive <;> simp [Bool.or_assoc, Bool.or_left_comm]
  rw [attributes_ofEffects, attributes_ofEffects, List.any_filter, List.any_filter, depth]
  cases effects.any fun e => !e.isActive && e.attributes.depth <;>
    simp [Attributes.union, Attributes.none, Attributes.ofDepth]

end Draft

/-! ## Merges -/

theorem isIdle_congr {m n : Merged} (h : m.active.length = n.active.length) :
    m.isIdle = n.isIdle := by
  rw [Merged.isIdle, Merged.isIdle, Bool.eq_iff_iff, List.isEmpty_iff_length_eq_zero,
    List.isEmpty_iff_length_eq_zero, h]

/-- The results of two merges agree: that of `effects`, and that of `effects` without the skipped
ones. -/
inductive AgreesWithout (effects : List Effect) :
    Except MergeFault Merged → Except MergeFault Merged → Prop
  /-- The programs are the same, with their tables, needs and counts. The places are those of the
  whole list, and a skipped effect may add a need for depth. -/
  | ok {m n : Merged} (same : m = { n with attributes := m.attributes, active := m.active })
      (active : List.Forall₂ (StandsAt effects) n.active m.active)
      (idle : m.isIdle = n.isIdle)
      (attributes : m.attributes = n.attributes.union
        (if effects.any fun e => !e.isActive && e.attributes.depth then .ofDepth else .none)) :
      AgreesWithout effects (.ok m) (.ok n)
  /-- The same effect is blamed for the same conflict, at its place in either list. -/
  | error {f g : MergeFault} (same : f = { g with index := f.index })
      (index : StandsAt effects g.index f.index) : AgreesWithout effects (.error f) (.error g)

/-- **Skipped effects are transparent.** A list is merged, or refused, as it is without its skipped
effects; only the places differ, and the need for depth. -/
theorem merge_agrees_without_skipped (effects : List Effect) :
    AgreesWithout effects (merge effects) (merge (effects.filter (·.isActive))) := by
  cases hf : merge effects with
  | ok m =>
    obtain ⟨hm, rfl⟩ := merge_eq_ok_iff.1 hf
    rw [merge_eq_ok_iff.2 ⟨mergeable_filter.2 hm, rfl⟩]
    have active := Draft.standsAt_active effects
    exact .ok (Draft.finish_ofEffects_filter effects) active (isIdle_congr active.length_eq.symm)
      (Draft.attributes_ofEffects_filter effects)
  | error f =>
    cases hg : merge (effects.filter (·.isActive)) with
    | ok n =>
      have hm := mergeable_filter.1 (merge_eq_ok_iff.1 hg).1
      exact absurd hm (blamesFirst_of_merge hf).not_mergeable
    | error g =>
      obtain ⟨k, stands, blames⟩ := (blamesFirst_of_merge hf).filter
      obtain rfl := blames.unique (blamesFirst_of_merge hg)
      exact .error rfl stands

end ScreenEffects
