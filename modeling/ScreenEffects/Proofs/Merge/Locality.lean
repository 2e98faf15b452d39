import Mathlib.Algebra.GroupWithZero.Nat
import ScreenEffects.Proofs.Merge.Isolation
import ScreenEffects.Proofs.Merge.Sections

/-!
# Contributions stand side by side

The parts of a merged program are those of its active effects, one after the other in order, and the
part of an effect is what it gives when it is taken alone as the one of its rank (`Draft.alone`). No
effect adds to the part of another or takes from it: the maps are written over each other, but their
symbols are apart, and what is handed on from effect to effect decides on conflicts only.

* `text_ofEffects`, `entries_ofEffects` : texts are joined and tables are appended, of each effect
  what it gives alone.
* `mem_extensions_ofEffects`, `varyings_ofEffects` : needs are united and counts are added up.
* `merge_stands_side_by_side` : all of this for a merge, and what one more effect leaves as it is.
-/

namespace ScreenEffects

open Glsl

namespace Draft

/-! ## One effect alone -/

/-- A draft in which `k` active effects are counted and nothing else is in hand. -/
def ofRank (k : Nat) : Draft := { active := .replicate k 0 }

/-- The draft with `e` alone, taken as the active effect of rank `k`. -/
def alone (k : Nat) (e : Effect) : Draft := (ofRank k).add 0 e

theorem rank_ofRank (k : Nat) : (ofRank k).rank = k := List.length_replicate

/-- An effect of a list that can be merged can be taken alone. -/
theorem take_ofRank {effects : List Effect} (h : Mergeable effects) {e : Effect} {k : Nat}
    (he : (e, k) ∈ ranked effects) : (ofRank k).take 0 e = .ok (alone k e) := by
  obtain ⟨hm, ha⟩ := exists_mem_ranked_iff.1 ⟨k, he⟩
  have free : (ofRank k).conflict? e = none := by
    rw [conflict?_eq_none_iff]
    refine ⟨nofun, h.oneEntry e hm ha, ?_, fun _ => nofun⟩
    rintro (hc | hc)
    · cases hc
    · exact h.unmoved ⟨e, hm, ha, hc⟩ e hm ha
  rw [take, if_pos ha, free]
  rfl

/-- The effects whose vertex body takes part, with their ranks. -/
def supported (effects : List Effect) : List (Effect × Nat) :=
  (ranked effects).filter fun (e, _) => e.symbols.hasMainSupport

/-! ## Texts -/

section Text

variable {f : Draft → String} {text : Contribution → String} (h0 : ∀ k, f (ofRank k) = "")
  (hadd : ∀ d index e, f (d.add index e) = f d ++ text (.of d.rank e))

include h0 hadd

theorem text_alone (k : Nat) (e : Effect) : f (alone k e) = text (.of k e) := by
  rw [alone, hadd, h0, rank_ofRank, String.empty_append]

/-- A text to which each active effect appends is the texts of the effects alone. -/
theorem text_ofEffects (hskip : ∀ d e, f (d.addSkipped e) = f d) (effects : List Effect) :
    f (ofEffects effects) = String.join ((ranked effects).map fun (e, k) => f (alone k e)) := by
  rw [ofEffects_eq_join f text (h0 0) hadd hskip]
  simp only [text_alone h0 hadd]

omit h0 in
/-- One more effect appends to a text, if anything. -/
theorem text_isPrefix (hskip : ∀ d e, f (d.addSkipped e) = f d) (effects : List Effect)
    (e : Effect) :
    (f (ofEffects effects)).toList <+: (f (ofEffects (effects ++ [e]))).toList := by
  rw [ofEffects_append_singleton, absorb]
  cases e.isActive
  · simp [hskip]
  · rw [if_pos rfl, hadd, String.toList_append]
    exact List.prefix_append _ _

/-- A text to which only effects with a vertex body append is the texts of these. -/
theorem supportedText_ofEffects (hskip : ∀ d e, f (d.addSkipped e) = f d)
    (bare : ∀ k e, e.symbols.hasMainSupport = false → text (.of k e) = "")
    (effects : List Effect) :
    f (ofEffects effects) = String.join ((supported effects).map fun (e, k) => f (alone k e)) := by
  rw [text_ofEffects h0 hadd hskip, supported,
    ← join_map_ite (fun x : Effect × Nat => x.1.symbols.hasMainSupport)]
  congr 1
  refine List.map_congr_left fun (e, k) _ => ?_
  cases hs : e.symbols.hasMainSupport
  · exact (text_alone h0 hadd k e).trans (bare k e hs)
  · rfl

end Text

/-! ## Tables -/

section Table

variable {ν : Type} {f : Draft → NamedMap ν} {table : Contribution → NamedMap ν}
  (h0 : ∀ k, f (ofRank k) = ∅)
  (hadd : ∀ d index e, f (d.add index e) = (f d).extend (table (.of d.rank e)))
  (nodup : ∀ k e, (table (.of k e)).keys.Nodup)

include h0 hadd nodup

theorem table_alone (k : Nat) (e : Effect) : f (alone k e) = table (.of k e) := by
  rw [alone, hadd, h0, rank_ofRank, OrderedMap.empty_extend (nodup k e)]

/-- Tables whose keys bear the marks of their effects are appended to one another. -/
theorem entries_ofEffects (hskip : ∀ d e, f (d.addSkipped e) = f d) {effects : List Effect}
    (marked : ∀ e k, (e, k) ∈ ranked effects → ∀ key ∈ (table (.of k e)).keys, BearsMark k key) :
    (f (ofEffects effects)).entries =
      (ranked effects).flatMap fun (e, k) => (f (alone k e)).entries := by
  have start : f {} = ∅ := h0 0
  have apart : (ranked effects).Pairwise fun x y =>
      (table (.of x.2 x.1)).keys.Disjoint (table (.of y.2 y.1)).keys := by
    refine (pairwise_ranked effects).imp_of_mem fun {x y} hx hy hlt key kx ky => ?_
    exact Nat.ne_of_lt hlt ((marked x.1 x.2 hx key kx).rank_eq (marked y.1 y.2 hy key ky))
  rw [ofEffects_eq_foldl f (fun m x => m.extend (table (.of x.2 x.1))) hadd hskip, start,
    OrderedMap.entries_foldl_extend (f := fun x : Effect × Nat => table (.of x.2 x.1))
      (fun x => nodup x.2 x.1) apart]
  simp only [table_alone h0 hadd nodup]

end Table

theorem uniforms_alone (k : Nat) (e : Effect) :
    (alone k e).uniforms = (Contribution.of k e).uniforms :=
  table_alone (fun _ => rfl) (fun _ _ _ => rfl)
    (fun _ _ => Contribution.nodup_keys_mergedUniforms _ _ _) k e

theorem uniforms_eq_flatMap {effects : List Effect} (named : ∀ e ∈ effects, e.isActive →
      ∀ name ∈ e.uniforms.keys, isIdentifier name.toList = true) :
    (ofEffects effects).uniforms.entries =
      (ranked effects).flatMap fun (e, k) => (alone k e).uniforms.entries := by
  refine entries_ofEffects (fun _ => rfl) (fun _ _ _ => rfl)
    (fun _ _ => Contribution.nodup_keys_mergedUniforms _ _ _) (fun _ _ => rfl) ?_
  intro e k hk key
  obtain ⟨hm, ha⟩ := exists_mem_ranked_iff.1 ⟨k, hk⟩
  exact Contribution.bearsMark_of_identifiers (named e hm ha)

theorem defines_eq_flatMap {effects : List Effect}
    (named : ∀ e ∈ effects, e.isActive → e.Named) :
    (ofEffects effects).defines.entries =
      (ranked effects).flatMap fun (e, k) => (alone k e).defines.entries := by
  refine entries_ofEffects (fun _ => rfl) (fun _ _ _ => rfl)
    (fun k e => Contribution.nodup_keys_defines e k) (fun _ _ => rfl) ?_
  intro e k hk key
  exact Contribution.bearsMark_of_mem_defines (named_of_mem_ranked named hk)

/-! ## Needs and counts -/

theorem mem_extensions_ofEffects {effects : List Effect} {x : Extension} :
    x ∈ (ofEffects effects).extensions.toList ↔
      ∃ e ∈ effects, e.isActive ∧ x ∈ e.extensions.toList := by
  induction effects using List.reverseRecOn with
  | nil =>
    change x ∈ ([] : List Extension) ↔ _
    simp
  | append_singleton effects e ih =>
    rw [ofEffects_append_singleton, absorb]
    cases ha : e.isActive
    · change x ∈ (ofEffects effects).extensions.toList ↔ _
      simp [ih, ha]
    · change x ∈ ((ofEffects effects).extensions.union e.extensions).toList ↔ _
      rw [RankedSet.mem_union Extension.rank_injective, ih]
      simp [ha, or_and_right, exists_or]

theorem varyings_alone (k : Nat) (e : Effect) :
    (alone k e).varyings = (Contribution.of k e).varyings := by
  change 0 + (Contribution.of (ofRank k).rank e).varyings = _
  rw [rank_ofRank, Nat.zero_add]

theorem varyings_ofEffects (effects : List Effect) :
    (ofEffects effects).varyings =
      ((ranked effects).map fun (e, k) => (alone k e).varyings).sum := by
  rw [ofEffects_eq_foldl (·.varyings) (fun n x => n + (Contribution.of x.2 x.1).varyings)
    (fun _ _ _ => rfl) (fun _ _ => rfl), List.sum_eq_foldl, List.foldl_map]
  simp only [varyings_alone]

end Draft

/-! ## A merge -/

/-- The merge `m` of the effects, finished from the draft `d`, is what they give alone, side by
side. -/
structure SideBySide (effects : List Effect) (d : Draft) (m : Merged) : Prop where
  run : Draft.takeAll {} 0 effects = .ok d
  finished : m = d.finish
  takes : ∀ e k, (e, k) ∈ ranked effects → (Draft.ofRank k).take 0 e = .ok (Draft.alone k e)
  uniforms : m.uniforms.entries =
    (ranked effects).flatMap fun (e, k) => (Draft.alone k e).uniforms.entries
  defines : m.defines.entries =
    ((ranked effects).flatMap fun (e, k) => (Draft.alone k e).defines.entries) ++
      [("UV", d.uvName)]
  head : d.headText =
    String.join ((ranked effects).map fun (e, k) => (Draft.alone k e).fragmentHead) ++
      String.join (m.blends.map definitionText)
  vertexHead : d.vertexHead =
    String.join ((Draft.supported effects).map fun (e, k) => (Draft.alone k e).vertexHead)
  mainSupport : d.mainSupport =
    String.join ((Draft.supported effects).map fun (e, k) => (Draft.alone k e).mainSupport)
  extensions : ∀ x, x ∈ m.extensions.toList ↔ ∃ y ∈ ranked effects, x ∈ y.1.extensions.toList
  varyings : m.varyings = ((ranked effects).map fun (e, k) => (Draft.alone k e).varyings).sum

/-- What the draft `d` has in hand, `d'` has too, unchanged and in the same order. -/
structure Draft.Remains (d d' : Draft) : Prop where
  uniforms : d.uniforms.entries <+: d'.uniforms.entries
  defines : d.defines.entries <+: d'.defines.entries
  fragmentHead : d.fragmentHead.toList <+: d'.fragmentHead.toList
  vertexHead : d.vertexHead.toList <+: d'.vertexHead.toList
  mainSupport : d.mainSupport.toList <+: d'.mainSupport.toList

section Merge

variable {effects : List Effect} {m : Merged} (h : merge effects = .ok m)
  (named : ∀ e ∈ effects, e.isActive → e.Named)

include h named

theorem sideBySide_of_merge : SideBySide effects (Draft.ofEffects effects) m := by
  obtain ⟨hm, rfl⟩ := merge_eq_ok_iff.1 h
  have absent : "UV" ∉ (Draft.ofEffects effects).defines.keys := by
    rw [Draft.mem_keys_defines_ofEffects]
    rintro ⟨x, hx, hk⟩
    have mark := Contribution.bearsMark_of_mem_defines (named_of_mem_ranked named hx) hk
    exact mark.notMem (l := commonMacros) (by decide) List.mem_cons_self
  exact {
    run := hm.takeAll_eq_ok
    finished := rfl
    takes := fun e k he => Draft.take_ofRank hm he
    uniforms := Draft.uniforms_eq_flatMap fun e he ha => (named e he ha).uniforms
    defines := by
      rw [← Draft.defines_eq_flatMap named]
      exact OrderedMap.entries_insert_of_notMem absent _
    head := by
      have text (k : Nat) (e : Effect) :
          (Draft.alone k e).fragmentHead = (Contribution.of k e).fragmentHead :=
        Draft.text_alone (fun _ => rfl) (fun _ _ _ => rfl) k e
      simp only [text]
      exact Draft.headText_ofEffects effects
    vertexHead := Draft.supportedText_ofEffects (fun _ => rfl) (fun _ _ _ => rfl) (fun _ _ => rfl)
      (fun k e hs => by rw [Contribution.of, hs]; rfl) effects
    mainSupport := Draft.supportedText_ofEffects (fun _ => rfl) (fun _ _ _ => rfl) (fun _ _ => rfl)
      (fun k e hs => by rw [Contribution.of, hs]; rfl) effects
    extensions := fun x => Draft.mem_extensions_ofEffects.trans
      (exists_ranked_iff (p := fun e => x ∈ e.extensions.toList)).symm
    varyings := Draft.varyings_ofEffects effects }

end Merge

theorem Draft.remains_append_singleton {effects : List Effect} {e : Effect}
    (named : ∀ f ∈ effects ++ [e], f.isActive → f.Named) :
    (ofEffects effects).Remains (ofEffects (effects ++ [e])) := by
  have before : ∀ f ∈ effects, f.isActive → f.Named := fun f hf =>
    named f (List.mem_append_left _ hf)
  constructor
  · rw [uniforms_eq_flatMap fun f hf ha => (before f hf ha).uniforms,
      uniforms_eq_flatMap fun f hf ha => (named f hf ha).uniforms, ranked_append_singleton,
      List.flatMap_append]
    exact List.prefix_append _ _
  · rw [defines_eq_flatMap before, defines_eq_flatMap named, ranked_append_singleton,
      List.flatMap_append]
    exact List.prefix_append _ _
  · exact text_isPrefix (f := (·.fragmentHead)) (fun _ _ _ => rfl) (fun _ _ => rfl) effects e
  · exact text_isPrefix (f := (·.vertexHead)) (fun _ _ _ => rfl) (fun _ _ => rfl) effects e
  · exact text_isPrefix (f := (·.mainSupport)) (fun _ _ _ => rfl) (fun _ _ => rfl) effects e

/-- **Contributions stand side by side.** If the names of the effects' uniforms and macros are
identifiers, then each part of a merged program is what the active effects give alone, each as the
one of its rank, in order. So one more effect leaves all that is there as it is and where it is. -/
theorem merge_stands_side_by_side {effects : List Effect} {m : Merged} (h : merge effects = .ok m)
    (named : ∀ e ∈ effects, e.isActive → e.Named) :
    ∃ d, SideBySide effects d m ∧
      ∀ e m', merge (effects ++ [e]) = .ok m' → (e.isActive → e.Named) →
        ∃ d', SideBySide (effects ++ [e]) d' m' ∧ d.Remains d' := by
  refine ⟨_, sideBySide_of_merge h named, fun e m' h' he => ?_⟩
  have named' : ∀ f ∈ effects ++ [e], f.isActive → f.Named := by
    intro f hf ha
    rcases List.mem_append.1 hf with hf | hf
    · exact named f hf ha
    · obtain rfl := List.mem_singleton.1 hf
      exact he ha
  exact ⟨_, sideBySide_of_merge h' named', Draft.remains_append_singleton named'⟩

/-- Two effects with a vertex body, a skipped effect between them, and the first of them again. -/
theorem merge_stands_sway_glow_sway :
    let sway := { Effect.ofEntry "sway" "mainImage" ⟨.normal, ⟨1⟩⟩ .none with
      vertex := some "varying vec2 tilt; void mainSupport(const in vec2 uv) \x7btilt = uv;\x7d"
      uniforms := .ofList [("angle", ⟨0⟩)]
      defines := .ofList [("LEAN(x)", "2.0 * x")] }
    let glow := Effect.ofEntry "glow" "mainImage" ⟨.skip, ⟨2⟩⟩ .none
    let effects := [sway, glow]
    (∀ e ∈ effects, e.isActive → e.Named) ∧
      ∃ m m' d d', merge effects = .ok m ∧ merge (effects ++ [sway]) = .ok m' ∧
        SideBySide effects d m ∧ SideBySide (effects ++ [sway]) d' m' ∧ d.Remains d' ∧
        m'.uniforms.keys = ["e0Angle", "e0BlendOpacity", "e1Angle", "e1BlendOpacity"] ∧
        m'.defines.keys = ["e0LEAN(x)", "e1LEAN(x)", "UV"] ∧
        m'.varyings = 2 := by
  intro sway glow effects
  have isNamed : sway.Named := by
    refine ⟨?_, fun key hk => ?_⟩
    · change ∀ key ∈ ["angle"], isIdentifier key.toList = true
      decide
    · obtain rfl : key = "LEAN(x)" := List.mem_singleton.1 hk
      exact ⟨"LEAN".toList, "(x)".toList, by decide, by decide, by simp⟩
  have named : ∀ e ∈ effects, e.isActive → e.Named := by
    intro e he ha
    rcases List.mem_pair.1 he with rfl | rfl
    · exact isNamed
    · cases ha
  have accepted := merge_eq_ok_iff.2 (⟨by decide +kernel, rfl⟩ : Mergeable effects ∧ _)
  have accepted' := merge_eq_ok_iff.2
    (⟨by decide +kernel, rfl⟩ : Mergeable (effects ++ [sway]) ∧ _)
  obtain ⟨d, sides, more⟩ := merge_stands_side_by_side accepted named
  obtain ⟨d', sides', remains⟩ := more sway _ accepted' fun _ => isNamed
  exact ⟨named, _, _, d, d', accepted, accepted', sides, sides', remains, by decide +kernel,
    by decide +kernel, by decide +kernel⟩

end ScreenEffects
