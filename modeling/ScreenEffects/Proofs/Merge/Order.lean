import ScreenEffects.Proofs.Merge.Locality
import ScreenEffects.Proofs.Merge.Skipped

/-!
# Effects in another order

The order of a list of effects decides which colour is laid over which, and it gives the active
effects their ranks. Nothing else hangs on it: a list can be merged in every order or in none, the
needs and the counts are the same, and so are the uniforms, except that the symbols of an effect
bear the mark of its new rank.

* `exists_reranks` : every other order is a change of ranks.
* `mapKeys_uniforms_of` : a change of rank renames the uniforms of a contribution.
* `merge_reordered` : two merges of the same effects in different orders.
-/

namespace ScreenEffects

open Glsl

/-! ## Lists that can be merged -/

theorem Mergeable.perm {xs ys : List Effect} (h : Mergeable xs) (perm : xs.Perm ys) :
    Mergeable ys where
  oneEntry e he := h.oneEntry e (perm.mem_iff.2 he)
  oneConvolution := (perm.filter _).length_eq ▸ h.oneConvolution
  unmoved := fun ⟨e, he, ha⟩ f hf => h.unmoved ⟨e, perm.mem_iff.2 he, ha⟩ f (perm.mem_iff.2 hf)

/-! ## Ranks -/

/-- The active effects of `xs` are those of `ys`, and the one of rank `k` in `xs` has the rank `σ k`
in `ys`. -/
def Reranks (σ : Nat → Nat) (xs ys : List Effect) : Prop :=
  ((ranked xs).map fun (e, k) => (e, σ k)).Perm (ranked ys)

/-- The places of the elements of a list follow a permutation of it. -/
theorem exists_zipIdx_perm {α : Type} {as bs : List α} (h : as.Perm bs) :
    ∃ σ : Nat → Nat, (as.zipIdx.map fun (a, k) => (a, σ k)).Perm bs.zipIdx := by
  induction h with
  | nil => exact ⟨id, .refl _⟩
  | cons a _ ih =>
    obtain ⟨σ, hσ⟩ := ih
    refine ⟨fun k => if k = 0 then 0 else σ (k - 1) + 1, ?_⟩
    simpa [List.zipIdx_succ, Function.comp_def] using (hσ.map fun (a, k) => (a, k + 1)).cons (a, 0)
  | swap a b as =>
    refine ⟨fun k => if k = 0 then 1 else if k = 1 then 0 else k, ?_⟩
    simpa [List.zipIdx_succ, Function.comp_def] using .swap (a, 0) (b, 1) _
  | trans _ _ ih ih' =>
    obtain ⟨σ, hσ⟩ := ih
    obtain ⟨τ, hτ⟩ := ih'
    refine ⟨τ ∘ σ, ?_⟩
    simpa [Function.comp_def] using (hσ.map fun (a, k) => (a, τ k)).trans hτ

theorem exists_reranks {xs ys : List Effect} (perm : xs.Perm ys) : ∃ σ, Reranks σ xs ys :=
  exists_zipIdx_perm (perm.filter _)

/-- The symbol with the mark of rank `σ k` in place of that of rank `k`. The rank is read off the
digits of the mark, so the name behind it must start with none. -/
def rerank (σ : Nat → Nat) (symbol : String) : String :=
  match symbol.toList with
  | 'e' :: tail =>
    rankMark (σ (Nat.ofDigitChars 10 (tail.takeWhile Char.isDigit) 0)) ++
      .ofList (tail.dropWhile Char.isDigit)
  | _ => symbol

theorem rerank_append (σ : Nat → Nat) (k : Nat) {name : String}
    (h : ∀ c ∈ name.toList.head?, c.isDigit = false) :
    rerank σ (rankMark k ++ name) = rankMark (σ k) ++ name := by
  have digits : ∀ c ∈ Nat.toDigits 10 k, c.isDigit = true := fun c hc =>
    Nat.isDigit_of_mem_toDigits (by omega) (by omega) hc
  have stop := while_of_head? h
  rw [rerank, String.toList_append, toList_rankMark, List.cons_append]
  change rankMark (σ (Nat.ofDigitChars 10 (List.takeWhile _ _) 0)) ++
    .ofList (List.dropWhile _ _) = _
  rw [List.takeWhile_append_of_pos digits, List.dropWhile_append_of_pos digits, stop.1, stop.2,
    List.append_nil, Nat.ofDigitChars_ten_toDigits, String.ofList_toList]

/-! ## Uniforms -/

namespace Contribution

/-- The uniforms that an effect contributes, before their names receive its mark. -/
def plainUniforms (e : Effect) : UniformMap :=
  .ofList ((e.uniforms.entries ++
    if e.symbols.hasMainImage then [("blendOpacity", e.blend.opacity)] else []).map
      fun (name, u) => (.ofList (capitalize name.toList), u))

variable {e : Effect}

theorem uniforms_of (k : Nat) (e : Effect) :
    (of k e).uniforms = (plainUniforms e).mapKeys (rankMark k ++ ·) := by
  have inj : Function.Injective (rankMark k ++ ·) := fun s t h =>
    String.toList_inj.1 (by simpa using congrArg String.toList h)
  rw [plainUniforms, OrderedMap.mapKeys_ofList inj, List.map_map, List.map_append]
  change mergedUniforms (rankMark k) e e.symbols = _
  rw [mergedUniforms]
  cases e.symbols.hasMainImage
  · rw [if_neg Bool.false_ne_true, if_neg Bool.false_ne_true, List.map_nil, List.append_nil]
    rfl
  · rw [if_pos rfl, if_pos rfl, List.map_singleton, OrderedMap.ofList_append_singleton]
    rfl

/-- No name of a uniform starts with a digit. -/
theorem isDigit_of_mem_plainUniforms
    (hn : ∀ name ∈ e.uniforms.keys, isIdentifier name.toList = true) {name : String}
    (h : name ∈ (plainUniforms e).keys) : ∀ c ∈ name.toList.head?, c.isDigit = false := by
  have own : ∃ plain : String,
      isIdentifier plain.toList = true ∧ name = .ofList (capitalize plain.toList) := by
    rw [plainUniforms, OrderedMap.mem_keys_ofList, List.map_map] at h
    obtain ⟨⟨plain, u⟩, hm, rfl⟩ := List.mem_map.1 h
    refine ⟨plain, ?_, rfl⟩
    rcases List.mem_append.1 hm with hm | hm
    · exact hn plain (List.mem_map_of_mem hm)
    · split at hm
      · obtain ⟨rfl, -⟩ := Prod.mk.inj (List.mem_singleton.1 hm)
        decide
      · cases hm
  obtain ⟨plain, hi, rfl⟩ := own
  obtain ⟨c, rest, hc, digit⟩ := exists_capitalize_eq_cons hi
  rw [String.toList_ofList, hc]
  rintro _ ⟨⟩
  exact digit

/-- A change of rank renames the uniforms of a contribution. -/
theorem mapKeys_uniforms_of (hn : ∀ name ∈ e.uniforms.keys, isIdentifier name.toList = true)
    (σ : Nat → Nat) (k : Nat) :
    (of k e).uniforms.mapKeys (rerank σ) = (of (σ k) e).uniforms := by
  rw [uniforms_of, uniforms_of]
  apply OrderedMap.eq_of_entries
  simp only [OrderedMap.mapKeys, List.map_map]
  refine List.map_congr_left fun x hx => ?_
  have start := isDigit_of_mem_plainUniforms hn (List.mem_map_of_mem hx)
  exact Prod.ext (rerank_append σ k start) rfl

end Contribution

namespace Draft

section Perm

variable {xs ys : List Effect} (perm : xs.Perm ys)

include perm

theorem blends_perm : (ofEffects xs).blends = (ofEffects ys).blends :=
  RankedSet.eq_of_mem_iff fun f => by simp only [mem_blends_ofEffects, perm.mem_iff]

theorem extensions_perm : (ofEffects xs).extensions = (ofEffects ys).extensions :=
  RankedSet.eq_of_mem_iff fun x => by simp only [mem_extensions_ofEffects, perm.mem_iff]

theorem attributes_perm : (ofEffects xs).attributes = (ofEffects ys).attributes := by
  rw [attributes_ofEffects, attributes_ofEffects, perm.any_eq, perm.any_eq]

/-- A flag that an active effect may raise is up or not, in whatever order the effects are. -/
theorem flag_perm (f : Draft → Bool) (p : Effect → Bool) (h0 : f {} = false)
    (hadd : ∀ d index e, f (d.add index e) = (f d || p e))
    (hskip : ∀ d e, f (d.addSkipped e) = f d) : f (ofEffects xs) = f (ofEffects ys) := by
  rw [ofEffects_eq_any f p h0 hadd hskip, ofEffects_eq_any f p h0 hadd hskip, perm.any_eq]

theorem varyings_perm : (ofEffects xs).varyings = (ofEffects ys).varyings := by
  have own (effects : List Effect) : (ofEffects effects).varyings =
      ((effects.filter (·.isActive)).map fun e => (Contribution.of 0 e).varyings).sum := by
    rw [varyings_ofEffects, ← List.zipIdx_map_fst 0 (effects.filter (·.isActive)), List.map_map]
    simp only [varyings_alone]
    rfl
  rw [own, own, ((perm.filter _).map _).sum_nat]

theorem rank_perm : (ofEffects xs).rank = (ofEffects ys).rank := by
  rw [rank_ofEffects, rank_ofEffects, (perm.filter _).length_eq]

end Perm

/-- The uniforms of a list are those of the list in another order, renamed for the new ranks. -/
theorem uniforms_perm {xs ys : List Effect} {σ : Nat → Nat} (ranks : Reranks σ xs ys)
    (perm : xs.Perm ys) (named : ∀ e ∈ xs, e.isActive →
      ∀ name ∈ e.uniforms.keys, isIdentifier name.toList = true) :
    ((ofEffects xs).uniforms.mapKeys (rerank σ)).entries.Perm (ofEffects ys).uniforms.entries := by
  have rename {x : Effect × Nat} (hx : x ∈ ranked xs) :
      (alone x.2 x.1).uniforms.entries.map (fun e => (rerank σ e.1, e.2)) =
        (alone (σ x.2) x.1).uniforms.entries := by
    obtain ⟨hm, ha⟩ := exists_mem_ranked_iff.1 ⟨x.2, hx⟩
    rw [uniforms_alone, uniforms_alone, ← Contribution.mapKeys_uniforms_of (named x.1 hm ha)]
    rfl
  have named' : ∀ e ∈ ys, e.isActive →
      ∀ name ∈ e.uniforms.keys, isIdentifier name.toList = true := fun e he =>
    named e (perm.mem_iff.2 he)
  rw [uniforms_eq_flatMap named', OrderedMap.mapKeys, uniforms_eq_flatMap named, List.map_flatMap,
    List.flatMap_congr fun x hx => rename hx]
  have := List.Perm.flatMap_right (fun x => (alone x.2 x.1).uniforms.entries) ranks
  rwa [List.flatMap_map] at this

end Draft

/-! ## Merges -/

/-- The merges `m` and `n` of the lists `xs` and `ys`, which hold the same effects in different
orders, have in common what does not depend on the order. -/
structure SameInAnyOrder (xs ys : List Effect) (m n : Merged) : Prop where
  blends : m.blends = n.blends
  extensions : m.extensions = n.extensions
  attributes : m.attributes = n.attributes
  movesUv : m.movesUv = n.movesUv
  readsDepth : m.readsDepth = n.readsDepth
  varyings : m.varyings = n.varyings
  uniformCount : m.uniformCount = n.uniformCount
  isIdle : m.isIdle = n.isIdle
  uv : m.defines.get? "UV" = n.defines.get? "UV"
  /-- The uniforms are the same, each under the mark of the other rank of its effect. -/
  uniforms : ∀ σ, Reranks σ xs ys → (m.uniforms.mapKeys (rerank σ)).entries.Perm n.uniforms.entries
  handles : m.uniforms.values.Perm n.uniforms.values

/-- **The order of the effects decides on ranks and layers only.** If the names of the effects'
uniforms are identifiers, then the effects can be merged in another order if they can be merged at
all, and the two programs have the same needs, counts and uniforms. -/
theorem merge_reordered {xs ys : List Effect} (perm : xs.Perm ys)
    (named : ∀ e ∈ xs, e.isActive → ∀ name ∈ e.uniforms.keys, isIdentifier name.toList = true) :
    (∃ σ, Reranks σ xs ys) ∧
      ((∃ m, merge xs = .ok m) ↔ ∃ n, merge ys = .ok n) ∧
      ∀ m n, merge xs = .ok m → merge ys = .ok n → SameInAnyOrder xs ys m n := by
  refine ⟨exists_reranks perm, ?_, fun m n hm hn => ?_⟩
  · rw [exists_merge_eq_ok_iff, exists_merge_eq_ok_iff]
    exact ⟨fun h => h.perm perm, fun h => h.perm perm.symm⟩
  obtain ⟨-, rfl⟩ := merge_eq_ok_iff.1 hm
  obtain ⟨-, rfl⟩ := merge_eq_ok_iff.1 hn
  have uniforms {σ : Nat → Nat} (ranks : Reranks σ xs ys) := Draft.uniforms_perm ranks perm named
  have handles :
      (Draft.ofEffects xs).uniforms.values.Perm (Draft.ofEffects ys).uniforms.values := by
    obtain ⟨σ, ranks⟩ := exists_reranks perm
    have := (uniforms ranks).map (·.2)
    rwa [OrderedMap.mapKeys, List.map_map] at this
  have moves := Draft.flag_perm perm (·.movesUv) (·.symbols.hasMainUv) rfl (fun _ _ _ => rfl)
    fun _ _ => rfl
  exact {
    blends := congrArg (·.toList) (Draft.blends_perm perm)
    extensions := Draft.extensions_perm perm
    attributes := Draft.attributes_perm perm
    movesUv := moves
    readsDepth := Draft.flag_perm perm (·.readsDepth)
      (fun e => Contribution.shadesByDepth e e.symbols) rfl (fun _ _ _ => rfl) fun _ _ => rfl
    varyings := Draft.varyings_perm perm
    uniformCount := by
      have := handles.length_eq
      rwa [OrderedMap.values, OrderedMap.values, List.length_map, List.length_map] at this
    isIdle := isIdle_congr (Draft.rank_perm perm)
    uv := by
      change ((Draft.ofEffects xs).defines.insert "UV" _).get? "UV" =
        ((Draft.ofEffects ys).defines.insert "UV" _).get? "UV"
      rw [OrderedMap.get?_insert, OrderedMap.get?_insert, if_pos rfl, if_pos rfl, Draft.uvName,
        Draft.uvName, moves]
    uniforms := fun σ ranks => uniforms ranks
    handles }

/-- A moving effect, a skipped one and a shading one, and the shading one first: the two active
effects change ranks. -/
theorem merge_reordered_sway_glow_tint :
    let sway := { Effect.ofEntry "sway" "mainUv" ⟨.normal, ⟨1⟩⟩ .none with
      uniforms := .ofList [("scale", ⟨0⟩)] }
    let glow := Effect.ofEntry "glow" "mainImage" ⟨.skip, ⟨2⟩⟩ .ofDepth
    let tint := { Effect.ofEntry "tint" "mainImage" ⟨.add, ⟨3⟩⟩ .none with
      uniforms := .ofList [("scale", ⟨4⟩)] }
    let xs := [sway, glow, tint]
    let ys := [tint, sway, glow]
    xs.Perm ys ∧
      (∀ e ∈ xs, e.isActive → ∀ name ∈ e.uniforms.keys, isIdentifier name.toList = true) ∧
      ∃ m n, merge xs = .ok m ∧ merge ys = .ok n ∧ SameInAnyOrder xs ys m n ∧
        m.uniforms.entries = [("e0Scale", ⟨0⟩), ("e1Scale", ⟨4⟩), ("e1BlendOpacity", ⟨3⟩)] ∧
        n.uniforms.entries = [("e0Scale", ⟨4⟩), ("e0BlendOpacity", ⟨3⟩), ("e1Scale", ⟨0⟩)] := by
  intro sway glow tint xs ys
  have perm : xs.Perm ys := List.perm_append_singleton tint [sway, glow]
  have named : ∀ e ∈ xs, e.isActive → ∀ name ∈ e.uniforms.keys,
      isIdentifier name.toList = true := by
    have scale : ∀ name ∈ ["scale"], isIdentifier name.toList = true := by decide
    intro e he ha
    rcases List.mem_cons.1 he with rfl | he
    · exact scale
    · rcases List.mem_pair.1 he with rfl | rfl
      · cases ha
      · exact scale
  have accepted := merge_eq_ok_iff.2 (⟨by decide +kernel, rfl⟩ : Mergeable xs ∧ _)
  obtain ⟨-, both, same⟩ := merge_reordered perm named
  obtain ⟨n, accepted'⟩ := both.1 ⟨_, accepted⟩
  obtain ⟨-, rfl⟩ := merge_eq_ok_iff.1 accepted'
  exact ⟨perm, named, _, _, accepted, accepted', same _ _ accepted accepted', by decide +kernel,
    by decide +kernel⟩

end ScreenEffects
