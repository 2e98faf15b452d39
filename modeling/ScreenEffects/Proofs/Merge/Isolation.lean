import ScreenEffects.Proofs.Merge.Acceptance
import ScreenEffects.Proofs.Merge.Marks
import ScreenEffects.Pass.Effects

/-!
# Effects do not share symbols

The uniforms and macros of a merged program come from the active effects, and those of two of them
are apart, whatever the effects call them: each symbol bears the mark of its effect, and a mark in
front of an identifier can be read off (`BearsMark`). So no effect writes over the entry of another,
and a uniform under a symbol of an effect is one of its own.

* `bearsMark_of_mem_uniforms`, `bearsMark_of_mem_defines` : the symbols of a contribution.
* `get?_uniforms_ofEffects` : what is bound is what its effect contributes.
* `merge_isolates` : all of this for the merge of a list.
-/

namespace ScreenEffects

open Glsl

/-- The key of a macro: an identifier, and perhaps parameters in parentheses. -/
def IsMacroKey (key : String) : Prop :=
  ∃ name parameters, key = .ofList (name ++ parameters) ∧ isIdentifier name = true ∧
    ∀ c ∈ parameters.head?, c = '('

/-- The symbols of the effect are identifiers. -/
structure Effect.Named (e : Effect) : Prop where
  uniforms : ∀ name ∈ e.uniforms.keys, isIdentifier name.toList = true
  defines : ∀ key ∈ e.defines.keys, IsMacroKey key

theorem macroName_eq {name parameters : List Char} (h : isIdentifier name = true)
    (hp : ∀ c ∈ parameters.head?, c = '(') :
    Effect.macroName (.ofList (name ++ parameters)) = .ofList name := by
  have inside : ∀ c ∈ name, (c != '(') = true := by
    intro c hc
    rw [bne_iff_ne]
    rintro rfl
    exact absurd (forall_isIdentifierChar h _ hc) (by decide)
  have outside : parameters.takeWhile (· != '(') = [] :=
    (while_of_head? fun c hc => by simp [hp c hc]).1
  rw [Effect.macroName, String.toList_ofList, List.takeWhile_append_of_pos inside, outside,
    List.append_nil, trimBlank_identifier h]

/-! ## The symbols of a contribution -/

namespace Contribution

variable {e : Effect} {k : Nat}

theorem nodup_keys_defines (e : Effect) (k : Nat) : (of k e).defines.keys.Nodup :=
  OrderedMap.nodup_keys_ofList _

theorem get?_renames {mark name : String} {symbols : SymbolTable}
    (h : name ∈ e.defines.keys.map Effect.macroName) :
    (renames mark e symbols).get? name = some (marked mark name) :=
  OrderedMap.get?_ofList_map (f := marked mark) (List.mem_append_right _ h)

/-- A uniform that an effect contributes is one of its own under its new name, or its opacity. -/
theorem exists_get?_uniforms {key : String} (h : key ∈ (of k e).uniforms.keys) :
    ∃ u, (of k e).uniforms.get? key = some u ∧
      ((∃ name, (name, u) ∈ e.uniforms.entries ∧ key = marked (rankMark k) name) ∨
        (e.symbols.hasMainImage = true ∧ key = opacityName (rankMark k) ∧
          u = e.blend.opacity)) := by
  obtain ⟨u, hu⟩ := OrderedMap.exists_get?_of_mem_keys h
  refine ⟨u, hu, ?_⟩
  have own (h : (OrderedMap.ofList (e.uniforms.entries.map
      fun x => (marked (rankMark k) x.1, x.2))).get? key = some u) :
      ∃ name, (name, u) ∈ e.uniforms.entries ∧ key = marked (rankMark k) name := by
    obtain ⟨x, hx, he⟩ := List.mem_map.1 (OrderedMap.mem_of_get?_ofList h)
    obtain ⟨rfl, rfl⟩ := Prod.mk.inj he
    exact ⟨x.1, hx, rfl⟩
  change (mergedUniforms (rankMark k) e e.symbols).get? key = some u at hu
  rw [mergedUniforms] at hu
  split at hu
  · rename_i image
    rw [OrderedMap.get?_insert] at hu
    split at hu
    · rename_i opacity
      exact .inr ⟨image, opacity, (Option.some.inj hu).symm⟩
    · exact .inl (own hu)
  · exact .inl (own hu)

theorem bearsMark_of_identifiers (hn : ∀ name ∈ e.uniforms.keys, isIdentifier name.toList = true)
    {key : String} (h : key ∈ (of k e).uniforms.keys) : BearsMark k key := by
  obtain ⟨u, -, ⟨name, hm, rfl⟩ | ⟨-, rfl, -⟩⟩ := exists_get?_uniforms h
  · exact bearsMark_marked (hn name (List.mem_map_of_mem hm)) k
  · exact bearsMark_marked (by decide) k

theorem bearsMark_of_mem_uniforms (hn : e.Named) {key : String}
    (h : key ∈ (of k e).uniforms.keys) : BearsMark k key :=
  bearsMark_of_identifiers hn.uniforms h

theorem bearsMark_of_mem_defines (hn : e.Named) {key : String}
    (h : key ∈ (of k e).defines.keys) : BearsMark k key := by
  change key ∈ (mergedDefines (renames (rankMark k) e e.symbols) e).keys at h
  rw [mergedDefines, OrderedMap.mem_keys_ofList, List.map_map] at h
  obtain ⟨⟨own, value⟩, hm, rfl⟩ := List.mem_map.1 h
  have hk : own ∈ e.defines.keys := List.mem_map_of_mem hm
  obtain ⟨name, parameters, rfl, hi, hp⟩ := hn.defines own hk
  have new : (renames (rankMark k) e e.symbols).get? (.ofList name) =
      some (marked (rankMark k) (.ofList name)) :=
    get?_renames (macroName_eq hi hp ▸ List.mem_map_of_mem hk)
  have stop : ∀ c ∈ parameters.head?, isIdentifierChar c = false := by
    intro c hc
    rw [hp c hc]
    rfl
  obtain ⟨tail, ht⟩ := exists_rename_eq_append hi stop new
  exact (bearsMark_marked (by rwa [String.toList_ofList]) k).append ht

end Contribution

/-! ## The symbols of a list -/

namespace Draft

theorem uniforms_ofEffects (effects : List Effect) :
    (ofEffects effects).uniforms =
      (ranked effects).foldl (fun m x => m.extend (Contribution.of x.2 x.1).uniforms) ∅ :=
  ofEffects_eq_foldl (·.uniforms) _ (fun _ _ _ => rfl) (fun _ _ => rfl) effects

theorem defines_ofEffects (effects : List Effect) :
    (ofEffects effects).defines =
      (ranked effects).foldl (fun m x => m.extend (Contribution.of x.2 x.1).defines) ∅ :=
  ofEffects_eq_foldl (·.defines) _ (fun _ _ _ => rfl) (fun _ _ => rfl) effects

theorem mem_keys_uniforms_ofEffects {effects : List Effect} {key : String} :
    key ∈ (ofEffects effects).uniforms.keys ↔
      ∃ x ∈ ranked effects, key ∈ (Contribution.of x.2 x.1).uniforms.keys := by
  rw [uniforms_ofEffects, OrderedMap.mem_keys_foldl_extend]
  exact or_iff_right List.not_mem_nil

theorem mem_keys_defines_ofEffects {effects : List Effect} {key : String} :
    key ∈ (ofEffects effects).defines.keys ↔
      ∃ x ∈ ranked effects, key ∈ (Contribution.of x.2 x.1).defines.keys := by
  rw [defines_ofEffects, OrderedMap.mem_keys_foldl_extend]
  exact or_iff_right List.not_mem_nil

end Draft

theorem eq_of_mem_ranked {effects : List Effect} {e f : Effect} {k : Nat}
    (he : (e, k) ∈ ranked effects) (hf : (f, k) ∈ ranked effects) : e = f :=
  Option.some.inj ((mem_ranked_iff.1 he).symm.trans (mem_ranked_iff.1 hf))

/-- Two active effects that contribute the same symbol are the same. -/
theorem eq_of_bearsMark {effects : List Effect} {x y : Effect × Nat} (hx : x ∈ ranked effects)
    (hy : y ∈ ranked effects) {key : String} (kx : BearsMark x.2 key) (ky : BearsMark y.2 key) :
    y = x := by
  obtain ⟨e, k⟩ := x
  obtain ⟨f, n⟩ := y
  obtain rfl : n = k := ky.rank_eq kx
  rw [eq_of_mem_ranked hx hy]

section Named

variable {effects : List Effect} (named : ∀ e ∈ effects, e.isActive → e.Named)

include named

theorem named_of_mem_ranked {x : Effect × Nat} (h : x ∈ ranked effects) : x.1.Named :=
  have active := exists_mem_ranked_iff.1 ⟨x.2, h⟩
  named x.1 active.1 active.2

theorem get?_uniforms_ofEffects {x : Effect × Nat} (hx : x ∈ ranked effects) {key : String}
    (hk : key ∈ (Contribution.of x.2 x.1).uniforms.keys) :
    (Draft.ofEffects effects).uniforms.get? key =
      (Contribution.of x.2 x.1).uniforms.get? key := by
  rw [Draft.uniforms_ofEffects]
  exact OrderedMap.get?_foldl_extend (fun y => Contribution.nodup_keys_mergedUniforms _ _ _) hx hk
    fun y hy hky => eq_of_bearsMark hx hy
      (Contribution.bearsMark_of_mem_uniforms (named_of_mem_ranked named hx) hk)
      (Contribution.bearsMark_of_mem_uniforms (named_of_mem_ranked named hy) hky)

theorem get?_defines_ofEffects {x : Effect × Nat} (hx : x ∈ ranked effects) {key : String}
    (hk : key ∈ (Contribution.of x.2 x.1).defines.keys) :
    (Draft.ofEffects effects).defines.get? key =
      (Contribution.of x.2 x.1).defines.get? key := by
  rw [Draft.defines_ofEffects]
  exact OrderedMap.get?_foldl_extend (fun y => Contribution.nodup_keys_defines _ _) hx hk
    fun y hy hky => eq_of_bearsMark hx hy
      (Contribution.bearsMark_of_mem_defines (named_of_mem_ranked named hx) hk)
      (Contribution.bearsMark_of_mem_defines (named_of_mem_ranked named hy) hky)

end Named

/-! ## The symbols of a merge -/

/-- The uniforms that a pass has for every merged program. -/
def runtimeNames : List String :=
  ["inputBuffer", "depthBuffer", "resolution", "texelSize", "cameraNear", "cameraFar", "aspect",
    "time"]

theorem RuntimeUniforms.keys_table (r : RuntimeUniforms) : r.table.keys = runtimeNames := rfl

/-- Whatever the names of the effects' uniforms, a merge hides none of the runtime uniforms. -/
theorem get?_table_extend {effects : List Effect} {m : Merged} (h : merge effects = .ok m)
    (r : RuntimeUniforms) {name : String} (hn : name ∈ runtimeNames) :
    (r.table.extend m.uniforms).get? name = r.table.get? name := by
  obtain ⟨-, rfl⟩ := merge_eq_ok_iff.1 h
  have nodup : (Draft.ofEffects effects).uniforms.keys.Nodup := by
    rw [Draft.uniforms_ofEffects]
    exact OrderedMap.nodup_keys_foldl_extend (m := ∅) List.nodup_nil _
  have absent : (Draft.ofEffects effects).uniforms.get? name = none := by
    rw [OrderedMap.get?_eq_none_iff, Draft.mem_keys_uniforms_ofEffects]
    rintro ⟨x, -, hx⟩
    obtain ⟨tail, rfl⟩ := Contribution.mem_keys_mergedUniforms hx
    -- a symbol begins with a mark, and no name of the list does
    have foreign : ∀ name ∈ runtimeNames, name.toList.head? ≠ some 'e' := by decide
    refine foreign _ hn ?_
    rw [marked, String.toList_append, toList_rankMark]
    rfl
  exact (OrderedMap.get?_extend _ nodup name).trans (by rw [absent, Option.none_or])

/-- The macros of a merged program that no effect defines. -/
def commonMacros : List String :=
  ["UV", "DEPTH_PACKING", "DITHERING", "FRAMEBUFFER_PRECISION_HIGH"]

/-- A symbol of an effect is no runtime uniform and no common macro. -/
theorem BearsMark.notMem {k : Nat} {key : String} (h : BearsMark k key) {l : List String}
    (hl : ∀ name ∈ l, name.toList.head? ≠ some 'e') : key ∉ l :=
  fun hm => hl key hm h.head?

/-- The merge `m` keeps the symbols of the effects apart. -/
structure Isolates (effects : List Effect) (m : Merged) : Prop where
  mem_uniforms : ∀ key, key ∈ m.uniforms.keys ↔
    ∃ x ∈ ranked effects, key ∈ (Contribution.of x.2 x.1).uniforms.keys
  mem_defines : ∀ key, key ∈ m.defines.keys ↔
    key = "UV" ∨ ∃ x ∈ ranked effects, key ∈ (Contribution.of x.2 x.1).defines.keys
  uniforms_disjoint : ∀ e k f n, (e, k) ∈ ranked effects → (f, n) ∈ ranked effects → k ≠ n →
    (Contribution.of k e).uniforms.keys.Disjoint (Contribution.of n f).uniforms.keys
  defines_disjoint : ∀ e k f n, (e, k) ∈ ranked effects → (f, n) ∈ ranked effects → k ≠ n →
    (Contribution.of k e).defines.keys.Disjoint (Contribution.of n f).defines.keys
  uniforms_foreign : ∀ e k, (e, k) ∈ ranked effects →
    (Contribution.of k e).uniforms.keys.Disjoint runtimeNames
  defines_foreign : ∀ e k, (e, k) ∈ ranked effects →
    (Contribution.of k e).defines.keys.Disjoint commonMacros
  /-- The handle under a symbol of an effect is one of its own, or that of its opacity. -/
  own_uniform : ∀ e k, (e, k) ∈ ranked effects → ∀ key ∈ (Contribution.of k e).uniforms.keys,
    ∃ u, m.uniforms.get? key = some u ∧
      ((∃ name, (name, u) ∈ e.uniforms.entries ∧ key = marked (rankMark k) name) ∨
        (e.symbols.hasMainImage = true ∧ key = "e" ++ toString k ++ "BlendOpacity" ∧
          u = e.blend.opacity))
  own_define : ∀ e k, (e, k) ∈ ranked effects → ∀ key ∈ (Contribution.of k e).defines.keys,
    m.defines.get? key = (Contribution.of k e).defines.get? key

/-- **Merged effects do not share symbols.** If the names of the effects' uniforms and macros are
identifiers, then no two effects of a merge contribute the same symbol, none contributes a symbol of
the program itself, and what is bound to a contributed symbol belongs to the effect. -/
theorem merge_isolates {effects : List Effect} {m : Merged} (h : merge effects = .ok m)
    (named : ∀ e ∈ effects, e.isActive → e.Named) : Isolates effects m := by
  obtain ⟨-, rfl⟩ := merge_eq_ok_iff.1 h
  have uniformMark {x : Effect × Nat} (hx : x ∈ ranked effects) {key : String} :
      key ∈ (Contribution.of x.2 x.1).uniforms.keys → BearsMark x.2 key :=
    Contribution.bearsMark_of_mem_uniforms (named_of_mem_ranked named hx)
  have defineMark {x : Effect × Nat} (hx : x ∈ ranked effects) {key : String} :
      key ∈ (Contribution.of x.2 x.1).defines.keys → BearsMark x.2 key :=
    Contribution.bearsMark_of_mem_defines (named_of_mem_ranked named hx)
  exact {
    mem_uniforms := fun key => Draft.mem_keys_uniforms_ofEffects
    mem_defines := fun key =>
      OrderedMap.mem_keys_insert.trans (or_congr_right Draft.mem_keys_defines_ofEffects)
    uniforms_disjoint := fun e k f n he hf hne key hk hn =>
      hne ((uniformMark he hk).rank_eq (uniformMark hf hn))
    defines_disjoint := fun e k f n he hf hne key hk hn =>
      hne ((defineMark he hk).rank_eq (defineMark hf hn))
    uniforms_foreign := fun e k he key hk =>
      (uniformMark he hk).notMem (by decide)
    defines_foreign := fun e k he key hk =>
      (defineMark he hk).notMem (by decide)
    own_uniform := fun e k he key hk => by
      obtain ⟨u, hu, own⟩ := Contribution.exists_get?_uniforms hk
      refine ⟨u, (get?_uniforms_ofEffects named he hk).trans hu, ?_⟩
      rwa [opacityName_eq, rankMark] at own
    own_define := fun e k he key hk => by
      have apart : key ≠ "UV" := by
        rintro rfl
        exact (defineMark he hk).notMem (l := commonMacros) (by decide) List.mem_cons_self
      change ((Draft.ofEffects effects).defines.insert "UV" _).get? key = _
      rw [OrderedMap.get?_insert, if_neg apart]
      exact get?_defines_ofEffects named he hk }

/-- Two effects whose symbols have the same names, and share a handle. -/
theorem merge_isolates_twins :
    let twin := fun name => { Effect.ofEntry name "mainImage" ⟨.normal, ⟨1⟩⟩ .none with
      uniforms := .ofList [("tint", ⟨0⟩)]
      defines := .ofList [("MIX(a, b)", "a + b")] }
    let effects := [twin "warm", twin "cold"]
    (∀ e ∈ effects, e.isActive → e.Named) ∧
      ∃ m, merge effects = .ok m ∧ Isolates effects m ∧
        m.uniforms.keys = ["e0Tint", "e0BlendOpacity", "e1Tint", "e1BlendOpacity"] ∧
        m.defines.keys = ["e0MIX(a, b)", "e1MIX(a, b)", "UV"] := by
  intro twin effects
  have isNamed (name : String) : (twin name).Named := by
    have macroKey : IsMacroKey "MIX(a, b)" :=
      ⟨"MIX".toList, "(a, b)".toList, by decide, by decide, by simp⟩
    refine ⟨?_, fun key hk => ?_⟩
    · change ∀ key ∈ ["tint"], isIdentifier key.toList = true
      decide
    · obtain rfl : key = "MIX(a, b)" := List.mem_singleton.1 hk
      exact macroKey
  have named : ∀ e ∈ effects, e.isActive → e.Named := by
    intro e he _
    rcases List.mem_pair.1 he with rfl | rfl
    · exact isNamed "warm"
    · exact isNamed "cold"
  have accepted := merge_eq_ok_iff.2 (⟨by decide +kernel, rfl⟩ : Mergeable effects ∧ _)
  exact ⟨named, _, accepted, merge_isolates accepted named, by decide +kernel, by decide +kernel⟩

end ScreenEffects
