import Mathlib.Algebra.Order.BigOperators.Group.List
import Mathlib.Algebra.Order.Group.Nat
import ScreenEffects.Proofs.Merge.EntryPoints
import ScreenEffects.Proofs.Merge.Order

/-!
# Symbols that clash

A symbol of an effect receives its mark and a capital first letter, and the opacity of the effect is
a symbol among the others. So two names of an effect receive the same symbol exactly if they are the
same up to the case of the first letter, and then the table of uniforms keeps one of them only.

* `marked_eq_marked_iff` : when two names receive the same symbol.
* `uniformCount_eq_iff` : no uniform is lost exactly if no names clash.
* `merge_keeps_symbols` : what is kept, and when.
-/

namespace ScreenEffects

open Glsl

/-! ## Names up to the case of the first letter -/

/-- The names are the same up to the case of the first letter. -/
def SameUpToFirst (a b : String) : Prop :=
  a.toList.head?.map Char.toUpper = b.toList.head?.map Char.toUpper ∧
    a.toList.tail = b.toList.tail

instance (a b : String) : Decidable (SameUpToFirst a b) :=
  inferInstanceAs (Decidable (_ ∧ _))

theorem capitalize_eq_iff {a b : List Char} (ha : isIdentifier a = true)
    (hb : isIdentifier b = true) : capitalize a = capitalize b ↔
      a.head?.map Char.toUpper = b.head?.map Char.toUpper ∧ a.tail = b.tail := by
  cases a with
  | nil => cases ha
  | cons c r =>
    cases b with
    | nil => cases hb
    | cons d t =>
      have ascii {c : Char} {r : List Char} (h : isIdentifier (c :: r) = true) :
          capitalize (c :: r) = c.toUpper :: r := by
        rw [capitalize, capital_ascii (toNat_lt_of_isIdentifierChar
          (forall_isIdentifierChar h c List.mem_cons_self)), List.singleton_append]
      rw [ascii ha, ascii hb, List.cons.injEq]
      simp

/-- Two names receive the same symbol exactly if they are the same up to the case of the first
letter. -/
theorem marked_eq_marked_iff {a b : String} (mark : String) (ha : isIdentifier a.toList = true)
    (hb : isIdentifier b.toList = true) :
    marked mark a = marked mark b ↔ SameUpToFirst a b := by
  rw [marked, marked, SameUpToFirst, ← capitalize_eq_iff ha hb, ← String.toList_inj,
    String.toList_append, String.toList_append, List.append_cancel_left_eq, String.toList_ofList,
    String.toList_ofList]

theorem opacityName_rankMark (k : Nat) :
    Contribution.opacityName (rankMark k) = "e" ++ toString k ++ "BlendOpacity" := by
  rw [opacityName_eq, rankMark]

/-! ## The uniforms of an effect -/

namespace Effect

/-- The uniforms of the effect and its opacity, which are bound in a merge. -/
def boundUniforms (e : Effect) : List (String × Uniform) :=
  e.uniforms.entries ++ if e.symbols.hasMainImage then [("blendOpacity", e.blend.opacity)] else []

theorem length_boundUniforms (e : Effect) :
    e.boundUniforms.length = e.uniforms.size + if e.symbols.hasMainImage then 1 else 0 := by
  rw [boundUniforms, List.length_append]
  split <;> rfl

/-- The names of the uniforms are distinct identifiers. -/
structure UniformsNamed (e : Effect) : Prop where
  nodup : e.uniforms.keys.Nodup
  identifier : ∀ name ∈ e.uniforms.keys, isIdentifier name.toList = true

/-- No two uniforms have the same name up to the case of the first letter, and none has the name of
the opacity, if the effect has one. -/
structure UniformsApart (e : Effect) : Prop where
  own : ∀ a ∈ e.uniforms.keys, ∀ b ∈ e.uniforms.keys, SameUpToFirst a b → a = b
  opacity : e.symbols.hasMainImage = true →
    ∀ a ∈ e.uniforms.keys, ¬ SameUpToFirst a "blendOpacity"

end Effect

namespace Contribution

variable {e : Effect} (named : e.UniformsNamed) (k : Nat)

theorem uniforms_eq_ofList (k : Nat) (e : Effect) : (of k e).uniforms =
    .ofList (e.boundUniforms.map fun x => (marked (rankMark k) x.1, x.2)) := by
  change mergedUniforms (rankMark k) e e.symbols = _
  rw [mergedUniforms, Effect.boundUniforms, List.map_append]
  cases e.symbols.hasMainImage
  · rw [if_neg Bool.false_ne_true, if_neg Bool.false_ne_true, List.map_nil, List.append_nil]
  · rw [if_pos rfl, if_pos rfl, List.map_singleton, OrderedMap.ofList_append_singleton]
    rfl

include named

/-- The symbols of an effect's uniforms and of its opacity are distinct exactly if the names are
apart. -/
theorem nodup_symbols_iff :
    ((e.boundUniforms.map fun x => (marked (rankMark k) x.1, x.2)).map (·.1)).Nodup ↔
      e.UniformsApart := by
  have own : (e.uniforms.keys.map (marked (rankMark k))).Nodup ↔
      ∀ a ∈ e.uniforms.keys, ∀ b ∈ e.uniforms.keys, SameUpToFirst a b → a = b := by
    rw [List.nodup_map_iff_inj_on named.nodup]
    refine forall₄_congr fun a ha b hb => ?_
    rw [marked_eq_marked_iff _ (named.identifier a ha) (named.identifier b hb)]
  have opacity : marked (rankMark k) "blendOpacity" ∉ e.uniforms.keys.map (marked (rankMark k)) ↔
      ∀ a ∈ e.uniforms.keys, ¬ SameUpToFirst a "blendOpacity" := by
    simp only [List.mem_map, not_exists, not_and]
    refine forall₂_congr fun a ha => ?_
    rw [marked_eq_marked_iff _ (named.identifier a ha) (by decide)]
  have symbols : (e.boundUniforms.map fun x => (marked (rankMark k) x.1, x.2)).map (·.1) =
      e.uniforms.keys.map (marked (rankMark k)) ++
        if e.symbols.hasMainImage then [marked (rankMark k) "blendOpacity"] else [] := by
    rw [Effect.boundUniforms, OrderedMap.keys]
    split <;> simp
  rw [symbols]
  cases image : e.symbols.hasMainImage
  · rw [if_neg Bool.false_ne_true, List.append_nil, own]
    exact ⟨fun h => ⟨h, fun i => absurd (image.symm.trans i) Bool.false_ne_true⟩, fun h => h.own⟩
  · rw [if_pos rfl, ← List.concat_eq_append, List.nodup_concat, own, opacity]
    exact ⟨fun h => ⟨h.2, fun _ => h.1⟩, fun h => ⟨h.opacity image, h.own⟩⟩

/-- An effect whose names are apart keeps each of its uniforms. -/
theorem get?_uniforms_of {name : String} {u : Uniform} (apart : e.UniformsApart)
    (h : (name, u) ∈ e.uniforms.entries) :
    (of k e).uniforms.get? (marked (rankMark k) name) = some u := by
  rw [uniforms_eq_ofList]
  refine OrderedMap.get?_ofList_of_mem ((nodup_symbols_iff named k).2 apart) ?_
  exact List.mem_map.2 ⟨(name, u), List.mem_append_left _ h, rfl⟩

/-- An effect keeps as many uniforms as it has exactly if the names are apart. -/
theorem size_uniforms_eq_iff :
    (of k e).uniforms.size = e.boundUniforms.length ↔ e.UniformsApart := by
  rw [← nodup_symbols_iff named k, ← OrderedMap.size_ofList_eq_iff, uniforms_eq_ofList,
    List.length_map]

omit named in
theorem size_uniforms_le (k : Nat) (e : Effect) :
    (of k e).uniforms.size ≤ e.boundUniforms.length := by
  rw [uniforms_eq_ofList]
  exact (OrderedMap.size_ofList_le _).trans (List.length_map _).le

end Contribution

/-! ## Counting uniforms -/

/-- A sum of terms, each at most another, reaches the sum of the others if each term does. -/
theorem sum_map_eq_iff {α : Type} {f g : α → Nat} {l : List α} (h : ∀ a ∈ l, f a ≤ g a) :
    (l.map f).sum = (l.map g).sum ↔ ∀ a ∈ l, f a = g a := by
  induction l with
  | nil => simp
  | cons a l ih =>
    obtain ⟨head, tail⟩ := List.forall_mem_cons.1 h
    have le := List.sum_le_sum tail
    rw [List.map_cons, List.sum_cons, List.map_cons, List.sum_cons, List.forall_mem_cons, ← ih tail]
    omega

/-- The number of uniforms that the active effects have, each with its opacity. -/
def boundCount (effects : List Effect) : Nat :=
  ((effects.filter (·.isActive)).map fun e =>
    e.uniforms.size + if e.symbols.hasMainImage then 1 else 0).sum

theorem boundCount_eq (effects : List Effect) :
    boundCount effects = ((ranked effects).map fun x => x.1.boundUniforms.length).sum := by
  have active : (ranked effects).map (·.1) = effects.filter (·.isActive) :=
    List.zipIdx_map_fst 0 _
  simp only [Effect.length_boundUniforms]
  rw [boundCount, ← active, List.map_map]
  rfl

section Named

variable {effects : List Effect} (named : ∀ e ∈ effects, e.isActive → e.UniformsNamed)

include named

theorem uniformsNamed_of_mem_ranked {e : Effect} {k : Nat} (h : (e, k) ∈ ranked effects) :
    e.UniformsNamed :=
  have active := exists_mem_ranked_iff.1 ⟨k, h⟩
  named e active.1 active.2

theorem size_uniforms_ofEffects : (Draft.ofEffects effects).uniforms.size =
    ((ranked effects).map fun x => (Contribution.of x.2 x.1).uniforms.size).sum := by
  rw [OrderedMap.size, Draft.uniforms_eq_flatMap fun e he ha => (named e he ha).identifier,
    List.length_flatMap]
  simp only [Draft.uniforms_alone, OrderedMap.size]

theorem uniformCount_le : (Draft.ofEffects effects).uniforms.size ≤ boundCount effects := by
  rw [size_uniforms_ofEffects named, boundCount_eq]
  exact List.sum_le_sum fun x _ => Contribution.size_uniforms_le x.2 x.1

/-- No uniform is lost exactly if the names of each effect are apart. -/
theorem uniformCount_eq_iff : (Draft.ofEffects effects).uniforms.size = boundCount effects ↔
    ∀ e ∈ effects, e.isActive → e.UniformsApart := by
  rw [size_uniforms_ofEffects named, boundCount_eq,
    sum_map_eq_iff fun x _ => Contribution.size_uniforms_le x.2 x.1]
  constructor
  · intro h e he ha
    obtain ⟨k, hk⟩ := exists_mem_ranked_iff.2 ⟨he, ha⟩
    exact (Contribution.size_uniforms_eq_iff (named e he ha) k).1 (h (e, k) hk)
  · rintro h ⟨e, k⟩ hk
    obtain ⟨he, ha⟩ := exists_mem_ranked_iff.1 ⟨k, hk⟩
    exact (Contribution.size_uniforms_eq_iff (named e he ha) k).2 (h e he ha)

/-- What an effect contributes is bound in the merge, for no other effect has the symbol. -/
theorem get?_uniforms_of_ranked {x : Effect × Nat} (hx : x ∈ ranked effects) {key : String}
    (h : key ∈ (Contribution.of x.2 x.1).uniforms.keys) :
    (Draft.ofEffects effects).uniforms.get? key =
      (Contribution.of x.2 x.1).uniforms.get? key := by
  have mark {y : Effect × Nat} (hy : y ∈ ranked effects) {key : String} :
      key ∈ (Contribution.of y.2 y.1).uniforms.keys → BearsMark y.2 key :=
    Contribution.bearsMark_of_identifiers (uniformsNamed_of_mem_ranked named hy).identifier
  rw [Draft.uniforms_ofEffects]
  exact OrderedMap.get?_foldl_extend (fun y => Contribution.nodup_keys_mergedUniforms _ _ _) hx h
    fun y hy hky => eq_of_bearsMark hx hy (mark hx h) (mark hy hky)

end Named

/-! ## A merge -/

/-- What the merge `m` keeps of the symbols of the effects. -/
structure KeepsSymbols (effects : List Effect) (m : Merged) : Prop where
  opacity : ∀ e k, (e, k) ∈ shadingEffects effects →
    m.uniforms.get? ("e" ++ toString k ++ "BlendOpacity") = some e.blend.opacity
  handle : ∀ e k, (e, k) ∈ ranked effects → e.UniformsApart →
    ∀ name u, (name, u) ∈ e.uniforms.entries →
      m.uniforms.get? (marked (rankMark k) name) = some u
  count_le : m.uniformCount ≤ boundCount effects
  count_eq_iff : m.uniformCount = boundCount effects ↔
    ∀ e ∈ effects, e.isActive → e.UniformsApart
  /-- Only declared identifiers are renamed. -/
  declared : ∀ e k, (e, k) ∈ ranked effects → ∀ source, ∀ t ∈ tokenize source,
    t.renamed (e.newNames k) ≠ t.lexeme →
      ∃ a ∈ e.declaredNames, isIdentifier a.toList = true ∧ t = .identifier a.toList false
  clash_iff : ∀ e k, (e, k) ∈ ranked effects → ∀ a ∈ e.declaredNames, ∀ b ∈ e.declaredNames,
    isIdentifier a.toList → isIdentifier b.toList →
      ((e.newNames k).get? a = (e.newNames k).get? b ↔ SameUpToFirst a b)
  opacity_iff : ∀ e k, (e, k) ∈ ranked effects → ∀ a ∈ e.declaredNames, isIdentifier a.toList →
    ((e.newNames k).get? a = some ("e" ++ toString k ++ "BlendOpacity") ↔
      SameUpToFirst a "blendOpacity")

/-- **A merge loses a symbol exactly where two names clash.** If the uniforms of each effect have
distinct identifiers as names, then two declared names of an effect receive the same symbol exactly
if they are the same up to the case of the first letter, and the symbol of the opacity exactly if
they are `blendOpacity` up to that. An effect without such names keeps every uniform, each opacity is
kept, and the program has as many uniforms as its effects exactly if no effect has such names. -/
theorem merge_keeps_symbols {effects : List Effect} {m : Merged} (h : merge effects = .ok m)
    (named : ∀ e ∈ effects, e.isActive → e.UniformsNamed) : KeepsSymbols effects m := by
  obtain ⟨-, rfl⟩ := merge_eq_ok_iff.1 h
  have nodup {e : Effect} {k : Nat} (hk : (e, k) ∈ ranked effects) : e.UniformsNamed :=
    uniformsNamed_of_mem_ranked named hk
  exact {
    opacity := fun e k hk => Draft.get?_opacity_ofEffects hk
    handle := fun e k hk apart name u hu => by
      have own := Contribution.get?_uniforms_of (nodup hk) k apart hu
      exact (get?_uniforms_of_ranked named hk (OrderedMap.mem_keys_of_get? own)).trans own
    count_le := uniformCount_le named
    count_eq_iff := uniformCount_eq_iff named
    declared := fun e k _ source t ht changed => by
      obtain ⟨a, key, ha, token⟩ := exists_of_renamed_ne ht changed
      exact ⟨a, mem_declaredNames_of_mem_keys key, ha, token⟩
    clash_iff := fun e k _ a ha b hb ia ib => by
      rw [get?_newNames ha, get?_newNames hb, Option.some_inj, marked_eq_marked_iff _ ia ib]
    opacity_iff := fun e k _ a ha ia => by
      rw [get?_newNames ha, Option.some_inj, ← opacityName_rankMark, Contribution.opacityName,
        marked_eq_marked_iff _ ia (by decide)] }

/-- Two effects that both have a uniform `tint`, and one of them another that starts with a capital:
none is lost. -/
theorem merge_keeps_glow_sway :
    let glow := { Effect.ofEntry "glow" "mainImage" ⟨.normal, ⟨2⟩⟩ .none with
      uniforms := .ofList [("tint", ⟨0⟩), ("Depth", ⟨1⟩)]
      defines := .ofList [("MIX(a, b)", "a + b")] }
    let sway := { Effect.ofEntry "sway" "mainUv" ⟨.normal, ⟨4⟩⟩ .none with
      uniforms := .ofList [("tint", ⟨3⟩)] }
    let effects := [glow, sway]
    (∀ e ∈ effects, e.isActive → e.UniformsNamed) ∧
      (∀ e ∈ effects, e.isActive → e.UniformsApart) ∧
      ∃ m, merge effects = .ok m ∧ KeepsSymbols effects m ∧ m.uniformCount = 4 ∧
        m.uniforms.get? "e0Tint" = some ⟨0⟩ ∧ m.uniforms.get? "e1Tint" = some ⟨3⟩ ∧
        (glow.newNames 0).get? "tint" ≠ (glow.newNames 0).get? "MIX" := by
  intro glow sway effects
  have named : ∀ e ∈ effects, e.isActive → e.UniformsNamed := by
    intro e he _
    rcases List.mem_pair.1 he with rfl | rfl
    · exact ⟨by decide, by decide⟩
    · exact ⟨by decide, by decide⟩
  have apart : ∀ e ∈ effects, e.isActive → e.UniformsApart := by
    intro e he _
    rcases List.mem_pair.1 he with rfl | rfl
    · exact ⟨by decide, fun _ => by decide⟩
    · exact ⟨by decide, fun _ => by decide⟩
  have accepted := merge_eq_ok_iff.2 (⟨by decide +kernel, rfl⟩ : Mergeable effects ∧ _)
  have keeps := merge_keeps_symbols accepted named
  have first : (glow, 0) ∈ ranked effects := List.mem_cons_self
  have second : (sway, 1) ∈ ranked effects := List.mem_cons_of_mem _ List.mem_cons_self
  have count := keeps.count_eq_iff.2 apart
  have bound : boundCount effects = 4 := by decide +kernel
  have tint := keeps.handle glow 0 first (apart glow (by simp [effects]) rfl) "tint" ⟨0⟩
    List.mem_cons_self
  have tint' := keeps.handle sway 1 second (apart sway (by simp [effects]) rfl) "tint" ⟨3⟩
    List.mem_cons_self
  have mix := keeps.clash_iff glow 0 first "tint" (by decide +kernel) "MIX" (by decide +kernel)
    (by decide) (by decide)
  exact ⟨named, apart, _, accepted, keeps, count.trans bound, tint, tint',
    fun same => absurd (mix.1 same) (by decide)⟩

/-- Two uniforms whose names differ in the case of the first letter, and a uniform with the name of
the opacity: each time, one of the two is lost. -/
theorem merge_loses_tint :
    let twice := { Effect.ofEntry "twice" "mainImage" ⟨.normal, ⟨2⟩⟩ .none with
      uniforms := .ofList [("tint", ⟨0⟩), ("Tint", ⟨1⟩)] }
    let layer := { Effect.ofEntry "layer" "mainImage" ⟨.normal, ⟨4⟩⟩ .none with
      uniforms := .ofList [("blendOpacity", ⟨3⟩)] }
    let effects := [twice, layer]
    (∀ e ∈ effects, e.isActive → e.UniformsNamed) ∧
      ∃ m, merge effects = .ok m ∧ m.uniformCount = 3 ∧ boundCount effects = 5 ∧
        m.uniforms.get? "e0Tint" = some ⟨1⟩ ∧ m.uniforms.get? "e1BlendOpacity" = some ⟨4⟩ ∧
        (twice.newNames 0).get? "tint" = (twice.newNames 0).get? "Tint" ∧
        (layer.newNames 1).get? "blendOpacity" = some "e1BlendOpacity" := by
  intro twice layer effects
  have named : ∀ e ∈ effects, e.isActive → e.UniformsNamed := by
    intro e he _
    rcases List.mem_pair.1 he with rfl | rfl
    · exact ⟨by decide, by decide⟩
    · exact ⟨by decide, by decide⟩
  have accepted := merge_eq_ok_iff.2 (⟨by decide +kernel, rfl⟩ : Mergeable effects ∧ _)
  exact ⟨named, _, accepted, by decide +kernel, by decide +kernel, by decide +kernel,
    by decide +kernel, by decide +kernel, by decide +kernel⟩

end ScreenEffects
