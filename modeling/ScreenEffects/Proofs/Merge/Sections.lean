import ScreenEffects.Proofs.Merge.Acceptance
import ScreenEffects.Proofs.Merge.Marks

/-!
# The text of a merged program

What the merge of a list puts into the gaps of the fragment program. The colour is a fold over the
list: the calls of the shading effects in order, each followed by the line that lays its colour over
the colour so far (`shadingText`). The coordinates are moved first, by the calls of the moving
effects (`movingText`), and the depth is read once, if some call is given it.

* `imageText_ofEffects`, `uvText_ofEffects` and `headText_ofEffects` : the texts of the three gaps.
* `get?_opacity_ofEffects` : the opacity a line names is the one of its effect.
* `merge_folds_effects` : the program of a merge, in these terms.
-/

namespace ScreenEffects

open Glsl

/-! ## The texts of one effect -/

/-- The shading call of the effect is given the depth. -/
def Effect.takesDepth (e : Effect) : Bool := e.attributes.depth && references e.fragment "depth"

/-- The call of the shading function of the effect of rank `k`, and the line that lays its colour
over the colour so far. -/
def shadingText (e : Effect) (k : Nat) : String :=
  "\te" ++ toString k ++ "MainImage(color0, UV, " ++ (if e.takesDepth then "depth, " else "") ++
    "color1);\n" ++
  "\tcolor0 = blend" ++ toString e.blend.function.id ++ "(color0, color1, e" ++ toString k ++
    "BlendOpacity);\n\n"

/-- The call that moves the coordinates by the effect of rank `k`. -/
def movingText (k : Nat) : String := "\te" ++ toString k ++ "MainUv(UV);\n"

/-- The text that defines a blend function under its own symbol. -/
def definitionText (f : BlendFunction) : String :=
  rename (f.snippet?.getD "") (.ofList [("blend", "blend" ++ toString f.id)]) ++ "\n"

/-- The effects that shade the colour, with their ranks. -/
def shadingEffects (effects : List Effect) : List (Effect × Nat) :=
  (ranked effects).filter fun (e, _) => e.symbols.hasMainImage

/-- The effects that move the coordinates, with their ranks. -/
def movingEffects (effects : List Effect) : List (Effect × Nat) :=
  (ranked effects).filter fun (e, _) => e.symbols.hasMainUv

theorem shadingLines_eq {e : Effect} (h : e.symbols.hasMainImage) (k : Nat) :
    Contribution.shadingLines (rankMark k) e e.symbols = shadingText e k := by
  have call : "\te" = "\t" ++ "e" := rfl
  have line : "\tcolor0 = blend" = "\tcolor0 = " ++ "blend" := rfl
  have colors : "(color0, color1, e" = "(color0, color1, " ++ "e" := rfl
  have opacity : "BlendOpacity);\n\n" = "BlendOpacity" ++ ");\n\n" := rfl
  delta Contribution.shadingLines shadingText
  rw [Contribution.shadesByDepth, h, Bool.true_and, ← Effect.takesDepth, opacityName_eq, rankMark,
    BlendFunction.symbol, call, line, colors, opacity]
  simp only [String.append_assoc]

theorem mainImage_of (k : Nat) (e : Effect) :
    (Contribution.of k e).mainImage =
      if e.symbols.hasMainImage then shadingText e k else "" := by
  rw [Contribution.of]
  split
  · rename_i h
    exact shadingLines_eq h k
  · rfl

theorem mainUv_of (k : Nat) (e : Effect) :
    (Contribution.of k e).mainUv = if e.symbols.hasMainUv then movingText k else "" := by
  rw [Contribution.of, movingText, rankMark, show "\te" = "\t" ++ "e" from rfl]
  simp only [String.append_assoc]

theorem join_map_ite {α : Type} (p : α → Bool) (f : α → String) (l : List α) :
    String.join (l.map fun a => if p a then f a else "") = String.join ((l.filter p).map f) := by
  induction l with
  | nil => rfl
  | cons a l ih => cases h : p a <;> simp [h, ih]

/-! ## The sections -/

namespace Draft

theorem readsDepth_ofEffects (effects : List Effect) :
    (ofEffects effects).readsDepth = (shadingEffects effects).any fun (e, _) => e.takesDepth := by
  rw [ofEffects_eq_any (·.readsDepth) (fun e => Contribution.shadesByDepth e e.symbols) rfl
    (fun _ _ _ => rfl) fun _ _ => rfl, ← any_ranked, shadingEffects, List.any_filter]
  simp only [Contribution.shadesByDepth, Effect.takesDepth, Bool.and_assoc]

/-- An effect that is given the depth needs it, so the depth is read if some call is given it. -/
theorem depth_of_readsDepth {effects : List Effect} (h : (ofEffects effects).readsDepth = true) :
    (ofEffects effects).attributes.depth = true := by
  rw [readsDepth_ofEffects, List.any_eq_true] at h
  obtain ⟨⟨e, k⟩, hk, he⟩ := h
  have hm := (exists_mem_ranked_iff.1 ⟨k, (List.mem_filter.1 hk).1⟩).1
  change (e.attributes.depth && references e.fragment "depth") = true at he
  rw [Bool.and_eq_true] at he
  rw [depth_ofEffects, List.any_eq_true]
  exact ⟨e, hm, he.1⟩

/-- The calls that shade the colour are those of the shading effects, in order. -/
theorem mainImage_ofEffects (effects : List Effect) :
    (ofEffects effects).mainImage =
      String.join ((shadingEffects effects).map fun (e, k) => shadingText e k) := by
  rw [ofEffects_eq_join (·.mainImage) (·.mainImage) rfl (fun _ _ _ => rfl) fun _ _ => rfl]
  simp only [mainImage_of]
  exact join_map_ite (fun x : Effect × Nat => x.1.symbols.hasMainImage)
    (fun x => shadingText x.1 x.2) (ranked effects)

theorem imageText_ofEffects (effects : List Effect) :
    (ofEffects effects).imageText =
      (if (shadingEffects effects).any fun (e, _) => e.takesDepth then
        "float depth = readDepth(UV);\n\n" else "") ++
      String.join ((shadingEffects effects).map fun (e, k) => shadingText e k) := by
  rw [imageText, mainImage_ofEffects, ← readsDepth_ofEffects]
  congr 1
  cases h : (ofEffects effects).readsDepth
  · simp
  · simp [depth_of_readsDepth h]

theorem movesUv_eq (effects : List Effect) :
    (ofEffects effects).movesUv = !(movingEffects effects).isEmpty := by
  rw [ofEffects_eq_any (·.movesUv) (·.symbols.hasMainUv) rfl (fun _ _ _ => rfl) fun _ _ => rfl,
    ← any_ranked, movingEffects, Bool.eq_iff_iff, List.any_eq_true, Bool.not_eq_true',
    List.isEmpty_eq_false_iff_exists_mem]
  simp only [List.mem_filter]

/-- The calls that move the coordinates are those of the moving effects, in order. -/
theorem mainUv_ofEffects (effects : List Effect) :
    (ofEffects effects).mainUv =
      String.join ((movingEffects effects).map fun (_, k) => movingText k) := by
  rw [ofEffects_eq_join (·.mainUv) (·.mainUv) rfl (fun _ _ _ => rfl) fun _ _ => rfl]
  simp only [mainUv_of]
  exact join_map_ite (fun x : Effect × Nat => x.1.symbols.hasMainUv)
    (fun x => movingText x.2) (ranked effects)

theorem uvText_ofEffects (effects : List Effect) :
    (ofEffects effects).uvText =
      (if (movingEffects effects).isEmpty then "" else "vec2 transformedUv = vUv;\n") ++
      String.join ((movingEffects effects).map fun (_, k) => movingText k) := by
  rw [uvText, mainUv_ofEffects, movesUv_eq]
  cases (movingEffects effects).isEmpty <;> rfl

end Draft

/-! ## Trimming -/

theorem head?_trimBlank (s : List Char) : (trimBlank s).head? = (s.dropWhile isBlank).head? := by
  rw [trimBlank, List.head?_reverse]
  cases h : s.dropWhile isBlank with
  | nil => rfl
  | cons c r =>
    have hc : isBlank c = false := by
      have := List.head?_dropWhile_not isBlank s
      simpa [h] using this
    rw [List.reverse_cons, List.dropWhile_append]
    split <;> simp [hc]

theorem gapText_of_head? {text : String}
    (h : (text.toList.dropWhile isBlank).head? ≠ some '#') : Draft.gapText text = trimText text := by
  rw [Draft.gapText, if_neg]
  rwa [trimText, String.toList_ofList, head?_trimBlank]

/-- Lines that each begin with a call do not begin with a directive. -/
theorem head?_calls {α : Type} (f : α → String) (hf : ∀ a, ∃ s, f a = "\te" ++ s) (l : List α) :
    ((String.join (l.map f)).toList.dropWhile isBlank).head? ≠ some '#' := by
  cases l with
  | nil => simp
  | cons a l =>
    obtain ⟨s, hs⟩ := hf a
    have call : (f a).toList = '\t' :: 'e' :: s.toList := by
      rw [hs, String.toList_append]
      rfl
    have tab : isBlank '\t' = true := rfl
    have mark : isBlank 'e' = false := rfl
    simp [call, tab, mark]

theorem exists_shadingText_eq (e : Effect) (k : Nat) : ∃ s, shadingText e k = "\te" ++ s := by
  delta shadingText
  simp only [String.append_assoc]
  exact ⟨_, rfl⟩

theorem exists_movingText_eq (k : Nat) : ∃ s, movingText k = "\te" ++ s :=
  ⟨toString k ++ "MainUv(UV);\n", String.append_assoc⟩

namespace Draft

theorem gapText_imageText (effects : List Effect) :
    gapText (ofEffects effects).imageText = trimText (
      (if (shadingEffects effects).any fun (e, _) => e.takesDepth then
        "float depth = readDepth(UV);\n\n" else "") ++
      String.join ((shadingEffects effects).map fun (e, k) => shadingText e k)) := by
  rw [imageText_ofEffects]
  apply gapText_of_head?
  split
  · rw [String.toList_append]
    simp [isBlank]
  · rw [String.empty_append]
    exact head?_calls (fun x : Effect × Nat => shadingText x.1 x.2)
      (fun x => exists_shadingText_eq x.1 x.2) (shadingEffects effects)

theorem gapText_uvText (effects : List Effect) :
    gapText (ofEffects effects).uvText = trimText (
      (if (movingEffects effects).isEmpty then "" else "vec2 transformedUv = vUv;\n") ++
      String.join ((movingEffects effects).map fun (_, k) => movingText k)) := by
  rw [uvText_ofEffects]
  apply gapText_of_head?
  split
  · rw [String.empty_append]
    exact head?_calls (fun x : Effect × Nat => movingText x.2)
      (fun x => exists_movingText_eq x.2) (movingEffects effects)
  · rw [String.toList_append]
    simp [isBlank]

/-! ## Blend functions and opacities -/

/-- The blend functions in use are those of the active effects. -/
theorem mem_blends_ofEffects {effects : List Effect} {f : BlendFunction} :
    f ∈ (ofEffects effects).blends.toList ↔
      ∃ e ∈ effects, e.isActive ∧ e.blend.function = f := by
  induction effects using List.reverseRecOn with
  | nil =>
    change f ∈ ([] : List BlendFunction) ↔ _
    simp
  | append_singleton effects e ih =>
    rw [ofEffects_append_singleton, absorb]
    cases ha : e.isActive
    · change f ∈ (ofEffects effects).blends.toList ↔ _
      rw [ih]
      simp [ha]
    · change f ∈ ((ofEffects effects).blends.insert e.blend.function).toList ↔ _
      rw [RankedSet.mem_insert (fun _ _ => BlendFunction.id_injective), ih]
      constructor
      · rintro (rfl | ⟨e', he, h⟩)
        · exact ⟨e, by simp, ha, rfl⟩
        · exact ⟨e', List.mem_append_left _ he, h⟩
      · rintro ⟨e', he, h⟩
        rcases List.mem_append.1 he with he | he
        · exact .inr ⟨e', he, h⟩
        · exact .inl (List.mem_singleton.1 he ▸ h.2.symm)

/-- A blend function in use has a text, for an effect blended by `skip` is not active. -/
theorem snippet?_ne_none {effects : List Effect} {f : BlendFunction}
    (h : f ∈ (ofEffects effects).blends.toList) : f.snippet? ≠ none := by
  obtain ⟨e, -, ha, rfl⟩ := mem_blends_ofEffects.1 h
  rw [Ne, BlendFunction.snippet?_eq_none_iff]
  simpa [Effect.isActive] using ha

theorem headText_ofEffects (effects : List Effect) :
    (ofEffects effects).headText =
      String.join ((ranked effects).map fun (e, k) => (Contribution.of k e).fragmentHead) ++
      String.join ((ofEffects effects).blends.toList.map definitionText) := by
  rw [headText, ofEffects_eq_join (·.fragmentHead) (·.fragmentHead) rfl (fun _ _ _ => rfl)
    fun _ _ => rfl, blendText]
  congr 2
  refine List.map_congr_left fun f hf => ?_
  obtain ⟨code, hc⟩ := Option.ne_none_iff_exists'.1 (snippet?_ne_none hf)
  rw [definitionText, hc]
  rfl

/-- The opacity that a shading line names is the one of its effect. -/
theorem get?_opacity_ofEffects {effects : List Effect} {e : Effect} {k : Nat}
    (h : (e, k) ∈ shadingEffects effects) :
    (ofEffects effects).uniforms.get? ("e" ++ toString k ++ "BlendOpacity") =
      some e.blend.opacity := by
  obtain ⟨hk, he⟩ := List.mem_filter.1 h
  clear h
  rw [← rankMark, ← opacityName_eq]
  induction effects using List.reverseRecOn with
  | nil => simp [ranked] at hk
  | append_singleton effects f ih =>
    rw [ranked_append_singleton] at hk
    rw [ofEffects_append_singleton, absorb]
    cases ha : f.isActive
    · rw [ha] at hk
      exact ih (by simpa using hk)
    · rw [ha, if_pos rfl, List.mem_append, List.mem_singleton] at hk
      change ((ofEffects effects).uniforms.extend
        (Contribution.of (ofEffects effects).rank f).uniforms).get? _ = _
      have nodup : (Contribution.of (ofEffects effects).rank f).uniforms.keys.Nodup :=
        Contribution.nodup_keys_mergedUniforms _ _ _
      rw [OrderedMap.get?_extend _ nodup]
      rcases hk with hk | hk
      · -- an earlier effect: no symbol of `f` is its opacity
        have hlt : k < (ofEffects effects).rank := by
          rw [rank_ofEffects]
          exact (List.getElem?_eq_some_iff.1 (mem_ranked_iff.1 hk)).1
        have absent : (Contribution.of (ofEffects effects).rank f).uniforms.get?
            (Contribution.opacityName (rankMark k)) = none := by
          rw [OrderedMap.get?_eq_none_iff]
          intro hm
          obtain ⟨name, hn⟩ := Contribution.mem_keys_mergedUniforms hm
          exact marked_ne_opacityName hlt name hn.symm
        rw [absent, ih hk]
        rfl
      · -- the last effect: its opacity is written after its own uniforms
        obtain ⟨rfl, rfl⟩ := Prod.mk.inj hk
        have own : (Contribution.of (ofEffects effects).rank e).uniforms.get?
            (Contribution.opacityName (rankMark (effects.filter (·.isActive)).length)) =
            some e.blend.opacity := by
          change (Contribution.mergedUniforms _ e e.symbols).get? _ = _
          rw [Contribution.mergedUniforms, if_pos he, OrderedMap.get?_insert, rank_ofEffects,
            if_pos rfl]
        rw [own]
        rfl

end Draft

/-- **A merged program folds the colour over its effects.** The calls of the shading effects stand
in order, each followed by the line that lays its colour, with its own opacity, over the colour so
far; the depth is read before them, once, if some call is given it. The calls that move the
coordinates stand in order too, and the coordinates to shade by are the moved ones if there are any.
Each blend function in use is defined once, by rising number. -/
theorem merge_folds_effects {effects : List Effect} {m : Merged} (h : merge effects = .ok m) :
    m.fragment = fill effectFragment [
      (fragmentHeadGap, Draft.gapText (
        String.join ((ranked effects).map fun (e, k) => (Contribution.of k e).fragmentHead) ++
        String.join (m.blends.map definitionText))),
      (mainUvGap, trimText (
        (if (movingEffects effects).isEmpty then "" else "vec2 transformedUv = vUv;\n") ++
        String.join ((movingEffects effects).map fun (_, k) => movingText k))),
      (mainImageGap, trimText (
        (if (shadingEffects effects).any fun (e, _) => e.takesDepth then
          "float depth = readDepth(UV);\n\n" else "") ++
        String.join ((shadingEffects effects).map fun (e, k) => shadingText e k)))] ∧
      m.defines.get? "UV" =
        some (if (movingEffects effects).isEmpty then "vUv" else "transformedUv") ∧
      (∀ e k, (e, k) ∈ shadingEffects effects → e.blend.function ∈ m.blends ∧
        m.uniforms.get? ("e" ++ toString k ++ "BlendOpacity") = some e.blend.opacity) ∧
      m.blends.Pairwise (fun f g => f.id < g.id) ∧ ∀ f ∈ m.blends, f.snippet? ≠ none := by
  obtain ⟨-, rfl⟩ := merge_eq_ok_iff.1 h
  refine ⟨?_, ?_, fun e k hk => ⟨?_, ?_⟩, (Draft.ofEffects effects).blends.rising,
    fun f hf => Draft.snippet?_ne_none hf⟩
  · have head := congrArg Draft.gapText (Draft.headText_ofEffects effects)
    have uv := Draft.gapText_uvText effects
    have image := Draft.gapText_imageText effects
    show fill effectFragment [
      (fragmentHeadGap, Draft.gapText (Draft.ofEffects effects).headText),
      (mainUvGap, Draft.gapText (Draft.ofEffects effects).uvText),
      (mainImageGap, Draft.gapText (Draft.ofEffects effects).imageText)] = _
    rw [head, uv, image]
    rfl
  · change ((Draft.ofEffects effects).defines.insert "UV" _).get? "UV" = _
    rw [OrderedMap.get?_insert, if_pos rfl, Draft.uvName, Draft.movesUv_eq]
    cases (movingEffects effects).isEmpty <;> rfl
  · obtain ⟨he, ha⟩ := exists_mem_ranked_iff.1 ⟨k, (List.mem_filter.1 hk).1⟩
    exact Draft.mem_blends_ofEffects.2 ⟨e, he, ha, rfl⟩
  · exact Draft.get?_opacity_ofEffects hk

/-- A moving effect, a skipped one and a shading one: the skipped one has no rank, and the moving one
counts among the ranks. -/
theorem merge_folds_shift_glow_tint :
    let shift := Effect.ofEntry "shift" "mainUv" ⟨.screen, ⟨0⟩⟩ .none
    let glow := Effect.ofEntry "glow" "mainImage" ⟨.skip, ⟨1⟩⟩ .none
    let tint := Effect.ofEntry "tint" "mainImage" ⟨.add, ⟨2⟩⟩ .none
    ∃ m head, merge [shift, glow, tint] = .ok m ∧
      m.fragment = fill effectFragment [(fragmentHeadGap, head),
        (mainUvGap, "vec2 transformedUv = vUv;\n\te0MainUv(UV);"),
        (mainImageGap, "e1MainImage(color0, UV, color1);\n\t" ++
          "color0 = blend1(color0, color1, e1BlendOpacity);")] ∧
      m.defines.get? "UV" = some "transformedUv" ∧
      m.uniforms.get? "e1BlendOpacity" = some ⟨2⟩ := by
  intro shift glow tint
  have accepted := merge_eq_ok_iff.2
    (⟨by decide +kernel, rfl⟩ : Mergeable [shift, glow, tint] ∧ _)
  have ranks : ranked [shift, glow, tint] = [(shift, 0), (tint, 1)] := rfl
  have shiftUv : shift.symbols.hasMainUv = true := by decide +kernel
  have shiftImage : shift.symbols.hasMainImage = false := by decide +kernel
  have tintUv : tint.symbols.hasMainUv = false := by decide +kernel
  have tintImage : tint.symbols.hasMainImage = true := by decide +kernel
  have moving : movingEffects [shift, glow, tint] = [(shift, 0)] := by
    simp [movingEffects, ranks, shiftUv, tintUv]
  have shading : shadingEffects [shift, glow, tint] = [(tint, 1)] := by
    simp [shadingEffects, ranks, shiftImage, tintImage]
  have uvText : trimText ((if [(shift, 0)].isEmpty then "" else "vec2 transformedUv = vUv;\n") ++
      String.join ([(shift, 0)].map fun (_, k) => movingText k)) =
      "vec2 transformedUv = vUv;\n\te0MainUv(UV);" := by
    decide +kernel
  have imageText : trimText ((if [(tint, 1)].any fun (e, _) => e.takesDepth then
        "float depth = readDepth(UV);\n\n" else "") ++
      String.join ([(tint, 1)].map fun (e, k) => shadingText e k)) =
      "e1MainImage(color0, UV, color1);\n\t" ++
        "color0 = blend1(color0, color1, e1BlendOpacity);" := by
    decide +kernel
  obtain ⟨fragment, uv, opacity, -⟩ := merge_folds_effects accepted
  rw [shading, moving, uvText, imageText] at fragment
  rw [shading] at opacity
  rw [moving] at uv
  exact ⟨_, _, accepted, fragment, uv, (opacity tint 1 List.mem_cons_self).2⟩

end ScreenEffects
