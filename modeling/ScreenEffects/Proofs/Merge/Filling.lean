import ScreenEffects.Proofs.Glsl.Filling
import ScreenEffects.Proofs.Merge.EntryPoints

/-!
# The gaps of a merged program

A merged program is one of the two templates with its gaps filled. The head is filled first, so what
the effects bring into it is searched for the gaps that follow. The other sections are calls, which
name no gap.

* `isInfix_headText_iff` and `isInfix_vertexHead_iff` : the head names a gap if some effect's
  contribution does.
* `merge_fills_gaps` : the sections stand in the place of their gaps, and stand there as they were
  exactly if no effect names a later gap.
* `merge_expands_comment` : an effect that does, in a comment, is called twice.
-/

namespace ScreenEffects

open Glsl

namespace Draft

/-- The sections of the fragment program, each with its gap. -/
def fragmentSections (d : Draft) : List (String × String) := [
  (fragmentHeadGap, gapText d.headText),
  (mainUvGap, gapText d.uvText),
  (mainImageGap, gapText d.imageText)]

/-- The sections of the vertex program, each with its gap. -/
def vertexSections (d : Draft) : List (String × String) := [
  (vertexHeadGap, gapText d.vertexHead),
  (mainSupportGap, gapText d.mainSupport)]

theorem fragment_finish (d : Draft) : d.finish.fragment = fill effectFragment d.fragmentSections :=
  rfl

theorem vertex_finish (d : Draft) : d.finish.vertex = fill effectVertex d.vertexSections := rfl

theorem sectionsOf_fragmentSections (d : Draft) : sectionsOf d.fragmentSections = [
    (fragmentHeadGap.toList, (gapText d.headText).toList),
    (mainUvGap.toList, (gapText d.uvText).toList),
    (mainImageGap.toList, (gapText d.imageText).toList)] := by
  simp only [sectionsOf, fragmentSections, List.map_cons, List.map_nil]

theorem sectionsOf_vertexSections (d : Draft) : sectionsOf d.vertexSections = [
    (vertexHeadGap.toList, (gapText d.vertexHead).toList),
    (mainSupportGap.toList, (gapText d.mainSupport).toList)] := by
  simp only [sectionsOf, vertexSections, List.map_cons, List.map_nil]

end Draft

/-! ## Words of a section -/

theorem isInfix_gapText_iff {p : List Char} (hw : IsWord p) (text : String) :
    p <:+: (Draft.gapText text).toList ↔ p <:+: text.toList := by
  have trimmed : p <:+: (trimText text).toList ↔ p <:+: text.toList := by
    rw [trimText, String.toList_ofList, isInfix_trimBlank_iff hw]
  rw [Draft.gapText]
  split
  · have hc : '\n' ∉ p := fun h => absurd (hw.2 _ h) (by decide)
    have line : ("\n" ++ trimText text).toList = [] ++ '\n' :: (trimText text).toList := by
      rw [String.toList_append]
      rfl
    rw [line, isInfix_append_cons_iff hc, List.infix_nil, or_iff_right hw.1, trimmed]
  · exact trimmed

theorem mem_gapText_iff {c : Char} (hc : isBlank c = false) (text : String) :
    c ∈ (Draft.gapText text).toList ↔ c ∈ text.toList := by
  rw [← List.singleton_infix_iff, ← List.singleton_infix_iff,
    isInfix_gapText_iff ⟨List.cons_ne_nil _ _, by simpa using hc⟩]

/-! ## Texts of the library's own

None of them has the `_` that every gap has. -/

theorem notMem_of_eq {c : Char} {s : String} {l : List Char} (hs : s = .ofList l) (h : c ∉ l) :
    c ∉ s.toList := by
  rwa [hs, String.toList_ofList]

theorem notMem_append {c : Char} {s t : String} (hs : c ∉ s.toList) (ht : c ∉ t.toList) :
    c ∉ (s ++ t).toList := by
  rw [String.toList_append, List.mem_append, not_or]
  exact ⟨hs, ht⟩

theorem underscore_notMem_toString (k : Nat) : '_' ∉ (toString k).toList := by
  rw [Nat.toString_eq_repr, Nat.toList_repr]
  intro h
  exact absurd (Nat.isDigit_of_mem_toDigits (by omega) (by omega) h) (by decide)

theorem underscore_notMem_movingText (k : Nat) : '_' ∉ (movingText k).toList := by
  simp [movingText]

theorem underscore_notMem_shadingText (e : Effect) (k : Nat) : '_' ∉ (shadingText e k).toList := by
  cases h : e.takesDepth <;> simp [shadingText, h]

theorem underscore_notMem_supportingText (e : Effect) (k : Nat) :
    '_' ∉ (supportingText e k).toList := by
  cases h : e.symbols.supportReadsUv <;> simp [supportingText, h]

theorem underscore_notMem_expression {f : BlendFunction} {text : String}
    (h : f.expression? = some text) : '_' ∉ text.toList := by
  cases f <;> cases h <;> first
    | exact notMem_of_eq rfl (by decide +kernel)
    | exact notMem_append (notMem_of_eq rfl (by decide +kernel))
        (notMem_of_eq rfl (by decide +kernel))

theorem underscore_notMem_alphaSnippet : '_' ∉ BlendFunction.alphaSnippet.toList := by
  delta BlendFunction.alphaSnippet
  iterate 3 refine notMem_append ?_ ?_
  all_goals exact notMem_of_eq rfl (by decide +kernel)

theorem underscore_notMem_componentSnippet {text : String} (h : '_' ∉ text.toList) :
    '_' ∉ (BlendFunction.componentSnippet text).toList := by
  delta BlendFunction.componentSnippet
  iterate 9 refine notMem_append ?_ ?_
  all_goals first | exact h | exact notMem_of_eq rfl (by decide +kernel)

theorem underscore_notMem_snippet {f : BlendFunction} {code : String}
    (h : f.snippet? = some code) : '_' ∉ code.toList := by
  rw [BlendFunction.snippet?] at h
  split at h
  · obtain rfl := Option.some.inj h
    exact underscore_notMem_alphaSnippet
  · obtain ⟨text, found, rfl⟩ := Option.map_eq_some_iff.1 h
    exact underscore_notMem_componentSnippet (underscore_notMem_expression found)

theorem underscore_notMem_definitionText (f : BlendFunction) :
    '_' ∉ (definitionText f).toList := by
  have snippet : '_' ∉ (f.snippet?.getD "").toList := by
    cases h : f.snippet? with
    | none => simp
    | some code => exact underscore_notMem_snippet h
  rw [definitionText, String.toList_append, List.mem_append, not_or]
  refine ⟨notMem_rename snippet fun name new found => ?_, by simp⟩
  obtain ⟨-, rfl⟩ := Prod.mk.inj (List.mem_singleton.1 (OrderedMap.mem_of_get?_ofList found))
  rw [String.toList_append, List.mem_append, not_or]
  exact ⟨by simp, underscore_notMem_toString f.id⟩

namespace Draft

theorem underscore_notMem_uvText (effects : List Effect) :
    '_' ∉ (gapText (ofEffects effects).uvText).toList := by
  rw [mem_gapText_iff (by decide), uvText_ofEffects]
  refine notMem_append (by cases (movingEffects effects).isEmpty <;> simp) ?_
  rw [String.toList_join, List.mem_flatMap]
  rintro ⟨text, hm, hc⟩
  obtain ⟨⟨e, k⟩, -, rfl⟩ := List.mem_map.1 hm
  exact underscore_notMem_movingText k hc

theorem underscore_notMem_imageText (effects : List Effect) :
    '_' ∉ (gapText (ofEffects effects).imageText).toList := by
  rw [mem_gapText_iff (by decide), imageText_ofEffects]
  refine notMem_append (by split <;> simp) ?_
  rw [String.toList_join, List.mem_flatMap]
  rintro ⟨text, hm, hc⟩
  obtain ⟨⟨e, k⟩, -, rfl⟩ := List.mem_map.1 hm
  exact underscore_notMem_shadingText e k hc

theorem underscore_notMem_mainSupport (effects : List Effect) :
    '_' ∉ (gapText (ofEffects effects).mainSupport).toList := by
  rw [mem_gapText_iff (by decide), mainSupport_ofEffects, String.toList_join, List.mem_flatMap]
  rintro ⟨text, hm, hc⟩
  obtain ⟨⟨e, k⟩, -, rfl⟩ := List.mem_map.1 hm
  exact underscore_notMem_supportingText e k hc

/-! ## The heads -/

theorem vertexHead_eq (k : Nat) (e : Effect) : (Contribution.of k e).vertexHead = "" ∨
    ∃ t, (Contribution.of k e).vertexHead = t ++ "\n" := by
  cases support : e.symbols.hasMainSupport <;> cases v : e.vertex <;>
    simp [Contribution.of, support, v]

/-- The head of the fragment program names a gap exactly if some effect's contribution does. -/
theorem isInfix_headText_iff {p : List Char} (hw : IsWord p) (hu : '_' ∈ p)
    (effects : List Effect) : p <:+: (gapText (ofEffects effects).headText).toList ↔
      ∃ e k, (e, k) ∈ ranked effects ∧ p <:+: (Contribution.of k e).fragmentHead.toList := by
  have lines : ∀ s ∈ (ranked effects).map (fun x => (Contribution.of x.2 x.1).fragmentHead) ++
      (ofEffects effects).blends.toList.map definitionText, s = "" ∨ ∃ t, s = t ++ "\n" := by
    intro s hs
    rcases List.mem_append.1 hs with hs | hs
    · obtain ⟨⟨e, k⟩, -, rfl⟩ := List.mem_map.1 hs
      exact .inr ⟨_, rfl⟩
    · obtain ⟨f, -, rfl⟩ := List.mem_map.1 hs
      exact .inr ⟨_, rfl⟩
  rw [isInfix_gapText_iff hw, headText_ofEffects, ← String.join_append, isInfix_join_iff hw lines]
  constructor
  · rintro ⟨s, hs, inside⟩
    rcases List.mem_append.1 hs with hs | hs
    · obtain ⟨⟨e, k⟩, hk, rfl⟩ := List.mem_map.1 hs
      exact ⟨e, k, hk, inside⟩
    · obtain ⟨f, -, rfl⟩ := List.mem_map.1 hs
      exact absurd (inside.subset hu) (underscore_notMem_definitionText f)
  · rintro ⟨e, k, hk, inside⟩
    exact ⟨_, List.mem_append_left _ (List.mem_map_of_mem hk), inside⟩

/-- So does the head of the vertex program. -/
theorem isInfix_vertexHead_iff {p : List Char} (hw : IsWord p) (effects : List Effect) :
    p <:+: (gapText (ofEffects effects).vertexHead).toList ↔
      ∃ e k, (e, k) ∈ ranked effects ∧ p <:+: (Contribution.of k e).vertexHead.toList := by
  rw [isInfix_gapText_iff hw, ofEffects_eq_join (·.vertexHead) (·.vertexHead) rfl (fun _ _ _ => rfl)
    fun _ _ => rfl, isInfix_join_iff hw fun s hs => ?_]
  · constructor
    · rintro ⟨s, hs, inside⟩
      obtain ⟨⟨e, k⟩, hk, rfl⟩ := List.mem_map.1 hs
      exact ⟨e, k, hk, inside⟩
    · rintro ⟨e, k, hk, inside⟩
      exact ⟨_, List.mem_map_of_mem hk, inside⟩
  · obtain ⟨⟨e, k⟩, -, rfl⟩ := List.mem_map.1 hs
    exact vertexHead_eq k e

end Draft

/-! ## A merge -/

/-- The effect of rank `k` names the gap in what it contributes to the head of the fragment program.
-/
def Effect.NamesInFragment (gap : String) (e : Effect) (k : Nat) : Prop :=
  gap.toList <:+: (Contribution.of k e).fragmentHead.toList

/-- The effect of rank `k` names the gap in what it contributes to the head of the vertex program.
-/
def Effect.NamesInVertex (gap : String) (e : Effect) (k : Nat) : Prop :=
  gap.toList <:+: (Contribution.of k e).vertexHead.toList

/-- The merge `m` is the two templates with the sections of the draft `d` in place of their gaps. -/
structure FillsGaps (effects : List Effect) (d : Draft) (m : Merged) : Prop where
  run : Draft.takeAll {} 0 effects = .ok d
  finished : m = d.finish
  fragmentGaps : Spaced ((sectionsOf d.fragmentSections).map (·.1)) effectFragment.toList
  vertexGaps : Spaced ((sectionsOf d.vertexSections).map (·.1)) effectVertex.toList
  fragment : InPlace (settled (sectionsOf d.fragmentSections)) effectFragment.toList
    m.fragment.toList
  vertex : InPlace (settled (sectionsOf d.vertexSections)) effectVertex.toList m.vertex.toList
  fragment_verbatim_iff : InPlace (sectionsOf d.fragmentSections) effectFragment.toList
    m.fragment.toList ↔ ∀ e k, (e, k) ∈ ranked effects →
      ¬ e.NamesInFragment mainUvGap k ∧ ¬ e.NamesInFragment mainImageGap k
  vertex_verbatim_iff : InPlace (sectionsOf d.vertexSections) effectVertex.toList
    m.vertex.toList ↔ ∀ e k, (e, k) ∈ ranked effects → ¬ e.NamesInVertex mainSupportGap k

theorem isWord_gap : ∀ gap ∈ [fragmentHeadGap, mainUvGap, mainImageGap, vertexHeadGap,
    mainSupportGap], IsWord gap.toList ∧ '_' ∈ gap.toList := by
  decide +kernel

namespace Draft

theorem isWord_of_mem_fragmentSections (d : Draft) :
    ∀ s ∈ sectionsOf d.fragmentSections, IsWord s.1 := by
  rw [sectionsOf_fragmentSections]
  simp [isWord_gap]

theorem spaced_fragmentSections (d : Draft) :
    Spaced ((sectionsOf d.fragmentSections).map (·.1)) effectFragment.toList := by
  simpa only [sectionsOf_fragmentSections, List.map_cons, List.map_nil] using spaced_effectFragment

theorem isWord_of_mem_vertexSections (d : Draft) :
    ∀ s ∈ sectionsOf d.vertexSections, IsWord s.1 := by
  rw [sectionsOf_vertexSections]
  simp [isWord_gap]

theorem spaced_vertexSections (d : Draft) :
    Spaced ((sectionsOf d.vertexSections).map (·.1)) effectVertex.toList := by
  simpa only [sectionsOf_vertexSections, List.map_cons, List.map_nil] using spaced_effectVertex

theorem fragment_verbatim_iff (effects : List Effect) :
    InPlace (sectionsOf (ofEffects effects).fragmentSections) effectFragment.toList
      (ofEffects effects).finish.fragment.toList ↔ ∀ e k, (e, k) ∈ ranked effects →
        ¬ e.NamesInFragment mainUvGap k ∧ ¬ e.NamesInFragment mainImageGap k := by
  rw [fragment_finish, toList_fill, sectionsOf_fragmentSections,
    inPlace_iff_absent (c := '_') (by simp [isWord_gap]) (by simp [isWord_gap])
      (by simp [isWord_gap, underscore_notMem_uvText, underscore_notMem_imageText])
      spaced_effectFragment]
  have names {gap : String} (hg : IsWord gap.toList ∧ '_' ∈ gap.toList) :
      ¬ gap.toList <:+: (gapText (ofEffects effects).headText).toList ↔
        ∀ e k, (e, k) ∈ ranked effects → ¬ e.NamesInFragment gap k := by
    rw [isInfix_headText_iff hg.1 hg.2]
    simp only [not_exists, not_and, Effect.NamesInFragment]
  rw [List.forall_mem_cons, List.forall_mem_singleton, names (isWord_gap mainUvGap (by simp)),
    names (isWord_gap mainImageGap (by simp))]
  simp only [← forall_and]

theorem vertex_verbatim_iff (effects : List Effect) :
    InPlace (sectionsOf (ofEffects effects).vertexSections) effectVertex.toList
      (ofEffects effects).finish.vertex.toList ↔ ∀ e k, (e, k) ∈ ranked effects →
        ¬ e.NamesInVertex mainSupportGap k := by
  rw [vertex_finish, toList_fill, sectionsOf_vertexSections,
    inPlace_iff_absent (c := '_') (by simp [isWord_gap]) (by simp [isWord_gap])
      (by simp [isWord_gap, underscore_notMem_mainSupport]) spaced_effectVertex,
    List.forall_mem_singleton, isInfix_vertexHead_iff (isWord_gap mainSupportGap (by simp)).1]
  simp only [not_exists, not_and, Effect.NamesInVertex]

end Draft

theorem fillsGaps_of_merge {effects : List Effect} {m : Merged} (h : merge effects = .ok m) :
    FillsGaps effects (Draft.ofEffects effects) m := by
  obtain ⟨hm, rfl⟩ := merge_eq_ok_iff.1 h
  exact {
    run := hm.takeAll_eq_ok
    finished := rfl
    fragmentGaps := Draft.spaced_fragmentSections _
    vertexGaps := Draft.spaced_vertexSections _
    fragment := by
      rw [Draft.fragment_finish, toList_fill]
      exact inPlace_fillAll (Draft.isWord_of_mem_fragmentSections _)
        (Draft.spaced_fragmentSections _)
    vertex := by
      rw [Draft.vertex_finish, toList_fill]
      exact inPlace_fillAll (Draft.isWord_of_mem_vertexSections _) (Draft.spaced_vertexSections _)
    fragment_verbatim_iff := Draft.fragment_verbatim_iff effects
    vertex_verbatim_iff := Draft.vertex_verbatim_iff effects }

/-- **A merged program is its template with each section in the place of its gap.** Each gap stands
once in the template, and what is written there is the finished section; in the head, which is
written first, the later gaps are filled as well. So the sections stand there as they were finished
exactly if no effect names a later gap in what it brings into the head, be it in its text, in a
comment or in a symbol that got its mark. -/
theorem merge_fills_gaps {effects : List Effect} {m : Merged} (h : merge effects = .ok m) :
    ∃ d, FillsGaps effects d m :=
  ⟨_, fillsGaps_of_merge h⟩

/-- An effect with a vertex body: no text of it names a gap, so all five sections are verbatim. -/
theorem merge_fills_gaps_sway :
    let sway := { Effect.ofEntry "sway" "mainImage" ⟨.normal, ⟨0⟩⟩ .none with
      vertex := some "void mainSupport() \x7b\x7d" }
    ∃ m d, merge [sway] = .ok m ∧ FillsGaps [sway] d m ∧
      InPlace (sectionsOf d.fragmentSections) effectFragment.toList m.fragment.toList ∧
      InPlace (sectionsOf d.vertexSections) effectVertex.toList m.vertex.toList := by
  intro sway
  have accepted := merge_eq_ok_iff.2 (⟨by decide +kernel, rfl⟩ : Mergeable [sway] ∧ _)
  obtain ⟨d, fills⟩ := merge_fills_gaps accepted
  have ranks : ranked [sway] = [(sway, 0)] := rfl
  have fragment : ¬ sway.NamesInFragment mainUvGap 0 ∧ ¬ sway.NamesInFragment mainImageGap 0 := by
    constructor <;> delta Effect.NamesInFragment <;> decide +kernel
  have vertex : ¬ sway.NamesInVertex mainSupportGap 0 := by
    delta Effect.NamesInVertex
    decide +kernel
  refine ⟨_, d, accepted, fills, fills.fragment_verbatim_iff.2 fun e k hk => ?_,
    fills.vertex_verbatim_iff.2 fun e k hk => ?_⟩
  all_goals
    rw [ranks, List.mem_singleton] at hk
    obtain ⟨rfl, rfl⟩ := Prod.mk.inj hk
    assumption

/-- A comment that names the gap of the shading calls is filled with them: the head does not stand in
its place as it was finished, and from the second line on the calls are no comment. -/
theorem merge_expands_comment :
    let loud := { Effect.ofEntry "loud" "mainImage" ⟨.normal, ⟨0⟩⟩ .none with
      fragment := "// FRAGMENT_MAIN_IMAGE\n" ++
        "void mainImage(const in vec4 inputColor, const in vec2 uv, out vec4 outputColor) " ++
        "\x7b\x7d" }
    ∃ m d, merge [loud] = .ok m ∧ Draft.takeAll {} 0 [loud] = .ok d ∧ m = d.finish ∧
      loud.NamesInFragment mainImageGap 0 ∧
      ¬ InPlace (sectionsOf d.fragmentSections) effectFragment.toList m.fragment.toList := by
  intro loud
  have accepted := merge_eq_ok_iff.2 (⟨by decide +kernel, rfl⟩ : Mergeable [loud] ∧ _)
  have fills := fillsGaps_of_merge accepted
  have names : loud.NamesInFragment mainImageGap 0 := by
    delta Effect.NamesInFragment
    decide +kernel
  have first : (loud, 0) ∈ ranked [loud] := List.mem_singleton_self _
  exact ⟨_, _, accepted, fills.run, fills.finished, names, fun verbatim =>
    (fills.fragment_verbatim_iff.1 verbatim loud 0 first).2 names⟩

end ScreenEffects
