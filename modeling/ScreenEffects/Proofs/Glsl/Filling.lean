import Mathlib.Algebra.GroupWithZero.Nat
import Mathlib.Data.List.Infix
import Mathlib.Data.List.Flatten
import ScreenEffects.Glsl.Template
import ScreenEffects.Text.Blank

/-!
# Filling the gaps of a template

A template is filled one gap after the other, so a section that stands in the text already is
searched for the gaps that come later. In a template whose gaps stand each once, in order and
between blanks, no gap is found anywhere else: neither in a piece of the template nor across the
edge of a section. What is left to say is what the later gaps do to a section.

* `InPlace` : a text is a template with a section in the place of each gap.
* `inPlace_fillAll` : filling puts each section in its place, after the later gaps are filled in it.
* `inPlace_iff_absent` : the sections stay as they are exactly if the first names no later gap.
-/

namespace ScreenEffects

/-! ## Occurrences of a word -/

section Infix

variable {p : List Char} {c : Char}

/-- What has no `c` in it does not reach over a `c`. -/
theorem isPrefix_append_cons_iff (hc : c ∉ p) (s t : List Char) :
    p <+: s ++ c :: t ↔ p <+: s := by
  refine ⟨fun h => ?_, fun h => h.trans (List.prefix_append s _)⟩
  induction s generalizing p with
  | nil =>
    cases p with
    | nil => exact List.nil_prefix
    | cons a p =>
      obtain ⟨rfl, -⟩ := List.cons_prefix_cons.1 h
      exact absurd List.mem_cons_self hc
  | cons a s ih =>
    cases p with
    | nil => exact List.nil_prefix
    | cons b p =>
      obtain ⟨rfl, rest⟩ := List.cons_prefix_cons.1 h
      exact List.cons_prefix_cons.2 ⟨rfl, ih (List.not_mem_of_not_mem_cons hc) rest⟩

theorem isInfix_append_cons_iff (hc : c ∉ p) (s t : List Char) :
    p <:+: s ++ c :: t ↔ p <:+: s ∨ p <:+: t := by
  induction s with
  | nil =>
    rw [List.nil_append, List.infix_cons_iff, List.infix_nil, ← List.nil_append (c :: t),
      isPrefix_append_cons_iff hc, List.prefix_nil]
  | cons a s ih =>
    rw [List.cons_append, List.infix_cons_iff, List.infix_cons_iff, ← List.cons_append,
      isPrefix_append_cons_iff hc, ih, or_assoc]

theorem isInfix_dropWhile_iff {q : Char → Bool} (hp : p ≠ []) (hq : ∀ a ∈ p, q a = false)
    (s : List Char) : p <:+: s.dropWhile q ↔ p <:+: s := by
  induction s with
  | nil => rfl
  | cons a s ih =>
    cases ha : q a with
    | false => rw [List.dropWhile_cons_of_neg (by simp [ha])]
    | true =>
      have hm : a ∉ p := fun h => by simp [hq a h] at ha
      rw [List.dropWhile_cons_of_pos ha, ih, ← List.nil_append (a :: s),
        isInfix_append_cons_iff hm, List.infix_nil]
      exact (or_iff_right hp).symm

/-- A word: it has characters, and none is blank. -/
def IsWord (p : List Char) : Prop := p ≠ [] ∧ ∀ c ∈ p, isBlank c = false

-- The characters are decided along the list, never over all that there are.
instance (p : List Char) : Decidable (IsWord p) :=
  letI := List.decidableBAll (fun c => isBlank c = false) p
  instDecidableAnd

theorem isInfix_trimBlank_iff (hw : IsWord p) (s : List Char) :
    p <:+: trimBlank s ↔ p <:+: s := by
  rw [trimBlank, ← List.reverse_infix, List.reverse_reverse,
    isInfix_dropWhile_iff (by simpa using hw.1) (by simpa using hw.2), List.reverse_infix,
    isInfix_dropWhile_iff hw.1 hw.2]

/-- A word of a text of closed lines is in one of them. -/
theorem isInfix_join_iff (hw : IsWord p) {l : List String}
    (hl : ∀ s ∈ l, s = "" ∨ ∃ t, s = t ++ "\n") :
    p <:+: (String.join l).toList ↔ ∃ s ∈ l, p <:+: s.toList := by
  have hc : '\n' ∉ p := fun h => absurd (hw.2 _ h) (by decide)
  rw [String.toList_join]
  induction l with
  | nil => simp [hw.1]
  | cons s l ih =>
    obtain ⟨first, rest⟩ := List.forall_mem_cons.1 hl
    rw [List.flatMap_cons, List.exists_mem_cons_iff]
    refine Iff.trans ?_ (or_congr_right (ih rest))
    rcases first with rfl | ⟨t, rfl⟩
    · simp [hw.1]
    · have line : (t ++ "\n").toList = t.toList ++ '\n' :: [] := by
        rw [String.toList_append]
        rfl
      rw [line, List.append_assoc, List.cons_append, isInfix_append_cons_iff hc,
        isInfix_append_cons_iff hc, List.nil_append, List.infix_nil, or_iff_left hw.1]

end Infix

/-! ## Replacement -/

section Replace

variable {p : List Char} (r : List Char)

theorem replaceAll_eq (hp : p ≠ []) (s : List Char) : replaceAll p r s = replaceFrom p r 0 s := by
  rw [replaceAll, if_neg (by simpa using hp)]

theorem replaceFrom_eq_drop (skip : Nat) (s : List Char) :
    replaceFrom p r skip s = replaceFrom p r 0 (s.drop skip) := by
  induction s generalizing skip with
  | nil => simp [replaceFrom]
  | cons a s ih =>
    cases skip with
    | zero => rfl
    | succ skip => exact ih skip

/-- An occurrence at the start is replaced. -/
theorem replaceAll_self_append (hp : p ≠ []) (s : List Char) :
    replaceAll p r (p ++ s) = r ++ replaceAll p r s := by
  rw [replaceAll_eq r hp, replaceAll_eq r hp]
  obtain ⟨a, p, rfl⟩ := List.exists_cons_of_ne_nil hp
  rw [List.cons_append, replaceFrom, ← List.cons_append,
    if_pos (List.isPrefixOf_iff_prefix.2 (List.prefix_append _ _)), replaceFrom_eq_drop]
  simp

/-- A character at which no occurrence starts is kept. -/
theorem replaceAll_cons (hp : p ≠ []) {a : Char} {s : List Char} (h : ¬ p <+: a :: s) :
    replaceAll p r (a :: s) = a :: replaceAll p r s := by
  rw [replaceAll_eq r hp, replaceAll_eq r hp, replaceFrom,
    if_neg (List.isPrefixOf_iff_prefix.not.2 h)]

theorem replaceAll_nil (hp : p ≠ []) : replaceAll p r [] = [] := by
  rw [replaceAll_eq r hp, replaceFrom]

/-- A text is replaced from its start on: an occurrence there, or one character. -/
theorem replace_induction (hp : p ≠ []) {motive : List Char → Prop} (nil : motive [])
    (found : ∀ s, motive s → motive (p ++ s))
    (kept : ∀ a s, ¬ p <+: a :: s → motive s → motive (a :: s)) (s : List Char) : motive s := by
  induction h : s.length using Nat.strong_induction_on generalizing s with
  | _ n ih =>
    cases s with
    | nil => exact nil
    | cons a s =>
      by_cases starts : p <+: a :: s
      · obtain ⟨t, ht⟩ := starts
        rw [← ht] at h ⊢
        have := List.length_pos_iff.2 hp
        exact found t (ih t.length (by rw [← h, List.length_append]; omega) t rfl)
      · exact kept a s starts (ih s.length (by rw [← h]; simp) s rfl)

theorem replaceAll_append_cons {c : Char} (hp : p ≠ []) (hc : c ∉ p) (s t : List Char) :
    replaceAll p r (s ++ c :: t) = replaceAll p r s ++ c :: replaceAll p r t := by
  induction s using replace_induction hp with
  | nil =>
    have absent : ¬ p <+: c :: t := by
      rw [← List.nil_append (c :: t), isPrefix_append_cons_iff hc, List.prefix_nil]
      exact hp
    rw [List.nil_append, replaceAll_cons r hp absent, replaceAll_nil r hp, List.nil_append]
  | found s ih =>
    rw [List.append_assoc, replaceAll_self_append r hp, ih, replaceAll_self_append r hp,
      List.append_assoc]
  | kept a s absent ih =>
    have longer : ¬ p <+: a :: (s ++ c :: t) := by
      rwa [← List.cons_append, isPrefix_append_cons_iff hc]
    rw [List.cons_append, replaceAll_cons r hp longer, ih, replaceAll_cons r hp absent,
      List.cons_append]

theorem replaceAll_of_not_isInfix (hp : p ≠ []) {s : List Char} (h : ¬ p <:+: s) :
    replaceAll p r s = s := by
  induction s with
  | nil => exact replaceAll_nil r hp
  | cons a s ih =>
    obtain ⟨first, rest⟩ := not_or.1 (List.infix_cons_iff.not.1 h)
    rw [replaceAll_cons r hp first, ih rest]

section Count

variable {c : Char} {r}

theorem count_replaceAll_le (hp : p ≠ []) (hr : c ∉ r) (s : List Char) :
    (replaceAll p r s).count c ≤ s.count c := by
  induction s using replace_induction hp with
  | nil => rw [replaceAll_nil r hp]
  | found s ih =>
    rw [replaceAll_self_append r hp, List.count_append, List.count_append,
      List.count_eq_zero.2 hr]
    omega
  | kept a s absent ih =>
    rw [replaceAll_cons r hp absent, List.count_cons, List.count_cons]
    omega

/-- Each occurrence takes its `c` along. -/
theorem count_replaceAll_lt (hc : c ∈ p) (hr : c ∉ r) {s : List Char} (h : p <:+: s) :
    (replaceAll p r s).count c < s.count c := by
  have hp : p ≠ [] := List.ne_nil_of_mem hc
  induction s with
  | nil => exact absurd (List.infix_nil.1 h) hp
  | cons a s ih =>
    by_cases starts : p <+: a :: s
    · obtain ⟨t, ht⟩ := starts
      have rest := count_replaceAll_le hp hr t
      have own := List.count_pos_iff.2 hc
      rw [← ht, replaceAll_self_append r hp, List.count_append, List.count_append,
        List.count_eq_zero.2 hr]
      omega
    · have rest := ih ((List.infix_cons_iff.1 h).resolve_left starts)
      rw [replaceAll_cons r hp starts, List.count_cons, List.count_cons]
      omega

end Count

end Replace

namespace Glsl

/-! ## Templates -/

/-- A section with the gap that it fills. -/
abbrev Section := List Char × List Char

/-- `text` is `template` with each section in the place of its gap, in order. -/
inductive InPlace : List Section → List Char → List Char → Prop
  | last (rest : List Char) : InPlace [] rest rest
  | gap (before gap filled : List Char) {sections : List Section} {rest text : List Char} :
      InPlace sections rest text →
        InPlace ((gap, filled) :: sections) (before ++ gap ++ rest) (before ++ filled ++ text)

theorem InPlace.cons {sections : List Section} {template text : List Char} (c : Char)
    (h : InPlace sections template text) : InPlace sections (c :: template) (c :: text) := by
  cases h with
  | last => exact .last _
  | gap before gap filled rest => exact .gap (c :: before) gap filled rest

/-- What a section has more of a character than its gap, the text has more than the template. -/
theorem InPlace.count (c : Char) {sections : List Section} {template text : List Char}
    (h : InPlace sections template text) :
    text.count c + (sections.map fun s => s.1.count c).sum =
      template.count c + (sections.map fun s => s.2.count c).sum := by
  induction h with
  | last => simp
  | gap before gap filled rest ih =>
    simp only [List.count_append, List.map_cons, List.sum_cons]
    omega

/-- The gaps stand in the template in this order, each once and between blanks. -/
inductive Spaced : List (List Char) → List Char → Prop
  | last (rest : List Char) : Spaced [] rest
  | gap {gap before rest : List Char} {c d : Char} {gaps : List (List Char)} (hc : isBlank c)
      (hd : isBlank d) (hb : ∀ g ∈ gap :: gaps, ¬ g <:+: before) (hr : ¬ gap <:+: rest)
      (h : Spaced gaps rest) : Spaced (gap :: gaps) (before ++ c :: gap ++ d :: rest)

/-- Looks for the gaps one after the other. -/
def isSpaced : List (List Char) → List Char → Bool
  | [], _ => true
  | gap :: gaps, text =>
    match text.dropInfix? gap with
    | some (before, d :: rest) =>
      before.getLast?.any isBlank && isBlank d &&
        ((gap :: gaps).all fun g => decide (¬ g <:+: before)) && decide (¬ gap <:+: rest) &&
        isSpaced gaps rest
    | _ => false

theorem spaced_of_isSpaced {gaps : List (List Char)} {text : List Char}
    (h : isSpaced gaps text = true) : Spaced gaps text := by
  induction gaps generalizing text with
  | nil => exact .last text
  | cons gap gaps ih =>
    rw [isSpaced] at h
    split at h
    · rename_i before d rest found
      obtain ⟨⟨gap', rfl, same⟩, -⟩ := List.dropInfix?_eq_some_iff.1 found
      obtain rfl := eq_of_beq same
      simp only [Bool.and_eq_true, List.all_eq_true, decide_eq_true_eq] at h
      obtain ⟨⟨⟨⟨edge, hd⟩, hb⟩, hr⟩, tail⟩ := h
      rcases List.eq_nil_or_concat before with rfl | ⟨before, c, rfl⟩
      · simp at edge
      · have spaced : Spaced (gap' :: gaps) (before ++ c :: gap' ++ d :: rest) :=
          .gap (by simpa using edge) hd
            (fun g hg inside => hb g hg (inside.trans (List.prefix_concat c before).isInfix)) hr
            (ih tail)
        simpa using spaced
    · exact absurd h Bool.false_ne_true

theorem toList_textOfLines {lines : List String} {chars : List (List Char)}
    (h : List.Forall₂ (fun line l => line = .ofList l) lines chars) :
    (textOfLines lines).toList = chars.flatMap (· ++ ['\n']) := by
  rw [textOfLines, String.toList_join, List.flatMap_map]
  induction h with
  | nil => rfl
  | cons first _ ih =>
    rw [List.flatMap_cons, List.flatMap_cons, ih, first, String.toList_append,
      String.toList_ofList]
    rfl

/-! The templates are read line by line, for the characters of a line are cheap to find. -/

theorem spaced_effectFragment :
    Spaced [fragmentHeadGap.toList, mainUvGap.toList, mainImageGap.toList]
      effectFragment.toList := by
  rw [effectFragment, toList_textOfLines (by repeat' constructor)]
  exact spaced_of_isSpaced (by decide +kernel)

theorem spaced_effectVertex :
    Spaced [vertexHeadGap.toList, mainSupportGap.toList] effectVertex.toList := by
  rw [effectVertex, toList_textOfLines (by repeat' constructor)]
  exact spaced_of_isSpaced (by decide +kernel)

/-! ## Filling -/

/-- The sections written one after the other, each for every occurrence of its gap. -/
def fillAll (sections : List Section) (text : List Char) : List Char :=
  sections.foldl (fun t s => replaceAll s.1 s.2 t) text

/-- The characters of named sections. -/
def sectionsOf (sections : List (String × String)) : List Section :=
  sections.map fun s => (s.1.toList, s.2.toList)

theorem toList_fill (template : String) (sections : List (String × String)) :
    (fill template sections).toList = fillAll (sectionsOf sections) template.toList := by
  induction sections generalizing template with
  | nil => rfl
  | cons s sections ih =>
    have first := ih (replaceText s.1 s.2 template)
    rwa [replaceText, String.toList_ofList] at first

/-- The sections as they end up in the text: the later gaps are filled in them too. -/
def settled : List Section → List Section
  | [] => []
  | (gap, filled) :: later => (gap, fillAll later filled) :: settled later

section Fill

variable {sections : List Section}

theorem fillAll_append_cons (hw : ∀ s ∈ sections, IsWord s.1) {c : Char} (hc : isBlank c)
    (s t : List Char) : fillAll sections (s ++ c :: t) =
      fillAll sections s ++ c :: fillAll sections t := by
  induction sections generalizing s t with
  | nil => rfl
  | cons x sections ih =>
    obtain ⟨first, rest⟩ := List.forall_mem_cons.1 hw
    have absent : c ∉ x.1 := fun h => by simp [first.2 c h] at hc
    change fillAll sections (replaceAll x.1 x.2 (s ++ c :: t)) = _
    rw [replaceAll_append_cons x.2 first.1 absent, ih rest]
    rfl

theorem fillAll_of_absent (hw : ∀ s ∈ sections, IsWord s.1) {text : List Char}
    (h : ∀ s ∈ sections, ¬ s.1 <:+: text) : fillAll sections text = text := by
  induction sections with
  | nil => rfl
  | cons x sections ih =>
    obtain ⟨first, rest⟩ := List.forall_mem_cons.1 hw
    obtain ⟨absent, later⟩ := List.forall_mem_cons.1 h
    change fillAll sections (replaceAll x.1 x.2 text) = text
    rw [replaceAll_of_not_isInfix x.2 first.1 absent, ih rest later]

theorem count_fillAll_le {c : Char} (hs : ∀ s ∈ sections, c ∈ s.1 ∧ c ∉ s.2) (text : List Char) :
    (fillAll sections text).count c ≤ text.count c := by
  induction sections generalizing text with
  | nil => rfl
  | cons x sections ih =>
    obtain ⟨⟨marked, bare⟩, rest⟩ := List.forall_mem_cons.1 hs
    exact (ih rest _).trans (count_replaceAll_le (List.ne_nil_of_mem marked) bare text)

/-- A text keeps its `c` exactly if it names none of the gaps, if each gap has one and no section. -/
theorem count_fillAll_eq_iff (hw : ∀ s ∈ sections, IsWord s.1) {c : Char}
    (hs : ∀ s ∈ sections, c ∈ s.1 ∧ c ∉ s.2) (text : List Char) :
    (fillAll sections text).count c = text.count c ↔ ∀ s ∈ sections, ¬ s.1 <:+: text := by
  refine ⟨fun same => ?_, fun h => by rw [fillAll_of_absent hw h]⟩
  induction sections with
  | nil => simp
  | cons x sections ih =>
    obtain ⟨first, rest⟩ := List.forall_mem_cons.1 hw
    obtain ⟨⟨marked, bare⟩, later⟩ := List.forall_mem_cons.1 hs
    change (fillAll sections (replaceAll x.1 x.2 text)).count c = _ at same
    have absent : ¬ x.1 <:+: text := fun found => by
      have lost := count_replaceAll_lt marked bare found
      have := count_fillAll_le later (replaceAll x.1 x.2 text)
      omega
    rw [replaceAll_of_not_isInfix x.2 first.1 absent] at same
    exact List.forall_mem_cons.2 ⟨absent, ih rest later same⟩

/-- Sections that name no gap stay as they are. -/
theorem settled_of_bare (hw : ∀ s ∈ sections, IsWord s.1) {c : Char}
    (hs : ∀ s ∈ sections, c ∈ s.1 ∧ c ∉ s.2) : settled sections = sections := by
  induction sections with
  | nil => rfl
  | cons x later ih =>
    obtain ⟨gap, filled⟩ := x
    obtain ⟨-, rest⟩ := List.forall_mem_cons.1 hw
    obtain ⟨⟨-, bare⟩, marks⟩ := List.forall_mem_cons.1 hs
    rw [settled, ih rest marks, fillAll_of_absent rest fun s hs inside =>
      bare (inside.subset (marks s hs).1)]

/-- **Filling puts each section in the place of its gap**, once the later gaps are filled in it. -/
theorem inPlace_fillAll (hw : ∀ s ∈ sections, IsWord s.1) {template : List Char}
    (h : Spaced (sections.map (·.1)) template) :
    InPlace (settled sections) template (fillAll sections template) := by
  induction sections generalizing template with
  | nil => exact .last template
  | cons x later ih =>
    obtain ⟨gap, filled⟩ := x
    obtain ⟨first, rest⟩ := List.forall_mem_cons.1 hw
    cases h with
    | gap hc hd hb hr h =>
      rename_i before tail c d
      have ahead : fillAll ((gap, filled) :: later) before = before :=
        fillAll_of_absent hw fun s hs => hb s.1 (List.mem_map_of_mem (f := (·.1)) hs)
      have own : fillAll ((gap, filled) :: later) gap = fillAll later filled := by
        have here := replaceAll_self_append filled first.1 []
        rw [List.append_nil, replaceAll_nil filled first.1, List.append_nil] at here
        change fillAll later (replaceAll gap filled gap) = _
        rw [here]
      have behind : fillAll ((gap, filled) :: later) tail = fillAll later tail := by
        change fillAll later (replaceAll gap filled tail) = _
        rw [replaceAll_of_not_isInfix filled first.1 hr]
      have whole : fillAll ((gap, filled) :: later) (before ++ c :: gap ++ d :: tail) =
          (before ++ [c]) ++ fillAll later filled ++ d :: fillAll later tail := by
        rw [fillAll_append_cons hw hd, fillAll_append_cons hw hc, ahead, own, behind]
        simp
      rw [whole, show before ++ c :: gap ++ d :: tail = (before ++ [c]) ++ gap ++ d :: tail by simp]
      exact .gap _ gap _ ((ih rest h).cons d)

/-- If only the first section can name gaps, filling writes the sections as they are exactly if it
names none. -/
theorem inPlace_iff_absent {gap filled : List Char} (hg : IsWord gap)
    (hw : ∀ s ∈ sections, IsWord s.1) {c : Char} (hs : ∀ s ∈ sections, c ∈ s.1 ∧ c ∉ s.2)
    {template : List Char} (h : Spaced (gap :: sections.map (·.1)) template) :
    InPlace ((gap, filled) :: sections) template (fillAll ((gap, filled) :: sections) template) ↔
      ∀ s ∈ sections, ¬ s.1 <:+: filled := by
  have words : ∀ s ∈ (gap, filled) :: sections, IsWord s.1 := List.forall_mem_cons.2 ⟨hg, hw⟩
  have holds := inPlace_fillAll words h
  rw [settled, settled_of_bare hw hs] at holds
  refine ⟨fun verbatim => ?_, fun absent => ?_⟩
  · have filledCount := holds.count c
    have verbatimCount := verbatim.count c
    simp only [List.map_cons, List.sum_cons] at filledCount verbatimCount
    exact (count_fillAll_eq_iff hw hs filled).1 (by omega)
  · rwa [fillAll_of_absent hw absent] at holds

end Fill

end Glsl

end ScreenEffects
