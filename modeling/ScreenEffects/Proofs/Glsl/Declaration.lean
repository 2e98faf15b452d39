import Mathlib.Data.List.Induction
import ScreenEffects.Glsl.Declaration
import ScreenEffects.Proofs.Glsl.Identifier

/-!
# Reading declarations

Declarations are found by reading a shape at the start of each word, from left to right, and going
on behind what was read. A reader who goes on behind a shape could miss another that starts inside
it; where no shape starts inside another, all are read (`scanShapes_eq_filterMap`). What is read of
a function is its heading, up to the brace (`functionAt?_eq_some_iff`), and each name is kept once,
where it first occurs (`mem_distinctNames_iff`, `pairwise_distinctNames`).
-/

namespace ScreenEffects.Glsl

/-! ## Starts of words -/

/-- The ends of a text that start with a word, the longest first. `inWord` says that a word
character stands before the text. -/
def wordStarts : Bool → List Char → List (List Char)
  | _, [] => []
  | inWord, c :: s =>
    (if !inWord && isWordChar c then [c :: s] else []) ++ wordStarts (isWordChar c) s

/-- A word character stands right behind `before`, or before that if `before` is empty. -/
def endsInWord (inWord : Bool) (before : List Char) : Bool :=
  (before.getLast?.map isWordChar).getD inWord

theorem endsInWord_cons (inWord : Bool) (c : Char) (s : List Char) :
    endsInWord inWord (c :: s) = endsInWord (isWordChar c) s := by
  rw [endsInWord, endsInWord, List.getLast?_cons, Option.map_some, Option.getD_some,
    Option.getD_map]

variable {s t : List Char}

theorem mem_wordStarts {inWord : Bool} :
    t ∈ wordStarts inWord s ↔ ∃ before, s = before ++ t ∧ endsInWord inWord before = false ∧
      t.head?.any isWordChar = true := by
  induction s generalizing inWord with
  | nil =>
    refine ⟨nofun, ?_⟩
    rintro ⟨before, text, -, start⟩
    rw [(List.append_eq_nil_iff.1 text.symm).2] at start
    cases start
  | cons c s ih =>
    have first : t ∈ (if !inWord && isWordChar c then [c :: s] else []) ↔
        c :: s = t ∧ inWord = false ∧ t.head?.any isWordChar = true := by
      by_cases start : (!inWord && isWordChar c) = true
      · rw [if_pos start, List.mem_singleton]
        rw [Bool.and_eq_true, Bool.not_eq_true'] at start
        exact ⟨fun h => ⟨h.symm, start.1, by rw [h]; exact start.2⟩, fun h => h.1.symm⟩
      · rw [if_neg start]
        refine ⟨nofun, ?_⟩
        rintro ⟨rfl, out, word⟩
        exact absurd (by rw [out]; exact word) start
    rw [wordStarts, List.mem_append, first, ih]
    constructor
    · rintro (⟨rfl, out, word⟩ | ⟨before, rfl, out, word⟩)
      · exact ⟨[], rfl, out, word⟩
      · exact ⟨c :: before, rfl, (endsInWord_cons ..).trans out, word⟩
    · rintro ⟨before, text, out, word⟩
      cases before with
      | nil => exact .inl ⟨text, out, word⟩
      | cons b before =>
        obtain ⟨rfl, rfl⟩ := List.cons.inj text
        exact .inr ⟨before, rfl, (endsInWord_cons ..).symm.trans out, word⟩

theorem length_le_of_mem_wordStarts {inWord : Bool} (h : t ∈ wordStarts inWord s) :
    t.length ≤ s.length := by
  obtain ⟨before, rfl, -⟩ := mem_wordStarts.1 h
  rw [List.length_append]
  exact Nat.le_add_left _ _

/-- What starts later is shorter. -/
theorem pairwise_wordStarts (inWord : Bool) (s : List Char) :
    (wordStarts inWord s).Pairwise fun t u => u.length < t.length := by
  induction s generalizing inWord with
  | nil => exact .nil
  | cons c s ih =>
    rw [wordStarts, List.pairwise_append]
    refine ⟨by split <;> simp, ih _, fun t ht u hu => ?_⟩
    split at ht
    · rw [List.mem_singleton.1 ht]
      exact Nat.lt_succ_of_le (length_le_of_mem_wordStarts hu)
    · cases ht

/-! ## Shapes that do not start inside each other -/

section Shapes

variable {α : Type} {shape : List Char → Option (α × List Char)}

/-- A shape that is read stands somewhere in the text. -/
theorem exists_of_mem_scanWords {a : α} {inWord : Bool} {skip : Nat} {s : List Char}
    (h : a ∈ scanWords shape inWord skip s) :
    ∃ u v r, s = u ++ v ∧ shape v = some (a, r) := by
  have later {inWord : Bool} {skip : Nat} {c : Char} {s : List Char}
      (ih : a ∈ scanWords shape inWord skip s → ∃ u v r, s = u ++ v ∧ shape v = some (a, r))
      (h : a ∈ scanWords shape inWord skip s) :
      ∃ u v r, c :: s = u ++ v ∧ shape v = some (a, r) := by
    obtain ⟨u, v, r, rfl, found⟩ := ih h
    exact ⟨c :: u, v, r, rfl, found⟩
  fun_induction scanWords shape inWord skip s with
  | case1 => cases h
  | case2 inWord skip c s ih => exact later ih h
  | case3 inWord c s start a' rest found ih =>
    rcases List.mem_cons.1 h with rfl | h
    · exact ⟨[], c :: s, rest, rfl, found⟩
    · exact later ih h
  | case4 inWord c s start none ih => exact later ih h
  | case5 inWord c s start ih => exact later ih h

/-- No shape starts at a word inside another. -/
def StartsApart (shape : List Char → Option (α × List Char)) : Prop :=
  ∀ c s a rest, shape (c :: s) = some (a, rest) → isWordChar c = true →
    ∀ t ∈ wordStarts true s, rest.length < t.length → shape t = none

/-- What is skipped holds no start of a shape, so that skipping it loses none. -/
theorem scanWords_eq_filterMap (apart : StartsApart shape) (inWord : Bool) (skip : Nat)
    (free : ∀ t ∈ wordStarts inWord s, s.length - skip < t.length → shape t = none) :
    scanWords shape inWord skip s =
      (wordStarts inWord s).filterMap fun t => (shape t).map (·.1) := by
  fun_induction scanWords shape inWord skip s with
  | case1 => rfl
  | case2 inWord skip c s ih =>
    rw [wordStarts] at free ⊢
    have skipped : ((if !inWord && isWordChar c then [c :: s] else []).filterMap fun t =>
        (shape t).map (·.1)) = [] := by
      refine List.filterMap_eq_nil_iff.2 fun t ht => ?_
      have long : (c :: s).length - (skip + 1) < t.length := by
        split at ht
        · rw [List.mem_singleton.1 ht, List.length_cons]
          omega
        · cases ht
      rw [free t (List.mem_append_left _ ht) long, Option.map_none]
    rw [List.filterMap_append, skipped, List.nil_append]
    refine ih fun t ht long => free t (List.mem_append_right _ ht) ?_
    rwa [List.length_cons, Nat.add_sub_add_right]
  | case3 inWord c s start a rest found ih =>
    have word : isWordChar c = true := (Bool.and_eq_true_iff.1 start).2
    rw [wordStarts, if_pos start, List.singleton_append,
      List.filterMap_cons_some (by rw [found]; rfl), word]
    refine congrArg _ (ih fun t ht long => ?_)
    have short := length_le_of_mem_wordStarts ht
    exact apart c s a rest found word t ht (by omega)
  | case4 inWord c s start none ih =>
    rw [wordStarts, if_pos start, List.singleton_append,
      List.filterMap_cons_none (by rw [none]; rfl), (Bool.and_eq_true_iff.1 start).2]
    exact ih fun t ht long => absurd (length_le_of_mem_wordStarts ht) (Nat.not_le.2 long)
  | case5 inWord c s start ih =>
    rw [wordStarts, if_neg start, List.nil_append]
    exact ih fun t ht long => absurd (length_le_of_mem_wordStarts ht) (Nat.not_le.2 long)

/-- Shapes that do not start inside each other are all read. -/
theorem scanShapes_eq_filterMap (apart : StartsApart shape) (s : List Char) :
    scanShapes shape s = (wordStarts false s).filterMap fun t => (shape t).map (·.1) :=
  scanWords_eq_filterMap apart false 0 fun _ ht long =>
    absurd (length_le_of_mem_wordStarts ht) (Nat.not_le.2 long)

end Shapes

/-! ## Readers -/

theorem dropWhile_eq_iff {p : Char → Bool} {s r : List Char} :
    s.dropWhile p = r ↔
      ∃ w, s = w ++ r ∧ (∀ c ∈ w, p c = true) ∧ ∀ d ∈ r.head?, p d = false := by
  constructor
  · rintro rfl
    exact ⟨_, List.takeWhile_append_dropWhile.symm, fun c => List.mem_takeWhile_imp,
      of_head?_dropWhile p s⟩
  · rintro ⟨w, rfl, all, stop⟩
    rw [List.dropWhile_append_of_pos all, (while_of_head? stop).2]

theorem word?_eq_some_iff {s w r : List Char} :
    word? s = some (w, r) ↔ s = w ++ r ∧ w ≠ [] ∧ (∀ c ∈ w, isWordChar c = true) ∧
      ∀ d ∈ r.head?, isWordChar d = false := by
  constructor
  · intro h
    simp only [word?] at h
    split at h
    · cases h
    · rename_i ne
      obtain ⟨rfl, rfl⟩ := Prod.mk.inj (Option.some.inj h)
      exact ⟨List.takeWhile_append_dropWhile.symm, fun empty => ne (by rw [empty]; rfl),
        fun c => List.mem_takeWhile_imp, of_head?_dropWhile isWordChar s⟩
  · rintro ⟨rfl, ne, all, stop⟩
    simp only [word?, List.takeWhile_append_of_pos all, List.dropWhile_append_of_pos all,
      while_of_head? stop, List.append_nil]
    rw [if_neg (by simpa using ne)]

theorem afterBlanks?_eq_some_iff {s r : List Char} :
    afterBlanks? s = some r ↔ ∃ g, s = g ++ r ∧ g ≠ [] ∧ (∀ c ∈ g, isBlank c = true) ∧
      ∀ d ∈ r.head?, isBlank d = false := by
  rw [afterBlanks?]
  constructor
  · intro h
    split at h
    · rename_i first
      obtain ⟨g, rfl, all, stop⟩ := dropWhile_eq_iff.1 (Option.some.inj h)
      refine ⟨g, rfl, ?_, all, stop⟩
      rintro rfl
      cases r with
      | nil => cases first
      | cons d r =>
        have out : isBlank d = false := stop d rfl
        exact absurd first (Bool.eq_false_iff.1 out)
    · cases h
  · rintro ⟨g, rfl, ne, all, stop⟩
    obtain ⟨c, g, rfl⟩ := List.exists_cons_of_ne_nil ne
    have first : isBlank c = true := all c List.mem_cons_self
    rw [dropWhile_eq_iff.2 ⟨c :: g, rfl, all, stop⟩]
    exact if_pos first

theorem after?_eq_some_iff {c : Char} {s r : List Char} : after? c s = some r ↔ s = c :: r := by
  cases s with
  | nil => simp [after?]
  | cons d s => simp [after?, eq_comm]

/-! ## Headings of functions -/

/-- No character is both a blank and part of a word. -/
theorem isWordChar_of_isBlank {c : Char} (h : isBlank c = true) : isWordChar c = false := by
  have point : c.toNat ∈ [9, 10, 11, 12, 13, 0x20, 0x85, 0xA0, 0x1680, 0x2000, 0x2001, 0x2002,
      0x2003, 0x2004, 0x2005, 0x2006, 0x2007, 0x2008, 0x2009, 0x200A, 0x2028, 0x2029, 0x202F,
      0x205F, 0x3000] := by
    simp only [isBlank, Bool.or_eq_true, Bool.and_eq_true, decide_eq_true_eq, beq_iff_eq] at h
    simp only [List.mem_cons, List.not_mem_nil, or_false]
    omega
  rw [← Char.ofNat_toNat c]
  generalize c.toNat = n at point
  revert n
  decide +kernel

/-- `w` is a whole word between `before` and `after`. -/
structure StandsAsWord (before w after : List Char) : Prop where
  ne_nil : w ≠ []
  word : ∀ c ∈ w, isWordChar c = true
  starts : ∀ c ∈ before.getLast?, isWordChar c = false
  ends : ∀ c ∈ after.head?, isWordChar c = false

/-- The pieces of a definition of a function, up to its brace. -/
structure Heading where
  type : List Char
  gap : List Char
  name : List Char
  space : List Char
  parameters : List Char
  margin : List Char

namespace Heading

variable {h h' : Heading} {before rest rest' : List Char}

/-- What stands before the parenthesis. -/
def lead (h : Heading) : List Char := h.type ++ (h.gap ++ (h.name ++ h.space))

/-- What stands behind the parenthesis that opens. -/
def close (h : Heading) : List Char := h.parameters ++ ')' :: (h.margin ++ ['{'])

/-- The definition up to its brace. -/
def text (h : Heading) : List Char := h.lead ++ '(' :: h.close

/-- The pieces are those of a definition behind `before`: two whole words with blanks between, and
what may stand in a list of parameters, with blanks or none before the parenthesis and the brace. -/
structure Fits (h : Heading) (before : List Char) : Prop where
  type_word : StandsAsWord before h.type h.gap
  gap_ne_nil : h.gap ≠ []
  gap_blank : ∀ c ∈ h.gap, isBlank c = true
  name_word : StandsAsWord h.gap h.name (h.space ++ ['('])
  space_blank : ∀ c ∈ h.space, isBlank c = true
  parameters_fit : ∀ c ∈ h.parameters, isParameterChar c = true
  margin_blank : ∀ c ∈ h.margin, isBlank c = true

theorem text_append (h : Heading) (rest : List Char) :
    h.text ++ rest = h.type ++ (h.gap ++ (h.name ++ (h.space ++ '(' ::
      (h.parameters ++ ')' :: (h.margin ++ '{' :: rest))))) := by
  simp only [text, lead, close, List.append_assoc, List.cons_append, List.nil_append]

/-- Whether the pieces fit hangs on the text before only in that no word goes on into them. -/
theorem fits_iff : h.Fits before ↔
    h.Fits [] ∧ ∀ c ∈ before.getLast?, isWordChar c = false := by
  constructor
  · exact fun f => ⟨{ f with
      type_word := ⟨f.type_word.ne_nil, f.type_word.word, nofun, f.type_word.ends⟩ },
      f.type_word.starts⟩
  · exact fun ⟨f, starts⟩ => { f with
      type_word := ⟨f.type_word.ne_nil, f.type_word.word, starts, f.type_word.ends⟩ }

/-- The name of a definition goes on with no word character. -/
theorem Fits.ends_name (fits : h.Fits before) (s : List Char) :
    ∀ d ∈ (h.space ++ '(' :: s).head?, isWordChar d = false := by
  have ends := fits.name_word.ends
  cases hs : h.space with
  | nil => rwa [hs] at ends
  | cons b space => rwa [hs] at ends

end Heading

/-- A definition is read where, and only where, its pieces stand. -/
theorem functionAt?_eq_some_iff {s name rest : List Char} :
    functionAt? s = some (name, rest) ↔
      ∃ h : Heading, h.Fits [] ∧ h.name = name ∧ s = h.text ++ rest := by
  simp only [functionAt?, Option.bind_eq_bind, Option.bind_eq_some_iff, Prod.exists,
    word?_eq_some_iff, afterBlanks?_eq_some_iff, after?_eq_some_iff, dropWhile_eq_iff]
  constructor
  · rintro ⟨type, -, ⟨rfl, type_ne, type_word, -⟩, -, ⟨gap, rfl, gap_ne, gap_blank, -⟩, name', -,
      ⟨rfl, name_ne, name_word, name_ends⟩, -, ⟨space, rfl, space_blank, -⟩, -,
      ⟨parameters, rfl, parameters_fit, -⟩, _, ⟨margin, rfl, margin_blank, -⟩, found⟩
    obtain ⟨rfl, rfl⟩ := Prod.mk.inj (Option.some.inj found)
    have gap_out : ∀ c ∈ gap, isWordChar c = false := fun c hc =>
      isWordChar_of_isBlank (gap_blank c hc)
    refine ⟨⟨type, gap, name', space, parameters, margin⟩, ?_, rfl, ?_⟩
    · exact {
        type_word := ⟨type_ne, type_word, nofun, fun c hc => gap_out c (List.mem_of_mem_head? hc)⟩
        gap_ne_nil := gap_ne
        gap_blank := gap_blank
        name_word := by
          refine ⟨name_ne, name_word, fun c hc => gap_out c (List.mem_of_getLast? hc), ?_⟩
          cases space with
          | nil => exact name_ends
          | cons b space => exact name_ends
        space_blank := space_blank
        parameters_fit := parameters_fit
        margin_blank := margin_blank }
    · rw [Heading.text_append]
  · rintro ⟨h, fits, rfl, rfl⟩
    have name_out : ∀ c ∈ h.name, isBlank c = false := fun c hc =>
      Bool.eq_false_iff.2 fun blank => Bool.false_ne_true
        ((isWordChar_of_isBlank blank).symm.trans (fits.name_word.word c hc))
    refine ⟨h.type, _, ⟨h.text_append rest, fits.type_word.ne_nil, fits.type_word.word, ?_⟩, _,
      ⟨h.gap, rfl, fits.gap_ne_nil, fits.gap_blank, ?_⟩, h.name, _,
      ⟨rfl, fits.name_word.ne_nil, fits.name_word.word, ?_⟩, _,
      ⟨h.space, rfl, fits.space_blank, ?_⟩, _, ⟨h.parameters, rfl, fits.parameters_fit, ?_⟩, _,
      ⟨h.margin, rfl, fits.margin_blank, ?_⟩, rfl⟩
    · rw [List.head?_append_of_ne_nil _ fits.gap_ne_nil]
      exact fits.type_word.ends
    · rw [List.head?_append_of_ne_nil _ fits.name_word.ne_nil]
      exact fun d hd => name_out d (List.mem_of_mem_head? hd)
    · exact fits.ends_name _
    all_goals
      intro d hd
      obtain rfl := Option.some.inj hd
      decide

/-! ## Names without repetition -/

theorem distinctNames_append_singleton (names : List String) (n : String) :
    distinctNames (names ++ [n]) =
      if n ∈ keywords ∨ n ∈ distinctNames names then distinctNames names
      else distinctNames names ++ [n] := by
  rw [distinctNames, List.foldl_append]
  rfl

theorem mem_distinctNames_iff {names : List String} {n : String} :
    n ∈ distinctNames names ↔ n ∉ keywords ∧ n ∈ names := by
  induction names using List.reverseRecOn with
  | nil => simp [distinctNames]
  | append_singleton names m ih =>
    rw [distinctNames_append_singleton, List.mem_append, List.mem_singleton]
    split
    · rename_i known
      rw [ih]
      refine and_congr_right fun free => ⟨.inl, fun h => h.elim id ?_⟩
      rintro rfl
      exact (ih.1 (known.resolve_left free)).2
    · rename_i new
      rw [List.mem_append, List.mem_singleton, ih, and_or_left]
      refine or_congr_right ⟨?_, And.right⟩
      rintro rfl
      exact ⟨fun keyword => new (.inl keyword), rfl⟩

/-- Names stand in the order of their first occurrence. -/
theorem pairwise_distinctNames (names : List String) :
    (distinctNames names).Pairwise fun a b =>
      ∃ before after, names = before ++ a :: after ∧ b ∉ before ∧ b ≠ a := by
  induction names using List.reverseRecOn with
  | nil => exact .nil
  | append_singleton names n ih =>
    have longer : (distinctNames names).Pairwise fun a b =>
        ∃ before after, names ++ [n] = before ++ a :: after ∧ b ∉ before ∧ b ≠ a := by
      refine ih.imp fun ⟨before, after, text, first⟩ => ⟨before, after ++ [n], ?_, first⟩
      rw [text, List.append_assoc, List.cons_append]
    rw [distinctNames_append_singleton]
    split
    · exact longer
    · rename_i new
      rw [not_or] at new
      refine List.pairwise_append.2 ⟨longer, List.pairwise_singleton _ _, fun a ha b hb => ?_⟩
      obtain rfl := List.mem_singleton.1 hb
      have absent : b ∉ names := fun mem => new.2 (mem_distinctNames_iff.2 ⟨new.1, mem⟩)
      obtain ⟨before, after, rfl⟩ := List.append_of_mem (mem_distinctNames_iff.1 ha).2
      refine ⟨before, after ++ [b], ?_, fun mem => absent (List.mem_append_left _ mem), ?_⟩
      · rw [List.append_assoc, List.cons_append]
      · rintro rfl
        exact absent (List.mem_append_right _ List.mem_cons_self)

end ScreenEffects.Glsl
