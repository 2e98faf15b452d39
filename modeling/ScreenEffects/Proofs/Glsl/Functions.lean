import ScreenEffects.Proofs.Glsl.Declaration

/-!
# Functions are found wherever they stand

Functions are found by their headings, and the search goes on behind each heading that is found. No
heading starts inside another: before its parenthesis a heading has two words and no more, and
between its parenthesis and its brace no other parenthesis opens. So the functions that are found
are those that the text defines somewhere (`DefinesAt`), whatever stands around the definition, in
the order in which they are first defined.

* `startsApart_functionAt?` : no definition starts inside another.
* `functionsOf_lists_definitions` : the functions of a text without comments.
-/

namespace ScreenEffects.Glsl

/-! ## No definition starts inside another -/

theorem length_wordStarts_append (inWord : Bool) (s t : List Char) :
    (wordStarts inWord (s ++ t)).length =
      (wordStarts inWord s).length + (wordStarts (endsInWord inWord s) t).length := by
  induction s generalizing inWord with
  | nil => exact (Nat.zero_add _).symm
  | cons c s ih =>
    rw [List.cons_append, wordStarts, wordStarts, List.length_append, List.length_append, ih,
      endsInWord_cons, Nat.add_assoc]
    split <;> rfl

theorem wordStarts_blanks {g : List Char} (h : ∀ c ∈ g, isBlank c = true) (inWord : Bool) :
    wordStarts inWord g = [] := by
  induction g generalizing inWord with
  | nil => rfl
  | cons c g ih =>
    obtain ⟨blank, blanks⟩ := List.forall_mem_cons.1 h
    rw [wordStarts, isWordChar_of_isBlank blank, Bool.and_false, ih blanks]
    rfl

theorem wordStarts_inWord {w : List Char} (h : ∀ c ∈ w, isWordChar c = true) :
    wordStarts true w = [] := by
  induction w with
  | nil => rfl
  | cons c w ih =>
    obtain ⟨word, words⟩ := List.forall_mem_cons.1 h
    rw [wordStarts, word, ih words]
    rfl

/-- A word starts once. -/
theorem length_wordStarts_word {w : List Char} (ne : w ≠ []) (h : ∀ c ∈ w, isWordChar c = true) :
    (wordStarts false w).length = 1 := by
  obtain ⟨c, w, rfl⟩ := List.exists_cons_of_ne_nil ne
  obtain ⟨word, words⟩ := List.forall_mem_cons.1 h
  rw [wordStarts, word, wordStarts_inWord words]
  rfl

theorem endsInWord_of_forall {w : List Char} {b : Bool} (inWord : Bool) (ne : w ≠ [])
    (h : ∀ c ∈ w, isWordChar c = b) : endsInWord inWord w = b := by
  rw [endsInWord, List.getLast?_eq_some_getLast ne]
  exact h _ (List.getLast_mem ne)

namespace Heading

variable {h h' : Heading} {before rest rest' : List Char}

theorem Fits.isWordChar_gap (fits : h.Fits before) : ∀ c ∈ h.gap, isWordChar c = false :=
  fun c hc => isWordChar_of_isBlank (fits.gap_blank c hc)

/-- Two words start before the parenthesis. -/
theorem Fits.length_wordStarts_lead (fits : h.Fits before) :
    (wordStarts false h.lead).length = 2 := by
  rw [lead, length_wordStarts_append, length_wordStarts_append, length_wordStarts_append,
    endsInWord_of_forall _ fits.gap_ne_nil fits.isWordChar_gap, wordStarts_blanks fits.gap_blank,
    wordStarts_blanks fits.space_blank,
    length_wordStarts_word fits.type_word.ne_nil fits.type_word.word,
    length_wordStarts_word fits.name_word.ne_nil fits.name_word.word]
  rfl

/-- Words and blanks stand before the parenthesis. -/
theorem Fits.lead_fits (fits : h.Fits before) :
    ∀ c ∈ h.lead, (isWordChar c || isBlank c) = true := by
  intro c hc
  simp only [lead, List.mem_append] at hc
  rcases hc with hc | hc | hc | hc
  · rw [fits.type_word.word c hc, Bool.true_or]
  · rw [fits.gap_blank c hc, Bool.or_true]
  · rw [fits.name_word.word c hc, Bool.true_or]
  · rw [fits.space_blank c hc, Bool.or_true]

/-- No parenthesis opens before the brace. -/
theorem Fits.notMem_close (fits : h.Fits before) : '(' ∉ h.close := by
  intro mem
  simp only [close, List.mem_append, List.mem_cons, List.not_mem_nil, or_false] at mem
  rcases mem with mem | mem | mem | mem
  · exact absurd (fits.parameters_fit _ mem) (by decide)
  · exact absurd mem (by decide)
  · exact absurd (fits.margin_blank _ mem) (by decide)
  · exact absurd mem (by decide)

theorem Fits.notMem_lead {c : Char} (fits : h.Fits before)
    (hc : (isWordChar c || isBlank c) = false) : c ∉ h.lead := fun mem =>
  Bool.false_ne_true (hc.symm.trans (fits.lead_fits c mem))

/-- A definition that starts at a word before the parenthesis of another starts with it. -/
theorem Fits.eq_nil_of_lead (fits : h.Fits []) (fits' : h'.Fits [])
    (out : endsInWord false before = false) (lead : h.lead = before ++ h'.lead) : before = [] := by
  cases before with
  | nil => rfl
  | cons c before =>
    -- the word at `c` would be a third one
    have count := congrArg (fun s => (wordStarts false s).length) lead
    rw [length_wordStarts_append, out, fits.length_wordStarts_lead, fits'.length_wordStarts_lead]
      at count
    have first : isWordChar c = true := by
      obtain ⟨d, type, htype⟩ := List.exists_cons_of_ne_nil fits.type_word.ne_nil
      rw [Heading.lead, htype] at lead
      obtain ⟨rfl, -⟩ := List.cons.inj lead
      exact fits.type_word.word d (htype ▸ List.mem_cons_self)
    rw [wordStarts, first] at count
    simp at count

/-- No definition starts between the parenthesis and the brace of another. -/
theorem Fits.eq_nil_of_close (fits : h.Fits []) (fits' : h'.Fits []) {u m x : List Char}
    (close : h.close = u ++ m) (text : h'.lead ++ '(' :: x = m ++ rest) : m = [] := by
  by_contra ne
  have brace : '{' ∈ m := by
    have last := congrArg List.getLast? close
    rw [Heading.close, List.append_cons, ← List.append_assoc, List.getLast?_concat,
      List.getLast?_append_of_ne_nil _ ne] at last
    exact List.mem_of_getLast? last.symm
  rcases List.append_eq_append_iff.1 text with ⟨v, rfl, behind⟩ | ⟨v, lead, -⟩
  · cases v with
    | nil => exact fits'.notMem_lead (by decide) (List.append_nil _ ▸ brace)
    | cons d v =>
      obtain ⟨rfl, -⟩ := List.cons.inj behind
      refine fits.notMem_close ?_
      rw [close]
      simp
  · exact fits'.notMem_lead (by decide) (lead ▸ List.mem_append_left v brace)

/-- **No definition starts inside another.** -/
theorem Fits.not_inside (fits : h.Fits []) (fits' : h'.Fits [])
    (out : endsInWord false before = false) (ne : before ≠ [])
    (text : h.text ++ rest = before ++ (h'.text ++ rest')) :
    (h'.text ++ rest').length ≤ rest.length := by
  rw [Heading.text, Heading.text, List.append_assoc, List.append_assoc, List.cons_append,
    List.cons_append] at text
  rw [Heading.text, List.append_assoc, List.cons_append]
  generalize h'.close ++ rest' = x at text ⊢
  have paren : ∀ r : List Char, ∀ d ∈ ('(' :: r).head?, (isWordChar d || isBlank d) = false := by
    intro r d hd
    obtain rfl := Option.some.inj hd
    decide
  rcases List.append_eq_append_iff.1 text with ⟨u, -, inner⟩ | ⟨u, lead, inner⟩
  · cases u with
    | nil =>
      -- the definition would start with the parenthesis
      obtain ⟨c, type, htype⟩ := List.exists_cons_of_ne_nil fits'.type_word.ne_nil
      have first : c ∈ h'.lead := List.mem_append_left _ (htype ▸ List.mem_cons_self)
      rw [List.nil_append, Heading.lead, htype] at inner
      obtain ⟨rfl, -⟩ := List.cons.inj inner
      exact absurd first (fits'.notMem_lead (by decide))
    | cons d u =>
      obtain ⟨-, inner⟩ := List.cons.inj inner
      rcases List.append_eq_append_iff.1 inner with ⟨v, -, rfl⟩ | ⟨m, close, later⟩
      · exact (List.suffix_append v _).length_le
      · have none : m = [] := fits.eq_nil_of_close fits' close later
        rw [later, none]
        exact Nat.le_refl _
  · have words : ∀ c ∈ u, (isWordChar c || isBlank c) = true := fun c hc =>
      fits.lead_fits c (lead ▸ List.mem_append_right before hc)
    obtain ⟨rfl, -⟩ := eq_of_append_while fits'.lead_fits words (paren _) (paren _) inner
    exact absurd (fits.eq_nil_of_lead fits' out lead) ne

end Heading

/-- Definitions do not start inside each other. -/
theorem startsApart_functionAt? : StartsApart functionAt? := by
  intro c s name rest found word t ht long
  obtain ⟨before, rfl, out, -⟩ := mem_wordStarts.1 ht
  by_contra found'
  obtain ⟨⟨name', rest'⟩, found'⟩ := Option.ne_none_iff_exists'.1 found'
  obtain ⟨h, fits, -, text⟩ := functionAt?_eq_some_iff.1 found
  obtain ⟨h', fits', -, rfl⟩ := functionAt?_eq_some_iff.1 found'
  have out : endsInWord false (c :: before) = false := by rwa [endsInWord_cons, word]
  have inside := fits.not_inside fits' out (List.cons_ne_nil c before) text.symm
  exact absurd long (Nat.not_lt.2 inside)

/-! ## Places of definitions -/

/-- From place `i` up to place `e`, the text defines the function `name`: there stand two whole
words, the second of which is `name`, with blanks between, a parenthesised run of what may stand in
a list of parameters and an opening brace, these with blanks or none before them. -/
def DefinesAt (s name : List Char) (i e : Nat) : Prop :=
  ∃ (h : Heading) (before after : List Char), h.Fits before ∧ h.name = name ∧
    s = before ++ (h.text ++ after) ∧ before.length = i ∧ (before ++ h.text).length = e

theorem endsInWord_false_iff {before : List Char} :
    endsInWord false before = false ↔ ∀ c ∈ before.getLast?, isWordChar c = false := by
  rw [endsInWord]
  cases before.getLast? with
  | none => simp
  | some c => simp

/-- A definition stands where one is read at the start of a word. -/
theorem definesAt_iff {s name : List Char} {i e : Nat} :
    DefinesAt s name i e ↔ ∃ t ∈ wordStarts false s, ∃ rest, functionAt? t = some (name, rest) ∧
      i + t.length = s.length ∧ e + rest.length = s.length := by
  constructor
  · rintro ⟨h, before, after, fits, rfl, rfl, rfl, rfl⟩
    obtain ⟨fits, starts⟩ := Heading.fits_iff.1 fits
    refine ⟨h.text ++ after, mem_wordStarts.2 ⟨before, rfl, endsInWord_false_iff.2 starts, ?_⟩,
      after, functionAt?_eq_some_iff.2 ⟨h, fits, rfl, rfl⟩, List.length_append.symm, ?_⟩
    · obtain ⟨c, type, htype⟩ := List.exists_cons_of_ne_nil fits.type_word.ne_nil
      rw [Heading.text_append, htype]
      exact fits.type_word.word c (htype ▸ List.mem_cons_self)
    · simp only [List.length_append]
      omega
  · rintro ⟨t, ht, rest, found, start, stop⟩
    obtain ⟨before, rfl, out, -⟩ := mem_wordStarts.1 ht
    obtain ⟨h, fits, rfl, rfl⟩ := functionAt?_eq_some_iff.1 found
    refine ⟨h, before, rest, Heading.fits_iff.2 ⟨fits, endsInWord_false_iff.1 out⟩, rfl, rfl, ?_,
      ?_⟩
    all_goals
      simp only [List.length_append] at start stop ⊢
      omega

/-- Two definitions are the same, or one ends before the other starts. -/
theorem DefinesAt.apart {s a b : List Char} {i e j e' : Nat} (first : DefinesAt s a i e)
    (second : DefinesAt s b j e') (le : i ≤ j) : a = b ∧ i = j ∧ e = e' ∨ e ≤ j := by
  obtain ⟨h, before, after, stands, rfl, text, rfl, rfl⟩ := first
  obtain ⟨h', before', after', stands', rfl, rfl, rfl, rfl⟩ := second
  obtain ⟨fits, -⟩ := Heading.fits_iff.1 stands
  obtain ⟨fits', starts⟩ := Heading.fits_iff.1 stands'
  obtain ⟨u, rfl⟩ : before <+: before' := by
    refine List.prefix_of_prefix_length_le ?_ (List.prefix_append before' (h'.text ++ after')) le
    rw [text]
    exact List.prefix_append _ _
  rw [List.append_assoc, List.append_cancel_left_eq] at text
  cases u with
  | nil =>
    have found : functionAt? (h.text ++ after) = some (h.name, after) :=
      functionAt?_eq_some_iff.2 ⟨h, fits, rfl, rfl⟩
    rw [← text, List.nil_append, functionAt?_eq_some_iff.2 ⟨h', fits', rfl, rfl⟩] at found
    obtain ⟨name, rfl⟩ := Prod.mk.inj (Option.some.inj found)
    rw [List.nil_append, List.append_cancel_right_eq] at text
    rw [List.append_nil, text]
    exact .inl ⟨name.symm, rfl, rfl⟩
  | cons c u =>
    have out : endsInWord false (c :: u) = false := by
      rw [List.getLast?_append_of_ne_nil _ (List.cons_ne_nil c u)] at starts
      exact endsInWord_false_iff.2 starts
    have inside := fits.not_inside fits' out (List.cons_ne_nil c u) text.symm
    have total := congrArg List.length text
    simp only [List.length_append] at total inside ⊢
    exact .inr (by omega)

/-! ## The functions of a text -/

/-- The name of the function whose definition the text starts with. -/
def nameAt? (t : List Char) : Option String := (functionAt? t).map fun r => .ofList r.1

theorem functionsOf_eq (source : String) :
    functionsOf source =
      distinctNames ((wordStarts false (uncommented source.toList)).filterMap nameAt?) := by
  rw [functionsOf, scanShapes_eq_filterMap startsApart_functionAt?, List.map_filterMap]
  simp only [Option.map_map]
  rfl

theorem nameAt?_eq_some_iff {t : List Char} {name : String} :
    nameAt? t = some name ↔ ∃ rest, functionAt? t = some (name.toList, rest) := by
  rw [nameAt?, Option.map_eq_some_iff]
  constructor
  · rintro ⟨⟨n, rest⟩, found, rfl⟩
    exact ⟨rest, by rw [found, String.toList_ofList]⟩
  · rintro ⟨rest, found⟩
    exact ⟨_, found, String.ofList_toList⟩

/-- What is read at the start of a word is defined there. -/
theorem exists_definesAt {s t : List Char} {name : String} (ht : t ∈ wordStarts false s)
    (found : nameAt? t = some name) :
    ∃ i e, DefinesAt s name.toList i e ∧ i + t.length = s.length := by
  obtain ⟨rest, read⟩ := nameAt?_eq_some_iff.1 found
  obtain ⟨before, text, -⟩ := mem_wordStarts.1 ht
  obtain ⟨h, -, -, rfl⟩ := functionAt?_eq_some_iff.1 read
  have start : before.length + (h.text ++ rest).length = s.length := by
    rw [text]
    exact List.length_append.symm
  have stop : (before ++ h.text).length + rest.length = s.length := by
    rw [text, ← List.append_assoc]
    exact List.length_append.symm
  exact ⟨_, _, definesAt_iff.2 ⟨_, ht, rest, read, start, stop⟩, start⟩

/-- The names that are read at the starts of words are those that are defined somewhere. -/
theorem mem_filterMap_nameAt?_iff {s : List Char} {name : String} :
    name ∈ (wordStarts false s).filterMap nameAt? ↔ ∃ i e, DefinesAt s name.toList i e := by
  rw [List.mem_filterMap]
  constructor
  · rintro ⟨t, ht, found⟩
    obtain ⟨i, e, defined, -⟩ := exists_definesAt ht found
    exact ⟨i, e, defined⟩
  · rintro ⟨i, e, defined⟩
    obtain ⟨t, ht, rest, read, -, -⟩ := definesAt_iff.1 defined
    exact ⟨t, ht, nameAt?_eq_some_iff.2 ⟨rest, read⟩⟩

/-- What is read first is defined first. -/
theorem exists_definesAt_before {s : List Char} {a b : String} {before after : List String}
    (split : (wordStarts false s).filterMap nameAt? = before ++ a :: after) (absent : b ∉ before)
    (ne : b ≠ a) :
    ∃ i e, DefinesAt s a.toList i e ∧ ∀ j e', DefinesAt s b.toList j e' → i < j := by
  obtain ⟨x, y, starts, rfl, there⟩ := List.filterMap_eq_append_iff.1 split
  obtain ⟨y, t, z, rfl, skipped, found, -⟩ := List.filterMap_eq_cons_iff.1 there
  have mem : t ∈ wordStarts false s := by
    rw [starts]
    simp
  obtain ⟨i, e, defined, start⟩ := exists_definesAt mem found
  refine ⟨i, e, defined, fun j e' defined' => ?_⟩
  -- the other name is read behind this one, at a shorter end of the text
  obtain ⟨t', ht', rest', read', start', -⟩ := definesAt_iff.1 defined'
  have found' : nameAt? t' = some b := nameAt?_eq_some_iff.2 ⟨rest', read'⟩
  have order := pairwise_wordStarts false s
  rw [starts] at ht' order
  have shorter : t'.length < t.length := by
    rcases List.mem_append.1 ht' with ht' | ht'
    · exact absurd (List.mem_filterMap.2 ⟨t', ht', found'⟩) absent
    rcases List.mem_append.1 ht' with ht' | ht'
    · rw [skipped t' ht'] at found'
      cases found'
    rcases List.mem_cons.1 ht' with rfl | ht'
    · rw [found] at found'
      exact absurd (Option.some.inj found').symm ne
    · have tail := (List.pairwise_append.1 (List.pairwise_append.1 order).2.1).2.1
      exact List.rel_of_pairwise_cons tail ht'
  omega

/-- **The functions of a text** without comments are the names, but for keywords, that it defines
somewhere, each listed once and in the order in which they are first defined. No definition is lost
to another: two are the same, or one ends before the other starts. -/
theorem functionsOf_lists_definitions {source : String} (plain : stripComments source = source) :
    (functionsOf source).Nodup ∧
      (∀ name, name ∈ functionsOf source ↔
        name ∉ keywords ∧ ∃ i e, DefinesAt source.toList name.toList i e) ∧
      (functionsOf source).Pairwise (fun a b =>
        ∃ i e, DefinesAt source.toList a.toList i e ∧
          ∀ j e', DefinesAt source.toList b.toList j e' → i < j) ∧
      ∀ a b i e j e', DefinesAt source.toList a i e → DefinesAt source.toList b j e' → i ≤ j →
        a = b ∧ i = j ∧ e = e' ∨ e ≤ j := by
  have bare : uncommented source.toList = source.toList := by
    rw [← String.toList_ofList (l := uncommented source.toList)]
    exact congrArg String.toList plain
  have listed := functionsOf_eq source
  rw [bare] at listed
  have order := pairwise_distinctNames ((wordStarts false source.toList).filterMap nameAt?)
  rw [listed]
  refine ⟨order.imp fun ⟨_, _, _, _, ne⟩ => ne.symm, fun name => ?_, ?_,
    fun _ _ _ _ _ _ first second => first.apart second⟩
  · rw [mem_distinctNames_iff, mem_filterMap_nameAt?_iff]
  · exact order.imp fun ⟨_, _, split, absent, ne⟩ => exists_definesAt_before split absent ne

/-- A text with headers of branches that look like definitions, a definition behind words that look
like the start of one, and a function that is defined twice. -/
theorem functionsOf_lists_definitions_branches :
    let source := "precision highp float luma (const in vec3 c[3] ,\n float é) \x7b if (c) " ++
      "\x7b\x7d else if (é)\x7b\x7d return sin(é); \x7dvoid mainUv(\t)\n\x7b\x7d a luma()\x7b\x7d"
    stripComments source = source ∧ functionsOf source = ["luma", "mainUv"] ∧
      (functionsOf source).Nodup ∧ (∃ i e, DefinesAt source.toList "mainUv".toList i e) ∧
      (∃ i e, DefinesAt source.toList "luma".toList i e ∧
        ∀ j e', DefinesAt source.toList "mainUv".toList j e' → i < j) ∧
      ∀ i e, ¬ DefinesAt source.toList "sin".toList i e := by
  intro source
  have plain : stripComments source = source := by decide +kernel
  have found : functionsOf source = ["luma", "mainUv"] := by decide +kernel
  obtain ⟨nodup, mem, order, -⟩ := functionsOf_lists_definitions plain
  have moves : "mainUv" ∈ functionsOf source := found ▸ by decide
  have absent : "sin" ∉ functionsOf source := found ▸ by decide
  rw [found] at order
  exact ⟨plain, found, nodup, ((mem "mainUv").1 moves).2,
    List.rel_of_pairwise_cons order List.mem_cons_self,
    fun i e defined => absent ((mem "sin").2 ⟨by decide, i, e, defined⟩)⟩

end ScreenEffects.Glsl
