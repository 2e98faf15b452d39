import Mathlib.Data.List.Infix
import ScreenEffects.Proofs.Glsl.Declaration

/-!
# Two readings of a comment

Comments are recognised twice: the declarations of a text are looked for once its comments are
removed, block comments first and line comments after them, and symbols are renamed token by token
from left to right. The two readings agree on a text whose comments are plain: each block comment is
closed, and no block comment opens inside a line comment. What is left of such a text is what its
tokens leave of it, so a function that is found is an identifier outside the comments.

* `uncommented_eq_visibleText` : without its comments, a text is what its tokens leave of it.
* `exists_identifier` : a name after a blank in what tokens leave is a token of its own.
* `exists_identifier_of_mem_functionsOf` : a function that is found is a token of the text.
-/

namespace ScreenEffects.Glsl

/-! ## What tokens leave -/

/-- What a token leaves once comments are removed: a block comment leaves a space, a line comment
leaves nothing. -/
def Token.visible : Token → List Char
  | .comment ('/' :: '*' :: _) => [' ']
  | .comment _ => []
  | t => t.lexeme

/-- What the tokens of a text leave of it once comments are removed. -/
def visibleText (s : List Char) : List Char := (tokens s).flatMap Token.visible

/-- A comment that ends where it is seen to end: a block comment is closed, and no block comment
opens in a line comment. Any other token is plain. -/
def Token.isPlain : Token → Bool
  | .comment ('/' :: '*' :: body) => decide (['*', '/'] <:+ body)
  | .comment line => !decide (['/', '*'] <:+: line)
  | _ => true

/-- Every comment of the text is plain. -/
def HasPlainComments (source : String) : Prop := ∀ t ∈ tokenize source, t.isPlain = true

instance : DecidablePred HasPlainComments := fun source =>
  inferInstanceAs (Decidable (∀ t ∈ tokenize source, t.isPlain = true))

/-! ## Characters of identifiers and numbers -/

/-- A character with which no comment starts and which is no blank. -/
def isSolid (c : Char) : Bool := c != '/' && !isBlank c

theorem isSolid_of_isIdentifierChar {c : Char} (h : isIdentifierChar c = true) :
    isSolid c = true :=
  forall_of_ascii (p := fun c => isIdentifierChar c = true → isSolid c = true) (by decide) h h

theorem isSolid_of_isAlphanum {c : Char} (h : c.isAlphanum = true) : isSolid c = true :=
  isSolid_of_isIdentifierChar (by rw [isIdentifierChar, h, Bool.true_or])

theorem isSolid_of_startsNumber {c : Char} {s : List Char} (h : startsNumber c s = true) :
    isSolid c = true := by
  rw [startsNumber, Bool.or_eq_true] at h
  rcases h with h | h
  · exact isSolid_of_isAlphanum (by rw [Char.isAlphanum, h, Bool.or_true])
  · obtain rfl : c = '.' := eq_of_beq (Bool.and_eq_true_iff.1 h).1
    decide

theorem isSolid_of_isNumberChar {hex : Bool} {last c : Char}
    (h : isNumberChar hex last c = true) : isSolid c = true := by
  simp only [isNumberChar, Bool.or_eq_true, Bool.and_eq_true, beq_iff_eq] at h
  rcases h with (h | rfl) | ⟨⟨-, rfl | rfl⟩, -⟩
  · exact isSolid_of_isAlphanum h
  all_goals decide

theorem isSolid_of_mem_splitNumber {hex : Bool} {last c : Char} {s : List Char}
    (h : c ∈ (splitNumber hex last s).1) : isSolid c = true := by
  induction s generalizing last with
  | nil => cases h
  | cons d s ih =>
    rw [splitNumber] at h
    split at h
    · rename_i hd
      rcases List.mem_cons.1 h with rfl | h
      · exact isSolid_of_isNumberChar hd
      · exact ih h
    · cases h

theorem isSolid_of_mem_identifier {c d : Char} {s : List Char} (hc : isIdentifierStart c = true)
    (h : d ∈ c :: s.takeWhile isIdentifierChar) : isSolid d = true := by
  rcases List.mem_cons.1 h with rfl | h
  · exact isSolid_of_isIdentifierChar (isIdentifierChar_of_isIdentifierStart hc)
  · exact isSolid_of_isIdentifierChar (List.mem_takeWhile_imp h)

/-! ## What the next token can be -/

/-- The next token of a text: a line comment, a block comment, a word or number without slashes and
blanks, or a single character. -/
theorem nextToken_cases (before : Option Char) (c : Char) (s : List Char) :
    (∃ line, c :: s = '/' :: '/' :: line ∧ nextToken before c s =
      (.comment ('/' :: '/' :: line.takeWhile (· != '\n')), line.dropWhile (· != '\n'))) ∨
    (∃ body, c :: s = '/' :: '*' :: body ∧ nextToken before c s =
      (.comment ('/' :: '*' :: (splitBlock body).1), (splitBlock body).2)) ∨
    ((∀ d ∈ (nextToken before c s).1.lexeme, isSolid d = true) ∧
      (nextToken before c s).1.visible = (nextToken before c s).1.lexeme) ∨
    (¬ (c = '/' ∧ s.head? = some '/') ∧ ¬ (c = '/' ∧ s.head? = some '*') ∧
      nextToken before c s = (.other c, s)) := by
  by_cases line : c = '/' ∧ s.head? = some '/'
  · obtain ⟨rfl, hs⟩ := line
    obtain ⟨line, rfl⟩ := List.head?_eq_some_iff.1 hs
    exact .inl ⟨line, rfl, by simp [nextToken]⟩
  by_cases block : c = '/' ∧ s.head? = some '*'
  · obtain ⟨rfl, hs⟩ := block
    obtain ⟨body, rfl⟩ := List.head?_eq_some_iff.1 hs
    exact .inr (.inl ⟨body, rfl, by simp [nextToken]⟩)
  rw [nextToken, if_neg line, if_neg block]
  by_cases number : startsNumber c s
  · rw [if_pos number]
    refine .inr (.inr (.inl ⟨fun d hd => ?_, rfl⟩))
    rcases List.mem_cons.1 hd with rfl | hd
    · exact isSolid_of_startsNumber number
    · exact isSolid_of_mem_splitNumber hd
  by_cases start : isIdentifierStart c
  · rw [if_neg number, if_pos start]
    exact .inr (.inr (.inl ⟨fun d hd => isSolid_of_mem_identifier start hd, rfl⟩))
  · rw [if_neg number, if_neg start]
    exact .inr (.inr (.inr ⟨line, block, rfl⟩))

/-! ## Removing comments from one token -/

theorem withoutBlocks_cons {c : Char} {s : List Char} (h : ¬ (c = '/' ∧ s.head? = some '*')) :
    withoutBlocks (c :: s) = c :: withoutBlocks s := by
  rw [withoutBlocks, if_neg h]

theorem withoutLines_cons {c : Char} {s : List Char} (h : ¬ (c = '/' ∧ s.head? = some '/')) :
    withoutLines (c :: s) = c :: withoutLines s := by
  rw [withoutLines, if_neg h]

/-- Text in which no block comment opens is left alone, unless one opens across its end. -/
theorem withoutBlocks_append {x y : List Char} (hx : ¬ ['/', '*'] <:+: x)
    (hy : '/' ∈ x → y.head? ≠ some '*') : withoutBlocks (x ++ y) = x ++ withoutBlocks y := by
  induction x with
  | nil => rfl
  | cons c x ih =>
    have closed : ¬ (c = '/' ∧ (x ++ y).head? = some '*') := by
      rintro ⟨rfl, h⟩
      cases x with
      | nil => exact hy List.mem_cons_self h
      | cons d x =>
        obtain rfl : d = '*' := Option.some.inj h
        exact hx (List.prefix_append ['/', '*'] x).isInfix
    rw [List.cons_append, withoutBlocks_cons closed,
      ih (fun h => hx (List.infix_cons h)) fun h => hy (List.mem_cons_of_mem c h), List.cons_append]

theorem withoutLines_append {x y : List Char} (hx : '/' ∉ x) :
    withoutLines (x ++ y) = x ++ withoutLines y := by
  induction x with
  | nil => rfl
  | cons c x ih =>
    obtain ⟨hc, hx⟩ : '/' ≠ c ∧ '/' ∉ x := by simpa using hx
    rw [List.cons_append, withoutLines_cons fun e => hc e.1.symm, ih hx, List.cons_append]

theorem uncommented_append {x y : List Char} (hx : '/' ∉ x) :
    uncommented (x ++ y) = x ++ uncommented y := by
  have closed : ¬ ['/', '*'] <:+: x := fun h => hx (h.subset List.mem_cons_self)
  rw [uncommented, withoutBlocks_append closed fun h => absurd h hx, withoutLines_append hx,
    uncommented]

/-- Removing block comments keeps a first character that opens none. -/
theorem head?_withoutBlocks {s : List Char} (h : s.head? ≠ some '/') :
    (withoutBlocks s).head? = s.head? := by
  cases s with
  | nil => rw [withoutBlocks]
  | cons c s =>
    rw [withoutBlocks_cons fun e => h (congrArg some e.1)]
    rfl

/-- A character that opens no comment stays. -/
theorem uncommented_cons {c : Char} {s : List Char} (line : ¬ (c = '/' ∧ s.head? = some '/'))
    (block : ¬ (c = '/' ∧ s.head? = some '*')) : uncommented (c :: s) = c :: uncommented s := by
  rw [uncommented, withoutBlocks_cons block, withoutLines_cons, uncommented]
  rintro ⟨rfl, h⟩
  have other : s.head? ≠ some '/' := fun h => line ⟨rfl, h⟩
  exact other ((head?_withoutBlocks other).symm.trans h)

/-- A line comment in which no block comment opens is removed up to the end of its line. -/
theorem uncommented_line {line rest : List Char}
    (hl : ¬ ['/', '*'] <:+: '/' :: '/' :: line) (inLine : ∀ c ∈ line, (c != '\n') = true)
    (hr : ∀ d ∈ rest.head?, d = '\n') :
    uncommented ('/' :: '/' :: (line ++ rest)) = uncommented rest := by
  have noStar : rest.head? ≠ some '*' := fun h => absurd (hr '*' h) (by decide)
  have noSlash : rest.head? ≠ some '/' := fun h => absurd (hr '/' h) (by decide)
  have ended : (withoutBlocks rest).dropWhile (· != '\n') = withoutBlocks rest := by
    refine (while_of_head? fun d hd => ?_).2
    rw [head?_withoutBlocks noSlash] at hd
    rw [hr d hd]
    rfl
  have kept : withoutBlocks ('/' :: '/' :: (line ++ rest)) =
      '/' :: '/' :: (line ++ withoutBlocks rest) :=
    withoutBlocks_append hl fun _ => noStar
  rw [uncommented, kept, withoutLines, if_pos ⟨rfl, rfl⟩, List.dropWhile_cons_of_pos (by decide),
    List.dropWhile_append_of_pos inLine, ended, uncommented]

/-- The end of a block comment is found where it stands. -/
theorem afterBlock?_of_closed {s : List Char} (h : ['*', '/'] <:+ (splitBlock s).1) :
    afterBlock? s = some (splitBlock s).2 := by
  induction s with
  | nil => cases List.suffix_nil.1 h
  | cons c s ih =>
    rw [afterBlock?]
    rw [splitBlock] at h ⊢
    split
    · rfl
    · rename_i inside
      rw [if_neg inside] at h
      rcases List.suffix_cons_iff.1 h with h | h
      · -- the end cannot start here
        obtain ⟨rfl, rest⟩ := List.cons.inj h
        have text := splitBlock_append s
        rw [← rest] at text
        exact absurd ⟨rfl, by rw [← text]; rfl⟩ inside
      · exact ih h

/-- A closed block comment becomes a space. -/
theorem uncommented_block {body : List Char} (h : ['*', '/'] <:+ (splitBlock body).1) :
    uncommented ('/' :: '*' :: body) = ' ' :: uncommented (splitBlock body).2 := by
  have space : withoutBlocks ('/' :: '*' :: body) = ' ' :: withoutBlocks (splitBlock body).2 := by
    rw [withoutBlocks, if_pos ⟨rfl, rfl⟩]
    split
    · rename_i r hr
      rw [List.tail_cons, afterBlock?_of_closed h, Option.some.injEq] at hr
      rw [hr]
    · rename_i hr
      rw [List.tail_cons, afterBlock?_of_closed h] at hr
      cases hr
  rw [uncommented, space, withoutLines_cons (by simp), uncommented]

/-- The first token leaves what removing comments leaves of it, if it is plain. -/
theorem uncommented_nextToken {before : Option Char} {c : Char} {s : List Char}
    (plain : (nextToken before c s).1.isPlain = true) :
    uncommented (c :: s) =
      (nextToken before c s).1.visible ++ uncommented (nextToken before c s).2 := by
  rcases nextToken_cases before c s with
    ⟨line, text, token⟩ | ⟨body, text, token⟩ | ⟨solid, visible⟩ | ⟨line, block, token⟩
  · rw [token] at plain ⊢
    rw [text]
    have closed : ¬ ['/', '*'] <:+: '/' :: '/' :: line.takeWhile (· != '\n') := by
      simpa [Token.isPlain] using plain
    have removed := uncommented_line closed (fun c => List.mem_takeWhile_imp)
      (head?_dropWhile_line line)
    rwa [List.takeWhile_append_dropWhile] at removed
  · rw [token] at plain ⊢
    rw [text]
    exact uncommented_block (of_decide_eq_true plain)
  · have noSlash : '/' ∉ (nextToken before c s).1.lexeme := fun h => absurd (solid _ h) (by decide)
    rw [visible, ← uncommented_append noSlash, lexeme_append_nextToken]
  · rw [token]
    exact uncommented_cons line block

/-- **Without its comments, a text is what its tokens leave of it**, if its comments are plain. -/
theorem uncommented_eq_flatMap {before : Option Char} {s : List Char}
    (plain : ∀ t ∈ tokensAfter before s, t.isPlain = true) :
    uncommented s = (tokensAfter before s).flatMap Token.visible := by
  fun_induction tokensAfter before s with
  | case1 => simp [uncommented, withoutBlocks, withoutLines]
  | case2 before c s t ih =>
    rw [uncommented_nextToken (plain _ List.mem_cons_self), List.flatMap_cons,
      ih fun t ht => plain t (List.mem_cons_of_mem _ ht)]

theorem uncommented_eq_visibleText {source : String} (plain : HasPlainComments source) :
    uncommented source.toList = visibleText source.toList :=
  uncommented_eq_flatMap plain

/-! ## Names among the tokens -/

/-- What the tokens leave starts as the text does, or with a blank where a comment was. -/
theorem head?_visible (before : Option Char) (s : List Char) :
    ∀ d ∈ ((tokensAfter before s).flatMap Token.visible).head?,
      s.head? = some d ∨ isBlank d = true := by
  intro d hd
  cases s with
  | nil =>
    rw [tokensAfter_nil] at hd
    cases hd
  | cons c s =>
    rw [tokensAfter_cons, List.flatMap_cons] at hd
    rcases nextToken_cases before c s with
      ⟨line, -, token⟩ | ⟨body, -, token⟩ | ⟨-, visible⟩ | ⟨-, -, token⟩
    · -- a line comment leaves nothing, and the end of its line is next
      rw [token] at hd
      have ended := head?_dropWhile_line line
      cases rest : line.dropWhile (· != '\n') with
      | nil =>
        rw [rest, tokensAfter_nil] at hd
        cases hd
      | cons e rest' =>
        obtain rfl := ended e (by rw [rest]; rfl)
        rw [rest, tokensAfter_cons] at hd
        obtain rfl : '\n' = d := Option.some.inj hd
        exact .inr (by decide)
    · rw [token] at hd
      obtain rfl : ' ' = d := Option.some.inj hd
      exact .inr (by decide)
    · rw [visible] at hd
      have text := lexeme_append_nextToken before c s
      obtain ⟨e, l, lexeme⟩ := List.exists_cons_of_ne_nil (lexeme_nextToken_ne_nil before c s)
      rw [lexeme] at hd text
      exact .inl ((congrArg List.head? text).symm.trans hd)
    · rw [token] at hd
      exact .inl hd

/-- A blank that a token leaves is all it leaves, and no member access comes after it. -/
theorem visible_of_blank {before : Option Char} {c b : Char} {s : List Char}
    (plain : (nextToken before c s).1.isPlain = true)
    (h : b ∈ (nextToken before c s).1.visible) (hb : isBlank b = true) :
    (nextToken before c s).1.visible = [b] ∧
      (nextToken before c s).1.lexeme.getLast? ≠ some '.' := by
  rcases nextToken_cases before c s with
    ⟨line, -, token⟩ | ⟨body, -, token⟩ | ⟨solid, visible⟩ | ⟨-, -, token⟩
  · rw [token] at h
    cases h
  · rw [token] at h plain ⊢
    obtain rfl : b = ' ' := List.mem_singleton.1 h
    have closed : ['*', '/'] <:+ (splitBlock body).1 := of_decide_eq_true plain
    obtain ⟨text, htext⟩ := closed
    have ended : '/' :: '*' :: (text ++ ['*', '/']) = ('/' :: '*' :: text ++ ['*']) ++ ['/'] := by
      simp
    refine ⟨rfl, ?_⟩
    rw [Token.lexeme, ← htext, ended, List.getLast?_concat]
    simp
  · rw [visible] at h
    have := solid b h
    rw [isSolid, hb, Bool.not_true, Bool.and_false] at this
    cases this
  · rw [token] at h ⊢
    obtain rfl : b = c := List.mem_singleton.1 h
    refine ⟨rfl, fun e => ?_⟩
    obtain rfl : b = '.' := Option.some.inj e
    exact absurd hb (by decide)

section Name

variable {name rest : List Char} (hname : isIdentifier name = true)
  (hrest : ∀ d ∈ rest.head?, isIdentifierChar d = false)

include hname hrest

/-- An identifier that the tokens leave first is the first token. -/
theorem exists_first_identifier {before : Option Char} {s : List Char} (free : before ≠ some '.')
    (h : (tokensAfter before s).flatMap Token.visible = name ++ rest) :
    ∃ ts, tokensAfter before s = .identifier name false :: ts ∧
      ts.flatMap Token.visible = rest := by
  cases name with
  | nil => cases hname
  | cons c r =>
    have hc := (Bool.and_eq_true_iff.1 hname).1
    have first : s.head? = some c := by
      refine (head?_visible before s c (by rw [h]; rfl)).resolve_right fun blank => ?_
      rw [isBlank_of_isIdentifierChar (isIdentifierChar_of_isIdentifierStart hc)] at blank
      cases blank
    obtain ⟨s, rfl⟩ := List.head?_eq_some_iff.1 first
    -- the token takes in as much as it can
    have word : isIdentifier (c :: s.takeWhile isIdentifierChar) = true :=
      Bool.and_eq_true_iff.2 ⟨hc, List.all_takeWhile⟩
    have stop := of_head?_dropWhile isIdentifierChar s
    have token := nextToken_identifier word stop before
    rw [List.takeWhile_append_dropWhile, beq_eq_false_iff_ne.2 free] at token
    rw [tokensAfter_cons, token]
    rw [tokensAfter_cons, token, List.flatMap_cons] at h
    -- so it is the name, for what follows it is no part of an identifier
    have stop' : ∀ d ∈ ((tokensAfter
        (Token.identifier (c :: s.takeWhile isIdentifierChar) false).lexeme.getLast?
        (s.dropWhile isIdentifierChar)).flatMap Token.visible).head?,
        isIdentifierChar d = false := by
      intro d hd
      rcases head?_visible _ _ d hd with hd | blank
      · exact stop d hd
      · refine Bool.eq_false_iff.2 fun hi => ?_
        rw [isBlank_of_isIdentifierChar hi] at blank
        cases blank
    obtain ⟨same, left⟩ := eq_of_append_while (forall_isIdentifierChar word)
      (forall_isIdentifierChar hname) stop' hrest h
    exact ⟨_, by rw [same], left⟩

/-- An identifier that stands after a blank in what the tokens leave is a token of its own, and no
member access. -/
theorem exists_identifier {before : Option Char} {s u : List Char} {b : Char}
    (plain : ∀ t ∈ tokensAfter before s, t.isPlain = true) (hb : isBlank b = true)
    (h : (tokensAfter before s).flatMap Token.visible = u ++ b :: (name ++ rest)) :
    ∃ ts₁ ts₂, tokensAfter before s = ts₁ ++ .identifier name false :: ts₂ ∧
      ts₁.flatMap Token.visible = u ++ [b] ∧ ts₂.flatMap Token.visible = rest := by
  induction before, s using tokensAfter.induct generalizing u with
  | case1 before => simp [tokensAfter_nil] at h
  | case2 before c s t =>
    rename_i ih
    rw [tokensAfter_cons] at plain h ⊢
    rw [List.flatMap_cons] at h
    have later {u : List Char} := @ih u fun t ht => plain t (List.mem_cons_of_mem _ ht)
    rcases List.append_eq_append_iff.1 h with ⟨u', rfl, h'⟩ | ⟨v, first, h'⟩
    · -- the blank comes later
      obtain ⟨ts₁, ts₂, split, left, right⟩ := later h'
      refine ⟨_ :: ts₁, ts₂, congrArg _ split, ?_, right⟩
      rw [List.flatMap_cons, left, List.append_assoc]
    cases v with
    | nil =>
      obtain ⟨ts₁, ts₂, split, left, right⟩ := later (u := []) h'.symm
      refine ⟨_ :: ts₁, ts₂, congrArg _ split, ?_, right⟩
      rw [List.flatMap_cons, left, first, List.append_nil, List.nil_append]
    | cons d v =>
      -- the blank is all that the first token leaves
      obtain ⟨rfl, left⟩ := List.cons.inj h'
      have mem : b ∈ (nextToken before c s).1.visible := by
        rw [first]
        exact List.mem_append_right _ List.mem_cons_self
      obtain ⟨single, free⟩ := visible_of_blank (plain _ List.mem_cons_self) mem hb
      obtain ⟨rfl, rfl⟩ : u = [] ∧ v = [] := by
        have size := congrArg List.length (single.symm.trans first)
        simp only [List.length_append, List.length_cons, List.length_nil] at size
        exact ⟨List.length_eq_zero_iff.1 (by omega), List.length_eq_zero_iff.1 (by omega)⟩
      obtain ⟨ts, split, right⟩ := exists_first_identifier hname hrest free left.symm
      refine ⟨[_], ts, congrArg _ split, ?_, right⟩
      rw [List.flatMap_singleton, single, List.nil_append]

end Name

/-! ## Functions -/

/-- The name of a function stands behind a blank and goes on with no word character. -/
theorem exists_of_functionAt? {s name r : List Char} (h : functionAt? s = some (name, r)) :
    ∃ u b rest, s = u ++ b :: (name ++ rest) ∧ isBlank b = true ∧
      ∀ d ∈ rest.head?, isWordChar d = false := by
  obtain ⟨heading, fits, rfl, rfl⟩ := functionAt?_eq_some_iff.1 h
  have gap := List.dropLast_concat_getLast fits.gap_ne_nil
  refine ⟨heading.type ++ heading.gap.dropLast, heading.gap.getLast fits.gap_ne_nil,
    heading.space ++ '(' :: (heading.close ++ r), ?_, fits.gap_blank _ (List.getLast_mem _),
    fits.ends_name _⟩
  rw [List.append_assoc, List.append_cons heading.gap.dropLast, gap]
  simp only [Heading.text, Heading.lead, List.append_assoc, List.cons_append]

theorem isWordChar_of_isIdentifierChar {c : Char} (h : isIdentifierChar c = true) :
    isWordChar c = true :=
  (isWordChar_ascii (toNat_lt_of_isIdentifierChar h)).trans h

/-- A function whose name is an identifier is a token of a text with plain comments, and no member
access. -/
theorem exists_identifier_of_mem_functionsOf {source name : String}
    (plain : HasPlainComments source) (hname : isIdentifier name.toList = true)
    (h : name ∈ functionsOf source) :
    ∃ before after, tokenize source = before ++ .identifier name.toList false :: after := by
  obtain ⟨found, hf, rfl⟩ := List.mem_map.1 (mem_distinctNames_iff.1 h).2
  rw [String.toList_ofList] at hname ⊢
  obtain ⟨u, v, r, text, shape⟩ := exists_of_mem_scanWords hf
  obtain ⟨w, b, rest, rfl, hb, ended⟩ := exists_of_functionAt? shape
  rw [uncommented_eq_visibleText plain, ← List.append_assoc] at text
  have stop : ∀ d ∈ rest.head?, isIdentifierChar d = false := by
    intro d hd
    refine Bool.eq_false_iff.2 fun hi => ?_
    exact Bool.false_ne_true ((ended d hd).symm.trans (isWordChar_of_isIdentifierChar hi))
  obtain ⟨before, after, split, -, -⟩ := exists_identifier hname stop plain hb text
  exact ⟨before, after, split⟩

end ScreenEffects.Glsl
