import ScreenEffects.Proofs.Glsl.Renaming
import ScreenEffects.Proofs.Glsl.Syntax

/-!
# Words of a text in parts

A blank or a semicolon belongs to nothing that stands before it, so it parts a text: the tokens of
the text are those of what stands before it, itself, and those of what stands behind it
(`tokens_append_cons`), and so for the words (`words_append_cons`). Only a comment can reach over
it.
-/

namespace ScreenEffects.Glsl

def Token.isComment : Token → Bool
  | .comment _ => true
  | _ => false

/-- A character that belongs neither to an identifier or a number nor to an operator. -/
def partsWords (c : Char) : Bool :=
  !isIdentifierChar c && c != '.' && (operator? c).isNone && (operatorWithEquals? c).isNone

variable {c d : Char}

theorem head?_append_cons_iff (ne : c ≠ d) (s r : List Char) :
    (s ++ c :: r).head? = some d ↔ s.head? = some d := by
  cases s with
  | nil => simp [ne]
  | cons _ _ => rfl

theorem takeWhile_append_cons {p : Char → Bool} (stop : p c = false) (s r : List Char) :
    (s ++ c :: r).takeWhile p = s.takeWhile p := by
  induction s with
  | nil => exact List.takeWhile_cons_of_neg (by simp [stop])
  | cons b s ih => simp only [List.cons_append, List.takeWhile_cons, ih]

theorem dropWhile_append_cons {p : Char → Bool} (stop : p c = false) (s r : List Char) :
    (s ++ c :: r).dropWhile p = s.dropWhile p ++ c :: r := by
  induction s with
  | nil => exact List.dropWhile_cons_of_neg (by simp [stop])
  | cons b s ih =>
    simp only [List.cons_append, List.dropWhile_cons, ih]
    split <;> rfl

section Parts

variable (parts : partsWords c = true)

include parts

theorem isIdentifierChar_of_partsWords : isIdentifierChar c = false := by
  simp only [partsWords, Bool.and_eq_true, Bool.not_eq_true'] at parts
  exact parts.1.1.1

theorem ne_of_partsWords (h : partsWords d = false) : c ≠ d := by
  rintro rfl
  rw [parts] at h
  cases h

theorem classes_of_partsWords :
    c.isDigit = false ∧ c.isAlphanum = false ∧ isIdentifierStart c = false := by
  have := isIdentifierChar_of_partsWords parts
  simp only [isIdentifierChar, Char.isAlphanum, Bool.or_eq_false_iff] at this
  simp [isIdentifierStart, Char.isAlphanum, this]

theorem isNumberChar_of_partsWords (hex : Bool) (last : Char) : isNumberChar hex last c = false := by
  have point : c ≠ '.' := ne_of_partsWords parts (by decide)
  have plus : c ≠ '+' := ne_of_partsWords parts (by decide)
  have minus : c ≠ '-' := ne_of_partsWords parts (by decide)
  simp [isNumberChar, (classes_of_partsWords parts).2.1, point, plus, minus]

theorem splitNumber_append_cons (hex : Bool) (last : Char) (s r : List Char) :
    splitNumber hex last (s ++ c :: r) =
      ((splitNumber hex last s).1, (splitNumber hex last s).2 ++ c :: r) := by
  induction s generalizing last with
  | nil => simp [splitNumber, isNumberChar_of_partsWords parts]
  | cons b s ih =>
    simp only [List.cons_append, splitNumber, ih]
    split <;> rfl

theorem startsNumber_append_cons (d : Char) (s r : List Char) :
    startsNumber d (s ++ c :: r) = startsNumber d s := by
  cases s with
  | nil => simp [startsNumber, (classes_of_partsWords parts).1]
  | cons _ _ => rfl

theorem startsHex_append_cons (d : Char) (s r : List Char) :
    startsHex d (s ++ c :: r) = startsHex d s := by
  have small : c ≠ 'x' := ne_of_partsWords parts (by decide)
  have large : c ≠ 'X' := ne_of_partsWords parts (by decide)
  cases s with
  | nil => simp [startsHex, small, large]
  | cons _ _ => rfl

/-- A token that is no comment ends in front of a character that parts words. -/
theorem nextToken_append_cons {before : Option Char} {s : List Char}
    (plain : (nextToken before d s).1.isComment = false) (r : List Char) :
    nextToken before d (s ++ c :: r) =
      ((nextToken before d s).1, (nextToken before d s).2 ++ c :: r) := by
  have line : ¬ (d = '/' ∧ s.head? = some '/') := by
    intro line
    rw [nextToken, if_pos line] at plain
    cases plain
  have block : ¬ (d = '/' ∧ s.head? = some '*') := by
    intro block
    rw [nextToken, if_neg line, if_pos block] at plain
    cases plain
  have slash : c ≠ '/' := ne_of_partsWords parts (by decide)
  have star : c ≠ '*' := ne_of_partsWords parts (by decide)
  have stop : isIdentifierChar c = false := isIdentifierChar_of_partsWords parts
  simp only [nextToken, head?_append_cons_iff slash, head?_append_cons_iff star, if_neg line,
    if_neg block, startsNumber_append_cons parts, startsHex_append_cons parts,
    splitNumber_append_cons parts, takeWhile_append_cons stop, dropWhile_append_cons stop]
  split
  · rfl
  · split <;> rfl

/-- A character that parts words is a token of its own, and the text behind it is read anew. -/
theorem tokensAfter_cons_of_partsWords (before : Option Char) (r : List Char) :
    tokensAfter before (c :: r) = .other c :: tokens r := by
  have slash : c ≠ '/' := ne_of_partsWords parts (by decide)
  have point : c ≠ '.' := ne_of_partsWords parts (by decide)
  obtain ⟨digit, _, start⟩ := classes_of_partsWords parts
  have alone : nextToken before c r = (.other c, r) := by
    simp [nextToken, startsNumber, slash, point, digit, start]
  rw [tokensAfter_cons, alone]
  exact congrArg _ (tokensAfter_congr (by simp [Token.lexeme, point]) r)

theorem tokensAfter_append_cons {before : Option Char} {s : List Char}
    (plain : ∀ t ∈ tokensAfter before s, t.isComment = false) (r : List Char) :
    tokensAfter before (s ++ c :: r) = tokensAfter before s ++ .other c :: tokens r := by
  fun_induction tokensAfter before s with
  | case1 =>
    rw [List.nil_append, List.nil_append, tokensAfter_cons_of_partsWords parts]
  | case2 before d s t ih =>
    obtain ⟨first, later⟩ := List.forall_mem_cons.1 plain
    rw [List.cons_append, tokensAfter_cons, nextToken_append_cons parts first, ih later,
      List.cons_append]

/-- **A character that parts words parts the tokens**, behind a text without comments. -/
theorem tokens_append_cons {s : List Char} (plain : ∀ t ∈ tokens s, t.isComment = false)
    (r : List Char) : tokens (s ++ c :: r) = tokens s ++ .other c :: tokens r :=
  tokensAfter_append_cons parts plain r

theorem wordsOf_cons_of_partsWords (ts : List Token) :
    wordsOf (.other c :: ts) = wordsOfChar c ++ wordsOf ts := by
  have single : operatorWithEquals? c = none := by
    simp only [partsWords, Bool.and_eq_true, Option.isNone_iff_eq_none] at parts
    exact parts.2
  match ts with
  | [] => exact (List.append_nil _).symm
  | .other d :: ts => simp only [wordsOf, single, ite_self]
  | .identifier _ _ :: _ | .number _ :: _ | .comment _ :: _ => rfl

theorem wordsOf_append_cons (ts us : List Token) :
    wordsOf (ts ++ .other c :: us) = wordsOf ts ++ (wordsOfChar c ++ wordsOf us) := by
  have ne : c ≠ '=' := ne_of_partsWords parts (by decide)
  rw [← wordsOf_cons_of_partsWords parts]
  fun_induction wordsOf ts with
  | case1 => rfl
  | case2 l member ts ih => exact congrArg _ ih
  | case3 l ts ih => exact congrArg _ ih
  | case4 l ts ih => exact ih
  | case5 d => simp only [List.cons_append, List.nil_append, wordsOf, if_neg ne]
  | case6 d e ts o double ih => simp only [List.cons_append, wordsOf, double, ih]
  | case7 d e ts single ih =>
    simp only [List.cons_append, wordsOf, single, List.append_assoc] at ih ⊢
    rw [ih]
  | case8 d t ts other ih =>
    rw [List.append_assoc, ← ih]
    cases t with
    | other e => exact absurd rfl (other e)
    | _ => rfl

/-- **A character that parts words parts a text**, behind a text without comments. -/
theorem words_append_cons {s : List Char} (plain : ∀ t ∈ tokens s, t.isComment = false)
    (r : List Char) : words (s ++ c :: r) = words s ++ (wordsOfChar c ++ words r) := by
  rw [words, tokens_append_cons parts plain, wordsOf_append_cons parts]
  rfl

end Parts

end ScreenEffects.Glsl
