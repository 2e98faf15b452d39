import Mathlib.Data.List.DropRight
import ScreenEffects.Glsl.Rename
import ScreenEffects.Proofs.OrderedMap
import ScreenEffects.Text.Blank

/-!
# Identifiers at the start of a text

An identifier of ASCII that stands at the start of a text, with nothing behind it that would make it
longer, is the first token of the text. So a rename table that has the identifier replaces it, and
what is behind it is renamed by itself.

* `nextToken_identifier` : the first token is the whole identifier.
* `exists_of_renamed_ne` : renaming changes nothing but identifiers of the table.
* `toList_rename_of_split` : a renamed text has the new name in the place of the identifier.
* `exists_rename_eq_append` : a renamed text begins with the new name.
-/

namespace ScreenEffects.Glsl

/-- The text is an identifier. -/
def isIdentifier : List Char → Bool
  | [] => false
  | c :: r => isIdentifierStart c && r.all isIdentifierChar

/-! ## Characters -/

theorem isIdentifierChar_of_isIdentifierStart {c : Char} (h : isIdentifierStart c = true) :
    isIdentifierChar c = true := by
  rw [isIdentifierStart, Bool.or_eq_true] at h
  rw [isIdentifierChar, Char.isAlphanum, Bool.or_eq_true, Bool.or_eq_true]
  exact h.imp .inl id

theorem toNat_lt_of_isIdentifierChar {c : Char} (h : isIdentifierChar c = true) :
    c.toNat < 0x80 := by
  simp only [isIdentifierChar, Bool.or_eq_true, beq_iff_eq] at h
  rcases h with h | rfl
  · delta Char.isAlphanum Char.isAlpha Char.isUpper Char.isLower Char.isDigit at h
    simp only [Bool.or_eq_true, Bool.and_eq_true, decide_eq_true_eq, UInt32.le_iff_toNat_le,
      Char.toNat_val] at h
    have last : 'Z'.toNat = 90 ∧ 'z'.toNat = 122 ∧ '9'.toNat = 57 := by decide
    omega
  · decide

/-- What holds of each code point of ASCII holds of the characters of identifiers. -/
theorem forall_of_ascii {p : Char → Prop} (ascii : ∀ n < 0x80, p (Char.ofNat n)) {c : Char}
    (h : isIdentifierChar c = true) : p c :=
  Char.ofNat_toNat c ▸ ascii c.toNat (toNat_lt_of_isIdentifierChar h)

theorem isBlank_of_isIdentifierChar {c : Char} (h : isIdentifierChar c = true) :
    isBlank c = false :=
  forall_of_ascii (p := fun c => isIdentifierChar c = true → isBlank c = false) (by decide) h h

/-- An identifier starts with no digit, and neither does it with a capital. -/
theorem isDigit_of_isIdentifierStart {c : Char} (h : isIdentifierStart c = true) :
    c.isDigit = false ∧ c.toUpper.isDigit = false :=
  forall_of_ascii
    (p := fun c => isIdentifierStart c = true → c.isDigit = false ∧ c.toUpper.isDigit = false)
    (by decide) (isIdentifierChar_of_isIdentifierStart h) h

theorem forall_isIdentifierChar {name : List Char} (h : isIdentifier name = true) :
    ∀ c ∈ name, isIdentifierChar c = true := by
  cases name with
  | nil => cases h
  | cons c r =>
    obtain ⟨hc, hr⟩ := Bool.and_eq_true_iff.1 h
    intro d hd
    rcases List.mem_cons.1 hd with rfl | hd
    · exact isIdentifierChar_of_isIdentifierStart hc
    · exact List.all_eq_true.1 hr d hd

/-- There is nothing to trim from an identifier. -/
theorem trimBlank_identifier {name : List Char} (h : isIdentifier name = true) :
    trimBlank name = name := by
  have keep {s : List Char} (hs : ∀ c ∈ s, c ∈ name) : s.dropWhile isBlank = s := by
    rw [List.dropWhile_eq_self_iff]
    intro hl
    have hc := forall_isIdentifierChar h _ (hs _ (List.get_mem s ⟨0, hl⟩))
    exact Bool.not_eq_true _ ▸ isBlank_of_isIdentifierChar hc
  rw [trimBlank, keep fun _ => id, keep fun _ => List.mem_reverse.1, List.reverse_reverse]

/-! ## Tokens -/

/-- A text whose first character is not of a kind does not start with characters of the kind. -/
theorem while_of_head? {p : Char → Bool} {rest : List Char}
    (h : ∀ d ∈ rest.head?, p d = false) : rest.takeWhile p = [] ∧ rest.dropWhile p = rest := by
  cases rest with
  | nil => exact ⟨rfl, rfl⟩
  | cons d rest => simp [h d rfl]

/-- Two splits of a text after its first characters of a kind are the same. -/
theorem eq_of_append_while {p : Char → Bool} {a b x y : List Char} (ha : ∀ c ∈ a, p c = true)
    (hb : ∀ c ∈ b, p c = true) (hx : ∀ d ∈ x.head?, p d = false)
    (hy : ∀ d ∈ y.head?, p d = false) (h : a ++ x = b ++ y) : a = b ∧ x = y := by
  have heads := congrArg (List.takeWhile p) h
  rw [List.takeWhile_append_of_pos ha, List.takeWhile_append_of_pos hb, (while_of_head? hx).1,
    (while_of_head? hy).1, List.append_nil, List.append_nil] at heads
  subst heads
  exact ⟨rfl, List.append_cancel_left h⟩

/-- Where characters of a kind end, the text ends or another kind begins. -/
theorem of_head?_dropWhile (p : Char → Bool) (s : List Char) :
    ∀ d ∈ (s.dropWhile p).head?, p d = false := by
  intro d hd
  have ended := List.head?_dropWhile_not p s
  rw [hd] at ended
  exact ended

/-- The rest of a line ends the text or starts with the end of the line. -/
theorem head?_dropWhile_line (s : List Char) :
    ∀ d ∈ (s.dropWhile (· != '\n')).head?, d = '\n' := by
  intro d hd
  simpa using of_head?_dropWhile (· != '\n') s d hd

/-- An identifier that cannot go on is taken as a whole. -/
theorem nextToken_identifier {c : Char} {r rest : List Char}
    (h : isIdentifier (c :: r) = true) (hrest : ∀ d ∈ rest.head?, isIdentifierChar d = false)
    (before : Option Char) :
    nextToken before c (r ++ rest) = (.identifier (c :: r) (before == some '.'), rest) := by
  obtain ⟨hc, hr⟩ := Bool.and_eq_true_iff.1 h
  have slash : c ≠ '/' := by
    rintro rfl
    cases hc
  have point : c ≠ '.' := by
    rintro rfl
    cases hc
  have number : startsNumber c (r ++ rest) = false := by
    simp [startsNumber, (isDigit_of_isIdentifierStart hc).1, point]
  have stop := while_of_head? hrest
  rw [nextToken, if_neg (by simp [slash]), if_neg (by simp [slash]), number, hc,
    List.takeWhile_append_of_pos (List.all_eq_true.1 hr),
    List.dropWhile_append_of_pos (List.all_eq_true.1 hr), stop.1, stop.2, List.append_nil]
  rfl

/-- A token that is called an identifier is one. -/
theorem isIdentifier_of_nextToken {before : Option Char} {c : Char} {s l : List Char} {member : Bool}
    (h : (nextToken before c s).1 = .identifier l member) : isIdentifier l = true := by
  simp only [nextToken] at h
  split at h
  · cases h
  · split at h
    · cases h
    · split at h
      · cases h
      · split at h
        · rename_i start
          obtain ⟨rfl, -⟩ := Token.identifier.inj h
          exact Bool.and_eq_true_iff.2 ⟨start, List.all_takeWhile⟩
        · cases h

theorem isIdentifier_of_mem_tokensAfter {before : Option Char} {s l : List Char} {member : Bool}
    (h : .identifier l member ∈ tokensAfter before s) : isIdentifier l = true := by
  fun_induction tokensAfter before s with
  | case1 => cases h
  | case2 before c s t ih =>
    rcases List.mem_cons.1 h with first | h
    · exact isIdentifier_of_nextToken first.symm
    · exact ih h

theorem lexeme_subset_of_mem_tokensAfter {before : Option Char} {s : List Char} {t : Token}
    (h : t ∈ tokensAfter before s) : t.lexeme ⊆ s := by
  fun_induction tokensAfter before s with
  | case1 => cases h
  | case2 before c s next ih =>
    have text : next.1.lexeme ++ next.2 = c :: s := lexeme_append_nextToken before c s
    rw [← text]
    rcases List.mem_cons.1 h with rfl | h
    · exact List.subset_append_left _ _
    · exact List.subset_append_of_subset_right _ (ih h)

/-- A renamed text has the characters of the text and of the new names. -/
theorem notMem_rename {source : String} {table : Renames} {c : Char} (hs : c ∉ source.toList)
    (hnew : ∀ name new, table.get? name = some new → c ∉ new.toList) :
    c ∉ (rename source table).toList := by
  rw [rename]
  split
  · exact hs
  rw [String.toList_ofList, List.mem_flatMap]
  rintro ⟨t, ht, hc⟩
  unfold Token.renamed at hc
  split at hc
  · split at hc
    · rename_i new found
      exact hnew _ new found hc
    · exact hs (lexeme_subset_of_mem_tokensAfter ht hc)
  · exact hs (lexeme_subset_of_mem_tokensAfter ht hc)

/-- What renaming changes is an identifier of the table, and no member access. -/
theorem exists_of_renamed_ne {source : String} {table : Renames} {t : Token}
    (ht : t ∈ tokenize source) (h : t.renamed table ≠ t.lexeme) :
    ∃ name ∈ table.keys, isIdentifier name.toList = true ∧ t = .identifier name.toList false := by
  unfold Token.renamed at h
  split at h
  · rename_i l
    split at h
    · rename_i new found
      refine ⟨.ofList l, OrderedMap.mem_keys_of_get? found, ?_, by rw [String.toList_ofList]⟩
      rw [String.toList_ofList]
      exact isIdentifier_of_mem_tokensAfter ht
    · exact absurd rfl h
  · exact absurd rfl h

/-- Around an identifier of the table, a text is renamed by itself. -/
theorem toList_rename_of_split {source new : String} {table : Renames} {name : List Char}
    {before after : List Token}
    (split : tokenize source = before ++ .identifier name false :: after)
    (hnew : table.get? (.ofList name) = some new) :
    (rename source table).toList =
      before.flatMap (·.renamed table) ++ new.toList ++ after.flatMap (·.renamed table) := by
  have written : (Token.identifier name false).renamed table = new.toList := by
    rw [Token.renamed, hnew]
  rw [rename, OrderedMap.isEmpty_of_get? hnew, if_neg Bool.false_ne_true, String.toList_ofList,
    split, List.flatMap_append, List.flatMap_cons, written, List.append_assoc]

/-- A text that begins with an identifier of the table begins with the new name once it is
renamed. -/
theorem exists_rename_eq_append {name rest : List Char} {new : String} {table : Renames}
    (h : isIdentifier name = true) (hrest : ∀ d ∈ rest.head?, isIdentifierChar d = false)
    (hnew : table.get? (.ofList name) = some new) :
    ∃ tail, (rename (.ofList (name ++ rest)) table).toList = new.toList ++ tail := by
  cases name with
  | nil => cases h
  | cons c r =>
    have split : tokenize (.ofList (c :: r ++ rest)) = [] ++ .identifier (c :: r) false ::
        tokensAfter (Token.identifier (c :: r) false).lexeme.getLast? rest := by
      rw [tokenize, String.toList_ofList, tokens, List.cons_append, tokensAfter_cons,
        nextToken_identifier h hrest]
      rfl
    exact ⟨_, toList_rename_of_split split hnew⟩

end ScreenEffects.Glsl
