import ScreenEffects.Json.Basic

/-!
# Pieces of a settings text

A settings text is cut into brackets, separators, words, numerals and strings, between which there
may be spaces, tabs and line ends. A numeral has no needless zero in front and a digit on each side
of its point; a string holds no control character, and an escape is one of the eight letters or four
hexadecimal digits. Two such numbers may spell one character outside the basic plane; one that spells
half of it makes the string no text.

* `lex?` cuts a whole text, or fails. Each piece takes at least one character (`length_le_of_piece?`).
-/

namespace ScreenEffects.Json

/-! ## Numerals -/

def digitsOf (s : List Char) : List Nat :=
  (s.takeWhile Char.isDigit).map fun c => c.toNat - '0'.toNat

/-- The digits at the start of a text, of which there must be one, and the text after them. -/
def digits? (s : List Char) : Option (List Nat × List Char) :=
  if s.head?.any Char.isDigit then some (digitsOf s, s.dropWhile Char.isDigit) else none

/-- The digits before the point: a zero stands alone. -/
def wholeDigits? (s : List Char) : Option (List Nat × List Char) :=
  match digits? s with
  | some (0 :: _ :: _, _) => none
  | r => r

/-- The digits after a point, if there is one. -/
def fraction? (s : List Char) : Option (List Nat × List Char) :=
  match s with
  | '.' :: s => digits? s
  | s => some ([], s)

/-- The sign and the digits of an exponent. -/
def markedExponent? (s : List Char) : Option (Option (Bool × List Nat) × List Char) :=
  match s with
  | '+' :: s => (digits? s).map fun (ds, s) => (some (false, ds), s)
  | '-' :: s => (digits? s).map fun (ds, s) => (some (true, ds), s)
  | s => (digits? s).map fun (ds, s) => (some (false, ds), s)

/-- The exponent, if there is one. -/
def exponent? (s : List Char) : Option (Option (Bool × List Nat) × List Char) :=
  match s with
  | 'e' :: s => markedExponent? s
  | 'E' :: s => markedExponent? s
  | s => some (none, s)

/-- The numeral at the start of a text. -/
def numeral? (s : List Char) : Option (Numeral × List Char) := do
  let negative := s.head? == some '-'
  let (whole, s) ← wholeDigits? (if negative then s.tail else s)
  let (fraction, s) ← fraction? s
  let (exponent, s) ← exponent? s
  return (⟨negative, whole, fraction, exponent⟩, s)

/-! ## Strings -/

/-- A character of a string, or the number of an escape. -/
inductive Unit16
  | char (c : Char)
  | code (n : Nat)

/-- The value of a hexadecimal digit. -/
def hexDigit? (c : Char) : Option Nat :=
  if c.isDigit then some (c.toNat - '0'.toNat)
  else if 'a' ≤ c ∧ c ≤ 'f' then some (c.toNat - 'a'.toNat + 10)
  else if 'A' ≤ c ∧ c ≤ 'F' then some (c.toNat - 'A'.toNat + 10)
  else none

/-- The character of an escape by a letter. -/
def escapedChar? : Char → Option Char
  | '"' => some '"'
  | '\\' => some '\\'
  | '/' => some '/'
  | 'b' => some (.ofNat 8)
  | 'f' => some (.ofNat 12)
  | 'n' => some '\n'
  | 'r' => some '\r'
  | 't' => some '\t'
  | _ => none

/-- The number of four hexadecimal digits. -/
def hexCode? (a b c d : Char) : Option Nat := do
  return (((← hexDigit? a) * 16 + (← hexDigit? b)) * 16 + (← hexDigit? c)) * 16 + (← hexDigit? d)

/-- What stands in a string up to its closing quote, and the text after that. -/
def stringBody? : List Char → Option (List Unit16 × List Char)
  | [] => none
  | '"' :: s => some ([], s)
  | '\\' :: 'u' :: a :: b :: c :: d :: s => do
    let n ← hexCode? a b c d
    let (us, s) ← stringBody? s
    return (.code n :: us, s)
  | '\\' :: e :: s => do
    let x ← escapedChar? e
    let (us, s) ← stringBody? s
    return (.char x :: us, s)
  | c :: s => do
    if c.toNat < 0x20 ∨ c = '\\' then none
    else
      let (us, s) ← stringBody? s
      return (.char c :: us, s)

/-- The text that is spelled, if every half of a character meets its other half. -/
def spelled? : List Unit16 → Option (List Char)
  | [] => some []
  | .char c :: us => (spelled? us).map (c :: ·)
  | .code n :: us =>
    if 0xDC00 ≤ n ∧ n < 0xE000 then none
    else if 0xD800 ≤ n ∧ n < 0xDC00 then
      match us with
      | .code m :: us =>
        if 0xDC00 ≤ m ∧ m < 0xE000 then
          (spelled? us).map (.ofNat (0x10000 + (n - 0xD800) * 0x400 + (m - 0xDC00)) :: ·)
        else none
      | _ => none
    else (spelled? us).map (.ofNat n :: ·)

/-! ## Pieces -/

/-- The space between pieces. -/
def isGap (c : Char) : Bool := c == ' ' || c == '\t' || c == '\n' || c == '\r'

/-- The rest of the text after a word it starts with. -/
def afterWord? (w : String) (s : List Char) : Option (List Char) := w.toList.isPrefixOf? s

/-- The piece that starts with `c`, and the text after it. -/
def piece? (c : Char) (s : List Char) : Option (Token × List Char) :=
  match c with
  | '[' => some (.leftBracket, s)
  | ']' => some (.rightBracket, s)
  | '\x7b' => some (.leftBrace, s)
  | '\x7d' => some (.rightBrace, s)
  | ',' => some (.comma, s)
  | ':' => some (.colon, s)
  | 'n' => (afterWord? "ull" s).map ((.null, ·))
  | 't' => (afterWord? "rue" s).map ((.bool true, ·))
  | 'f' => (afterWord? "alse" s).map ((.bool false, ·))
  | '"' => (stringBody? s).map fun (us, s) => (.string ((spelled? us).map String.ofList), s)
  | c => (numeral? (c :: s)).map fun (x, s) => (.numeral x, s)

/-! ### A piece takes characters -/

theorem length_lt_of_digits? {s r : List Char} {ds : List Nat} (h : digits? s = some (ds, r)) :
    r.length < s.length := by
  simp only [digits?, Option.ite_none_right_eq_some, Option.some.injEq, Prod.mk.injEq] at h
  obtain ⟨hd, -, rfl⟩ := h
  cases s with
  | nil => simp at hd
  | cons c s =>
    rw [List.dropWhile_cons_of_pos (by simpa using hd)]
    exact Nat.lt_succ_of_le (List.dropWhile_sublist _).length_le

theorem length_lt_of_wholeDigits? {s r : List Char} {ds : List Nat}
    (h : wholeDigits? s = some (ds, r)) : r.length < s.length := by
  unfold wholeDigits? at h
  split at h
  · simp at h
  · exact length_lt_of_digits? h

theorem length_le_of_fraction? {s r : List Char} {ds : List Nat}
    (h : fraction? s = some (ds, r)) : r.length ≤ s.length := by
  unfold fraction? at h
  split at h
  · exact Nat.le_succ_of_le (Nat.le_of_lt (length_lt_of_digits? h))
  · simp only [Option.some.injEq, Prod.mk.injEq] at h
    exact h.2 ▸ Nat.le_refl _

theorem length_le_of_markedExponent? {s r : List Char} {e : Option (Bool × List Nat)}
    (h : markedExponent? s = some (e, r)) : r.length ≤ s.length := by
  unfold markedExponent? at h
  split at h <;> simp only [Option.map_eq_some_iff, Prod.mk.injEq] at h <;>
    obtain ⟨⟨ds, t⟩, hd, -, rfl⟩ := h <;>
    have := length_lt_of_digits? hd <;> simp only [List.length_cons] <;> omega

theorem length_le_of_exponent? {s r : List Char} {e : Option (Bool × List Nat)}
    (h : exponent? s = some (e, r)) : r.length ≤ s.length := by
  unfold exponent? at h
  split at h
  · exact Nat.le_succ_of_le (length_le_of_markedExponent? h)
  · exact Nat.le_succ_of_le (length_le_of_markedExponent? h)
  · simp only [Option.some.injEq, Prod.mk.injEq] at h
    exact h.2 ▸ Nat.le_refl _

theorem length_lt_of_numeral? {s r : List Char} {x : Numeral} (h : numeral? s = some (x, r)) :
    r.length < s.length := by
  simp only [numeral?, Option.bind_eq_bind, Option.bind_eq_some_iff, Option.pure_def,
    Option.some.injEq, Prod.mk.injEq, Prod.exists] at h
  obtain ⟨_, s₁, h₁, _, s₂, h₂, _, s₃, h₃, -, rfl⟩ := h
  have := length_lt_of_wholeDigits? h₁
  have := length_le_of_fraction? h₂
  have := length_le_of_exponent? h₃
  have : (if (s.head? == some '-') = true then s.tail else s).length ≤ s.length := by
    split <;> simp
  omega

theorem length_lt_of_stringBody? {s r : List Char} {us : List Unit16}
    (h : stringBody? s = some (us, r)) : r.length < s.length := by
  fun_induction stringBody? s generalizing us with
  | case1 => simp at h
  | case2 s => simp_all
  | case3 a b c d s ih =>
    simp only [Option.bind_eq_bind, Option.bind_eq_some_iff, Option.pure_def, Option.some.injEq,
      Prod.mk.injEq, Prod.exists] at h
    obtain ⟨_, -, _, _, h, -, rfl⟩ := h
    have := ih h
    simp only [List.length_cons]
    omega
  | case4 e s _ ih =>
    simp only [Option.bind_eq_bind, Option.bind_eq_some_iff, Option.pure_def, Option.some.injEq,
      Prod.mk.injEq, Prod.exists] at h
    obtain ⟨_, -, _, _, h, -, rfl⟩ := h
    have := ih h
    simp only [List.length_cons]
    omega
  | case5 => simp at h
  | case6 c s _ _ _ _ ih =>
    simp only [Option.bind_eq_bind, Option.bind_eq_some_iff, Option.pure_def, Option.some.injEq,
      Prod.mk.injEq, Prod.exists] at h
    obtain ⟨_, _, h, -, rfl⟩ := h
    have := ih h
    simp only [List.length_cons]
    omega

theorem length_le_of_isPrefixOf? {w s r : List Char} (h : w.isPrefixOf? s = some r) :
    r.length ≤ s.length := by
  induction w generalizing s with
  | nil =>
    have e : s = r := Option.some.inj h
    exact Nat.le_of_eq (congrArg _ e.symm)
  | cons c w ih =>
    cases s with
    | nil => cases h
    | cons d s =>
      have e : (if c == d then w.isPrefixOf? s else none) = some r := h
      rw [Option.ite_none_right_eq_some] at e
      exact Nat.le_succ_of_le (ih e.2)

/-- What is left after a piece is no longer than what stood behind its first character. -/
theorem length_le_of_piece? {c : Char} {s r : List Char} {t : Token}
    (h : piece? c s = some (t, r)) : r.length ≤ s.length := by
  unfold piece? at h
  split at h <;> simp only [Option.some.injEq, Prod.mk.injEq, Option.map_eq_some_iff] at h
  iterate 6 exact h.2 ▸ Nat.le_refl _
  iterate 3
    obtain ⟨_, h, -, rfl⟩ := h
    exact length_le_of_isPrefixOf? h
  · obtain ⟨⟨_, _⟩, h, -, rfl⟩ := h
    exact Nat.le_of_lt (length_lt_of_stringBody? h)
  · obtain ⟨⟨_, _⟩, h, -, rfl⟩ := h
    exact Nat.le_of_lt_succ (length_lt_of_numeral? h)

/-- The pieces of a text. -/
def lex? : List Char → Option (List Token)
  | [] => some []
  | c :: s =>
    if isGap c then lex? s
    else
      match h : piece? c s with
      | none => none
      | some (t, r) =>
        have := length_le_of_piece? h
        (lex? r).map (t :: ·)
termination_by s => s.length

end ScreenEffects.Json
