import ScreenEffects.Proofs.Glsl.Renaming

/-!
# Tokens are pieces of the text

The tokens of a text, whatever it is, are pieces of it, one behind the other: none is empty, none is
left out, and each begins and ends between two characters, also where these take several bytes. The
identifiers are what the other tokens leave of words: outside of numbers and comments, they are the
longest runs of letters, digits and underscores. One that stands right behind a point is a member
access, and it does not matter whether the point is a token, ends a number or ends a comment.

* `tokensAfter_of_append` : from any token on, the tokens are those of the rest of the text.
* `getLast?_bytes_eq_iff` : a text ends with a point if its last byte is one.
* `tokenize_partitions` : all of this for any text.
-/

namespace ScreenEffects.Glsl

/-! ## Bytes -/

theorem ofNat_eq_point_iff {n : Nat} (h : n < 256) : UInt8.ofNat n = 0x2E ↔ n = 0x2E := by
  rw [← UInt8.toNat_inj, UInt8.toNat_ofNat', Nat.mod_eq_of_lt h]
  rfl

/-- No character but a point ends with the byte of a point: characters of several bytes end with one
above those of ASCII. -/
theorem getLast?_utf8EncodeChar_eq_iff (c : Char) :
    (String.utf8EncodeChar c).getLast? = some 0x2E ↔ c = '.' := by
  have point : c = '.' ↔ c.val.toNat = 0x2E := by
    rw [← Char.toNat_inj]
    rfl
  rw [point, String.utf8EncodeChar]
  generalize c.val.toNat = n
  have last : n % 64 + 128 < 256 := by omega
  split
  · rw [List.getLast?_singleton, Option.some.injEq, ofNat_eq_point_iff (by omega)]
  · rename_i long
    split_ifs <;>
    · simp only [List.getLast?_cons_cons, List.getLast?_singleton, Option.some.injEq,
        ofNat_eq_point_iff last]
      omega

/-- A text ends with a point if its last byte is one. -/
theorem getLast?_bytes_eq_iff (s : List Char) :
    (s.flatMap String.utf8EncodeChar).getLast? = some 0x2E ↔ s.getLast? = some '.' := by
  rcases List.eq_nil_or_concat s with rfl | ⟨s, c, rfl⟩
  · simp
  · have last := List.getLast?_eq_some_getLast (String.utf8EncodeChar_ne_nil (c := c))
    have ends := getLast?_utf8EncodeChar_eq_iff c
    rw [last] at ends
    rw [List.concat_eq_append, List.flatMap_append, List.flatMap_singleton, List.getLast?_append,
      last, List.getLast?_concat, Option.some_or, ends, Option.some.injEq]

/-! ## Tokens from a token on -/

/-- The text of tokens. -/
def lexemes (ts : List Token) : List Char := ts.flatMap Token.lexeme

theorem lexemes_cons (t : Token) (ts : List Token) : lexemes (t :: ts) = t.lexeme ++ lexemes ts := rfl

theorem lexemes_append (ts us : List Token) : lexemes (ts ++ us) = lexemes ts ++ lexemes us :=
  List.flatMap_append

theorem lexemes_tokensAfter (before : Option Char) (s : List Char) :
    lexemes (tokensAfter before s) = s :=
  flatMap_lexeme_tokensAfter before s

theorem length_tokensAfter_le (before : Option Char) (s : List Char) :
    (tokensAfter before s).length ≤ s.length := by
  fun_induction tokensAfter before s with
  | case1 => exact Nat.le_refl _
  | case2 before c s t ih => exact Nat.lt_of_le_of_lt ih (length_nextToken_lt before c s)

/-- The first of the tokens of a text, and the tokens of what is behind it. -/
theorem exists_nextToken_of_tokensAfter {before : Option Char} {s : List Char} {t : Token}
    {us : List Token} (h : tokensAfter before s = t :: us) :
    ∃ c r, s = c :: r ∧ (nextToken before c r).1 = t ∧ (nextToken before c r).2 = lexemes us ∧
      us = tokensAfter t.lexeme.getLast? (lexemes us) := by
  cases s with
  | nil =>
    rw [tokensAfter_nil] at h
    cases h
  | cons c r =>
    rw [tokensAfter_cons] at h
    obtain ⟨rfl, rfl⟩ := List.cons.inj h
    rw [lexemes_tokensAfter]
    exact ⟨c, r, rfl, rfl, rfl, rfl⟩

/-- The tokens behind some tokens of a text are those of the rest of the text. -/
theorem tokensAfter_of_append {before : Option Char} {s : List Char} {ts us : List Token}
    (h : tokensAfter before s = ts ++ us) :
    us = tokensAfter ((lexemes ts).getLast?.or before) (lexemes us) := by
  induction ts generalizing before s with
  | nil =>
    rw [List.nil_append] at h
    subst h
    rw [lexemes_tokensAfter]
    rfl
  | cons t ts ih =>
    obtain ⟨c, r, rfl, first, -, rest⟩ := exists_nextToken_of_tokensAfter h
    refine (ih rest.symm).trans ?_
    obtain ⟨l, written⟩ := exists_lexeme_nextToken before c r
    rw [lexemes_cons, List.getLast?_append, ← first, written, List.getLast?_cons, Option.or_assoc]
    rfl

/-- A character that is a token by itself is none of an identifier. -/
theorem isIdentifierChar_of_nextToken_eq_other {before : Option Char} {c d : Char} {s : List Char}
    (h : (nextToken before c s).1 = .other d) : isIdentifierChar d = false := by
  simp only [nextToken] at h
  split at h
  · cases h
  · split at h
    · cases h
    · split at h
      · cases h
      · split at h
        · cases h
        · rename_i digits start
          obtain rfl := Token.other.inj h
          simp only [startsNumber, Bool.or_eq_true, not_or] at digits
          simp only [isIdentifierStart, Bool.or_eq_true, not_or] at start
          simp [isIdentifierChar, Char.isAlphanum, digits.1, start]

/-! ## Words -/

/-- The token is neither a number nor a comment. -/
def Token.isOpen : Token → Bool
  | .number _ | .comment _ => false
  | _ => true

/-- For each character of tokens, whether it may be one of an identifier: it is of the kind, and it
stands outside of numbers and comments. -/
def wordMarks (ts : List Token) : List Bool :=
  ts.flatMap fun t => t.lexeme.map fun c => t.isOpen && isIdentifierChar c

/-- The token is a longest run of marked characters. -/
structure IsWholeWord (before : List Token) (t : Token) (after : List Token) : Prop where
  marked : ∀ m ∈ wordMarks [t], m = true
  left : (wordMarks before).getLast? ≠ some true
  right : (wordMarks after).head? ≠ some true

/-- The first of the tokens of a text has its first character. -/
theorem head?_wordMarks {before : Option Char} {s : List Char}
    (stop : ∀ d ∈ s.head?, isIdentifierChar d = false) :
    (wordMarks (tokensAfter before s)).head? ≠ some true := by
  cases s with
  | nil =>
    rw [tokensAfter_nil]
    exact nofun
  | cons c s =>
    obtain ⟨l, written⟩ := exists_lexeme_nextToken before c s
    rw [tokensAfter_cons, wordMarks, List.flatMap_cons, written, List.map_cons, stop c rfl]
    simp

/-- A token behind which an identifier stands does not end with a marked character. -/
theorem getLast?_wordMarks {prev : Option Char} {s l : List Char} {before after : List Token}
    {member : Bool} (h : tokensAfter prev s = before ++ .identifier l member :: after) :
    (wordMarks before).getLast? ≠ some true := by
  rcases List.eq_nil_or_concat before with rfl | ⟨before, u, rfl⟩
  · exact nofun
  rw [List.concat_eq_append, List.append_assoc, List.singleton_append] at h
  obtain ⟨c, r, -, taken, text, rest⟩ :=
    exists_nextToken_of_tokensAfter (tokensAfter_of_append h).symm
  -- a number and a comment have no marks, another character is of no identifier, and an identifier
  -- would have gone on
  have unmarked : ∀ d ∈ u.lexeme.getLast?, (u.isOpen && isIdentifierChar d) = false := by
    intro d hd
    cases u with
    | number | comment => rfl
    | other e =>
      cases hd
      exact isIdentifierChar_of_nextToken_eq_other taken
    | identifier =>
      obtain ⟨_, _, -, next, -⟩ := exists_nextToken_of_tokensAfter rest.symm
      have ended := (of_nextToken_eq_identifier taken).2
      rw [text, lexemes_cons] at ended
      have word := startsWord_append (isIdentifier_of_nextToken next) (lexemes after)
      exact absurd word (not_startsWord ended)
  rw [wordMarks, List.concat_eq_append, List.flatMap_append, List.flatMap_singleton,
    List.getLast?_append, List.getLast?_map]
  obtain ⟨k, written⟩ := exists_lexeme_nextToken ((lexemes before).getLast?.or prev) c r
  rw [taken] at written
  rw [written, List.getLast?_cons] at unmarked ⊢
  rw [Option.map_some, unmarked _ rfl]
  exact nofun

/-- **Identifiers are the words**, and no other tokens are. -/
theorem isIdentifier_iff_isWholeWord {prev : Option Char} {s : List Char} {before after : List Token}
    {t : Token} (h : tokensAfter prev s = before ++ t :: after) :
    t.isIdentifier = true ↔ IsWholeWord before t after := by
  obtain ⟨c, r, -, taken, text, rest⟩ :=
    exists_nextToken_of_tokensAfter (tokensAfter_of_append h).symm
  constructor
  · intro named
    cases t with
    | identifier l member =>
      refine ⟨fun m hm => ?_, getLast?_wordMarks h, ?_⟩
      · rw [wordMarks, List.flatMap_singleton, List.mem_map] at hm
        obtain ⟨d, hd, rfl⟩ := hm
        exact forall_isIdentifierChar (isIdentifier_of_nextToken taken) d hd
      · rw [rest]
        refine head?_wordMarks ?_
        rw [← text]
        exact (of_nextToken_eq_identifier taken).2
    | number | comment | other => cases named
  · intro word
    obtain ⟨l, written⟩ := exists_lexeme_nextToken ((lexemes before).getLast?.or prev) c r
    rw [taken] at written
    have first : (t.isOpen && isIdentifierChar c) = true := by
      refine word.marked _ ?_
      rw [wordMarks, List.flatMap_singleton, written]
      exact List.mem_cons_self
    cases t with
    | identifier => rfl
    | other d =>
      obtain ⟨rfl, -⟩ := List.cons.inj written
      rw [isIdentifierChar_of_nextToken_eq_other taken] at first
      exact first
    | number | comment => exact first

/-! ## Pieces -/

/-- The text of tokens. -/
def textOf (ts : List Token) : String := .ofList (lexemes ts)

/-- The piece stands in the source from the byte `start` on up to the byte `stop`. It is not empty,
and it is cut out between characters. -/
structure IsPiece (piece : List Char) (source : String) (start stop : String.Pos.Raw) : Prop where
  isValid_start : start.IsValid source
  isValid_stop : stop.IsValid source
  start_lt_stop : start < stop
  bytes_eq : source.toByteArray.extract start.byteIdx stop.byteIdx = (String.ofList piece).toByteArray

theorem isPiece_append {before after piece : List Char} (some : piece ≠ []) :
    IsPiece piece (.ofList (before ++ piece ++ after)) (String.ofList before).rawEndPos
      (String.ofList (before ++ piece)).rawEndPos where
  isValid_start := by
    rw [String.Pos.Raw.isValid_iff_exists_append]
    exact ⟨_, _, by rw [List.append_assoc, String.ofList_append], rfl⟩
  isValid_stop := by
    rw [String.Pos.Raw.isValid_iff_exists_append]
    exact ⟨_, _, String.ofList_append, rfl⟩
  start_lt_stop := by
    have size : 0 < (String.ofList piece).utf8ByteSize := by
      rwa [Nat.pos_iff_ne_zero, ne_eq, String.utf8ByteSize_eq_zero_iff, String.ofList_eq_empty_iff]
    rw [String.Pos.Raw.lt_iff, String.ofList_append]
    exact (Nat.lt_add_of_pos_right size).trans_eq String.utf8ByteSize_append.symm
  bytes_eq := by
    have last : (String.ofList (before ++ piece)).utf8ByteSize =
        (String.ofList before).toByteArray.size + (String.ofList piece).toByteArray.size := by
      rw [String.ofList_append, String.utf8ByteSize_append, String.size_toByteArray,
        String.size_toByteArray]
    have parts : (String.ofList (before ++ piece ++ after)).toByteArray =
        (String.ofList before).toByteArray ++ (String.ofList piece).toByteArray ++
          (String.ofList after).toByteArray := by
      rw [String.ofList_append, String.ofList_append, String.toByteArray_append,
        String.toByteArray_append]
    rw [String.byteIdx_rawEndPos, String.byteIdx_rawEndPos, last, parts, ← ByteArray.size_append,
      ByteArray.extract_append_size_left, ByteArray.size_append]
    exact ByteArray.extract_append_eq_right String.size_toByteArray.symm rfl

/-- The byte in front of the rest of a text. -/
theorem exists_byte_before_iff (before after : List Char) :
    (∃ i, (String.ofList before).rawEndPos.byteIdx = i + 1 ∧
      (String.ofList (before ++ after)).toByteArray.data[i]? = some 0x2E) ↔
        before.getLast? = some '.' := by
  have bytes (s : List Char) : (String.ofList s).toByteArray.data =
      (s.flatMap String.utf8EncodeChar).toArray := by
    rw [String.toByteArray_ofList]
    exact List.data_toByteArray
  have size : (String.ofList before).rawEndPos.byteIdx =
      (before.flatMap String.utf8EncodeChar).length := by
    rw [String.byteIdx_rawEndPos, ← String.size_toByteArray, String.toByteArray_ofList]
    exact List.size_toByteArray
  rw [← getLast?_bytes_eq_iff, size, bytes, List.flatMap_append, List.getLast?_eq_getElem?]
  generalize before.flatMap String.utf8EncodeChar = l
  constructor
  · rintro ⟨i, length, point⟩
    rw [length, Nat.add_sub_cancel]
    rwa [List.getElem?_toArray, List.getElem?_append_left (by omega)] at point
  · intro point
    have inside : l.length - 1 < l.length := List.getElem?_eq_some_iff.1 point |>.1
    refine ⟨l.length - 1, by omega, ?_⟩
    rwa [List.getElem?_toArray, List.getElem?_append_left inside]

/-- **The tokens of a text are pieces of it**, one behind the other, and there are no more of them
than characters. A token stands between two characters of the text, at the byte where the tokens
before it end. The identifiers are the longest runs of identifier characters outside of numbers and
comments; and one is a member access exactly if the byte in front of it is a point. -/
theorem tokenize_partitions (source : String) :
    textOf (tokenize source) = source ∧ (tokenize source).length ≤ source.length ∧
      ∀ before t after, tokenize source = before ++ t :: after →
        let start := (textOf before).rawEndPos
        IsPiece t.lexeme source start (textOf (before ++ [t])).rawEndPos ∧
          (t.isIdentifier = true ↔ IsWholeWord before t after) ∧
          ∀ l member, t = .identifier l member →
            (member = true ↔
              ∃ i, start.byteIdx = i + 1 ∧ source.toByteArray.data[i]? = some 0x2E) := by
  have whole : textOf (tokenize source) = source := by
    rw [textOf, tokenize, tokens, lexemes_tokensAfter, String.ofList_toList]
  refine ⟨whole, length_tokensAfter_le none source.toList, fun before t after split => ?_⟩
  obtain ⟨c, r, -, taken, -⟩ := exists_nextToken_of_tokensAfter (tokensAfter_of_append split).symm
  have cut : source = .ofList (lexemes before ++ t.lexeme ++ lexemes after) := by
    rw [List.append_assoc, ← lexemes_cons, ← lexemes_append, ← split]
    exact whole.symm
  refine ⟨?_, isIdentifier_iff_isWholeWord split, fun l member named => ?_⟩
  · have some : t.lexeme ≠ [] := taken ▸ lexeme_nextToken_ne_nil _ c r
    have last : lexemes (before ++ [t]) = lexemes before ++ t.lexeme := by
      rw [lexemes_append, lexemes_cons]
      exact congrArg _ (List.append_nil _)
    rw [textOf, textOf, last, cut]
    exact isPiece_append some
  · have point := exists_byte_before_iff (lexemes before) (t.lexeme ++ lexemes after)
    rw [← List.append_assoc, ← cut] at point
    rw [named] at taken
    rw [(of_nextToken_eq_identifier taken).1, beq_iff_eq, Option.or_none]
    exact point.symm

/-- A member access behind a letter of two bytes, and one behind the point of a number. -/
theorem tokenize_partitions_members :
    let source := "é.x+1._y"
    tokenize source = [.other 'é', .other '.', .identifier ['x'] true] ++
        .other '+' :: [.number ['1', '.'], .identifier ['_', 'y'] true] ∧
      tokenize source = [.other 'é', .other '.', .identifier ['x'] true, .other '+',
        .number ['1', '.']] ++ .identifier ['_', 'y'] true :: [] ∧
      IsPiece ['+'] source ⟨4⟩ ⟨5⟩ ∧
      IsWholeWord [.other 'é', .other '.', .identifier ['x'] true, .other '+', .number ['1', '.']]
        (.identifier ['_', 'y'] true) [] ∧
      source.toByteArray.data[6]? = some 0x2E := by
  intro source
  have first : tokenize source = [.other 'é', .other '.', .identifier ['x'] true] ++
      .other '+' :: [.number ['1', '.'], .identifier ['_', 'y'] true] := by decide +kernel
  have second : tokenize source = [.other 'é', .other '.', .identifier ['x'] true, .other '+',
      .number ['1', '.']] ++ .identifier ['_', 'y'] true :: [] := by decide +kernel
  obtain ⟨piece, -, -⟩ := (tokenize_partitions source).2.2 _ _ _ first
  obtain ⟨-, word, member⟩ := (tokenize_partitions source).2.2 _ _ _ second
  obtain ⟨i, place, point⟩ := (member _ true rfl).1 rfl
  obtain rfl : i = 6 := by
    have : (7 : Nat) = i + 1 := place
    omega
  exact ⟨first, second, piece, word.1 rfl, point⟩

end ScreenEffects.Glsl
