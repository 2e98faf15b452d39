import Mathlib.Data.List.Chain
import ScreenEffects.Proofs.Glsl.Identifier

/-!
# Renaming, token by token

The tokens of a renamed text are the tokens of the text, those that the table has under their new
names. So renaming is no edit of characters: it makes no comment, number or member access, and it
takes none away. The new names have to be identifiers, and no identifier may stand right behind a
number: the `_x` of `1_x` is a token of its own, and would become a part of the number under a name
that starts with a letter.

Where one token ends and the next begins depends on the characters around the boundary. What carries
the proof is that renaming leaves the first character of a rest as it is, except that one letter may
stand for another, and that no token but a number goes on with a letter.

* `nextToken_append` : a token is taken again in front of any text that starts alike.
* `tokenize_rename` : the tokens of a renamed text, and how to undo renaming.
-/

namespace ScreenEffects.Glsl

/-! ## Kinds of tokens -/

def Token.isNumber : Token → Bool
  | .number _ => true
  | _ => false

def Token.isIdentifier : Token → Bool
  | .identifier _ _ => true
  | _ => false

/-- The token names something: it is an identifier and no member access. -/
def Token.isSymbol : Token → Bool
  | .identifier _ false => true
  | _ => false

/-- No identifier stands right behind a number. -/
def HasApartNumbers (source : String) : Prop :=
  (tokenize source).IsChain fun t u => ¬ (t.isNumber = true ∧ u.isIdentifier = true)

instance : DecidablePred HasApartNumbers := fun source =>
  inferInstanceAs (Decidable ((tokenize source).IsChain _))

/-- The token under its new name, if it is an identifier of the table and no member access. -/
def Token.relabelled (table : Renames) : Token → Token
  | .identifier l false =>
    match table.get? (.ofList l) with
    | some new => .identifier new.toList false
    | none => .identifier l false
  | t => t

/-- A token is as it was, or it is an identifier of the table under its new name. -/
theorem relabelled_cases (table : Renames) (t : Token) :
    (t.relabelled table = t ∧ t.renamed table = t.lexeme) ∨
      ∃ l new, t = .identifier l false ∧ table.get? (.ofList l) = some new ∧
        t.relabelled table = .identifier new.toList false ∧ t.renamed table = new.toList := by
  cases t with
  | identifier l member =>
    cases member with
    | true => exact .inl ⟨rfl, rfl⟩
    | false =>
      cases found : table.get? (.ofList l) with
      | none => exact .inl ⟨by rw [Token.relabelled, found], by rw [Token.renamed, found]; rfl⟩
      | some new =>
        exact .inr ⟨l, new, rfl, found, by rw [Token.relabelled, found],
          by rw [Token.renamed, found]⟩
  | number l => exact .inl ⟨rfl, rfl⟩
  | comment l => exact .inl ⟨rfl, rfl⟩
  | other c => exact .inl ⟨rfl, rfl⟩

theorem isSymbol_relabelled (table : Renames) (t : Token) :
    (t.relabelled table).isSymbol = t.isSymbol := by
  rcases relabelled_cases table t with ⟨same, -⟩ | ⟨l, new, rfl, -, same, -⟩
  · rw [same]
  · rw [same]
    rfl

theorem relabelled_of_not_isSymbol (table : Renames) {t : Token} (h : t.isSymbol = false) :
    t.relabelled table = t := by
  rcases relabelled_cases table t with ⟨same, -⟩ | ⟨l, new, rfl, -, -, -⟩
  · exact same
  · cases h

/-! ## The text of tokens -/

theorem flatMap_lexeme_tokensAfter (before : Option Char) (s : List Char) :
    (tokensAfter before s).flatMap Token.lexeme = s := by
  fun_induction tokensAfter before s with
  | case1 => rfl
  | case2 before c s t ih =>
    rw [List.flatMap_cons, ih]
    exact lexeme_append_nextToken before c s

theorem exists_lexeme_nextToken (before : Option Char) (c : Char) (s : List Char) :
    ∃ l, (nextToken before c s).1.lexeme = c :: l := by
  obtain ⟨d, l, written⟩ := List.exists_cons_of_ne_nil (lexeme_nextToken_ne_nil before c s)
  have text := lexeme_append_nextToken before c s
  rw [written] at text
  obtain ⟨rfl, -⟩ := List.cons.inj text
  exact ⟨l, written⟩

/-- A renamed text is written token by token, whatever the table. -/
theorem toList_rename (source : String) (table : Renames) :
    (rename source table).toList = (tokenize source).flatMap (·.renamed table) := by
  rw [rename]
  split
  · rename_i empty
    have none (name : String) : table.get? name = none := by
      rw [OrderedMap.get?_eq_none_iff, OrderedMap.keys, List.isEmpty_iff.1 empty]
      exact List.not_mem_nil
    have kept : (fun t => Token.renamed table t) = Token.lexeme := by
      funext t
      rcases relabelled_cases table t with ⟨-, same⟩ | ⟨l, new, rfl, found, -, -⟩
      · exact same
      · rw [none] at found
        cases found
    rw [kept]
    exact (flatMap_lexeme_tokensAfter _ _).symm
  · rw [String.toList_ofList]

/-! ## Texts that start alike -/

/-- The text starts with a character that may start an identifier. -/
def StartsWord (s : List Char) : Prop := ∃ c ∈ s.head?, isIdentifierStart c = true

/-- The texts start with the same character, or both with one that may start an identifier. -/
def StartsAlike (r r' : List Char) : Prop := r.head? = r'.head? ∨ StartsWord r ∧ StartsWord r'

theorem StartsAlike.head?_eq {r r' : List Char} (alike : StartsAlike r r')
    (h : ¬ StartsWord r) : r'.head? = r.head? :=
  alike.elim Eq.symm fun words => absurd words.1 h

theorem StartsAlike.eq_nil {r r' : List Char} (alike : StartsAlike r r') (h : r = []) :
    r' = [] := by
  subst h
  exact List.head?_eq_none_iff.1 (alike.head?_eq fun ⟨_, hc, _⟩ => nomatch hc)

/-- A character that starts no identifier is the first of both texts or of none. -/
theorem StartsAlike.head?_eq_some_iff {r r' : List Char} (alike : StartsAlike r r') {c : Char}
    (h : isIdentifierStart c = false) : r'.head? = some c ↔ r.head? = some c := by
  rcases alike with same | ⟨⟨d, hd, start⟩, ⟨e, he, start'⟩⟩
  · rw [same]
  · have apart {d : Char} (start : isIdentifierStart d = true) : d ≠ c := by
      rintro rfl
      rw [h] at start
      cases start
    rw [Option.mem_def.1 hd, Option.mem_def.1 he]
    simp [apart start, apart start']

theorem not_startsWord {s : List Char} (stop : ∀ d ∈ s.head?, isIdentifierChar d = false) :
    ¬ StartsWord s := by
  rintro ⟨d, hd, start⟩
  have ended := stop d hd
  rw [isIdentifierChar_of_isIdentifierStart start] at ended
  cases ended

theorem startsWord_append {name : List Char} (h : isIdentifier name = true) (r : List Char) :
    StartsWord (name ++ r) := by
  cases name with
  | nil => cases h
  | cons c l => exact ⟨c, rfl, (Bool.and_eq_true_iff.1 h).1⟩

/-! ## Taking a token again -/

theorem head?_append_congr {n r r' : List Char} (h : r'.head? = r.head?) :
    (n ++ r').head? = (n ++ r).head? := by
  rw [List.head?_append, List.head?_append, h]

theorem splitNumber_append_of_head? {hex : Bool} {last : Char} {s r' : List Char}
    (h : r'.head? = (splitNumber hex last s).2.head?) :
    splitNumber hex last ((splitNumber hex last s).1 ++ r') = ((splitNumber hex last s).1, r') := by
  induction s generalizing last with
  | nil =>
    obtain rfl := List.head?_eq_none_iff.1 h
    rfl
  | cons c s ih =>
    by_cases hc : isNumberChar hex last c
    · simp only [splitNumber, hc, if_true] at h ⊢
      rw [List.cons_append, splitNumber, if_pos hc, ih h]
    · simp only [splitNumber, hc, Bool.false_eq_true, if_false] at h ⊢
      obtain ⟨r', rfl⟩ := List.head?_eq_some_iff.1 h
      rw [List.nil_append, splitNumber, if_neg hc]

/-- A block comment that is closed stays as it is in front of any text. -/
theorem splitBlock_append_of_nil {s r' : List Char} (h : (splitBlock s).2 = [] → r' = []) :
    splitBlock ((splitBlock s).1 ++ r') = ((splitBlock s).1, r') := by
  induction s with
  | nil =>
    obtain rfl := h rfl
    rfl
  | cons c s ih =>
    by_cases ends : c = '*' ∧ s.head? = some '/'
    · rw [splitBlock, if_pos ends]
      exact if_pos ⟨ends.1, rfl⟩
    · rw [splitBlock, if_neg ends] at h ⊢
      have next : ((splitBlock s).1 ++ r').head? = s.head? := by
        cases s with
        | nil =>
          obtain rfl := h rfl
          rfl
        | cons d s =>
          rw [splitBlock]
          split <;> rfl
      rw [List.cons_append, splitBlock, next, if_neg ends, ih h]

/-- **A token is taken again** in front of a text that starts like the rest it was taken from; a
number, in front of one that starts with the same character. -/
theorem nextToken_append {before : Option Char} {c : Char} {s r' : List Char}
    (alike : StartsAlike (nextToken before c s).2 r')
    (number : (nextToken before c s).1.isNumber = true →
      r'.head? = (nextToken before c s).2.head?) :
    ∃ l, (nextToken before c s).1.lexeme = c :: l ∧
      nextToken before c (l ++ r') = ((nextToken before c s).1, r') := by
  by_cases line : c = '/' ∧ s.head? = some '/'
  · obtain ⟨rfl, hs⟩ := line
    obtain ⟨s, rfl⟩ := List.head?_eq_some_iff.1 hs
    have token : nextToken before '/' ('/' :: s) =
      (.comment ('/' :: '/' :: s.takeWhile (· != '\n')), s.dropWhile (· != '\n')) := by
      simp [nextToken]
    rw [token] at alike ⊢
    -- the line ends in front of the other text too
    have ended : ¬ StartsWord (s.dropWhile (· != '\n')) := by
      rintro ⟨d, hd, start⟩
      rw [head?_dropWhile_line s d hd] at start
      cases start
    have stop : ∀ d ∈ r'.head?, (d != '\n') = false := by
      rw [alike.head?_eq ended]
      exact of_head?_dropWhile _ s
    refine ⟨_, rfl, ?_⟩
    rw [nextToken, if_pos ⟨rfl, rfl⟩, List.cons_append, List.takeWhile_cons_of_pos (by decide),
      List.dropWhile_cons_of_pos (by decide), List.takeWhile_append_of_pos fun d =>
        List.mem_takeWhile_imp, List.dropWhile_append_of_pos fun d => List.mem_takeWhile_imp,
      (while_of_head? stop).1, (while_of_head? stop).2, List.append_nil]
  by_cases block : c = '/' ∧ s.head? = some '*'
  · obtain ⟨rfl, hs⟩ := block
    obtain ⟨s, rfl⟩ := List.head?_eq_some_iff.1 hs
    have token : nextToken before '/' ('*' :: s) =
      (.comment ('/' :: '*' :: (splitBlock s).1), (splitBlock s).2) := by
      simp [nextToken]
    rw [token] at alike ⊢
    refine ⟨_, rfl, ?_⟩
    rw [nextToken, if_neg (by simp), if_pos ⟨rfl, rfl⟩, List.cons_append, List.tail_cons,
      splitBlock_append_of_nil alike.eq_nil]
  by_cases digits : startsNumber c s
  · have token : nextToken before c s = (.number (c :: (splitNumber (startsHex c s) c s).1),
        (splitNumber (startsHex c s) c s).2) := by
      rw [nextToken, if_neg line, if_neg block, if_pos digits]
    rw [token] at number ⊢
    refine ⟨_, rfl, ?_⟩
    have same := head?_append_congr (n := (splitNumber (startsHex c s) c s).1) (number rfl)
    rw [splitNumber_append] at same
    have hex : startsHex c ((splitNumber (startsHex c s) c s).1 ++ r') = startsHex c s := by
      rw [startsHex, same, startsHex]
    rw [nextToken, same, if_neg line, if_neg block, startsNumber, same, ← startsNumber,
      if_pos digits, hex, splitNumber_append_of_head? (number rfl)]
  by_cases start : isIdentifierStart c
  · have token : nextToken before c s =
        (.identifier (c :: s.takeWhile isIdentifierChar) (before == some '.'),
          s.dropWhile isIdentifierChar) := by
      rw [nextToken, if_neg line, if_neg block, if_neg digits, if_pos start]
    rw [token] at alike ⊢
    have stop : ∀ d ∈ r'.head?, isIdentifierChar d = false := by
      rw [alike.head?_eq (not_startsWord (of_head?_dropWhile isIdentifierChar s))]
      exact of_head?_dropWhile _ s
    have word : isIdentifier (c :: s.takeWhile isIdentifierChar) = true :=
      Bool.and_eq_true_iff.2 ⟨start, List.all_takeWhile⟩
    exact ⟨_, rfl, nextToken_identifier word stop before⟩
  · have token : nextToken before c s = (.other c, s) := by
      rw [nextToken, if_neg line, if_neg block, if_neg digits, if_neg start]
    rw [token] at alike ⊢
    refine ⟨[], rfl, ?_⟩
    have line' : ¬ (c = '/' ∧ r'.head? = some '/') := fun h =>
      line ⟨h.1, (alike.head?_eq_some_iff (by decide)).1 h.2⟩
    have block' : ¬ (c = '/' ∧ r'.head? = some '*') := fun h =>
      block ⟨h.1, (alike.head?_eq_some_iff (by decide)).1 h.2⟩
    have digits' : ¬ startsNumber c r' = true := by
      intro h
      rw [startsNumber, Bool.or_eq_true, Bool.and_eq_true, Option.any_eq_true] at h
      refine digits ?_
      rw [startsNumber, Bool.or_eq_true, Bool.and_eq_true, Option.any_eq_true]
      refine h.imp id ?_
      rintro ⟨point, d, hd, digit⟩
      refine ⟨point, d, ?_, digit⟩
      refine (alike.head?_eq_some_iff (Bool.eq_false_iff.2 fun start => ?_)).1 hd
      rw [(isDigit_of_isIdentifierStart start).1] at digit
      cases digit
    rw [List.nil_append, nextToken, if_neg line', if_neg block', if_neg digits', if_neg start]

theorem tokensAfter_append {before : Option Char} {c : Char} {s r' : List Char}
    (alike : StartsAlike (nextToken before c s).2 r')
    (number : (nextToken before c s).1.isNumber = true →
      r'.head? = (nextToken before c s).2.head?) :
    tokensAfter before ((nextToken before c s).1.lexeme ++ r') =
      (nextToken before c s).1 :: tokensAfter (nextToken before c s).1.lexeme.getLast? r' := by
  obtain ⟨l, written, again⟩ := nextToken_append alike number
  rw [written, List.cons_append, tokensAfter_cons, again, written]

theorem tokensAfter_identifier {name r' : List Char} (h : isIdentifier name = true)
    (stop : ∀ d ∈ r'.head?, isIdentifierChar d = false) (before : Option Char) :
    tokensAfter before (name ++ r') =
      .identifier name (before == some '.') :: tokensAfter name.getLast? r' := by
  cases name with
  | nil => cases h
  | cons c r => rw [List.cons_append, tokensAfter_cons, nextToken_identifier h stop]; rfl

/-- Of the character before a text it counts only whether it is a point. -/
theorem tokensAfter_congr {before before' : Option Char}
    (h : (before == some '.') = (before' == some '.')) (s : List Char) :
    tokensAfter before s = tokensAfter before' s := by
  cases s with
  | nil => rw [tokensAfter_nil, tokensAfter_nil]
  | cons c s =>
    have same : nextToken before c s = nextToken before' c s := by rw [nextToken, h, nextToken]
    rw [tokensAfter_cons, tokensAfter_cons, same]

theorem getLast?_identifier {name : List Char} (h : isIdentifier name = true) :
    (name.getLast? == some '.') = false := by
  rw [beq_eq_false_iff_ne]
  intro point
  have := forall_isIdentifierChar h _ (List.mem_of_getLast? point)
  cases this

/-- An identifier goes on as far as it can, and is a member access exactly after a point. -/
theorem of_nextToken_eq_identifier {before : Option Char} {c : Char} {s l : List Char}
    {member : Bool} (h : (nextToken before c s).1 = .identifier l member) :
    member = (before == some '.') ∧
      ∀ d ∈ (nextToken before c s).2.head?, isIdentifierChar d = false := by
  simp only [nextToken] at h ⊢
  split at h
  · cases h
  · split at h
    · cases h
    · split at h
      · cases h
      · split at h
        · rename_i line block digits start
          obtain ⟨-, rfl⟩ := Token.identifier.inj h
          rw [if_neg line, if_neg block, if_neg digits, if_pos start]
          exact ⟨rfl, of_head?_dropWhile isIdentifierChar s⟩
        · cases h

/-! ## Renaming a text -/

section Renaming

variable {table : Renames}
  (names : ∀ old new, table.get? old = some new → isIdentifier new.toList = true)

include names

/-- A renamed text starts like the text; with the same character, if no symbol comes first. -/
theorem startsAlike_renamed (before : Option Char) (s : List Char) :
    StartsAlike s ((tokensAfter before s).flatMap (·.renamed table)) ∧
      ((∀ t ∈ (tokensAfter before s).head?, t.isSymbol = false) →
        ((tokensAfter before s).flatMap (·.renamed table)).head? = s.head?) := by
  cases s with
  | nil =>
    rw [tokensAfter_nil]
    exact ⟨.inl rfl, fun _ => rfl⟩
  | cons c s =>
    rw [tokensAfter_cons, List.flatMap_cons]
    obtain ⟨l, written⟩ := exists_lexeme_nextToken before c s
    rcases relabelled_cases table (nextToken before c s).1 with
      ⟨-, kept⟩ | ⟨name, new, symbol, found, -, renamed⟩
    · rw [kept, written]
      exact ⟨.inl rfl, fun _ => rfl⟩
    · have word := isIdentifier_of_nextToken symbol
      obtain rfl : name = c :: l := by rw [← written, symbol]; rfl
      refine ⟨.inr ⟨startsWord_append word s, ?_⟩, fun first => ?_⟩
      · rw [renamed]
        exact startsWord_append (names _ new found) _
      · have := first _ rfl
        rw [symbol] at this
        cases this

/-- The tokens of a renamed text, with what stands before it. -/
theorem tokensAfter_renamed {before : Option Char} {s : List Char}
    (apart : (tokensAfter before s).IsChain fun t u =>
      ¬ (t.isNumber = true ∧ u.isIdentifier = true)) :
    tokensAfter before ((tokensAfter before s).flatMap (·.renamed table)) =
      (tokensAfter before s).map (·.relabelled table) := by
  fun_induction tokensAfter before s with
  | case1 before => exact tokensAfter_nil before
  | case2 before c s t ih =>
    obtain ⟨behind, apart⟩ := List.isChain_cons.1 apart
    have again := ih apart
    rw [List.flatMap_cons, List.map_cons]
    obtain ⟨alike, same⟩ := startsAlike_renamed names t.1.lexeme.getLast? t.2
    rcases relabelled_cases table t.1 with ⟨kept, written⟩ | ⟨l, new, symbol, found, given, renamed⟩
    · -- the token is taken again, for the rest starts as it did
      have number : t.1.isNumber = true →
          ((tokensAfter t.1.lexeme.getLast? t.2).flatMap (·.renamed table)).head? = t.2.head? := by
        intro number
        refine same fun u hu => ?_
        have := behind u hu
        cases u <;> simp_all [Token.isIdentifier, Token.isSymbol]
      rw [written, tokensAfter_append alike number, kept]
      exact congrArg _ again
    · -- the new name goes as far as the old one did
      have word : isIdentifier l = true := isIdentifier_of_nextToken symbol
      have word' := names _ new found
      obtain ⟨member, stop⟩ := of_nextToken_eq_identifier symbol
      have stop' := stop
      rw [← alike.head?_eq (not_startsWord stop)] at stop'
      rw [renamed, tokensAfter_identifier word' stop', given, ← member]
      refine congrArg _ (Eq.trans (tokensAfter_congr ?_ _) again)
      rw [getLast?_identifier word', symbol]
      exact (getLast?_identifier word).symm

end Renaming

/-! ## Undoing a renaming -/

/-- No two names have the same new name. -/
def Renames.IsInjective (table : Renames) : Prop :=
  ∀ a b new, table.get? a = some new → table.get? b = some new → a = b

/-- The old names by the new ones. -/
def Renames.inverse (table : Renames) : Renames :=
  .ofList (table.keys.filterMap fun old => (table.get? old).map fun new => (new, old))

theorem Renames.IsInjective.get?_inverse {table : Renames} (inj : table.IsInjective)
    {old new : String} : table.inverse.get? new = some old ↔ table.get? old = some new := by
  have listed {old new : String} :
      (new, old) ∈ table.keys.filterMap (fun old => (table.get? old).map fun new => (new, old)) ↔
        table.get? old = some new := by
    simp only [List.mem_filterMap, Option.map_eq_some_iff, Prod.mk.injEq]
    refine ⟨?_, fun found => ⟨old, OrderedMap.mem_keys_of_get? found, new, found, rfl, rfl⟩⟩
    rintro ⟨a, -, b, found, rfl, rfl⟩
    exact found
  have read {old new : String} (h : table.inverse.get? new = some old) :
      table.get? old = some new := listed.1 (OrderedMap.mem_of_get?_ofList h)
  refine ⟨read, fun found => ?_⟩
  have key : new ∈ table.inverse.keys :=
    OrderedMap.mem_keys_ofList.2 (List.mem_map.2 ⟨(new, old), listed.2 found, rfl⟩)
  obtain ⟨old', found'⟩ := OrderedMap.exists_get?_of_mem_keys key
  rw [found', inj old old' new found (read found')]

/-- A token that got a new name gets its old name back, and no other is taken for one of these. -/
theorem renamed_inverse {source : String} {table : Renames} (inj : table.IsInjective)
    (fresh : ∀ old new, table.get? old = some new → references source new = false) {t : Token}
    (ht : t ∈ tokenize source) : (t.relabelled table).renamed table.inverse = t.lexeme := by
  rcases relabelled_cases table t with ⟨same, -⟩ | ⟨l, new, rfl, found, given, -⟩
  · rw [same]
    rcases relabelled_cases table.inverse t with ⟨-, kept⟩ | ⟨l, old, rfl, found, -, -⟩
    · exact kept
    · have absent := fresh old _ (inj.get?_inverse.1 found)
      rw [references, List.any_eq_false] at absent
      exact absurd (beq_self_eq_true _) (absent _ ht)
  · have back : table.inverse.get? (.ofList new.toList) = some (.ofList l) := by
      rw [String.ofList_toList]
      exact inj.get?_inverse.2 found
    rw [given, Token.renamed, back]
    exact String.toList_ofList

/-- **The tokens of a renamed text** are those of the text, with the new names in the place of the
old ones, if the new names are identifiers and no identifier stands right behind a number. So the
comments, the numbers, the member accesses and all that is no name are the same as before, in the
same order; and if no two names have the same new name and no new name is a name in the text, the
inverse table restores the text. -/
theorem tokenize_rename {source : String} {table : Renames}
    (names : ∀ old new, table.get? old = some new → isIdentifier new.toList = true)
    (apart : HasApartNumbers source) :
    tokenize (rename source table) = (tokenize source).map (·.relabelled table) ∧
      (tokenize (rename source table)).filter (!·.isSymbol) =
        (tokenize source).filter (!·.isSymbol) ∧
      (table.IsInjective →
        (∀ old new, table.get? old = some new → references source new = false) →
          rename (rename source table) table.inverse = source) := by
  have tokens : tokenize (rename source table) = (tokenize source).map (·.relabelled table) := by
    rw [tokenize, toList_rename]
    exact tokensAfter_renamed names apart
  refine ⟨tokens, ?_, fun inj fresh => ?_⟩
  · rw [tokens, List.filter_map]
    have same : (!Token.isSymbol ·) ∘ Token.relabelled table = (!Token.isSymbol ·) :=
      funext fun t => congrArg _ (isSymbol_relabelled table t)
    rw [same]
    refine (List.map_congr_left fun t ht => ?_).trans (List.map_id _)
    exact relabelled_of_not_isSymbol table (by simpa using (List.mem_filter.1 ht).2)
  · rw [← String.toList_inj, toList_rename, tokens, List.flatMap_map,
      List.flatMap_congr fun t ht => renamed_inverse inj fresh ht]
    exact flatMap_lexeme_tokensAfter _ _

/-- A name that stands before and behind points, in a comment and next to numbers. -/
theorem tokenize_rename_members_and_numbers :
    let source := "y = v.x*.5e-3-x; // x\nx.y *= 2.0"
    let table : Renames := .ofList [("x", "e0X"), ("y", "_y")]
    (∀ old new, table.get? old = some new → isIdentifier new.toList = true) ∧
      HasApartNumbers source ∧ table.IsInjective ∧
      (∀ old new, table.get? old = some new → references source new = false) ∧
      tokenize (rename source table) = (tokenize source).map (·.relabelled table) ∧
      rename source table = "_y = v.x*.5e-3-e0X; // x\ne0X.y *= 2.0" ∧
      rename (rename source table) table.inverse = source := by
  intro source table
  let entries := [("x", "e0X"), ("y", "_y")]
  have listed {old new : String} (found : table.get? old = some new) : (old, new) ∈ entries :=
    OrderedMap.mem_of_get?_ofList found
  have names : ∀ old new, table.get? old = some new → isIdentifier new.toList = true :=
    fun _ _ found => (by decide : ∀ e ∈ entries, isIdentifier e.2.toList = true) _ (listed found)
  have apart : HasApartNumbers source := by decide +kernel
  have inj : table.IsInjective := fun _ _ _ ha hb =>
    (by decide : ∀ e ∈ entries, ∀ f ∈ entries, e.2 = f.2 → e.1 = f.1) _ (listed ha) _ (listed hb) rfl
  have fresh : ∀ old new, table.get? old = some new → references source new = false :=
    fun _ _ found => (by decide +kernel : ∀ e ∈ entries, references source e.2 = false) _
      (listed found)
  obtain ⟨tokens, -, undone⟩ := tokenize_rename names apart
  exact ⟨names, apart, inj, fresh, tokens, by decide +kernel, undone inj fresh⟩

/-- Right behind a number, a name can become a part of it. -/
example : tokenize (rename "1_x" (.ofList [("_x", "x")])) = [.number ['1', 'x']] := by
  decide +kernel

end ScreenEffects.Glsl
