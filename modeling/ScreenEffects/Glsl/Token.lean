/-!
# Tokens of shader text

Shader text is split into identifiers, numbers, comments and single other characters: as much as
renaming needs to know. Identifiers are those of ASCII. An identifier right after a point is a
member access (`c.rgb`), which names a component and not a symbol. Any text has tokens, also one
that no compiler would take: a comment that is never closed runs to the end.

* `tokens_nil` and `tokensAfter_cons` say what the tokens of a text are, one token at a time.
* `length_nextToken_lt` is why the split ends: each token takes at least one character.
-/

namespace ScreenEffects.Glsl

/-- A token, with the characters it is written with. -/
inductive Token
  /-- An identifier; `member` if it stands right after a point. -/
  | identifier (lexeme : List Char) (member : Bool)
  | number (lexeme : List Char)
  | comment (lexeme : List Char)
  | other (c : Char)
  deriving DecidableEq

/-- The characters of a token. -/
def Token.lexeme : Token → List Char
  | .identifier l _ => l
  | .number l => l
  | .comment l => l
  | .other c => [c]

def isIdentifierStart (c : Char) : Bool := c.isAlpha || c == '_'

def isIdentifierChar (c : Char) : Bool := c.isAlphanum || c == '_'

/-- A character that continues a number after the character `last`: a letter, a digit, a point, or
the sign of an exponent. A hexadecimal number has no exponent. -/
def isNumberChar (hex : Bool) (last c : Char) : Bool :=
  c.isAlphanum || c == '.' || (!hex && (c == '+' || c == '-') && (last == 'e' || last == 'E'))

/-- The rest of a number whose last character so far is `last`, and the text after it. -/
def splitNumber (hex : Bool) (last : Char) : List Char → List Char × List Char
  | [] => ([], [])
  | c :: s =>
    if isNumberChar hex last c then
      let t := splitNumber hex c s
      (c :: t.1, t.2)
    else ([], c :: s)

/-- The rest of a block comment up to and with its end, and the text after it. -/
def splitBlock : List Char → List Char × List Char
  | [] => ([], [])
  | c :: s =>
    if c = '*' ∧ s.head? = some '/' then ([c, '/'], s.tail)
    else
      let t := splitBlock s
      (c :: t.1, t.2)

/-- A number starts with a digit, or with a point and a digit. -/
def startsNumber (c : Char) (s : List Char) : Bool :=
  c.isDigit || (c == '.' && s.head?.any Char.isDigit)

/-- The hexadecimal mark `0x` or `0X`. -/
def startsHex (c : Char) (s : List Char) : Bool :=
  c == '0' && (s.head? == some 'x' || s.head? == some 'X')

/-- The first token of the text `c :: s`, which stands after the character `before`, and the text
after it. -/
def nextToken (before : Option Char) (c : Char) (s : List Char) : Token × List Char :=
  if c = '/' ∧ s.head? = some '/' then
    (.comment (c :: s.takeWhile (· != '\n')), s.dropWhile (· != '\n'))
  else if c = '/' ∧ s.head? = some '*' then
    let t := splitBlock s.tail
    (.comment (c :: '*' :: t.1), t.2)
  else if startsNumber c s then
    let t := splitNumber (startsHex c s) c s
    (.number (c :: t.1), t.2)
  else if isIdentifierStart c then
    (.identifier (c :: s.takeWhile isIdentifierChar) (before == some '.'),
      s.dropWhile isIdentifierChar)
  else (.other c, s)

theorem splitNumber_append (hex : Bool) (last : Char) (s : List Char) :
    (splitNumber hex last s).1 ++ (splitNumber hex last s).2 = s := by
  induction s generalizing last with
  | nil => rfl
  | cons c s ih =>
    simp only [splitNumber]
    split
    · simp [ih]
    · rfl

theorem splitBlock_append (s : List Char) : (splitBlock s).1 ++ (splitBlock s).2 = s := by
  induction s with
  | nil => rfl
  | cons c s ih =>
    simp only [splitBlock]
    split
    · rename_i h
      cases s with
      | nil => simp at h
      | cons d s => simp_all
    · simp [ih]

/-- A token and the text after it are the text it was taken from. -/
theorem lexeme_append_nextToken (before : Option Char) (c : Char) (s : List Char) :
    (nextToken before c s).1.lexeme ++ (nextToken before c s).2 = c :: s := by
  simp only [nextToken]
  split
  · simp [Token.lexeme, List.takeWhile_append_dropWhile]
  · split
    · rename_i h
      cases s with
      | nil => simp at h
      | cons d s => simp_all [Token.lexeme, splitBlock_append]
    · split
      · simp [Token.lexeme, splitNumber_append]
      · split
        · simp [Token.lexeme, List.takeWhile_append_dropWhile]
        · rfl

theorem lexeme_nextToken_ne_nil (before : Option Char) (c : Char) (s : List Char) :
    (nextToken before c s).1.lexeme ≠ [] := by
  simp only [nextToken]
  repeat' split
  all_goals simp [Token.lexeme]

theorem length_nextToken_lt (before : Option Char) (c : Char) (s : List Char) :
    (nextToken before c s).2.length < (c :: s).length := by
  have h := congrArg List.length (lexeme_append_nextToken before c s)
  have := List.length_pos_iff.2 (lexeme_nextToken_ne_nil before c s)
  rw [List.length_append] at h
  omega

/-- The tokens of a text that stands after the character `before`. -/
def tokensAfter (before : Option Char) : List Char → List Token
  | [] => []
  | c :: s =>
    let t := nextToken before c s
    t.1 :: tokensAfter t.1.lexeme.getLast? t.2
termination_by s => s.length
decreasing_by exact length_nextToken_lt before c s

/-- The tokens of a text. -/
def tokens (s : List Char) : List Token := tokensAfter none s

/-- The tokens of a text. -/
def tokenize (s : String) : List Token := tokens s.toList

theorem tokensAfter_nil (before : Option Char) : tokensAfter before [] = [] := by
  rw [tokensAfter]

theorem tokensAfter_cons (before : Option Char) (c : Char) (s : List Char) :
    tokensAfter before (c :: s) = (nextToken before c s).1 ::
      tokensAfter (nextToken before c s).1.lexeme.getLast? (nextToken before c s).2 := by
  rw [tokensAfter]

theorem tokens_nil : tokens [] = [] := tokensAfter_nil none

end ScreenEffects.Glsl
