import ScreenEffects.Glsl.Token

/-!
# Expressions and functions in shader text

The part of the shading language in which blend functions are written: expressions of numbers,
names, fields, calls and operators, and functions whose bodies define names and return a value.

A text says something by its words, which are its tokens without the blanks and the comments, with
operators of two characters as one word (`words`). What an expression or a function is written with
is its spelling. The operators bind as in the language: products before sums, sums before
comparisons, comparisons before choices, and the operators of one tier from left to right. An
expression is grammatical if its parts need no parentheses but those that it has, so the expressions
that a text may stand for are the grammatical ones that are spelled with its words
(`Expression.Spells`).
-/

namespace ScreenEffects.Glsl

/-! ## Words -/

/-- An operator between two operands. The commas between the arguments of a call are read like the
operator that binds most loosely. -/
inductive Operator
  | multiply
  | divide
  | add
  | subtract
  | less
  | greater
  | atMost
  | atLeast
  | equal
  | unequal
  | comma
  deriving DecidableEq

/-- The tier of an operator: how loosely it binds. A choice binds less tightly than the operators
of tier 4 and more tightly than a comma. -/
def Operator.tier : Operator → Nat
  | .multiply | .divide => 1
  | .add | .subtract => 2
  | .less | .greater | .atMost | .atLeast => 3
  | .equal | .unequal => 4
  | .comma => 6

inductive Word
  | name (s : String)
  | reserved (s : String)
  | number (lexeme : List Char)
  | operator (o : Operator)
  | mark (c : Char)
  deriving DecidableEq

/-- The words that are no names, as far as blend functions use them. -/
def reservedWords : List String := ["const", "in", "return"]

/-- The word of an identifier. -/
def wordOf (s : String) : Word := if s ∈ reservedWords then .reserved s else .name s

/-- The operator that is a single character. -/
def operator? : Char → Option Operator
  | '*' => some .multiply
  | '/' => some .divide
  | '+' => some .add
  | '-' => some .subtract
  | '<' => some .less
  | '>' => some .greater
  | ',' => some .comma
  | _ => none

/-- The operator that is written with a character and `=`. -/
def operatorWithEquals? : Char → Option Operator
  | '<' => some .atMost
  | '>' => some .atLeast
  | '=' => some .equal
  | '!' => some .unequal
  | _ => none

/-- The words of a character that stands alone. -/
def wordsOfChar (c : Char) : List Word :=
  if c.isWhitespace then []
  else match operator? c with
    | some o => [.operator o]
    | none => [.mark c]

/-- The words of tokens. -/
def wordsOf : List Token → List Word
  | [] => []
  | .identifier l _ :: ts => wordOf (.ofList l) :: wordsOf ts
  | .number l :: ts => .number l :: wordsOf ts
  | .comment _ :: ts => wordsOf ts
  | [.other c] => wordsOfChar c
  | .other c :: .other d :: ts =>
    match if d = '=' then operatorWithEquals? c else none with
    | some o => .operator o :: wordsOf ts
    | none => wordsOfChar c ++ wordsOf (.other d :: ts)
  | .other c :: t :: ts => wordsOfChar c ++ wordsOf (t :: ts)

/-- The words of a text. -/
def words (s : List Char) : List Word := wordsOf (tokens s)

/-! ## Expressions -/

/-- An expression, with the parentheses that it is written with. -/
inductive Expression
  | number (lexeme : List Char)
  | name (x : String)
  | parenthesized (e : Expression)
  | field (e : Expression) (f : String)
  /-- A call; the arguments are separated by commas. -/
  | call (f : String) (arguments : Expression)
  | binary (o : Operator) (l r : Expression)
  /-- One of two expressions: the first if the condition holds. -/
  | choice (condition yes no : Expression)
  deriving DecidableEq

namespace Expression

/-- How loosely the outermost operator binds. -/
def tier : Expression → Nat
  | .binary o _ _ => o.tier
  | .choice _ _ _ => 5
  | _ => 0

/-- The words that an expression is written with. -/
def spelling : Expression → List Word
  | .number l => [.number l]
  | .name x => [.name x]
  | .parenthesized e => .mark '(' :: (e.spelling ++ [.mark ')'])
  | .field e f => e.spelling ++ [.mark '.', .name f]
  | .call f as => .name f :: .mark '(' :: (as.spelling ++ [.mark ')'])
  | .binary o l r => l.spelling ++ .operator o :: r.spelling
  | .choice c u v => c.spelling ++ .mark '?' :: (u.spelling ++ .mark ':' :: v.spelling)

/-- No part binds more loosely than it may where it stands: the left operand of an operator no more
loosely than the operator, the right one more tightly, a condition more tightly than a choice, and
fields belong to what binds tightest. -/
def isGrammatical : Expression → Bool
  | .number _ | .name _ => true
  | .parenthesized e => e.isGrammatical
  | .field e _ => e.isGrammatical && e.tier == 0
  | .call _ as => as.isGrammatical
  | .binary o l r =>
    l.isGrammatical && r.isGrammatical && decide (l.tier ≤ o.tier) && decide (r.tier < o.tier)
  | .choice c u v =>
    c.isGrammatical && u.isGrammatical && v.isGrammatical && decide (c.tier < 5) &&
      decide (v.tier ≤ 5)

/-- The text is spelled as the expression, which is grammatical. -/
def Spells (e : Expression) (text : String) : Prop :=
  e.isGrammatical = true ∧ e.spelling = words text.toList

instance (e : Expression) (text : String) : Decidable (e.Spells text) :=
  inferInstanceAs (Decidable (_ ∧ _))

end Expression

/-! ## Functions -/

/-- A statement of a function's body. -/
inductive Statement
  /-- A new name of the given type for a value. -/
  | define (type x : String) (e : Expression)
  | give (e : Expression)

/-- A parameter that is only read. -/
structure Parameter where
  type : String
  name : String

/-- A function. -/
structure Function where
  type : String
  name : String
  parameters : List Parameter
  body : List Statement

/-- Functions, in the order in which they are defined. -/
abbrev Program := List Function

def Statement.spelling : Statement → List Word
  | .define type x e => .name type :: .name x :: .mark '=' :: (e.spelling ++ [.mark ';'])
  | .give e => .reserved "return" :: (e.spelling ++ [.mark ';'])

/-- A name is given to the value of one expression, without a comma. -/
def Statement.isGrammatical : Statement → Bool
  | .define _ _ e => e.isGrammatical && decide (e.tier ≤ 5)
  | .give e => e.isGrammatical

def Parameter.spelling (p : Parameter) : List Word :=
  [.reserved "const", .reserved "in", .name p.type, .name p.name]

/-- The words of parameters, up to the parenthesis behind them. -/
def parametersSpelling : List Parameter → List Word
  | [] => [.mark ')']
  | [p] => p.spelling ++ [.mark ')']
  | p :: q :: ps => p.spelling ++ .operator .comma :: parametersSpelling (q :: ps)

def Function.spelling (f : Function) : List Word :=
  .name f.type :: .name f.name :: .mark '(' :: (parametersSpelling f.parameters ++
    .mark '\x7b' :: (f.body.flatMap Statement.spelling ++ [.mark '\x7d']))

def Function.isGrammatical (f : Function) : Bool := f.body.all Statement.isGrammatical

namespace Program

def spelling (p : Program) : List Word := p.flatMap Function.spelling

/-- The text is spelled as the functions, whose expressions are grammatical. -/
def Spells (p : Program) (text : String) : Prop :=
  p.all Function.isGrammatical = true ∧ p.spelling = words text.toList

end Program

end ScreenEffects.Glsl
