import ScreenEffects.Glsl.Comment
import ScreenEffects.Text.Blank
import ScreenEffects.Text.WordChar

/-!
# Declarations of a shader body

What an effect's text declares is found by its shape alone, on the text without comments. A
function is a word, blanks, a word (the name), a parenthesised run of words, blanks, commas and
square brackets, and an opening brace. A varying is the word `varying`, a precision or none, a type
and a list of names up to a semicolon. Shapes are looked for at the start of each word, from left
to right, and do not overlap.

* `functionAt?` and `varyingsAt?` read one shape at the start of a text; `scanWords` finds all.
-/

namespace ScreenEffects.Glsl

/-- Read the shape `shape` at the start of each word, from left to right and without overlap.
`inWord` says that a word character stands before the text, `skip` how many characters are still
part of the shape just read. -/
def scanWords {α : Type} (shape : List Char → Option (α × List Char)) :
    Bool → Nat → List Char → List α
  | _, _, [] => []
  | _, skip + 1, c :: s => scanWords shape (isWordChar c) skip s
  | inWord, 0, c :: s =>
    if !inWord && isWordChar c then
      match shape (c :: s) with
      | some (a, rest) => a :: scanWords shape true (s.length - rest.length) s
      | none => scanWords shape true 0 s
    else scanWords shape (isWordChar c) 0 s

/-- Every reading of the shape in a text. -/
def scanShapes {α : Type} (shape : List Char → Option (α × List Char)) (s : List Char) : List α :=
  scanWords shape false 0 s

/-- The word at the start of a text, and the text after it. -/
def word? (s : List Char) : Option (List Char × List Char) :=
  let w := s.takeWhile isWordChar
  if w.isEmpty then none else some (w, s.dropWhile isWordChar)

/-- The text after the blanks at its start, of which there must be one. -/
def afterBlanks? (s : List Char) : Option (List Char) :=
  if s.head?.any isBlank then some (s.dropWhile isBlank) else none

/-- The text after the character `c`, which must be the first. -/
def after? (c : Char) (s : List Char) : Option (List Char) :=
  if s.head? = some c then some s.tail else none

/-! ## Functions -/

/-- Words that can stand where the name of a function would, and are none. -/
def keywords : List String := ["if", "for", "while", "switch", "return", "else", "do"]

/-- A character of a list of parameters. -/
def isParameterChar (c : Char) : Bool :=
  isWordChar c || isBlank c || c == ',' || c == '[' || c == ']'

/-- The name of the function whose definition the text starts with, and the text after the opening
brace. -/
def functionAt? (s : List Char) : Option (List Char × List Char) := do
  let (_, s) ← word? s
  let s ← afterBlanks? s
  let (name, s) ← word? s
  let s ← after? '(' (s.dropWhile isBlank)
  let s ← after? ')' (s.dropWhile isParameterChar)
  let s ← after? '{' (s.dropWhile isBlank)
  return (name, s)

/-- Names without keywords and repetitions, in order of first occurrence. -/
def distinctNames (names : List String) : List String :=
  names.foldl (fun found n => if n ∈ keywords ∨ n ∈ found then found else found ++ [n]) []

/-- The functions that a body defines, in order of first definition. -/
def functionsOf (source : String) : List String :=
  distinctNames ((scanShapes functionAt? (uncommented source.toList)).map String.ofList)

/-! ## Varyings -/

/-- The precisions a declaration may name. -/
def precisions : List (List Char) := ["lowp".toList, "mediump".toList, "highp".toList]

/-- The list of declarators after a type, up to its semicolon, and the text after that. The list is
not empty: where nothing but blanks stands before the semicolon, the last of them is the list. -/
def declarators? (s : List Char) : Option (List Char × List Char) := do
  let (_, s) ← word? s
  let body := s.takeWhile (· != ';')
  let rest ← after? ';' (s.dropWhile (· != ';'))
  let list ← afterBlanks? body
  if list.isEmpty then
    if body.length < 2 then none else return (body.drop (body.length - 1), rest)
  else return (list, rest)

/-- The declarators after a precision. -/
def preciseDeclarators? (s : List Char) : Option (List Char × List Char) := do
  let (precision, s) ← word? s
  if precision ∈ precisions then declarators? (← afterBlanks? s) else none

/-- The list of declarators of the varyings whose declaration the text starts with, and the text
after the semicolon. What looks like a precision may also be the type itself. -/
def varyingsAt? (s : List Char) : Option (List Char × List Char) := do
  let (w, s) ← word? s
  if w = "varying".toList then
    let s ← afterBlanks? s
    preciseDeclarators? s <|> declarators? s
  else none

/-- The pieces of a text between the commas. -/
def commaPieces : List Char → List (List Char)
  | [] => [[]]
  | c :: s =>
    match commaPieces s with
    | [] => [[c]]
    | p :: ps => if c = ',' then [] :: p :: ps else (c :: p) :: ps

/-- The name of a declarator: what stands before the size of an array, without blanks around. -/
def declaredName (declarator : List Char) : List Char :=
  trimBlank (declarator.takeWhile (· != '['))

/-- The varyings that a body declares, in order; a name declared twice is listed twice. -/
def varyingsOf (source : String) : List String :=
  (scanShapes varyingsAt? (uncommented source.toList)).flatMap fun list =>
    ((commaPieces list).map declaredName).filterMap fun n =>
      if n.isEmpty then none else some (.ofList n)

/-! ## The argument of the vertex entry point -/

/-- The last word of a text that ends in a word and blanks. -/
def lastWord (s : List Char) : List Char :=
  ((s.reverse.dropWhile isBlank).takeWhile isWordChar).reverse

/-- The text starts with `mainSupport` and a parenthesised run of words that ends in `uv`. -/
def supportAt? (s : List Char) : Option (Unit × List Char) := do
  let (w, s) ← word? s
  if w = "mainSupport".toList then
    let s ← after? '(' (s.dropWhile isBlank)
    let inner := s.takeWhile fun c => isWordChar c || isBlank c
    let s ← after? ')' (s.drop inner.length)
    if lastWord inner = "uv".toList then return ((), s) else none
  else none

/-- The vertex entry point takes the coordinates as an argument. -/
def supportReadsUv (source : String) : Bool :=
  !(scanShapes supportAt? (uncommented source.toList)).isEmpty

end ScreenEffects.Glsl
