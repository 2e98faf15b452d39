/-!
# Numbers on the command line

The texts that an option accepts as a number. A whole number has decimal digits and perhaps a sign;
a decimal number has in addition a point, an exponent, and the words for infinity and for no number
at all. Nothing stands before, between or after them.
-/

namespace ScreenEffects

/-- The sign before a number, true for minus, and what follows it. -/
def splitSign : List Char → Bool × List Char
  | '-' :: s => (true, s)
  | '+' :: s => (false, s)
  | s => (false, s)

/-- The number that a text of digits stands for; no digits stand for zero. -/
def digitsValue? (s : List Char) : Option Nat :=
  if s.all Char.isDigit then some (s.foldl (fun n c => 10 * n + (c.toNat - '0'.toNat)) 0) else none

/-- A whole number of 32 bits without sign. -/
def wholeOption? (text : String) : Option UInt32 := do
  let (negative, s) := splitSign text.toList
  if s.isEmpty then none
  let n ← digitsValue? s
  if n < UInt32.size ∧ (n = 0 ∨ !negative) then some (.ofNat n) else none

/-! ## Decimal numbers -/

/-- The words for what digits cannot write. -/
def wordValue? (s : List Char) : Option Float32 :=
  let word := String.ofList (s.map Char.toLower)
  if word = "inf" ∨ word = "infinity" then some (.ofBits 0x7F800000)
  else if word = "nan" then some (.ofBits 0x7FC00000)
  else none

/-- The exponent of a decimal number, if it is one. -/
def exponent? (s : List Char) : Option Int :=
  match s with
  | [] => some 0
  | c :: s => do
    if c ≠ 'e' ∧ c ≠ 'E' then none
    let (negative, ds) := splitSign s
    if ds.isEmpty then none
    let n ← digitsValue? ds
    return if negative then -n else n

/-- The number `n * 10 ^ e`, rounded once. Powers of ten so large or so small that the number must be
infinite or zero are not computed. -/
def scaleByTen (n : Nat) (e : Int) : Float32 :=
  let size := e + Nat.log2 n / 3
  if n = 0 ∨ size < -100 then 0
  else if 100 < size then .ofBits 0x7F800000
  else .ofScientific n (e < 0) e.natAbs

/-- A decimal number without its sign. -/
def magnitude? (s : List Char) : Option Float32 := do
  let whole := s.takeWhile Char.isDigit
  let s := s.drop whole.length
  let (fraction, s) :=
    match s with
    | '.' :: s => (s.takeWhile Char.isDigit, s.dropWhile Char.isDigit)
    | s => ([], s)
  if whole.isEmpty ∧ fraction.isEmpty then none
  return scaleByTen (← digitsValue? (whole ++ fraction)) ((← exponent? s) - fraction.length)

/-- A decimal number in single precision. -/
def decimalOption? (text : String) : Option Float32 := do
  let (negative, s) := splitSign text.toList
  let f ← (wordValue? s).or (magnitude? s)
  return if negative then -f else f

end ScreenEffects
