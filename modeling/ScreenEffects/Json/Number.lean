/-!
# Numerals

A numeral of a settings file, as its digits, and the numbers it stands for. A numeral without point
and exponent that fits into 64 bits is a whole number (`-0` is not: it is a float). Any numeral is a
float: its digits are taken up to the last that keeps them below `2^64`, and the resulting whole
number is scaled by a power of ten. A numeral too large for a double has no value.

* `significand` takes the digits, `scaled?` applies the power of ten.
-/

namespace ScreenEffects.Json

/-- A numeral: its sign, the digits before and after the point, and the exponent. -/
structure Numeral where
  negative : Bool
  whole : List Nat
  /-- Empty if there is no point. -/
  fraction : List Nat
  /-- The sign and the digits of the exponent; absent if there is none. -/
  exponent : Option (Bool × List Nat)
  deriving DecidableEq

/-- The number that digits stand for. -/
def ofDigits (ds : List Nat) : Nat := ds.foldl (fun n d => 10 * n + d) 0

namespace Numeral

/-- There is room for another digit. -/
def fits (n d : Nat) : Bool := 10 * n + d < UInt64.size

/-- The whole digits that fit, and how many were left out. -/
def takeWhole (n : Nat) : List Nat → Nat × Nat
  | [] => (n, 0)
  | d :: ds => if fits n d then takeWhole (10 * n + d) ds else (n, (d :: ds).length)

/-- The digits after the point that fit, and how many were taken. -/
def takeFraction (n : Nat) : List Nat → Nat × Nat
  | [] => (n, 0)
  | d :: ds =>
    if fits n d then
      let t := takeFraction (10 * n + d) ds
      (t.1, t.2 + 1)
    else (n, 0)

/-- The whole number of the leading digits, and the power of ten that goes with it, the exponent
apart. -/
def significand (x : Numeral) : Nat × Int :=
  let (n, left) := takeWhole 0 x.whole
  let (n, taken) := takeFraction n x.fraction
  (n, (left : Int) - taken)

/-- The exponent that is written. -/
def writtenExponent (x : Numeral) : Int :=
  match x.exponent with
  | none => 0
  | some (negative, ds) => if negative then -ofDigits ds else ofDigits ds

/-- The power of ten as a double. -/
def tenTo (n : Nat) : Float := .ofScientific 1 false n

/-- Divide by the power of ten, in steps that a double can take. -/
def shrink (f : Float) (n : Nat) : Float :=
  if n ≤ 308 then f / tenTo n
  else if f == 0 then f
  else shrink (f / tenTo 308) (n - 308)
termination_by n

/-- Scale by a power of ten. -/
def scaled? (f : Float) (e : Int) : Option Float :=
  if e < 0 then some (shrink f e.natAbs)
  else if e ≤ 308 then
    let r := f * tenTo e.natAbs
    if r.isInf then none else some r
  else if f == 0 then some f
  else none

/-- The double that the numeral stands for. -/
def toFloat? (x : Numeral) : Option Float :=
  let (n, e) := x.significand
  (scaled? (.ofNat n) (e + x.writtenExponent)).map fun f => if x.negative then -f else f

/-- The whole number that the numeral stands for, if it is one of 64 bits. -/
def toInt? (x : Numeral) : Option Int :=
  let n := ofDigits x.whole
  if !x.fraction.isEmpty || x.exponent.isSome then none
  else if x.negative then
    if 1 ≤ n ∧ n ≤ UInt64.size / 2 then some (-n) else none
  else if n < UInt64.size then some n
  else none

/-- The single-precision number that the numeral stands for: a whole number is rounded once, any
other numeral through its double. -/
def toFloat32? (x : Numeral) : Option Float32 :=
  match x.toInt? with
  | some n => some (if n < 0 then -.ofNat n.natAbs else .ofNat n.natAbs)
  | none => x.toFloat?.map Float.toFloat32

end Numeral

end ScreenEffects.Json
