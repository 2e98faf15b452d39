import ScreenEffects.Blend.Function

/-!
# Blend functions as arithmetic

What a blend function does to a colour, computed on the spot. The formulas are written over any
scalars with the operations they use, so that they can be compared with the shader text for every
meaning of these operations; `Float32` is the meaning that programs run with. All formulas but
those of `skip` and `alpha` work on each component alone, alpha included.

The minimum and the maximum of a number and of no number is the number.
-/

namespace ScreenEffects

/-- The operations on scalars that blend formulas use. -/
class ShadeScalar (α : Type) extends Add α, Sub α, Mul α, Div α, OfScientific α where
  minimum : α → α → α
  maximum : α → α → α
  absolute : α → α
  root : α → α
  equals : α → α → Bool
  below : α → α → Bool
  atMost : α → α → Bool

/-- The smaller of two numbers; the other one if one of them is no number. -/
def smallerNumber (x y : Float32) : Float32 :=
  if x.isNaN then y else if y.isNaN then x else if y < x then y else x

/-- The larger of two numbers; the other one if one of them is no number. -/
def largerNumber (x y : Float32) : Float32 :=
  if x.isNaN then y else if y.isNaN then x else if x < y then y else x

instance : ShadeScalar Float32 where
  minimum := smallerNumber
  maximum := largerNumber
  absolute := Float32.abs
  root := Float32.sqrt
  equals x y := x == y
  below x y := x < y
  atMost x y := x ≤ y

/-- A colour with its alpha. -/
structure Colour (α : Type) where
  r : α
  g : α
  b : α
  a : α

namespace BlendFunction

open ShadeScalar

variable {α : Type} [ShadeScalar α]

/-- The component `x` below blended with the component `y` above. -/
def scalar : BlendFunction → α → α → α
  | .skip, x, _ => x
  | .alpha, _, y => y
  | .normal, _, y => y
  | .add, x, y => x + y
  | .average, x, y => (x + y) * 0.5
  | .colorBurn, x, y => if equals y 0.0 then y else maximum (1.0 - (1.0 - x) / y) 0.0
  | .colorDodge, x, y => if equals y 1.0 then y else minimum (x / (1.0 - y)) 1.0
  | .darken, x, y => minimum x y
  | .difference, x, y => absolute (x - y)
  | .exclusion, x, y => x + y - 2.0 * x * y
  | .lighten, x, y => maximum x y
  | .multiply, x, y => x * y
  | .divide, x, y => if below 0.0 y then minimum (x / y) 1.0 else 1.0
  | .negation, x, y => 1.0 - absolute (1.0 - x - y)
  | .overlay, x, y =>
    if below x 0.5 then 2.0 * x * y else 1.0 - 2.0 * (1.0 - x) * (1.0 - y)
  | .reflect, x, y => if equals y 1.0 then y else minimum (x * x / (1.0 - y)) 1.0
  | .screen, x, y => x + y - x * y
  | .softLight, x, y =>
    if below y 0.5 then 2.0 * x * y + x * x * (1.0 - 2.0 * y)
    else root x * (2.0 * y - 1.0) + 2.0 * x * (1.0 - y)
  | .subtract, x, y => maximum (x - y) 0.0
  | .linearBurn, x, y => maximum (x + y - 1.0) 0.0
  | .linearDodge, x, y => minimum (x + y) 1.0
  | .hardLight, x, y =>
    if below y 0.5 then 2.0 * x * y else 1.0 - 2.0 * (1.0 - x) * (1.0 - y)
  | .pinLight, x, y =>
    if below y 0.5 then minimum x (2.0 * y) else maximum x (2.0 * (y - 0.5))
  | .vividLight, x, y =>
    if below y 0.5 then
      if atMost y 0.0 then 0.0 else maximum (1.0 - (1.0 - x) / (2.0 * y)) 0.0
    else if atMost 1.0 y then 1.0 else minimum (x / (2.0 * (1.0 - y))) 1.0

/-- The colour `y` laid over the colour `x` with the given opacity. -/
def apply (f : BlendFunction) (x y : Colour α) (opacity : α) : Colour α :=
  match f with
  | .skip => x
  | .alpha =>
    let a := y.a * opacity
    let mix (p q : α) := p + (q - p) * a
    ⟨mix x.r y.r, mix x.g y.g, mix x.b y.b, a + x.a * (1.0 - a)⟩
  | f =>
    let mix (p q : α) := f.scalar p q * opacity + p * (1.0 - opacity)
    ⟨mix x.r y.r, mix x.g y.g, mix x.b y.b, mix x.a y.a⟩

end BlendFunction

end ScreenEffects
