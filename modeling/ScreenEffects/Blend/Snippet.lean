import ScreenEffects.Blend.Function

/-!
# Blend functions as shader text

The text that defines a blend function in a merged program. The function is called `blend` here and
receives its own symbol when it is merged. All but two are given by an expression in the components
`x` below and `y` above; `alpha` mixes the colours by the alpha above, and `skip` has no text.
-/

namespace ScreenEffects.BlendFunction

/-- The expression of one component, in `x` and `y`. -/
def expression? : BlendFunction → Option String
  | .skip | .alpha => none
  | .add => some "x + y"
  | .average => some "(x + y) * 0.5"
  | .colorBurn => some "(y == 0.0) ? y : max(1.0 - (1.0 - x) / y, 0.0)"
  | .colorDodge => some "(y == 1.0) ? y : min(x / (1.0 - y), 1.0)"
  | .darken => some "min(x, y)"
  | .difference => some "abs(x - y)"
  | .exclusion => some "x + y - 2.0 * x * y"
  | .lighten => some "max(x, y)"
  | .multiply => some "x * y"
  | .divide => some "(y > 0.0) ? min(x / y, 1.0) : 1.0"
  | .negation => some "1.0 - abs(1.0 - x - y)"
  | .normal => some "y"
  | .overlay => some "(x < 0.5) ? (2.0 * x * y) : (1.0 - 2.0 * (1.0 - x) * (1.0 - y))"
  | .reflect => some "(y == 1.0) ? y : min(x * x / (1.0 - y), 1.0)"
  | .screen => some "x + y - x * y"
  | .softLight => some <|
    "(y < 0.5) ? (2.0 * x * y + x * x * (1.0 - 2.0 * y)) : (sqrt(x) * (2.0 * y - " ++
    "1.0) + 2.0 * x * (1.0 - y))"
  | .subtract => some "max(x - y, 0.0)"
  | .linearBurn => some "max(x + y - 1.0, 0.0)"
  | .linearDodge => some "min(x + y, 1.0)"
  | .hardLight => some "(y < 0.5) ? (2.0 * x * y) : (1.0 - 2.0 * (1.0 - x) * (1.0 - y))"
  | .pinLight => some "(y < 0.5) ? min(x, 2.0 * y) : max(x, 2.0 * (y - 0.5))"
  | .vividLight => some <|
    "(y < 0.5) ? ((y <= 0.0) ? 0.0 : max(1.0 - (1.0 - x) / (2.0 * y), 0.0)) : ((y " ++
    ">= 1.0) ? 1.0 : min(x / (2.0 * (1.0 - y)), 1.0))"

/-- The text that mixes by the alpha above. -/
def alphaSnippet : String :=
  "vec4 blend(const in vec4 x, const in vec4 y, const in float opacity) \x7b\n" ++
  "\tfloat a = y.a * opacity;\n" ++
  "\treturn vec4(mix(x.rgb, y.rgb, a), a + x.a * (1.0 - a));\n" ++
  "\x7d\n"

/-- The text that applies an expression to each component and mixes by the opacity. -/
def componentSnippet (expression : String) : String :=
  "float blend(const in float x, const in float y) \x7b\n" ++
  "\treturn " ++ expression ++ ";\n" ++
  "\x7d\n" ++
  "\n" ++
  "vec4 blend(const in vec4 x, const in vec4 y, const in float opacity) \x7b\n" ++
  "\tvec4 z = vec4(blend(x.r, y.r), blend(x.g, y.g), blend(x.b, y.b), blend(x.a, y.a));\n" ++
  "\treturn z * opacity + x * (1.0 - opacity);\n" ++
  "\x7d\n"

/-- The text that defines the function, if it has one. -/
def snippet? (f : BlendFunction) : Option String :=
  if f = .alpha then some alphaSnippet else f.expression?.map componentSnippet

theorem snippet?_eq_none_iff (f : BlendFunction) : f.snippet? = none ↔ f = .skip := by
  cases f <;> simp [snippet?, expression?]

end ScreenEffects.BlendFunction
