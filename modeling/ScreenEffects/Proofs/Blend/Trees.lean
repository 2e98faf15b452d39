import ScreenEffects.Blend.Snippet
import ScreenEffects.Proofs.Glsl.Meaning
import ScreenEffects.Proofs.Glsl.Words

/-!
# Blend expressions as trees

The expression of each blend function as a tree (`tree?`): what the text says, with its parentheses.
The text is spelled as the tree (`spells_tree?`), and the tree gives what the function is to give,
over any scalars (`values_tree?`).
-/

namespace ScreenEffects

open Glsl

namespace Glsl.Expression

instance : Add Expression := ⟨.binary .add⟩
instance : Sub Expression := ⟨.binary .subtract⟩
instance : Mul Expression := ⟨.binary .multiply⟩
instance : Div Expression := ⟨.binary .divide⟩

/-- A call with two arguments. -/
def call₂ (f : String) (a b : Expression) : Expression := call f (binary .comma a b)

end Glsl.Expression

namespace BlendFunction

open Glsl.Expression

/-- The expression of a component, as a tree. -/
def tree? (f : BlendFunction) : Option Expression :=
  let x : Expression := .name "x"
  let y : Expression := .name "y"
  let zero := number ['0', '.', '0']
  let half := number ['0', '.', '5']
  let one := number ['1', '.', '0']
  let two := number ['2', '.', '0']
  let paren := parenthesized
  let doubled := paren (two * x * y)
  let screened := paren (one - two * paren (one - x) * paren (one - y))
  match f with
  | .skip | .alpha => none
  | .add => some (x + y)
  | .average => some (paren (x + y) * half)
  | .colorBurn => some <|
    choice (paren (binary .equal y zero)) y (call₂ "max" (one - paren (one - x) / y) zero)
  | .colorDodge => some <|
    choice (paren (binary .equal y one)) y (call₂ "min" (x / paren (one - y)) one)
  | .darken => some (call₂ "min" x y)
  | .difference => some (call "abs" (x - y))
  | .exclusion => some (x + y - two * x * y)
  | .lighten => some (call₂ "max" x y)
  | .multiply => some (x * y)
  | .divide => some (choice (paren (binary .greater y zero)) (call₂ "min" (x / y) one) one)
  | .negation => some (one - call "abs" (one - x - y))
  | .normal => some y
  | .overlay => some (choice (paren (binary .less x half)) doubled screened)
  | .reflect => some <|
    choice (paren (binary .equal y one)) y (call₂ "min" (x * x / paren (one - y)) one)
  | .screen => some (x + y - x * y)
  | .softLight => some <|
    choice (paren (binary .less y half)) (paren (two * x * y + x * x * paren (one - two * y)))
      (paren (call "sqrt" x * paren (two * y - one) + two * x * paren (one - y)))
  | .subtract => some (call₂ "max" (x - y) zero)
  | .linearBurn => some (call₂ "max" (x + y - one) zero)
  | .linearDodge => some (call₂ "min" (x + y) one)
  | .hardLight => some (choice (paren (binary .less y half)) doubled screened)
  | .pinLight => some <|
    choice (paren (binary .less y half)) (call₂ "min" x (two * y))
      (call₂ "max" x (two * paren (y - half)))
  | .vividLight => some <|
    choice (paren (binary .less y half))
      (paren (choice (paren (binary .atMost y zero)) zero
        (call₂ "max" (one - paren (one - x) / paren (two * y)) zero)))
      (paren (choice (paren (binary .atLeast y one)) one
        (call₂ "min" (x / paren (two * paren (one - y))) one)))

/-- Every function but two has an expression, which is spelled as its tree. -/
theorem spells_tree? {f : BlendFunction} (skip : f ≠ .skip) (alpha : f ≠ .alpha) :
    ∃ text e, f.expression? = some text ∧ f.tree? = some e ∧ e.Spells text ∧
      ∀ t ∈ tokenize text, t.isComment = false := by
  cases f
  case skip => exact absurd rfl skip
  case alpha => exact absurd rfl alpha
  all_goals exact ⟨_, _, rfl, rfl, by decide +kernel⟩

/-- The parameters of an expression: the component below and the component above. -/
def operands : List Parameter := [⟨"float", "x"⟩, ⟨"float", "y"⟩]

/-- **The tree gives what the function gives**, by the same operations in the same order. -/
theorem values_tree? {α : Type} [ShadeScalar α] {f : BlendFunction} {e : Expression}
    (h : f.tree? = some e) (x y : α) :
    e.values builtin (bindings operands [.number x, .number y]) =
      some [.number (f.scalar x y)] := by
  -- without a choice both sides compute to the same; a choice is made on both sides at once
  cases f
  case skip | alpha => cases h
  all_goals cases h
  case colorBurn | colorDodge | divide | overlay | reflect | softLight | hardLight | pinLight =>
    exact values_choice rfl rfl rfl
  case vividLight =>
    exact values_choice rfl (values_parenthesized (values_choice rfl rfl rfl))
      (values_parenthesized (values_choice rfl rfl rfl))
  all_goals rfl

end BlendFunction

end ScreenEffects
