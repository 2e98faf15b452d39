import ScreenEffects.Proofs.Blend.Trees
import ScreenEffects.Proofs.Glsl.Unambiguous

/-!
# Blend functions as text and as arithmetic

A blend function is given twice: as text, for the merged programs, and as arithmetic. Both say the
same, whatever the operations on scalars are (`text_agrees`); so they agree on numbers that are
rounded, for which no two ways of writing a formula are the same.

The text of a component's expression is read as its tree. The text of the function of colours stands
around it, and is read as a program of two functions, of which one is called by the other
(`componentProgram`); `alpha` has a program of its own (`alphaProgram`).
-/

namespace ScreenEffects

open Glsl

variable {α : Type}

/-- The colour as a vector. -/
def Colour.value (c : Colour α) : Value α := .vector [c.r, c.g, c.b, c.a]

namespace BlendFunction

open Glsl.Expression

/-! ## Programs -/

/-- The parameters of a function of colours. -/
def layers : List Parameter := [⟨"vec4", "x"⟩, ⟨"vec4", "y"⟩, ⟨"float", "opacity"⟩]

/-- The function of a component, with the given expression. -/
def componentFunction (e : Expression) : Function := ⟨"float", "blend", operands, [.give e]⟩

/-- The function of colours that calls the function of a component on each. -/
def colourFunction : Function :=
  let x : Expression := .name "x"
  let opacity : Expression := .name "opacity"
  let blended (c : String) := call₂ "blend" (field x c) (field (.name "y") c)
  let all := binary .comma (binary .comma (binary .comma (blended "r") (blended "g")) (blended "b"))
    (blended "a")
  ⟨"vec4", "blend", layers, [
    .define "vec4" "z" (call "vec4" all),
    .give (.name "z" * opacity + x * parenthesized (number ['1', '.', '0'] - opacity))]⟩

/-- The program that applies an expression to each component and mixes by the opacity. -/
def componentProgram (e : Expression) : Program := [componentFunction e, colourFunction]

/-- The program that mixes by the alpha above. -/
def alphaProgram : Program :=
  let x : Expression := .name "x"
  let y : Expression := .name "y"
  let a : Expression := .name "a"
  let mixed := call "mix" (binary .comma (binary .comma (field x "rgb") (field y "rgb")) a)
  [⟨"vec4", "blend", layers, [
    .define "float" "a" (field y "a" * .name "opacity"),
    .give (call₂ "vec4" mixed (a + field x "a" * parenthesized (number ['1', '.', '0'] - a)))]⟩]

/-! ## Their texts -/

theorem spells_alphaProgram : alphaProgram.Spells alphaSnippet := by
  constructor <;> decide +kernel

/-- The text in front of a component's expression and the blank before it. -/
def textBefore : List Char :=
  "float blend(const in float x, const in float y) \x7b\n".toList ++ "\treturn".toList

/-- The text behind the expression and the semicolon after it. -/
def textAfter : List Char :=
  ['\n'] ++ ("\x7d\n".toList ++ ("\n".toList ++
    ("vec4 blend(const in vec4 x, const in vec4 y, const in float opacity) \x7b\n".toList ++
    ("\tvec4 z = vec4(blend(x.r, y.r), blend(x.g, y.g), blend(x.b, y.b), blend(x.a, y.a));\n".toList ++
    ("\treturn z * opacity + x * (1.0 - opacity);\n".toList ++ "\x7d\n".toList)))))

theorem toList_componentSnippet (text : String) : (componentSnippet text).toList =
    textBefore ++ ' ' :: (text.toList ++ ';' :: textAfter) := by
  have parts (a b c d e f g h i j : String) {b' d' : List Char} (hb : b.toList = b' ++ [' '])
      (hd : d.toList = ';' :: d') :
      (a ++ b ++ c ++ d ++ e ++ f ++ g ++ h ++ i ++ j).toList =
        (a.toList ++ b') ++ ' ' :: (c.toList ++ ';' :: (d' ++ (e.toList ++ (f.toList ++
          (g.toList ++ (h.toList ++ (i.toList ++ j.toList))))))) := by
    simp [String.toList_append, hb, hd]
  exact parts _ "\treturn " text ";\n" _ _ _ _ _ _ (by decide +kernel) (by decide +kernel)

/-- The program of an expression is spelled as the text around the expression's text. -/
theorem spells_componentProgram {e : Expression} {text : String} (h : e.Spells text)
    (plain : ∀ t ∈ tokenize text, t.isComment = false) :
    (componentProgram e).Spells (componentSnippet text) := by
  have before : words textBefore = [.name "float", .name "blend", .mark '('] ++
      parametersSpelling operands ++ [.mark '\x7b', .reserved "return"] := by decide +kernel
  have after : words textAfter = .mark '\x7d' :: colourFunction.spelling := by decide +kernel
  have plainBefore : ∀ t ∈ tokens textBefore, t.isComment = false := by decide +kernel
  constructor
  · have expression : (Statement.give e).isGrammatical = true := h.1
    simp only [componentProgram, componentFunction, List.all_cons, Function.isGrammatical, expression]
    decide
  · rw [toList_componentSnippet, words_append_cons (by decide) plainBefore,
      words_append_cons (by decide) plain, before, after, ← h.2]
    have blank : wordsOfChar ' ' = [] := by decide
    have semicolon : wordsOfChar ';' = [.mark ';'] := by decide
    simp [Program.spelling, componentProgram, componentFunction, Function.spelling,
      Statement.spelling, blank, semicolon]

/-! ## What they give -/

variable [ShadeScalar α]

theorem calls_alphaProgram (x y : Colour α) (opacity : α) :
    alphaProgram.calls "blend" [x.value, y.value, .number opacity] =
      some (BlendFunction.alpha.apply x y opacity).value := rfl

section Component

variable {e : Expression} {f : BlendFunction}

theorem extend_componentFunction (h : f.tree? = some e) (p q : α) :
    (componentFunction e).extend builtin "blend" [.number p, .number q] =
      some (.number (f.scalar p q)) :=
  Function.extend_of_run (f := componentFunction e) rfl (value_of_values (values_tree? h p q)) rfl

/-- What the function of colours gives, if the function that it calls blends components. -/
theorem run_colourFunction {calls : Calls α} (x y : Colour α) (opacity : α) {s : α → α → α}
    (blend : ∀ p q, calls "blend" [.number p, .number q] = some (.number (s p q)))
    (vector : calls "vec4" = builtin "vec4") :
    let mix (p q : α) := s p q * opacity + p * (1.0 - opacity)
    Statement.run calls colourFunction.body (bindings layers [x.value, y.value, .number opacity]) =
      some (Colour.value ⟨mix x.r y.r, mix x.g y.g, mix x.b y.b, mix x.a y.a⟩) := by
  intro mix
  have blended {c : String} {p q : α} (hx : x.value.field? c = some (.number p))
      (hy : y.value.field? c = some (.number q)) :
      (call₂ "blend" (field (.name "x") c) (field (.name "y") c)).values calls
        (bindings layers [x.value, y.value, .number opacity]) = some [.number (s p q)] :=
    values_call (values_comma (values_field rfl hx) (values_field rfl hy)) (blend p q)
  have all := values_comma (values_comma (values_comma (blended (c := "r") rfl rfl)
    (blended (c := "g") rfl rfl)) (blended (c := "b") rfl rfl)) (blended (c := "a") rfl rfl)
  have z := value_of_values (values_call all
    (r := .vector [s x.r y.r, s x.g y.g, s x.b y.b, s x.a y.a]) (by rw [vector]; rfl))
  rw [colourFunction, Statement.run, z]
  rfl

theorem apply_of_ne (skip : f ≠ .skip) (alpha : f ≠ .alpha) (x y : Colour α) (opacity : α) :
    let mix (p q : α) := f.scalar p q * opacity + p * (1.0 - opacity)
    f.apply x y opacity = ⟨mix x.r y.r, mix x.g y.g, mix x.b y.b, mix x.a y.a⟩ := by
  cases f
  case skip => exact absurd rfl skip
  case alpha => exact absurd rfl alpha
  all_goals rfl

theorem calls_componentProgram (h : f.tree? = some e) (x y : Colour α) (opacity : α) :
    (componentProgram e).calls "blend" [x.value, y.value, .number opacity] =
      some (f.apply x y opacity).value := by
  have skip : f ≠ .skip := by rintro rfl; cases h
  have alpha : f ≠ .alpha := by rintro rfl; cases h
  rw [apply_of_ne skip alpha]
  exact Function.extend_of_run (f := colourFunction) rfl
    (run_colourFunction x y opacity (extend_componentFunction h) rfl) rfl

end Component

/-! ## Agreement -/

/-- **A blend function is the same as text and as arithmetic**, over any operations on scalars. The
expression of a component can be read, and however it is read it has the value of the function of
components. The text of the function can be read, and however it is read its `blend` gives for two
colours and an opacity what the function gives, alpha included. -/
theorem text_agrees {f : BlendFunction} (skip : f ≠ .skip) :
    (f ≠ .alpha → ∃ text, f.expression? = some text ∧ (∃ e : Expression, e.Spells text) ∧
      ∀ e : Expression, e.Spells text → ∀ x y : α,
        e.value builtin (bindings operands [.number x, .number y]) =
          some (.number (f.scalar x y))) ∧
    ∃ code, f.snippet? = some code ∧ (∃ p : Program, p.Spells code) ∧
      ∀ p : Program, p.Spells code → ∀ (x y : Colour α) (opacity : α),
        p.calls "blend" [x.value, y.value, .number opacity] = some (f.apply x y opacity).value := by
  by_cases alpha : f = .alpha
  · subst alpha
    refine ⟨absurd rfl, alphaSnippet, rfl, ⟨_, spells_alphaProgram⟩, fun p spelled x y opacity => ?_⟩
    rw [spelled.eq spells_alphaProgram, calls_alphaProgram]
  · obtain ⟨text, e, said, tree, spelled, plain⟩ := spells_tree? skip alpha
    have program : (componentProgram e).Spells (componentSnippet text) :=
      spells_componentProgram spelled plain
    refine ⟨fun _ => ⟨text, said, ⟨e, spelled⟩, fun e' spelled' x y => ?_⟩, componentSnippet text,
      by rw [snippet?, if_neg alpha, said]; rfl, ⟨_, program⟩, fun p spelled' x y opacity => ?_⟩
    · rw [spelled'.eq spelled, value_of_values (values_tree? tree x y)]
    · rw [spelled'.eq program, calls_componentProgram tree]

/-- A function that chooses between two formulas, on numbers that are rounded. -/
theorem softLight_text_agrees :
    softLight ≠ .skip ∧ softLight ≠ .alpha ∧
      (∃ text, softLight.expression? = some text ∧ ∃ e : Expression, e.Spells text ∧
        e.value builtin (bindings operands [.number (0.3 : Float32), .number 0.7]) =
          some (.number (softLight.scalar 0.3 0.7))) ∧
      ∃ code, softLight.snippet? = some code ∧ ∃ p : Program, p.Spells code ∧
        p.calls "blend" [.vector [(0.3 : Float32), 0.2, 0.9, 1.0], .vector [0.7, 0.1, 0.4, 0.5],
            .number 0.6] =
          some (softLight.apply ⟨0.3, 0.2, 0.9, 1.0⟩ ⟨0.7, 0.1, 0.4, 0.5⟩ 0.6).value := by
  have skip : softLight ≠ .skip := by decide
  have alpha : softLight ≠ .alpha := by decide
  obtain ⟨expression, code, said, ⟨p, spelled⟩, gives⟩ := @text_agrees Float32 _ _ skip
  obtain ⟨text, said', ⟨e, spelled'⟩, gives'⟩ := expression alpha
  exact ⟨skip, alpha, ⟨text, said', e, spelled', gives' e spelled' 0.3 0.7⟩, code, said, p, spelled,
    gives p spelled ⟨0.3, 0.2, 0.9, 1.0⟩ ⟨0.7, 0.1, 0.4, 0.5⟩ 0.6⟩

end BlendFunction

end ScreenEffects
