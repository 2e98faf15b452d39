import ScreenEffects.Blend.Colour
import ScreenEffects.Proofs.Glsl.Syntax

/-!
# The meaning of expressions and functions

What expressions and functions give, computed with the operations of any scalars. No law of
arithmetic enters: each operation is done once, on what its operands give, in the order in which the
expression has it. What the language does not allow has no value, nor has what blend functions do
not use.
-/

namespace ScreenEffects.Glsl

open ShadeScalar

/-- What an expression gives: whether something holds, a number, or a vector of numbers. -/
inductive Value (α : Type)
  | truth (b : Bool)
  | number (a : α)
  | vector (as : List α)

/-- What functions give, by name and arguments. -/
abbrev Calls (α : Type) := String → List (Value α) → Option (Value α)

/-- The values of variables. -/
abbrev Environment (α : Type) := String → Option (Value α)

variable {α : Type}

/-! ## Values -/

/-- How many numbers a vector of a type has. -/
def vectorLength? : String → Option Nat
  | "vec2" => some 2
  | "vec3" => some 3
  | "vec4" => some 4
  | _ => none

namespace Value

def hasType (type : String) : Value α → Bool
  | .truth _ => type == "bool"
  | .number _ => type == "float"
  | .vector as => vectorLength? type == some as.length

/-- The numbers of a number or a vector. -/
def numbers? : Value α → Option (List α)
  | .truth _ => none
  | .number a => some [a]
  | .vector as => some as

/-- An operation on numbers, done to vectors component by component; a number stands for a vector
that has it everywhere. -/
def pointwise (op : α → α → α) : Value α → Value α → Option (Value α)
  | .number a, .number b => some (.number (op a b))
  | .vector as, .number b => some (.vector (as.map (op · b)))
  | .number a, .vector bs => some (.vector (bs.map (op a)))
  | .vector as, .vector bs =>
    if as.length = bs.length then some (.vector (List.zipWith op as bs)) else none
  | _, _ => none

def compare (p : α → α → Bool) : Value α → Value α → Option (Value α)
  | .number a, .number b => some (.truth (p a b))
  | _, _ => none

/-- The place of a component, by its name in a colour. -/
def component? : Char → Option Nat
  | 'r' => some 0
  | 'g' => some 1
  | 'b' => some 2
  | 'a' => some 3
  | _ => none

/-- The components of a vector that a field names: one of them, or a vector of several. -/
def field? (f : String) : Value α → Option (Value α)
  | .vector as => do
    match ← f.toList.mapM fun c => (component? c).bind (as[·]?) with
    | [a] => some (.number a)
    | as => some (.vector as)
  | _ => none

/-- A vector of a type, made of the numbers of the values. -/
def construct (type : String) (vs : List (Value α)) : Option (Value α) := do
  let as ← vs.mapM numbers?
  if vectorLength? type = some as.flatten.length then some (.vector as.flatten) else none

end Value

/-- The value, if there is one and no more. -/
def single? {β : Type} : List β → Option β
  | [b] => some b
  | _ => none

variable [ShadeScalar α]

/-! ## Expressions -/

/-- The number that is written with digits on both sides of a point, or on one. -/
def scalar? (lexeme : List Char) : Option α :=
  match lexeme.dropWhile Char.isDigit with
  | '.' :: fraction =>
    let digits := lexeme.takeWhile Char.isDigit ++ fraction
    if digits ≠ [] ∧ fraction.all Char.isDigit then
      some (OfScientific.ofScientific (Nat.ofDigitChars 10 digits 0) true fraction.length)
    else none
  | _ => none

/-- What an operator gives for two values. -/
def Operator.ofValues : Operator → Value α → Value α → Option (Value α)
  | .multiply => Value.pointwise (· * ·)
  | .divide => Value.pointwise (· / ·)
  | .add => Value.pointwise (· + ·)
  | .subtract => Value.pointwise (· - ·)
  | .less => Value.compare below
  | .greater => Value.compare fun a b => below b a
  | .atMost => Value.compare ShadeScalar.atMost
  | .atLeast => Value.compare fun a b => ShadeScalar.atMost b a
  | .equal => Value.compare equals
  | .unequal => Value.compare fun a b => !equals a b
  | .comma => fun _ _ => none

/-- What an operator gives. A comma puts together what its operands list; any other operator has
one value on each side. -/
def Operator.ofLists (o : Operator) (us vs : List (Value α)) : Option (List (Value α)) :=
  if o = .comma then some (us ++ vs)
  else do return [← o.ofValues (← single? us) (← single? vs)]

/-- The values of an expression: one, or as many as commas separate. -/
def Expression.values (calls : Calls α) (env : Environment α) :
    Expression → Option (List (Value α))
  | .number l => do return [.number (← scalar? l)]
  | .name x => do return [← env x]
  | .parenthesized e => do return [← single? (← e.values calls env)]
  | .field e f => do return [← (← single? (← e.values calls env)).field? f]
  | .call f as => do return [← calls f (← as.values calls env)]
  | .binary o l r => do o.ofLists (← l.values calls env) (← r.values calls env)
  | .choice c u v => do
    match ← c.values calls env with
    | [.truth b] =>
      if b then return [← single? (← u.values calls env)]
      else return [← single? (← v.values calls env)]
    | _ => none

/-- The value of an expression. -/
def Expression.value (calls : Calls α) (env : Environment α) (e : Expression) :
    Option (Value α) := do
  single? (← e.values calls env)

namespace Expression

variable {calls : Calls α} {env : Environment α} {c u v : Expression} {ps qs : List (Value α)}
  {r r' : Value α} {p q : α}

theorem values_parenthesized (hu : u.values calls env = some [r]) :
    (parenthesized u).values calls env = some [r] := by
  rw [values, hu]
  rfl

theorem values_field {f : String} (hu : u.values calls env = some [r])
    (hf : r.field? f = some r') : (field u f).values calls env = some [r'] := by
  rw [values, hu]
  simp [single?, hf]

theorem values_call {f : String} (hu : u.values calls env = some ps)
    (hf : calls f ps = some r) : (call f u).values calls env = some [r] := by
  rw [values, hu]
  simp [hf]

theorem values_comma (hu : u.values calls env = some ps) (hv : v.values calls env = some qs) :
    (binary .comma u v).values calls env = some (ps ++ qs) := by
  rw [values, hu, hv]
  rfl

theorem values_choice {b : Bool} (hc : c.values calls env = some [.truth b])
    (hu : u.values calls env = some [.number p]) (hv : v.values calls env = some [.number q]) :
    (choice c u v).values calls env = some [.number (if b then p else q)] := by
  rw [values, hc, hu, hv]
  cases b <;> rfl

theorem value_of_values (h : u.values calls env = some [r]) : u.value calls env = some r := by
  rw [value, h]
  rfl

end Expression

/-! ## Functions -/

/-- The functions of the language. A mix of `u` and `v` goes from `u` towards `v`. -/
def builtin (f : String) (vs : List (Value α)) : Option (Value α) :=
  match f, vs with
  | "min", [.number a, .number b] => some (.number (minimum a b))
  | "max", [.number a, .number b] => some (.number (maximum a b))
  | "abs", [.number a] => some (.number (absolute a))
  | "sqrt", [.number a] => some (.number (root a))
  | "mix", [u, v, .number t] => do
    Operator.add.ofValues u
      (← Operator.multiply.ofValues (← Operator.subtract.ofValues v u) (.number t))
  | type, vs => Value.construct type vs

/-- The values of the parameters. -/
def bindings (parameters : List Parameter) (vs : List (Value α)) : Environment α := fun x =>
  ((parameters.zip vs).find? fun p => p.1.name = x).map Prod.snd

/-- The value that is of the type. -/
def Value.ofType (type : String) (v : Value α) : Option (Value α) :=
  if v.hasType type then some v else none

/-- What statements give, one after the other. -/
def Statement.run (calls : Calls α) : List Statement → Environment α → Option (Value α)
  | [], _ => none
  | .define type x e :: rest, env => do
    let v ← (← e.value calls env).ofType type
    run calls rest fun y => if y = x then some v else env y
  | .give e :: _, env => e.value calls env

namespace Function

/-- The values may be given to the function. -/
def accepts (f : Function) (vs : List (Value α)) : Bool :=
  f.parameters.length == vs.length && (f.parameters.zip vs).all fun p => p.2.hasType p.1.type

/-- What the function gives, where other functions may be called. -/
def result (f : Function) (calls : Calls α) (vs : List (Value α)) : Option (Value α) := do
  (← Statement.run calls f.body (bindings f.parameters vs)).ofType f.type

/-- The function together with the others. Functions of one name differ in what they accept. -/
def extend (f : Function) (calls : Calls α) : Calls α := fun name vs =>
  if name = f.name ∧ f.accepts vs then f.result calls vs else calls name vs

/-- A function gives what its body gives, if that is of its type. -/
theorem extend_of_run {f : Function} {calls : Calls α} {vs : List (Value α)} {r : Value α}
    (accepts : f.accepts vs = true)
    (run : Statement.run calls f.body (bindings f.parameters vs) = some r)
    (type : r.hasType f.type = true) : f.extend calls f.name vs = some r := by
  rw [extend, if_pos ⟨rfl, accepts⟩, result, run]
  exact if_pos type

end Function

/-- What the functions of a program give. Each calls those before it. -/
def Program.calls (p : Program) : Calls α := p.foldl (fun calls f => f.extend calls) builtin

end ScreenEffects.Glsl
