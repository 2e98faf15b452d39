import ScreenEffects.Fault
import ScreenEffects.Text.Blank

/-!
# Blend functions

The catalogue of the functions by which an effect's colour is laid over the colour below it. A
function has a number, which names its symbol in merged shaders, and a name, under which settings
refer to it. `skip` leaves the effect out of the merge.

* `getElem?_all` and `id_injective` : the catalogue lists each function at its number.
-/

namespace ScreenEffects

/-- A blend function. -/
inductive BlendFunction
  | skip
  | add
  | alpha
  | average
  | colorBurn
  | colorDodge
  | darken
  | difference
  | exclusion
  | lighten
  | multiply
  | divide
  | negation
  | normal
  | overlay
  | reflect
  | screen
  | softLight
  | subtract
  | linearBurn
  | linearDodge
  | hardLight
  | pinLight
  | vividLight
  deriving DecidableEq

namespace BlendFunction

instance : Inhabited BlendFunction := ⟨.normal⟩

/-- Every blend function, in the order of their numbers. -/
def all : List BlendFunction := [
  .skip, .add, .alpha, .average, .colorBurn, .colorDodge, .darken, .difference, .exclusion,
  .lighten, .multiply, .divide, .negation, .normal, .overlay, .reflect, .screen, .softLight,
  .subtract, .linearBurn, .linearDodge, .hardLight, .pinLight, .vividLight]

/-- The number of the function. -/
def id (f : BlendFunction) : Nat := f.ctorIdx

def name : BlendFunction → String
  | .skip => "skip"
  | .add => "add"
  | .alpha => "alpha"
  | .average => "average"
  | .colorBurn => "color-burn"
  | .colorDodge => "color-dodge"
  | .darken => "darken"
  | .difference => "difference"
  | .exclusion => "exclusion"
  | .lighten => "lighten"
  | .multiply => "multiply"
  | .divide => "divide"
  | .negation => "negation"
  | .normal => "normal"
  | .overlay => "overlay"
  | .reflect => "reflect"
  | .screen => "screen"
  | .softLight => "soft-light"
  | .subtract => "subtract"
  | .linearBurn => "linear-burn"
  | .linearDodge => "linear-dodge"
  | .hardLight => "hard-light"
  | .pinLight => "pin-light"
  | .vividLight => "vivid-light"

/-- The symbol of the function in merged shaders. -/
def symbol (f : BlendFunction) : String := "blend" ++ toString f.id

/-- The function makes sense on components outside `[0, 1]`. -/
def isHdrSafe (f : BlendFunction) : Bool :=
  f ∈ [skip, add, alpha, average, darken, difference, lighten, multiply, normal]

/-- A name in the form in which functions are named: without blanks around it, in lower case, with
dashes. -/
def normalizedName (name : String) : String :=
  .ofList ((trimBlank name.toList).map fun c => if c == '_' then '-' else c.toLower)

/-- The function under a name, which may be written with capitals or underscores. -/
def ofName? (text : String) : Except SettingFault BlendFunction :=
  match all.find? fun f => f.name == normalizedName text with
  | some f => .ok f
  | none => .error (.unknownBlend text)

theorem mem_all (f : BlendFunction) : f ∈ all := by cases f <;> decide

theorem getElem?_all (f : BlendFunction) : all[f.id]? = some f := by cases f <;> rfl

theorem id_injective {f g : BlendFunction} (h : f.id = g.id) : f = g := by
  have := getElem?_all f
  rw [h, getElem?_all] at this
  exact (Option.some.inj this).symm

end BlendFunction

end ScreenEffects
