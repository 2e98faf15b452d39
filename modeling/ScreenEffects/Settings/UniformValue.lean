import ScreenEffects.Json.Read
import ScreenEffects.Uniform.Value

/-!
# Uniform values in settings

A uniform value is written as a record of its type and its value. Only a texture may go without a
value; it has none then.
-/

namespace ScreenEffects

open Json

/-- The value of the named type that a tree holds. -/
def UniformValue.ofTyped? (type : String) (value : Option Tree) : Option UniformValue :=
  match type with
  | "float" => value.bind (·.float32?) |>.map .float
  | "int" => value.bind (·.int32?) |>.map .int
  | "bool" => value.bind (·.bool?) |>.map .bool
  | "vec2" => value.bind (·.vector? 2) |>.map .vec2
  | "vec3" => value.bind (·.vector? 3) |>.map .vec3
  | "vec4" => value.bind (·.vector? 4) |>.map .vec4
  | "mat3" => value.bind (·.vector? 9) |>.map .mat3
  | "mat4" => value.bind (·.vector? 16) |>.map .mat4
  | "texture" =>
    match value with
    | none => some (.texture none)
    | some t => (t.nullable? Tree.nat?).map fun n => .texture (n.map Texture.mk)
  | _ => none

/-- The uniform value of a settings tree. -/
def UniformValue.ofTree? (t : Tree) : Option UniformValue := do
  let fields ← t.record? ["type", "value"]
  UniformValue.ofTyped? (← Tree.required? fields "type" Tree.text?) (fields.lookup "value")

/-- A map of uniform values by name. -/
def uniformsOfTree? (t : Tree) : Option (NamedMap UniformValue) := t.map? UniformValue.ofTree?

/-- A map of macros by name. -/
def definesOfTree? (t : Tree) : Option (NamedMap String) := t.map? Tree.text?

end ScreenEffects
