import ScreenEffects.Json.Document
import ScreenEffects.OrderedMap
import ScreenEffects.Uniform.Value

/-!
# Traces

A trace shows values as documents, so that two runs can be compared. Floats are shown by their bits:
two traces agree exactly if the floats do, except that all forms of no number look the same, and both
zeros. Handles are shown by their numbers, tables in their order.
-/

namespace ScreenEffects

open Json

/-- Values that a trace can show. -/
class Traced (α : Type) where
  trace : α → Document

export Traced (trace)

/-! ## Plain values -/

/-- The two digits of a byte. -/
def byteText (b : UInt8) : String :=
  .ofList [Nat.digitChar (b.toNat / 16), Nat.digitChar (b.toNat % 16)]

/-- The bits of a float, the highest first. -/
def bitsText (f : Float32) : String :=
  if f.isNaN then "nan"
  else if f == 0 then "00000000"
  else String.join ((wordBytes f.toBits).reverse.map byteText)

section Plain

variable {α β : Type} [Traced α] [Traced β]

instance : Traced Document := ⟨id⟩

instance : Traced Bool := ⟨.bool⟩

instance : Traced Nat := ⟨.nat⟩

instance : Traced UInt8 := ⟨fun n => .nat n.toNat⟩

instance : Traced UInt32 := ⟨fun n => .nat n.toNat⟩

instance : Traced String := ⟨.text⟩

instance : Traced Float32 := ⟨fun f => .text (bitsText f)⟩

instance : Traced (Option α) where
  trace
    | some a => trace a
    | none => .null

instance : Traced (List α) := ⟨fun l => .list (l.map trace)⟩

instance : Traced (α × β) := ⟨fun p => .list [trace p.1, trace p.2]⟩

instance : Traced (OrderedMap α β) := ⟨fun m => trace m.entries⟩

end Plain

/-! ## Handles and uniform values -/

instance : Traced Texture := ⟨fun h => trace h.id⟩

instance : Traced SurfaceId := ⟨fun h => trace h.id⟩

instance : Traced Scene := ⟨fun h => trace h.id⟩

instance : Traced Camera := ⟨fun h => trace h.id⟩

instance : Traced Geometry := ⟨fun h => trace h.id⟩

instance : Traced SceneObject := ⟨fun h => trace h.id⟩

/-- A value with its type; vectors and matrices as the list of their components. -/
instance : Traced UniformValue where
  trace
    | .float v => trace ("float", v)
    | .int v => .list [.text "int", .int v.toInt]
    | .bool v => trace ("bool", v)
    | .vec2 v => trace ("vec2", v.toList)
    | .vec3 v => trace ("vec3", v.toList)
    | .vec4 v => trace ("vec4", v.toList)
    | .mat3 v => trace ("mat3", v.toList)
    | .mat4 v => trace ("mat4", v.toList)
    | .texture t => trace ("texture", t)

end ScreenEffects
