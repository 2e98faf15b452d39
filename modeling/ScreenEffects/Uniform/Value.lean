import ScreenEffects.Device.Handle

/-!
# Uniform values

The values a shader reads as uniforms, with their size in a buffer and their reading as a float.
Vectors and matrices are arrays of components, matrices column after column. A texture is bound
apart from the buffer, so it takes no bytes there.
-/

namespace ScreenEffects

/-- The value of a uniform. -/
inductive UniformValue
  | float (v : Float32)
  | int (v : Int32)
  | bool (v : Bool)
  | vec2 (v : Vector Float32 2)
  | vec3 (v : Vector Float32 3)
  | vec4 (v : Vector Float32 4)
  | mat3 (v : Vector Float32 9)
  | mat4 (v : Vector Float32 16)
  | texture (t : Option Texture)

/-- The four bytes of a word, the lowest first. -/
def wordBytes (w : UInt32) : List UInt8 :=
  [w.toUInt8, (w >>> 8).toUInt8, (w >>> 16).toUInt8, (w >>> 24).toUInt8]

/-- The bytes of a row of floats. -/
def floatBytes (fs : List Float32) : List UInt8 := fs.flatMap fun f => wordBytes f.toBits

namespace UniformValue

instance : Inhabited UniformValue := ⟨.float 0⟩

/-- The type in a shader declaration. -/
def shaderType : UniformValue → String
  | .float _ => "float"
  | .int _ => "int"
  | .bool _ => "bool"
  | .vec2 _ => "vec2"
  | .vec3 _ => "vec3"
  | .vec4 _ => "vec4"
  | .mat3 _ => "mat3"
  | .mat4 _ => "mat4"
  | .texture _ => "sampler2D"

/-- The bytes of the value in a uniform buffer. -/
def bytes : UniformValue → List UInt8
  | .float v => floatBytes [v]
  | .int v => wordBytes v.toUInt32
  | .bool v => wordBytes (if v then 1 else 0)
  | .vec2 v => floatBytes v.toList
  | .vec3 v => floatBytes v.toList
  | .vec4 v => floatBytes v.toList
  | .mat3 v => floatBytes v.toList
  | .mat4 v => floatBytes v.toList
  | .texture _ => []

/-- The value as a float; what is no scalar reads as zero. -/
def asFloat : UniformValue → Float32
  | .float v => v
  | .int v => v.toFloat32
  | .bool v => if v then 1 else 0
  | _ => 0

/-- The texture bound to the uniform, if it is a sampler with one. -/
def asTexture : UniformValue → Option Texture
  | .texture t => t
  | _ => none

theorem eq_texture_of_shaderType {v : UniformValue} (h : v.shaderType = "sampler2D") :
    v = .texture v.asTexture := by
  cases v with
  | texture t => rfl
  | _ => exact absurd h (by simp [shaderType])

theorem length_floatBytes (fs : List Float32) : (floatBytes fs).length = 4 * fs.length := by
  induction fs with
  | nil => rfl
  | cons f fs ih =>
    simp only [floatBytes, List.flatMap_cons, List.length_append, List.length_cons] at ih ⊢
    rw [ih]
    simp only [wordBytes, List.length_cons, List.length_nil]
    omega

end UniformValue

end ScreenEffects
