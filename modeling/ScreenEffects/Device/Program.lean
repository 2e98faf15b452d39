import ScreenEffects.Effect.Extension
import ScreenEffects.Uniform.Store

/-!
# Shader programs

A program to be drawn over the whole screen: its two bodies, the macros and extensions it needs, and
the uniforms bound to it. The source handed to a device has the directives of the extensions and the
macros before the body; a vertex source has no extensions.
-/

namespace ScreenEffects

structure ShaderProgram where
  label : String := ""
  vertex : String := ""
  fragment : String := ""
  defines : DefineMap := ∅
  uniforms : UniformMap := ∅
  extensions : ExtensionSet := ∅

namespace ShaderProgram

instance : Inhabited ShaderProgram := ⟨{}⟩

/-- The lines that enable extensions. -/
def extensionLines (es : ExtensionSet) : String :=
  String.join (es.toList.map fun e => "#extension " ++ e.directive ++ " : enable\n")

/-- The lines that define macros. -/
def defineLines (ds : DefineMap) : String :=
  String.join (ds.entries.map fun (name, value) => "#define " ++ name ++ " " ++ value ++ "\n")

/-- Lines before a body, set off by an empty line if there are any. -/
def setOff (lines : String) : String := if lines.isEmpty then "" else lines ++ "\n"

def fragmentSource (p : ShaderProgram) : String :=
  setOff (extensionLines p.extensions ++ defineLines p.defines) ++ p.fragment

def vertexSource (p : ShaderProgram) : String := setOff (defineLines p.defines) ++ p.vertex

/-- The bytes of the uniforms bound to the program. -/
def uniformBytes (p : ShaderProgram) (s : UniformStore) : Nat :=
  (p.uniforms.values.flatMap fun u => (s.get u).bytes).length

end ShaderProgram

end ScreenEffects
