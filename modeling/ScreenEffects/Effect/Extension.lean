import ScreenEffects.RankedSet

/-!
# Extensions of the shading language

The extensions an effect may need, with the name under which a setting asks for one and the name by
which a shader enables it.
-/

namespace ScreenEffects

inductive Extension
  | derivatives
  | fragmentDepth
  | drawBuffers
  | textureLod
  deriving DecidableEq

namespace Extension

/-- The place of an extension in a list of several. -/
def rank (e : Extension) : Nat := e.ctorIdx

def all : List Extension := [derivatives, fragmentDepth, drawBuffers, textureLod]

def name : Extension → String
  | derivatives => "derivatives"
  | fragmentDepth => "fragment-depth-write"
  | drawBuffers => "multiple-render-targets"
  | textureLod => "explicit-texture-lod"

/-- The name in a directive. -/
def directive : Extension → String
  | derivatives => "GL_OES_standard_derivatives"
  | fragmentDepth => "GL_EXT_frag_depth"
  | drawBuffers => "GL_EXT_draw_buffers"
  | textureLod => "GL_EXT_shader_texture_lod"

/-- The extension under a name. -/
def ofName? (text : String) : Option Extension := all.find? (·.name == text)

theorem rank_injective (a b : Extension) (h : a.rank = b.rank) : a = b := by
  cases a <;> cases b <;> first | rfl | exact absurd h (by decide)

end Extension

/-- A set of extensions, listed in the order of the catalogue. -/
abbrev ExtensionSet := RankedSet Extension Extension.rank

end ScreenEffects
