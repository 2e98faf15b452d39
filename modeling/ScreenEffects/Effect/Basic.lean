import ScreenEffects.Blend.Mode
import ScreenEffects.Effect.Attributes
import ScreenEffects.Effect.Extension

/-!
# Effects

An effect is a contribution to a shader: a fragment body, perhaps a vertex body, macros, uniforms,
needs, and the way it is laid over what lies below. It is a plain description; what an effect does
from frame to frame is in `Effect/Hosted.lean`.
-/

namespace ScreenEffects

structure Effect where
  name : String
  fragment : String
  vertex : Option String := none
  defines : DefineMap := ∅
  uniforms : UniformMap := ∅
  extensions : ExtensionSet := ∅
  attributes : Attributes := .none
  blend : BlendMode

namespace Effect

/-- The effect takes part in a merge. -/
def isActive (e : Effect) : Bool := e.blend.function != .skip

/-- The name that a macro's key declares: for a macro with parameters, what stands before them. -/
def macroName (key : String) : String :=
  .ofList (trimBlank (key.toList.takeWhile (· != '(')))

end Effect

end ScreenEffects
