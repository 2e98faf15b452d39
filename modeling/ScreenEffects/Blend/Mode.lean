import ScreenEffects.Blend.Function
import ScreenEffects.Uniform.Store

/-!
# Blend modes

A blend function together with its opacity. The opacity is a shared uniform, so it can be animated
without a new merge.
-/

namespace ScreenEffects

/-- How an effect is laid over what lies below it. -/
structure BlendMode where
  function : BlendFunction
  opacity : Uniform
  deriving DecidableEq

/-- A blend mode with an opacity of its own. -/
def BlendMode.create (function : BlendFunction) (opacity : Float32) (s : UniformStore) :
    BlendMode × UniformStore :=
  let (u, s) := s.alloc (.float opacity)
  (⟨function, u⟩, s)

end ScreenEffects
