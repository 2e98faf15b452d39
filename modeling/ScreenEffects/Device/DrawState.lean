import ScreenEffects.Blend.Colour

/-!
# Draw state

The settings a device keeps between draws: the stencil test and the buffers that accept writes; and
what a clear does.
-/

namespace ScreenEffects

inductive StencilTest
  | always
  | equal
  | notEqual
  deriving DecidableEq

inductive StencilOp
  | keep
  | replace
  deriving DecidableEq

/-- A stencil setting. -/
structure Stencil where
  enabled : Bool
  test : StencilTest
  reference : UInt32
  mask : UInt32
  onFail : StencilOp
  onDepthFail : StencilOp
  onPass : StencilOp
  /-- A locked stencil buffer ignores writes. -/
  locked : Bool
  deriving DecidableEq

namespace Stencil

/-- No stencil test. -/
def disabled : Stencil := ⟨false, .always, 0, 0xFFFFFFFF, .keep, .keep, .keep, false⟩

/-- Every fragment writes `value`. -/
def write (value : UInt32) : Stencil :=
  ⟨true, .always, value, 0xFFFFFFFF, .replace, .replace, .replace, false⟩

/-- Fragments are compared with `value`, and none writes. -/
def compare (test : StencilTest) (value : UInt32) : Stencil :=
  { disabled with enabled := true, test, reference := value, locked := true }

instance : Inhabited Stencil := ⟨disabled⟩

end Stencil

/-- The buffers that accept writes. -/
structure WriteMask where
  color : Bool
  depth : Bool
  deriving DecidableEq

def WriteMask.all : WriteMask := ⟨true, true⟩

def WriteMask.none : WriteMask := ⟨false, false⟩

/-- The buffers a clear touches. -/
structure ClearFlags where
  color : Bool := false
  depth : Bool := false
  stencil : Bool := false
  deriving DecidableEq

def ClearFlags.all : ClearFlags := ⟨true, true, true⟩

def ClearFlags.any (f : ClearFlags) : Bool := f.color || f.depth || f.stencil

/-- The values a clear writes. -/
structure ClearValues where
  color : Colour Float32 := ⟨0, 0, 0, 0⟩
  depth : Float32 := 1
  stencil : UInt32 := 0

end ScreenEffects
