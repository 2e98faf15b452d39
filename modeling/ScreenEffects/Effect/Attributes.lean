/-!
# Attributes and extensions

What an effect asks for beyond its text: the depth of the scene, the neighbours of a texel (a
convolution), and extensions of the shading language.

* `contains_none` : no set of attributes contains the empty one. A question for nothing is answered
  with no.
-/

namespace ScreenEffects

/-- Special needs of an effect. -/
structure Attributes where
  /-- The effect reads the depth of the scene. -/
  depth : Bool := false
  /-- The effect samples texels next to its own. -/
  convolution : Bool := false
  deriving DecidableEq, Inhabited

namespace Attributes

def none : Attributes := {}

def ofDepth : Attributes := ⟨true, false⟩

def ofConvolution : Attributes := ⟨false, true⟩

/-- The attributes as bits: depth is 1, convolution is 2. -/
def bits (a : Attributes) : Nat := a.depth.toNat + 2 * a.convolution.toNat

/-- What either asks for. -/
def union (a b : Attributes) : Attributes := ⟨a.depth || b.depth, a.convolution || b.convolution⟩

/-- What both ask for. -/
def inter (a b : Attributes) : Attributes := ⟨a.depth && b.depth, a.convolution && b.convolution⟩

def isEmpty (a : Attributes) : Bool := !a.depth && !a.convolution

/-- Every attribute of `b` is one of `a`, and `b` has some. -/
def contains (a b : Attributes) : Bool := !b.isEmpty && a.inter b == b

/-- The attribute under a name. -/
def ofName? : String → Option Attributes
  | "depth" => some ofDepth
  | "convolution" => some ofConvolution
  | _ => .none

/-- What some of the listed attributes ask for. -/
def unions (l : List Attributes) : Attributes := l.foldl union none

theorem contains_none (a : Attributes) : a.contains none = false := rfl

theorem contains_ofDepth (a : Attributes) : a.contains ofDepth = a.depth := by
  rcases a with ⟨_ | _, _ | _⟩ <;> rfl

theorem contains_ofConvolution (a : Attributes) : a.contains ofConvolution = a.convolution := by
  rcases a with ⟨_ | _, _ | _⟩ <;> rfl

end Attributes

end ScreenEffects
