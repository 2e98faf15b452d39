import ScreenEffects.Pixels

/-!
# Resolutions

A pass may work at a size of its own: a preferred width or height, or a share of the base size. If
one side is preferred, the other follows the proportions of the base. A counter, the generation,
tells a user when the size may have changed.

* `one_le_width`, `one_le_height` : a side is at least one pixel, as long as the preferred sides are.
-/

namespace ScreenEffects

/-- The size of a pass, as a rule on the base size. -/
structure Resolution where
  baseWidth : UInt32 := 1
  baseHeight : UInt32 := 1
  preferredWidth : Option UInt32 := none
  preferredHeight : Option UInt32 := none
  scale : Float32 := 1
  /-- Goes up by one when a setting changes. -/
  generation : Nat := 0

namespace Resolution

instance : Inhabited Resolution := ⟨{}⟩

/-- A share of the base size must be finite and positive; any other stands for the whole. -/
def soundScale (scale : Float32) : Float32 := if scale.isFinite && 0 < scale then scale else 1

/-- The given share of the base size. -/
def ofScale (scale : Float32) : Resolution := { scale := soundScale scale }

/-- A side as settings write it: zero or less stands for none. -/
def ofSetting (side : Int32) : Option UInt32 := if 0 < side then some side.toUInt32 else none

/-- The resolution with preferred sides as settings write them. -/
def withPreferredSize (r : Resolution) (width height : Int32) : Resolution :=
  { r with preferredWidth := ofSetting width, preferredHeight := ofSetting height }

/-! ## Changes -/

def setBaseSize (r : Resolution) (width height : UInt32) : Resolution :=
  let width := max 1 width
  let height := max 1 height
  if width = r.baseWidth ∧ height = r.baseHeight then r
  else { r with baseWidth := width, baseHeight := height, generation := r.generation + 1 }

def setScale (r : Resolution) (scale : Float32) : Resolution :=
  if soundScale scale != r.scale then
    { r with scale := soundScale scale, generation := r.generation + 1 }
  else r

/-- Prefer a width, or none. The setting asked for is compared with the one there is before it is
raised to one pixel. -/
def setPreferredWidth (r : Resolution) (width : Option UInt32) : Resolution :=
  if width = r.preferredWidth then r
  else { r with preferredWidth := width.map (max 1), generation := r.generation + 1 }

/-- Prefer a height, or none. -/
def setPreferredHeight (r : Resolution) (height : Option UInt32) : Resolution :=
  if height = r.preferredHeight then r
  else { r with preferredHeight := height.map (max 1), generation := r.generation + 1 }

def setPreferredSize (r : Resolution) (width height : Option UInt32) : Resolution :=
  (r.setPreferredWidth width).setPreferredHeight height

/-! ## The size -/

/-- Width by height of the base. -/
def aspect (r : Resolution) : Float32 := r.baseWidth.toFloat32 / r.baseHeight.toFloat32

def width (r : Resolution) : UInt32 :=
  match r.preferredWidth, r.preferredHeight with
  | some w, _ => w
  | none, some h => wholePixels (h.toFloat32 * r.aspect)
  | none, none => wholePixels (r.baseWidth.toFloat32 * r.scale)

def height (r : Resolution) : UInt32 :=
  match r.preferredWidth, r.preferredHeight with
  | _, some h => h
  | some w, none => wholePixels (w.toFloat32 / r.aspect)
  | none, none => wholePixels (r.baseHeight.toFloat32 * r.scale)

def size (r : Resolution) : UInt32 × UInt32 := (r.width, r.height)

theorem one_le_width {r : Resolution} (h : ∀ w ∈ r.preferredWidth, 1 ≤ w) : 1 ≤ r.width := by
  unfold width
  split
  · exact h _ (by simp [*])
  · exact one_le_wholePixels _
  · exact one_le_wholePixels _

theorem one_le_height {r : Resolution} (h : ∀ w ∈ r.preferredHeight, 1 ≤ w) : 1 ≤ r.height := by
  unfold height
  split
  · exact h _ (by simp [*])
  · exact one_le_wholePixels _
  · exact one_le_wholePixels _

end Resolution

end ScreenEffects
