/-!
# Whole pixels

A length that was computed becomes a number of pixels: the nearest whole number, a half going away
from zero, and at least one. A length too large for 32 bits becomes the largest number, and what is
no number becomes one.
-/

namespace ScreenEffects

/-- The number of pixels nearest to `x`, and at least one. -/
def wholePixels (x : Float32) : UInt32 := max 1 x.round.toUInt32

theorem one_le_max_one (n : UInt32) : 1 ≤ max 1 n := by
  by_cases h : 1 ≤ n <;> simp [max, h]

theorem one_le_wholePixels (x : Float32) : 1 ≤ wholePixels x := one_le_max_one _

end ScreenEffects
