/-!
# Blank characters

The blanks of Unicode (the property `White_Space`), and trimming by them. Shader sections, macro
names and the names of blend functions are trimmed of every blank, not only of the ASCII ones; the
declaration scan skips the same characters between words.

* `trimBlank` removes blanks at both ends and nothing else.
-/

namespace ScreenEffects

/-- A character with the property `White_Space`. -/
def isBlank (c : Char) : Bool :=
  let n := c.toNat
  (9 ≤ n && n ≤ 13) || n == 32 || n == 0x85 || n == 0xA0 || n == 0x1680 ||
    (0x2000 ≤ n && n ≤ 0x200A) || n == 0x2028 || n == 0x2029 || n == 0x202F || n == 0x205F ||
    n == 0x3000

/-- The characters left when the blanks at both ends are dropped. -/
def trimBlank (s : List Char) : List Char :=
  ((s.dropWhile isBlank).reverse.dropWhile isBlank).reverse

/-- A text without the blanks at its ends. -/
def trimText (s : String) : String := .ofList (trimBlank s.toList)

theorem isBlank_of_isWhitespace {c : Char} (h : c.isWhitespace) : isBlank c := by
  simp only [Char.isWhitespace, Bool.or_eq_true, decide_eq_true_eq] at h
  rcases h with ((rfl | rfl) | rfl) | rfl <;> decide

theorem trimBlank_nil : trimBlank [] = [] := rfl

end ScreenEffects
