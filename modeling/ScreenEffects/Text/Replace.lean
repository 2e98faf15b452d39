/-!
# Replacement of a pattern

`replaceAll p r s` writes `r` in place of the occurrences of `p` in `s`, found from left to right
and never overlapping. What is written is not searched again. The empty pattern occurs before every
character and at the end.

* `replaceAll_of_not_mem` leaves a text alone in which the pattern's first character is missing.
-/

namespace ScreenEffects

/-- Replace the occurrences of the nonempty pattern `p`, after dropping the `skip` characters that
are left of an occurrence already replaced. -/
def replaceFrom (p r : List Char) : Nat → List Char → List Char
  | _, [] => []
  | 0, c :: s =>
    if p.isPrefixOf (c :: s) then r ++ replaceFrom p r (p.length - 1) s
    else c :: replaceFrom p r 0 s
  | skip + 1, _ :: s => replaceFrom p r skip s

/-- Every occurrence of `p` in `s` replaced by `r`. -/
def replaceAll (p r s : List Char) : List Char :=
  if p.isEmpty then r ++ s.flatMap fun c => c :: r else replaceFrom p r 0 s

/-- Every occurrence of the text `p` in `s` replaced by `r`. -/
def replaceText (p r s : String) : String := .ofList (replaceAll p.toList r.toList s.toList)

theorem replaceAll_of_not_mem {c : Char} {p r s : List Char} (h : c ∉ s) :
    replaceAll (c :: p) r s = s := by
  have step : replaceFrom (c :: p) r 0 s = s := by
    induction s with
    | nil => rfl
    | cons a s ih =>
      obtain ⟨ha, hs⟩ : c ≠ a ∧ c ∉ s := by simpa using h
      simp [replaceFrom, ha, ih hs]
  simpa [replaceAll] using step

end ScreenEffects
