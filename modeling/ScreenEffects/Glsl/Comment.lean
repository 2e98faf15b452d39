/-!
# Removing comments

Before its declarations are read, a text loses its comments: first every closed block comment
becomes a space, then every line comment is dropped up to the end of its line. A block comment that
is never closed is no comment for this reading and stays.

* `withoutBlocks_of_not_mem` : a text without a slash is left alone.
-/

namespace ScreenEffects.Glsl

/-- The text after the first end of a block comment. -/
def afterBlock? : List Char → Option (List Char)
  | [] => none
  | c :: s => if c = '*' ∧ s.head? = some '/' then some s.tail else afterBlock? s

theorem length_afterBlock? {s r : List Char} (h : afterBlock? s = some r) :
    r.length < s.length := by
  induction s with
  | nil => simp [afterBlock?] at h
  | cons c s ih =>
    simp only [afterBlock?] at h
    split at h
    · simp only [Option.some.injEq] at h
      subst h
      simp only [List.length_tail, List.length_cons]
      omega
    · have := ih h
      simp only [List.length_cons]
      omega

/-- The text with a space for every closed block comment. -/
def withoutBlocks : List Char → List Char
  | [] => []
  | c :: s =>
    if c = '/' ∧ s.head? = some '*' then
      match h : afterBlock? s.tail with
      | some r =>
        have := length_afterBlock? h
        ' ' :: withoutBlocks r
      | none => c :: s
    else c :: withoutBlocks s
termination_by s => s.length
decreasing_by
  · simp only [List.length_tail, List.length_cons] at this ⊢
    omega
  · simp

/-- The text without what follows two slashes on a line. -/
def withoutLines : List Char → List Char
  | [] => []
  | c :: s =>
    if c = '/' ∧ s.head? = some '/' then withoutLines (s.dropWhile (· != '\n'))
    else c :: withoutLines s
termination_by s => s.length
decreasing_by
  · exact Nat.lt_succ_of_le (List.dropWhile_sublist _).length_le
  · simp

/-- The text without comments. -/
def uncommented (s : List Char) : List Char := withoutLines (withoutBlocks s)

/-- The text without comments. -/
def stripComments (source : String) : String := .ofList (uncommented source.toList)

theorem withoutBlocks_of_not_mem {s : List Char} (h : '/' ∉ s) : withoutBlocks s = s := by
  induction s with
  | nil => rw [withoutBlocks]
  | cons c s ih =>
    obtain ⟨hc, hs⟩ : '/' ≠ c ∧ '/' ∉ s := by simpa using h
    rw [withoutBlocks, if_neg (fun e => hc e.1.symm), ih hs]

end ScreenEffects.Glsl
