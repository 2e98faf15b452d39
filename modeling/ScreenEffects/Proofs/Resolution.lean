import Mathlib
import ScreenEffects.Resolution

/-!
# Generations

Who works at the size of a resolution keeps its generation, and looks at the size again when the
generation is another. That is safe: two states of a run with different sizes have different
generations. It is not as sparing as it could be. A call that stores nothing new leaves the count
alone, but for one: a preferred side of no pixels is stored as one pixel, and where that is stored
already, asking for it again counts all the same (`Call.IsCountedIdle`), for what is asked for is
compared before it is raised.

* `Call.apply_cases` : what one call does.
* `generation_tells_changes` : what the generation tells, in any run.
* `repeated_call_counts` : a call that changes nothing, and counts.
-/

namespace ScreenEffects.Resolution

/-! ## Calls -/

/-- A call of a setter. A preferred size is set by two of them. -/
inductive Call
  | baseSize (width height : UInt32)
  | scale (share : Float32)
  | preferredWidth (side : Option UInt32)
  | preferredHeight (side : Option UInt32)

namespace Call

def apply : Call → Resolution → Resolution
  | baseSize width height, r => r.setBaseSize width height
  | scale share, r => r.setScale share
  | preferredWidth side, r => r.setPreferredWidth side
  | preferredHeight side, r => r.setPreferredHeight side

/-- The call asks for a preferred side of no pixels. -/
def AsksForNothing : Call → Prop
  | preferredWidth side | preferredHeight side => side = some 0
  | _ => False

/-- The call asks for a preferred side of no pixels, and the side has one pixel already. -/
def IsCountedIdle (r : Resolution) : Call → Prop
  | preferredWidth side => side = some 0 ∧ r.preferredWidth = some 1
  | preferredHeight side => side = some 0 ∧ r.preferredHeight = some 1
  | _ => False

end Call

/-- What the setters store: all but the count. -/
def settings (r : Resolution) : Resolution := { r with generation := 0 }

/-! ## One call -/

/-- A share of the base is a number, and so equal to itself. -/
theorem soundScale_ne_nan (share : Float32) : soundScale share ≠ Float32.nan := by
  unfold soundScale
  split
  · rename_i sound
    rintro rfl
    exact absurd sound (by decide)
  · decide

theorem soundScale_bne_self (share : Float32) : (soundScale share != soundScale share) = false := by
  rw [Float32.bne_eq, Float32.beq_self_iff.2 (soundScale_ne_nan share)]
  rfl

theorem one_le_of_ne_zero {n : UInt32} (h : n ≠ 0) : 1 ≤ n := by
  rw [UInt32.le_iff_toNat_le]
  exact Nat.one_le_iff_ne_zero.2 fun zero => h (UInt32.toNat_inj.1 zero)

/-- A side is stored as it is asked for, unless it has no pixels. -/
theorem map_max_one {side : Option UInt32} (h : side ≠ some 0) : side.map (max 1) = side := by
  cases side with
  | none => rfl
  | some n => exact congrArg some (if_pos (one_le_of_ne_zero fun zero => h (congrArg some zero)))

/-- What is stored of a side other than the stored one is new, unless one pixel is stored and none
asked for. -/
theorem map_max_one_eq_iff {side stored : Option UInt32} (other : side ≠ stored) :
    side.map (max 1) = stored ↔ side = some 0 ∧ stored = some 1 := by
  by_cases zero : side = some 0
  · subst zero
    exact ⟨fun h => ⟨rfl, h.symm⟩, fun h => h.2.symm⟩
  · rw [map_max_one zero]
    exact ⟨fun h => absurd h other, fun h => absurd h.1 zero⟩

/-- **A call** leaves everything as it is, or it counts. If it counts, it has stored something new,
unless it is a call that is counted although it is idle. -/
theorem Call.apply_cases (c : Call) (r : Resolution) :
    c.apply r = r ∨
      (c.apply r).generation = r.generation + 1 ∧
        ((c.apply r).settings = r.settings ↔ c.IsCountedIdle r) := by
  cases c with
  | baseSize width height =>
    simp only [apply, setBaseSize]
    split
    · exact .inl rfl
    · rename_i other
      refine .inr ⟨rfl, fun same => other ?_, False.elim⟩
      exact ⟨congrArg baseWidth same, congrArg baseHeight same⟩
  | scale share =>
    simp only [apply, setScale]
    split
    · rename_i other
      refine .inr ⟨rfl, fun same => ?_, False.elim⟩
      have stored : soundScale share = r.scale := congrArg Resolution.scale same
      rw [← stored, soundScale_bne_self] at other
      exact absurd other Bool.false_ne_true
    · exact .inl rfl
  | preferredWidth side =>
    simp only [apply, setPreferredWidth]
    split
    · exact .inl rfl
    · rename_i other
      refine .inr ⟨rfl, fun same => ?_, fun idle => ?_⟩
      · exact (map_max_one_eq_iff other).1 (congrArg Resolution.preferredWidth same)
      · simp only [settings, (map_max_one_eq_iff other).2 idle]
  | preferredHeight side =>
    simp only [apply, setPreferredHeight]
    split
    · exact .inl rfl
    · rename_i other
      refine .inr ⟨rfl, fun same => ?_, fun idle => ?_⟩
      · exact (map_max_one_eq_iff other).1 (congrArg Resolution.preferredHeight same)
      · simp only [settings, (map_max_one_eq_iff other).2 idle]

theorem Call.apply_of_isCountedIdle {r : Resolution} (c : Call) (h : c.IsCountedIdle r) :
    (c.apply r).settings = r.settings ∧ (c.apply r).generation = r.generation + 1 := by
  have counted : (c.apply r).generation = r.generation + 1 := by
    cases c with
    | preferredWidth side =>
      obtain ⟨rfl, stored⟩ := h
      simp [apply, setPreferredWidth, stored]
    | preferredHeight side =>
      obtain ⟨rfl, stored⟩ := h
      simp [apply, setPreferredHeight, stored]
    | baseSize | scale => exact h.elim
  rcases c.apply_cases r with same | ⟨-, idle⟩
  · rw [same] at counted
    exact absurd counted (Nat.lt_succ_self _).ne
  · exact ⟨idle.2 h, counted⟩

/-- A repeated call is idle. -/
theorem Call.apply_apply {c : Call} (some : ¬ c.AsksForNothing) (r : Resolution) :
    c.apply (c.apply r) = c.apply r := by
  cases c with
  | baseSize width height =>
    simp only [apply, setBaseSize]
    split <;> simp_all
  | scale share =>
    simp only [apply, setScale]
    split
    · rw [soundScale_bne_self, if_neg Bool.false_ne_true]
    · rfl
  | preferredWidth side =>
    simp only [apply, setPreferredWidth, map_max_one some]
    split <;> simp_all
  | preferredHeight side =>
    simp only [apply, setPreferredHeight, map_max_one some]
    split <;> simp_all

/-! ## Runs -/

/-- The resolution after calls, one after the other. -/
def run (calls : List Call) (r : Resolution) : Resolution := calls.foldl (fun r c => c.apply r) r

example (r : Resolution) (width height : Option UInt32) :
    r.setPreferredSize width height = run [.preferredWidth width, .preferredHeight height] r := rfl

/-- A resolution as it is made: a share of the base, perhaps with preferred sides. -/
def IsNew (r : Resolution) : Prop :=
  ∃ share, r = ofScale share ∨ ∃ width height, r = (ofScale share).withPreferredSize width height

/-- The preferred sides have pixels. -/
structure PrefersPixels (r : Resolution) : Prop where
  width : ∀ n ∈ r.preferredWidth, 1 ≤ n
  height : ∀ n ∈ r.preferredHeight, 1 ≤ n

theorem one_le_of_mem_ofSetting {side : Int32} : ∀ n ∈ ofSetting side, 1 ≤ n := by
  unfold ofSetting
  split
  · rename_i positive
    rintro n ⟨⟩
    refine one_le_of_ne_zero fun zero => ?_
    have none : side = 0 := congrArg Int32.ofUInt32 zero
    subst none
    exact absurd positive (by decide)
  · rintro n ⟨⟩

theorem one_le_of_mem_map {side : Option UInt32} : ∀ n ∈ side.map (max 1), 1 ≤ n := by
  cases side with
  | none => rintro n ⟨⟩
  | some m =>
    rintro n ⟨⟩
    exact one_le_max_one m

theorem IsNew.prefersPixels {r : Resolution} (made : r.IsNew) : r.PrefersPixels := by
  obtain ⟨share, rfl | ⟨width, height, rfl⟩⟩ := made
  · exact ⟨fun _ none => (nomatch none), fun _ none => (nomatch none)⟩
  · exact ⟨one_le_of_mem_ofSetting, one_le_of_mem_ofSetting⟩

theorem PrefersPixels.apply {r : Resolution} (h : r.PrefersPixels) (c : Call) :
    (c.apply r).PrefersPixels := by
  cases c with
  | baseSize width height =>
    simp only [Call.apply, setBaseSize]
    split
    · exact h
    · exact ⟨h.width, h.height⟩
  | scale share =>
    simp only [Call.apply, setScale]
    split
    · exact ⟨h.width, h.height⟩
    · exact h
  | preferredWidth side =>
    simp only [Call.apply, setPreferredWidth]
    split
    · exact h
    · exact ⟨one_le_of_mem_map, h.height⟩
  | preferredHeight side =>
    simp only [Call.apply, setPreferredHeight]
    split
    · exact h
    · exact ⟨h.width, one_le_of_mem_map⟩

theorem PrefersPixels.run {r : Resolution} (h : r.PrefersPixels) (calls : List Call) :
    (run calls r).PrefersPixels := by
  induction calls generalizing r with
  | nil => exact h
  | cons c calls ih => exact ih (h.apply c)

/-- A side of no pixels that was asked for is counted again when it is asked for again. -/
theorem isCountedIdle_apply {r : Resolution} (h : r.PrefersPixels) {c : Call}
    (none : c.AsksForNothing) : c.IsCountedIdle (c.apply r) := by
  have stored {side : Option UInt32} (pixels : ∀ n ∈ side, 1 ≤ n) : ¬ some 0 = side := by
    rintro rfl
    exact absurd (pixels 0 rfl) (by decide)
  cases c with
  | preferredWidth side =>
    subst none
    simp only [Call.apply, setPreferredWidth, if_neg (stored h.width)]
    exact ⟨rfl, rfl⟩
  | preferredHeight side =>
    subst none
    simp only [Call.apply, setPreferredHeight, if_neg (stored h.height)]
    exact ⟨rfl, rfl⟩
  | baseSize | scale => exact none.elim

/-- In a run the generation never falls, and as long as it stays, so does the whole resolution. -/
theorem run_cases (calls : List Call) (r : Resolution) :
    run calls r = r ∨ r.generation < (run calls r).generation := by
  induction calls generalizing r with
  | nil => exact .inl rfl
  | cons c calls ih =>
    have later := ih (c.apply r)
    rcases c.apply_cases r with idle | ⟨counted, -⟩
    · rw [idle] at later
      rwa [run, List.foldl_cons, idle]
    · refine .inr ?_
      rcases later with stays | rises
      · rw [run, List.foldl_cons, ← run, stays, counted]
        exact Nat.lt_succ_self _
      · rw [counted] at rises
        exact Nat.lt_of_succ_lt rises

/-- **The generation tells the changes.** After any calls of a new resolution, with any arguments: a
call that stores something new is counted once; a call that stores nothing new leaves everything as
it is, unless it asks for a preferred side of no pixels where one pixel is stored, and then it is
counted too. A call that is repeated does nothing, unless it asks for such a side, and then it is
counted once more. States of the run with different sizes have different generations, and a size has
pixels on both sides. -/
theorem generation_tells_changes {start : Resolution} (made : start.IsNew) (calls : List Call) :
    let r := run calls start
    (∀ c : Call, ((c.apply r).settings ≠ r.settings ∨ c.IsCountedIdle r →
        (c.apply r).generation = r.generation + 1) ∧
      ((c.apply r).settings = r.settings → ¬ c.IsCountedIdle r → c.apply r = r) ∧
      (¬ c.AsksForNothing → c.apply (c.apply r) = c.apply r) ∧
      (c.AsksForNothing → (c.apply (c.apply r)).settings = (c.apply r).settings ∧
        (c.apply (c.apply r)).generation = (c.apply r).generation + 1)) ∧
      (∀ more, (run more r).size ≠ r.size → r.generation < (run more r).generation) ∧
      1 ≤ r.width ∧ 1 ≤ r.height := by
  intro r
  have pixels : r.PrefersPixels := made.prefersPixels.run calls
  refine ⟨fun c => ⟨?counts, ?idle, fun some => Call.apply_apply some r, fun none => ?again⟩,
    fun more other => ?sizes, one_le_width pixels.width, one_le_height pixels.height⟩
  case counts =>
    rintro (new | idle)
    · rcases c.apply_cases r with same | ⟨counted, -⟩
      · exact absurd (congrArg settings same) new
      · exact counted
    · exact (c.apply_of_isCountedIdle idle).2
  case idle =>
    intro same notIdle
    rcases c.apply_cases r with same' | ⟨-, idle⟩
    · exact same'
    · exact absurd (idle.1 same) notIdle
  case again => exact c.apply_of_isCountedIdle (isCountedIdle_apply pixels none)
  case sizes =>
    rcases run_cases more r with same | rises
    · exact absurd (congrArg size same) other
    · exact rises

/-- Preferred sides that are raised to one pixel and asked for again, and shares without sense. -/
theorem generation_tells_zeroSides :
    let start := (ofScale 0.5).withPreferredSize (-1) 480
    let calls : List Call := [.baseSize 1600 0, .scale (-3), .preferredWidth (some 0),
      .preferredHeight (some 0), .preferredWidth (some 0), .scale (0 / 0)]
    start.IsNew ∧
      (run calls start).generation = 5 ∧
      (Call.IsCountedIdle (run calls start) (.preferredWidth (some 0)) ∧
        ((Call.preferredWidth (some 0)).apply (run calls start)).generation = 6) ∧
      ((run [.preferredWidth (some 7)] (run calls start)).size ≠ (run calls start).size ∧
        (run calls start).generation < (run [.preferredWidth (some 7)] (run calls start)).generation) ∧
      1 ≤ (run calls start).width := by
  intro start calls
  have made : start.IsNew := ⟨0.5, .inr ⟨-1, 480, rfl⟩⟩
  obtain ⟨each, sizes, pixels, -⟩ := generation_tells_changes made calls
  have counted : (run calls start).generation = 5 := by decide +kernel
  have idle : Call.IsCountedIdle (run calls start) (.preferredWidth (some 0)) :=
    ⟨rfl, by decide +kernel⟩
  have other : (run [.preferredWidth (some 7)] (run calls start)).size ≠ (run calls start).size := by
    decide +kernel
  exact ⟨made, counted, ⟨idle, ((each _).1 (.inr idle)).trans (congrArg (· + 1) counted)⟩,
    ⟨other, sizes _ other⟩, pixels⟩

/-- **A call that stores nothing is counted.** To prefer a width of no pixels is to prefer one pixel.
Whoever asks for it again changes nothing, and the generation goes up all the same. -/
theorem repeated_call_counts :
    let c := Call.preferredWidth (some 0)
    let r := c.apply {}
    (c.apply r).settings = r.settings ∧ (c.apply r).generation = r.generation + 1 ∧
      c.apply r ≠ r := by
  intro c r
  exact ⟨rfl, by decide, fun same => absurd (congrArg generation same) (by decide)⟩

end ScreenEffects.Resolution
