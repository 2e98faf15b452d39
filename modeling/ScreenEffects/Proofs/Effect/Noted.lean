import ScreenEffects.Effect.Hosted
import ScreenEffects.Proofs.Act

/-!
# Hooks that note their calls

To say what hooks are told, and when, any hooks are wrapped so that each call is noted before they do
what they do (`Noted`). The wrapped hooks are hooks again, and a pass runs them as it runs others: what
is proved of them is proved of the pass.

* `Memo` : what the hooks of one effect noted, in order.
* `Hosted.memo_prepare`, `Hosted.receives_setSize` and the like : what each call adds.
* `Hosted.Notes` : what holds of the memo of an effect, if it has hooks.
-/

namespace ScreenEffects

variable {K ω : Type}

/-- A call that hooks receive. -/
inductive HookCall
  | prepare (alpha : Bool) (precision : Precision)
  | update (input : Surface) (delta : Float32)
  | setSize (width height : UInt32)
  | setDepthTexture (texture : Option Texture) (packing : DepthPacking)
  | dispose

namespace HookCall

def isPrepare : HookCall → Bool
  | prepare _ _ => true
  | _ => false

def isUpdate : HookCall → Bool
  | update _ _ => true
  | _ => false

/-- The size that the call tells. -/
def size? : HookCall → Option (UInt32 × UInt32)
  | setSize width height => some (width, height)
  | _ => none

/-- The depth texture that the call tells, with its packing. -/
def depth? : HookCall → Option (Option Texture × DepthPacking)
  | setDepthTexture texture packing => some (texture, packing)
  | _ => none

end HookCall

/-! ## Memos -/

/-- What the hooks of an effect noted. -/
structure Memo where
  /-- The effect was given to its pass after the pass was set up. -/
  late : Bool := false
  /-- The calls so far, in order. -/
  calls : List HookCall := []

namespace Memo

/-- The memo with one more call. -/
def add (m : Memo) (call : HookCall) : Memo := { m with calls := m.calls ++ [call] }

def timesPrepared (m : Memo) : Nat := m.calls.countP (·.isPrepare)

def timesUpdated (m : Memo) : Nat := m.calls.countP (·.isUpdate)

/-- The size that was told last. -/
def size? (m : Memo) : Option (UInt32 × UInt32) := (m.calls.filterMap (·.size?)).getLast?

/-- The depth texture that was told last, with its packing. -/
def depth? (m : Memo) : Option (Option Texture × DepthPacking) :=
  (m.calls.filterMap (·.depth?)).getLast?

/-- No call came before the first that prepares. -/
def StartsPrepared (m : Memo) : Prop := ∀ call ∈ m.calls.head?, call.isPrepare = true

variable (m : Memo) (call : HookCall)

@[simp] theorem late_add : (m.add call).late = m.late := rfl

@[simp] theorem timesPrepared_add :
    (m.add call).timesPrepared = m.timesPrepared + if call.isPrepare then 1 else 0 := by
  rw [timesPrepared, add, List.countP_append, List.countP_singleton]
  rfl

@[simp] theorem timesUpdated_add :
    (m.add call).timesUpdated = m.timesUpdated + if call.isUpdate then 1 else 0 := by
  rw [timesUpdated, add, List.countP_append, List.countP_singleton]
  rfl

@[simp] theorem size?_add : (m.add call).size? = call.size?.or m.size? := by
  rw [size?, add, List.filterMap_append]
  cases h : call.size? <;> simp [h, size?]

@[simp] theorem depth?_add : (m.add call).depth? = call.depth?.or m.depth? := by
  rw [depth?, add, List.filterMap_append]
  cases h : call.depth? <;> simp [h, depth?]

theorem startsPrepared_add_of_nil {m : Memo} (h : m.calls = []) :
    (m.add call).StartsPrepared ↔ call.isPrepare = true := by
  simp [StartsPrepared, add, h]

theorem startsPrepared_add {m : Memo} (h : m.calls ≠ []) :
    (m.add call).StartsPrepared ↔ m.StartsPrepared := by
  obtain ⟨first, rest, h⟩ := List.exists_cons_of_ne_nil h
  simp [StartsPrepared, add, h]

end Memo

/-! ## The hooks -/

/-- Hooks with a memo of the calls they received. -/
structure Noted (K : Type) where
  hooks : K
  memo : Memo := {}

namespace Noted

/-- The hooks after a call. -/
def after (k : Noted K) (call : HookCall) (hooks : K) : Noted K := ⟨hooks, k.memo.add call⟩

instance [EffectHooks K ω] : EffectHooks (Noted K) ω where
  prepare k alpha precision s :=
    let (hooks, s) := EffectHooks.prepare k.hooks alpha precision s
    (k.after (.prepare alpha precision) hooks, s)
  update input delta uniforms :=
    (EffectHooks.update input delta uniforms).within (·.hooks) fun k => k.after (.update input delta)
  setSize k width height s :=
    let (hooks, s) := EffectHooks.setSize k.hooks width height s
    (k.after (.setSize width height) hooks, s)
  setDepthTexture k texture packing s :=
    let (hooks, s) := EffectHooks.setDepthTexture k.hooks texture packing s
    (k.after (.setDepthTexture texture packing) hooks, s)
  dispose k s :=
    let (hooks, s) := EffectHooks.dispose k.hooks s
    (k.after .dispose hooks, s)

end Noted

/-! ## Hosted effects -/

namespace Hosted

/-- The memo of an effect; effects without hooks have none. -/
def memo (h : Hosted (Noted K)) : Option Memo := h.hooks.map (·.memo)

/-- The memo of an effect, if it has one, is in `A`, which may ask whether the effect is prepared. -/
def Notes (A : Bool → Memo → Prop) (h : Hosted (Noted K)) : Prop := ∀ m ∈ h.memo, A h.prepared m

/-- The effect was never called; `late` tells when it is given to its pass. -/
def Unused (late : Bool) (h : Hosted (Noted K)) : Prop :=
  h.prepared = false ∧ ∀ m ∈ h.memo, m = { late }

variable {A B : Bool → Memo → Prop} {h : Hosted (Noted K)}

theorem Unused.notes {late : Bool} (hu : h.Unused late) (ha : A false { late }) : h.Notes A := by
  intro m hm
  rw [hu.1, hu.2 m hm]
  exact ha

theorem Notes.mono (hn : h.Notes A) (hAB : ∀ b m, A b m → B b m) : h.Notes B :=
  fun m hm => hAB _ m (hn m hm)

variable [EffectHooks K ω]

theorem memo_prepare (h : Hosted (Noted K)) (alpha : Bool) (precision : Precision) (s : Stage ω) :
    (h.prepare alpha precision s).1.memo =
      if h.prepared then h.memo else h.memo.map (·.add (.prepare alpha precision)) := by
  unfold prepare
  by_cases hp : h.prepared
  · rw [if_pos hp, if_pos hp]
  · rw [if_neg hp, if_neg hp]
    cases hk : h.hooks <;> simp [memo, hk, EffectHooks.prepare, Noted.after]

theorem prepared_prepare (h : Hosted (Noted K)) (alpha : Bool) (precision : Precision)
    (s : Stage ω) : (h.prepare alpha precision s).1.prepared = true := by
  unfold prepare
  split
  · assumption
  · split <;> rfl

/-- An effect is prepared once, and then it is left alone. -/
theorem Notes.prepare (hn : h.Notes A) {alpha : Bool} {precision : Precision}
    (done : ∀ m, A true m → B true m)
    (now : ∀ m, A false m → B true (m.add (.prepare alpha precision))) (s : Stage ω) :
    (h.prepare alpha precision s).1.Notes B := by
  intro m hm
  rw [prepared_prepare]
  rw [memo_prepare] at hm
  by_cases hp : h.prepared
  · rw [if_pos hp] at hm
    exact done m (hp ▸ hn m hm)
  · rw [if_neg hp] at hm
    obtain ⟨n, hn', rfl⟩ := Option.map_eq_some_iff.1 hm
    exact now n (Bool.eq_false_iff.2 hp ▸ hn n hn')

/-- From `h` to `h'` the effect received one call, and is otherwise what it was. -/
structure Receives (call : HookCall) (h h' : Hosted (Noted K)) : Prop where
  effect : h'.effect = h.effect
  prepared : h'.prepared = h.prepared
  memo : h'.memo = h.memo.map (·.add call)

theorem Receives.notes {call : HookCall} {h h' : Hosted (Noted K)} (r : h.Receives call h')
    (hn : h.Notes A) (hAB : ∀ b m, A b m → B b (m.add call)) : h'.Notes B := by
  intro m hm
  rw [r.memo] at hm
  obtain ⟨n, hn', rfl⟩ := Option.map_eq_some_iff.1 hm
  rw [r.prepared]
  exact hAB _ n (hn n hn')

/-- How often the effect did the work of a frame. -/
def timesUpdated (h : Hosted (Noted K)) : Nat := (h.memo.map (·.timesUpdated)).getD 0

theorem Receives.timesUpdated {call : HookCall} {h h' : Hosted (Noted K)} (r : h.Receives call h')
    (hc : call.isUpdate = false) : h'.timesUpdated = h.timesUpdated := by
  unfold Hosted.timesUpdated
  rw [r.memo]
  cases h.memo <;> simp [hc]

theorem timesUpdated_prepare (h : Hosted (Noted K)) (alpha : Bool) (precision : Precision)
    (s : Stage ω) : (h.prepare alpha precision s).1.timesUpdated = h.timesUpdated := by
  unfold timesUpdated
  rw [memo_prepare]
  split
  · rfl
  · cases h.memo <;> simp [HookCall.isUpdate]

theorem receives_setSize (h : Hosted (Noted K)) (width height : UInt32) (s : Shared ω) :
    h.Receives (.setSize width height) (h.setSize width height s).1 := by
  unfold setSize
  cases hk : h.hooks <;>
    exact ⟨rfl, rfl, by simp [memo, hk, EffectHooks.setSize, Noted.after]⟩

theorem receives_setDepthTexture (h : Hosted (Noted K)) (texture : Option Texture)
    (packing : DepthPacking) (s : Shared ω) :
    h.Receives (.setDepthTexture texture packing) (h.setDepthTexture texture packing s).1 := by
  unfold setDepthTexture
  cases hk : h.hooks <;>
    exact ⟨rfl, rfl, by simp [memo, hk, EffectHooks.setDepthTexture, Noted.after]⟩

theorem receives_dispose (h : Hosted (Noted K)) (s : Stage ω) :
    h.Receives .dispose (h.dispose s).1 := by
  unfold dispose
  cases hk : h.hooks <;>
    exact ⟨rfl, rfl, by simp [memo, hk, EffectHooks.dispose, Noted.after]⟩

theorem receives_update (h : Hosted (Noted K)) (input : Surface) (delta : Float32) (s : Stage ω) :
    h.Receives (.update input delta) ((update input delta).after (h, s)).1 := by
  unfold Act.after update
  cases hk : h.hooks with
  | none => exact ⟨by simp only [hk], by simp only [hk], by simp [memo, hk]⟩
  | some k =>
    simp only [hk, EffectHooks.update, Act.within]
    cases EffectHooks.update input delta h.effect.uniforms (k.hooks, s) <;>
      exact ⟨rfl, rfl, by simp [memo, hk, Noted.after]⟩

end Hosted

end ScreenEffects
