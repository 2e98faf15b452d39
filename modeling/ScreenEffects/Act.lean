import ScreenEffects.Fault

/-!
# Acts

An act is an operation on a state that may fail; what it did before a failure stays done. Acts on a
part of a state become acts on the whole, and an act on an element becomes one on a list.

* `foldEach` performs an act on each element of a list up to the first failure.
* `threadList` is the same for operations that cannot fail.
-/

namespace ScreenEffects

/-- An operation on a state `σ` that may fail. What it did before the failure stays done. -/
abbrev Act (σ α : Type) := EStateM Fault σ α

namespace Act

variable {σ τ α : Type}

/-- Perform an act on the first component, the second being left alone. -/
def onFirst (act : Act σ α) : Act (σ × τ) α
  | (s, t) =>
    match act s with
    | .ok a s => .ok a (s, t)
    | .error e s => .error e (s, t)

/-- Perform an act on the second component, the first being left alone. -/
def onSecond (act : Act τ α) : Act (σ × τ) α
  | (s, t) =>
    match act t with
    | .ok a t => .ok a (s, t)
    | .error e t => .error e (s, t)

/-- Perform an act on the part of the first component that `get` reads and `put` writes, together
with the second. -/
def within {ρ : Type} (get : ρ → σ) (put : ρ → σ → ρ) (act : Act (σ × τ) α) : Act (ρ × τ) α
  | (r, t) =>
    match act (get r, t) with
    | .ok a (s, t) => .ok a (put r s, t)
    | .error e (s, t) => .error e (put r s, t)

/-- Perform an act and change the state afterwards, whether the act failed or not. -/
def ensuring (act : Act σ α) (after : σ → σ) : Act σ α := fun s =>
  match act s with
  | .ok a s => .ok a (after s)
  | .error e s => .error e (after s)

/-- Perform an act and change the state afterwards if the act failed. -/
def onFailure (act : Act σ α) (undo : σ → σ) : Act σ α := fun s =>
  match act s with
  | .ok a s => .ok a s
  | .error e s => .error e (undo s)

/-- Succeed with the value of a result that knows no state, or fail with its fault. -/
def ofExcept (r : Except Fault α) : Act σ α := fun s =>
  match r with
  | .ok a => .ok a s
  | .error e => .error e s

/-- Perform `act` on the elements of a list one after the other, up to the first failure. The shared
state `τ` and a value `β` are handed on from one to the next. Elements after a failure are left
alone. -/
def foldEach {β : Type} (act : β → Act (α × τ) β) : β → Act (List α × τ) β
  | b, ([], t) => .ok b ([], t)
  | b, (a :: as, t) =>
    match act b (a, t) with
    | .error e (a, t) => .error e (a :: as, t)
    | .ok b (a, t) =>
      match foldEach act b (as, t) with
      | .error e (as, t) => .error e (a :: as, t)
      | .ok b (as, t) => .ok b (a :: as, t)

/-- Perform `act` on the elements of a list one after the other, up to the first failure. -/
def forEach (act : Act (α × τ) Unit) : Act (List α × τ) Unit := foldEach (fun _ => act) ()

end Act

/-- Thread a state through a list, changing the elements on the way. -/
def threadList {α σ : Type} (f : α → σ → α × σ) : List α → σ → List α × σ
  | [], s => ([], s)
  | a :: as, s =>
    let (a, s) := f a s
    let (as, s) := threadList f as s
    (a :: as, s)

end ScreenEffects
