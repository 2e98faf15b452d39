import ScreenEffects.Pass.Builtin

/-!
# Passes of a program

The passes of the library are given; a program adds passes of its own type `Q`. `AnyPass H Q` is either
of them, and what is done with one of them is done with what it is made of.
-/

namespace ScreenEffects

/-- A pass of the library, with hooks of the type `H` in its effects, or one of the program's own. -/
inductive AnyPass (H Q : Type)
  | builtin (p : BuiltinPass H)
  | own (q : Q)

namespace AnyPass

variable {H Q ω : Type}

/-- Perform an act of one kind of pass, and wrap the pass up again. -/
def wrap {P : Type} (mk : P → AnyPass H Q) (p : P) (s : Stage ω) (act : Act (P × Stage ω) Unit) :
    EStateM.Result Fault (AnyPass H Q × Stage ω) Unit :=
  match act (p, s) with
  | .ok () (p, s) => .ok () (mk p, s)
  | .error e (p, s) => .error e (mk p, s)

/-- Wrap up what a change made of a pass. -/
def rewrap {P σ : Type} (mk : P → AnyPass H Q) (t : P × σ) : AnyPass H Q × σ := (mk t.1, t.2)

instance [EffectHooks H ω] [Pass Q ω] : Pass (AnyPass H Q) ω where
  name
    | builtin p => Pass.name p
    | own q => Pass.name q
  flags
    | builtin p => Pass.flags p
    | own q => Pass.flags q
  withFlags
    | builtin p, flags => builtin (Pass.withFlags p flags)
    | own q, flags => own (Pass.withFlags q flags)
  role
    | builtin p => Pass.role p
    | own q => Pass.role q
  setUp setup
    | (builtin p, s) => wrap builtin p s (Pass.setUp setup)
    | (own q, s) => wrap own q s (Pass.setUp setup)
  setSize width height
    | (builtin p, s) => wrap builtin p s (Pass.setSize width height)
    | (own q, s) => wrap own q s (Pass.setSize width height)
  setDepthTexture
    | builtin p, t, packing, s => rewrap builtin (Pass.setDepthTexture p t packing s)
    | own q, t, packing, s => rewrap own (Pass.setDepthTexture q t packing s)
  setMainScene
    | builtin p, x, s => rewrap builtin (Pass.setMainScene p x s)
    | own q, x, s => rewrap own (Pass.setMainScene q x s)
  setMainCamera
    | builtin p, x, s => rewrap builtin (Pass.setMainCamera p x s)
    | own q, x, s => rewrap own (Pass.setMainCamera q x s)
  render input output delta masked
    | (builtin p, s) => wrap builtin p s (Pass.render input output delta masked)
    | (own q, s) => wrap own q s (Pass.render input output delta masked)
  dispose
    | builtin p, s => rewrap builtin (Pass.dispose p s)
    | own q, s => rewrap own (Pass.dispose q s)

end AnyPass

end ScreenEffects
