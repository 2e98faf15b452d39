import ScreenEffects.Pass.Basic

/-!
# Labelled passes

A pass with a number by which its owner recognises it among the passes of a pipeline. To the
pipeline it is the pass without the number.
-/

namespace ScreenEffects

structure Labelled (P : Type) where
  label : Nat
  pass : P

namespace Labelled

variable {P ω : Type}

/-- The same label on what a change made of the pass. -/
def relabel {σ : Type} (label : Nat) (t : P × σ) : Labelled P × σ := (⟨label, t.1⟩, t.2)

/-- Perform an act of the pass. -/
def onPass (act : Act (P × Stage ω) Unit) : Act (Labelled P × Stage ω) Unit :=
  act.within (·.pass) ({ · with pass := · })

instance [Pass P ω] : Pass (Labelled P) ω where
  name q := Pass.name q.pass
  flags q := Pass.flags q.pass
  withFlags q flags := ⟨q.label, Pass.withFlags q.pass flags⟩
  role q := Pass.role q.pass
  setUp setup := onPass (Pass.setUp setup)
  setSize width height := onPass (Pass.setSize width height)
  setDepthTexture q t packing s := relabel q.label (Pass.setDepthTexture q.pass t packing s)
  setMainScene q x s := relabel q.label (Pass.setMainScene q.pass x s)
  setMainCamera q x s := relabel q.label (Pass.setMainCamera q.pass x s)
  render input output delta masked := onPass (Pass.render input output delta masked)
  dispose q s := relabel q.label (Pass.dispose q.pass s)

end Labelled

end ScreenEffects
