import ScreenEffects.Pipeline.Frame
import ScreenEffects.Proofs.Pass.Operations

/-!
# Runs of a pipeline

What can happen to a pipeline: passes are made, join the list, are edited and leave it again, and in
between there are frames and changes of the whole. The passes are those of the library and a program's
own. A `Rig` is what there is to happen to: the pipeline, the passes that are in no list, and the stage.
An operation may fail; what it did until then stays done, and the run goes on from there (`Rig.run`).

Between two operations the rest of the program may do anything to the stage (`Op.elsewhere`).
-/

namespace ScreenEffects

variable {H Q ω : Type}

/-- A pipeline at work. -/
structure Rig (H Q ω : Type) where
  pipeline : Pipeline (AnyPass H Q)
  /-- The passes that are not in the list: those that have not joined, and those that have left. -/
  loose : List (AnyPass H Q)
  stage : Stage ω

namespace Rig

/-- Where a pass is. -/
inductive Place
  | listed (index : Nat)
  | loose (index : Nat)

/-- An operation on a rig. -/
inductive Op (H Q ω : Type)
  /-- Make a pass of effects. -/
  | makeEffects (camera : Option Camera) (effects : List (Hosted H)) (config : EffectPassConfig)
  /-- Make a pass of another kind, or one of the program's own. -/
  | make (q : AnyPass H Q)
  /-- Add the loose pass at place `i` to the list. -/
  | add (i : Nat) (index : Option Nat)
  | remove (index : Nat)
  | removeAll
  | setFlags (place : Place) (flags : PassFlags)
  | edit (place : Place) (op : EffectPass.Op H ω)
  | setSize (width height : UInt32)
  | reset
  | render (delta : FrameDelta)
  | dispose
  /-- Whatever the rest of the program does to the stage. -/
  | elsewhere (s : Stage ω)

/-- The rig with the pass at a place changed. -/
def change (f : AnyPass H Q → AnyPass H Q) (x : Rig H Q ω) : Place → Rig H Q ω
  | .listed i => { x with pipeline := { x.pipeline with passes := x.pipeline.passes.modify i f } }
  | .loose i => { x with loose := x.loose.modify i f }

/-- The rig after an act of its pipeline, failed or not. -/
def act {α : Type} (f : Act (Pipeline (AnyPass H Q) × Stage ω) α) (x : Rig H Q ω) : Rig H Q ω :=
  let (pipeline, stage) := f.after (x.pipeline, x.stage)
  { x with pipeline, stage }

variable [EffectHooks H ω] [Pass Q ω]

/-- Add the loose pass at place `i` to the list. A pass that is refused stays loose. -/
def add (i : Nat) (index : Option Nat) (x : Rig H Q ω) : Rig H Q ω :=
  match x.loose[i]? with
  | none => x
  | some q =>
    let added := x.pipeline.add q index x.stage
    { pipeline := added.pipeline
      stage := added.stage
      loose := match added.refused with
        | none => x.loose.eraseIdx i
        | some (_, q) => x.loose.set i q }

/-- Take a pass out of the list; it becomes a loose one. -/
def remove (index : Nat) (x : Rig H Q ω) : Rig H Q ω :=
  match Pipeline.remove index (x.pipeline, x.stage) with
  | .ok q (p, s) => ⟨p, x.loose ++ [q], s⟩
  | .error _ (p, s) => ⟨p, x.loose, s⟩

/-- What an operation makes of a rig, failed or not. -/
def Op.perform : Op H Q ω → Rig H Q ω → Rig H Q ω
  | .makeEffects camera effects config, x =>
    match EffectPass.create camera effects config x.stage.uniforms with
    | .ok (p, uniforms) =>
      { x with loose := x.loose ++ [.builtin (.effects p)], stage := { x.stage with uniforms } }
    | .error _ => x
  | .make q, x => { x with loose := x.loose ++ [q] }
  | .add i index, x => x.add i index
  | .remove index, x => x.remove index
  | .removeAll, x =>
    let (qs, p, s) := x.pipeline.removeAll x.stage
    ⟨p, x.loose ++ qs, s⟩
  | .setFlags place flags, x => x.change (Pass.withFlags · flags) place
  | .edit place op, x => x.change (·.edit op x.stage) place
  | .setSize width height, x => x.act (Pipeline.setSize width height)
  | .reset, x => x.act Pipeline.reset
  | .render delta, x => x.act (Pipeline.render delta)
  | .dispose, x =>
    let (_, p, s) := x.pipeline.dispose x.stage
    { x with pipeline := p, stage := s }
  | .elsewhere s, x => { x with stage := s }

/-- The rig after operations, failed ones included. -/
def run : List (Op H Q ω) → Rig H Q ω → Rig H Q ω
  | [], x => x
  | op :: ops, x => run ops (op.perform x)

/-- A pipeline without passes, on a stage. -/
def start (config : PipelineConfig) (s : Stage ω) : Rig H Q ω :=
  let (p, s) := Pipeline.create config s
  ⟨p, [], s⟩

end Rig

end ScreenEffects
