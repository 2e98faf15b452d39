import ScreenEffects.Pass.Labelled
import ScreenEffects.Pipeline.Frame
import ScreenEffects.Probe.Pass

/-!
# Benches

A bench holds passes, surfaces and uniforms by name, and at most one pipeline, on a stage with a
probe log. A pass that joins the pipeline stays within reach under its name, and so does one that has
left it, or whose pipeline was replaced: the bench knows each pass by a label that is never used
twice.

* `Bench.find` looks a pass up wherever it is, `Bench.put` writes it back to where it was.
-/

namespace ScreenEffects

/-- A pass on a bench. -/
abbrev BenchPass := Labelled ProbedPass

/-- Passes, surfaces and uniforms by name, and a pipeline. -/
structure Bench where
  stage : Stage ProbeLog
  /-- The labels of the passes. -/
  labels : NamedMap Nat := ∅
  nextLabel : Nat := 0
  /-- The passes that are in no pipeline, by label. -/
  loose : OrderedMap Nat ProbedPass := ∅
  surfaces : NamedMap Surface := ∅
  uniforms : NamedMap Uniform := ∅
  pipeline : Option (Pipeline BenchPass) := none

/-- Why a bench did not do what it was told. -/
inductive BenchFault
  /-- The pipeline or a pass failed. -/
  | fault (f : Fault)
  /-- A settings text, or a name in it, was not understood. -/
  | malformed
  | noSuchPass
  | noSuchSurface
  | noSuchUniform
  | noPipeline
  /-- The pass does not have what was to be edited. -/
  | noSuchEdit

/-- Work on a bench. What was done before a failure stays done. -/
abbrev BenchM := ExceptT BenchFault (StateM Bench)

namespace Bench

/-- A bench with nothing on it. -/
def ofDevice (device : Device) : Bench := { stage := { host := #[], device } }

variable {α : Type}

/-! ## Results of others -/

/-- The value there is, or the failure of a text that was not understood. -/
def understood : Option α → BenchM α
  | some a => pure a
  | none => throw .malformed

/-- The value of a result, or its fault. -/
def ofExcept : Except Fault α → BenchM α
  | .ok a => pure a
  | .error e => throw (.fault e)

/-! ## The stage -/

/-- The values of all uniforms. -/
def store : BenchM UniformStore := do return (← get).stage.uniforms

/-- Do something with the uniforms. -/
def withStore (f : UniformStore → α × UniformStore) : BenchM α :=
  modifyGet fun b =>
    let (a, uniforms) := f b.stage.uniforms
    (a, { b with stage := { b.stage with uniforms } })

/-- Give a uniform a value. -/
def setUniform (u : Uniform) (v : UniformValue) : BenchM Unit :=
  withStore fun s => ((), s.set u v)

/-- The uniform under a name; it is made with the value `v` if there is none. -/
def namedUniform (name : String) (v : UniformValue) : BenchM Uniform := do
  match (← get).uniforms.get? name with
  | some u => return u
  | none => do
    let u ← withStore (·.alloc v)
    modify fun b => { b with uniforms := b.uniforms.insert name u }
    return u

/-- Perform an act on the stage. -/
def onStage (act : Act (Stage ProbeLog) α) : BenchM α := do
  let b ← get
  match act b.stage with
  | .ok a stage => set { b with stage }; return a
  | .error e stage => set { b with stage }; throw (.fault e)

/-- A call of the device that gives something back. -/
def withDevice (f : Device → α × Device) : BenchM α := onStage (Stage.withDevice f)

/-- A call of the device. -/
def tell (f : Device → Device) : BenchM Unit := withDevice fun d => ((), f d)

/-- The surface under a name. -/
def surface (name : String) : BenchM Surface := do
  match (← get).surfaces.get? name with
  | some s => return s
  | none => throw .noSuchSurface

/-- Keep a surface under a name. -/
def keepSurface (name : String) (s : Surface) : BenchM Unit :=
  modify fun b => { b with surfaces := b.surfaces.insert name s }

/-! ## Passes -/

/-- Keep a new pass under a name. -/
def keep (name : String) (q : ProbedPass) : BenchM Unit := modify fun b => { b with
  labels := b.labels.insert name b.nextLabel
  loose := b.loose.insert b.nextLabel q
  nextLabel := b.nextLabel + 1 }

/-- The passes in the pipeline. -/
def joined (b : Bench) : List BenchPass := (b.pipeline.map (·.passes)).getD []

/-- The pass with a label. -/
def labelled? (b : Bench) (label : Nat) : Option BenchPass :=
  match b.loose.get? label with
  | some q => some ⟨label, q⟩
  | none => b.joined.find? (·.label == label)

/-- The pass under a name. -/
def find (name : String) : BenchM BenchPass := do
  let b ← get
  match (b.labels.get? name).bind b.labelled? with
  | some q => return q
  | none => throw .noSuchPass

/-- Write a pass back to where it is. -/
def put (q : BenchPass) : BenchM Unit := modify fun b =>
  if b.loose.contains q.label then { b with loose := b.loose.insert q.label q.pass }
  else
    { b with pipeline := b.pipeline.map fun p =>
        { p with passes := p.passes.map fun r => if r.label == q.label then q else r } }

/-- The bench with passes that no pipeline holds any more. -/
def takeBack (qs : List BenchPass) (b : Bench) : Bench :=
  { b with loose := qs.foldl (fun m q => m.insert q.label q.pass) b.loose }

/-- Perform an act of the pass under a name. -/
def onPass (name : String) (act : Act (ProbedPass × Stage ProbeLog) α) : BenchM α := do
  let q ← find name
  match act (q.pass, (← get).stage) with
  | .ok a (p, stage) =>
    modify fun b => { b with stage }
    put ⟨q.label, p⟩
    return a
  | .error e (p, stage) =>
    modify fun b => { b with stage }
    put ⟨q.label, p⟩
    throw (.fault e)

/-- Change the pass under a name, and what is shared. -/
def changePass (name : String)
    (f : ProbedPass → Shared ProbeLog → ProbedPass × Shared ProbeLog) : BenchM Unit :=
  onPass name fun (p, s) =>
    let (p, t) := f p s.toShared
    .ok () (p, s.withShared t)

/-- The pass of effects under a name, with its label. -/
def effectPass (name : String) : BenchM (Nat × EffectPass ProbeHooks) := do
  match ← find name with
  | ⟨label, .builtin (.effects p)⟩ => return (label, p)
  | _ => throw .noSuchEdit

/-- Write a pass of effects back. -/
def putEffectPass (label : Nat) (p : EffectPass ProbeHooks) : BenchM Unit :=
  put ⟨label, .builtin (.effects p)⟩

/-- Perform an act of the pass of effects under a name. -/
def onEffectPass (name : String) (act : Act (EffectPass ProbeHooks) α) : BenchM α := do
  let (label, p) ← effectPass name
  match act p with
  | .ok a p => putEffectPass label p; return a
  | .error e p => putEffectPass label p; throw (.fault e)

/-! ## The pipeline -/

/-- Perform an act on the pipeline. -/
def onPipeline (act : Act (Pipeline BenchPass × Stage ProbeLog) α) : BenchM α := do
  let b ← get
  match b.pipeline with
  | none => throw .noPipeline
  | some p =>
    match act (p, b.stage) with
    | .ok a (p, stage) => set { b with pipeline := some p, stage }; return a
    | .error e (p, stage) => set { b with pipeline := some p, stage }; throw (.fault e)

/-- Do with the pipeline what cannot fail. -/
def withPipeline
    (f : Pipeline BenchPass → Stage ProbeLog → α × Pipeline BenchPass × Stage ProbeLog) :
    BenchM α :=
  onPipeline fun (p, s) =>
    let (a, p, s) := f p s
    .ok a (p, s)

/-- Replace the pipeline by a new one. The old one is left as it is. -/
def replacePipeline (config : PipelineConfig) : BenchM Unit := modify fun b =>
  let (p, stage) := Pipeline.create config b.stage
  { takeBack b.joined b with pipeline := some p, stage }

/-- Let the pass under a name join the pipeline. -/
def join (name : String) (index : Option Nat) : BenchM Unit := do
  let q ← find name
  let b ← get
  match b.pipeline with
  | none => throw .noPipeline
  | some p =>
    let added := p.add q index b.stage
    let b := { b with pipeline := some added.pipeline, stage := added.stage }
    match added.refused with
    | none => set { b with loose := b.loose.erase q.label }
    | some (e, q) =>
      set b
      put q
      throw (.fault e)

/-- Take the pass at a place out of the pipeline. -/
def leave (index : Nat) : BenchM ProbedPass := do
  let q ← onPipeline (Pipeline.remove index)
  modify (takeBack [q])
  return q.pass

/-- Take all passes out of the pipeline. -/
def leaveAll : BenchM (List ProbedPass) := do
  let qs ← withPipeline fun p s => p.removeAll s
  modify (takeBack qs)
  return qs.map (·.pass)

/-- Dispose of the pipeline and its passes. -/
def disposePipeline : BenchM Unit := do
  let qs ← withPipeline fun p s => p.dispose s
  modify (takeBack qs)

/-- Change the flags of the pass at a place of the pipeline, and give them back. -/
def changeFlags (index : Nat) (f : PassFlags → PassFlags) : BenchM (Option PassFlags) :=
  withPipeline fun p s =>
    match p.passes[index]? with
    | none => (none, p, s)
    | some q =>
      let flags := f (Pass.flags q)
      (some flags, { p with passes := p.passes.set index (Pass.withFlags q flags) }, s)

/-- Render frames up to the first that fails. -/
def renderFrames (delta : FrameDelta) : Nat → BenchM (List FrameReport)
  | 0 => return []
  | n + 1 => do
    let r ← onPipeline (Pipeline.render delta)
    return r :: (← renderFrames delta n)

end Bench

end ScreenEffects
