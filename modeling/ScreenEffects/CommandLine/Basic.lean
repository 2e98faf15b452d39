import ScreenEffects.CommandLine.Arguments
import ScreenEffects.CommandLine.Disk
import ScreenEffects.CommandLine.Report
import ScreenEffects.Settings.Pipeline
import ScreenEffects.Text.Quoted

/-!
# The program

The commands of the program, on any disk. A command either gives the text that it prints, or fails
with a cause that is told on the error channel; a failed command has printed nothing.

* `run` takes the arguments of the program to its outcome.
-/

namespace ScreenEffects

open Json

/-! ## Failures -/

/-- The files that the program reads. -/
inductive FileRole
  | effects
  | config

def FileRole.name : FileRole → String
  | effects => "effects"
  | config => "config"

/-- Why a command failed. -/
inductive CommandFault
  | unreadable (role : FileRole) (path : String) (cause : DiskFault)
  /-- The text of a file is not what its role asks for. -/
  | malformed (role : FileRole) (path : String)
  /-- The effects of a file cannot be merged. -/
  | conflict (path : String) (cause : MergeFault)
  | noFolder (path : String) (cause : DiskFault)
  | unwritten (cause : DiskFault)
  /-- A simulation failed. -/
  | simulation (cause : Fault)

/-- What is told of a failure: what went wrong, then its causes. -/
def CommandFault.chain : CommandFault → List String
  | unreadable role path cause =>
    ["Failed to read " ++ role.name ++ " file " ++ quoted path, cause.message]
  | malformed role path => ["Failed to parse " ++ role.name ++ " file " ++ quoted path]
  | conflict path cause => ["Failed to compile effects from " ++ quoted path, cause.message]
  | noFolder path cause => ["Failed to create output directory " ++ quoted path, cause.message]
  | unwritten cause => [cause.message]
  | simulation cause => cause.chain

def CommandFault.message (f : CommandFault) : String := ": ".intercalate f.chain

/-! ## Commands -/

section Commands

variable {m : Type → Type} [Monad m] [Disk m]

/-- A step of a command. -/
abbrev CommandM (m : Type → Type) := ExceptT CommandFault m

/-- A request to the disk, whose refusal is told as `fault` says. -/
def onDisk {α : Type} (request : m (Except DiskFault α)) (fault : DiskFault → CommandFault) :
    CommandM m α := do
  match ← request with
  | .ok a => return a
  | .error e => throw (fault e)

/-- What `parse?` finds in a file. -/
def load {α : Type} (role : FileRole) (path : String) (parse? : String → Option α) :
    CommandM m α := do
  let text ← onDisk (Disk.readText path) (.unreadable role path)
  match parse? text with
  | some a => return a
  | none => throw (.malformed role path)

/-- The effects described in a file. -/
def loadEffects (path : String) : CommandM m (List EffectDescriptor) :=
  load .effects path EffectDescriptor.parseAll?

/-- The settings of a pipeline in a file. -/
def loadConfig (path : String) : CommandM m PipelineConfig :=
  load .config path fun text => (Tree.parse? text).bind PipelineConfig.ofTree?

/-- Merge the described effects. -/
def mergeDescribed (descriptors : List EffectDescriptor) : Except MergeFault Merged :=
  merge ((Simulation.createEffects descriptors {}).1.map (·.effect))

/-- Write a merged program and its report into a folder. -/
def writeMerged (folder : String) (merged : Merged) (report : String) : CommandM m Unit := do
  onDisk (createFolders folder) (.noFolder folder)
  onDisk (Disk.writeText (inFolder folder "effect.frag") merged.fragment) .unwritten
  onDisk (Disk.writeText (inFolder folder "effect.vert") merged.vertex) .unwritten
  onDisk (Disk.writeText (inFolder folder "report.json") report) .unwritten

/-- Merge the effects of a file, and tell or write the result. -/
def compileCommand (effects : String) (out : Option String) : CommandM m String := do
  let descriptors ← loadEffects effects
  match mergeDescribed descriptors with
  | .error e => throw (.conflict effects e)
  | .ok merged => do
    let report := (mergeReport (descriptors.map (·.name)) merged).pretty
    match out with
    | some folder => do
      writeMerged folder merged report
      return "Wrote shaders and report to " ++ quoted folder ++ "\n"
    | none =>
      return "// fragment\n" ++ merged.fragment ++ "\n\n// vertex\n" ++ merged.vertex ++ "\n\n" ++
        report ++ "\n"

/-- The summary of a simulation in words. -/
def SimulationSummary.text (settings : SimulationSettings) (s : SimulationSummary) : String :=
  String.join [
    "Simulated " ++ toString settings.frames ++ " frames at " ++ toString settings.width ++ "x" ++
      toString settings.height ++ "\n",
    "  passes rendered:  " ++ toString s.rendered ++ "\n",
    "  swaps:            " ++ toString s.swaps ++ "\n",
    "  commands:         " ++ toString s.commands ++ "\n",
    "  fullscreen draws: " ++ toString s.screenDraws ++ "\n",
    "  depth texture:    " ++ (if s.sharesDepth then "shared" else "none") ++ "\n",
    "  leaked surfaces:  " ++ toString s.leakedSurfaces ++ "\n"]

/-- Simulate frames with the effects of a file. -/
def simulateCommand (effects : String) (config : Option String) (settings : SimulationSettings) :
    CommandM m String := do
  let descriptors ← loadEffects effects
  let config ←
    match config with
    | some path => loadConfig path
    | none => pure settings.config
  let settings := { settings with config }
  match simulate settings descriptors with
  | .ok summary => return summary.text settings
  | .error e => throw (.simulation e)

/-! ## Outcomes -/

/-- What is left of a run of the program. -/
structure Outcome where
  exitCode : UInt8
  output : String := ""
  errors : String := ""
  deriving DecidableEq

def usage : String := String.join [
  "Usage: postfx <COMMAND>\n",
  "\n",
  "Commands:\n",
  "  compile <EFFECTS> [--out <DIR>]\n",
  "  blend-functions\n",
  "  simulate <EFFECTS> [--config <FILE>] [--width <N>] [--height <N>] [--frames <N>] [--fps <X>]\n",
  "  help\n"]

/-- The outcome of a command. -/
def outcome (command : CommandM m String) : m Outcome := do
  match ← command.run with
  | .ok output => return { exitCode := 0, output }
  | .error fault => return { exitCode := 1, errors := "Error: " ++ fault.message ++ "\n" }

/-- What the program does with its arguments. Arguments that make no sense are answered with the
usage, on the error channel. -/
def run (args : List String) : m Outcome :=
  match Invocation.ofArguments? args with
  | none => pure { exitCode := 2, errors := usage }
  | some .help => pure { exitCode := 0, output := usage }
  | some .version => pure { exitCode := 0, output := "postfx 0.1.0\n" }
  | some (.compile effects out) => outcome (compileCommand effects out)
  | some .blendFunctions => pure { exitCode := 0, output := blendTable }
  | some (.simulate effects config settings) => outcome (simulateCommand effects config settings)

end Commands

end ScreenEffects
