import ScreenEffects.CommandLine.Number
import ScreenEffects.CommandLine.Simulation

/-!
# Arguments

What the arguments of the program ask for. The first names a command. After it come one file and
options, in any order: an option is followed by its value, or carries it after an equals sign, and is
given at most once. After `--` everything is a file. A question for help is answered as soon as it is
met, provided that nothing before it was wrong.

* `Grammar.gather` reads the arguments of any command; a command is given by what it does with a
  file and with an option.
-/

namespace ScreenEffects

/-- What the program is asked to do. -/
inductive Invocation
  | help
  | version
  /-- Merge the effects of a file, into a folder or onto the screen. -/
  | compile (effects : String) (out : Option String)
  /-- List the blend functions. -/
  | blendFunctions
  /-- Render frames with the effects of a file. -/
  | simulate (effects : String) (config : Option String) (settings : SimulationSettings)

/-! ## Files and options -/

/-- What a command makes of its arguments, as changes of what was given before. -/
structure Grammar (σ : Type) where
  file : String → σ → Option σ
  option : (name value : String) → σ → Option σ

/-- An option as it is written: its name, and the value after the equals sign, if there is one. -/
def splitOption (arg : String) : String × Option String :=
  let name := arg.toList.takeWhile (· != '=')
  match arg.toList.drop name.length with
  | [] => (arg, none)
  | _ :: value => (.ofList name, some (.ofList value))

/-- An argument that is no value: a dash with something behind it. -/
def looksLikeOption (arg : String) : Bool := arg.startsWith "-" && arg != "-"

def asksForHelp (arg : String) : Bool := arg = "--help" || arg.startsWith "-h"

/-- What is expected next. -/
inductive Expecting
  | anything
  /-- The value of an option. -/
  | value (name : String)
  /-- Nothing but files. -/
  | files

namespace Grammar

variable {σ : Type}

/-- Read the arguments of a command. The result is what was given, or nothing if help was asked for;
there is none if the arguments make no sense. -/
def gather (g : Grammar σ) (given : σ) : Expecting → List String → Option (Option σ)
  | .value _, [] => none
  | _, [] => some (some given)
  | .files, arg :: args => do g.gather (← g.file arg given) .files args
  | .value name, arg :: args =>
    if looksLikeOption arg then none
    else do g.gather (← g.option name arg given) .anything args
  | .anything, arg :: args =>
    if !looksLikeOption arg then do g.gather (← g.file arg given) .anything args
    else if arg = "--" then g.gather given .files args
    else if asksForHelp arg then some none
    else if !arg.startsWith "--" then none
    else
      match splitOption arg with
      | (name, some value) => do g.gather (← g.option name value given) .anything args
      | (name, none) => g.gather given (.value name) args

/-- The invocation of a command: what `finish` makes of the arguments, or help. -/
def invocation? (g : Grammar σ) (start : σ) (finish : σ → Option Invocation)
    (args : List String) : Option Invocation :=
  match g.gather start .anything args with
  | none => none
  | some none => some .help
  | some (some given) => finish given

end Grammar

/-- A value for what was not given before; there is none if it was, or if the value is no value. -/
def giveOnce {α : Type} (old new : Option α) : Option (Option α) :=
  match old, new with
  | none, some a => some (some a)
  | _, _ => none

/-- A path is any text that is not empty. -/
def pathOption? (text : String) : Option String := if text.isEmpty then none else some text

/-! ## The commands -/

/-- What was given to `compile`. -/
structure CompileArguments where
  effects : Option String := none
  out : Option String := none

def CompileArguments.grammar : Grammar CompileArguments where
  file arg g := do return { g with effects := ← giveOnce g.effects (pathOption? arg) }
  option name value g :=
    match name with
    | "--out" => do return { g with out := ← giveOnce g.out (pathOption? value) }
    | _ => none

def CompileArguments.finish (g : CompileArguments) : Option Invocation := do
  return .compile (← g.effects) g.out

/-- A command that takes neither files nor options. -/
def Grammar.empty : Grammar Unit where
  file _ _ := none
  option _ _ _ := none

/-- What was given to `simulate`. -/
structure SimulateArguments where
  effects : Option String := none
  config : Option String := none
  width : Option UInt32 := none
  height : Option UInt32 := none
  frames : Option UInt32 := none
  framesPerSecond : Option Float32 := none

def SimulateArguments.grammar : Grammar SimulateArguments where
  file arg g := do return { g with effects := ← giveOnce g.effects (pathOption? arg) }
  option name value g :=
    match name with
    | "--config" => do return { g with config := ← giveOnce g.config (pathOption? value) }
    | "--width" => do return { g with width := ← giveOnce g.width (wholeOption? value) }
    | "--height" => do return { g with height := ← giveOnce g.height (wholeOption? value) }
    | "--frames" => do return { g with frames := ← giveOnce g.frames (wholeOption? value) }
    | "--fps" => do
      return { g with framesPerSecond := ← giveOnce g.framesPerSecond (decimalOption? value) }
    | _ => none

def SimulateArguments.finish (g : SimulateArguments) : Option Invocation := do
  let d : SimulationSettings := {}
  return .simulate (← g.effects) g.config {
    width := g.width.getD d.width
    height := g.height.getD d.height
    frames := (g.frames.map UInt32.toNat).getD d.frames
    framesPerSecond := g.framesPerSecond.getD d.framesPerSecond }

/-- The arguments of each command. -/
def commands : List (String × (List String → Option Invocation)) := [
  ("compile", CompileArguments.grammar.invocation? {} CompileArguments.finish),
  ("blend-functions", Grammar.empty.invocation? () fun _ => some .blendFunctions),
  ("simulate", SimulateArguments.grammar.invocation? {} SimulateArguments.finish)]

/-- What the arguments of the program ask for, if they make sense. -/
def Invocation.ofArguments? : List String → Option Invocation
  | [] => none
  | ["help"] => some .help
  | ["help", name] => if name = "help" ∨ name ∈ commands.map (·.1) then some .help else none
  | name :: args =>
    if asksForHelp name then some .help
    else if name = "--version" || name.startsWith "-V" then some .version
    else (commands.lookup name).bind (· args)

end ScreenEffects
