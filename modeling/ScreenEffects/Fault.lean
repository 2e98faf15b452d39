import ScreenEffects.Device.Handle

/-!
# Faults

What can go wrong, as causes: a list of effects that cannot be merged, a device that refuses a
call, a pass used after its disposal, a pass index out of range, a setting that makes no sense. The
wording of a cause is in one place, its `message`.

A fault may have a cause of its own kind behind it; `Fault.chain` lists the messages from the fault
down.
-/

namespace ScreenEffects

/-! ## Merging -/

/-- Why a list of effects has no merged program. -/
inductive MergeConflict
  /-- The fragment body declares neither `mainImage` nor `mainUv`. -/
  | missingEntryPoint
  /-- The fragment body declares both. -/
  | ambiguousEntryPoint
  /-- An effect moves the coordinates under a convolution. -/
  | uvTransformWithConvolution
  /-- A second convolution. -/
  | multipleConvolutions
  deriving DecidableEq

def MergeConflict.message : MergeConflict → String
  | .missingEntryPoint => "fragment shader declares neither mainImage nor mainUv"
  | .ambiguousEntryPoint => "fragment shader declares both mainImage and mainUv"
  | .uvTransformWithConvolution =>
    "effects that transform UVs are incompatible with convolution effects"
  | .multipleConvolutions => "convolution effects cannot be merged"

/-- A conflict, blamed on the effect named `effect` at place `index` of the list. -/
structure MergeFault where
  effect : String
  index : Nat
  conflict : MergeConflict
  deriving DecidableEq

def MergeFault.message (f : MergeFault) : String :=
  "effect '" ++ f.effect ++ "' (#" ++ toString f.index ++ "): " ++ f.conflict.message

/-! ## The device -/

/-- Why the device refused a call. -/
inductive DeviceFault
  /-- A surface that does not live was to be resized. -/
  | unknownSurface (label : String)
  /-- The program `label` was to be drawn on a geometry that does not live. -/
  | unknownGeometry (label : String) (geometry : Geometry)
  /-- The device failed for a reason of its own. -/
  | refused (reason : String)
  /-- The device failed for a reason of its own, because of another failure. -/
  | refusedBecause (reason : String) (cause : DeviceFault)
  deriving DecidableEq

def DeviceFault.message : DeviceFault → String
  | .unknownSurface label => "resize of unknown surface '" ++ label ++ "'"
  | .unknownGeometry label geometry =>
    "draw '" ++ label ++ "' with unknown geometry GeometryHandle(" ++ toString geometry.id ++ ")"
  | .refused reason => reason
  | .refusedBecause reason cause => reason ++ " (caused by: " ++ cause.message ++ ")"

/-- The messages of a device fault and of what caused it. -/
def DeviceFault.chain : DeviceFault → List String
  | .refusedBecause reason cause =>
    (reason ++ " (caused by: " ++ cause.message ++ ")") :: cause.chain
  | f => [f.message]

/-! ## Settings -/

/-- What is wrong with a setting, or with the order of two calls. -/
inductive SettingFault
  | unknownBlend (name : String)
  /-- Layers are numbered below `limit`. -/
  | layerOutOfRange (layer limit : Nat)
  /-- A pass was rendered before it was set up. -/
  | notSetUp (pass : String)
  /-- A complaint of a hook or of a pass from outside the library. -/
  | other (complaint : String)
  deriving DecidableEq

def SettingFault.message : SettingFault → String
  | .unknownBlend name => "unknown blend function '" ++ name ++ "'"
  | .layerOutOfRange layer limit =>
    "render layer " ++ toString layer ++ " out of range (max " ++ toString (limit - 1) ++ ")"
  | .notSetUp pass => pass ++ " rendered before initialize"
  | .other complaint => complaint

/-! ## All faults -/

/-- A fault of the pipeline. -/
inductive Fault
  | merge (fault : MergeFault)
  | device (fault : DeviceFault)
  /-- A disposed pass, or a disposed pipeline, was used. -/
  | disposed (pass : String)
  /-- There is no place `index` in a list of `length` passes or effects. -/
  | noSuchPlace (index length : Nat)
  | setting (fault : SettingFault)
  deriving DecidableEq

def Fault.message : Fault → String
  | .merge f => "merge error: " ++ f.message
  | .device f => "backend error: " ++ f.message
  | .disposed pass => "'" ++ pass ++ "' was used after being disposed"
  | .noSuchPlace index length =>
    "pass index " ++ toString index ++ " out of range (len " ++ toString length ++ ")"
  | .setting f => "configuration error: " ++ f.message

/-- The messages of a fault and of what lies behind it. -/
def Fault.chain (f : Fault) : List String :=
  f.message :: match f with
    | .merge m => [m.message]
    | .device d => d.chain
    | _ => []

end ScreenEffects
