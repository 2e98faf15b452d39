import ScreenEffects.CommandLine.Basic

/-!
# Main

The program on the disk of the machine.
-/

namespace ScreenEffects

/-- The reason of a failed request to the disk. -/
def DiskFault.ofError : IO.Error → DiskFault
  | .noFileOrDirectory .. => .missing
  | .permissionDenied .. => .denied
  | .invalidArgument _ 36 _ => .nameTooLong
  | .alreadyExists .. => .exists
  | .inappropriateType _ code reason =>
    if code = 20 then .notAFolder
    else if code = 21 then .isAFolder
    else .other (systemReason reason code.toNat)
  | e => .other (toString e)

/-- A request to the disk of the machine. -/
def diskRequest {α : Type} (act : IO α) : IO (Except DiskFault α) := do
  try return .ok (← act) catch e => return .error (.ofError e)

instance : Disk IO where
  readText path := do
    match ← diskRequest (IO.FS.readBinFile path) with
    | .error e => return .error e
    | .ok bytes =>
      match String.fromUTF8? bytes with
      | some text => return .ok text
      | none => return .error .notText
  ensureFolder path := diskRequest do
    -- The second request is refused unless what is there is a folder.
    try IO.FS.createDir path
    catch
      | .alreadyExists .. => IO.FS.createDirAll path
      | e => throw e
  writeText path text := diskRequest (IO.FS.writeFile path text)

end ScreenEffects

def main (args : List String) : IO UInt32 := do
  let outcome ← ScreenEffects.run args
  IO.print outcome.output
  IO.eprint outcome.errors
  return outcome.exitCode.toUInt32
