import ScreenEffects.Pass.Any
import ScreenEffects.Probe.Hooks

/-!
# Probe passes

A pass that draws nothing and notes every call; it may be told to fail at one of them. `ProbedPass`
is any pass of the library, with probe hooks in its effects, or such a pass.
-/

namespace ScreenEffects

/-- A call at which a probe pass may fail. -/
inductive ProbeCall
  | setUp
  | setSize
  | render
  deriving DecidableEq

/-- The complaint of a probe pass. -/
def ProbeCall.complaint : ProbeCall → String
  | setUp => "initialize refused"
  | setSize => "setSize refused"
  | render => "render refused"

/-- A pass that notes its calls. -/
structure ProbePass where
  name : String
  flags : PassFlags
  role : PassRole := .regular
  /-- The call at which the pass fails, once it is noted. -/
  fails : Option ProbeCall := none

namespace ProbePass

def noteShared (event : ProbeEvent) (s : Shared ProbeLog) : Shared ProbeLog :=
  { s with host := s.host.push event }

/-- Note a call, and fail if it is the one. -/
def call (p : ProbePass) (which : ProbeCall) (event : ProbeEvent) : Act (Stage ProbeLog) Unit := do
  modify fun s => { s with host := s.host.push event }
  if p.fails = some which then throw (.setting (.other which.complaint))

def setUp (p : ProbePass) (setup : PassSetup) : Act (Stage ProbeLog) Unit :=
  p.call .setUp (.passSetUp p.name setup.alpha setup.precision setup.geometry setup.width
    setup.height)

def setSize (p : ProbePass) (width height : UInt32) : Act (Stage ProbeLog) Unit :=
  p.call .setSize (.passSized p.name width height)

def render (p : ProbePass) (input output : Surface) (delta : Float32) (masked : Bool) :
    Act (Stage ProbeLog) Unit :=
  p.call .render (.passRendered p.name input.id output.id delta masked p.flags.toScreen
    input.depthTexture)

instance : Pass ProbePass ProbeLog where
  name := name
  flags := flags
  withFlags p flags := { p with flags }
  role := role
  setUp setup x := (x.1.setUp setup).onSecond x
  setSize width height x := (x.1.setSize width height).onSecond x
  setDepthTexture p t packing s := (p, noteShared (.passGivenDepth p.name t packing) s)
  setMainScene p x s := (p, noteShared (.passGivenScene p.name x) s)
  setMainCamera p x s := (p, noteShared (.passGivenCamera p.name x) s)
  render input output delta masked x := (x.1.render input output delta masked).onSecond x

end ProbePass

/-- A pass of the library or a probe. -/
abbrev ProbedPass := AnyPass ProbeHooks ProbePass

/-- A probe among the passes. -/
@[match_pattern]
abbrev ProbedPass.probe (p : ProbePass) : ProbedPass := .own p

end ScreenEffects
