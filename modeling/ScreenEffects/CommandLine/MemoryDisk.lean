import ScreenEffects.CommandLine.Disk
import ScreenEffects.OrderedMap

/-!
# Disks in memory

A disk that is a value: texts at places, and the folders around them. A place is a list of names, the
innermost first; a path is walked from the folder one works in, or from the outermost one if it starts
with a slash, name by name. Each step asks that one stands in a folder. The folder around the
outermost one is itself.

Names and paths are limited in length, counted in bytes.
-/

namespace ScreenEffects

/-- The names on the way to a file or folder, the innermost first. -/
abbrev Place := List String

structure MemoryDisk where
  files : OrderedMap Place String := ∅
  /-- The folders, apart from those that `home` lies in. -/
  folders : List Place := []
  /-- The folder one works in. -/
  home : Place := []

namespace MemoryDisk

def isFolder (d : MemoryDisk) (p : Place) : Bool := p.isSuffixOf d.home || p ∈ d.folders

def isFile (d : MemoryDisk) (p : Place) : Bool := d.files.contains p

/-! ## Paths -/

/-- The most bytes a name may have. -/
def nameLimit : Nat := 255

/-- The most bytes a path may have. -/
def pathLimit : Nat := 4095

/-- Go from a place to what a name means there. -/
def step (d : MemoryDisk) (p : Place) (name : String) : Except DiskFault Place :=
  if d.isFile p then .error .notAFolder
  else if !d.isFolder p then .error .missing
  else if name = "" ∨ name = "." then .ok p
  else if name = ".." then .ok p.tail
  else if name.utf8ByteSize > nameLimit then .error .nameTooLong
  else .ok (name :: p)

/-- The place of a path in pieces. An empty first piece stands for the outermost folder, but the
empty path leads nowhere. -/
def walk (d : MemoryDisk) (p : Pieces) : Except DiskFault Place :=
  match p.reverse with
  | [] | [""] => .error .missing
  | "" :: names => names.foldlM d.step []
  | names => names.foldlM d.step d.home

def checkPath (path : String) : Except DiskFault Unit :=
  if path.utf8ByteSize > pathLimit then .error .nameTooLong else .ok ()

/-- The place of a path. -/
def place (d : MemoryDisk) (path : String) : Except DiskFault Place := do
  checkPath path
  d.walk (.ofPath path)

/-! ## Texts -/

def read (d : MemoryDisk) (path : String) : Except DiskFault String := do
  let p ← d.place path
  if d.isFolder p then .error .isAFolder
  match d.files.get? p with
  | some text => .ok text
  | none => .error .missing

def write (d : MemoryDisk) (path text : String) : Except DiskFault MemoryDisk := do
  let p ← d.place path
  if d.isFolder p then .error .isAFolder
  return { d with files := d.files.insert p text }

/-! ## Folders -/

/-- The place of a path to a folder. The slashes at its end ask for nothing more. -/
def folderPlace (d : MemoryDisk) (path : String) : Except DiskFault Place := do
  checkPath path
  let p := Pieces.ofPath path
  d.walk (if p.all (·.isEmpty) then p else p.dropWhile (·.isEmpty))

/-- Make one folder, unless it is there. -/
def makeFolder (d : MemoryDisk) (path : String) : Except DiskFault MemoryDisk := do
  let p ← d.folderPlace path
  if d.isFile p then .error .exists
  return if d.isFolder p then d else { d with folders := d.folders ++ [p] }

/-- A change of the disk, which is left alone by a failure. -/
def change (f : MemoryDisk → Except DiskFault MemoryDisk) :
    StateM MemoryDisk (Except DiskFault Unit) := fun d =>
  match f d with
  | .ok d => (.ok (), d)
  | .error e => (.error e, d)

instance : Disk (StateM MemoryDisk) where
  readText path := do return (← get).read path
  ensureFolder path := change (·.makeFolder path)
  writeText path text := change (·.write path text)

end MemoryDisk

end ScreenEffects
