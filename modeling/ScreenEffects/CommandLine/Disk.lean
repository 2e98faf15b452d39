/-!
# Disks

What the program needs of a disk: to read a text, to make a folder, to write a text. A disk answers in
a monad `m`, so that the program runs on the disk of the machine as well as on one in memory.

A folder is made together with those around it that are missing. Which folders these are is read off
the path alone: the path is taken piece by piece from its end, and a piece that is empty or a point
goes with the piece before it.

* `createFolders` makes the folder of a path and those around it.
* `length_outer_lt` is why that ends.
-/

namespace ScreenEffects

/-- Why a disk refused. -/
inductive DiskFault
  | missing
  | denied
  | exists
  | notAFolder
  | isAFolder
  | nameTooLong
  /-- What was read is no text. -/
  | notText
  /-- Any other reason, in the words of the disk. -/
  | other (reason : String)
  deriving DecidableEq

/-- A reason of the operating system, with its number. -/
def systemReason (reason : String) (code : Nat) : String :=
  reason ++ " (os error " ++ toString code ++ ")"

def DiskFault.message : DiskFault → String
  | missing => systemReason "No such file or directory" 2
  | denied => systemReason "Permission denied" 13
  | .exists => systemReason "File exists" 17
  | notAFolder => systemReason "Not a directory" 20
  | isAFolder => systemReason "Is a directory" 21
  | nameTooLong => systemReason "File name too long" 36
  | notText => "stream did not contain valid UTF-8"
  | other reason => reason

class Disk (m : Type → Type) where
  readText : (path : String) → m (Except DiskFault String)
  /-- Make one folder; a folder that is there is left alone. -/
  ensureFolder : (path : String) → m (Except DiskFault Unit)
  writeText : (path text : String) → m (Except DiskFault Unit)

/-- The path of a file in a folder. -/
def inFolder (folder file : String) : String :=
  if folder.endsWith "/" then folder ++ file else folder ++ "/" ++ file

/-! ## Paths in pieces -/

/-- The pieces of a path between its slashes, the last one first. -/
abbrev Pieces := List String

namespace Pieces

def ofPath (path : String) : Pieces := (path.splitOn "/").reverse

def toPath (p : Pieces) : String := "/".intercalate p.reverse

/-- The pieces without the empty ones and the points at the end of the path. The first piece of the
path is kept: an empty one stands for the outermost folder. -/
def dropIdle : Pieces → Pieces
  | [] => []
  | [a] => [a]
  | a :: b :: r => if a = "" ∨ a = "." then dropIdle (b :: r) else a :: b :: r

/-- The path leads to the outermost folder, or nowhere. -/
def isOutermost (p : Pieces) : Bool := p.dropIdle.all (·.isEmpty)

/-- The path of the folder around. -/
def outer (p : Pieces) : Pieces := dropIdle p.dropIdle.tail

theorem length_dropIdle_le (p : Pieces) : p.dropIdle.length ≤ p.length := by
  fun_induction dropIdle p with
  | case1 => exact Nat.le_refl _
  | case2 => exact Nat.le_refl _
  | case3 a b r _ ih => exact Nat.le_trans ih (Nat.le_succ _)
  | case4 => exact Nat.le_refl _

theorem length_outer_lt {p : Pieces} (h : p ≠ []) : p.outer.length < p.length := by
  have h₁ := length_dropIdle_le p.dropIdle.tail
  have h₂ := length_dropIdle_le p
  have h₃ := List.length_pos_iff.2 h
  rw [List.length_tail] at h₁
  unfold outer
  omega

end Pieces

/-! ## Folders -/

variable {m : Type → Type} [Monad m] [Disk m]

/-- Make the folder of a path in pieces. If something around it is missing, that is made first. -/
def ensurePieces (p : Pieces) : m (Except DiskFault Unit) := do
  if _h : p.isOutermost then return .ok ()
  else
    match ← Disk.ensureFolder p.toPath with
    | .error .missing =>
      match ← ensurePieces p.outer with
      | .ok () => Disk.ensureFolder p.toPath
      | .error e => return .error e
    | r => return r
termination_by p.length
decreasing_by exact Pieces.length_outer_lt fun e => _h (e ▸ rfl)

/-- Make a folder and the folders around it; those that are there are left alone. -/
def createFolders (path : String) : m (Except DiskFault Unit) := ensurePieces (.ofPath path)

end ScreenEffects
