import ScreenEffects.Json.Parse
import ScreenEffects.OrderedMap

/-!
# Reading values off a tree

A reader takes a tree to a value, or refuses. Readers are strict: a number is no string, a whole
number is written without point and exponent, and `null` stands for nothing but an optional value.
A record is an object of which some fields are known: these must not repeat, all others are ignored.
A map is an object whose fields are all read; a repeated key keeps its first place and takes the
last value.
-/

namespace ScreenEffects.Json.Tree

variable {α : Type}

def text? : Tree → Option String
  | .string s => s
  | _ => none

def bool? : Tree → Option Bool
  | .bool b => some b
  | _ => none

/-- A whole number of 64 bits. -/
def int? : Tree → Option Int
  | .numeral x => x.toInt?
  | _ => none

/-- A whole number from `lo` up to `hi`. -/
def intBetween? (lo hi : Int) (t : Tree) : Option Int := do
  let n ← t.int?
  if lo ≤ n ∧ n ≤ hi then some n else none

/-- A whole number of 32 bits without sign. -/
def uint32? (t : Tree) : Option UInt32 := do
  return .ofNat (← t.intBetween? 0 4294967295).toNat

/-- A whole number of 32 bits with sign. -/
def int32? (t : Tree) : Option Int32 := do
  return .ofInt (← t.intBetween? (-2147483648) 2147483647)

/-- A whole number without sign. -/
def nat? (t : Tree) : Option Nat := do
  return (← t.intBetween? 0 18446744073709551615).toNat

def float32? : Tree → Option Float32
  | .numeral x => x.toFloat32?
  | _ => none

/-- A list of what `item?` reads. -/
def list? (item? : Tree → Option α) : Tree → Option (List α)
  | .list items => items.mapM item?
  | _ => none

/-- A list of `n` floats. -/
def vector? (n : Nat) (t : Tree) : Option (Vector Float32 n) := do
  let fs ← t.list? float32?
  if h : fs.toArray.size = n then some ⟨fs.toArray, h⟩ else none

/-- One of the named values. -/
def oneOf? (named : List (String × α)) (t : Tree) : Option α := do
  named.lookup (← t.text?)

/-- The fields of an object, whose keys must be texts. -/
def fields? : Tree → Option (List (String × Tree))
  | .object fields => fields.mapM fun (key, v) => key.map (·, v)
  | _ => none

/-- A map of what `value?` reads. -/
def map? (value? : Tree → Option α) (t : Tree) : Option (NamedMap α) := do
  let entries ← (← t.fields?).mapM fun (key, v) => (value? v).map (key, ·)
  return .ofList entries

/-- The fields of a record: those that are known occur at most once. -/
def record? (known : List String) (t : Tree) : Option (List (String × Tree)) := do
  let fields := (← t.fields?).filter fun f => f.1 ∈ known
  if (fields.map (·.1)).Nodup then some fields else none

/-- A field that must be there. -/
def required? (fields : List (String × Tree)) (name : String) (value? : Tree → Option α) :
    Option α := do
  value? (← fields.lookup name)

/-- A field that may be missing. -/
def optional? (fields : List (String × Tree)) (name : String) (value? : Tree → Option α)
    (missing : α) : Option α :=
  match fields.lookup name with
  | some t => value? t
  | none => some missing

/-- A value, or `null` for none. -/
def nullable? (value? : Tree → Option α) : Tree → Option (Option α)
  | .null => some none
  | t => (value? t).map some

end ScreenEffects.Json.Tree
