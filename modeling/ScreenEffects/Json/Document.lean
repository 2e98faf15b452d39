/-!
# Documents

A tree to be written as text, on one line or with two spaces of indentation per level. Strings are
written with the escapes that must be: the quote, the backslash and the control characters. A record
is written in the order of its fields; `Document.sorted` makes one in the order of its keys.
-/

namespace ScreenEffects.Json

inductive Document
  | null
  | bool (b : Bool)
  | int (n : Int)
  | text (s : String)
  | list (items : List Document)
  | record (fields : List (String × Document))

instance : Inhabited Document := ⟨.null⟩

/-- A whole number. -/
def Document.nat (n : Nat) : Document := .int n

/-- A text, or nothing. -/
def Document.textOrNull : Option String → Document
  | some s => .text s
  | none => .null

/-- A record in the order of its keys. -/
def Document.sorted (fields : List (String × Document)) : Document :=
  .record (fields.mergeSort fun a b => decide (a.1 ≤ b.1))

/-! ## Strings -/

/-- A character of a string. -/
def writtenChar (c : Char) : List Char :=
  match c with
  | '"' => ['\\', '"']
  | '\\' => ['\\', '\\']
  | '\n' => ['\\', 'n']
  | '\r' => ['\\', 'r']
  | '\t' => ['\\', 't']
  | c =>
    if c.toNat = 8 then ['\\', 'b']
    else if c.toNat = 12 then ['\\', 'f']
    else if c.toNat < 0x20 then
      ['\\', 'u', '0', '0', Nat.digitChar (c.toNat / 16), Nat.digitChar (c.toNat % 16)]
    else [c]

/-- A string with its quotes. -/
def writtenString (s : String) : String := .ofList ('"' :: s.toList.flatMap writtenChar ++ ['"'])

/-! ## On one line -/

mutual

/-- The document on one line. -/
def Document.compact : Document → String
  | .null => "null"
  | .bool b => if b then "true" else "false"
  | .int n => toString n
  | .text s => writtenString s
  | .list items => "[" ++ ",".intercalate (compactItems items) ++ "]"
  | .record fields => "\x7b" ++ ",".intercalate (compactFields fields) ++ "\x7d"

def compactItems : List Document → List String
  | [] => []
  | d :: ds => d.compact :: compactItems ds

def compactFields : List (String × Document) → List String
  | [] => []
  | (k, d) :: fs => (writtenString k ++ ":" ++ d.compact) :: compactFields fs

end

/-! ## Indented -/

/-- Lines between two brackets, one level further in; brackets that hold nothing are not parted. -/
def indented (level : Nat) (left right : String) (lines : List String) : String :=
  if lines.isEmpty then left ++ right
  else
    let inner := "\n" ++ "".pushn ' ' (2 * level + 2)
    left ++ inner ++ ("," ++ inner).intercalate lines ++ "\n" ++ "".pushn ' ' (2 * level) ++ right

mutual

/-- The document over several lines, at the given level of indentation. -/
def Document.prettyAt (level : Nat) : Document → String
  | .null => "null"
  | .bool b => if b then "true" else "false"
  | .int n => toString n
  | .text s => writtenString s
  | .list items => indented level "[" "]" (prettyItems (level + 1) items)
  | .record fields => indented level "\x7b" "\x7d" (prettyFields (level + 1) fields)

def prettyItems (level : Nat) : List Document → List String
  | [] => []
  | d :: ds => d.prettyAt level :: prettyItems level ds

def prettyFields (level : Nat) : List (String × Document) → List String
  | [] => []
  | (k, d) :: fs => (writtenString k ++ ": " ++ d.prettyAt level) :: prettyFields level fs

end

/-- The document over several lines. -/
def Document.pretty (d : Document) : String := d.prettyAt 0

end ScreenEffects.Json
