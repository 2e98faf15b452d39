import ScreenEffects.Json.Lexer

/-!
# From pieces to a tree

The pieces of a settings text are read from left to right by a machine that keeps the open lists and
objects on a stack. It moves by one piece at a time (`Machine.step`) and accepts if, after the last
piece, a tree is complete and nothing is open.
-/

namespace ScreenEffects.Json

/-- An open list or object, with what it holds so far, the last first. An object waits for the value
of `key`. -/
inductive Open
  | list (items : List Tree)
  | object (fields : List (Option String × Tree)) (key : Option String)

/-- What may come next. -/
inductive Mode
  /-- A value; also the end of the list, if it is still empty. -/
  | value (endsList : Bool)
  /-- A key of an object with the given fields; also its end, if it has none. -/
  | key (fields : List (Option String × Tree)) (endsObject : Bool)
  /-- The colon after the key on top of the stack. -/
  | colon
  /-- A value is complete. -/
  | complete (v : Tree)

/-- The machine: what is open, the innermost first, and what may come next. -/
structure Machine where
  stack : List Open := []
  mode : Mode := .value false

namespace Machine

/-- One piece further. -/
def step (m : Machine) (t : Token) : Option Machine :=
  match m.mode, t with
  | .value _, .null => some { m with mode := .complete .null }
  | .value _, .bool b => some { m with mode := .complete (.bool b) }
  | .value _, .numeral x => some { m with mode := .complete (.numeral x) }
  | .value _, .string s => some { m with mode := .complete (.string s) }
  | .value _, .leftBracket => some ⟨.list [] :: m.stack, .value true⟩
  | .value _, .leftBrace => some { m with mode := .key [] true }
  | .value true, .rightBracket =>
    match m.stack with
    | .list [] :: stack => some ⟨stack, .complete (.list [])⟩
    | _ => none
  | .key fields _, .string s => some ⟨.object fields s :: m.stack, .colon⟩
  | .key [] true, .rightBrace => some { m with mode := .complete (.object []) }
  | .colon, .colon => some { m with mode := .value false }
  | .complete v, .comma =>
    match m.stack with
    | .list items :: stack => some ⟨.list (v :: items) :: stack, .value false⟩
    | .object fields key :: stack => some ⟨stack, .key ((key, v) :: fields) false⟩
    | [] => none
  | .complete v, .rightBracket =>
    match m.stack with
    | .list items :: stack => some ⟨stack, .complete (.list (v :: items).reverse)⟩
    | _ => none
  | .complete v, .rightBrace =>
    match m.stack with
    | .object fields key :: stack =>
      some ⟨stack, .complete (.object ((key, v) :: fields).reverse)⟩
    | _ => none
  | _, _ => none

/-- The tree of a machine that has nothing open. -/
def result? (m : Machine) : Option Tree :=
  match m with
  | ⟨[], .complete v⟩ => some v
  | _ => none

end Machine

/-- The tree of a list of pieces. -/
def Tree.ofTokens? (ts : List Token) : Option Tree :=
  (ts.foldlM Machine.step {}).bind Machine.result?

/-- The tree of a settings text. -/
def Tree.parse? (text : String) : Option Tree := (lex? text.toList).bind Tree.ofTokens?

end ScreenEffects.Json
