import ScreenEffects.Json.Number

/-!
# Trees of settings

A settings text as a tree. The fields of an object keep their order and may repeat: what that means
is for the reader of the object to say (`Json/Read.lean`). A string whose escapes do not spell a
text is kept as one without value, because a field that nobody reads may hold it.
-/

namespace ScreenEffects.Json

/-- A settings tree. -/
inductive Tree
  | null
  | bool (b : Bool)
  | numeral (x : Numeral)
  /-- A string; `none` if it is no text. -/
  | string (s : Option String)
  | list (items : List Tree)
  | object (fields : List (Option String × Tree))

instance : Inhabited Tree := ⟨.null⟩

/-- A piece of a settings text. -/
inductive Token
  | leftBracket
  | rightBracket
  | leftBrace
  | rightBrace
  | comma
  | colon
  | null
  | bool (b : Bool)
  | numeral (x : Numeral)
  | string (s : Option String)

end ScreenEffects.Json
