import ScreenEffects.Glsl.Token
import ScreenEffects.OrderedMap
import ScreenEffects.Text.Capital

/-!
# Renaming symbols

Effects that share a program must not share symbols, so each symbol an effect declares is renamed
throughout its text. A rename table replaces identifiers by whole tokens, outside comments and
numbers, and leaves member accesses alone.

* `rename_empty` : without entries the text stays as it is.
* `references` finds the identifiers that `rename` would replace.
-/

namespace ScreenEffects.Glsl

/-- New names by old ones. -/
abbrev Renames := NamedMap String

/-- The characters a token is written with once the table is applied. -/
def Token.renamed (table : Renames) : Token → List Char
  | .identifier l false =>
    match table.get? (.ofList l) with
    | some new => new.toList
    | none => l
  | t => t.lexeme

/-- The text with every identifier of the table replaced, member accesses excepted. -/
def rename (source : String) (table : Renames) : String :=
  if table.isEmpty then source
  else .ofList ((tokenize source).flatMap (·.renamed table))

/-- The token is the identifier `name`, and no member access. -/
def Token.isReference (name : String) : Token → Bool
  | .identifier l false => .ofList l == name
  | _ => false

/-- The name occurs as an identifier, outside comments and not as a member. -/
def references (source name : String) : Bool := (tokenize source).any (·.isReference name)

/-- The mark followed by the name with its first letter in upper case. -/
def marked (mark name : String) : String := mark ++ .ofList (capitalize name.toList)

theorem rename_empty (source : String) : rename source ∅ = source := rfl

end ScreenEffects.Glsl
