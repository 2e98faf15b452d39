import ScreenEffects.Json.Document
import ScreenEffects.Pass.Effects

/-!
# Reports

What is said about a merged program, in three forms: the report of a merge as a document, the warnings
in it, and the table of the blend functions.
-/

namespace ScreenEffects

open Json

/-- A warning in words. -/
def BudgetWarning.message : BudgetWarning → String
  | .uniforms count max =>
    toString count ++ " uniforms exceed the limit of " ++ toString max
  | .varyings count max =>
    toString count ++ " varyings exceed the limit of " ++ toString max

/-- A list of texts. -/
def textList (texts : List String) : Document := .list (texts.map .text)

/-- The report of a merge of effects with the given names, for a device with the usual limits. -/
def mergeReport (names : List String) (m : Merged) : Document := .sorted [
  ("effects", textList names),
  ("activeEffects", .list (m.active.map .nat)),
  ("skipRendering", .bool m.isIdle),
  ("attributes", .sorted [
    ("depth", .bool (m.attributes.contains .ofDepth)),
    ("convolution", .bool (m.attributes.contains .ofConvolution))]),
  ("uvTransformed", .bool m.movesUv),
  ("readDepth", .bool m.readsDepth),
  ("blendFunctions", textList (m.blends.map (·.name))),
  ("defines", .sorted (m.defines.entries.map fun (name, text) => (name, .text text))),
  ("uniforms", textList m.uniforms.keys),
  ("extensions", textList (m.extensions.toList.map (·.name))),
  ("uniformCount", .nat m.uniformCount),
  ("varyingCount", .nat m.varyings),
  ("budgetWarnings", textList ((budgetWarnings m {}).map (·.message)))]

/-! ## The table of blend functions -/

/-- A text with spaces after it, up to a number of characters. -/
def padded (width : Nat) (text : String) : String := text.pushn ' ' (width - text.length)

/-- A line of the table. -/
def tableLine (id name symbol safe : String) : String :=
  padded 4 id ++ " " ++ padded 14 name ++ " " ++ padded 8 symbol ++ " " ++ safe ++ "\n"

/-- The line of a function; one without a text has no symbol. -/
def BlendFunction.tableLine (f : BlendFunction) : String :=
  ScreenEffects.tableLine (toString f.id) f.name (if f.snippet?.isSome then f.symbol else "-")
    (if f.isHdrSafe then "true" else "false")

/-- The table of all blend functions. -/
def blendTable : String :=
  tableLine "id" "name" "symbol" "hdr-safe" ++
    String.join (BlendFunction.all.map BlendFunction.tableLine)

end ScreenEffects
