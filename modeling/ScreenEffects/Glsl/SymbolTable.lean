import ScreenEffects.Glsl.Declaration

/-!
# The symbols of an effect

The functions and varyings that an effect's fragment and vertex bodies declare, and the entry
points among them. A vertex body counts only if it defines the entry point `mainSupport`.
-/

namespace ScreenEffects.Glsl

/-- The declarations of one effect. -/
structure SymbolTable where
  /-- Functions of the fragment body. -/
  functions : List String
  /-- Functions of the vertex body. -/
  vertexFunctions : List String
  /-- Varyings of the vertex body. -/
  varyings : List String
  /-- `mainSupport` takes the coordinates. -/
  supportReadsUv : Bool
  deriving DecidableEq

namespace SymbolTable

/-- The symbols of a fragment body and of the vertex body, if there is one. -/
def scan (fragment : String) (vertex : Option String) : SymbolTable :=
  let functions := functionsOf fragment
  let vertexFunctions := (vertex.map functionsOf).getD []
  match vertex with
  | some source =>
    if "mainSupport" ∈ vertexFunctions then
      ⟨functions, vertexFunctions, varyingsOf source, Glsl.supportReadsUv source⟩
    else ⟨functions, [], [], false⟩
  | none => ⟨functions, [], [], false⟩

/-- The fragment body shades a colour. -/
def hasMainImage (t : SymbolTable) : Bool := t.functions.contains "mainImage"

/-- The fragment body moves the coordinates. -/
def hasMainUv (t : SymbolTable) : Bool := t.functions.contains "mainUv"

/-- The vertex body takes part. -/
def hasMainSupport (t : SymbolTable) : Bool := t.vertexFunctions.contains "mainSupport"

/-- Every declared name, varyings first. -/
def names (t : SymbolTable) : List String := t.varyings ++ t.vertexFunctions ++ t.functions

end SymbolTable

end ScreenEffects.Glsl
