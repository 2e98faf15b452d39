import ScreenEffects.Effect.Basic
import ScreenEffects.Glsl.Rename
import ScreenEffects.Glsl.SymbolTable
import ScreenEffects.Blend.Snippet

/-!
# Contributions

What one effect adds to a merged program. The active effects are ranked from 0 on; the effect of
rank `k` has the mark `ek` put before each symbol it declares, and this is the only way in which its
contribution depends on the others. A contribution is text for the gaps of the program, macros,
uniforms and needs.

* `Contribution.of` computes the contribution from the effect, its rank and nothing else.
-/

namespace ScreenEffects

open Glsl

/-- The symbols of an effect. -/
def Effect.symbols (e : Effect) : SymbolTable := .scan e.fragment e.vertex

/-- The mark of the effect of rank `k`. -/
def rankMark (k : Nat) : String := "e" ++ toString k

/-- What one effect adds to a merged program. -/
structure Contribution where
  fragmentHead : String := ""
  mainUv : String := ""
  mainImage : String := ""
  vertexHead : String := ""
  mainSupport : String := ""
  defines : DefineMap := ∅
  uniforms : UniformMap := ∅
  varyings : Nat := 0
  movesUv : Bool := false
  readsDepth : Bool := false

namespace Contribution

/-- The new names of an effect's symbols: of what its bodies declare, of its uniforms and of its
macros. -/
def renames (mark : String) (e : Effect) (symbols : SymbolTable) : Renames :=
  .ofList ((symbols.names ++ e.uniforms.keys ++ e.defines.keys.map Effect.macroName).map
    fun name => (name, marked mark name))

/-- The effect shades by the depth of the scene: it asks for depth, and its text names it. -/
def shadesByDepth (e : Effect) (symbols : SymbolTable) : Bool :=
  symbols.hasMainImage && e.attributes.depth && references e.fragment "depth"

/-- The symbol of the effect's opacity. -/
def opacityName (mark : String) : String := marked mark "blendOpacity"

/-- The effect's own uniforms under their new names, and the opacity it is laid over with. -/
def mergedUniforms (mark : String) (e : Effect) (symbols : SymbolTable) : UniformMap :=
  let own := OrderedMap.ofList (e.uniforms.entries.map fun (name, u) => (marked mark name, u))
  if symbols.hasMainImage then own.insert (opacityName mark) e.blend.opacity else own

/-- The macros with the new names, in their keys and in their texts. -/
def mergedDefines (table : Renames) (e : Effect) : DefineMap :=
  .ofList (e.defines.entries.map fun (key, value) => (rename key table, rename value table))

/-- The call of the shading function and the line that lays its colour over the one below. -/
def shadingLines (mark : String) (e : Effect) (symbols : SymbolTable) : String :=
  "\t" ++ mark ++ "MainImage(color0, UV, " ++
    (if shadesByDepth e symbols then "depth, " else "") ++ "color1);\n" ++
  "\tcolor0 = " ++ e.blend.function.symbol ++ "(color0, color1, " ++ opacityName mark ++ ");\n\n"

/-- The contribution of the effect `e` as the one of rank `k`. -/
def of (k : Nat) (e : Effect) : Contribution :=
  let mark := rankMark k
  let symbols := e.symbols
  let table := renames mark e symbols
  { fragmentHead :=
      (if symbols.hasMainImage then "uniform float " ++ opacityName mark ++ ";\n\n" else "") ++
        rename e.fragment table ++ "\n"
    mainUv := if symbols.hasMainUv then "\t" ++ mark ++ "MainUv(UV);\n" else ""
    mainImage := if symbols.hasMainImage then shadingLines mark e symbols else ""
    vertexHead :=
      if symbols.hasMainSupport then
        (e.vertex.map fun v => rename v table ++ "\n").getD ""
      else ""
    mainSupport :=
      if symbols.hasMainSupport then
        "\t" ++ mark ++ "MainSupport(" ++ (if symbols.supportReadsUv then "vUv" else "") ++ ");\n"
      else ""
    defines := mergedDefines table e
    uniforms := mergedUniforms mark e symbols
    varyings := if symbols.hasMainSupport then symbols.varyings.length else 0
    movesUv := symbols.hasMainUv
    readsDepth := shadesByDepth e symbols }

end Contribution

end ScreenEffects
