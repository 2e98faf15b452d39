import ScreenEffects.Merge.Contribution
import ScreenEffects.Glsl.Template
import ScreenEffects.Fault

/-!
# Merging effects

A list of effects becomes one program. The active effects are taken in order; each is checked
against those before it, and what it contributes is appended. The colour is a fold over the list:
every shading call is followed by the line that lays its colour over the colour so far. An effect
that is blended by `skip` contributes nothing, except that its need for depth is kept.

* `Draft.conflict?` is the check of the next effect, `Draft.add` its integration.
* `merge` is the whole: the same list always gives the same program.
-/

namespace ScreenEffects

open Glsl

/-- The set of blend functions in use, listed by number. -/
abbrev BlendSet := RankedSet BlendFunction BlendFunction.id

/-- A merge under way: the texts, tables and needs of the effects taken so far. -/
structure Draft where
  fragmentHead : String := ""
  mainUv : String := ""
  mainImage : String := ""
  vertexHead : String := ""
  mainSupport : String := ""
  defines : DefineMap := ∅
  uniforms : UniformMap := ∅
  extensions : ExtensionSet := ∅
  blends : BlendSet := ∅
  attributes : Attributes := .none
  movesUv : Bool := false
  readsDepth : Bool := false
  varyings : Nat := 0
  /-- The places of the active effects in the list. -/
  active : List Nat := []

/-- A merged program, with what is known about it. -/
structure Merged where
  fragment : String
  vertex : String
  /-- The macros of the effects, then `UV`. -/
  defines : DefineMap
  /-- The uniforms of the effects and their opacities: the effects' own handles. -/
  uniforms : UniformMap
  extensions : ExtensionSet
  /-- The needs of the active effects, and the need for depth of skipped ones. -/
  attributes : Attributes
  /-- The blend functions in use, by number. -/
  blends : List BlendFunction
  movesUv : Bool
  readsDepth : Bool
  varyings : Nat
  /-- The places of the active effects in the list. -/
  active : List Nat

namespace Merged

/-- No effect takes part: there is nothing to draw. -/
def isIdle (m : Merged) : Bool := m.active.isEmpty

def needsSwap (m : Merged) : Bool := !m.isIdle

def needsDepthTexture (m : Merged) : Bool := m.attributes.depth

def uniformCount (m : Merged) : Nat := m.uniforms.size

end Merged

namespace Draft

/-- The rank of the next active effect. -/
def rank (d : Draft) : Nat := d.active.length

/-- What forbids `e` as the next active effect. A second convolution is seen first, then the entry
points, then a convolution that meets moved coordinates. -/
def conflict? (d : Draft) (e : Effect) : Option MergeConflict :=
  let symbols := e.symbols
  let own := e.attributes.convolution
  if d.attributes.convolution && own then some .multipleConvolutions
  else if !symbols.hasMainImage && !symbols.hasMainUv then some .missingEntryPoint
  else if symbols.hasMainImage && symbols.hasMainUv then some .ambiguousEntryPoint
  else if symbols.hasMainUv && (d.attributes.convolution || own) then
    some .uvTransformWithConvolution
  else if own && d.movesUv then some .uvTransformWithConvolution
  else none

/-- The draft with the active effect `e`, which stands at place `index` of the list. -/
def add (d : Draft) (index : Nat) (e : Effect) : Draft :=
  let c := Contribution.of d.rank e
  { fragmentHead := d.fragmentHead ++ c.fragmentHead
    mainUv := d.mainUv ++ c.mainUv
    mainImage := d.mainImage ++ c.mainImage
    vertexHead := d.vertexHead ++ c.vertexHead
    mainSupport := d.mainSupport ++ c.mainSupport
    defines := d.defines.extend c.defines
    uniforms := d.uniforms.extend c.uniforms
    extensions := d.extensions.union e.extensions
    blends := d.blends.insert e.blend.function
    attributes := d.attributes.union e.attributes
    movesUv := d.movesUv || c.movesUv
    readsDepth := d.readsDepth || c.readsDepth
    varyings := d.varyings + c.varyings
    active := d.active ++ [index] }

/-- The draft with a skipped effect, of which only the need for depth is kept. -/
def addSkipped (d : Draft) (e : Effect) : Draft :=
  { d with attributes := d.attributes.union (e.attributes.inter .ofDepth) }

/-- Take the effect at place `index` of the list. -/
def take (d : Draft) (index : Nat) (e : Effect) : Except MergeFault Draft :=
  if e.isActive then
    match d.conflict? e with
    | some conflict => .error ⟨e.name, index, conflict⟩
    | none => .ok (d.add index e)
  else .ok (d.addSkipped e)

/-- Take the effects of a list, whose first stands at place `index`. -/
def takeAll (d : Draft) (index : Nat) : List Effect → Except MergeFault Draft
  | [] => .ok d
  | e :: es =>
    match d.take index e with
    | .error f => .error f
    | .ok d => d.takeAll (index + 1) es

/-! ## The finished program -/

/-- The texts of the blend functions in use, each under its own symbol. -/
def blendText (blends : BlendSet) : String :=
  String.join (blends.toList.map fun f =>
    match f.snippet? with
    | some code => rename code (OrderedMap.ofList [("blend", f.symbol)]) ++ "\n"
    | none => "")

/-- A section ready for its gap: trimmed, and on a line of its own if it starts with a directive. -/
def gapText (text : String) : String :=
  let trimmed := trimText text
  if trimmed.toList.head? = some '#' then "\n" ++ trimmed else trimmed

/-- The text of the head of the fragment program. -/
def headText (d : Draft) : String := d.fragmentHead ++ blendText d.blends

/-- The text that shades the colour; the depth is read once, if some call is given it. -/
def imageText (d : Draft) : String :=
  (if d.attributes.depth && d.readsDepth then "float depth = readDepth(UV);\n\n" else "") ++
    d.mainImage

/-- The text that moves the coordinates. -/
def uvText (d : Draft) : String :=
  (if d.movesUv then "vec2 transformedUv = vUv;\n" else "") ++ d.mainUv

/-- The coordinates that the effects shade by. -/
def uvName (d : Draft) : String := if d.movesUv then "transformedUv" else "vUv"

/-- The program of all effects taken. -/
def finish (d : Draft) : Merged where
  fragment := fill effectFragment [
    (fragmentHeadGap, gapText d.headText),
    (mainUvGap, gapText d.uvText),
    (mainImageGap, gapText d.imageText)]
  vertex := fill effectVertex [
    (vertexHeadGap, gapText d.vertexHead),
    (mainSupportGap, gapText d.mainSupport)]
  defines := d.defines.insert "UV" d.uvName
  uniforms := d.uniforms
  extensions := d.extensions
  attributes := d.attributes
  blends := d.blends.toList
  movesUv := d.movesUv
  readsDepth := d.readsDepth
  varyings := d.varyings
  active := d.active

end Draft

/-- Merge a list of effects into one program. -/
def merge (effects : List Effect) : Except MergeFault Merged :=
  (Draft.takeAll {} 0 effects).map Draft.finish

end ScreenEffects
