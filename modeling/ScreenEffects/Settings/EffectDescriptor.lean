import ScreenEffects.Effect.Hosted
import ScreenEffects.Settings.UniformValue

/-!
# Effects in settings

The description of an effect in a settings file. Only the name and the fragment body must be there;
an effect is blended by `normal` with full opacity unless the file says otherwise.
-/

namespace ScreenEffects

open Json

/-- The description of an effect. -/
structure EffectDescriptor where
  name : String
  fragment : String
  vertex : Option String := none
  defines : NamedMap String := ∅
  uniforms : NamedMap UniformValue := ∅
  extensions : ExtensionSet := ∅
  attributes : Attributes := .none
  blend : BlendFunction := .normal
  opacity : Float32 := 1

def Attributes.ofTree? (t : Tree) : Option Attributes := t.text?.bind Attributes.ofName?

def Extension.ofTree? (t : Tree) : Option Extension := t.text?.bind Extension.ofName?

/-- A blend function under its exact name. -/
def BlendFunction.ofTree? (t : Tree) : Option BlendFunction :=
  t.oneOf? (BlendFunction.all.map fun f => (f.name, f))

namespace EffectDescriptor

/-- The fields of a description. -/
def fieldNames : List String :=
  ["name", "fragmentShader", "vertexShader", "defines", "uniforms", "extensions", "attributes",
    "blendFunction", "opacity"]

/-- The description in a settings tree. -/
def ofTree? (t : Tree) : Option EffectDescriptor := do
  let fields ← t.record? fieldNames
  return {
    name := ← Tree.required? fields "name" Tree.text?
    fragment := ← Tree.required? fields "fragmentShader" Tree.text?
    vertex := ← Tree.optional? fields "vertexShader" (Tree.nullable? Tree.text?) none
    defines := ← Tree.optional? fields "defines" definesOfTree? ∅
    uniforms := ← Tree.optional? fields "uniforms" uniformsOfTree? ∅
    extensions := .ofList
      (← Tree.optional? fields "extensions" (Tree.list? Extension.ofTree?) [])
    attributes := .unions
      (← Tree.optional? fields "attributes" (Tree.list? Attributes.ofTree?) [])
    blend := ← Tree.optional? fields "blendFunction" BlendFunction.ofTree? .normal
    opacity := ← Tree.optional? fields "opacity" Tree.float32? 1 }

/-- The effect of a description, with uniforms of its own. -/
def toEffect (d : EffectDescriptor) (s : UniformStore) : Effect × UniformStore :=
  let (uniforms, s) := s.allocMap d.uniforms
  let (blend, s) := BlendMode.create d.blend d.opacity s
  ({ name := d.name, fragment := d.fragment, vertex := d.vertex, defines := d.defines, uniforms,
      extensions := d.extensions, attributes := d.attributes, blend }, s)

/-- The descriptions of a settings file. -/
def parseAll? (text : String) : Option (List EffectDescriptor) :=
  (Tree.parse? text).bind (Tree.list? ofTree?)

end EffectDescriptor

end ScreenEffects
