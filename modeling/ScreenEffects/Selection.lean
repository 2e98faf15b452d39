import ScreenEffects.Device.Basic
import ScreenEffects.RankedSet

/-!
# Selections

A selection is a set of scene objects that share a layer. Selecting an object puts it on the layer
and deselecting takes it off again, so that a pass can draw the selected objects alone. A selection
may be switched off, which takes its objects off the layer and keeps the set.

The calls that move objects between layers go to any target that keeps layers; a device is one.
-/

namespace ScreenEffects

/-- Something that keeps the layers of objects. -/
class LayerTarget (τ : Type) where
  enableLayer : τ → SceneObject → UInt8 → τ
  disableLayer : τ → SceneObject → UInt8 → τ

instance : LayerTarget Device := ⟨Device.enableLayer, Device.disableLayer⟩

/-- A set of objects, listed by their ids. -/
abbrev ObjectSet := RankedSet SceneObject SceneObject.id

/-- A set of objects on a layer. -/
structure Selection where
  objects : ObjectSet := ∅
  layer : UInt8 := 10
  enabled : Bool := true

namespace Selection

/-- Layers are the bits of a word: they are numbered below this. -/
def layerCount : Nat := 32

def checkLayer (layer : UInt8) : Except Fault Unit :=
  if layer.toNat < layerCount then .ok ()
  else .error (.setting (.layerOutOfRange layer.toNat layerCount))

/-- An empty selection on a layer. -/
def ofLayer (layer : UInt8) : Except Fault Selection := do
  checkLayer layer
  return { layer }

def contains (s : Selection) (o : SceneObject) : Bool := s.objects.contains o

variable {τ : Type} [LayerTarget τ]

/-- Put objects on a layer. -/
def enableAll (os : List SceneObject) (layer : UInt8) (t : τ) : τ :=
  os.foldl (fun t o => LayerTarget.enableLayer t o layer) t

/-- Take objects off a layer. -/
def disableAll (os : List SceneObject) (layer : UInt8) (t : τ) : τ :=
  os.foldl (fun t o => LayerTarget.disableLayer t o layer) t

/-- Move the selection to a layer, object by object. -/
def setLayer (s : Selection) (layer : UInt8) (t : τ) : Except Fault (Selection × τ) := do
  checkLayer layer
  if layer = s.layer then return (s, t)
  let move (t : τ) (o : SceneObject) : τ :=
    let t := LayerTarget.disableLayer t o s.layer
    if s.enabled then LayerTarget.enableLayer t o layer else t
  return ({ s with layer }, s.objects.toList.foldl move t)

/-- Select an object. -/
def add (s : Selection) (o : SceneObject) (t : τ) : Selection × τ :=
  if s.contains o then (s, t)
  else
    ({ s with objects := s.objects.insert o },
      if s.enabled then LayerTarget.enableLayer t o s.layer else t)

/-- Deselect an object. -/
def delete (s : Selection) (o : SceneObject) (t : τ) : Selection × τ :=
  if s.contains o then
    ({ s with objects := s.objects.erase o }, LayerTarget.disableLayer t o s.layer)
  else (s, t)

/-- Select an object if it is not selected, and deselect it if it is. -/
def toggle (s : Selection) (o : SceneObject) (t : τ) : Selection × τ :=
  if s.contains o then s.delete o t else s.add o t

/-- Deselect every object. -/
def clear (s : Selection) (t : τ) : Selection × τ :=
  ({ s with objects := ∅ }, disableAll s.objects.toList s.layer t)

/-- Select the listed objects and no others. -/
def set (s : Selection) (os : List SceneObject) (t : τ) : Selection × τ :=
  os.foldl (fun (s, t) o => s.add o t) (s.clear t)

/-- Switch the selection on or off. -/
def setEnabled (s : Selection) (enabled : Bool) (t : τ) : Selection × τ :=
  if enabled = s.enabled then (s, t)
  else
    ({ s with enabled },
      if enabled then enableAll s.objects.toList s.layer t
      else disableAll s.objects.toList s.layer t)

end Selection

end ScreenEffects
