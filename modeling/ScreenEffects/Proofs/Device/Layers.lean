import ScreenEffects.Device.Basic

/-!
# Layers of objects

The layers of an object are the bits of a word. Putting an object on a layer and taking it off
changes the word of that object alone, and of this word one bit. Objects start on layer 0, whose
bit is the word 1, so a change on any other layer leaves it as it is.

* `layerMask_enableLayer` and `layerMask_disableLayer` : the layers after one call.
* `layerMask_foldl` : the layers after a loop over distinct objects.
-/

namespace ScreenEffects

/-- The bit of a layer. -/
def layerBit (layer : UInt8) : UInt32 := 1 <<< layer.toUInt32

theorem layerBit_zero : layerBit 0 = 1 := by decide

/-! ## Words -/

theorem word_or_and_right (a b c : UInt32) : (a ||| b) &&& c = a &&& c ||| b &&& c := by
  rw [← UInt32.toBitVec_inj]
  simp only [UInt32.toBitVec_and, UInt32.toBitVec_or]
  ext i
  simp [Bool.and_or_distrib_right]

/-- What holds of the numbers of the layers holds of the layers. -/
theorem forall_layer {p : UInt8 → Prop} (numbers : ∀ n < 32, p (.ofNat n)) {layer : UInt8}
    (h : layer.toNat < 32) : p layer :=
  UInt8.ofNat_toNat (x := layer) ▸ numbers layer.toNat h

section OtherLayer

variable {layer : UInt8} (lt : layer.toNat < 32) (ne : layer ≠ 0)

include lt ne

theorem layerBit_and_one : layerBit layer &&& 1 = 0 :=
  forall_layer (p := fun layer => layer ≠ 0 → layerBit layer &&& 1 = 0) (by decide) lt ne

theorem not_layerBit_and_one : ~~~layerBit layer &&& 1 = 1 :=
  forall_layer (p := fun layer => layer ≠ 0 → ~~~layerBit layer &&& 1 = 1) (by decide) lt ne

/-- On no layer but 0, putting on the layer changes nothing on layer 0. -/
theorem or_layerBit_and_one (m : UInt32) : (m ||| layerBit layer) &&& 1 = m &&& 1 := by
  rw [word_or_and_right, layerBit_and_one lt ne, UInt32.or_zero]

/-- An object that is taken off another layer than 0 stays on layer 0. -/
theorem one_and_not_layerBit : 1 &&& ~~~layerBit layer = 1 := by
  rw [UInt32.and_comm, not_layerBit_and_one lt ne]

theorem one_or_and_not_layerBit : (1 ||| layerBit layer) &&& ~~~layerBit layer = 1 := by
  rw [word_or_and_right, one_and_not_layerBit lt ne, UInt32.and_not_self, UInt32.or_zero]

/-- Whether it was on the layer or not, an object that is taken off it is on layer 0 alone. -/
theorem ite_and_not_layerBit (p : Prop) [Decidable p] :
    (if p then 1 ||| layerBit layer else 1) &&& ~~~layerBit layer = 1 := by
  split
  · exact one_or_and_not_layerBit lt ne
  · exact one_and_not_layerBit lt ne

end OtherLayer

/-- Whether it was on the layer or not, an object that is put on it is. -/
theorem ite_or_layerBit (layer : UInt8) (p : Prop) [Decidable p] :
    (if p then 1 ||| layerBit layer else 1) ||| layerBit layer = 1 ||| layerBit layer := by
  split
  · rw [UInt32.or_assoc, UInt32.or_self]
  · rfl

/-- An object that is taken off a layer stays on layer 0 exactly if this is another layer. -/
theorem and_not_layerBit_and_one_iff {layer : UInt8} (lt : layer.toNat < 32) (m : UInt32) :
    m &&& ~~~layerBit layer &&& 1 = 1 ↔ m &&& 1 = 1 ∧ layer ≠ 0 := by
  by_cases h : layer = 0
  · have none : m &&& ~~~layerBit layer &&& 1 = 0 := by
      rw [h, layerBit_zero, UInt32.and_assoc, UInt32.and_comm (~~~1), UInt32.and_not_self,
        UInt32.and_zero]
    rw [none]
    exact iff_of_false (by decide) fun kept => kept.2 h
  · rw [UInt32.and_assoc, not_layerBit_and_one lt h]
    exact (and_iff_left h).symm

/-! ## Calls -/

namespace Device

theorem layerMask_of_layers {d : Device} (h : d.layers = ∅) (o : SceneObject) :
    d.layerMask o = 1 := by
  rw [layerMask, h]
  rfl

theorem layerMask_enableLayer (d : Device) (o : SceneObject) (layer : UInt8) (x : SceneObject) :
    (d.enableLayer o layer).layerMask x =
      if x = o then d.layerMask x ||| layerBit layer else d.layerMask x := by
  simp only [enableLayer, layerMask, OrderedMap.get?_insert]
  split
  · rename_i h
    rw [h]
    rfl
  · rfl

theorem layerMask_disableLayer (d : Device) (o : SceneObject) (layer : UInt8) (x : SceneObject) :
    (d.disableLayer o layer).layerMask x =
      if x = o then d.layerMask x &&& ~~~layerBit layer else d.layerMask x := by
  simp only [disableLayer, layerMask, OrderedMap.get?_insert]
  split
  · rename_i h
    rw [h]
    rfl
  · rfl

/-- A loop that does the same to each of distinct objects has done it to each of them. -/
theorem layerMask_foldl {f : Device → SceneObject → Device} {g : UInt32 → UInt32}
    (step : ∀ d o x, (f d o).layerMask x = if x = o then g (d.layerMask x) else d.layerMask x)
    {os : List SceneObject} (nodup : os.Nodup) (d : Device) (x : SceneObject) :
    (os.foldl f d).layerMask x = if x ∈ os then g (d.layerMask x) else d.layerMask x := by
  induction os generalizing d with
  | nil => rw [List.foldl_nil, if_neg List.not_mem_nil]
  | cons o os ih =>
    obtain ⟨once, nodup⟩ := List.nodup_cons.1 nodup
    rw [List.foldl_cons, ih nodup, step]
    by_cases h : x = o
    · subst h
      rw [if_neg once, if_pos rfl, if_pos List.mem_cons_self]
    · rw [if_neg h]
      simp only [List.mem_cons, h, false_or]

end Device

end ScreenEffects
