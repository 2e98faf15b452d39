import ScreenEffects.OrderedMap
import ScreenEffects.Uniform.Value

/-!
# Shared uniforms

A uniform is shared by name: an effect keeps the same handle in its own table that the merged
program binds, so an effect that writes its uniform changes what is drawn without a new merge. The
values lie in a store, and a handle is a place in it.

* `get_set` reads a store after a write: the written handle has the new value, any other the old.
* `get_alloc` says that a new handle changes the value of none there was.
-/

namespace ScreenEffects

/-- A handle on a uniform: two handles are the same uniform when they are equal. -/
structure Uniform where
  place : Nat
  deriving DecidableEq, Inhabited

/-- A table of uniforms by the name under which a shader declares them. -/
abbrev UniformMap := NamedMap Uniform

/-- A table of macros: the name, or the name with its parameters, and the text it stands for. -/
abbrev DefineMap := NamedMap String

/-- The values of all uniforms there are. -/
structure UniformStore where
  cells : Array UniformValue := #[]

namespace UniformStore

instance : Inhabited UniformStore := ⟨{}⟩

/-- A new uniform with the value `v`. -/
def alloc (s : UniformStore) (v : UniformValue) : Uniform × UniformStore :=
  (⟨s.cells.size⟩, ⟨s.cells.push v⟩)

/-- The value of `u`. -/
def get (s : UniformStore) (u : Uniform) : UniformValue := s.cells.getD u.place default

/-- Give `u` the value `v`. -/
def set (s : UniformStore) (u : Uniform) (v : UniformValue) : UniformStore :=
  ⟨s.cells.setIfInBounds u.place v⟩

/-- A handle made by the store. -/
def Holds (s : UniformStore) (u : Uniform) : Prop := u.place < s.cells.size

/-- New uniforms for a table of values, in its order. -/
def allocMap (s : UniformStore) (m : NamedMap UniformValue) : UniformMap × UniformStore :=
  m.entries.foldl (fun (us, s) (name, v) =>
    let (u, s) := s.alloc v
    (us.insert name u, s)) (∅, s)

theorem get_set {s : UniformStore} {u w : Uniform} {v : UniformValue} (h : s.Holds u) :
    (s.set u v).get w = if w = u then v else s.get w := by
  cases u; cases w
  simp only [Holds] at h
  simp only [get, set, Array.getD_eq_getD_getElem?, Array.getElem?_setIfInBounds, Uniform.mk.injEq]
  split <;> simp_all [eq_comm]

theorem get_set_of_ne {s : UniformStore} {u w : Uniform} (h : w ≠ u) (v : UniformValue) :
    (s.set u v).get w = s.get w := by
  by_cases hu : s.Holds u
  · rw [get_set hu, if_neg h]
  · unfold Holds at hu
    simp [get, set, Array.setIfInBounds, hu]

theorem size_set (s : UniformStore) (u : Uniform) (v : UniformValue) :
    (s.set u v).cells.size = s.cells.size :=
  Array.size_setIfInBounds ..

theorem get_alloc {s : UniformStore} {w : Uniform} {v : UniformValue} (h : s.Holds w) :
    (s.alloc v).2.get w = s.get w := by
  simp only [Holds] at h
  simp [get, alloc, Array.getD_eq_getD_getElem?, Array.getElem?_push, Nat.ne_of_lt h]

theorem get_alloc_self (s : UniformStore) (v : UniformValue) :
    (s.alloc v).2.get (s.alloc v).1 = v := by
  simp [get, alloc]

end UniformStore

end ScreenEffects
