import Mathlib.Order.BooleanAlgebra.Set
import ScreenEffects.Proofs.Device.Layers
import ScreenEffects.Selection

/-!
# Edits of a selection

What can be done to a selection that keeps its objects on a layer of a target: objects come and go,
the selection is switched on and off, and it moves to another layer (`Selection.Edit`). A move to a
layer that there is not is refused and leaves the selection and the target as they are.

An edit has two sides. What it does to the selection is what it would do to a plain set of objects, a
number and a switch (`plain_apply`). What it does to the target is a matter of a few changes, in each
of which the target is told of exactly the objects that are selected, let go, switched or moved
(`Change`); an edit does nothing, makes one change, or clears the selection and selects one object
after the other (`Edit.apply_cases`).
-/

namespace ScreenEffects.Selection

variable {τ : Type} [LayerTarget τ] {s : Selection} {o x : SceneObject}

instance : Membership SceneObject Selection := ⟨fun s o => s.contains o = true⟩

instance (o : SceneObject) (s : Selection) : Decidable (o ∈ s) :=
  inferInstanceAs (Decidable (s.contains o = true))

theorem mem_iff : o ∈ s ↔ o ∈ s.objects.toList := List.contains_iff_mem

/-- An edit of a selection. -/
inductive Edit
  | add (o : SceneObject)
  | delete (o : SceneObject)
  | toggle (o : SceneObject)
  | clear
  | set (os : List SceneObject)
  | setEnabled (enabled : Bool)
  | setLayer (layer : UInt8)
  deriving DecidableEq

/-- The selection and its target after an edit; a refused edit leaves both as they are. -/
def Edit.apply (edit : Edit) (state : Selection × τ) : Selection × τ :=
  match edit with
  | .add o => state.1.add o state.2
  | .delete o => state.1.delete o state.2
  | .toggle o => state.1.toggle o state.2
  | .clear => state.1.clear state.2
  | .set os => state.1.set os state.2
  | .setEnabled enabled => state.1.setEnabled enabled state.2
  | .setLayer layer =>
    match state.1.setLayer layer state.2 with
    | .ok next => next
    | .error _ => state

/-- The selection and its target after edits, one after the other. -/
def run (edits : List Edit) (state : Selection × τ) : Selection × τ :=
  edits.foldl (fun state edit => edit.apply state) state

/-- What a selection says: which objects are on which layer, and whether they are. -/
@[ext]
structure Plain where
  objects : Set SceneObject
  layer : UInt8
  enabled : Bool

def plain (s : Selection) : Plain := ⟨{o | o ∈ s}, s.layer, s.enabled⟩

/-- What an edit does to a plain set of objects, a layer and a switch. -/
def Edit.onPlain (edit : Edit) (p : Plain) : Plain :=
  match edit with
  | .add o => { p with objects := insert o p.objects }
  | .delete o => { p with objects := p.objects \ {o} }
  | .toggle o => { p with objects := p.objects \ {o} ∪ {o} \ p.objects }
  | .clear => { p with objects := ∅ }
  | .set os => { p with objects := {o | o ∈ os} }
  | .setEnabled enabled => { p with enabled }
  | .setLayer layer => if layer.toNat < layerCount then { p with layer } else p

/-! ## What an edit consists of -/

/-- What a move to another layer does to one object. -/
def move (s : Selection) (layer : UInt8) (t : τ) (o : SceneObject) : τ :=
  if s.enabled then LayerTarget.enableLayer (LayerTarget.disableLayer t o s.layer) o layer
  else LayerTarget.disableLayer t o s.layer

/-- A change of a selection, with what it does to the target. -/
inductive Change : Selection × τ → Selection × τ → Prop
  | select {s : Selection} {t : τ} {o : SceneObject} (absent : o ∉ s) :
    Change (s, t) ({ s with objects := s.objects.insert o },
      if s.enabled then LayerTarget.enableLayer t o s.layer else t)
  | deselect {s : Selection} {t : τ} {o : SceneObject} (present : o ∈ s) :
    Change (s, t) ({ s with objects := s.objects.erase o }, LayerTarget.disableLayer t o s.layer)
  | clear {s : Selection} {t : τ} :
    Change (s, t) ({ s with objects := ∅ }, disableAll s.objects.toList s.layer t)
  | switchOn {s : Selection} {t : τ} (off : s.enabled = false) :
    Change (s, t) ({ s with enabled := true }, enableAll s.objects.toList s.layer t)
  | switchOff {s : Selection} {t : τ} (on : s.enabled = true) :
    Change (s, t) ({ s with enabled := false }, disableAll s.objects.toList s.layer t)
  | move {s : Selection} {t : τ} {layer : UInt8} (lt : layer.toNat < layerCount)
      (ne : layer ≠ s.layer) :
    Change (s, t) ({ s with layer }, s.objects.toList.foldl (s.move layer) t)

theorem add_of_mem (h : o ∈ s) (t : τ) : s.add o t = (s, t) := if_pos h

theorem add_of_notMem (h : o ∉ s) (t : τ) : s.add o t =
    ({ s with objects := s.objects.insert o },
      if s.enabled then LayerTarget.enableLayer t o s.layer else t) := if_neg h

theorem delete_of_mem (h : o ∈ s) (t : τ) : s.delete o t =
    ({ s with objects := s.objects.erase o }, LayerTarget.disableLayer t o s.layer) := if_pos h

theorem delete_of_notMem (h : o ∉ s) (t : τ) : s.delete o t = (s, t) := if_neg h

theorem toggle_of_mem (h : o ∈ s) (t : τ) : s.toggle o t = s.delete o t := if_pos h

theorem toggle_of_notMem (h : o ∉ s) (t : τ) : s.toggle o t = s.add o t := if_neg h

/-- A layer that there is not is refused. -/
theorem setLayer_of_le {layer : UInt8} (h : layerCount ≤ layer.toNat) (t : τ) :
    s.setLayer layer t = .error (.setting (.layerOutOfRange layer.toNat layerCount)) := by
  rw [setLayer, checkLayer, if_neg (by omega)]
  rfl

theorem setLayer_of_lt {layer : UInt8} (h : layer.toNat < layerCount) (t : τ) :
    s.setLayer layer t =
      .ok (if layer = s.layer then (s, t)
        else ({ s with layer }, s.objects.toList.foldl (s.move layer) t)) := by
  rw [setLayer, checkLayer, if_pos h]
  split <;> rfl

/-- Select the listed objects, one after the other. -/
def addAll (os : List SceneObject) (x : Selection × τ) : Selection × τ :=
  os.foldl (fun x o => x.1.add o x.2) x

/-- What is kept by every selecting is kept by selecting a list. -/
theorem addAll_induction {P : Selection × τ → Prop} {x : Selection × τ} (start : P x)
    (select : ∀ x o, P x → o ∉ x.1 → P (x.1.add o x.2)) (os : List SceneObject) :
    P (addAll os x) := by
  induction os generalizing x with
  | nil => exact start
  | cons o os ih =>
    refine ih (x := x.1.add o x.2) ?_
    by_cases present : o ∈ x.1
    · rw [add_of_mem present]
      exact start
    · exact select x o start present

theorem change_add (absent : o ∉ s) (t : τ) : Change (s, t) (s.add o t) := by
  rw [add_of_notMem absent]
  exact .select absent

theorem apply_add (s : Selection) (o : SceneObject) (t : τ) :
    s.add o t = (s, t) ∨ Change (s, t) (s.add o t) := by
  by_cases present : o ∈ s
  · exact .inl (add_of_mem present t)
  · exact .inr (change_add present t)

theorem apply_delete (s : Selection) (o : SceneObject) (t : τ) :
    s.delete o t = (s, t) ∨ Change (s, t) (s.delete o t) := by
  by_cases present : o ∈ s
  · rw [delete_of_mem present]
    exact .inr (.deselect present)
  · exact .inl (delete_of_notMem present t)

/-- An edit does nothing, or makes one change, or clears the selection and selects a list. -/
theorem Edit.apply_cases (edit : Edit) (x : Selection × τ) :
    edit.apply x = x ∨ Change x (edit.apply x) ∨
      ∃ os, edit.apply x = addAll os (x.1.clear x.2) := by
  obtain ⟨s, t⟩ := x
  cases edit with
  | add o => exact (apply_add s o t).imp id .inl
  | delete o => exact (apply_delete s o t).imp id .inl
  | toggle o =>
    by_cases present : o ∈ s
    · simp only [apply, toggle_of_mem present]
      exact (apply_delete s o t).imp id .inl
    · simp only [apply, toggle_of_notMem present]
      exact (apply_add s o t).imp id .inl
  | clear => exact .inr (.inl .clear)
  | set os => exact .inr (.inr ⟨os, rfl⟩)
  | setEnabled enabled =>
    simp only [apply, Selection.setEnabled]
    by_cases same : enabled = s.enabled
    · exact .inl (if_pos same)
    · rw [if_neg same]
      cases enabled with
      | true => exact .inr (.inl (.switchOn (by simpa using Ne.symm same)))
      | false => exact .inr (.inl (.switchOff (by simpa using Ne.symm same)))
  | setLayer layer =>
    rcases Nat.lt_or_ge layer.toNat layerCount with lt | le
    · simp only [apply, setLayer_of_lt lt]
      by_cases same : layer = s.layer
      · exact .inl (if_pos same)
      · rw [if_neg same]
        exact .inr (.inl (.move lt same))
    · exact .inl (by simp only [apply, setLayer_of_le le])

/-! ## What an edit does to a selection -/

theorem mem_select : x ∈ { s with objects := s.objects.insert o } ↔ x = o ∨ x ∈ s := by
  rw [mem_iff, mem_iff]
  exact RankedSet.mem_insert fun a b h => by cases a; cases b; cases h; rfl

theorem mem_deselect : x ∈ { s with objects := s.objects.erase o } ↔ x ≠ o ∧ x ∈ s := by
  rw [mem_iff, mem_iff]
  exact RankedSet.mem_erase

theorem notMem_empty (s : Selection) (x : SceneObject) : x ∉ { s with objects := ∅ } := by
  rw [mem_iff]
  exact List.not_mem_nil

theorem plain_add (s : Selection) (o : SceneObject) (t : τ) :
    (s.add o t).1.plain = { s.plain with objects := insert o s.plain.objects } := by
  by_cases present : o ∈ s
  · rw [add_of_mem present, Set.insert_eq_of_mem (show o ∈ s.plain.objects from present)]
  · rw [add_of_notMem present]
    exact Plain.ext (Set.ext fun _ => mem_select) rfl rfl

theorem plain_delete (s : Selection) (o : SceneObject) (t : τ) :
    (s.delete o t).1.plain = { s.plain with objects := s.plain.objects \ {o} } := by
  by_cases present : o ∈ s
  · rw [delete_of_mem present]
    exact Plain.ext (Set.ext fun _ => mem_deselect.trans and_comm) rfl rfl
  · rw [delete_of_notMem present, Set.sdiff_singleton_eq_self (show o ∉ s.plain.objects from present)]

theorem plain_toggle (s : Selection) (o : SceneObject) (t : τ) :
    (s.toggle o t).1.plain =
      { s.plain with objects := s.plain.objects \ {o} ∪ {o} \ s.plain.objects } := by
  by_cases present : o ∈ s
  · have one : {o} ⊆ s.plain.objects := Set.singleton_subset_iff.2 present
    rw [toggle_of_mem present, plain_delete, Set.sdiff_eq_empty.2 one, Set.union_empty]
  · have absent : o ∉ s.plain.objects := present
    rw [toggle_of_notMem present, plain_add, Set.sdiff_singleton_eq_self absent,
      Set.union_sdiff_self, Set.union_singleton]

theorem plain_clear (s : Selection) (t : τ) :
    (s.clear t).1.plain = { s.plain with objects := ∅ } :=
  Plain.ext (Set.eq_empty_of_forall_notMem fun x => notMem_empty s x) rfl rfl

theorem plain_addAll (os : List SceneObject) (y : Selection × τ) :
    (addAll os y).1.plain = { y.1.plain with objects := {o | o ∈ os} ∪ y.1.plain.objects } := by
  induction os generalizing y with
  | nil =>
    exact Plain.ext (Set.ext fun x => ⟨.inr, fun h => h.resolve_left List.not_mem_nil⟩) rfl rfl
  | cons o os ih =>
    refine (ih (y.1.add o y.2)).trans ?_
    rw [plain_add]
    refine Plain.ext (Set.ext fun x => ?_) rfl rfl
    simp only [Set.mem_union, Set.mem_insert_iff, Set.mem_ofPred_eq, List.mem_cons, or_left_comm,
      or_assoc]

/-- **An edit does to a selection** what it does to a plain set, a layer and a switch. -/
theorem plain_apply (edit : Edit) (y : Selection × τ) :
    (edit.apply y).1.plain = edit.onPlain y.1.plain := by
  obtain ⟨s, t⟩ := y
  cases edit with
  | add o => exact plain_add s o t
  | delete o => exact plain_delete s o t
  | toggle o => exact plain_toggle s o t
  | clear => exact plain_clear s t
  | set os =>
    refine (plain_addAll os (s.clear t)).trans ?_
    rw [plain_clear, Set.union_empty]
    rfl
  | setEnabled enabled =>
    simp only [Edit.apply, setEnabled, Edit.onPlain]
    split
    · rename_i same
      rw [same]
      rfl
    · rfl
  | setLayer layer =>
    simp only [Edit.onPlain]
    rcases Nat.lt_or_ge layer.toNat layerCount with lt | le
    · simp only [Edit.apply, setLayer_of_lt lt, if_pos lt]
      split
      · rename_i same
        rw [same]
        rfl
      · rfl
    · simp only [Edit.apply, setLayer_of_le le, if_neg (Nat.not_lt.2 le)]

/-- An edit leads to no layer that there is not. -/
theorem layer_lt_apply (edit : Edit) {y : Selection × τ} (h : y.1.layer.toNat < layerCount) :
    (edit.apply y).1.layer.toNat < layerCount := by
  have said : (edit.apply y).1.layer = (edit.onPlain y.1.plain).layer :=
    congrArg Plain.layer (plain_apply edit y)
  rw [said]
  cases edit with
  | setLayer layer =>
    simp only [Edit.onPlain]
    split
    · assumption
    · exact h
  | _ => exact h

/-- An edit leads to layer 0 only if it asks for it. -/
theorem layer_ne_apply {edit : Edit} (off : edit ≠ .setLayer 0) {y : Selection × τ}
    (h : y.1.layer ≠ 0) : (edit.apply y).1.layer ≠ 0 := by
  have said : (edit.apply y).1.layer = (edit.onPlain y.1.plain).layer :=
    congrArg Plain.layer (plain_apply edit y)
  rw [said]
  cases edit with
  | setLayer layer =>
    simp only [Edit.onPlain]
    split
    · exact fun zero => off (congrArg _ zero)
    · exact h
  | _ => exact h

end ScreenEffects.Selection
