import Mathlib.Data.List.Dedup
import Mathlib.Data.List.Induction
import Mathlib.Data.List.Lattice
import ScreenEffects.OrderedMap

/-!
# Laws of ordered maps

What a map reads after many writes. A map made by writes has each key once (`nodup_keys_insert`,
`nodup_keys_insertMany`), and then reading it is reading any of its entries.

* `get?_modify`, `get?_erase_of_ne` : a map read after a change of one entry.
* `get?_insertMany` : writes of distinct keys win over what was there.
* `get?_extend` : a map written over another wins where it has a value.
* `get?_foldl_extend` : of maps written one over the other, the only one with a key gives its value.
* `entries_foldl_extend` : maps without a common key stand side by side.
* `size_ofList_eq_iff` : a map written from pairs keeps them all if no two have the same key.
* `mapKeys_ofList` : to write pairs and to rename the keys can be done in either order.
* `keysWhere` : the keys whose values have a property, after each kind of write.
-/

namespace ScreenEffects.OrderedMap

variable {κ ν : Type} [DecidableEq κ]

/-! ## Reading a list of entries -/

theorem find_eq_none_iff {a : κ} {es : List (κ × ν)} : find a es = none ↔ a ∉ es.map (·.1) := by
  induction es with
  | nil => simp [find]
  | cons e es ih => by_cases h : a = e.1 <;> simp_all [find]

theorem get?_eq_none_iff {m : OrderedMap κ ν} {a : κ} : m.get? a = none ↔ a ∉ m.keys :=
  find_eq_none_iff

theorem mem_keys_of_get? {m : OrderedMap κ ν} {a : κ} {v : ν} (h : m.get? a = some v) :
    a ∈ m.keys := by
  by_contra absent
  rw [get?_eq_none_iff.2 absent] at h
  cases h

theorem get?_modify (m : OrderedMap κ ν) (k a : κ) (f : ν → ν) :
    (m.modify k f).get? a = if a = k then (m.get? a).map f else m.get? a := by
  unfold modify
  cases h : m.get? k with
  | none =>
    by_cases same : a = k
    · rw [if_pos same, same, h, Option.map_none]
    · rw [if_neg same]
  | some v =>
    rw [get?_insert]
    by_cases same : a = k
    · rw [if_pos same, if_pos same, same, h, Option.map_some]
    · rw [if_neg same, if_neg same]

theorem get?_erase_of_ne {k a : κ} (h : a ≠ k) (m : OrderedMap κ ν) :
    (m.erase k).get? a = m.get? a := by
  obtain ⟨es⟩ := m
  unfold erase get?
  induction es with
  | nil => rfl
  | cons e es ih =>
    by_cases hk : k = e.1
    · simp [hk, find, hk ▸ h]
    · simp [hk, find, ih]

theorem isEmpty_of_get? {m : OrderedMap κ ν} {a : κ} {v : ν} (h : m.get? a = some v) :
    m.isEmpty = false := by
  cases entries : m.entries with
  | nil =>
    rw [get?, entries] at h
    cases h
  | cons e es => rw [isEmpty, entries, List.isEmpty_cons]

/-! ## Keys -/

theorem mem_keys_insert {m : OrderedMap κ ν} {k a : κ} {v : ν} :
    a ∈ (m.insert k v).keys ↔ a = k ∨ a ∈ m.keys := by
  rw [keys_insert]
  by_cases hk : k ∈ m.keys
  · rw [if_pos hk]
    exact ⟨.inr, by rintro (rfl | h) <;> assumption⟩
  · rw [if_neg hk, List.mem_append, List.mem_singleton, or_comm]

theorem nodup_keys_insert {m : OrderedMap κ ν} (h : m.keys.Nodup) (k : κ) (v : ν) :
    (m.insert k v).keys.Nodup := by
  rw [keys_insert]
  by_cases hk : k ∈ m.keys
  · rwa [if_pos hk]
  · rw [if_neg hk, List.nodup_append]
    refine ⟨h, by simp, fun a ha b hb => ?_⟩
    rw [List.mem_singleton] at hb
    exact fun e => hk (hb ▸ e ▸ ha)

theorem insertMany_cons (m : OrderedMap κ ν) (e : κ × ν) (es : List (κ × ν)) :
    m.insertMany (e :: es) = (m.insert e.1 e.2).insertMany es := rfl

theorem ofList_append_singleton (es : List (κ × ν)) (e : κ × ν) :
    ofList (es ++ [e]) = (ofList es).insert e.1 e.2 := by
  rw [ofList, insertMany, List.foldl_append]
  rfl

theorem mem_keys_insertMany {m : OrderedMap κ ν} {es : List (κ × ν)} {a : κ} :
    a ∈ (m.insertMany es).keys ↔ a ∈ m.keys ∨ a ∈ es.map (·.1) := by
  induction es generalizing m with
  | nil => simp [insertMany]
  | cons e es ih =>
    rw [insertMany_cons, ih, mem_keys_insert, List.map_cons, List.mem_cons, or_assoc, or_left_comm]

theorem nodup_keys_insertMany {m : OrderedMap κ ν} (h : m.keys.Nodup) (es : List (κ × ν)) :
    (m.insertMany es).keys.Nodup := by
  induction es generalizing m with
  | nil => exact h
  | cons e es ih => exact ih (nodup_keys_insert h e.1 e.2)

theorem mem_keys_ofList {es : List (κ × ν)} {a : κ} :
    a ∈ (ofList es).keys ↔ a ∈ es.map (·.1) := by
  rw [ofList, mem_keys_insertMany]
  exact ⟨fun h => h.resolve_left (by simp [keys, entries_empty]), .inr⟩

theorem nodup_keys_ofList (es : List (κ × ν)) : (ofList es).keys.Nodup :=
  nodup_keys_insertMany (m := ∅) List.nodup_nil es

/-! ## Reading after many writes -/

theorem get?_insertMany (m : OrderedMap κ ν) {es : List (κ × ν)} (h : (es.map (·.1)).Nodup)
    (a : κ) : (m.insertMany es).get? a = (find a es).or (m.get? a) := by
  induction es generalizing m with
  | nil => rfl
  | cons e es ih =>
    obtain ⟨he, hs⟩ := List.nodup_cons.1 h
    rw [insertMany_cons, ih _ hs, get?_insert, find]
    by_cases ha : a = e.1
    · have absent : find a es = none := find_eq_none_iff.2 (ha ▸ he)
      rw [absent, if_pos ha, if_pos ha]
      rfl
    · simp [ha]

theorem get?_extend (m : OrderedMap κ ν) {n : OrderedMap κ ν} (h : n.keys.Nodup) (a : κ) :
    (m.extend n).get? a = (n.get? a).or (m.get? a) :=
  get?_insertMany m h a

/-! ## Reading a written entry -/

theorem mem_of_get?_insertMany {m : OrderedMap κ ν} {es : List (κ × ν)} {a : κ} {v : ν}
    (h : (m.insertMany es).get? a = some v) : m.get? a = some v ∨ (a, v) ∈ es := by
  induction es generalizing m with
  | nil => exact .inl h
  | cons e es ih =>
    rw [insertMany_cons] at h
    rcases ih h with h | h
    · rw [get?_insert] at h
      split at h
      · rename_i ha
        obtain rfl := Option.some.inj h
        exact .inr (ha ▸ List.mem_cons_self)
      · exact .inl h
    · exact .inr (List.mem_cons_of_mem e h)

theorem mem_of_get?_ofList {es : List (κ × ν)} {a : κ} {v : ν}
    (h : (ofList es).get? a = some v) : (a, v) ∈ es :=
  (mem_of_get?_insertMany h).resolve_left nofun

theorem exists_get?_of_mem_keys {m : OrderedMap κ ν} {a : κ} (h : a ∈ m.keys) :
    ∃ v, m.get? a = some v := by
  by_contra hn
  exact get?_eq_none_iff.1 (Option.eq_none_iff_forall_ne_some.2 fun v hv => hn ⟨v, hv⟩) h

/-- Pairs without a common key can be read back. -/
theorem get?_ofList_of_mem {es : List (κ × ν)} {a : κ} {v : ν} (nodup : (es.map (·.1)).Nodup)
    (h : (a, v) ∈ es) : (ofList es).get? a = some v := by
  have key : a ∈ (ofList es).keys := mem_keys_ofList.2 (List.mem_map_of_mem h)
  obtain ⟨w, hw⟩ := exists_get?_of_mem_keys key
  have same := List.inj_on_of_nodup_map nodup (mem_of_get?_ofList hw) h rfl
  rw [hw, (Prod.mk.inj same).2]

/-- A table that gives every listed name a value that depends on the name alone. -/
theorem get?_ofList_map {f : κ → ν} {l : List κ} {a : κ} (h : a ∈ l) :
    (ofList (l.map fun b => (b, f b))).get? a = some (f a) := by
  have key : a ∈ (ofList (l.map fun b => (b, f b))).keys := by
    rw [mem_keys_ofList, List.map_map]
    exact List.mem_map.2 ⟨a, h, rfl⟩
  obtain ⟨v, hv⟩ := exists_get?_of_mem_keys key
  obtain ⟨b, -, hb⟩ := List.mem_map.1 (mem_of_get?_ofList hv)
  obtain ⟨rfl, rfl⟩ := Prod.mk.inj hb
  exact hv

/-! ## Sizes -/

omit [DecidableEq κ] in
theorem size_eq_length_keys (m : OrderedMap κ ν) : m.size = m.keys.length :=
  (List.length_map _).symm

/-- A map written from pairs has as many entries as there are keys among them. -/
theorem size_ofList (es : List (κ × ν)) : (ofList es).size = (es.map (·.1)).dedup.length := by
  have perm : (ofList es).keys.Perm (es.map (·.1)).dedup :=
    (List.perm_ext_iff_of_nodup (nodup_keys_ofList es) (List.nodup_dedup _)).2 fun a => by
      rw [mem_keys_ofList, List.mem_dedup]
  rw [size_eq_length_keys, perm.length_eq]

theorem size_ofList_le (es : List (κ × ν)) : (ofList es).size ≤ es.length := by
  have length : (es.map (·.1)).length = es.length := List.length_map _
  rw [size_ofList, ← length]
  exact (List.dedup_sublist _).length_le

/-- No pair is lost exactly if no two have the same key. -/
theorem size_ofList_eq_iff {es : List (κ × ν)} :
    (ofList es).size = es.length ↔ (es.map (·.1)).Nodup := by
  have length : (es.map (·.1)).length = es.length := List.length_map _
  rw [size_ofList, ← length, ← List.dedup_eq_self]
  exact ⟨(List.dedup_sublist _).eq_of_length, congrArg _⟩

/-! ## Entries -/

omit [DecidableEq κ] in
/-- Equality of two maps is equality of their entries. -/
theorem eq_of_entries {m n : OrderedMap κ ν} (h : m.entries = n.entries) : m = n := by
  cases m
  cases n
  cases h
  rfl

theorem entries_insert_of_notMem {m : OrderedMap κ ν} {k : κ} (h : k ∉ m.keys) (v : ν) :
    (m.insert k v).entries = m.entries ++ [(k, v)] := by
  obtain ⟨es⟩ := m
  change insertEntry k v es = es ++ [(k, v)]
  induction es with
  | nil => rfl
  | cons e es ih =>
    rw [keys, List.map_cons, List.mem_cons, not_or] at h
    rw [insertEntry, if_neg h.1, ih h.2, List.cons_append]

/-- Writes of distinct keys that are all new append their entries. -/
theorem entries_insertMany {m : OrderedMap κ ν} {es : List (κ × ν)} (nodup : (es.map (·.1)).Nodup)
    (apart : m.keys.Disjoint (es.map (·.1))) : (m.insertMany es).entries = m.entries ++ es := by
  induction es generalizing m with
  | nil => exact (List.append_nil _).symm
  | cons e es ih =>
    obtain ⟨he, hs⟩ := List.nodup_cons.1 nodup
    have new : e.1 ∉ m.keys := fun h => apart h List.mem_cons_self
    rw [insertMany_cons, ih hs, entries_insert_of_notMem new, List.append_assoc,
      List.singleton_append]
    intro a ha hm
    rcases mem_keys_insert.1 ha with rfl | ha
    · exact he hm
    · exact apart ha (List.mem_cons_of_mem _ hm)

theorem entries_extend {m n : OrderedMap κ ν} (nodup : n.keys.Nodup)
    (apart : m.keys.Disjoint n.keys) : (m.extend n).entries = m.entries ++ n.entries :=
  entries_insertMany nodup apart

theorem empty_extend {m : OrderedMap κ ν} (nodup : m.keys.Nodup) :
    (∅ : OrderedMap κ ν).extend m = m :=
  eq_of_entries (entries_extend nodup (List.disjoint_nil_left _))

/-! ## Renamed keys -/

section MapKeys

variable {κ' : Type} {f : κ → κ'}

/-- The map with every key renamed. -/
def mapKeys (f : κ → κ') (m : OrderedMap κ ν) : OrderedMap κ' ν :=
  ⟨m.entries.map fun e => (f e.1, e.2)⟩

variable [DecidableEq κ'] (inj : Function.Injective f)

include inj

theorem mapKeys_insert (m : OrderedMap κ ν) (k : κ) (v : ν) :
    (m.insert k v).mapKeys f = (m.mapKeys f).insert (f k) v := by
  obtain ⟨es⟩ := m
  unfold mapKeys insert
  congr 1
  induction es with
  | nil => rfl
  | cons e es ih =>
    by_cases hk : k = e.1
    · simp [insertEntry, hk]
    · simp only [insertEntry, if_neg hk, List.map_cons, if_neg (inj.ne hk), ih]

theorem mapKeys_insertMany (m : OrderedMap κ ν) (es : List (κ × ν)) :
    (m.insertMany es).mapKeys f = (m.mapKeys f).insertMany (es.map fun e => (f e.1, e.2)) := by
  induction es generalizing m with
  | nil => rfl
  | cons e es ih => rw [insertMany_cons, ih, mapKeys_insert inj, List.map_cons, insertMany_cons]

theorem mapKeys_ofList (es : List (κ × ν)) :
    (ofList es).mapKeys f = ofList (es.map fun e => (f e.1, e.2)) :=
  mapKeys_insertMany inj ∅ es

end MapKeys

/-! ## Values -/

theorem mem_values_of_get? {m : OrderedMap κ ν} {a : κ} {v : ν} (h : m.get? a = some v) :
    v ∈ m.values := by
  obtain ⟨es⟩ := m
  induction es with
  | nil => cases h
  | cons e es ih =>
    unfold get? find at h
    by_cases ha : a = e.1
    · rw [if_pos ha] at h
      obtain rfl := Option.some.inj h
      exact List.mem_cons_self
    · rw [if_neg ha] at h
      exact List.mem_cons_of_mem e.2 (ih h)

theorem mem_values_insert {m : OrderedMap κ ν} {k : κ} {v w : ν} (h : w ∈ (m.insert k v).values) :
    w = v ∨ w ∈ m.values := by
  obtain ⟨es⟩ := m
  unfold values insert at h
  induction es with
  | nil => exact .inl (List.mem_singleton.1 h)
  | cons e es ih =>
    by_cases hk : k = e.1
    · rw [insertEntry, if_pos hk] at h
      exact (List.mem_cons.1 h).imp_right (List.mem_cons_of_mem e.2)
    · rw [insertEntry, if_neg hk] at h
      rcases List.mem_cons.1 h with rfl | h
      · exact .inr List.mem_cons_self
      · exact (ih h).imp_right (List.mem_cons_of_mem e.2)

theorem mem_values_of_mem_erase {m : OrderedMap κ ν} {k : κ} {w : ν}
    (h : w ∈ (m.erase k).values) : w ∈ m.values := by
  obtain ⟨e, he, rfl⟩ := List.mem_map.1 h
  exact List.mem_map_of_mem (List.mem_of_mem_eraseP he)

/-! ## Maps written one over the other -/

variable {α : Type} {f : α → OrderedMap κ ν}

theorem mem_keys_foldl_extend {m : OrderedMap κ ν} {l : List α} {key : κ} :
    key ∈ (l.foldl (fun m a => m.extend (f a)) m).keys ↔
      key ∈ m.keys ∨ ∃ a ∈ l, key ∈ (f a).keys := by
  induction l generalizing m with
  | nil => simp
  | cons a l ih =>
    have head : key ∈ (m.extend (f a)).keys ↔ key ∈ m.keys ∨ key ∈ (f a).keys :=
      mem_keys_insertMany
    rw [List.foldl_cons, ih, head]
    simp [or_assoc]

theorem nodup_keys_foldl_extend {m : OrderedMap κ ν} (h : m.keys.Nodup) (l : List α) :
    (l.foldl (fun m a => m.extend (f a)) m).keys.Nodup := by
  induction l generalizing m with
  | nil => exact h
  | cons a l ih => exact ih (nodup_keys_insertMany h _)

/-- Of maps that are written one over the other, the only one with a key gives it its value. -/
theorem get?_foldl_extend {m : OrderedMap κ ν} {l : List α} {a : α} {key : κ}
    (nodup : ∀ b, (f b).keys.Nodup) (ha : a ∈ l) (hk : key ∈ (f a).keys)
    (only : ∀ b ∈ l, key ∈ (f b).keys → b = a) :
    (l.foldl (fun m a => m.extend (f a)) m).get? key = (f a).get? key := by
  induction l using List.reverseRecOn with
  | nil => cases ha
  | append_singleton l b ih =>
    rw [List.foldl_append, List.foldl_cons, List.foldl_nil, get?_extend _ (nodup b)]
    by_cases hb : key ∈ (f b).keys
    · obtain rfl := only b (by simp) hb
      obtain ⟨v, hv⟩ := exists_get?_of_mem_keys hb
      rw [hv]
      rfl
    · have hl : a ∈ l := by
        rcases List.mem_append.1 ha with h | h
        · exact h
        · exact absurd (List.mem_singleton.1 h ▸ hk) hb
      rw [get?_eq_none_iff.2 hb, Option.none_or]
      exact ih hl fun c hc => only c (List.mem_append_left _ hc)

/-- Maps without a common key, written one after the other, stand side by side. -/
theorem entries_foldl_extend {l : List α} (nodup : ∀ a, (f a).keys.Nodup)
    (apart : l.Pairwise fun a b => (f a).keys.Disjoint (f b).keys) :
    (l.foldl (fun m a => m.extend (f a)) (∅ : OrderedMap κ ν)).entries =
      l.flatMap fun a => (f a).entries := by
  induction l using List.reverseRecOn with
  | nil => rfl
  | append_singleton l b ih =>
    obtain ⟨before, -, last⟩ := List.pairwise_append.1 apart
    rw [List.foldl_append, List.foldl_cons, List.foldl_nil, entries_extend (nodup b), ih before,
      List.flatMap_append, List.flatMap_singleton]
    intro key hl hb
    rcases mem_keys_foldl_extend.1 hl with h | ⟨a, ha, hk⟩
    · cases h
    · exact last a ha b List.mem_cons_self hk hb

/-! ## Keys of chosen values -/

/-- The keys whose values have a property, in order. -/
def keysWhere (P : ν → Bool) (m : OrderedMap κ ν) : List κ :=
  (m.entries.filter fun e => P e.2).map (·.1)

section KeysWhere

variable {P : ν → Bool} {m : OrderedMap κ ν}

omit [DecidableEq κ] in
theorem mem_keys_of_mem_keysWhere {k : κ} (h : k ∈ m.keysWhere P) : k ∈ m.keys := by
  obtain ⟨e, he, rfl⟩ := List.mem_map.1 h
  exact List.mem_map_of_mem (List.mem_filter.1 he).1

omit [DecidableEq κ] in
theorem nodup_keysWhere (h : m.keys.Nodup) : (m.keysWhere P).Nodup :=
  h.sublist (List.filter_sublist.map _)

theorem keysWhere_insert_of_notMem {k : κ} (h : k ∉ m.keys) (v : ν) :
    (m.insert k v).keysWhere P = m.keysWhere P ++ if P v then [k] else [] := by
  unfold keysWhere
  rw [entries_insert_of_notMem h, List.filter_append, List.map_append]
  cases hv : P v <;> simp [hv]

theorem keysWhere_insert_of_get? {k : κ} {v w : ν} (h : m.get? k = some w) (hv : P v = P w) :
    (m.insert k v).keysWhere P = m.keysWhere P := by
  obtain ⟨es⟩ := m
  unfold keysWhere insert
  induction es with
  | nil => cases h
  | cons e es ih =>
    unfold get? find at h
    by_cases hk : k = e.1
    · rw [if_pos hk] at h
      obtain rfl := Option.some.inj h
      simp only [insertEntry, if_pos hk, List.filter_cons, hv]
      split <;> simp [hk]
    · rw [if_neg hk] at h
      have ih := ih h
      simp only [insertEntry, if_neg hk, List.filter_cons]
      split <;> simp [ih]

/-- Changes that keep the property keep the keys. -/
theorem keysWhere_modify {f : ν → ν} (hf : ∀ v, P (f v) = P v) (k : κ) :
    (m.modify k f).keysWhere P = m.keysWhere P := by
  unfold modify
  cases h : m.get? k with
  | none => rfl
  | some v => exact keysWhere_insert_of_get? h (hf v)

theorem keys_modify (k : κ) (f : ν → ν) : (m.modify k f).keys = m.keys := by
  unfold modify
  cases h : m.get? k with
  | none => rfl
  | some v =>
    have mem : k ∈ m.keys := by
      by_contra hk
      rw [get?_eq_none_iff.2 hk] at h
      cases h
    rw [keys_insert, if_pos mem]

theorem keys_erase (k : κ) : (m.erase k).keys = m.keys.erase k := by
  obtain ⟨es⟩ := m
  unfold erase keys
  induction es with
  | nil => rfl
  | cons e es ih =>
    by_cases hk : k = e.1
    · simp [hk]
    · simp [hk, Ne.symm hk, ih]

theorem keysWhere_erase (nodup : m.keys.Nodup) (k : κ) :
    (m.erase k).keysWhere P = (m.keysWhere P).erase k := by
  obtain ⟨es⟩ := m
  unfold erase keysWhere
  induction es with
  | nil => rfl
  | cons e es ih =>
    obtain ⟨absent, nodup⟩ := List.nodup_cons.1 nodup
    by_cases hk : k = e.1
    · -- no later entry has the key
      subst hk
      have gone : e.1 ∉ (es.filter fun e => P e.2).map (·.1) := fun h =>
        absent (mem_keys_of_mem_keysWhere (m := ⟨es⟩) h)
      cases hv : P e.2 <;> simp_all [List.erase_of_not_mem]
    · have ih := ih nodup
      cases hv : P e.2 <;> simp [hv, hk, Ne.symm hk, ih]

end KeysWhere

end ScreenEffects.OrderedMap
