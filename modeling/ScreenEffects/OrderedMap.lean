/-!
# Maps that keep insertion order

Macro and uniform tables list their entries in the order in which the keys first came in: that is
the order in which a program declares them. A map is a list of pairs; writing to a key that is
present replaces the value where it stands, and a new key goes to the end.

* `get?_insert` reads a map after a write, as a finite map would.
* `keys_insert` says that a write to a present key keeps the order and any other appends.
* `put_eq` and `take_eq` : writes and removals that answer with the value that was there.
-/

namespace ScreenEffects

/-- A map from `κ` to `ν` whose entries stand in the order of first insertion. -/
structure OrderedMap (κ ν : Type) where
  entries : List (κ × ν)
  deriving DecidableEq

/-- A map keyed by shader identifiers. -/
abbrev NamedMap (ν : Type) := OrderedMap String ν

namespace OrderedMap

variable {κ ν : Type} [DecidableEq κ]

instance : EmptyCollection (OrderedMap κ ν) := ⟨⟨[]⟩⟩

instance : Inhabited (OrderedMap κ ν) := ⟨∅⟩

/-- The keys, in order. -/
def keys (m : OrderedMap κ ν) : List κ := m.entries.map (·.1)

/-- The values, in the order of their keys. -/
def values (m : OrderedMap κ ν) : List ν := m.entries.map (·.2)

def size (m : OrderedMap κ ν) : Nat := m.entries.length

def isEmpty (m : OrderedMap κ ν) : Bool := m.entries.isEmpty

/-- The value of the first entry under `k`. -/
def find (k : κ) : List (κ × ν) → Option ν
  | [] => none
  | e :: es => if k = e.1 then some e.2 else find k es

/-- The value under `k`. -/
def get? (m : OrderedMap κ ν) (k : κ) : Option ν := find k m.entries

def contains (m : OrderedMap κ ν) (k : κ) : Bool := (m.get? k).isSome

/-- The entries with `v` under `k`: in place if `k` is there, else at the end. -/
def insertEntry (k : κ) (v : ν) : List (κ × ν) → List (κ × ν)
  | [] => [(k, v)]
  | e :: es => if k = e.1 then (k, v) :: es else e :: insertEntry k v es

/-- Write `v` under `k`. -/
def insert (m : OrderedMap κ ν) (k : κ) (v : ν) : OrderedMap κ ν := ⟨insertEntry k v m.entries⟩

/-- Take the entry under `k` out. -/
def erase (m : OrderedMap κ ν) (k : κ) : OrderedMap κ ν := ⟨m.entries.eraseP (k = ·.1)⟩

/-- The entries with `v` under `k`, and the value that stood there. -/
def putEntry (k : κ) (v : ν) : List (κ × ν) → Option ν × List (κ × ν)
  | [] => (none, [(k, v)])
  | e :: es =>
    if k = e.1 then (some e.2, (k, v) :: es)
    else
      let rest := putEntry k v es
      (rest.1, e :: rest.2)

/-- Write `v` under `k`, and answer with the value that stood there. -/
def put (m : OrderedMap κ ν) (k : κ) (v : ν) : Option ν × OrderedMap κ ν :=
  let (old, es) := putEntry k v m.entries
  (old, ⟨es⟩)

/-- Take the entry under `k` out, and answer with its value. -/
def take (m : OrderedMap κ ν) (k : κ) : Option ν × OrderedMap κ ν :=
  match m.entries.findIdx? (k = ·.1) with
  | some i => (m.entries[i]?.map (·.2), ⟨m.entries.eraseIdx i⟩)
  | none => (none, m)

/-- Change the value under `k`, if there is one. -/
def modify (m : OrderedMap κ ν) (k : κ) (f : ν → ν) : OrderedMap κ ν :=
  match m.get? k with
  | some v => m.insert k (f v)
  | none => m

/-- Write pairs one after the other, so that the last value of a key wins at its first place. -/
def insertMany (m : OrderedMap κ ν) (es : List (κ × ν)) : OrderedMap κ ν :=
  es.foldl (fun m e => m.insert e.1 e.2) m

/-- The map that writing the pairs to an empty map gives. -/
def ofList (es : List (κ × ν)) : OrderedMap κ ν := insertMany ∅ es

/-- Write every entry of `n` to `m`. -/
def extend (m n : OrderedMap κ ν) : OrderedMap κ ν := m.insertMany n.entries

/-! ## Reading back what was written -/

omit [DecidableEq κ] in
theorem entries_empty : (∅ : OrderedMap κ ν).entries = [] := rfl

theorem find_insertEntry (k a : κ) (v : ν) (es : List (κ × ν)) :
    find a (insertEntry k v es) = if a = k then some v else find a es := by
  induction es with
  | nil => rfl
  | cons e es ih =>
    by_cases he : k = e.1
    · subst he
      by_cases h : a = e.1 <;> simp [insertEntry, find, h]
    · by_cases h : a = e.1
      · have : ¬ a = k := fun hk => he (hk ▸ h)
        simp [insertEntry, he, find, h, Ne.symm he]
      · simp [insertEntry, he, find, h, ih]

theorem get?_insert (m : OrderedMap κ ν) (k a : κ) (v : ν) :
    (m.insert k v).get? a = if a = k then some v else m.get? a :=
  find_insertEntry k a v m.entries

theorem map_fst_insertEntry (k : κ) (v : ν) (es : List (κ × ν)) :
    (insertEntry k v es).map (·.1) =
      if k ∈ es.map (·.1) then es.map (·.1) else es.map (·.1) ++ [k] := by
  induction es with
  | nil => rfl
  | cons e es ih =>
    by_cases he : k = e.1
    · simp [insertEntry, he]
    · simp only [insertEntry, he, if_false, List.map_cons, ih, List.mem_cons, false_or]
      split <;> rfl

theorem keys_insert (m : OrderedMap κ ν) (k : κ) (v : ν) :
    (m.insert k v).keys = if k ∈ m.keys then m.keys else m.keys ++ [k] :=
  map_fst_insertEntry k v m.entries

/-! ## Answers -/

theorem putEntry_eq (k : κ) (v : ν) (es : List (κ × ν)) :
    putEntry k v es = (find k es, insertEntry k v es) := by
  induction es with
  | nil => rfl
  | cons e es ih =>
    rw [putEntry, find, insertEntry, ih]
    split <;> rfl

theorem put_eq (m : OrderedMap κ ν) (k : κ) (v : ν) : m.put k v = (m.get? k, m.insert k v) := by
  rw [put, putEntry_eq]
  rfl

/-- The value under a key is that of the first entry with the key. -/
theorem find_eq_bind_findIdx? (k : κ) (es : List (κ × ν)) :
    find k es = (es.findIdx? (k = ·.1)).bind fun i => es[i]?.map (·.2) := by
  induction es with
  | nil => rfl
  | cons e es ih =>
    rw [find, List.findIdx?_cons, ih]
    by_cases h : k = e.1
    · simp [h]
    · simp only [if_neg h, decide_eq_false h, Bool.false_eq_true, if_false, Option.bind_map]
      rfl

theorem take_eq (m : OrderedMap κ ν) (k : κ) : m.take k = (m.get? k, m.erase k) := by
  rw [take, get?, erase, find_eq_bind_findIdx?, List.eraseP_eq_eraseIdx]
  cases m.entries.findIdx? (k = ·.1) <;> rfl

end OrderedMap

end ScreenEffects
