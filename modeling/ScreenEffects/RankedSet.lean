/-!
# Sets listed by rank

Extensions, blend functions and selected objects are sets that are always listed in the order of a
number: the place in a catalogue, or an object's id. A `RankedSet` is the list of its members by
strictly rising rank, so a member occurs once and two equal sets have equal lists.

* `mem_insert`, `mem_union` and `mem_erase` say what a set holds after a change, as for a plain set.
-/

namespace ScreenEffects

/-- A finite set of `α` listed by strictly rising `rank`. -/
structure RankedSet (α : Type) (rank : α → Nat) where
  toList : List α
  rising : toList.Pairwise fun a b => rank a < rank b

namespace RankedSet

variable {α : Type} {rank : α → Nat}

/-- Put `a` in its place; a member of the same rank is kept instead. -/
def insertMember (rank : α → Nat) (a : α) : List α → List α
  | [] => [a]
  | b :: r =>
    if rank a < rank b then a :: b :: r
    else if rank a = rank b then b :: r
    else b :: insertMember rank a r

theorem mem_of_mem_insertMember {a x : α} {s : List α} (h : x ∈ insertMember rank a s) :
    x = a ∨ x ∈ s := by
  induction s with
  | nil => simpa [insertMember] using h
  | cons b r ih =>
    simp only [insertMember] at h
    split at h
    · simpa using h
    · split at h
      · exact .inr h
      · rcases List.mem_cons.1 h with h | h
        · exact .inr (h ▸ List.mem_cons_self)
        · exact (ih h).imp id (List.mem_cons_of_mem b)

theorem rising_insertMember {a : α} {s : List α} (h : s.Pairwise fun a b => rank a < rank b) :
    (insertMember rank a s).Pairwise fun a b => rank a < rank b := by
  induction s with
  | nil => simp [insertMember]
  | cons b r ih =>
    obtain ⟨hb, hr⟩ := List.pairwise_cons.1 h
    simp only [insertMember]
    split
    · rename_i hab
      refine List.pairwise_cons.2 ⟨fun x hx => ?_, h⟩
      rcases List.mem_cons.1 hx with rfl | hx
      · exact hab
      · exact Nat.lt_trans hab (hb x hx)
    · split
      · exact h
      · refine List.pairwise_cons.2 ⟨fun x hx => ?_, ih hr⟩
        rcases mem_of_mem_insertMember hx with rfl | hx
        · omega
        · exact hb x hx

instance : EmptyCollection (RankedSet α rank) := ⟨⟨[], .nil⟩⟩

instance : Inhabited (RankedSet α rank) := ⟨∅⟩

/-- Equality of two sets is equality of their lists. -/
theorem eq_of_toList {s t : RankedSet α rank} (h : s.toList = t.toList) : s = t := by
  cases s; cases t; cases h; rfl

instance [DecidableEq α] : DecidableEq (RankedSet α rank) := fun s t =>
  if h : s.toList = t.toList then isTrue (eq_of_toList h)
  else isFalse fun e => h (e ▸ rfl)

def size (s : RankedSet α rank) : Nat := s.toList.length

def isEmpty (s : RankedSet α rank) : Bool := s.toList.isEmpty

def contains [DecidableEq α] (s : RankedSet α rank) (a : α) : Bool := s.toList.contains a

def insert (s : RankedSet α rank) (a : α) : RankedSet α rank :=
  ⟨insertMember rank a s.toList, rising_insertMember s.rising⟩

def erase [DecidableEq α] (s : RankedSet α rank) (a : α) : RankedSet α rank :=
  ⟨s.toList.erase a, s.rising.sublist List.erase_sublist⟩

/-- The members of both sets. -/
def union (s t : RankedSet α rank) : RankedSet α rank := t.toList.foldl insert s

/-- The set of the listed members. -/
def ofList (l : List α) : RankedSet α rank := l.foldl insert ∅

/-! ## Membership -/

theorem nodup_toList (s : RankedSet α rank) : s.toList.Nodup :=
  s.rising.imp fun h e => by subst e; exact Nat.lt_irrefl _ h

/-- Two sets with the same members are equal. -/
theorem eq_of_mem_iff {s t : RankedSet α rank} (h : ∀ x, x ∈ s.toList ↔ x ∈ t.toList) : s = t := by
  have perm : s.toList.Perm t.toList :=
    (List.perm_ext_iff_of_nodup s.nodup_toList t.nodup_toList).2 h
  refine eq_of_toList (perm.eq_of_pairwise (fun a b _ _ hab hba => ?_) s.rising t.rising)
  exact absurd hba (Nat.lt_asymm hab)

theorem mem_insertMember (inj : ∀ a b, rank a = rank b → a = b) {a x : α} {s : List α} :
    x ∈ insertMember rank a s ↔ x = a ∨ x ∈ s := by
  refine ⟨mem_of_mem_insertMember, fun h => ?_⟩
  induction s with
  | nil => simpa [insertMember] using h
  | cons b r ih =>
    simp only [insertMember]
    split
    · simpa using h
    · split
      · rename_i hab
        rcases h with rfl | h
        · exact inj _ _ hab ▸ List.mem_cons_self
        · exact h
      · rcases h with rfl | h
        · exact List.mem_cons_of_mem _ (ih (.inl rfl))
        · rcases List.mem_cons.1 h with rfl | h
          · exact List.mem_cons_self
          · exact List.mem_cons_of_mem _ (ih (.inr h))

theorem mem_insert (inj : ∀ a b, rank a = rank b → a = b) {s : RankedSet α rank} {a x : α} :
    x ∈ (s.insert a).toList ↔ x = a ∨ x ∈ s.toList :=
  mem_insertMember inj

theorem mem_union (inj : ∀ a b, rank a = rank b → a = b) {s t : RankedSet α rank} {x : α} :
    x ∈ (s.union t).toList ↔ x ∈ s.toList ∨ x ∈ t.toList := by
  unfold union
  generalize t.toList = l
  induction l generalizing s with
  | nil => simp
  | cons a l ih => rw [List.foldl_cons, ih, mem_insert inj, List.mem_cons, or_assoc, or_left_comm]

theorem mem_erase [DecidableEq α] {s : RankedSet α rank} {a x : α} :
    x ∈ (s.erase a).toList ↔ x ≠ a ∧ x ∈ s.toList := by
  simpa [erase] using s.nodup_toList.mem_erase_iff

end RankedSet

end ScreenEffects
