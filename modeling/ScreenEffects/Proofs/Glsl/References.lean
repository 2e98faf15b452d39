import ScreenEffects.Proofs.Glsl.Renaming

/-!
# References and renaming

A text refers to a name exactly if giving the name another one changes the text. So a name that is
not referred to may be in a rename table or not: what the table says of it does not count. The
hard part is that no text is its own renaming by accident: a new name could be chosen so that the
renamed text reads like the old one, were it not that all replacements make it longer, or none does.

* `eq_of_flatMap_eq` : of texts that are written piece by piece, and no piece of the one is longer,
  all pieces are the same if the texts are.
* `rename_congr` : renaming reads its table at the names referred to.
* `references_agrees_with_rename` : both directions.
-/

namespace ScreenEffects.Glsl

/-! ## Texts that are written piece by piece -/

section Pieces

variable {α β : Type} {f g : α → List β} {l : List α}

theorem length_flatMap_le (le : ∀ a ∈ l, (f a).length ≤ (g a).length) :
    (l.flatMap f).length ≤ (l.flatMap g).length := by
  induction l with
  | nil => exact Nat.le_refl _
  | cons a l ih =>
    obtain ⟨first, rest⟩ := List.forall_mem_cons.1 le
    rw [List.flatMap_cons, List.flatMap_cons, List.length_append, List.length_append]
    exact Nat.add_le_add first (ih rest)

/-- If no piece of the first text is longer than that of the second, and the texts are the same, then
so are the pieces. -/
theorem eq_of_flatMap_eq (le : ∀ a ∈ l, (f a).length ≤ (g a).length)
    (h : l.flatMap f = l.flatMap g) : ∀ a ∈ l, f a = g a := by
  induction l with
  | nil => exact nofun
  | cons a l ih =>
    obtain ⟨first, rest⟩ := List.forall_mem_cons.1 le
    rw [List.flatMap_cons, List.flatMap_cons] at h
    -- what is shorter at first could be made up for only by a longer rest
    have lengths := congrArg List.length h
    rw [List.length_append, List.length_append] at lengths
    have later := length_flatMap_le rest
    obtain ⟨same, again⟩ := List.append_inj h (by omega)
    exact List.forall_mem_cons.2 ⟨same, ih rest again⟩

end Pieces

/-! ## References -/

theorem references_eq_true_iff {source name : String} :
    references source name = true ↔ .identifier name.toList false ∈ tokenize source := by
  rw [references, List.any_eq_true]
  constructor
  · rintro ⟨t, ht, refers⟩
    unfold Token.isReference at refers
    split at refers
    · rw [← beq_iff_eq.1 refers, String.toList_ofList]
      exact ht
    · cases refers
  · intro h
    refine ⟨_, h, ?_⟩
    rw [Token.isReference, String.ofList_toList]
    exact beq_self_eq_true _

/-- Renaming reads its table at the names that the text refers to, and nowhere else. -/
theorem rename_congr {source : String} {table table' : Renames}
    (same : ∀ name, references source name = true → table.get? name = table'.get? name) :
    rename source table = rename source table' := by
  rw [← String.toList_inj, toList_rename, toList_rename]
  refine List.flatMap_congr fun t ht => ?_
  unfold Token.renamed
  split
  · rename_i l
    rw [same (.ofList l) (references_eq_true_iff.2 (by rwa [String.toList_ofList]))]
  · rfl

theorem rename_of_forall_not_references {source : String} {table : Renames}
    (none : ∀ name ∈ table.keys, references source name = false) : rename source table = source := by
  refine (rename_congr fun name refers => ?_).trans (rename_empty source)
  refine OrderedMap.get?_eq_none_iff.2 fun key => ?_
  rw [none name key] at refers
  cases refers

/-! ## One new name -/

theorem get?_single (old new name : String) :
    (OrderedMap.ofList [(old, new)] : Renames).get? name = if name = old then some new else none :=
  OrderedMap.get?_insert ..

/-- A table with one entry gives its name to every reference to the old one, and to nothing else. -/
theorem renamed_single_cases (old new : String) (t : Token) :
    t.renamed (.ofList [(old, new)]) = t.lexeme ∨
      t.lexeme = old.toList ∧ t.renamed (.ofList [(old, new)]) = new.toList := by
  rcases relabelled_cases (.ofList [(old, new)]) t with ⟨-, same⟩ | ⟨l, name, rfl, found, -, renamed⟩
  · exact .inl same
  · rw [get?_single] at found
    split at found
    · rename_i named
      cases found
      exact .inr ⟨by rw [← named, String.toList_ofList]; rfl, renamed⟩
    · cases found

/-- A text is not its own renaming, if something in it is renamed. -/
theorem rename_single_ne {source old new : String} (other : old ≠ new)
    (refers : references source old = true) : rename source (.ofList [(old, new)]) ≠ source := by
  intro same
  let table : Renames := .ofList [(old, new)]
  have texts : (tokenize source).flatMap (·.renamed table) =
      (tokenize source).flatMap Token.lexeme := by
    rw [← toList_rename, same]
    exact (flatMap_lexeme_tokensAfter none source.toList).symm
  -- all replacements go in one direction: the new name is the longer one, or the old one is
  have pieces : ∀ t ∈ tokenize source, t.renamed table = t.lexeme := by
    rcases Nat.le_total new.toList.length old.toList.length with shorter | longer
    · refine eq_of_flatMap_eq (fun t _ => ?_) texts
      rcases renamed_single_cases old new t with kept | ⟨was, renamed⟩
      · exact (congrArg List.length kept).le
      · rw [was, renamed]
        exact shorter
    · refine fun t ht => (eq_of_flatMap_eq (fun t _ => ?_) texts.symm t ht).symm
      rcases renamed_single_cases old new t with kept | ⟨was, renamed⟩
      · exact (congrArg List.length kept).ge
      · rw [was, renamed]
        exact longer
  have kept := pieces _ (references_eq_true_iff.1 refers)
  rw [Token.renamed, String.ofList_toList, get?_single, if_pos rfl] at kept
  exact other (String.toList_inj.1 kept).symm

/-- **References agree with renaming.** A text refers to a name exactly if any other name in its place
changes the text. Tables that agree on the names a text refers to rename it alike, whatever else is
in them; and a table of names that the text does not refer to leaves the text as it is. -/
theorem references_agrees_with_rename (source : String) :
    (∀ old new, old ≠ new →
        (references source old = true ↔ rename source (.ofList [(old, new)]) ≠ source)) ∧
      (∀ table table' : Renames,
        (∀ name, references source name = true → table.get? name = table'.get? name) →
          rename source table = rename source table') ∧
      ∀ table : Renames, (∀ name ∈ table.keys, references source name = false) →
        rename source table = source := by
  refine ⟨fun old new other => ⟨rename_single_ne other, fun changed => ?_⟩, fun _ _ => rename_congr,
    fun _ => rename_of_forall_not_references⟩
  by_contra absent
  refine changed (rename_of_forall_not_references fun name key => ?_)
  obtain rfl : name = old := by simpa using OrderedMap.mem_keys_ofList.1 key
  exact Bool.eq_false_iff.2 absent

/-- A name that comes twice, in a comment and behind a point, and a new name that contains the
old one. -/
theorem references_agrees_with_rename_twice :
    let source := "x*y.x; // z\nx"
    references source "x" = true ∧ rename source (.ofList [("x", "x*y.x; // z\nx")]) ≠ source ∧
      ¬ references source "z" = true ∧
      rename source (.ofList [("z", "a"), ("x", "b")]) =
        rename source (.ofList [("x", "b"), ("rgb", "")]) ∧
      rename source (.ofList [("z", "a"), ("rgb", "")]) = source := by
  intro source
  obtain ⟨changes, alike, idle⟩ := references_agrees_with_rename source
  have x : references source "x" = true := by decide +kernel
  have z : ¬ references source "z" = true := by decide +kernel
  have rgb : ¬ references source "rgb" = true := by decide +kernel
  refine ⟨x, (changes "x" _ (by decide)).1 x, z, alike _ _ fun name refers => ?_,
    idle _ fun name key => ?_⟩
  · have notZ : name ≠ "z" := fun e => z (e ▸ refers)
    have notRgb : name ≠ "rgb" := fun e => rgb (e ▸ refers)
    simp [OrderedMap.ofList, OrderedMap.insertMany, OrderedMap.get?_insert, notZ, notRgb]
  · have listed : name ∈ ["z", "rgb"] := OrderedMap.mem_keys_ofList.1 key
    rcases List.mem_pair.1 listed with rfl | rfl
    · exact Bool.eq_false_iff.2 z
    · exact Bool.eq_false_iff.2 rgb

end ScreenEffects.Glsl
