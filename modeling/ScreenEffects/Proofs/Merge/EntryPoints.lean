import ScreenEffects.Proofs.Glsl.Comments
import ScreenEffects.Proofs.Merge.Locality

/-!
# A merged program calls what it defines

The calls of a merged program name the entry points that the declaration scan found in the effects'
texts, and the definitions stand in texts that were renamed token by token. If the comments of the
texts are plain, the two agree: each name that is called was written by renaming, over an identifier
outside the comments.

* `produces_of_mem_functionsOf` : the new name of a function that is found is written.
* `merge_calls_what_it_defines` : so it is for each entry point that a merged program calls.
-/

namespace ScreenEffects

open Glsl

/-! ## Names that renaming writes -/

/-- Renaming `source` by `table` writes the name `new` over an identifier outside the comments, and
the renamed text is part of `head`. -/
def Produces (head source : String) (table : Renames) (new : String) : Prop :=
  ∃ before name after, tokenize source = before ++ .identifier name false :: after ∧
    table.get? (.ofList name) = some new ∧
    before.flatMap (·.renamed table) ++ new.toList ++ after.flatMap (·.renamed table) <:+:
      head.toList

/-- The new name of a function that is found is written. -/
theorem produces_of_mem_functionsOf {head source name new : String} {table : Renames}
    (plain : HasPlainComments source) (hname : isIdentifier name.toList = true)
    (h : name ∈ functionsOf source) (hnew : table.get? name = some new)
    (hhead : (rename source table).toList <:+: head.toList) : Produces head source table new := by
  obtain ⟨before, after, split⟩ := exists_identifier_of_mem_functionsOf plain hname h
  have hnew : table.get? (.ofList name.toList) = some new := by rwa [String.ofList_toList]
  rw [toList_rename_of_split split hnew] at hhead
  exact ⟨before, name.toList, after, split, hnew, hhead⟩

theorem infix_join {s : String} {l : List String} (h : s ∈ l) :
    s.toList <:+: (String.join l).toList := by
  rw [String.toList_join]
  obtain ⟨x, y, rfl⟩ := List.append_of_mem h
  rw [List.flatMap_append, List.flatMap_cons, ← List.append_assoc]
  exact List.infix_append _ _ _

/-! ## The names that an effect's calls use -/

/-- The comments of the effect's bodies are plain. -/
structure Effect.HasPlainComments (e : Effect) : Prop where
  fragment : Glsl.HasPlainComments e.fragment
  vertex : ∀ v, e.vertex = some v → Glsl.HasPlainComments v

/-- The names that the effect declares: in its bodies, as uniforms and as macros. -/
def Effect.declaredNames (e : Effect) : List String :=
  e.symbols.names ++ e.uniforms.keys ++ e.defines.keys.map Effect.macroName

/-- The new names of the symbols of the effect of rank `k`. -/
def Effect.newNames (e : Effect) (k : Nat) : Renames :=
  Contribution.renames (rankMark k) e e.symbols

/-- The call of the vertex entry point of the effect of rank `k`. -/
def supportingText (e : Effect) (k : Nat) : String :=
  "\te" ++ toString k ++ "MainSupport(" ++ (if e.symbols.supportReadsUv then "vUv" else "") ++
    ");\n"

theorem marked_rankMark (name : String) {capital : String} (k : Nat)
    (h : capitalize name.toList = capital.toList) :
    marked (rankMark k) name = "e" ++ toString k ++ capital := by
  rw [marked, h, String.ofList_toList, rankMark]

theorem mainSupport_of (k : Nat) (e : Effect) :
    (Contribution.of k e).mainSupport =
      if e.symbols.hasMainSupport then supportingText e k else "" := by
  rw [Contribution.of, supportingText, rankMark, show "\te" = "\t" ++ "e" from rfl]
  simp only [String.append_assoc]

theorem get?_newNames {e : Effect} {k : Nat} {name : String} (h : name ∈ e.declaredNames) :
    (e.newNames k).get? name = some (marked (rankMark k) name) :=
  OrderedMap.get?_ofList_map (f := marked (rankMark k)) h

theorem mem_declaredNames_of_mem_keys {e : Effect} {k : Nat} {name : String}
    (h : name ∈ (e.newNames k).keys) : name ∈ e.declaredNames := by
  rw [Effect.newNames, Contribution.renames, OrderedMap.mem_keys_ofList, List.map_map] at h
  obtain ⟨a, ha, rfl⟩ := List.mem_map.1 h
  exact ha

theorem mem_declaredNames_of_mem_names {e : Effect} {name : String} (h : name ∈ e.symbols.names) :
    name ∈ e.declaredNames :=
  List.mem_append_left _ (List.mem_append_left _ h)

theorem functions_symbols (e : Effect) : e.symbols.functions = functionsOf e.fragment := by
  unfold Effect.symbols SymbolTable.scan
  split
  · dsimp only
    split <;> rfl
  · rfl

/-- Vertex functions are those of a vertex body. -/
theorem exists_vertex {e : Effect} {name : String} (h : name ∈ e.symbols.vertexFunctions) :
    ∃ v, e.vertex = some v ∧ name ∈ functionsOf v := by
  unfold Effect.symbols SymbolTable.scan at h
  cases hv : e.vertex with
  | none =>
    rw [hv] at h
    cases h
  | some v =>
    refine ⟨v, rfl, ?_⟩
    rw [hv] at h
    dsimp only at h
    split at h
    · exact h
    · cases h


namespace Draft

variable {effects : List Effect} {e : Effect} {k : Nat} {name : String}

/-- A function of a fragment body is written under its new name to the head of the fragment
program. -/
theorem produces_fragment (hk : (e, k) ∈ ranked effects) (plain : e.HasPlainComments)
    (hname : isIdentifier name.toList = true) (h : name ∈ e.symbols.functions) :
    Produces (ofEffects effects).fragmentHead e.fragment (e.newNames k)
      (marked (rankMark k) name) := by
  have declared := mem_declaredNames_of_mem_names (List.mem_append_right _ h)
  have part : (rename e.fragment (e.newNames k)).toList <:+:
      ((Contribution.of k e).fragmentHead).toList := by
    simp only [Contribution.of, String.toList_append]
    exact List.infix_append _ _ _
  have whole := infix_join (List.mem_map_of_mem (f := fun x : Effect × Nat =>
    (Contribution.of x.2 x.1).fragmentHead) hk)
  rw [ofEffects_eq_join (·.fragmentHead) (·.fragmentHead) rfl (fun _ _ _ => rfl) fun _ _ => rfl]
  rw [functions_symbols] at h
  exact produces_of_mem_functionsOf plain.fragment hname h (get?_newNames declared)
    (part.trans whole)

/-- A function of a vertex body that takes part is written under its new name to the head of the
vertex program. -/
theorem produces_vertex (hk : (e, k) ∈ ranked effects) (plain : e.HasPlainComments)
    (hname : isIdentifier name.toList = true) (support : e.symbols.hasMainSupport = true)
    (h : name ∈ e.symbols.vertexFunctions) :
    ∃ v, e.vertex = some v ∧ Produces (ofEffects effects).vertexHead v (e.newNames k)
      (marked (rankMark k) name) := by
  have declared := mem_declaredNames_of_mem_names
    (List.mem_append_left _ (List.mem_append_right _ h))
  obtain ⟨v, hv, found⟩ := exists_vertex h
  have part : (rename v (e.newNames k)).toList <:+:
      ((Contribution.of k e).vertexHead).toList := by
    rw [Contribution.of, support, if_pos rfl, hv, Option.map_some, Option.getD_some,
      String.toList_append]
    exact (List.prefix_append _ _).isInfix
  have whole := infix_join (List.mem_map_of_mem (f := fun x : Effect × Nat =>
    (Contribution.of x.2 x.1).vertexHead) hk)
  rw [ofEffects_eq_join (·.vertexHead) (·.vertexHead) rfl (fun _ _ _ => rfl) fun _ _ => rfl]
  exact ⟨v, hv, produces_of_mem_functionsOf (plain.vertex v hv) hname found (get?_newNames declared)
    (part.trans whole)⟩

/-- The calls in the vertex program are those of the effects whose vertex body takes part, in
order. -/
theorem mainSupport_ofEffects (effects : List Effect) :
    (ofEffects effects).mainSupport =
      String.join ((supported effects).map fun (e, k) => supportingText e k) := by
  rw [ofEffects_eq_join (·.mainSupport) (·.mainSupport) rfl (fun _ _ _ => rfl) fun _ _ => rfl]
  simp only [mainSupport_of]
  exact join_map_ite (fun x : Effect × Nat => x.1.symbols.hasMainSupport)
    (fun x => supportingText x.1 x.2) (ranked effects)

end Draft

/-! ## A merge -/

/-- The merge `m`, finished from the draft `d`, calls entry points whose new names it has written. -/
structure CallsWhatItDefines (effects : List Effect) (d : Draft) (m : Merged) : Prop where
  run : Draft.takeAll {} 0 effects = .ok d
  finished : m = d.finish
  shading : d.mainImage =
    String.join ((shadingEffects effects).map fun (e, k) => shadingText e k)
  moving : d.mainUv = String.join ((movingEffects effects).map fun (_, k) => movingText k)
  supporting : d.mainSupport =
    String.join ((Draft.supported effects).map fun (e, k) => supportingText e k)
  mainImage : ∀ e k, (e, k) ∈ shadingEffects effects →
    Produces d.fragmentHead e.fragment (e.newNames k) ("e" ++ toString k ++ "MainImage")
  mainUv : ∀ e k, (e, k) ∈ movingEffects effects →
    Produces d.fragmentHead e.fragment (e.newNames k) ("e" ++ toString k ++ "MainUv")
  mainSupport : ∀ e k, (e, k) ∈ Draft.supported effects → ∃ v, e.vertex = some v ∧
    Produces d.vertexHead v (e.newNames k) ("e" ++ toString k ++ "MainSupport")

theorem callsWhatItDefines_of_merge {effects : List Effect} {m : Merged}
    (h : merge effects = .ok m) (plain : ∀ e ∈ effects, e.isActive → e.HasPlainComments) :
    CallsWhatItDefines effects (Draft.ofEffects effects) m := by
  obtain ⟨hm, rfl⟩ := merge_eq_ok_iff.1 h
  have plainAt {e : Effect} {k : Nat} (hk : (e, k) ∈ ranked effects) : e.HasPlainComments :=
    have active := exists_mem_ranked_iff.1 ⟨k, hk⟩
    plain e active.1 active.2
  exact {
    run := hm.takeAll_eq_ok
    finished := rfl
    shading := Draft.mainImage_ofEffects effects
    moving := Draft.mainUv_ofEffects effects
    supporting := Draft.mainSupport_ofEffects effects
    mainImage := fun e k hk => by
      obtain ⟨hk, found⟩ := List.mem_filter.1 hk
      have found : "mainImage" ∈ e.symbols.functions := List.contains_iff_mem.1 found
      rw [← marked_rankMark "mainImage" k (by decide)]
      exact Draft.produces_fragment hk (plainAt hk) (by decide) found
    mainUv := fun e k hk => by
      obtain ⟨hk, found⟩ := List.mem_filter.1 hk
      have found : "mainUv" ∈ e.symbols.functions := List.contains_iff_mem.1 found
      rw [← marked_rankMark "mainUv" k (by decide)]
      exact Draft.produces_fragment hk (plainAt hk) (by decide) found
    mainSupport := fun e k hk => by
      obtain ⟨hk, support⟩ := List.mem_filter.1 hk
      have found : "mainSupport" ∈ e.symbols.vertexFunctions := List.contains_iff_mem.1 support
      rw [← marked_rankMark "mainSupport" k (by decide)]
      exact Draft.produces_vertex hk (plainAt hk) (by decide) support found }

/-- The functions that a text would define if the tokens alone said what a comment is. -/
def visibleFunctions (source : String) : List String :=
  distinctNames ((scanShapes functionAt? (visibleText source.toList)).map String.ofList)

/-- **A merged program calls what it defines.** On a text with plain comments, the declaration scan
and the renaming agree on what a comment is: what is left without comments is what the tokens leave,
so the functions found are those outside the comments, and one whose name is an identifier is an
identifier of the text. Hence each entry point that a merged program calls has the name that renaming
has written in the head of the program. -/
theorem merge_calls_what_it_defines (source : String) (effects : List Effect) :
    (HasPlainComments source →
      stripComments source = .ofList (visibleText source.toList) ∧
      functionsOf source = visibleFunctions source ∧
      ∀ name ∈ functionsOf source, isIdentifier name.toList → references source name) ∧
    ∀ m, merge effects = .ok m → (∀ e ∈ effects, e.isActive → e.HasPlainComments) →
      ∃ d, CallsWhatItDefines effects d m := by
  refine ⟨fun plain => ⟨?_, ?_, fun name h hname => ?_⟩,
    fun m h plain => ⟨_, callsWhatItDefines_of_merge h plain⟩⟩
  · rw [stripComments, uncommented_eq_visibleText plain]
  · rw [functionsOf, uncommented_eq_visibleText plain, visibleFunctions]
  · obtain ⟨before, after, split⟩ := exists_identifier_of_mem_functionsOf plain hname h
    rw [references, split, List.any_append, List.any_cons, Token.isReference, String.ofList_toList,
      beq_self_eq_true, Bool.true_or, Bool.or_true]

/-- An effect with a vertex body, both with comments of either kind that look like the other or like
a function. -/
theorem merge_calls_sway :
    let fragment := "// void mainUv() \x7b\x7d\n" ++
      "void/* // */mainImage(const in vec4 inputColor) \x7b/**/\x7d // end"
    let vertex := "void mainSupport(/* none */) \x7b\x7d"
    let sway := { Effect.ofEntry "sway" "mainImage" ⟨.normal, ⟨0⟩⟩ .none with
      fragment := fragment
      vertex := some vertex }
    HasPlainComments fragment ∧ (∀ e ∈ [sway], e.isActive → e.HasPlainComments) ∧
      functionsOf fragment = ["mainImage"] ∧ references fragment "mainImage" ∧
      ∃ m d, merge [sway] = .ok m ∧ CallsWhatItDefines [sway] d m ∧
        Produces d.fragmentHead fragment (sway.newNames 0) "e0MainImage" ∧
        Produces d.vertexHead vertex (sway.newNames 0) "e0MainSupport" := by
  intro fragment vertex sway
  have plain : sway.HasPlainComments := by
    refine ⟨by decide +kernel, fun v hv => ?_⟩
    obtain rfl := Option.some.inj hv
    decide +kernel
  have plains : ∀ e ∈ [sway], e.isActive → e.HasPlainComments := fun e he _ =>
    List.mem_singleton.1 he ▸ plain
  have found : functionsOf fragment = ["mainImage"] := by decide +kernel
  have accepted := merge_eq_ok_iff.2 (⟨by decide +kernel, rfl⟩ : Mergeable [sway] ∧ _)
  have holds := merge_calls_what_it_defines fragment [sway]
  obtain ⟨-, -, identifiers⟩ := holds.1 plain.fragment
  obtain ⟨d, calls⟩ := holds.2 _ accepted plains
  have shading : (sway, 0) ∈ shadingEffects [sway] :=
    List.mem_filter.2 ⟨List.mem_cons_self, by decide +kernel⟩
  have supporting : (sway, 0) ∈ Draft.supported [sway] :=
    List.mem_filter.2 ⟨List.mem_cons_self, by decide +kernel⟩
  obtain ⟨v, hv, support⟩ := calls.mainSupport sway 0 supporting
  obtain rfl := Option.some.inj hv
  exact ⟨plain.fragment, plains, found,
    identifiers "mainImage" (found ▸ List.mem_cons_self) (by decide), _, d, accepted, calls,
    calls.mainImage sway 0 shading, support⟩

/-- A block comment that opens in a line comment hides the function on the next line from the
declaration scan, though the tokens leave it, and a function in a block comment that is never closed
is found and called, though no renaming writes its name. -/
theorem merge_misreads_comments :
    let hidden := "// a /* b\n" ++
      "void mainImage(const in vec4 inputColor, const in vec2 uv, out vec4 outputColor) \x7b\x7d\n" ++
      "/* c */"
    let unclosed := "/* void mainUv(inout vec2 uv) \x7b\x7d"
    stripComments hidden ≠ .ofList (visibleText hidden.toList) ∧
      functionsOf hidden = [] ∧ visibleFunctions hidden = ["mainImage"] ∧
      functionsOf unclosed = ["mainUv"] ∧ visibleFunctions unclosed = [] ∧
      references unclosed "mainUv" = false := by
  decide +kernel

end ScreenEffects
