import ScreenEffects.Merge.Contribution
import ScreenEffects.Proofs.Glsl.Identifier
import ScreenEffects.Proofs.OrderedMap

/-!
# Marks keep symbols apart

The symbols of the effect of rank `k` begin with the mark `ek`, and what follows the mark is any
text. So a symbol of rank `1` may look like one of rank `10`, but not the other way round: a symbol
that goes on with no digit belongs to no higher rank. If what follows is an identifier, as it is for
most symbols, then the rank can be read off the symbol (`BearsMark`).

* `le_of_toDigits_append` : decimal digits at the start of a text are those of no larger number.
* `marked_ne_opacityName` : the opacity of an effect is no symbol of a later one.
* `BearsMark.rank_eq` : a symbol with a mark that ends has one rank.
-/

namespace ScreenEffects

open Glsl

theorem toList_rankMark (k : Nat) : (rankMark k).toList = 'e' :: Nat.toDigits 10 k := by
  rw [rankMark, String.toList_append, Nat.toString_eq_repr, Nat.toList_repr]
  rfl

/-- A number whose digits stand before the end of the digits of `k` is at most `k`. -/
theorem le_of_toDigits_append {n k : Nat} {x y : List Char} {c : Char} (hc : c.isDigit = false)
    (h : Nat.toDigits 10 n ++ x = Nat.toDigits 10 k ++ c :: y) : n ≤ k := by
  have digits (m : Nat) : ∀ a ∈ Nat.toDigits 10 m, a.isDigit = true := fun a ha =>
    Nat.isDigit_of_mem_toDigits (by omega) (by omega) ha
  -- the digits at the start of either side
  have start := congrArg (List.takeWhile Char.isDigit) h
  rw [List.takeWhile_append_of_pos (digits n), List.takeWhile_append_of_pos (digits k),
    List.takeWhile_cons_of_neg (by simp [hc]), List.append_nil] at start
  have value : Nat.ofDigitChars 10 (Nat.toDigits 10 k) 0 = k := Nat.ofDigitChars_ten_toDigits
  rw [← start, Nat.ofDigitChars_append, Nat.ofDigitChars_ten_toDigits,
    Nat.ofDigitChars_eq_ofDigitChars_zero] at value
  have := Nat.le_mul_of_pos_left n
    (Nat.pow_pos (n := (x.takeWhile Char.isDigit).length) (show 0 < 10 by omega))
  omega

theorem opacityName_eq (mark : String) :
    Contribution.opacityName mark = mark ++ "BlendOpacity" := by
  rw [Contribution.opacityName, marked]
  congr 1

/-- The opacity of an effect is no symbol of a later one. -/
theorem marked_ne_opacityName {k n : Nat} (h : k < n) (name : String) :
    marked (rankMark n) name ≠ Contribution.opacityName (rankMark k) := by
  intro e
  have e := congrArg String.toList e
  rw [opacityName_eq, marked, String.toList_append, String.toList_append, toList_rankMark,
    toList_rankMark] at e
  have := le_of_toDigits_append (c := 'B') rfl (List.cons.inj e).2
  omega

/-! ## Marks that end -/

/-- The symbol begins with the mark of rank `k`, and goes on with no digit. -/
def BearsMark (k : Nat) (symbol : String) : Prop :=
  ∃ c rest, symbol.toList = (rankMark k).toList ++ c :: rest ∧ c.isDigit = false

theorem BearsMark.rank_eq {k n : Nat} {symbol : String} (hk : BearsMark k symbol)
    (hn : BearsMark n symbol) : k = n := by
  obtain ⟨c, x, hx, hc⟩ := hk
  obtain ⟨d, y, hy, hd⟩ := hn
  have e := hx.symm.trans hy
  rw [toList_rankMark, toList_rankMark, List.cons_append, List.cons_append] at e
  have e := (List.cons.inj e).2
  exact Nat.le_antisymm (le_of_toDigits_append hd e) (le_of_toDigits_append hc e.symm)

theorem BearsMark.head? {k : Nat} {symbol : String} (h : BearsMark k symbol) :
    symbol.toList.head? = some 'e' := by
  obtain ⟨c, rest, hs, -⟩ := h
  rw [hs, toList_rankMark]
  rfl

/-- What stands behind a symbol does not hide its mark. -/
theorem BearsMark.append {k : Nat} {symbol longer : String} (h : BearsMark k symbol)
    {tail : List Char} (hl : longer.toList = symbol.toList ++ tail) : BearsMark k longer := by
  obtain ⟨c, rest, hs, hc⟩ := h
  refine ⟨c, rest ++ tail, ?_, hc⟩
  rw [hl, hs, List.append_assoc, List.cons_append]

/-- An identifier that is capitalised starts with no digit. -/
theorem exists_capitalize_eq_cons {name : List Char} (h : isIdentifier name = true) :
    ∃ c rest, capitalize name = c :: rest ∧ c.isDigit = false := by
  cases name with
  | nil => cases h
  | cons c r =>
    have hc := (Bool.and_eq_true_iff.1 h).1
    have ascii := toNat_lt_of_isIdentifierChar (isIdentifierChar_of_isIdentifierStart hc)
    refine ⟨c.toUpper, r, ?_, (isDigit_of_isIdentifierStart hc).2⟩
    rw [capitalize, capital_ascii ascii]
    rfl

theorem bearsMark_marked {name : String} (h : isIdentifier name.toList = true) (k : Nat) :
    BearsMark k (marked (rankMark k) name) := by
  obtain ⟨c, rest, hc, digit⟩ := exists_capitalize_eq_cons h
  refine ⟨c, rest, ?_, digit⟩
  rw [marked, String.toList_append, String.toList_ofList, hc]

namespace Contribution

theorem mem_keys_mergedUniforms {mark : String} {e : Effect} {symbols : SymbolTable}
    {key : String} (h : key ∈ (mergedUniforms mark e symbols).keys) :
    ∃ name, key = marked mark name := by
  have own {key : String} (h : key ∈ (OrderedMap.ofList
      (e.uniforms.entries.map fun x => (marked mark x.1, x.2))).keys) :
      ∃ name, key = marked mark name := by
    rw [OrderedMap.mem_keys_ofList, List.map_map] at h
    obtain ⟨⟨name, u⟩, -, rfl⟩ := List.mem_map.1 h
    exact ⟨name, rfl⟩
  rw [mergedUniforms] at h
  split at h
  · rcases OrderedMap.mem_keys_insert.1 h with rfl | h
    · exact ⟨"blendOpacity", rfl⟩
    · exact own h
  · exact own h

theorem nodup_keys_mergedUniforms (mark : String) (e : Effect) (symbols : SymbolTable) :
    (mergedUniforms mark e symbols).keys.Nodup := by
  rw [mergedUniforms]
  split
  · exact OrderedMap.nodup_keys_insert (OrderedMap.nodup_keys_ofList _) _ _
  · exact OrderedMap.nodup_keys_ofList _

end Contribution

end ScreenEffects
