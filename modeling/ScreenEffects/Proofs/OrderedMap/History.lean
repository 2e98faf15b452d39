import Mathlib.Data.Finmap
import ScreenEffects.Json.Read
import ScreenEffects.Proofs.OrderedMap

/-!
# Histories of ordered maps

An ordered map is made from pairs or read from an object of settings, and then changed: keys are
written and removed, and another map with a history of its own is written over it (`History`). What
it holds after that can be told in two ways that know nothing of its entries. A finite map without
order says what is under which key. A log of the keys that came in and went says in which order they
stand: a key stands where it came in first since it last went (`LivesSince`). The map follows both
(`Follows`), change by change.

* `Lists.inserted`, `Lists.removed` : what one event of the log does to the order.
* `Follows.insert`, `Follows.erase`, `Follows.extend` : what one change does to a map.
* `History.follows` : so it is after every history.
* `History.keeps_insertion_order` : keys, values, answers and order of a map with a history.
-/

namespace ScreenEffects.OrderedMap

/-! ## The log of the keys -/

/-- A key comes in or goes. -/
inductive KeyEvent (κ : Type)
  | inserted (key : κ)
  | removed (key : κ)
  deriving DecidableEq

/-- The key `k` came in at the moment `i`, which is the first time since it last went, and it has
not gone since. -/
structure LivesSince {κ : Type} (log : List (KeyEvent κ)) (k : κ) (i : Nat) : Prop where
  inserted : log[i]? = some (.inserted k)
  stayed : ∀ j, i < j → log[j]? ≠ some (.removed k)
  first : ∀ j, j < i → log[j]? = some (.inserted k) →
    ∃ r, j < r ∧ r < i ∧ log[r]? = some (.removed k)

/-- The keys are those that live, in the order in which they came in. -/
structure Lists {κ : Type} (log : List (KeyEvent κ)) (keys : List κ) : Prop where
  mem_iff : ∀ k, k ∈ keys ↔ ∃ i, LivesSince log k i
  ordered : keys.Pairwise fun a b => ∀ i j, LivesSince log a i → LivesSince log b j → i < j

section Log

variable {κ : Type} {log : List (KeyEvent κ)} {keys : List κ} {a k : κ} {i : Nat}

theorem LivesSince.lt_length (h : LivesSince log k i) : i < log.length :=
  (List.getElem?_eq_some_iff.1 h.inserted).1

theorem getElem?_concat_eq_some_iff {α : Type} {l : List α} {x y : α} {i : Nat} :
    (l ++ [x])[i]? = some y ↔ l[i]? = some y ∨ i = l.length ∧ x = y := by
  rcases Nat.lt_trichotomy i l.length with lt | rfl | gt
  · rw [List.getElem?_append_left lt]
    exact ⟨.inl, fun h => h.resolve_right fun last => Nat.ne_of_lt lt last.1⟩
  · rw [List.getElem?_concat_length, List.getElem?_eq_none le_rfl]
    simp
  · have out : (l ++ [x])[i]? = none := List.getElem?_eq_none (by rwa [List.length_append])
    rw [out, List.getElem?_eq_none gt.le]
    exact ⟨nofun, fun h => absurd (h.resolve_left nofun).1 gt.ne'⟩

/-- A key that has not gone since it came in at some moment lives, since then or before. -/
theorem exists_livesSince {j : Nat} (inserted : log[j]? = some (.inserted k))
    (stayed : ∀ r, j < r → log[r]? ≠ some (.removed k)) : ∃ i, LivesSince log k i := by
  induction j using Nat.strongRecOn with
  | ind j ih =>
    by_cases first : ∀ l, l < j → log[l]? = some (.inserted k) →
        ∃ r, l < r ∧ r < j ∧ log[r]? = some (.removed k)
    · exact ⟨j, inserted, stayed, first⟩
    · push Not at first
      obtain ⟨l, lt, before, between⟩ := first
      refine ih l lt before fun r later gone => ?_
      rcases Nat.lt_trichotomy r j with earlier | rfl | after
      · exact between r later earlier gone
      · rw [inserted] at gone
        cases gone
      · exact stayed r after gone

/-- A key that goes lives no more, and nothing else changes. -/
theorem livesSince_removed :
    LivesSince (log ++ [.removed k]) a i ↔ a ≠ k ∧ LivesSince log a i := by
  constructor
  · intro h
    have inserted : log[i]? = some (.inserted a) :=
      (getElem?_concat_eq_some_iff.1 h.inserted).resolve_right nofun
    have lt : i < log.length := (List.getElem?_eq_some_iff.1 inserted).1
    refine ⟨?_, inserted, fun j later gone => ?_, fun j before earlier => ?_⟩
    · rintro rfl
      exact h.stayed _ lt List.getElem?_concat_length
    · exact h.stayed j later (getElem?_concat_eq_some_iff.2 (.inl gone))
    · obtain ⟨r, after, still, gone⟩ :=
        h.first j before (getElem?_concat_eq_some_iff.2 (.inl earlier))
      refine ⟨r, after, still, (getElem?_concat_eq_some_iff.1 gone).resolve_right fun last => ?_⟩
      omega
  · rintro ⟨ne, h⟩
    refine ⟨getElem?_concat_eq_some_iff.2 (.inl h.inserted), fun j later gone => ?_,
      fun j before earlier => ?_⟩
    · rcases getElem?_concat_eq_some_iff.1 gone with gone | ⟨-, same⟩
      · exact h.stayed j later gone
      · exact ne (KeyEvent.removed.inj same).symm
    · have earlier := (getElem?_concat_eq_some_iff.1 earlier).resolve_right nofun
      obtain ⟨r, after, still, gone⟩ := h.first j before earlier
      exact ⟨r, after, still, getElem?_concat_eq_some_iff.2 (.inl gone)⟩

/-- A key that comes in lives since then, if it did not live before, and nothing else changes. -/
theorem livesSince_inserted :
    LivesSince (log ++ [.inserted k]) a i ↔
      LivesSince log a i ∨ a = k ∧ i = log.length ∧ ∀ j, ¬ LivesSince log k j := by
  constructor
  · intro h
    have first {j : Nat} (before : j < i) (earlier : log[j]? = some (.inserted a))
        (le : i ≤ log.length) : ∃ r, j < r ∧ r < i ∧ log[r]? = some (.removed a) := by
      obtain ⟨r, after, still, gone⟩ :=
        h.first j before (getElem?_concat_eq_some_iff.2 (.inl earlier))
      exact ⟨r, after, still, (getElem?_concat_eq_some_iff.1 gone).resolve_right nofun⟩
    rcases getElem?_concat_eq_some_iff.1 h.inserted with inserted | ⟨rfl, same⟩
    · have lt : i < log.length := (List.getElem?_eq_some_iff.1 inserted).1
      exact .inl ⟨inserted, fun j later gone =>
        h.stayed j later (getElem?_concat_eq_some_iff.2 (.inl gone)),
        fun j before earlier => first before earlier lt.le⟩
    · obtain rfl := KeyEvent.inserted.inj same
      refine .inr ⟨rfl, rfl, fun j lives => ?_⟩
      obtain ⟨r, after, -, gone⟩ := first lives.lt_length lives.inserted le_rfl
      exact lives.stayed r after gone
  · rintro (h | ⟨rfl, rfl, absent⟩)
    · refine ⟨getElem?_concat_eq_some_iff.2 (.inl h.inserted), fun j later gone => ?_,
        fun j before earlier => ?_⟩
      · exact h.stayed j later ((getElem?_concat_eq_some_iff.1 gone).resolve_right nofun)
      · have lt := h.lt_length
        rcases getElem?_concat_eq_some_iff.1 earlier with earlier | ⟨last, -⟩
        · obtain ⟨r, after, still, gone⟩ := h.first j before earlier
          exact ⟨r, after, still, getElem?_concat_eq_some_iff.2 (.inl gone)⟩
        · omega
    · refine ⟨List.getElem?_concat_length, fun j later gone => ?_, fun j before earlier => ?_⟩
      · have lt := (List.getElem?_eq_some_iff.1 gone).1
        rw [List.length_append, List.length_singleton] at lt
        omega
      · have earlier : log[j]? = some (.inserted a) :=
          (getElem?_concat_eq_some_iff.1 earlier).resolve_right fun last => by omega
        by_contra stayed
        push Not at stayed
        obtain ⟨i, lives⟩ := exists_livesSince earlier fun r after gone =>
          stayed r after (List.getElem?_eq_some_iff.1 gone).1
            (getElem?_concat_eq_some_iff.2 (.inl gone))
        exact absent i lives

theorem lists_nil : Lists ([] : List (KeyEvent κ)) [] where
  mem_iff _ := ⟨nofun, fun ⟨_, lives⟩ => absurd lives.lt_length (Nat.not_lt_zero _)⟩
  ordered := .nil

variable [DecidableEq κ]

/-- A key that comes in goes to the end, if it is not there. -/
theorem Lists.inserted (h : Lists log keys) (k : κ) :
    Lists (log ++ [.inserted k]) (if k ∈ keys then keys else keys ++ [k]) := by
  by_cases present : k ∈ keys
  · obtain ⟨j, lives⟩ := (h.mem_iff k).1 present
    have same (a : κ) (i : Nat) : LivesSince (log ++ [.inserted k]) a i ↔ LivesSince log a i := by
      rw [livesSince_inserted]
      exact or_iff_left fun new => new.2.2 j lives
    rw [if_pos present]
    exact ⟨fun a => by simp only [same, h.mem_iff], by simpa only [same] using h.ordered⟩
  · have absent : ∀ j, ¬ LivesSince log k j := fun j lives => present ((h.mem_iff k).2 ⟨j, lives⟩)
    have old {a : κ} (ha : a ∈ keys) (i : Nat) :
        LivesSince (log ++ [.inserted k]) a i ↔ LivesSince log a i := by
      rw [livesSince_inserted]
      exact or_iff_left fun new => present (new.1 ▸ ha)
    rw [if_neg present]
    constructor
    · intro a
      simp only [List.mem_append, List.mem_singleton, h.mem_iff, livesSince_inserted, exists_or]
      exact or_congr_right ⟨fun e => ⟨_, e, rfl, absent⟩, fun ⟨_, e, _⟩ => e⟩
    · refine List.pairwise_append.2 ⟨h.ordered.imp_of_mem fun ha hb before => ?_,
        List.pairwise_singleton _ _, fun a ha b hb i j first last => ?_⟩
      · simpa only [old ha, old hb] using before
      · obtain rfl := List.mem_singleton.1 hb
        have lt := ((old ha i).1 first).lt_length
        rcases livesSince_inserted.1 last with last | ⟨-, rfl, -⟩
        · exact absurd last (absent j)
        · exact lt

/-- A key that goes leaves the others where they are. -/
theorem Lists.removed (h : Lists log keys) (nodup : keys.Nodup) (k : κ) :
    Lists (log ++ [.removed k]) (keys.erase k) where
  mem_iff a := by
    simp only [nodup.mem_erase_iff, h.mem_iff, livesSince_removed, exists_and_left]
  ordered := by
    refine (h.ordered.sublist List.erase_sublist).imp fun before i j first last => ?_
    exact before i j (livesSince_removed.1 first).2 (livesSince_removed.1 last).2

end Log

/-! ## A map and its two tellings -/

/-- A finite map without order. -/
abbrev Plain (κ ν : Type) := Finmap fun _ : κ => ν

/-- The map has each key once, holds what the finite map holds and lists its keys as the log
says. -/
structure Follows {κ ν : Type} [DecidableEq κ] (m : OrderedMap κ ν) (plain : Plain κ ν)
    (log : List (KeyEvent κ)) : Prop where
  nodup : m.keys.Nodup
  reads : ∀ k, m.get? k = plain.lookup k
  lists : Lists log m.keys

section Changes

variable {κ ν : Type} [DecidableEq κ] {m n : OrderedMap κ ν} {plain plain' : Plain κ ν}
  {log log' : List (KeyEvent κ)}

theorem follows_empty : Follows (∅ : OrderedMap κ ν) ∅ [] where
  nodup := .nil
  reads k := by
    rw [Finmap.lookup_empty]
    rfl
  lists := lists_nil

theorem Follows.insert (h : Follows m plain log) (k : κ) (v : ν) :
    Follows (m.insert k v) (plain.insert k v) (log ++ [.inserted k]) where
  nodup := nodup_keys_insert h.nodup k v
  reads a := by
    rw [get?_insert]
    by_cases same : a = k
    · rw [if_pos same, same, Finmap.lookup_insert]
    · rw [if_neg same, Finmap.lookup_insert_of_ne _ same, h.reads]
  lists := by
    rw [keys_insert]
    exact h.lists.inserted k

theorem Follows.erase (h : Follows m plain log) (k : κ) :
    Follows (m.erase k) (plain.erase k) (log ++ [.removed k]) where
  nodup := by
    rw [keys_erase]
    exact h.nodup.erase k
  reads a := by
    by_cases same : a = k
    · rw [same, Finmap.lookup_erase, get?_eq_none_iff, keys_erase]
      exact h.nodup.not_mem_erase
    · rw [get?_erase_of_ne same, Finmap.lookup_erase_ne same, h.reads]
  lists := by
    rw [keys_erase]
    exact h.lists.removed h.nodup k

/-- The finite map after writes, one after the other. -/
def Plain.insertMany (plain : Plain κ ν) (es : List (κ × ν)) : Plain κ ν :=
  es.foldl (fun plain e => plain.insert e.1 e.2) plain

theorem Follows.insertMany (h : Follows m plain log) (es : List (κ × ν)) :
    Follows (m.insertMany es) (plain.insertMany es) (log ++ es.map (.inserted ·.1)) := by
  induction es generalizing m plain log with
  | nil =>
    rw [List.map_nil, List.append_nil]
    exact h
  | cons e es ih =>
    rw [insertMany_cons, List.map_cons, List.append_cons]
    exact ih (h.insert e.1 e.2)

theorem Follows.extend (h : Follows m plain log) (h' : Follows n plain' log') :
    Follows (m.extend n) (plain' ∪ plain) (log ++ n.keys.map .inserted) where
  nodup := nodup_keys_insertMany h.nodup n.entries
  reads k := by
    rw [get?_extend m h'.nodup, h.reads, h'.reads]
    by_cases mem : k ∈ plain'
    · obtain ⟨v, hv⟩ := Finmap.mem_iff.1 mem
      rw [Finmap.lookup_union_left mem, hv, Option.some_or]
    · rw [Finmap.lookup_union_right mem, Finmap.lookup_eq_none.2 mem, Option.none_or]
  lists := by
    have lists := (h.insertMany n.entries).lists
    rwa [keys, List.map_map]

theorem Follows.contains_iff (h : Follows m plain log) (k : κ) :
    m.contains k = true ↔ k ∈ plain := by
  rw [contains, h.reads, Finmap.lookup_isSome]

/-- Keys that are new stand behind the others, in the order in which they are written. -/
theorem keys_insertMany {es : List (κ × ν)} (nodup : (es.map (·.1)).Nodup) :
    (m.insertMany es).keys = m.keys ++ (es.map (·.1)).filter (· ∉ m.keys) := by
  induction es generalizing m with
  | nil => exact (List.append_nil _).symm
  | cons e es ih =>
    obtain ⟨absent, nodup⟩ := List.nodup_cons.1 nodup
    rw [insertMany_cons, ih nodup, keys_insert, List.map_cons]
    by_cases present : e.1 ∈ m.keys
    · rw [if_pos present, List.filter_cons_of_neg (by simpa using present)]
    · have others : (es.map (·.1)).filter (· ∉ m.keys ++ [e.1]) =
          (es.map (·.1)).filter (· ∉ m.keys) := by
        refine List.filter_congr fun a ha => ?_
        have ne : a ≠ e.1 := by
          rintro rfl
          exact absent ha
        simp [ne]
      rw [if_neg present, others, List.filter_cons_of_pos (by simpa using present),
        List.append_assoc, List.singleton_append]

end Changes

/-! ## Histories -/

open Json

section Object

variable {ν : Type} {value? : Tree → Option ν} {fields : List (Option String × Tree)}
  {m : NamedMap ν}

/-- The pairs that the fields of an object spell, in the order of the fields. -/
def fieldPairs (value? : Tree → Option ν) (fields : List (Option String × Tree)) :
    List (String × ν) :=
  fields.filterMap fun f => f.1.bind fun key => (value? f.2).map (key, ·)

/-- What can be told of an item and of what is read from it alike is told of both lists alike. -/
theorem map_eq_of_mapM {α β γ : Type} {f : α → Option β} {g : α → γ} {g' : β → γ} {l : List α}
    {r : List β} (h : l.mapM f = some r) (alike : ∀ a b, f a = some b → g a = g' b) :
    l.map g = r.map g' := by
  induction l generalizing r with
  | nil =>
    rw [List.mapM_nil] at h
    obtain rfl := Option.some.inj h
    rfl
  | cons a l ih =>
    rw [List.mapM_cons] at h
    obtain ⟨b, hb, h⟩ := Option.bind_eq_some_iff.1 h
    obtain ⟨r, hr, h⟩ := Option.bind_eq_some_iff.1 h
    obtain rfl := Option.some.inj h
    rw [List.map_cons, List.map_cons, alike a b hb, ih hr]

theorem filterMap_eq_of_mapM {α β : Type} {f : α → Option β} {l : List α} {r : List β}
    (h : l.mapM f = some r) : l.filterMap f = r := by
  have read : l.map f = r.map some := map_eq_of_mapM h fun _ _ => id
  have kept := congrArg (List.filterMap id) read
  rwa [List.filterMap_map, List.filterMap_map, Function.id_comp, Function.id_comp,
    List.filterMap_some] at kept

/-- A map that is read from an object has the pairs of all its fields written, in their order. -/
theorem eq_ofList_of_read (h : (Tree.object fields).map? value? = some m) :
    m = ofList (fieldPairs value? fields) ∧
      (fieldPairs value? fields).map (·.1) = fields.filterMap (·.1) := by
  obtain ⟨keyed, hkeyed, h⟩ := Option.bind_eq_some_iff.1 h
  obtain ⟨es, hes, h⟩ := Option.bind_eq_some_iff.1 h
  have pairs : fieldPairs value? fields = es := by
    rw [← filterMap_eq_of_mapM hes, ← filterMap_eq_of_mapM hkeyed, List.filterMap_filterMap]
    simp only [Option.bind_map]
    rfl
  refine ⟨pairs ▸ (Option.some.inj h).symm, ?_⟩
  have keys : keyed.map (·.1) = es.map (·.1) := by
    refine map_eq_of_mapM hes fun f e read => ?_
    obtain ⟨v, -, rfl⟩ := Option.map_eq_some_iff.1 read
    rfl
  have texts : fields.map (·.1) = keyed.map fun f => some f.1 := by
    refine map_eq_of_mapM hkeyed fun f e read => ?_
    obtain ⟨key, hkey, rfl⟩ := Option.map_eq_some_iff.1 read
    exact hkey
  have kept := congrArg (List.filterMap id) texts
  rw [List.filterMap_map, List.filterMap_map] at kept
  rw [pairs, ← keys]
  exact (kept.trans (congrFun List.filterMap_eq_map keyed)).symm

end Object

/-- How a map came about: it was made from pairs or read from an object of settings, and then
changed, one change after the other. -/
inductive History (ν : Type)
  | pairs (es : List (String × ν))
  | object {value? : Tree → Option ν} {fields : List (Option String × Tree)} {m : NamedMap ν}
    (read : (Tree.object fields).map? value? = some m)
  | put (h : History ν) (key : String) (v : ν)
  | take (h : History ν) (key : String)
  | extend (h other : History ν)

namespace History

variable {ν : Type}

/-- The map with the history. -/
def map : History ν → NamedMap ν
  | .pairs es => .ofList es
  | @object _ _ _ m _ => m
  | .put h key v => (h.map.put key v).2
  | .take h key => (h.map.take key).2
  | .extend h other => h.map.extend other.map

/-- The finite map with the history. -/
def plain : History ν → Plain String ν
  | .pairs es => Plain.insertMany ∅ es
  | @object _ value? fields _ _ => Plain.insertMany ∅ (fieldPairs value? fields)
  | .put h key v => h.plain.insert key v
  | .take h key => h.plain.erase key
  | .extend h other => other.plain ∪ h.plain

/-- The keys that came in and went. A map that is written over another brings its keys in as it
lists them. -/
def log : History ν → List (KeyEvent String)
  | .pairs es => es.map (.inserted ·.1)
  | @object _ _ fields _ _ => (fields.filterMap (·.1)).map .inserted
  | .put h key _ => h.log ++ [.inserted key]
  | .take h key => h.log ++ [.removed key]
  | .extend h other => h.log ++ other.map.keys.map .inserted

/-- **A map follows its history.** -/
theorem follows (h : History ν) : Follows h.map h.plain h.log := by
  induction h with
  | pairs es => exact follows_empty.insertMany es
  | @object value? fields m read =>
    obtain ⟨rfl, keys⟩ := eq_ofList_of_read read
    have written := follows_empty.insertMany (fieldPairs value? fields)
    rw [List.nil_append] at written
    rw [map, plain, log, ← keys, List.map_map]
    exact written
  | put h key v ih =>
    rw [map, put_eq]
    exact ih.insert key v
  | take h key ih =>
    rw [map, take_eq]
    exact ih.erase key
  | extend h other ih ih' => exact ih.extend ih'

/-- **A map keeps the order of insertion.** Whatever its history: it has each key once; it says of
every key what the finite map with the history says, and so do its answers to writes and removals;
its keys are those that live, in the order in which they came in; a key that is there keeps its
place when it is written; and a map that is written over it takes over on common keys, while its
other keys go to the end in their order. -/
theorem keeps_insertion_order (h : History ν) :
    h.map.keys.Nodup ∧
      (∀ k, h.map.get? k = h.plain.lookup k ∧ (h.map.contains k = true ↔ k ∈ h.plain) ∧
        (∀ v, (h.map.put k v).1 = h.plain.lookup k) ∧ (h.map.take k).1 = h.plain.lookup k) ∧
      (∀ k, k ∈ h.map.keys ↔ ∃ i, LivesSince h.log k i) ∧
      h.map.keys.Pairwise (fun a b => ∀ i j, LivesSince h.log a i → LivesSince h.log b j → i < j) ∧
      (∀ k ∈ h.map.keys, ∀ v, (h.map.put k v).2.keys = h.map.keys) ∧
      ∀ other : History ν,
        (h.map.extend other.map).keys =
          h.map.keys ++ other.map.keys.filter (· ∉ h.map.keys) ∧
        ∀ k, (h.map.extend other.map).get? k =
          if k ∈ other.map.keys then other.map.get? k else h.map.get? k := by
  have follows := h.follows
  refine ⟨follows.nodup, fun k => ⟨follows.reads k, follows.contains_iff k, fun v => ?_, ?_⟩,
    follows.lists.mem_iff, follows.lists.ordered, fun k present v => ?_,
    fun other => ⟨?_, fun k => ?_⟩⟩
  · rw [put_eq, follows.reads]
  · rw [take_eq, follows.reads]
  · rw [put_eq, keys_insert, if_pos present]
  · exact keys_insertMany other.follows.nodup
  · rw [get?_extend _ other.follows.nodup]
    split
    · rename_i present
      obtain ⟨v, hv⟩ := exists_get?_of_mem_keys present
      rw [hv, Option.some_or]
    · rename_i absent
      rw [get?_eq_none_iff.2 absent, Option.none_or]

/-- An object that names a key twice; the key goes and comes back, and a map is written over. -/
theorem keeps_insertion_order_comeback :
    let fields := [(some "Z", Tree.string (some "1")), (some "A", .string (some "2")),
      (some "Z", .string (some "3"))]
    let other : History String := pairs [("Z", "5"), ("M", "6"), ("A", "7"), ("B", "8")]
    ∃ start : History String, start.log = [.inserted "Z", .inserted "A", .inserted "Z"] ∧
      (Tree.object fields).map? Tree.text? = some start.map ∧ start.map.keys = ["Z", "A"] ∧
      start.map.get? "Z" = some "3" ∧
      ∃ h : History String, h = put (take start "Z") "Z" "4" ∧ h.map.keys = ["A", "Z"] ∧
        h.map.keys.Nodup ∧ (h.map.take "Z").1 = h.plain.lookup "Z" ∧
        (h.map.put "A" "9").2.keys = ["A", "Z"] ∧
        (h.map.extend other.map).keys = ["A", "Z", "M", "B"] ∧
        (h.map.extend other.map).get? "A" = some "7" := by
  intro fields other
  have read : (Tree.object fields).map? Tree.text? = some ⟨[("Z", "3"), ("A", "2")]⟩ := by decide
  refine ⟨.object read, rfl, read, rfl, rfl, _, rfl, rfl, ?_⟩
  have after : (put (take (.object read) "Z") "Z" "4").map = ⟨[("A", "2"), ("Z", "4")]⟩ := rfl
  obtain ⟨nodup, answers, -, -, place, overwritten⟩ :=
    keeps_insertion_order (put (take (.object read) "Z") "Z" "4")
  obtain ⟨behind, values⟩ := overwritten other
  refine ⟨nodup, (answers "Z").2.2.2, place "A" ?_ "9", behind.trans ?_, (values "A").trans ?_⟩ <;>
  · rw [after]
    decide

end History

end ScreenEffects.OrderedMap
