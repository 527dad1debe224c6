import FibrePool.Data.OrderedMap

/-!
# Look-ups in changed maps

An ordered map is read through its look-ups, so every change of a map is described here by what it
does to them: keeping some entries, changing all values in place, joining two maps, filing a value
and taking it back.  An entry is listed exactly when its key is looked up to its value
(`mem_entries_iff`), which carries these statements over to the lists of keys and values.

A map is also what filing its own entries one after the other gives (`ofList_entries`), and a map
without information in its values is the set of its keys (`ext_contains`).
-/

namespace FibrePool

set_option autoImplicit false

universe u v w

namespace OrderedMap

variable {K : Type u} {V : Type v} {W : Type w} [Ord K] [Std.LawfulEqOrd K]

theorem find?_cons_of_ne {key other : K} (different : key ≠ other) (value : V)
    (rest : List (K × V)) : find? key ((other, value) :: rest) = find? key rest := by
  rw [find?, if_neg fun same => different (Std.LawfulEqCmp.eq_of_compare same)]

theorem mem_of_find?_eq_some {key : K} {value : V} {entries : List (K × V)}
    (found : find? key entries = some value) : (key, value) ∈ entries := by
  induction entries with
  | nil => cases found
  | cons head rest ih =>
    obtain ⟨other, held⟩ := head
    by_cases same : key = other
    · subst same
      rw [find?_self] at found
      cases found
      exact List.mem_cons_self
    · rw [find?_cons_of_ne same] at found
      exact List.mem_cons_of_mem _ (ih found)

theorem find?_eq_some_of_mem {key : K} {value : V} {entries : List (K × V)}
    (ascending : Ascending entries) (member : (key, value) ∈ entries) :
    find? key entries = some value := by
  induction entries with
  | nil => cases member
  | cons head rest ih =>
    obtain ⟨other, held⟩ := head
    obtain ⟨below, tail⟩ := List.pairwise_cons.1 ascending
    rcases List.mem_cons.1 member with same | member
    · cases same
      exact find?_self key value rest
    · have less : compare other key = .lt := below _ member
      have different : key ≠ other := by
        intro same
        subst same
        exact absurd (Std.ReflCmp.compare_self.symm.trans less) (by decide)
      rw [find?_cons_of_ne different]
      exact ih tail member

/-- An entry is listed exactly when its key is looked up to its value. -/
theorem mem_entries_iff {map : OrderedMap K V} {key : K} {value : V} :
    (key, value) ∈ map.entries ↔ map.get? key = some value :=
  ⟨find?_eq_some_of_mem map.ascending, mem_of_find?_eq_some⟩

theorem mem_values_iff {map : OrderedMap K V} {value : V} :
    value ∈ map.values ↔ ∃ key, map.get? key = some value := by
  constructor
  · intro member
    obtain ⟨⟨key, held⟩, listed, rfl⟩ := List.mem_map.1 member
    exact ⟨key, mem_entries_iff.1 listed⟩
  · rintro ⟨key, found⟩
    exact List.mem_map.2 ⟨(key, value), mem_entries_iff.2 found, rfl⟩

theorem mem_keys_iff {map : OrderedMap K V} {key : K} :
    key ∈ map.keys ↔ map.contains key = true := by
  rw [contains, Option.isSome_iff_exists]
  constructor
  · intro member
    obtain ⟨⟨_, value⟩, listed, rfl⟩ := List.mem_map.1 member
    exact ⟨value, mem_entries_iff.1 listed⟩
  · rintro ⟨value, found⟩
    exact List.mem_map.2 ⟨(key, value), mem_entries_iff.2 found, rfl⟩

theorem nodup_keys (map : OrderedMap K V) : map.keys.Nodup := by
  refine List.pairwise_map.2 (map.ascending.imp fun {first second} less same => ?_)
  rw [same] at less
  cases less.symm.trans (Std.ReflOrd.compare_self)

/-! ## Changes in place and filters -/

theorem find?_map (change : K → V → W) (key : K) (entries : List (K × V)) :
    find? key (entries.map fun entry => (entry.1, change entry.1 entry.2)) =
      (find? key entries).map (change key) := by
  induction entries with
  | nil => rfl
  | cons head rest ih =>
    obtain ⟨other, held⟩ := head
    by_cases same : key = other
    · subst same
      rw [List.map_cons, find?_self, find?_self, Option.map_some]
    · rw [List.map_cons, find?_cons_of_ne same, find?_cons_of_ne same, ih]

theorem get?_mapValues (map : OrderedMap K V) (change : K → V → W) (key : K) :
    (map.mapValues change).get? key = (map.get? key).map (change key) :=
  find?_map change key map.entries

theorem contains_mapValues {map : OrderedMap K V} {change : K → V → W} {probe : K} :
    (map.mapValues change).contains probe = map.contains probe := by
  rw [contains, contains, get?_mapValues, Option.isSome_map]

omit [Std.LawfulEqOrd K] in
theorem keys_mapValues (map : OrderedMap K V) (change : K → V → W) :
    (map.mapValues change).keys = map.keys := by
  simp [keys, mapValues]

theorem get?_filter (map : OrderedMap K V) (keep : K → V → Bool) (key : K) :
    (map.filter keep).get? key = (map.get? key).filter (keep key) := by
  have listed (value : V) : (map.filter keep).get? key = some value ↔
      (map.get? key).filter (keep key) = some value := by
    rw [← mem_entries_iff, Option.filter_eq_some_iff, ← mem_entries_iff]
    exact List.mem_filter
  exact Option.ext listed

/-! ## Insertions, deletions and unions -/

variable [Std.TransOrd K]

theorem get?_insert_self (map : OrderedMap K V) (key : K) (value : V) :
    (map.insert key value).get? key = some value := by
  rw [get?_insert, if_pos Std.ReflCmp.compare_self]

theorem get?_insert_of_ne (map : OrderedMap K V) {key probe : K} (different : probe ≠ key)
    (value : V) : (map.insert key value).get? probe = map.get? probe := by
  rw [get?_insert, if_neg fun same => different (Std.LawfulEqCmp.eq_of_compare same)]

/-- Filing what is there already changes nothing. -/
theorem insert_of_get? {map : OrderedMap K V} {key : K} {value : V}
    (found : map.get? key = some value) : map.insert key value = map := by
  refine ext_get? fun probe => ?_
  by_cases same : probe = key
  · subst same
    rw [get?_insert_self, found]
  · rw [get?_insert_of_ne _ same]

/-- What is filed last under a key is what stays. -/
theorem insert_insert (map : OrderedMap K V) (key : K) (first second : V) :
    (map.insert key first).insert key second = map.insert key second := by
  refine ext_get? fun probe => ?_
  by_cases same : probe = key
  · subst same
    rw [get?_insert_self, get?_insert_self]
  · simp only [get?_insert_of_ne _ same]

/-- Filing what was there before takes an insertion back. -/
theorem insert_insert_of_get? {map : OrderedMap K V} {key : K} {value : V}
    (found : map.get? key = some value) (other : V) :
    (map.insert key other).insert key value = map := by
  rw [insert_insert, insert_of_get? found]

theorem get?_erase_self (map : OrderedMap K V) (key : K) : (map.erase key).get? key = none := by
  rw [get?_erase, if_pos Std.ReflCmp.compare_self]

theorem get?_erase_of_ne (map : OrderedMap K V) {key probe : K} (different : probe ≠ key) :
    (map.erase key).get? probe = map.get? probe := by
  rw [get?_erase, if_neg fun same => different (Std.LawfulEqCmp.eq_of_compare same)]

theorem find?_merge {first second : List (K × V)} (left : Ascending first)
    (right : Ascending second) (key : K) :
    find? key (merge first second) = (find? key first).or (find? key second) := by
  fun_induction merge first second with
  | case1 second => rfl
  | case2 first _ => simp [find?]
  | case3 first_key value first other held second less ih =>
    obtain ⟨_, tail⟩ := List.pairwise_cons.1 left
    by_cases same : key = first_key
    · subst same
      rw [find?_self, find?_self, Option.some_or]
    · rw [find?_cons_of_ne same, find?_cons_of_ne same, ih tail right]
  | case4 first_key value first other held second equal ih =>
    obtain ⟨_, tail⟩ := List.pairwise_cons.1 left
    obtain ⟨_, tail'⟩ := List.pairwise_cons.1 right
    have := Std.LawfulEqCmp.eq_of_compare equal
    subst this
    by_cases same : key = first_key
    · subst same
      rw [find?_self, find?_self, Option.some_or]
    · rw [find?_cons_of_ne same, find?_cons_of_ne same, find?_cons_of_ne same, ih tail tail']
  | case5 first_key value first other held second greater ih =>
    obtain ⟨below, _⟩ := List.pairwise_cons.1 left
    obtain ⟨_, tail'⟩ := List.pairwise_cons.1 right
    by_cases same : key = other
    · subst same
      have less := Std.OrientedCmp.gt_iff_lt.1 greater
      have absent : find? key ((first_key, value) :: first) = none := by
        refine find?_eq_none_of_below fun entry member => ?_
        rcases List.mem_cons.1 member with rfl | member
        · exact less
        · exact Std.TransCmp.lt_trans less (below entry member)
      rw [find?_self, find?_self, absent, Option.none_or]
    · rw [find?_cons_of_ne same, find?_cons_of_ne same, ih left tail']

theorem get?_union (first second : OrderedMap K V) (key : K) :
    (first.union second).get? key = (first.get? key).or (second.get? key) :=
  find?_merge first.ascending second.ascending key

/-! ## Entries filed one after the other -/

theorem get?_foldl_insert {pairs : List (K × V)} (ascending : Ascending pairs)
    (map : OrderedMap K V) (probe : K) :
    (pairs.foldl (fun map pair => map.insert pair.1 pair.2) map).get? probe =
      (find? probe pairs).or (map.get? probe) := by
  induction pairs generalizing map with
  | nil => rfl
  | cons head rest ih =>
    obtain ⟨key, value⟩ := head
    obtain ⟨below, tail⟩ := List.pairwise_cons.1 ascending
    rw [List.foldl_cons, ih tail]
    by_cases same : probe = key
    · subst same
      rw [find?_eq_none_of_below below, Option.none_or, get?_insert_self, find?_self, Option.some_or]
    · rw [get?_insert_of_ne _ same, find?_cons_of_ne same]

/-- Filing one value under several keys. -/
theorem get?_foldl_insert_const [DecidableEq K] (keys : List K) (value : V) (map : OrderedMap K V)
    (probe : K) : (keys.foldl (fun map key => map.insert key value) map).get? probe =
      if probe ∈ keys then some value else map.get? probe := by
  induction keys generalizing map with
  | nil => exact (if_neg List.not_mem_nil).symm
  | cons key rest ih =>
    rw [List.foldl_cons, ih]
    by_cases later : probe ∈ rest
    · rw [if_pos later, if_pos (List.mem_cons_of_mem key later)]
    · by_cases same : probe = key
      · rw [if_neg later, if_pos (List.mem_cons.2 (.inl same)), same, get?_insert_self]
      · rw [if_neg later, get?_insert_of_ne _ same,
          if_neg fun listed => (List.mem_cons.1 listed).elim same later]

/-- Filing the entries of a map one after the other gives the map. -/
theorem ofList_entries (map : OrderedMap K V) : ofList map.entries = map := by
  refine ext_get? fun probe => ?_
  rw [ofList, get?_foldl_insert map.ascending, get?_empty, Option.or_none]
  rfl

theorem entries_ofList {pairs : List (K × V)} (ascending : Ascending pairs) :
    (ofList pairs).entries = pairs :=
  congrArg entries (ofList_entries ⟨pairs, ascending⟩)

/-! ## Sets of keys -/

theorem contains_insert {map : OrderedMap K V} {key probe : K} {value : V} :
    (map.insert key value).contains probe = true ↔ probe = key ∨ map.contains probe = true := by
  by_cases same : probe = key
  · subst same
    simp [contains, get?_insert_self]
  · simp [contains, get?_insert_of_ne _ same, same]

theorem contains_union {first second : OrderedMap K V} {probe : K} :
    (first.union second).contains probe = true ↔
      first.contains probe = true ∨ second.contains probe = true := by
  simp [contains, get?_union]

omit [Std.LawfulEqOrd K] [Std.TransOrd K] in
theorem contains_empty {probe : K} : (∅ : OrderedMap K V).contains probe = false := rfl

/-- Filing the pairs of a list one after the other gives a map of their keys. -/
theorem contains_ofList {pairs : List (K × V)} {key : K} :
    (ofList pairs).contains key = true ↔ key ∈ pairs.map (·.1) := by
  have filed (map : OrderedMap K V) :
      (pairs.foldl (fun map pair => map.insert pair.1 pair.2) map).contains key = true ↔
        map.contains key = true ∨ key ∈ pairs.map (·.1) := by
    induction pairs generalizing map with
    | nil => simp
    | cons pair rest ih =>
      rw [List.foldl_cons, ih, contains_insert, List.map_cons, List.mem_cons, or_assoc,
        or_left_comm]
  rw [ofList, filed, contains_empty]
  simp

/-- Under keys of their own no pair replaces another. -/
theorem size_ofList {pairs : List (K × V)} (single : (pairs.map (·.1)).Nodup) :
    (ofList pairs).size = pairs.length := by
  have same : (ofList pairs).keys.Perm (pairs.map (·.1)) := by
    rw [List.perm_ext_iff_of_nodup (nodup_keys _) single]
    exact fun key => mem_keys_iff.trans contains_ofList
  simpa [keys, size] using same.length_eq

/-- **The keys determine a map to the unit type.** -/
theorem ext_contains {first second : OrderedMap K Unit}
    (same : ∀ probe, first.contains probe = true ↔ second.contains probe = true) :
    first = second := by
  refine ext_get? fun probe => ?_
  have unit (map : OrderedMap K Unit) : map.get? probe = some () ↔ map.contains probe = true := by
    cases found : map.get? probe <;> simp [contains, found]
  exact Option.ext fun _ => (unit first).trans ((same probe).trans (unit second).symm)

theorem contains_erase {map : OrderedMap K V} {key probe : K} :
    (map.erase key).contains probe = true ↔ probe ≠ key ∧ map.contains probe = true := by
  by_cases same : probe = key
  · subst same
    simp [contains, get?_erase_self]
  · simp [contains, get?_erase_of_ne _ same, same]

/-- Two maps list the same keys when each contains the keys of the other. -/
theorem keys_eq_iff {first : OrderedMap K V} {second : OrderedMap K W} :
    first.keys = second.keys ↔
      ∀ probe, first.contains probe = true ↔ second.contains probe = true := by
  constructor
  · intro same probe
    rw [← mem_keys_iff, ← mem_keys_iff, same]
  · intro same
    have sets : first.mapValues (fun _ _ => ()) = second.mapValues (fun _ _ => ()) := by
      apply ext_contains
      intro probe
      rw [contains_mapValues, contains_mapValues]
      exact same probe
    rw [← keys_mapValues first fun _ _ => (), sets, keys_mapValues]

theorem exists_contains_iff {map : OrderedMap K V} :
    (∃ key, map.contains key = true) ↔ map ≠ ∅ := by
  constructor
  · rintro ⟨key, listed⟩ rfl
    rw [contains_empty] at listed
    cases listed
  · intro filled
    apply Classical.byContradiction
    intro unlisted
    apply filled
    refine ext_get? fun probe => ?_
    exact Option.not_isSome_iff_eq_none.1 fun listed => unlisted ⟨probe, listed⟩

end OrderedMap

end FibrePool
