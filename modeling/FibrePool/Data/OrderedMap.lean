/-!
# Ordered maps

The pool keeps every table in key order, and most of what it answers is read off that order.  An
ordered map here is the list of its entries together with the proof that the keys ascend, so two
maps that answer every look-up alike are equal.

The operations below never look behind that list: insertion and deletion walk it once, and a union
merges two of them.  The main statements say what each operation does to a look-up, and `ext_get?`
says that look-ups determine the map.
-/

namespace FibrePool

set_option autoImplicit false

universe u v

variable {K : Type u} {V : Type v} [Ord K]

/-- The keys of a list of entries ascend strictly. -/
def Ascending (entries : List (K × V)) : Prop :=
  entries.Pairwise fun first second => compare first.1 second.1 = .lt

/-- Entries in strictly ascending key order. -/
structure OrderedMap (K : Type u) (V : Type v) [Ord K] where
  entries : List (K × V)
  ascending : Ascending entries

namespace OrderedMap

/-! ## Look-up -/

/-- The value filed under a key in a list of entries. -/
def find? (key : K) : List (K × V) → Option V
  | [] => none
  | (other, value) :: rest => if compare key other = .eq then some value else find? key rest

/-- The map without entries. -/
def empty : OrderedMap K V := ⟨[], List.Pairwise.nil⟩

instance : EmptyCollection (OrderedMap K V) := ⟨empty⟩

instance : Inhabited (OrderedMap K V) := ⟨empty⟩

/-- The value filed under `key`. -/
def get? (map : OrderedMap K V) (key : K) : Option V := find? key map.entries

/-- Whether a value is filed under `key`. -/
def contains (map : OrderedMap K V) (key : K) : Bool := (map.get? key).isSome

/-- The keys in ascending order. -/
def keys (map : OrderedMap K V) : List K := map.entries.map (·.1)

/-- The values in the order of their keys. -/
def values (map : OrderedMap K V) : List V := map.entries.map (·.2)

/-- The number of entries. -/
def size (map : OrderedMap K V) : Nat := map.entries.length

/-- Whether the map has no entry. -/
def isEmpty (map : OrderedMap K V) : Bool := map.entries.isEmpty

instance [BEq K] [BEq V] : BEq (OrderedMap K V) :=
  ⟨fun first second => first.entries == second.entries⟩

instance [DecidableEq K] [DecidableEq V] : DecidableEq (OrderedMap K V) := fun first second =>
  decidable_of_iff (first.entries = second.entries)
    ⟨fun h => by cases first; cases second; cases h; rfl, fun h => h ▸ rfl⟩

/-! ## Changes -/

/-- Files `value` under `key` in an ascending list, in place of what was filed there. -/
def put (key : K) (value : V) : List (K × V) → List (K × V)
  | [] => [(key, value)]
  | (other, held) :: rest =>
    match compare key other with
    | .lt => (key, value) :: (other, held) :: rest
    | .eq => (key, value) :: rest
    | .gt => (other, held) :: put key value rest

/-- Merges two ascending lists; under a key of both the first list's value stays. -/
def merge : List (K × V) → List (K × V) → List (K × V)
  | [], second => second
  | first, [] => first
  | (key, value) :: first, (other, held) :: second =>
    match compare key other with
    | .lt => (key, value) :: merge first ((other, held) :: second)
    | .eq => (key, value) :: merge first second
    | .gt => (other, held) :: merge ((key, value) :: first) second
termination_by first second => first.length + second.length

theorem mem_put {key : K} {value : V} {entry : K × V} {entries : List (K × V)}
    (member : entry ∈ put key value entries) : entry = (key, value) ∨ entry ∈ entries := by
  induction entries with
  | nil => simpa [put] using member
  | cons head rest ih =>
    obtain ⟨other, held⟩ := head
    rw [put] at member
    split at member
    · simpa using member
    · simp only [List.mem_cons] at member ⊢
      exact member.imp_right Or.inr
    · simp only [List.mem_cons] at member ⊢
      rcases member with rfl | member
      · exact Or.inr (Or.inl rfl)
      · exact (ih member).imp_right Or.inr

theorem mem_merge {entry : K × V} {first second : List (K × V)}
    (member : entry ∈ merge first second) : entry ∈ first ∨ entry ∈ second := by
  fun_induction merge first second with
  | case1 second => exact Or.inr member
  | case2 first _ => exact Or.inl member
  | case3 key value first other held second _ ih =>
    rcases List.mem_cons.1 member with rfl | member
    · simp
    · rcases ih member with h | h
      · exact Or.inl (List.mem_cons_of_mem _ h)
      · exact Or.inr h
  | case4 key value first other held second _ ih =>
    rcases List.mem_cons.1 member with rfl | member
    · simp
    · exact (ih member).imp (List.mem_cons_of_mem _) (List.mem_cons_of_mem _)
  | case5 key value first other held second _ ih =>
    rcases List.mem_cons.1 member with rfl | member
    · simp
    · rcases ih member with h | h
      · exact Or.inl h
      · exact Or.inr (List.mem_cons_of_mem _ h)

section Ordered

variable [Std.TransOrd K]

theorem ascending_put (key : K) (value : V) {entries : List (K × V)} (sorted : Ascending entries) :
    Ascending (put key value entries) := by
  induction entries with
  | nil => simp [put, Ascending]
  | cons head rest ih =>
    obtain ⟨other, held⟩ := head
    have ⟨below, tail⟩ := List.pairwise_cons.1 sorted
    rw [put]
    split
    · next less =>
      refine List.pairwise_cons.2 ⟨fun entry member => ?_, sorted⟩
      rcases List.mem_cons.1 member with rfl | member
      · exact less
      · exact Std.TransCmp.lt_trans less (below entry member)
    · next same =>
      exact List.pairwise_cons.2
        ⟨fun entry member => Std.TransCmp.lt_of_eq_of_lt same (below entry member), tail⟩
    · next greater =>
      refine List.pairwise_cons.2 ⟨fun entry member => ?_, ih tail⟩
      rcases mem_put member with rfl | member
      · exact Std.OrientedCmp.gt_iff_lt.1 greater
      · exact below entry member

theorem ascending_merge {first second : List (K × V)} (left : Ascending first)
    (right : Ascending second) : Ascending (merge first second) := by
  fun_induction merge first second with
  | case1 second => exact right
  | case2 first _ => exact left
  | case3 key value first other held second less ih =>
    have ⟨below, tail⟩ := List.pairwise_cons.1 left
    have ⟨below', _⟩ := List.pairwise_cons.1 right
    refine List.pairwise_cons.2 ⟨fun entry member => ?_, ih tail right⟩
    rcases mem_merge member with member | member
    · exact below entry member
    · rcases List.mem_cons.1 member with rfl | member
      · exact less
      · exact Std.TransCmp.lt_trans less (below' entry member)
  | case4 key value first other held second same ih =>
    have ⟨below, tail⟩ := List.pairwise_cons.1 left
    have ⟨below', tail'⟩ := List.pairwise_cons.1 right
    refine List.pairwise_cons.2 ⟨fun entry member => ?_, ih tail tail'⟩
    rcases mem_merge member with member | member
    · exact below entry member
    · exact Std.TransCmp.lt_of_eq_of_lt same (below' entry member)
  | case5 key value first other held second greater ih =>
    have ⟨below, _⟩ := List.pairwise_cons.1 left
    have ⟨below', tail'⟩ := List.pairwise_cons.1 right
    have less := Std.OrientedCmp.gt_iff_lt.1 greater
    refine List.pairwise_cons.2 ⟨fun entry member => ?_, ih left tail'⟩
    rcases mem_merge member with member | member
    · rcases List.mem_cons.1 member with rfl | member
      · exact less
      · exact Std.TransCmp.lt_trans less (below entry member)
    · exact below' entry member

/-- Files `value` under `key`, in place of what was filed there. -/
def insert (map : OrderedMap K V) (key : K) (value : V) : OrderedMap K V :=
  ⟨put key value map.entries, ascending_put key value map.ascending⟩

/-- The entries of both maps; under a key of both the first map's value stays. -/
def union (first second : OrderedMap K V) : OrderedMap K V :=
  ⟨merge first.entries second.entries, ascending_merge first.ascending second.ascending⟩

/-- Files the pairs of a list one after the other, so the last of equal keys stays. -/
def ofList (pairs : List (K × V)) : OrderedMap K V :=
  pairs.foldl (fun map pair => map.insert pair.1 pair.2) ∅

end Ordered

/-- The entries that satisfy `keep`. -/
def filter (keep : K → V → Bool) (map : OrderedMap K V) : OrderedMap K V :=
  ⟨map.entries.filter fun entry => keep entry.1 entry.2, map.ascending.filter _⟩

/-- The map without the entry filed under `key`. -/
def erase (map : OrderedMap K V) (key : K) : OrderedMap K V :=
  map.filter fun other _ => compare key other != .eq

universe w

/-- Changes every value in place. -/
def mapValues {W : Type w} (change : K → V → W) (map : OrderedMap K V) : OrderedMap K W :=
  ⟨map.entries.map fun entry => (entry.1, change entry.1 entry.2),
    List.pairwise_map.2 (map.ascending.imp fun less => less)⟩

/-! ## Look-ups after a change -/

section Lookup

@[simp] theorem get?_empty (probe : K) : (∅ : OrderedMap K V).get? probe = none := rfl

theorem find?_eq_none_of_below {key : K} {entries : List (K × V)}
    (below : ∀ entry ∈ entries, compare key entry.1 = .lt) : find? key entries = none := by
  induction entries with
  | nil => rfl
  | cons head rest ih =>
    have less := below head List.mem_cons_self
    rw [find?, if_neg (by rw [less]; decide)]
    exact ih fun entry member => below entry (List.mem_cons_of_mem _ member)

variable [Std.TransOrd K] [Std.LawfulEqOrd K]

theorem find?_put (key probe : K) (value : V) (entries : List (K × V)) :
    find? probe (put key value entries) =
      if compare probe key = .eq then some value else find? probe entries := by
  induction entries with
  | nil => simp [put, find?]
  | cons head rest ih =>
    obtain ⟨other, held⟩ := head
    rw [put]
    split
    · rfl
    · next same =>
      have := Std.LawfulEqCmp.eq_of_compare same
      subst this
      rw [find?, find?]
      by_cases h : compare probe key = .eq <;> simp [h]
    · next greater =>
      rw [find?, find?, ih]
      by_cases h : compare probe other = .eq
      · have := Std.LawfulEqCmp.eq_of_compare h
        subst this
        have : compare probe key ≠ .eq := by
          rw [Std.OrientedCmp.gt_iff_lt.1 greater]
          decide
        simp [this]
      · simp [h]

/-- **A look-up after an insertion**: the inserted value under its key, the old answer elsewhere. -/
theorem get?_insert (map : OrderedMap K V) (key probe : K) (value : V) :
    (map.insert key value).get? probe =
      if compare probe key = .eq then some value else map.get? probe :=
  find?_put key probe value map.entries

theorem find?_filter_erase (key probe : K) (entries : List (K × V)) :
    find? probe (entries.filter fun entry => compare key entry.1 != .eq) =
      if compare probe key = .eq then none else find? probe entries := by
  induction entries with
  | nil => simp [find?]
  | cons head rest ih =>
    obtain ⟨other, held⟩ := head
    by_cases same : compare key other = .eq
    · have := Std.LawfulEqCmp.eq_of_compare same
      subst this
      by_cases h : compare probe key = .eq <;> simp_all [find?]
    · rw [List.filter_cons_of_pos (by simpa using same), find?, find?, ih]
      by_cases h : compare probe other = .eq
      · have := Std.LawfulEqCmp.eq_of_compare h
        subst this
        have : compare probe key ≠ .eq := fun e =>
          same (Std.OrientedCmp.eq_symm e)
        simp [this]
      · simp [h]

/-- **A look-up after a deletion**: nothing under the key, the old answer elsewhere. -/
theorem get?_erase (map : OrderedMap K V) (key probe : K) :
    (map.erase key).get? probe = if compare probe key = .eq then none else map.get? probe :=
  find?_filter_erase key probe map.entries

omit [Std.TransOrd K] in
theorem find?_self (key : K) (value : V) (rest : List (K × V)) :
    find? key ((key, value) :: rest) = some value := by
  rw [find?, if_pos Std.ReflCmp.compare_self]

theorem eq_of_find?_eq {first second : List (K × V)} (left : Ascending first)
    (right : Ascending second) (same : ∀ probe, find? probe first = find? probe second) :
    first = second := by
  induction first generalizing second with
  | nil =>
    cases second with
    | nil => rfl
    | cons head rest =>
      have := same head.1
      rw [find?_self] at this
      simp [find?] at this
  | cons head rest ih =>
    obtain ⟨key, value⟩ := head
    have ⟨below, tail⟩ := List.pairwise_cons.1 left
    cases second with
    | nil =>
      have := same key
      rw [find?_self] at this
      simp [find?] at this
    | cons head' rest' =>
      obtain ⟨other, held⟩ := head'
      have ⟨below', tail'⟩ := List.pairwise_cons.1 right
      have found := same key
      have found' := same other
      rw [find?_self] at found found'
      rcases order : compare key other with _ | _ | _
      · rw [find?, if_neg (by rw [order]; decide), find?_eq_none_of_below] at found
        · simp at found
        · exact fun entry member => Std.TransCmp.lt_trans order (below' entry member)
      · have := Std.LawfulEqCmp.eq_of_compare order
        subst this
        rw [find?_self] at found
        cases found
        rw [ih tail tail' fun probe => ?_]
        have here := same probe
        rw [find?, find?] at here
        by_cases h : compare probe key = .eq
        · have := Std.LawfulEqCmp.eq_of_compare h
          subst this
          rw [find?_eq_none_of_below below, find?_eq_none_of_below below']
        · simpa [h] using here
      · have less := Std.OrientedCmp.gt_iff_lt.1 order
        rw [find?, if_neg (by rw [less]; decide), find?_eq_none_of_below] at found'
        · simp at found'
        · exact fun entry member => Std.TransCmp.lt_trans less (below entry member)

/-- **Look-ups determine the map.** -/
theorem ext_get? {first second : OrderedMap K V}
    (same : ∀ probe, first.get? probe = second.get? probe) : first = second := by
  cases first with
  | mk entries ascending =>
    cases second with
    | mk entries' ascending' =>
      have := eq_of_find?_eq ascending ascending' same
      subst this
      rfl

end Lookup

end OrderedMap

end FibrePool
