import FibrePool.Proofs.RangeGrammar
import Mathlib.Combinatorics.Enumerative.DoubleCounting
import Mathlib.Data.List.Pairwise

/-!
# Collapsed ranges are the shortest

A set of devices is written with one item for each maximal run of consecutive numbers.  The items
ascend, and between any two of them a device is missing from the set (`Ranges.Separated`), so two
runs never share an item: an item that reached both would cover the missing device as well.  An
expression of the same set thus has at least as many items as there are runs
(`Ranges.length_runs_le`), and no text of a path is shorter in this sense than the collapsed one
(`Ranges.collapse_is_shortest`).
-/

namespace FibrePool

set_option autoImplicit false

namespace RangeItem

/-- The least number of an item. -/
def first : RangeItem → Nat
  | single id => id.toNat
  | span first _ => first.toNat

/-- The greatest number of an item. -/
def last : RangeItem → Nat
  | single id => id.toNat
  | span _ last => last.toNat

/-- What lies between two devices of an item belongs to the item. -/
theorem Covers.between {item : RangeItem} {low id high : DeviceId} (lower : item.Covers low)
    (upper : item.Covers high) (above : low.toNat ≤ id.toNat) (below : id.toNat ≤ high.toNat) :
    item.Covers id := by
  cases item with
  | single other =>
    have here : low = other := lower
    have there : high = other := upper
    subst here there
    rw [Covers, ← DeviceId.ofNat_toNat id, ← DeviceId.ofNat_toNat high, Nat.le_antisymm below above]
  | span first last => exact ⟨Nat.le_trans lower.1 above, Nat.le_trans below upper.2⟩

end RangeItem

namespace Ranges

/-! ## Gaps between runs -/

theorem run_start_mem {numbers : List Nat} {run : Nat × Nat} (member : run ∈ runs numbers) :
    run.1 ∈ numbers :=
  (exists_run_iff numbers run.1).1 ⟨run, member, Nat.le_refl _, (ends_of_mem_runs _ run member).1⟩

/-- The number above a run does not start the next one. -/
theorem pairwise_runs {numbers : List Nat} (ascending : numbers.Pairwise (· < ·)) :
    (runs numbers).Pairwise fun run next => run.2 + 1 < next.1 := by
  fun_induction runs numbers with
  | case1 => exact .nil
  | case2 number rest last more found ih =>
    -- the first run keeps its end, so nothing changes for the later ones
    have apart := ih ascending.of_cons
    rw [found] at apart
    exact .cons (fun run member => List.rel_of_pairwise_cons apart member) apart.of_cons
  | case3 number rest first last more found apart ih =>
    have later := ih ascending.of_cons
    have least : number < first :=
      List.rel_of_pairwise_cons ascending (run_start_mem (found ▸ List.mem_cons_self))
    have ordered := (ends_of_mem_runs rest (first, last) (found ▸ List.mem_cons_self)).1
    rw [found] at later
    refine .cons ?_ later
    intro run member
    rcases List.mem_cons.1 member with rfl | beyond
    · show number + 1 < first
      omega
    · have := List.rel_of_pairwise_cons later beyond
      show number + 1 < run.1
      simp only at this ordered
      omega
  | case4 number rest found ih => exact List.pairwise_singleton _ _

/-- One of two runs ends well below the other. -/
def Apart (run other : Nat × Nat) : Prop := run.2 + 1 < other.1 ∨ other.2 + 1 < run.1

instance : Std.Symm Apart := ⟨fun _ _ => Or.symm⟩

theorem apart_of_ne {numbers : List Nat} (ascending : numbers.Pairwise (· < ·))
    {run other : Nat × Nat} (member : run ∈ runs numbers) (member' : other ∈ runs numbers)
    (different : run ≠ other) : Apart run other :=
  ((pairwise_runs ascending).imp (S := Apart) Or.inl).forall member member' different

/-- **The number above a run is missing.** -/
theorem succ_not_mem {numbers : List Nat} (ascending : numbers.Pairwise (· < ·))
    {run : Nat × Nat} (member : run ∈ runs numbers) : run.2 + 1 ∉ numbers := by
  intro above
  obtain ⟨other, member', inside⟩ := (exists_run_iff numbers _).2 above
  have ordered := (ends_of_mem_runs numbers run member).1
  have different : run ≠ other := by
    rintro rfl
    omega
  rcases apart_of_ne ascending member member' different with below | beyond
  · omega
  · omega

/-! ## The items of a set -/

variable {ids : DeviceSet}

theorem ascending_numbers (ids : DeviceSet) :
    (ids.keys.map DeviceId.toNat).Pairwise (· < ·) := by
  rw [OrderedMap.keys, List.map_map, List.pairwise_map]
  exact ids.ascending.imp fun less => Nat.compare_eq_lt.1 less

/-- The items ascend, and between any two of them a device is missing. -/
def Separated (ids : DeviceSet) (items : List RangeItem) : Prop :=
  items.Pairwise fun item next => ∃ gap : DeviceId,
    item.last < gap.toNat ∧ gap.toNat < next.first ∧ ids.contains gap = false

theorem ends_of_run {run : Nat × Nat} (member : run ∈ runs (ids.keys.map DeviceId.toNat)) :
    run.1 ≤ run.2 ∧ run.2 < 65536 := by
  obtain ⟨ordered, listed⟩ := ends_of_mem_runs _ run member
  exact ⟨ordered, lt_of_mem_numbers listed⟩

theorem ends_itemOf {run : Nat × Nat} (ordered : run.1 ≤ run.2) (below : run.2 < 65536) :
    (itemOf run).first = run.1 ∧ (itemOf run).last = run.2 := by
  unfold itemOf
  split
  · next same =>
    rw [← same] at below ⊢
    exact ⟨DeviceId.toNat_ofNat below, DeviceId.toNat_ofNat below⟩
  · exact ⟨DeviceId.toNat_ofNat (by omega), DeviceId.toNat_ofNat below⟩

/-- Between two runs of a set there is a device that the set lacks. -/
theorem exists_gap {run other : Nat × Nat} (member : run ∈ runs (ids.keys.map DeviceId.toNat))
    (member' : other ∈ runs (ids.keys.map DeviceId.toNat)) (below : run.2 + 1 < other.1) :
    ∃ gap : DeviceId, gap.toNat = run.2 + 1 ∧ ids.contains gap = false := by
  have ends := ends_of_run member'
  have number := DeviceId.toNat_ofNat (n := run.2 + 1) (by omega)
  refine ⟨.ofNat (run.2 + 1), number, ?_⟩
  rw [← Bool.not_eq_true, ← mem_numbers_iff, number]
  exact succ_not_mem (ascending_numbers ids) member

theorem separated_itemsOf (ids : DeviceSet) : Separated ids (itemsOf ids) := by
  rw [Separated, itemsOf, List.pairwise_map]
  refine (pairwise_runs (ascending_numbers ids)).imp_of_mem fun {run next} member member' below => ?_
  obtain ⟨gap, number, missing⟩ := exists_gap member member' below
  obtain ⟨ordered, small⟩ := ends_of_run member
  obtain ⟨ordered', small'⟩ := ends_of_run member'
  refine ⟨gap, ?_, ?_, missing⟩
  · rw [(ends_itemOf ordered small).2, number]
    exact Nat.lt_succ_self _
  · rw [(ends_itemOf ordered' small').1, number]
    exact below

/-- The collapsed text consists of the texts of these items. -/
theorem joined_collapse (ids : DeviceSet) :
    Text.Joined ',' RangeItem.IsText (collapse ids).toList (itemsOf ids) := by
  refine ⟨textsOf ids, toList_collapse ids, ?_⟩
  rw [textsOf, itemsOf, List.forall₂_map_left_iff, List.forall₂_map_right_iff, List.forall₂_same]
  intro run member
  obtain ⟨ordered, small⟩ := ends_of_run member
  exact RangeItem.read_eq_ok_iff.1 (read_showRun ordered small)

/-! ## Counting items -/

/-- The number of items between the commas of a text. -/
def itemCount (text : String) : Nat := (Text.splitAt ',' text.toList).length

theorem itemCount_of_isPath {text : String} {items : List RangeItem}
    (path : IsPath text.toList items) : itemCount text = items.length :=
  ((Text.forall₂_splitAt_iff fun _ _ => comma_not_mem_item).2 path).length_eq

theorem itemCount_collapse (filled : ids ≠ ∅) :
    itemCount (collapse ids) = (runs (ids.keys.map DeviceId.toNat)).length := by
  have some : itemsOf ids ≠ [] := by
    have texts := textsOf_ne_nil filled
    simpa [itemsOf, textsOf] using texts
  rw [itemCount_of_isPath ⟨some, joined_collapse ids⟩, itemsOf, List.length_map]

/-- A run starts at a device of an item. -/
def StartsIn (run : Nat × Nat) (item : RangeItem) : Prop :=
  ∃ id : DeviceId, id.toNat = run.1 ∧ item.Covers id

section Covering

variable {items : List RangeItem}
  (covered : ∀ id, ids.contains id = true ↔ ∃ item ∈ items, item.Covers id)
include covered

theorem exists_startsIn {run : Nat × Nat} (member : run ∈ runs (ids.keys.map DeviceId.toNat)) :
    ∃ item ∈ items, StartsIn run item := by
  obtain ⟨id, listed, number⟩ := List.mem_map.1 (run_start_mem member)
  obtain ⟨item, there, covers⟩ := (covered id).1 (OrderedMap.mem_keys_iff.1 listed)
  exact ⟨item, there, id, number, covers⟩

/-- The earlier of two runs in one item would go on with the number above it. -/
theorem not_below_of_startsIn {run other : Nat × Nat} {item : RangeItem}
    (member : run ∈ runs (ids.keys.map DeviceId.toNat))
    (member' : other ∈ runs (ids.keys.map DeviceId.toNat)) (listed : item ∈ items)
    (here : StartsIn run item) (there : StartsIn other item) : ¬ run.2 + 1 < other.1 := by
  intro below
  obtain ⟨gap, number, missing⟩ := exists_gap member member' below
  obtain ⟨low, lowest, lower⟩ := here
  obtain ⟨high, highest, upper⟩ := there
  have ordered := (ends_of_run member).1
  have inside : item.Covers gap := lower.between upper (by omega) (by omega)
  rw [(covered gap).2 ⟨item, listed, inside⟩] at missing
  cases missing

/-- **Items that stand for a set are no fewer than its runs.**  Every run starts in an item, and no
two runs start in the same. -/
theorem length_runs_le : (runs (ids.keys.map DeviceId.toNat)).length ≤ items.length := by
  have ascending := ascending_numbers ids
  have single : (runs (ids.keys.map DeviceId.toNat)).Nodup :=
    (pairwise_runs ascending).imp_of_mem fun {run next} member _ below => by
      have ordered := (ends_of_run member).1
      rintro rfl
      omega
  have found : ∀ run ∈ (runs (ids.keys.map DeviceId.toNat)).toFinset,
      ∃ item ∈ items.toFinset, StartsIn run item := by
    intro run member
    obtain ⟨item, listed, starts⟩ := exists_startsIn covered (List.mem_toFinset.1 member)
    exact ⟨item, List.mem_toFinset.2 listed, starts⟩
  have own : ∀ item ∈ items.toFinset, Set.Subsingleton
      { run | run ∈ (runs (ids.keys.map DeviceId.toNat)).toFinset ∧ StartsIn run item } := by
    rintro item listed run ⟨member, here⟩ other ⟨member', there⟩
    rw [List.mem_toFinset] at listed member member'
    by_contra different
    rcases apart_of_ne ascending member member' different with below | beyond
    · exact not_below_of_startsIn covered member member' listed here there below
    · exact not_below_of_startsIn covered member' member listed there here beyond
  calc (runs (ids.keys.map DeviceId.toNat)).length
      = (runs (ids.keys.map DeviceId.toNat)).toFinset.card :=
        (List.toFinset_card_of_nodup single).symm
    _ ≤ items.toFinset.card := Finset.card_le_card_of_forall_subsingleton StartsIn found own
    _ ≤ items.length := List.toFinset_card_le items

end Covering

/-- An expression of one path is the text of the items of its path. -/
theorem isPath_of_expand_single {spec : String}
    (done : expand spec = .ok (OrderedMap.insert ∅ 0 ids)) :
    ∃ items, IsPath spec.toList items ∧
      ∀ id, ids.contains id = true ↔ ∃ item ∈ items, item.Covers id := by
  have lone (path : Nat) : (OrderedMap.insert ∅ 0 ids : PathMap).get? path =
      if path = 0 then some ids else none := by
    split
    · next same => rw [same, OrderedMap.get?_insert_self]
    · next other => rw [OrderedMap.get?_insert_of_ne _ other, OrderedMap.get?_empty]
  rcases expand_eq_ok_iff.1 done with ⟨_, none⟩ | ⟨written, ⟨_, pieces, joined, paths⟩, lists⟩
  · have first := lone 0
    rw [none] at first
    cases first
  obtain ⟨items, place, covered⟩ := (lists 0 ids).1 (by rw [lone, if_pos rfl])
  cases written with
  | nil => cases place
  | cons path rest =>
    cases place
    cases rest with
    | nil =>
      obtain ⟨piece, _, isPath, none, rfl⟩ := List.forall₂_cons_right_iff.1 paths
      rw [List.forall₂_nil_right_iff.1 none, List.intercalate_singleton] at joined
      exact ⟨items, joined ▸ isPath, covered⟩
    | cons others more =>
      -- a second path would be in the map
      have second := (lists 1 (devicesOf others)).2 ⟨others, rfl, devicesOf_eq_iff.1 rfl⟩
      rw [lone] at second
      cases second

/-- **Collapsing is minimal.**  The text of a set has one item after another in ascending order, with
a device missing between any two, and no expression of the set as one path has fewer items. -/
theorem collapse_is_shortest (ids : DeviceSet) :
    (∃ items, Text.Joined ',' RangeItem.IsText (collapse ids).toList items ∧
      (∀ id, ids.contains id = true ↔ ∃ item ∈ items, item.Covers id) ∧ Separated ids items) ∧
    ∀ spec, expand spec = .ok (OrderedMap.insert ∅ 0 ids) →
      itemCount (collapse ids) ≤ itemCount spec := by
  refine ⟨⟨itemsOf ids, joined_collapse ids, devicesOf_eq_iff.1 (devicesOf_itemsOf ids),
    separated_itemsOf ids⟩, ?_⟩
  intro spec done
  obtain ⟨items, path, covered⟩ := isPath_of_expand_single done
  have filled : ids ≠ ∅ := (numbered_of_expand done).filled 0 ids (OrderedMap.get?_insert_self _ _ _)
  rw [itemCount_collapse filled, itemCount_of_isPath path]
  exact length_runs_le covered

/-- Three adjacent devices, the last device of all and one more, written out of order and one of them
twice. -/
theorem scattered_items_are_collapsed :
    let ids := ((RangeItem.devicesBetween ⟨0x1a00⟩ ⟨0x1a02⟩).insert ⟨0x1a05⟩ ()).insert ⟨0xffff⟩ ()
    let spec := "1a05, 1a02,ffff ,1A00 - 1a01,1a01"
    expand spec = .ok (OrderedMap.insert ∅ 0 ids) ∧
      collapse ids = "1A00-1A02,1A05,FFFF" ∧ itemCount spec = 5 ∧
      itemCount (collapse ids) ≤ itemCount spec := by
  intro ids spec
  have done : expand spec = .ok (OrderedMap.insert ∅ 0 ids) := by decide +kernel
  exact ⟨done, by decide +kernel, by decide +kernel, (collapse_is_shortest ids).2 spec done⟩

end Ranges

end FibrePool
