import FibrePool.Proofs.OnePerPath
import Mathlib.Data.List.Find

/-!
# The rule of choosing

Choosing searches the paths of a template in nested loops.  This module states the rule that the
searches follow, without any search: which record is the first one of a path that is kept or free,
which place is the lowest one that is free on every path, when a choice stands, and which of the
chosen records, if any, lacks a port name.

The rule allows exactly one answer, the one that is computed: so choosing fails for nothing but a
missing port name, and no place is looked at that a path does not have (`Selection.select_eq_iff`).
-/

namespace FibrePool

set_option autoImplicit false

/-! ## The rule -/

namespace DeviceRecord

/-- The device is neither connected nor reserved, and the hypervisor has it free. -/
def Free (record : DeviceRecord) : Prop :=
  record.connections = 0 ∧ record.reserved = false ∧ record.state = .free

/-- The assigner has reserved the device under the template. -/
def KeptBy (assigner template : String) (record : DeviceRecord) : Prop :=
  record.reserved = true ∧ record.assigner = assigner ∧ record.template = template

/-- The device has both its port names. -/
def HasNames (record : DeviceRecord) : Prop :=
  isPortName record.npivName = true ∧ isPortName record.physicalName = true

variable {record : DeviceRecord} {assigner template : String}

instance : Decidable record.Free := inferInstanceAs (Decidable (_ ∧ _ ∧ _))

instance : Decidable (record.KeptBy assigner template) := inferInstanceAs (Decidable (_ ∧ _ ∧ _))

instance : Decidable record.HasNames := inferInstanceAs (Decidable (_ ∧ _))

theorem free_iff : record.Free ↔ record.isFree = true := isFree_iff.symm

/-- What is reserved is in use, so that need not be asked for. -/
theorem keptBy_iff :
    record.KeptBy assigner template ↔ record.isReservedBy assigner template = true := by
  rw [isReservedBy, Bool.and_eq_true, isHeldBy_iff]
  constructor
  · rintro ⟨taken, own, under⟩
    exact ⟨taken, own, under, by rw [isInUse, taken, Bool.true_or]⟩
  · rintro ⟨taken, own, under, _⟩
    exact ⟨taken, own, under⟩

end DeviceRecord

namespace Selection

/-- The record is the first of the devices that satisfies a condition. -/
def IsFirst (condition : DeviceRecord → Prop) (devices : List DeviceRecord)
    (record : DeviceRecord) : Prop :=
  ∃ before after, devices = before ++ record :: after ∧ condition record ∧
    ∀ earlier ∈ before, ¬condition earlier

/-- The records are the first ones that satisfy a condition, one of each path that has any. -/
inductive FirstOfEach (condition : DeviceRecord → Prop) :
    List Candidates → List DeviceRecord → Prop
  | nil : FirstOfEach condition [] []
  | found {path : Candidates} {rest : List Candidates} {record : DeviceRecord}
      {records : List DeviceRecord} (first : IsFirst condition path.devices record)
      (others : FirstOfEach condition rest records) :
      FirstOfEach condition (path :: rest) (record :: records)
  | lacking {path : Candidates} {rest : List Candidates} {records : List DeviceRecord}
      (none : ∀ record ∈ path.devices, ¬condition record)
      (others : FirstOfEach condition rest records) :
      FirstOfEach condition (path :: rest) records

/-- The records are those at a place of every path, and all of them are free. -/
def FreeAt (candidates : List Candidates) (place : Nat) (records : List DeviceRecord) : Prop :=
  List.Forall₂ (fun path record => path.devices[place]? = some record ∧ record.Free)
    candidates records

/-- The records that are picked when nothing is kept. -/
inductive Picks (candidates : List Candidates) : Bool → List DeviceRecord → Prop
  | paired {place : Nat} {records : List DeviceRecord} (free : FreeAt candidates place records)
      (lowest : ∀ lower < place, ∀ others, ¬FreeAt candidates lower others) :
      Picks candidates true records
  | unpaired {records : List DeviceRecord}
      (never : ∀ place others, ¬FreeAt candidates place others)
      (first : FirstOfEach DeviceRecord.Free candidates records) :
      Picks candidates true records
  | separate {records : List DeviceRecord}
      (first : FirstOfEach DeviceRecord.Free candidates records) :
      Picks candidates false records

/-- The records that are chosen.  What the assigner has reserved already is kept, however many paths
it covers; otherwise what is picked must cover enough of them. -/
inductive Chooses (candidates : List Candidates) (assigner template : String)
    (policy : SelectionPolicy) : List DeviceRecord → Prop
  | kept {records : List DeviceRecord}
      (some : ∃ path ∈ candidates, ∃ record ∈ path.devices, record.KeptBy assigner template)
      (first : FirstOfEach (DeviceRecord.KeptBy assigner template) candidates records) :
      Chooses candidates assigner template policy records
  | fresh {records : List DeviceRecord}
      (none : ∀ path ∈ candidates, ∀ record ∈ path.devices, ¬record.KeptBy assigner template)
      (picked : Picks candidates policy.sameIndexPairing records)
      (nonempty : records ≠ []) (enough : policy.leastPaths ≤ records.length) :
      Chooses candidates assigner template policy records
  | dropped {records : List DeviceRecord}
      (none : ∀ path ∈ candidates, ∀ record ∈ path.devices, ¬record.KeptBy assigner template)
      (picked : Picks candidates policy.sameIndexPairing records)
      (few : records = [] ∨ records.length < policy.leastPaths) :
      Chooses candidates assigner template policy []

/-- What is answered for chosen records: their devices, or the failure of the first one that lacks a
port name, where the name of the virtual port is looked at before that of the physical one. -/
inductive Verdict (records : List DeviceRecord) : Outcome (List DeviceId) → Prop
  | complete (all : ∀ record ∈ records, record.HasNames) :
      Verdict records (.ok (records.map (·.id)))
  | withoutNpiv {before after : List DeviceRecord} {record : DeviceRecord}
      (here : records = before ++ record :: after)
      (earlier : ∀ other ∈ before, other.HasNames)
      (lacks : isPortName record.npivName = false) :
      Verdict records (.error (.operation "reserve_devices"
        s!"FCP device {record.id.text} has no NPIV WWPN" [record.id.text] []))
  | withoutPhysical {before after : List DeviceRecord} {record : DeviceRecord}
      (here : records = before ++ record :: after)
      (earlier : ∀ other ∈ before, other.HasNames)
      (has : isPortName record.npivName = true)
      (lacks : isPortName record.physicalName = false) :
      Verdict records (.error (.operation "reserve_devices"
        s!"FCP device {record.id.text} has no physical WWPN" [record.id.text] []))

/-! ## The searches follow the rule -/

variable {candidates : List Candidates} {assigner template : String} {policy : SelectionPolicy}
  {records : List DeviceRecord} {place : Nat}

section Conditions

variable {test : DeviceRecord → Bool} {condition : DeviceRecord → Prop}

theorem find?_eq_some_iff_isFirst (means : ∀ record, condition record ↔ test record = true)
    {devices : List DeviceRecord} {record : DeviceRecord} :
    devices.find? test = some record ↔ IsFirst condition devices record := by
  simp only [List.find?_eq_some_iff_append, IsFirst, means, Bool.not_eq_true', Bool.not_eq_true]
  constructor
  · rintro ⟨here, before, after, rfl, earlier⟩
    exact ⟨before, after, rfl, here, earlier⟩
  · rintro ⟨before, after, rfl, here, earlier⟩
    exact ⟨here, before, after, rfl, earlier⟩

theorem find?_eq_none_iff_forall (means : ∀ record, condition record ↔ test record = true)
    {devices : List DeviceRecord} :
    devices.find? test = none ↔ ∀ record ∈ devices, ¬condition record := by
  simp only [List.find?_eq_none, means]

/-- Searching every path for a condition finds the first records that satisfy it. -/
theorem filterMap_find?_eq_iff (means : ∀ record, condition record ↔ test record = true) :
    (candidates.filterMap fun path => path.devices.find? test) = records ↔
      FirstOfEach condition candidates records := by
  constructor
  · rintro rfl
    induction candidates with
    | nil => exact .nil
    | cons path rest ih =>
      cases found : path.devices.find? test with
      | none =>
        simp only [List.filterMap_cons, found]
        exact .lacking ((find?_eq_none_iff_forall means).1 found) ih
      | some record =>
        simp only [List.filterMap_cons, found]
        exact .found ((find?_eq_some_iff_isFirst means).1 found) ih
  · intro first
    induction first with
    | nil => rfl
    | found first _ ih =>
      simp only [List.filterMap_cons, (find?_eq_some_iff_isFirst means).2 first, ih]
    | lacking none _ ih =>
      simp only [List.filterMap_cons, (find?_eq_none_iff_forall means).2 none, ih]

end Conditions

theorem firstFree_eq_iff :
    firstFree candidates = records ↔ FirstOfEach DeviceRecord.Free candidates records :=
  filterMap_find?_eq_iff fun _ => DeviceRecord.free_iff

theorem reserved_eq_iff : reserved candidates assigner template = records ↔
    FirstOfEach (DeviceRecord.KeptBy assigner template) candidates records :=
  filterMap_find?_eq_iff fun _ => DeviceRecord.keptBy_iff

theorem reserved_eq_nil_iff : reserved candidates assigner template = [] ↔
    ∀ path ∈ candidates, ∀ record ∈ path.devices, ¬record.KeptBy assigner template := by
  rw [reserved, List.filterMap_eq_nil_iff]
  exact forall₂_congr fun _ _ => find?_eq_none_iff_forall fun _ => DeviceRecord.keptBy_iff

theorem freeAt?_eq_some_iff :
    freeAt? candidates place = some records ↔ FreeAt candidates place records := by
  simp only [freeAt?, mapM_eq_some, Option.filter_eq_some_iff, FreeAt, DeviceRecord.free_iff]

theorem freeAt?_eq_none_iff :
    freeAt? candidates place = none ↔ ∀ records, ¬FreeAt candidates place records := by
  simp only [Option.eq_none_iff_forall_ne_some, ne_eq, freeAt?_eq_some_iff]

/-! ### Places -/

/-- Every place that is looked at lies within every path. -/
theorem lt_length_of_lt_commonPlaces (within : place < commonPlaces candidates) {path : Candidates}
    (listed : path ∈ candidates) : place < path.devices.length := by
  unfold commonPlaces at within
  cases least : (candidates.map fun path => path.devices.length).min? with
  | none => simp [least] at within
  | some shortest =>
    rw [least, Option.getD_some] at within
    exact within.trans_le ((List.min?_eq_some_iff.1 least).2 _
      (List.mem_map_of_mem listed))

/-- The other way round, no place that all paths have is left out. -/
theorem lt_commonPlaces (some : candidates ≠ [])
    (all : ∀ path ∈ candidates, place < path.devices.length) : place < commonPlaces candidates := by
  unfold commonPlaces
  cases least : (candidates.map fun path => path.devices.length).min? with
  | none => exact absurd (List.map_eq_nil_iff.1 (List.min?_eq_none_iff.1 least)) some
  | some shortest =>
    obtain ⟨path, listed, rfl⟩ := List.mem_map.1 (List.min?_eq_some_iff.1 least).1
    exact all path listed

theorem lt_commonPlaces_of_freeAt (some : candidates ≠ [])
    (free : FreeAt candidates place records) :
    place < commonPlaces candidates := by
  refine lt_commonPlaces some fun path listed => ?_
  obtain ⟨index, inside, rfl⟩ := List.mem_iff_getElem.1 listed
  have here := (List.forall₂_iff_get.1 free).2 index inside
    (by rw [← free.length_eq]; exact inside)
  exact (List.getElem?_eq_some_iff.1 here.1).1

/-- A search of the numbers below a bound finds the lowest one that has a result. -/
theorem findSome?_range_eq_some_iff {α : Type} {search : Nat → Option α} {bound : Nat}
    {result : α} : (List.range bound).findSome? search = some result ↔
      ∃ place < bound, search place = some result ∧ ∀ lower < place, search lower = none := by
  induction bound with
  | zero => simp
  | succ bound ih =>
    rw [List.range_succ, List.findSome?_append, Option.or_eq_some_iff, ih,
      List.findSome?_eq_none_iff, List.findSome?_singleton]
    simp only [List.mem_range]
    constructor
    · rintro (⟨place, below, found⟩ | ⟨none, here⟩)
      · exact ⟨place, below.trans (Nat.lt_succ_self bound), found⟩
      · exact ⟨bound, Nat.lt_succ_self bound, here, none⟩
    · rintro ⟨place, below, here, lowest⟩
      rcases Nat.lt_succ_iff_lt_or_eq.1 below with inside | rfl
      · exact .inl ⟨place, inside, here, lowest⟩
      · exact .inr ⟨lowest, here⟩

theorem paired?_eq_some_iff (some : candidates ≠ []) :
    paired? candidates = .some records ↔ ∃ place, FreeAt candidates place records ∧
      ∀ lower < place, ∀ others, ¬FreeAt candidates lower others := by
  simp only [paired?, findSome?_range_eq_some_iff, freeAt?_eq_some_iff, freeAt?_eq_none_iff]
  constructor
  · rintro ⟨place, _, free, lowest⟩
    exact ⟨place, free, lowest⟩
  · rintro ⟨place, free, lowest⟩
    exact ⟨place, lt_commonPlaces_of_freeAt some free, free, lowest⟩

theorem paired?_eq_none_iff (some : candidates ≠ []) :
    paired? candidates = none ↔ ∀ place others, ¬FreeAt candidates place others := by
  simp only [paired?, List.findSome?_eq_none_iff, List.mem_range, freeAt?_eq_none_iff]
  constructor
  · intro never place others free
    exact never place (lt_commonPlaces_of_freeAt some free) others free
  · intro never place _ others
    exact never place others

/-! ### Picking and choosing -/

/-- Without a path, there is nothing to pick. -/
theorem picks_nil_iff {pairing : Bool} : Picks [] pairing records ↔ records = [] := by
  constructor
  · rintro (⟨free, _⟩ | ⟨never, _⟩ | first)
    · exact List.forall₂_nil_left_iff.1 free
    · exact absurd .nil (never 0 [])
    · cases first
      rfl
  · rintro rfl
    cases pairing with
    | true => exact @Picks.paired _ 0 _ .nil fun _ below => absurd below (Nat.not_lt_zero _)
    | false => exact .separate .nil

theorem picks_true_iff (some : candidates ≠ []) :
    Picks candidates true records ↔ (paired? candidates).getD (firstFree candidates) = records := by
  cases paired : paired? candidates with
  | none =>
    have never := (paired?_eq_none_iff some).1 paired
    rw [Option.getD_none, firstFree_eq_iff]
    constructor
    · rintro (⟨free, _⟩ | ⟨_, first⟩)
      · exact absurd free (never _ _)
      · exact first
    · exact .unpaired never
  | some found =>
    obtain ⟨place, free, lowest⟩ := (paired?_eq_some_iff some).1 paired
    rw [Option.getD_some]
    constructor
    · rintro (⟨other, below⟩ | ⟨never, _⟩)
      · have also := (paired?_eq_some_iff some).2 ⟨_, other, below⟩
        exact Option.some.inj (paired.symm.trans also)
      · exact absurd free (never _ _)
    · rintro rfl
      exact .paired free lowest

theorem picked_eq_iff :
    picked candidates policy = records ↔ Picks candidates policy.sameIndexPairing records := by
  rcases eq_or_ne candidates [] with rfl | some
  · rw [picks_nil_iff, picked, eq_comm]
    split <;> rfl
  · unfold picked
    cases policy.sameIndexPairing with
    | true => exact (picks_true_iff some).symm
    | false =>
      rw [if_neg Bool.false_ne_true, firstFree_eq_iff]
      constructor
      · exact .separate
      · intro picks
        cases picks with
        | separate first => exact first

/-- When something is kept, nothing else is chosen. -/
theorem chooses_iff_of_kept
    (some : ∃ path ∈ candidates, ∃ record ∈ path.devices, record.KeptBy assigner template) :
    Chooses candidates assigner template policy records ↔
      FirstOfEach (DeviceRecord.KeptBy assigner template) candidates records := by
  obtain ⟨path, listed, record, member, kept⟩ := some
  constructor
  · rintro (⟨_, first⟩ | ⟨none, _⟩ | ⟨none, _⟩)
    · exact first
    · exact absurd kept (none path listed record member)
    · exact absurd kept (none path listed record member)
  · exact .kept ⟨path, listed, record, member, kept⟩

/-- When nothing is kept, what is picked stands if it covers enough paths. -/
theorem chooses_iff_of_none
    (none : ∀ path ∈ candidates, ∀ record ∈ path.devices, ¬record.KeptBy assigner template) :
    Chooses candidates assigner template policy records ↔
      (if (picked candidates policy).length < policy.leastPaths then []
        else picked candidates policy) = records := by
  have picks : Picks candidates policy.sameIndexPairing (picked candidates policy) :=
    picked_eq_iff.1 rfl
  constructor
  · rintro (⟨⟨path, listed, record, member, kept⟩, _⟩ | ⟨_, others, _, enough⟩ | ⟨_, others, few⟩)
    · exact absurd kept (none path listed record member)
    · rw [picked_eq_iff.2 others, if_neg (Nat.not_lt.2 enough)]
    · rw [picked_eq_iff.2 others]
      rcases few with rfl | few
      · exact ite_self _
      · exact if_pos few
  · rintro rfl
    split
    · next few => exact .dropped none picks (.inr few)
    · next enough =>
      rcases eq_or_ne (picked candidates policy) [] with empty | nonempty
      · rw [empty]
        exact .dropped none picks (.inl empty)
      · exact .fresh none picks nonempty (Nat.not_lt.1 enough)

theorem chosen_eq_iff : chosen candidates assigner template policy = records ↔
    Chooses candidates assigner template policy records := by
  unfold chosen
  cases held : reserved candidates assigner template with
  | nil => exact (chooses_iff_of_none (reserved_eq_nil_iff.1 held)).symm
  | cons record rest =>
    have some : ∃ path ∈ candidates, ∃ record ∈ path.devices,
        record.KeptBy assigner template := by
      by_contra none
      push Not at none
      cases held.symm.trans (reserved_eq_nil_iff.2 none)
    rw [chooses_iff_of_kept some, ← reserved_eq_iff, held]

/-! ### Port names -/

theorem named_of_hasNames {record : DeviceRecord} (names : record.HasNames) :
    named record = .ok record.id := by
  rw [named, names.1, names.2]
  rfl

/-- The message of a missing name, which ends in one piece of text. -/
theorem missingName_eq (record : DeviceRecord) {name ending : String}
    (whole : ending = " has no " ++ name) :
    missingName record name = .operation "reserve_devices"
      (toString "FCP device " ++ toString record.id.text ++ toString ending) [record.id.text] [] := by
  rw [whole]
  simp only [missingName, toString, String.append_assoc]

theorem named_of_no_npivName {record : DeviceRecord}
    (lacks : isPortName record.npivName = false) :
    named record = .error (.operation "reserve_devices"
      s!"FCP device {record.id.text} has no NPIV WWPN" [record.id.text] []) := by
  rw [named, lacks]
  exact congrArg Except.error (missingName_eq record rfl)

theorem named_of_no_physicalName {record : DeviceRecord}
    (has : isPortName record.npivName = true) (lacks : isPortName record.physicalName = false) :
    named record = .error (.operation "reserve_devices"
      s!"FCP device {record.id.text} has no physical WWPN" [record.id.text] []) := by
  rw [named, has, lacks]
  exact congrArg Except.error (missingName_eq record rfl)

/-- The failure of the first record that has one is the failure of them all. -/
theorem mapM_named_eq_error {before after : List DeviceRecord} {record : DeviceRecord}
    {failure : Failure} (earlier : ∀ other ∈ before, other.HasNames)
    (lacks : named record = .error failure) :
    (before ++ record :: after).mapM named = .error failure := by
  induction before with
  | nil => rw [List.nil_append, List.mapM_cons, lacks]; rfl
  | cons first rest ih =>
    rw [List.cons_append, List.mapM_cons, named_of_hasNames (earlier first List.mem_cons_self),
      ih fun other listed => earlier other (List.mem_cons_of_mem _ listed)]
    rfl

/-- A complete record before the others does not change what is found wrong with them. -/
theorem Verdict.cons {record : DeviceRecord} {outcome : Outcome (List DeviceId)}
    (names : record.HasNames) (verdict : Verdict records outcome) :
    Verdict (record :: records) ((record.id :: ·) <$> outcome) := by
  cases verdict with
  | complete all => exact .complete (List.forall_mem_cons.2 ⟨names, all⟩)
  | withoutNpiv here earlier lacks =>
    exact .withoutNpiv (congrArg (record :: ·) here) (List.forall_mem_cons.2 ⟨names, earlier⟩) lacks
  | withoutPhysical here earlier has lacks =>
    exact .withoutPhysical (congrArg (record :: ·) here) (List.forall_mem_cons.2 ⟨names, earlier⟩)
      has lacks

/-- A record either has its names or is the first thing wrong. -/
theorem verdict_mapM_named : Verdict records (records.mapM named) := by
  induction records with
  | nil => exact .complete (List.forall_mem_nil _)
  | cons record rest ih =>
    rw [List.mapM_cons]
    cases npiv : isPortName record.npivName with
    | false =>
      rw [named_of_no_npivName npiv]
      exact @Verdict.withoutNpiv _ [] rest record rfl (List.forall_mem_nil _) npiv
    | true =>
      cases physical : isPortName record.physicalName with
      | false =>
        rw [named_of_no_physicalName npiv physical]
        exact @Verdict.withoutPhysical _ [] rest record rfl (List.forall_mem_nil _) npiv physical
      | true =>
        rw [named_of_hasNames ⟨npiv, physical⟩]
        exact .cons ⟨npiv, physical⟩ ih

theorem mapM_named_eq_iff {outcome : Outcome (List DeviceId)} :
    records.mapM named = outcome ↔ Verdict records outcome := by
  constructor
  · rintro rfl
    exact verdict_mapM_named
  · intro verdict
    cases verdict with
    | complete all =>
      exact mapM_named_eq_ok.2 ⟨rfl, fun record listed => named_of_hasNames (all record listed)⟩
    | withoutNpiv here earlier lacks =>
      rw [here]
      exact mapM_named_eq_error earlier (named_of_no_npivName lacks)
    | withoutPhysical here earlier has lacks =>
      rw [here]
      exact mapM_named_eq_error earlier (named_of_no_physicalName has lacks)

/-- **Choosing follows its rule**, and the rule leaves it no other answer and no other failure.  The
places that are looked at lie within every path. -/
theorem select_eq_iff (candidates : List Candidates) (assigner template : String)
    (policy : SelectionPolicy) :
    (∀ outcome, select candidates assigner template policy = outcome ↔
      ∃ records, Chooses candidates assigner template policy records ∧ Verdict records outcome) ∧
      ∀ place < commonPlaces candidates, ∀ path ∈ candidates, place < path.devices.length := by
  constructor
  · intro outcome
    simp only [select, mapM_named_eq_iff, ← chosen_eq_iff, exists_eq_left']
  · intro place within path listed
    exact lt_length_of_lt_commonPlaces within listed

end Selection

end FibrePool
