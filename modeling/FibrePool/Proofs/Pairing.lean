import FibrePool.Proofs.Reacquisition
import FibrePool.Proofs.Taking

/-!
# The same place on every path

With pairing, a reservation prefers devices at the same place of every path.  The places that it
counts are those among the devices that are stored, and a reconciliation drops the record of a
device that the hypervisor does not list any more, while the template goes on naming it.

As long as the paths lack records at the same places only, the devices at the lowest place at which
all of them are stored and free are the ones that are reserved (`paired_reservation`).  Where one
path lacks a record that another one has, the places behind it are counted differently, and devices
are paired that stand at different places of their paths (`pairing_passes_over_missing_device`).
-/

namespace FibrePool

set_option autoImplicit false

open Workflow

/-! ## Places among what is kept -/

section Places

variable {α β : Type} {keep : α → Option β} {items : List α} {place : Nat} {item : α}

/-- How many items before a place are kept. -/
def keptBefore (keep : α → Option β) (items : List α) (place : Nat) : Nat :=
  ((items.take place).filterMap keep).length

theorem keptBefore_succ (here : items[place]? = some item) :
    keptBefore keep items (place + 1) =
      keptBefore keep items place + if (keep item).isSome then 1 else 0 := by
  unfold keptBefore
  rw [List.take_add_one, here, Option.toList_some, List.filterMap_append, List.length_append]
  cases kept : keep item with
  | none => rw [List.filterMap_cons_none kept]; rfl
  | some result => rw [List.filterMap_cons_some kept]; rfl

/-- A kept item comes after those that are kept before it. -/
theorem getElem?_keptBefore {result : β} (here : items[place]? = some item)
    (kept : keep item = some result) :
    (items.filterMap keep)[keptBefore keep items place]? = some result := by
  obtain ⟨inside, rfl⟩ := List.getElem?_eq_some_iff.1 here
  have split : items.filterMap keep =
      (items.take place).filterMap keep ++ result :: (items.drop (place + 1)).filterMap keep := by
    rw [← List.filterMap_cons_some kept, ← List.drop_eq_getElem_cons inside,
      ← List.filterMap_append, List.take_append_drop]
  rw [split, keptBefore, List.getElem?_append_right le_rfl, Nat.sub_self]
  rfl

/-- Whatever is kept before a place is an item at an earlier place. -/
theorem exists_of_lt_keptBefore {count : Nat} (below : count < keptBefore keep items place) :
    ∃ earlier < place, ∃ item result, items[earlier]? = some item ∧ keep item = some result ∧
      keptBefore keep items earlier = count := by
  induction place with
  | zero => exact absurd below (Nat.not_lt_zero count)
  | succ place ih =>
    have further (found : count < keptBefore keep items place) :
        ∃ earlier < place + 1, ∃ item result, items[earlier]? = some item ∧
          keep item = some result ∧ keptBefore keep items earlier = count := by
      obtain ⟨earlier, before, rest⟩ := ih found
      exact ⟨earlier, before.trans (Nat.lt_succ_self place), rest⟩
    cases here : items[place]? with
    | none =>
      refine further ?_
      rwa [keptBefore, List.take_add_one, here, Option.toList_none, List.append_nil] at below
    | some item =>
      rw [keptBefore_succ here] at below
      cases kept : keep item with
      | none =>
        rw [kept] at below
        exact further below
      | some result =>
        rw [kept] at below
        rcases Nat.lt_succ_iff_lt_or_eq.1 below with found | rfl
        · exact further found
        · exact ⟨place, Nat.lt_succ_self place, item, result, here, kept, rfl⟩

end Places

/-! ## Places of a template -/

/-- The devices at a place, if every path has one there. -/
def PathMap.idsAt? (paths : PathMap) (place : Nat) : Option (List DeviceId) :=
  paths.values.mapM fun path => path.keys[place]?

namespace PathMap

variable {paths : PathMap} {place : Nat} {ids : List DeviceId}

theorem idsAt?_eq_some : paths.idsAt? place = some ids ↔
    List.Forall₂ (fun path id => path.keys[place]? = some id) paths.values ids :=
  mapM_eq_some

/-- Paths that have a device at a place have one at every place before it. -/
theorem exists_idsAt? (here : paths.idsAt? place = some ids) {earlier : Nat}
    (before : earlier ≤ place) : ∃ others, paths.idsAt? earlier = some others := by
  simp only [idsAt?_eq_some] at here ⊢
  generalize paths.values = sets at here ⊢
  induction here with
  | nil => exact ⟨[], .nil⟩
  | @cons path id rest others here _ ih =>
    obtain ⟨others, later⟩ := ih
    have inside := before.trans_lt (List.getElem?_eq_some_iff.1 here).1
    exact ⟨path.keys[earlier] :: others, .cons (List.getElem?_eq_getElem inside) later⟩

end PathMap

namespace Tables

variable {tables : Tables} {paths : PathMap} {place : Nat} {ids : List DeviceId}

/-- All devices are stored and free. -/
def AllFree (tables : Tables) (ids : List DeviceId) : Prop :=
  ∀ id ∈ ids, ∃ record ∈ tables.at? id, record.Free

instance : Decidable (tables.AllFree ids) :=
  inferInstanceAs (Decidable (∀ id ∈ ids, ∃ record ∈ tables.at? id, record.Free))

/-- At every place before the given one, either all paths have a record or none has. -/
def LevelBefore (tables : Tables) (paths : PathMap) (place : Nat) : Prop :=
  ∀ earlier < place, ∀ ids ∈ paths.idsAt? earlier,
    (∀ id ∈ ids, (tables.at? id).isSome = true) ∨ ∀ id ∈ ids, tables.at? id = none

instance : Decidable (tables.LevelBefore paths place) :=
  inferInstanceAs (Decidable (∀ earlier < place, ∀ ids ∈ paths.idsAt? earlier,
    (∀ id ∈ ids, (tables.at? id).isSome = true) ∨ ∀ id ∈ ids, tables.at? id = none))

/-- The devices at the lowest place at which all of them are stored and free, which have their port
names, while the assigner keeps none of the devices of the template. -/
structure Pairs (tables : Tables) (assigner template : String) (place : Nat)
    (ids : List DeviceId) : Prop where
  unheld : ∀ id ∈ tables.devicesOf template, ∀ record ∈ tables.at? id,
    ¬record.KeptBy assigner template
  here : (tables.pathsOf template).idsAt? place = some ids
  free : tables.AllFree ids
  named : ∀ id ∈ ids, ∀ record ∈ tables.at? id, record.HasNames
  lowest : ∀ lower < place, ∀ others ∈ (tables.pathsOf template).idsAt? lower,
    ¬tables.AllFree others

instance {assigner template : String} : Decidable (tables.Pairs assigner template place ids) :=
  decidable_of_iff
    ((∀ id ∈ tables.devicesOf template, ∀ record ∈ tables.at? id,
        ¬record.KeptBy assigner template) ∧
      (tables.pathsOf template).idsAt? place = some ids ∧ tables.AllFree ids ∧
      (∀ id ∈ ids, ∀ record ∈ tables.at? id, record.HasNames) ∧
      ∀ lower < place, ∀ others ∈ (tables.pathsOf template).idsAt? lower, ¬tables.AllFree others)
    ⟨fun ⟨unheld, here, free, named, lowest⟩ => ⟨unheld, here, free, named, lowest⟩,
      fun ⟨unheld, here, free, named, lowest⟩ => ⟨unheld, here, free, named, lowest⟩⟩

/-! ### Places among the candidates -/

/-- Where paths lack records at the same places only, as many are stored before a place on each of
them. -/
theorem LevelBefore.keptBefore_eq (level : tables.LevelBefore paths place)
    (here : paths.idsAt? place = some ids) {earlier : Nat} (before : earlier ≤ place)
    {one other : DeviceSet} (first : one ∈ paths.values) (second : other ∈ paths.values) :
    keptBefore tables.at? one.keys earlier = keptBefore tables.at? other.keys earlier := by
  induction earlier with
  | zero => rfl
  | succ earlier ih =>
    obtain ⟨ids, there⟩ := PathMap.exists_idsAt? here (Nat.le_of_succ_le before)
    have places := (PathMap.idsAt?_eq_some.1 there).flip
    obtain ⟨id, listed, placed⟩ := exists_mem_of_forall₂ places first
    obtain ⟨id', listed', placed'⟩ := exists_mem_of_forall₂ places second
    rw [keptBefore_succ placed, keptBefore_succ placed', ih (Nat.le_of_succ_le before)]
    rcases level earlier before ids there with all | none
    · rw [all id listed, all id' listed']
    · rw [none id listed, none id' listed']

theorem freeAt_candidates_iff {template : String} {records : List DeviceRecord} :
    Selection.FreeAt (tables.candidates template) place records ↔
      List.Forall₂ (fun path record =>
        (path.keys.filterMap tables.at?)[place]? = some record ∧ record.Free)
        (tables.pathsOf template).values records := by
  simp only [Selection.FreeAt, candidates, OrderedMap.values, List.forall₂_map_left_iff]
  rfl

theorem filterMap_at_place {sets : List DeviceSet} {records : List DeviceRecord} {count : Nat}
    (here : List.Forall₂ (fun path id => path.keys[place]? = some id) sets ids)
    (counted : ∀ path ∈ sets, keptBefore tables.at? path.keys place = count)
    (stored : List.Forall₂ (fun id record => tables.at? id = some record ∧ record.Free)
      ids records) :
    List.Forall₂ (fun path record =>
      (path.keys.filterMap tables.at?)[count]? = some record ∧ record.Free) sets records := by
  induction here generalizing records with
  | nil =>
    cases stored
    exact .nil
  | cons placed _ ih =>
    obtain ⟨same, counted⟩ := List.forall_mem_cons.1 counted
    cases stored with
    | cons first others =>
      have found := getElem?_keptBefore placed first.1
      rw [same] at found
      exact .cons ⟨found, first.2⟩ (ih counted others)

theorem AllFree.exists_records (free : tables.AllFree ids) : ∃ records,
    List.Forall₂ (fun id record => tables.at? id = some record ∧ record.Free) ids records := by
  induction ids with
  | nil => exact ⟨[], .nil⟩
  | cons id rest ih =>
    obtain ⟨⟨record, first⟩, others⟩ := List.forall_mem_cons.1 free
    obtain ⟨records, later⟩ := ih others
    exact ⟨record :: records, .cons first later⟩

section Picking

variable {assigner template : String} {path : DeviceSet}
  (pairs : tables.Pairs assigner template place ids)
  (level : tables.LevelBefore (tables.pathsOf template) place)
  (some : path ∈ (tables.pathsOf template).values)

include pairs level some

/-- No place before that of the devices that pair is free among the candidates. -/
theorem Pairs.not_freeAt {lower : Nat} (below : lower < keptBefore tables.at? path.keys place)
    (others : List DeviceRecord) :
    ¬Selection.FreeAt (tables.candidates template) lower others := by
  intro taken
  obtain ⟨earlier, before, first, record, here, kept, same⟩ := exists_of_lt_keptBefore below
  obtain ⟨ids', there⟩ := PathMap.exists_idsAt? pairs.here before.le
  have places := PathMap.idsAt?_eq_some.1 there
  have all : ∀ id ∈ ids', (tables.at? id).isSome = true := by
    rcases level earlier before ids' there with all | none
    · exact all
    · obtain ⟨id, listed, placed⟩ := exists_mem_of_forall₂ places.flip some
      obtain rfl := Option.some.inj (here.symm.trans placed)
      cases kept.symm.trans (none first listed)
  refine pairs.lowest earlier before ids' there fun id listed => ?_
  obtain ⟨other, member, placed⟩ := exists_mem_of_forall₂ places listed
  obtain ⟨record, stored⟩ := Option.isSome_iff_exists.1 (all id listed)
  have found := getElem?_keptBefore placed stored
  rw [level.keptBefore_eq pairs.here before.le member some, same] at found
  obtain ⟨_, _, there, free⟩ := exists_mem_of_forall₂ (freeAt_candidates_iff.1 taken).flip member
  obtain rfl := Option.some.inj (found.symm.trans there)
  exact ⟨record, stored, free⟩

/-- **Where the paths lack records at the same places only, the devices that pair are picked.** -/
theorem Pairs.picks : ∃ records, Selection.Picks (tables.candidates template) true records ∧
    List.Forall₂ (fun id record => tables.at? id = .some record ∧ record.Free) ids records := by
  obtain ⟨records, stored⟩ := pairs.free.exists_records
  have counted (other : DeviceSet) (listed : other ∈ (tables.pathsOf template).values) :=
    level.keptBefore_eq pairs.here le_rfl listed some
  have free := filterMap_at_place (PathMap.idsAt?_eq_some.1 pairs.here) counted stored
  refine ⟨records, .paired (freeAt_candidates_iff.2 free) ?_, stored⟩
  exact fun lower below others => pairs.not_freeAt level some below others

end Picking

/-- The devices that pair are the ones that a reservation takes, when they are enough. -/
theorem Pairs.exists_reserve {assigner template : String} {found : Template}
    (pairs : tables.Pairs assigner template place ids) (filed : tables.RecordsFiled)
    (level : tables.LevelBefore (tables.pathsOf template) place)
    (there : (tables.template template).isOk = true) (some : 0 < (tables.pathsOf template).size)
    (enough : found.leastPathsOf (tables.pathsOf template).size ≤ (tables.pathsOf template).size) :
    ∃ devices after, reserve assigner found template true tables = .ok (devices, after) ∧
      devices.map (·.id) = ids := by
  obtain ⟨stored, there⟩ : ∃ stored, tables.template template = .ok stored := by
    cases here : tables.template template with
    | ok stored => exact ⟨stored, rfl⟩
    | error failure =>
      rw [here] at there
      cases there
  obtain ⟨⟨number, path⟩, listed⟩ := List.exists_mem_of_length_pos some
  obtain ⟨records, picks, present⟩ := pairs.picks level (List.mem_map_of_mem listed)
  have size : records.length = (tables.pathsOf template).size := by
    rw [← present.length_eq, ← (PathMap.idsAt?_eq_some.1 pairs.here).length_eq,
      OrderedMap.values, List.length_map]
    rfl
  have chosen : Selection.chosen (tables.candidates template) assigner template
      ⟨true, found.leastPathsOf (tables.candidates template).length⟩ = records := by
    refine Selection.chosen_eq_iff.2 (.fresh ?_ picks ?_ ?_)
    · intro path among record member
      obtain ⟨own, here⟩ := stored_of_isCandidate filed ⟨path, among, member⟩
      exact pairs.unheld record.id own record here
    · exact List.ne_nil_of_length_pos (size ▸ some)
    · rw [size, candidates, List.length_map]
      exact enough
  have complete : ∀ record ∈ Selection.chosen (tables.candidates template) assigner template
      ⟨true, found.leastPathsOf (tables.candidates template).length⟩,
      Selection.named record = .ok record.id := by
    rw [chosen]
    intro record taken
    obtain ⟨id, listed, here, _⟩ := exists_mem_of_forall₂ present taken
    exact Selection.named_of_hasNames (pairs.named id listed record here)
  obtain ⟨after, done, _⟩ := exists_reserveBy filed there complete
  refine ⟨_, after, done, ?_⟩
  have same : List.Forall₂ (· = ·) ids (records.map (·.id)) :=
    List.forall₂_map_right_iff.2 (present.imp fun id record here => (filed id record here.1).symm)
  rw [List.forall₂_eq_eq_eq] at same
  rw [chosen, List.map_map, same]
  rfl

end Tables

/-! ## Paired reservations -/

namespace Pool

/-- The tables on which a reservation chooses: those that there are, or those that a reconciliation
makes of them. -/
inductive Readies (settings : PoolSettings) (around : Surroundings) (tables : Tables) :
    Tables → Prop
  | unchanged (direct : settings.syncBeforeReserve = false) : Readies settings around tables tables
  | reconciled {summary : SyncSummary} {scene : Scene} (first : settings.syncBeforeReserve = true)
    (run : (sync settings).run.alone around { tables } = (some (.ok summary), scene)) :
    Readies settings around tables scene.tables

variable {settings : PoolSettings} {around : Surroundings} {tables ready : Tables}

/-- A reconciliation before a reservation changes devices only. -/
theorem Readies.onlyDevices (readies : Readies settings around tables ready) :
    ∃ devices, ready = { tables with devices } := by
  cases readies with
  | unchanged => exact ⟨tables.devices, rfl⟩
  | reconciled _ run =>
    have only : Reconciles (fun _ => True) fun now => ∃ devices, now = { tables with devices } := by
      rintro _ _ devices _ _ now _ after ⟨before, rfl⟩ done
      obtain ⟨records, rfl⟩ := Tables.onlyDevices_reconcile devices done
      exact ⟨records, rfl⟩
    exact (sync_preserves settings only).alone run ⟨tables.devices, rfl⟩ fun _ _ => trivial

theorem Readies.recordsFiled (readies : Readies settings around tables ready)
    (filed : tables.RecordsFiled) : ready.RecordsFiled := by
  cases readies with
  | unchanged => exact filed
  | reconciled _ run =>
    exact (sync_preserves settings (recordsFiled_upkeep _).reconciles).alone run filed
      fun _ _ => trivial

/-- A reservation takes what the transaction gives on the tables that are ready for it. -/
theorem reserve_ends_of_ready {assigner : String} {template provider : Option String} {id : String}
    {found : Template} {devices : List DeviceRecord} {after : Tables}
    (readies : Readies settings around tables ready)
    (meant : tables.resolved template provider = .ok id) (there : tables.template id = .ok found)
    (done : Tables.reserve assigner found id settings.sameIndexPairing ready =
      .ok (devices, after)) :
    (reserve settings assigner template provider).Ends around { tables }
      (fun reservation last => reservation = ⟨id, devices⟩ ∧ last.tables = after)
      fun _ _ => False := by
  have reserving (now : Scene) (same : now.tables = ready) : Ends around (do
        let devices ← commit (Tables.reserve assigner found id settings.sameIndexPairing)
        if !devices.isEmpty then
          emit (.devicesReserved assigner id (devices.map (·.id.text)))
        return ({ template := id, devices } : Reservation)) now
        (fun reservation last => reservation = ⟨id, devices⟩ ∧ last.tables = after)
        fun _ _ => False := by
    rw [ends_bind, ends_commit, same, done]
    dsimp only
    split
    · rw [ends_bind, ends_emit]
      exact (ends_pure _).2 ⟨rfl, rfl⟩
    · exact (ends_pure _).2 ⟨rfl, rfl⟩
  unfold reserve
  rw [ends_bind, ends_resolve, meant]
  dsimp only
  rw [ends_bind, ends_askFor, there]
  dsimp only
  cases readies with
  | unchanged direct =>
    rw [if_neg (by simp [direct])]
    exact reserving _ rfl
  | reconciled first run =>
    rw [if_pos first, ends_bind]
    refine ends_of_run run ?_ fun _ same => by cases same
    rintro _ _
    exact reserving _ rfl

end Pool

/-- **A reservation with pairing gives the devices at the lowest place at which all of them are
stored and free**, in the order of the paths, where the paths lack records at the same places
only. -/
theorem paired_reservation {settings : OperatorSettings} {scheduler : Scheduler (Outcome Reply)}
    (reached : scheduler.Reached (Ordered settings))
    (pairing : settings.pool.sameIndexPairing = true) {around : Surroundings} {ready : Tables}
    (readies : Pool.Readies settings.pool around scheduler.store.tables ready)
    {template provider : Option String} {id : String} {found : Template}
    (meant : scheduler.store.tables.resolved template provider = .ok id)
    (there : scheduler.store.tables.template id = .ok found)
    (some : 0 < (ready.pathsOf id).size)
    (enough : found.leastPathsOf (ready.pathsOf id).size ≤ (ready.pathsOf id).size)
    {assigner : String} {place : Nat} {ids : List DeviceId}
    (pairs : ready.Pairs assigner id place ids)
    (level : ready.LevelBefore (ready.pathsOf id) place) :
    ∃ reservation after,
      (Pool.reserve settings.pool assigner template provider).run.alone around
        { tables := scheduler.store.tables } = (.some (.ok reservation), after) ∧
      reservation.template = id ∧ reservation.devices.map (·.id) = ids := by
  have still : (ready.template id).isOk = true := by
    obtain ⟨devices, rfl⟩ := readies.onlyDevices
    exact congrArg Except.isOk there
  obtain ⟨devices, after, done, same⟩ :=
    pairs.exists_reserve (readies.recordsFiled reached.recordsFiled) level still some enough
  have ends := Pool.reserve_ends_of_ready readies meant there (pairing ▸ done)
  obtain ⟨outcome, last, run⟩ := ends.exists_outcome
  cases outcome with
  | ok reservation =>
    obtain ⟨rfl, _⟩ := ends.of_ok run
    exact ⟨_, last, run, rfl, same⟩
  | error failure => exact (ends.of_error run).elim

/-! ## Paths that lack records -/

namespace Sample

/-- A pool with a template of two paths with two places each, of whose devices the hypervisor lists
some, all of them free. -/
def twoPaths (numbers : List String) : Scheduler (Outcome Reply) :=
  serving pairing (.ok (listingOf (numbers.map fun number => (number, "Free"))))
    [.pool (.createTemplate { devices := "1a00,1a01;1b00,1b01" }), .pool .sync]

/-- Both paths lack the record at their first place. -/
def shortened := twoPaths ["1A01", "1B01"]

/-- One path lacks the record at its first place. -/
def gapped := twoPaths ["1A01", "1B00", "1B01"]

/-- The template of these pools, which asks for all of its paths. -/
def plain : Template := ⟨"T", "", "", false, none, default⟩

theorem plain_leastPathsOf (count : Nat) : plain.leastPathsOf count = count := rfl

/-- The device `1b00`. -/
def across : DeviceId := .ofNat 0x1b00

/-- The device `1b01`. -/
def opposite : DeviceId := .ofNat 0x1b01

end Sample

/-- The devices at the second place pair where both paths lack the record at the first one. -/
theorem paired_reservation_behind_missing_devices :
    ∃ reservation after, Sample.reserving Sample.pairing Sample.shortened.store.tables =
        (some (.ok reservation), after) ∧
      reservation.template = "T" ∧
      reservation.devices.map (·.id) = [Sample.near, Sample.opposite] := by
  have reached : Sample.shortened.Reached (Ordered Sample.pairing) :=
    Sample.serving_reached _ _ _
  obtain ⟨meant, there, some, pairs, level⟩ :
      Sample.shortened.store.tables.resolved (some "T") none = .ok "T" ∧
      Sample.shortened.store.tables.template "T" = .ok Sample.plain ∧
      0 < (Sample.shortened.store.tables.pathsOf "T").size ∧
      Sample.shortened.store.tables.Pairs "A" "T" 1 [Sample.near, Sample.opposite] ∧
      Sample.shortened.store.tables.LevelBefore
        (Sample.shortened.store.tables.pathsOf "T") 1 := by decide +kernel
  exact paired_reservation reached rfl (.unchanged rfl) meant there some
    (Sample.plain_leastPathsOf _).le pairs level

/-- **Where only one path lacks a record, devices at different places are paired.**  The devices
`1a01` and `1b01` are free and at the second place of their paths, and the reservation gives `1a01`
with `1b00`. -/
theorem pairing_passes_over_missing_device :
    Sample.gapped.Reached (Ordered Sample.pairing) ∧
    (∃ found, Sample.gapped.store.tables.template "T" = .ok found ∧
      found.leastPathsOf (Sample.gapped.store.tables.pathsOf "T").size = 2) ∧
    (Sample.gapped.store.tables.pathsOf "T").size = 2 ∧
    Sample.gapped.store.tables.Pairs "A" "T" 1 [Sample.near, Sample.opposite] ∧
    ∃ reservation after, Sample.reserving Sample.pairing Sample.gapped.store.tables =
        (some (.ok reservation), after) ∧
      reservation.devices.map (·.id) = [Sample.near, Sample.across] := by
  refine ⟨Sample.serving_reached _ _ _, ?_⟩
  obtain ⟨there, size, pairs, given⟩ :
      Sample.gapped.store.tables.template "T" = .ok Sample.plain ∧
      (Sample.gapped.store.tables.pathsOf "T").size = 2 ∧
      Sample.gapped.store.tables.Pairs "A" "T" 1 [Sample.near, Sample.opposite] ∧
      (Sample.reserving Sample.pairing Sample.gapped.store.tables).1 = some (.ok
        ⟨"T", [{ Sample.owned with id := Sample.near },
          { Sample.owned with id := Sample.across }]⟩) := by decide +kernel
  obtain ⟨after, run⟩ := Sample.exists_run given
  exact ⟨⟨_, there, (Sample.plain_leastPathsOf _).trans size⟩, size, pairs, _, after, run, rfl⟩

end FibrePool
