import FibrePool.Proofs.Held
import FibrePool.Proofs.Sweep

/-!
# Giving back what was just taken

A reservation writes the assigner and the template into the records of free devices, and a release
clears both.  So the release is only an inverse when a free record has neither to begin with, and
when the devices that it finds are those which the reservation took.  The first is what records are
pinned for (`Tables.Pinned`): nobody is left in the record of a device that is not in use.  The
second holds for an assigner that had no device of the template before, since whatever is in use
under a template is on one of its paths (`Tables.releasable_iff_of_taken`).

Then nothing at all is left of a reservation that is given back, be it granted or not
(`release_undoes_reservation`).
-/

namespace FibrePool

set_option autoImplicit false

theorem DeviceRecord.Free.not_inUse {record : DeviceRecord} (free : record.Free) :
    ¬record.usage.InUse := by
  obtain ⟨unconnected, unreserved, _⟩ := free
  rintro (reserved | connected)
  · cases unreserved.symm.trans reserved
  · exact UInt32.pos_iff_ne_zero.1 connected unconnected

/-- Giving back a device that was free and belonged to nobody restores its record. -/
theorem DeviceRecord.released_takenBy {record : DeviceRecord} (free : record.Free)
    (vacant : record.assigner = "" ∧ record.template = "") (assigner template : String) :
    Tables.released (record.takenBy assigner template) = record := by
  cases record
  obtain ⟨_, rfl, _⟩ := free
  obtain ⟨rfl, rfl⟩ := vacant
  rfl

namespace Tables

variable {tables middle after : Tables} {assigner template : String} {ids : List DeviceId}
  {id : DeviceId} {record : DeviceRecord} {released : List DeviceRecord}

/-! ## The tables of a release -/

/-- No two records are of one device. -/
theorem RecordsFiled.nodup_ids (filed : tables.RecordsFiled) :
    (tables.devices.values.map (·.id)).Nodup := by
  have own : tables.devices.values.map (·.id) = tables.devices.keys := by
    rw [OrderedMap.values, OrderedMap.keys, List.map_map]
    refine List.map_congr_left fun entry listed => ?_
    exact filed entry.1 entry.2 (OrderedMap.mem_entries_iff.1 listed)
  rw [own]
  exact OrderedMap.nodup_keys _

/-- Who has reserved nothing on the paths of a template has nothing to give back under it. -/
theorem Pinned.isReleasable_eq_false (pinned : tables.Pinned) (named : template ≠ "")
    (unheld : Selection.reserved (tables.candidates template) assigner template = [])
    (stored : tables.at? id = some record) : isReleasable assigner template record = false := by
  refine Bool.eq_false_iff.2 fun releasable => ?_
  obtain ⟨reserved, _, own, rfl⟩ := Tables.isReleasable_iff.1 releasable
  -- What is in use under a template is on a path of it, where it would have been found.
  obtain ⟨_, listed⟩ := (pinned.pinned id record stored).offered (.inl reserved) named
  have candidate := isCandidate_of_mem_devicesOf listed stored
  have kept := DeviceRecord.keptBy_iff.1 ⟨reserved, own, rfl⟩
  rw [Selection.isReservedBy_eq_false unheld candidate] at kept
  cases kept

/-- The tables are as before, but for free devices that an assigner without a hold on the template
has taken under it. -/
structure Takes (tables : Tables) (assigner template : String) (ids : List DeviceId)
    (after : Tables) : Prop where
  unheld : Selection.reserved (tables.candidates template) assigner template = []
  free : ∀ id ∈ ids, ∃ record, tables.at? id = some record ∧ record.Free
  taken : ∀ id, after.at? id =
    if id ∈ ids then (tables.at? id).map (·.takenBy assigner template) else tables.at? id
  onlyDevices : ∃ devices, after = { tables with devices }

/-- Nothing has been taken yet. -/
theorem takes_nil
    (unheld : Selection.reserved (tables.candidates template) assigner template = []) :
    tables.Takes assigner template [] tables where
  unheld
  free _ none := by cases none
  taken _ := (if_neg List.not_mem_nil).symm
  onlyDevices := ⟨tables.devices, rfl⟩

/-- **A reservation without a hold takes free devices.** -/
theorem takes_of_reserve {found : Template} {pairing : Bool} {records : List DeviceRecord}
    (filed : tables.RecordsFiled)
    (unheld : Selection.reserved (tables.candidates template) assigner template = [])
    (done : reserve assigner found template pairing tables = .ok (records, after)) :
    tables.Takes assigner template (records.map (·.id)) after := by
  have free := free_of_reserve filed unheld done
  have only := onlyDevices_reserve assigner found template pairing done
  obtain ⟨_, rfl, taken⟩ := reserve_eq_ok filed done
  have same : ((tables.choice assigner template found pairing).map
      (·.takenBy assigner template)).map (·.id) =
        (tables.choice assigner template found pairing).map (·.id) := List.map_map
  rw [← same] at taken
  exact ⟨unheld, List.forall_mem_map.2 free, taken, only⟩

namespace Takes

variable (takes : tables.Takes assigner template ids middle)

include takes

theorem exists_of_mem (listed : id ∈ ids) : ∃ old, tables.at? id = some old ∧ old.Free ∧
    middle.at? id = some (old.takenBy assigner template) := by
  obtain ⟨old, before, free⟩ := takes.free id listed
  refine ⟨old, before, free, ?_⟩
  rw [takes.taken, if_pos listed, before]
  rfl

theorem filed (filed : tables.RecordsFiled) : middle.RecordsFiled := by
  intro id record stored
  rw [takes.taken] at stored
  split at stored
  · obtain ⟨old, before, rfl⟩ := Option.map_eq_some_iff.1 stored
    exact filed id old before
  · exact filed id record stored

variable (pinned : tables.Pinned) (named : template ≠ "")

include pinned named

/-- **What can be given back is just what was taken.** -/
theorem isReleasable_iff (stored : middle.at? id = some record) :
    isReleasable assigner template record = true ↔ id ∈ ids := by
  by_cases listed : id ∈ ids
  · obtain ⟨old, _, free, now⟩ := takes.exists_of_mem listed
    cases stored.symm.trans now
    exact iff_of_true (Tables.isReleasable_iff.2 ⟨rfl, free.1, rfl, rfl⟩) listed
  · rw [takes.taken, if_neg listed] at stored
    rw [pinned.isReleasable_eq_false named takes.unheld stored]
    exact iff_of_false Bool.false_ne_true listed

/-- **Giving it back restores the tables.** -/
theorem eq_of_release (done : release assigner template middle = .ok (released, after)) :
    after = tables := by
  have restored (id : DeviceId) : after.devices.get? id = tables.devices.get? id := by
    refine (release_at? done id).trans ?_
    show _ = tables.at? id
    by_cases listed : id ∈ ids
    · obtain ⟨old, before, free, now⟩ := takes.exists_of_mem listed
      have vacant := (pinned.pinned id old before).vacant free.not_inUse
      rw [before, now, Option.map_some,
        if_pos ((takes.isReleasable_iff pinned named now).2 listed),
        DeviceRecord.released_takenBy free vacant]
    · rw [takes.taken, if_neg listed]
      cases stored : tables.at? id with
      | none => rfl
      | some record =>
        rw [Option.map_some, pinned.isReleasable_eq_false named takes.unheld stored]
        rfl
  obtain ⟨_, rfl⟩ := takes.onlyDevices
  obtain ⟨devices, rfl⟩ := onlyDevices_release assigner template done
  have same : devices = tables.devices := OrderedMap.ext_get? restored
  rw [same]

/-- **The devices that are given back are those that were taken**, each of them once. -/
theorem ids_of_release (done : release assigner template middle = .ok (released, after)) :
    (released.map (·.id)).Nodup ∧ ∀ id, id ∈ released.map (·.id) ↔ id ∈ ids := by
  have filed := takes.filed pinned.sound.filed
  obtain ⟨rfl, _⟩ := modifyWhere_eq_ok done
  rw [List.map_map]
  refine ⟨filed.nodup_ids.sublist (List.filter_sublist.map _), fun id => ?_⟩
  simp only [List.mem_map, List.mem_filter, OrderedMap.mem_values_iff]
  constructor
  · rintro ⟨record, ⟨⟨key, stored⟩, releasable⟩, rfl⟩
    show record.id ∈ ids
    rw [filed key record stored]
    exact (takes.isReleasable_iff pinned named stored).1 releasable
  · intro listed
    obtain ⟨old, before, _, now⟩ := takes.exists_of_mem listed
    exact ⟨_, ⟨⟨id, now⟩, (takes.isReleasable_iff pinned named now).2 listed⟩,
      pinned.sound.filed id old before⟩

end Takes

end Tables

/-! ## Both on the pool -/

open Workflow in
/-- **A release undoes a reservation.**  While nobody overwrites a usage, in every state: when an
assigner has reserved nothing on the paths of a template, a reservation under the template, which
may be named or meant as a default, and a release after it leave the tables exactly as they were.
The devices that are released are those that were reserved, each of them once, and none if the
reservation has failed.  (A release refuses the empty id, which no template should have.) -/
theorem release_undoes_reservation {settings : OperatorSettings}
    {scheduler : Scheduler (Outcome Output)}
    (reached : scheduler.Reached (Volume.DispatchedWithoutOverwriting settings))
    {template : String} (identified : template ≠ "") {assigner : String}
    (unheld :
      Selection.reserved (scheduler.store.tables.candidates template) assigner template = [])
    {named provider : Option String}
    (meant : scheduler.store.tables.resolved named provider = .ok template)
    {pool : PoolSettings} (direct : pool.syncBeforeReserve = false)
    (around around' : Surroundings) :
    (Pool.reserve pool assigner named provider).Ends around { tables := scheduler.store.tables }
      (fun reservation middle =>
        (Pool.unreserve assigner template).Ends around' { tables := middle.tables }
          (fun released after => after.tables = scheduler.store.tables ∧
            (released.map (·.id)).Nodup ∧
            ∀ id, id ∈ released.map (·.id) ↔ id ∈ reservation.devices.map (·.id))
          fun _ _ => False)
      fun _ middle =>
        (Pool.unreserve assigner template).Ends around' { tables := middle.tables }
          (fun released after => after.tables = scheduler.store.tables ∧ released = [])
          fun _ _ => False := by
  have pinned := reached.pinned
  generalize scheduler.store.tables = tables at unheld meant pinned ⊢
  refine (Pool.reserve_ends_of_direct direct assigner named provider).mono ?_ ?_
  · rintro ⟨_, records⟩ middle ⟨meant', found, _, done⟩
    dsimp only at meant' done ⊢
    cases meant.symm.trans meant'
    have takes := Tables.takes_of_reserve pinned.sound.filed unheld done
    refine (Pool.unreserve_ends assigner template).mono ?_ fun _ _ failed => identified failed.1
    rintro released after ⟨_, undone⟩
    exact ⟨takes.eq_of_release pinned identified undone,
      takes.ids_of_release pinned identified undone⟩
  · rintro failure middle ⟨unchanged, _⟩
    rw [unchanged]
    have takes := Tables.takes_nil unheld
    refine (Pool.unreserve_ends assigner template).mono ?_ fun _ _ failed => identified failed.1
    rintro released after ⟨_, undone⟩
    refine ⟨takes.eq_of_release pinned identified undone, ?_⟩
    have none := (takes.ids_of_release pinned identified undone).2
    exact List.map_eq_nil_iff.1 (List.eq_nil_iff_forall_not_mem.2 fun id listed =>
      List.not_mem_nil ((none id).1 listed))

namespace Sample

/-- The only device is on both paths of the only template, and nobody has it. -/
def vacant := [.sync, .createTemplate { devices := "1a00;1a00" }].foldl afterwards
  { idle with collaborators := { guests := ["A"], listing := .ok (listingOf [("1A00", "Free")]) } }

end Sample

/-- A device that is reserved for both paths is released once. -/
theorem release_undoes_reservation_of_shared_device :
    ∃ reservation middle, Sample.reserving Sample.settings Sample.vacant.store.tables =
        (some (.ok reservation), middle) ∧
      reservation.devices = [Sample.owned, Sample.owned] ∧
      (Pool.unreserve "A" "T").Ends Sample.refusing { tables := middle.tables }
        (fun released after => after.tables = Sample.vacant.store.tables ∧
          (released.map (·.id)).Nodup ∧
          ∀ id, id ∈ released.map (·.id) ↔ id ∈ [Sample.device, Sample.device])
        fun _ _ => False := by
  obtain ⟨given, unheld, there⟩ :
      (Sample.reserving Sample.settings Sample.vacant.store.tables).1 =
        some (.ok ⟨"T", [Sample.owned, Sample.owned]⟩) ∧
      Selection.reserved (Sample.vacant.store.tables.candidates "T") "A" "T" = [] ∧
      Sample.vacant.store.tables.templates.get? "T" =
        some ⟨"T", "", "", false, none, default⟩ := by decide +kernel
  obtain ⟨middle, run⟩ := Sample.exists_run given
  have reached : Sample.vacant.Reached (Volume.DispatchedWithoutOverwriting Sample.settings) :=
    Sample.reached_afterwards (.idle rfl rfl rfl) (by simp)
  have meant := Tables.resolved_of_named (by decide) there none
  exact ⟨_, middle, run, rfl, (release_undoes_reservation reached (by decide) unheld meant rfl
    Sample.refusing Sample.refusing).of_ok run⟩

end FibrePool
