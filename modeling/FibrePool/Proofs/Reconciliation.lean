import FibrePool.Proofs.RecordSound
import FibrePool.Proofs.TemplateTables
import Mathlib.Data.Finset.Card

/-!
# The law of reconciliation

A reconciliation takes over a listing of the hypervisor, in which a device may stand several times.
Afterwards exactly the listed devices are stored, and each record says what the last entry for its
device says (`Tables.upsertAll_at?`).  What a record says about its use is nobody's business but the
pool's: it stays, and so does the NPIV port name of a device with connections.

`Tables.Reconciled` is the law in full, with the counts of the outcome and the records that it
reports as removed.  It holds in every state (`Tables.reconciliation_law`), and the same listing
taken over once more finds nothing to change.
-/

namespace FibrePool

set_option autoImplicit false

/-! ## Listings -/

namespace LiveDevice

/-- The last entry of a listing for a device. -/
def lastOf (id : DeviceId) (devices : List LiveDevice) : Option LiveDevice :=
  (devices.filter fun device => device.id = id).getLast?

theorem lastOf_cons_of_ne {id : DeviceId} {device : LiveDevice} (different : device.id ≠ id)
    (rest : List LiveDevice) : lastOf id (device :: rest) = lastOf id rest := by
  rw [lastOf, List.filter_cons_of_neg (by simpa using different), lastOf]

theorem lastOf_cons_self (device : LiveDevice) (rest : List LiveDevice) :
    lastOf device.id (device :: rest) = some ((lastOf device.id rest).getD device) := by
  rw [lastOf, List.filter_cons_of_pos (by simp), List.getLast?_cons, lastOf]

theorem id_of_lastOf {id : DeviceId} {devices : List LiveDevice} {device : LiveDevice}
    (last : lastOf id devices = some device) : device.id = id := by
  have member := List.mem_of_getLast? last
  simpa using (List.mem_filter.1 member).2

/-- The devices of a listing, each once. -/
def listed (devices : List LiveDevice) : Finset DeviceId := (devices.map (·.id)).toFinset

theorem mem_listed {id : DeviceId} {devices : List LiveDevice} :
    id ∈ listed devices ↔ ∃ device ∈ devices, device.id = id := by
  simp [listed]

theorem lastOf_eq_none_iff {id : DeviceId} {devices : List LiveDevice} :
    lastOf id devices = none ↔ id ∉ listed devices := by
  simp [lastOf, mem_listed]

end LiveDevice

namespace DeviceRecord

/-- What is stored for a listed device, given what was stored before. -/
def merged (stored : Option DeviceRecord) (device : LiveDevice) : DeviceRecord :=
  match stored with
  | some record => record.refresh device
  | none => .ofLive device

/-- An entry supersedes the earlier ones of its device: what they leave to it decides nothing. -/
theorem merged_merged {first second : LiveDevice} (same : first.id = second.id)
    (stored : Option DeviceRecord) :
    merged (some (merged stored first)) second = merged stored second := by
  cases stored with
  | none => simp [merged, refresh, ofLive, same]
  | some record => by_cases idle : record.connections = 0 <;> simp [merged, refresh, idle]

end DeviceRecord

/-! ## Taking over a listing -/

namespace Tables

open LiveDevice DeviceRecord

theorem upsertOne_snd (tables : Tables) (device : LiveDevice) :
    (tables.upsertOne device).2 =
      tables.putRecord device.id (merged (tables.at? device.id) device) := by
  unfold upsertOne merged
  split <;> rename_i stored <;> rw [at?, stored]

theorem upsertAll_cons (tables : Tables) (device : LiveDevice) (rest : List LiveDevice) :
    tables.upsertAll (device :: rest) =
      (let counts := ((tables.upsertOne device).2.upsertAll rest).1
        if (tables.upsertOne device).1 = true then (counts.1 + 1, counts.2)
        else (counts.1, counts.2 + 1),
        ((tables.upsertOne device).2.upsertAll rest).2) :=
  rfl

/-- **Every listed device is merged with its last entry, and the others keep their records.** -/
theorem upsertAll_at? (tables : Tables) (devices : List LiveDevice) (id : DeviceId) :
    (tables.upsertAll devices).2.at? id =
      match lastOf id devices with
      | some device => some (merged (tables.at? id) device)
      | none => tables.at? id := by
  induction devices generalizing tables with
  | nil => rfl
  | cons device rest ih =>
    rw [upsertAll_cons, ih, upsertOne_snd]
    by_cases same : device.id = id
    · subst same
      rw [lastOf_cons_self, putRecord_at?_self]
      cases last : lastOf device.id rest with
      | none => rfl
      | some later =>
        exact congrArg some (merged_merged (id_of_lastOf last).symm _)
    · rw [lastOf_cons_of_ne same, putRecord_at?_of_ne _ (Ne.symm same)]

/-- The listed devices without a record. -/
def newIds (tables : Tables) (devices : List LiveDevice) : Finset DeviceId :=
  (listed devices).filter fun id => tables.at? id = none

theorem upsertOne_fst (tables : Tables) (device : LiveDevice) :
    (tables.upsertOne device).1 = (tables.at? device.id).isNone := by
  unfold upsertOne
  split <;> rename_i stored <;> rw [at?, stored] <;> rfl

theorem newIds_upsertOne (tables : Tables) (device : LiveDevice) (rest : List LiveDevice) :
    (tables.upsertOne device).2.newIds rest = (tables.newIds rest).erase device.id := by
  ext id
  rw [upsertOne_snd, Finset.mem_erase, newIds, newIds, Finset.mem_filter, Finset.mem_filter]
  by_cases same : id = device.id
  · subst same
    simp [putRecord_at?_self]
  · simp [putRecord_at?_of_ne _ same, same]

/-- An entry is counted as new exactly when it takes its device off the new ones. -/
theorem card_newIds_cons (tables : Tables) (device : LiveDevice) (rest : List LiveDevice) :
    (tables.newIds (device :: rest)).card =
      ((tables.upsertOne device).2.newIds rest).card +
        if (tables.upsertOne device).1 = true then 1 else 0 := by
  have listing : tables.newIds (device :: rest) =
      (insert device.id (listed rest)).filter fun id => tables.at? id = none := by
    rw [newIds, listed, List.map_cons, List.toFinset_cons, listed]
  rw [listing, newIds_upsertOne, upsertOne_fst, Finset.filter_insert]
  change (if _ then insert device.id (tables.newIds rest) else tables.newIds rest).card = _
  cases stored : tables.at? device.id with
  | none =>
    have here : device.id ∈ insert device.id (tables.newIds rest) := Finset.mem_insert_self _ _
    rw [if_pos rfl, ← Finset.card_erase_add_one here, Finset.erase_insert_eq_erase]
    rfl
  | some record =>
    have absent : device.id ∉ tables.newIds rest := by
      simp [newIds, stored]
    rw [if_neg (by simp), Finset.erase_eq_of_notMem absent]
    rfl

/-- **Each new device is counted once as new, and every other entry as known.** -/
theorem upsertAll_counts (tables : Tables) (devices : List LiveDevice) :
    (tables.upsertAll devices).1.1 = (tables.newIds devices).card ∧
      (tables.upsertAll devices).1.1 + (tables.upsertAll devices).1.2 = devices.length := by
  induction devices generalizing tables with
  | nil => exact ⟨rfl, rfl⟩
  | cons device rest ih =>
    obtain ⟨fresh, total⟩ := ih (tables.upsertOne device).2
    rw [card_newIds_cons, upsertAll_cons, List.length_cons]
    cases (tables.upsertOne device).1 with
    | true =>
      simp only [if_true]
      omega
    | false =>
      simp only [Bool.false_eq_true, if_false]
      omega

/-! ## The law -/

/-- What a reconciliation with a listing makes of the tables, and what it reports. -/
structure Reconciled (devices : List LiveDevice) (before : Tables) (outcome : ReconcileOutcome)
    (after : Tables) : Prop where
  /-- Exactly the listed devices are stored. -/
  stored_iff : ∀ id, (∃ record, after.at? id = some record) ↔ ∃ device ∈ devices, device.id = id
  /-- A known device keeps its usage, and its NPIV port name too unless it has no connections. -/
  known : ∀ id record device, before.at? id = some record → lastOf id devices = some device →
    after.at? id = some { record with
      physicalName := device.physicalName
      channelPath := device.channelPath
      state := device.status
      owner := device.owner
      npivName := if record.connections = 0 then device.npivName else record.npivName }
  /-- A new device is used by nobody. -/
  fresh : ∀ id device, before.at? id = none → lastOf id devices = some device →
    after.at? id = some {
      id, assigner := "", connections := 0, reserved := false, template := ""
      npivName := device.npivName
      physicalName := device.physicalName
      channelPath := device.channelPath
      state := device.status
      owner := device.owner }
  templates_eq : after.templates = before.templates
  paths_eq : after.paths = before.paths
  providers_eq : after.providers = before.providers
  inserted_eq : outcome.inserted = (before.newIds devices).card
  updated_eq : outcome.updated = devices.length - outcome.inserted
  inserted_le : outcome.inserted ≤ devices.length
  removed_ascending : outcome.removed.Pairwise fun first second =>
    compare first.id second.id = .lt
  mem_removed_iff : ∀ record, record ∈ outcome.removed ↔
    ∃ id, before.at? id = some record ∧ ∀ device ∈ devices, device.id ≠ id

/-- The device is not listed. -/
def isUnlisted (devices : List LiveDevice) (id : DeviceId) : Bool :=
  !devices.any fun device => device.id == id

theorem isUnlisted_iff {devices : List LiveDevice} {id : DeviceId} :
    isUnlisted devices id = true ↔ id ∉ listed devices := by
  simp [isUnlisted, mem_listed]

/-- A reconciliation always succeeds. -/
theorem reconcile_eq (devices : List LiveDevice) (tables : Tables) :
    reconcile devices tables = .ok
      ({ inserted := (tables.upsertAll devices).1.1
         updated := (tables.upsertAll devices).1.2
         removed := (tables.devices.filter fun id _ => isUnlisted devices id).values },
        { (tables.upsertAll devices).2 with
          devices := (tables.upsertAll devices).2.devices.filter fun id _ =>
            !isUnlisted devices id }) :=
  rfl

/-- **Afterwards a listed device is merged with its last entry, and the others have no record.** -/
theorem reconciled_at? {devices : List LiveDevice} {tables after : Tables}
    {outcome : ReconcileOutcome} (done : reconcile devices tables = .ok (outcome, after))
    (id : DeviceId) :
    after.at? id = (lastOf id devices).map (merged (tables.at? id)) := by
  rw [reconcile_eq] at done
  cases done
  rw [at?, OrderedMap.get?_filter]
  have taken := upsertAll_at? tables devices id
  rw [at?] at taken
  rw [taken]
  cases last : lastOf id devices with
  | none =>
    have absent := isUnlisted_iff.2 (lastOf_eq_none_iff.1 last)
    cases tables.at? id <;> simp [Option.filter, absent]
  | some device =>
    have present : isUnlisted devices id = false := by
      rw [Bool.eq_false_iff, Ne, isUnlisted_iff, ← lastOf_eq_none_iff, last]
      simp
    simp [Option.filter, present]

theorem ascending_of_filed {devices : OrderedMap DeviceId DeviceRecord}
    (filed : ∀ id record, devices.get? id = some record → record.id = id) :
    devices.values.Pairwise fun first second => compare first.id second.id = .lt := by
  have own : ∀ entry ∈ devices.entries, entry.2.id = entry.1 := by
    rintro ⟨id, record⟩ listed
    exact filed id record (OrderedMap.mem_entries_iff.1 listed)
  refine List.pairwise_map.2 (devices.ascending.imp_of_mem ?_)
  intro first second here there less
  rwa [own first here, own second there]

/-- **A reconciliation makes of the tables what the law says.** -/
theorem reconciled {devices : List LiveDevice} {tables after : Tables} {outcome : ReconcileOutcome}
    (filed : ∀ id record, tables.at? id = some record → record.id = id)
    (done : reconcile devices tables = .ok (outcome, after)) :
    Reconciled devices tables outcome after := by
  have looked := reconciled_at? done
  obtain ⟨counted, total⟩ := upsertAll_counts tables devices
  obtain ⟨records, framed⟩ := onlyDevices_reconcile devices done
  have outcome_eq : outcome = _ := (Prod.mk.inj (Except.ok.inj (done.symm.trans
    (reconcile_eq devices tables)))).1
  subst outcome_eq
  have removed_iff (id : DeviceId) (record : DeviceRecord) :
      (tables.devices.filter fun id _ => isUnlisted devices id).get? id = some record ↔
        tables.at? id = some record ∧ id ∉ listed devices := by
    rw [OrderedMap.get?_filter, Option.filter_eq_some_iff, isUnlisted_iff]
  constructor
  case stored_iff =>
    intro id
    rw [looked id, ← mem_listed, ← not_iff_not, ← lastOf_eq_none_iff]
    cases lastOf id devices <;> simp
  case known =>
    intro id record device stored last
    rw [looked id, stored, last]
    rfl
  case fresh =>
    intro id device absent last
    rw [looked id, absent, last, ← id_of_lastOf last]
    rfl
  case templates_eq => rw [framed]
  case paths_eq => rw [framed]
  case providers_eq => rw [framed]
  case inserted_eq => exact counted
  case updated_eq =>
    dsimp only
    omega
  case inserted_le =>
    dsimp only
    omega
  case removed_ascending =>
    apply ascending_of_filed
    intro id record stored
    exact filed id record ((removed_iff id record).1 stored).1
  case mem_removed_iff =>
    intro record
    rw [OrderedMap.mem_values_iff]
    apply exists_congr
    intro id
    rw [removed_iff, mem_listed]
    simp only [not_exists, not_and]

/-- The same listing once more: every record has taken over its last entry already. -/
theorem reconcile_again {devices : List LiveDevice} {tables after : Tables}
    {outcome : ReconcileOutcome} (done : reconcile devices tables = .ok (outcome, after)) :
    reconcile devices after =
      .ok ({ inserted := 0, updated := devices.length, removed := [] }, after) := by
  have looked := reconciled_at? done
  have nothingNew : after.newIds devices = ∅ := by
    apply Finset.filter_eq_empty_iff.2
    intro id member absent
    rw [looked id, Option.map_eq_none_iff, lastOf_eq_none_iff] at absent
    exact absent member
  have nothingGone : (after.devices.filter fun id _ => isUnlisted devices id) = ∅ := by
    refine OrderedMap.ext_get? fun id => ?_
    rw [OrderedMap.get?_filter, OrderedMap.get?_empty, Option.filter_eq_none_iff]
    intro record stored unlisted
    rw [isUnlisted_iff, ← lastOf_eq_none_iff] at unlisted
    rw [← at?, looked id, unlisted] at stored
    cases stored
  obtain ⟨counted, total⟩ := upsertAll_counts after devices
  rw [nothingNew, Finset.card_empty] at counted
  have again := reconcile_eq devices after
  rw [nothingGone, counted, show (after.upsertAll devices).1.2 = devices.length by omega] at again
  obtain ⟨records, framed⟩ := onlyDevices_reconcile devices again
  rw [framed] at again
  have same : records = after.devices := by
    refine OrderedMap.ext_get? fun id => ?_
    have merging := reconciled_at? again id
    rw [looked id] at merging
    refine Eq.trans merging (Eq.trans ?_ (looked id).symm)
    cases lastOf id devices with
    | none => rfl
    | some device => exact congrArg some (merged_merged rfl _)
  rw [again, same]
  rfl

/-- **The law of reconciliation.**  In every state of the operator, between the steps of actions
under way too, a reconciliation succeeds with any listing, whether or not it names devices several
times; it leaves what `Reconciled` says, and once more it changes nothing. -/
theorem reconciliation_law {settings : OperatorSettings} {scheduler : Scheduler (Outcome Output)}
    (reached : scheduler.Reached (Volume.Dispatched settings)) (devices : List LiveDevice) :
    ∃ outcome after, reconcile devices scheduler.store.tables = .ok (outcome, after) ∧
      Reconciled devices scheduler.store.tables outcome after ∧
      reconcile devices after =
        .ok ({ inserted := 0, updated := devices.length, removed := [] }, after) := by
  have done := reconcile_eq devices scheduler.store.tables
  have filed : ∀ id record, scheduler.store.tables.at? id = some record → record.id = id :=
    fun id record stored => (reached.recordsSound id record stored).own_id
  exact ⟨_, _, done, reconciled filed done, reconcile_again done⟩

/-- A listing with two entries for the device `1a00`, and one for a device without a record. -/
def sampleListing : List LiveDevice :=
  let entry (id : DeviceId) (npivName : String) (status : DeviceStatus) : LiveDevice :=
    { id, npivName, physicalName := "50", channelPath := "27", status, owner := noneWord }
  [entry Sample.device "c0" .active, entry ⟨⟨0x1b00, by decide⟩⟩ "c1" .free,
    entry Sample.device "c2" .offline]

/-- Between the two connections of an attach the device `1a00` keeps its NPIV port name. -/
theorem reconciliation_law_while_attaching :
    ∃ outcome after,
      reconcile sampleListing (Sample.attaching 4).store.tables = .ok (outcome, after) ∧
      Reconciled sampleListing (Sample.attaching 4).store.tables outcome after ∧
      reconcile sampleListing after =
        .ok ({ inserted := 0, updated := 3, removed := [] }, after) ∧
      outcome.inserted = 1 ∧ outcome.updated = 2 ∧
      (after.at? Sample.device).map (fun record => (record.npivName, record.state)) =
        some (noneWord, .offline) := by
  obtain ⟨outcome, after, done, law, again⟩ :=
    reconciliation_law (Sample.attaching_reached 4) sampleListing
  have one : outcome.inserted = 1 := law.inserted_eq.trans (by decide +kernel)
  have two : outcome.updated = 2 := law.updated_eq.trans (by rw [one]; rfl)
  refine ⟨outcome, after, done, law, again, one, two, ?_⟩
  rw [reconciled_at? done]
  decide +kernel

end Tables

end FibrePool
