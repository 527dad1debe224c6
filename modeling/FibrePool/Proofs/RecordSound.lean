import FibrePool.Proofs.Conduct
import FibrePool.Proofs.RecordStep
import FibrePool.Proofs.Schedule

/-!
# Sound records

A stored record is filed under its own device, connections come with a reservation, and a
reservation with an assigner.  Not every transaction checks this: a reservation relies on its caller
for a name, a reconciliation on what it builds, and a release on the connections being gone.

A statement about the record of a device is kept by everything that happens in the pool when every
step of that record keeps it (`upkeepKeeps_of_steps`, `usageChangesKeep_of_steps`), so soundness is
looked at step by step.
-/

namespace FibrePool

set_option autoImplicit false

/-! ## Statements about one device -/

/-- An expected listing can be read and does not name the device. -/
def ListingLacks (expected : Observation → Prop) (id : DeviceId) : Prop :=
  ∃ target text devices, expected (.called (.listDevices target) (.ok text)) ∧
    Listing.parse text = .ok devices ∧ ∀ device ∈ devices, device.id ≠ id

/-- The devices of a listing that is seen and can be read. -/
def Observation.listed? : Observation → Option (List LiveDevice)
  | .called (.listDevices _) (.ok text) => (Listing.parse text).toOption
  | _ => none

/-- Where a listing of the hypervisor is seen and can be read, it names the device. -/
def Observation.Lists (id : DeviceId) (observation : Observation) : Prop :=
  ∀ devices ∈ observation.listed?, ∃ device ∈ devices, device.id = id

instance (id : DeviceId) : DecidablePred (Observation.Lists id) := fun observation =>
  inferInstanceAs (Decidable (∀ devices ∈ observation.listed?, ∃ device ∈ devices, device.id = id))

theorem not_listingLacks {id : DeviceId} : ¬ ListingLacks (Observation.Lists id) id := by
  rintro ⟨target, text, devices, names, parsed, absent⟩
  have read : devices ∈ (Listing.parse text).toOption := by
    rw [parsed]
    rfl
  obtain ⟨device, member, found⟩ := names devices read
  exact absent device member found

/-- The reasons for which a record changes without a change of usage.  A record goes only when an
expected listing lacks its device, and nobody without a name reserves. -/
def Touch.IsUpkeep (expected : Observation → Prop) (id : DeviceId) : Touch → Prop
  | .listing => True
  | .removal => ListingLacks expected id
  | .naming => True
  | .reservation assigner _ => assigner ≠ ""
  | .release _ _ => True
  | _ => False

/-- The reasons for which the usage of one device changes. -/
def Touch.IsUsageChange : Touch → Prop
  | .connection assigner => assigner ≠ ""
  | .restoration _ => True
  | .disconnection _ => True
  | .overwriting _ => True
  | _ => False

section OneDevice

variable {expected : Observation → Prop} {id : DeviceId} (holds : Option DeviceRecord → Prop)

/-- A transaction keeps what the steps of the record keep. -/
theorem Transaction.keeps_of_altered {α : Type} {change : Transaction α} {touches : Touch → Prop}
    (altered : ∀ ⦃tables : Tables⦄ ⦃result : α⦄ ⦃after : Tables⦄,
      change tables = .ok (result, after) → Altered touches id (tables.at? id) (after.at? id))
    (steps : ∀ touch before after, touches touch → RecordStep id touch before after →
      holds before → holds after) : change.Keeps fun tables => holds (tables.at? id) :=
  fun _ _ _ start done => (altered done).keeps holds steps start

theorem upkeepKeeps_of_steps (steps : ∀ touch before after, touch.IsUpkeep expected id →
      RecordStep id touch before after → holds before → holds after) :
    UpkeepKeeps expected fun tables => holds (tables.at? id) where
  reconciles target text devices sound parsed := by
    refine Transaction.keeps_of_altered holds
      (fun _ _ _ done => Tables.altered_reconcile done id) ?_
    rintro touch before after (rfl | ⟨rfl, absent⟩) step
    · exact steps .listing _ _ trivial step
    · exact steps .removal _ _ ⟨target, text, devices, sound, parsed, absent⟩ step
  reserves assigner found template pairing present := by
    refine Transaction.keeps_of_altered holds
      (fun _ _ _ done => Tables.altered_reserve done id) ?_
    rintro touch before after rfl step
    exact steps (.reservation assigner template) _ _ present step
  releases assigner template := by
    refine Transaction.keeps_of_altered holds
      (fun _ _ _ done => Tables.altered_release done id) ?_
    rintro touch before after rfl step
    exact steps (.release assigner template) _ _ trivial step
  creates template paths providers _ _ _ := by
    refine Transaction.keeps_of_altered holds
      (fun _ _ _ done => Tables.altered_createTemplate done id) ?_
    rintro touch before after rfl step
    exact steps .naming _ _ trivial step
  edits template changes _ := by
    refine Transaction.keeps_of_altered holds
      (fun _ _ _ done => Tables.altered_editTemplate done id) ?_
    rintro touch before after rfl step
    exact steps .naming _ _ trivial step
  deletes template := by
    intro tables _ after start done
    exact Tables.at?_of_deleteTemplate done id ▸ start

theorem usageChangesKeep_of_steps (steps : ∀ touch before after, touch.IsUsageChange →
      RecordStep id touch before after → holds before → holds after) :
    UsageChangesKeep fun tables => holds (tables.at? id) where
  connects assigner device present := by
    refine Transaction.keeps_of_altered holds
      (fun _ _ _ done => Tables.altered_addConnection done id) ?_
    rintro touch before after ⟨_, rfl⟩ step
    exact steps (.connection assigner) _ _ present step
  restores device change := by
    refine Transaction.keeps_of_altered holds
      (fun _ _ _ done => Tables.altered_restoreUsage done id) ?_
    rintro touch before after ⟨_, rfl⟩ step
    exact steps (.restoration change) _ _ trivial step
  disconnects device assigner := by
    refine Transaction.keeps_of_altered holds
      (fun _ _ _ done => Tables.altered_removeConnection done id) ?_
    rintro touch before after ⟨_, rfl⟩ step
    exact steps (.disconnection assigner) _ _ trivial step
  overwrites device usage := by
    refine Transaction.keeps_of_altered holds
      (fun _ _ _ done => Tables.altered_setUsage done id) ?_
    rintro touch before after ⟨_, rfl⟩ step
    exact steps (.overwriting usage) _ _ trivial step

end OneDevice

/-! ## Soundness -/

/-- What is true of every record that is stored for a device. -/
structure DeviceRecord.SoundFor (id : DeviceId) (record : DeviceRecord) : Prop where
  own_id : record.id = id
  reserved_of_connected : 0 < record.connections → record.reserved = true
  assigner_of_reserved : record.reserved = true → record.assigner ≠ ""

/-- Whether the device is reserved or connected. -/
def Usage.InUse (usage : Usage) : Prop := usage.reserved = true ∨ 0 < usage.connections

theorem DeviceRecord.isInUse_iff {record : DeviceRecord} :
    record.isInUse = true ↔ record.usage.InUse := by
  simp [DeviceRecord.isInUse, Usage.InUse, DeviceRecord.usage]

theorem Usage.check_eq_ok {usage : Usage} :
    usage.check = .ok () ↔ (0 < usage.connections → usage.reserved = true) ∧
      (usage.reserved = true → usage.assigner ≠ "") := by
  unfold Usage.check
  split
  · next violated =>
    simp only [reduceCtorEq, false_iff]
    rintro ⟨reserved, assigned⟩
    obtain ⟨connected, unreserved | unassigned⟩ := violated
    · exact absurd ((reserved connected).symm.trans unreserved) (by decide)
    · exact assigned (reserved connected) unassigned
  · next kept =>
    have reserved : 0 < usage.connections → usage.reserved = true := fun connected =>
      Bool.of_not_eq_false fun unreserved => kept ⟨connected, .inl unreserved⟩
    split
    · next violated =>
      simp only [reduceCtorEq, false_iff]
      exact fun sound => sound.2 violated.1 violated.2
    · next assigned =>
      exact iff_of_true rfl ⟨reserved, fun taken unassigned => assigned ⟨taken, unassigned⟩⟩

namespace DeviceRecord

variable {id : DeviceId} {record : DeviceRecord}

theorem soundFor_of_check (own_id : record.id = id) (sound : record.usage.check = .ok ()) :
    record.SoundFor id :=
  have ⟨reserved, assigned⟩ := Usage.check_eq_ok.1 sound
  ⟨own_id, reserved, assigned⟩

theorem soundFor_of_idle (own_id : record.id = id) (idle : ¬ record.usage.InUse) :
    record.SoundFor id :=
  ⟨own_id, fun connected => absurd (.inr connected) idle, fun taken => absurd (.inl taken) idle⟩

/-! New records are idle, and so are released ones. -/

theorem not_inUse_ofLive (device : LiveDevice) : ¬ (ofLive device).usage.InUse := by
  rintro (reserved | connected)
  · cases reserved
  · exact absurd connected (UInt32.lt_irrefl 0)

theorem not_inUse_placeholder (id : DeviceId) : ¬ (placeholder id).usage.InUse := by
  rintro (reserved | connected)
  · cases reserved
  · exact absurd connected (UInt32.lt_irrefl 0)

theorem not_inUse_released {assigner template : String}
    (releasable : Tables.isReleasable assigner template record = true) :
    ¬ (Tables.released record).usage.InUse := by
  obtain ⟨_, unconnected, _⟩ := Tables.isReleasable_iff.1 releasable
  rintro (reserved | connected)
  · cases reserved
  · exact UInt32.pos_iff_ne_zero.1 connected unconnected

theorem SoundFor.check (sound : record.SoundFor id) : record.usage.check = .ok () :=
  Usage.check_eq_ok.2 ⟨sound.reserved_of_connected, sound.assigner_of_reserved⟩

end DeviceRecord

/-- **No step of a record changes the device it is of.** -/
theorem RecordStep.own_id {id : DeviceId} {touch : Touch} {before after : Option DeviceRecord}
    (step : RecordStep id touch before after)
    (filed : ∀ record, before = some record → record.id = id) :
    ∀ record, after = some record → record.id = id := by
  intro record stored
  cases step with
  | listed same =>
    cases stored
    exact same
  | removed => cases stored
  | named =>
    cases stored
    rfl
  | connected done checked =>
    cases stored
    have own := filed _ rfl
    obtain ⟨_, rfl⟩ := Tables.connected_eq_ok.1 done
    exact own
  | restored done checked =>
    cases stored
    have own := filed _ rfl
    obtain ⟨_, rfl⟩ := Tables.restored_eq_ok.1 done
    exact own
  | disconnected done checked =>
    cases stored
    have own := filed _ rfl
    obtain ⟨_, _, rfl⟩ := Tables.disconnected_eq_ok.1 done
    exact own
  | _ =>
    cases stored
    have own := filed _ rfl
    exact own

/-- Whether somebody reserves, it is somebody with a name. -/
def Touch.Assigned : Touch → Prop
  | .reservation assigner _ => assigner ≠ ""
  | _ => True

/-- **Every step of a record leads from a sound record to a sound one.** -/
theorem RecordStep.soundFor {id : DeviceId} {touch : Touch} {before after : Option DeviceRecord}
    (step : RecordStep id touch before after) (assigned : touch.Assigned)
    (sound : ∀ record, before = some record → record.SoundFor id) :
    ∀ record, after = some record → record.SoundFor id := by
  intro record stored
  cases step with
  | listed same =>
    cases stored
    exact DeviceRecord.soundFor_of_idle same (DeviceRecord.not_inUse_ofLive _)
  | refreshed same =>
    cases stored
    have old := sound _ rfl
    exact ⟨old.own_id, old.reserved_of_connected, old.assigner_of_reserved⟩
  | removed => cases stored
  | named =>
    cases stored
    exact DeviceRecord.soundFor_of_idle rfl (DeviceRecord.not_inUse_placeholder id)
  | reserved available =>
    cases stored
    exact ⟨(sound _ rfl).own_id, fun _ => rfl, fun _ => assigned⟩
  | @released old _ _ releasable =>
    cases stored
    exact DeviceRecord.soundFor_of_idle (sound _ rfl).own_id
      (DeviceRecord.not_inUse_released releasable)
  | connected done checked =>
    cases stored
    obtain ⟨_, rfl⟩ := Tables.connected_eq_ok.1 done
    exact DeviceRecord.soundFor_of_check (sound _ rfl).own_id checked
  | restored done checked =>
    cases stored
    obtain ⟨_, rfl⟩ := Tables.restored_eq_ok.1 done
    exact DeviceRecord.soundFor_of_check (sound _ rfl).own_id checked
  | disconnected done checked =>
    cases stored
    obtain ⟨_, _, rfl⟩ := Tables.disconnected_eq_ok.1 done
    exact DeviceRecord.soundFor_of_check (sound _ rfl).own_id checked
  | overwritten checked =>
    cases stored
    exact DeviceRecord.soundFor_of_check (sound _ rfl).own_id checked

namespace Tables

/-- Every stored record is sound for the device it is filed under. -/
def RecordsSound (tables : Tables) : Prop :=
  ∀ id record, tables.at? id = some record → record.SoundFor id

/-- Every record is filed under its own device. -/
def RecordsFiled (tables : Tables) : Prop :=
  ∀ id record, tables.at? id = some record → record.id = id

theorem RecordsSound.filed {tables : Tables} (sound : tables.RecordsSound) : tables.RecordsFiled :=
  fun id record stored => (sound id record stored).own_id

theorem recordsSound_empty : RecordsSound ∅ := by
  intro id record stored
  cases stored

end Tables

theorem recordsSound_upkeep (expected : Observation → Prop) :
    UpkeepKeeps expected Tables.RecordsSound := by
  refine UpkeepKeeps.forall fun id => upkeepKeeps_of_steps _
    fun touch before after upkeep step => step.soundFor ?_
  cases touch with
  | reservation assigner template => exact upkeep
  | _ => trivial

theorem recordsSound_usageChanges : UsageChangesKeep Tables.RecordsSound := by
  refine UsageChangesKeep.forall fun id => usageChangesKeep_of_steps _
    fun touch before after change step => step.soundFor ?_
  cases touch with
  | reservation assigner template => cases change
  | _ => trivial

/-! ## Every state -/

theorem Scheduler.Reached.recordsSound {settings : OperatorSettings}
    {scheduler : Scheduler (Outcome Output)}
    (reached : scheduler.Reached (Volume.Dispatched settings)) :
    scheduler.store.tables.RecordsSound :=
  reached.dispatched_tables Tables.recordsSound_empty (recordsSound_upkeep _)
    recordsSound_usageChanges

/-- **Whatever the operator has done and is in the middle of, every stored record is filed under its
own device, connections imply a reservation and an assigner, and so does a reservation.** -/
theorem stored_records_sound {settings : OperatorSettings} {scheduler : Scheduler (Outcome Output)}
    (reached : scheduler.Reached (Volume.Dispatched settings)) {id : DeviceId}
    {record : DeviceRecord} (stored : scheduler.store.tables.devices.get? id = some record) :
    record.id = id ∧
      (0 < record.connections → record.reserved = true ∧ record.assigner ≠ "") ∧
      (record.reserved = true → record.assigner ≠ "") := by
  have sound := reached.recordsSound id record stored
  refine ⟨sound.own_id, fun connected => ?_, sound.assigner_of_reserved⟩
  have reserved := sound.reserved_of_connected connected
  exact ⟨reserved, sound.assigner_of_reserved reserved⟩

/-- Between the two connections of an attach the record is sound. -/
theorem stored_record_sound_while_attaching :
    ∃ record, (Sample.attaching 4).store.tables.devices.get? Sample.device = some record ∧
      record.connections = 1 ∧ record.id = Sample.device ∧
      (0 < record.connections → record.reserved = true ∧ record.assigner ≠ "") ∧
      (record.reserved = true → record.assigner ≠ "") := by
  let found := (Sample.attaching 4).store.tables.devices.get? Sample.device
  have stored : found = some (found.getD default) := by decide +kernel
  have one : (found.getD default).connections = 1 := by decide +kernel
  exact ⟨_, stored, one, stored_records_sound (Sample.attaching_reached 4) stored⟩

end FibrePool
