import FibrePool.Proofs.Exclusive

/-!
# Undisturbed rollbacks

Taking a connection back puts the earlier usage of the device back, but only when the device still
has the usage that the connection gave it.  Nobody but the assigner of that connection can change
this usage: the device is held by that assigner, and every transaction that somebody else asks for
refuses to touch it, passes it over, or keeps its usage (`RecordStep.hasUsage`).

So a rollback succeeds however many requests of others come in between, unless the usage itself is
overwritten or the hypervisor has stopped listing the device.
-/

namespace FibrePool

set_option autoImplicit false

open Workflow

/-! ## Usages that nobody else changes -/

/-- There is a record, and it has the usage. -/
def HasUsage (usage : Usage) (stored : Option DeviceRecord) : Prop :=
  ∃ record, stored = some record ∧ record.usage = usage

/-- The change is a connection of the assigner, made in some state of the pool. -/
def UsageChange.MadeBy (assigner : String) (change : UsageChange) : Prop :=
  ∃ device before after, Tables.addConnection device assigner before = .ok (change, after)

theorem UsageChange.MadeBy.current_assigner {assigner : String} {change : UsageChange}
    (made : change.MadeBy assigner) : change.current.assigner = assigner := by
  obtain ⟨device, before, after, done⟩ := made
  obtain ⟨record, changed, _, connected, _, rfl, _⟩ := Tables.addConnection_eq_ok.1 done
  obtain ⟨_, rfl⟩ := Tables.connected_eq_ok.1 connected
  rfl

/-- The record neither goes nor changes for the sake of the owner, and nobody overwrites it. -/
def Touch.Spares (owner : String) : Touch → Prop
  | .listing => True
  | .removal => False
  | .naming => True
  | .reservation assigner _ => assigner ≠ owner
  | .release assigner _ => assigner ≠ owner
  | .connection assigner => assigner ≠ owner
  | .restoration change => change.current.assigner ≠ owner
  | .disconnection assigner => assigner ≠ owner
  | .overwriting _ => False

/-- **A step for the sake of somebody else keeps the usage of a device in use.** -/
theorem RecordStep.hasUsage {id : DeviceId} {touch : Touch} {before after : Option DeviceRecord}
    {usage : Usage} (step : RecordStep id touch before after) (spares : touch.Spares usage.assigner)
    (named : usage.assigner ≠ "") (inUse : usage.InUse) (has : HasUsage usage before) :
    HasUsage usage after := by
  obtain ⟨record, rfl, rfl⟩ := has
  have used : record.isInUse = true := DeviceRecord.isInUse_iff.2 inUse
  cases step with
  | refreshed => exact ⟨_, rfl, rfl⟩
  | removed => exact spares.elim
  | reserved available =>
    rcases available with held | free
    · exact absurd (DeviceRecord.isHeldBy_iff.1 held).1.symm spares
    · obtain ⟨unconnected, unreserved, _⟩ := DeviceRecord.isFree_iff.1 free
      simp [DeviceRecord.isInUse, unconnected, unreserved] at used
  | released releasable =>
    obtain ⟨_, _, own, _⟩ := Tables.isReleasable_iff.1 releasable
    exact absurd own.symm spares
  | connected done =>
    obtain ⟨free, _⟩ := Tables.connected_eq_ok.1 done
    exact absurd ⟨named, Ne.symm spares, used⟩ free
  | restored done =>
    obtain ⟨current, _⟩ := Tables.restored_eq_ok.1 done
    exact absurd (congrArg Usage.assigner current).symm spares
  | disconnected done =>
    obtain ⟨_, own, _⟩ := Tables.disconnected_eq_ok.1 done
    exact absurd own.symm spares
  | overwritten => exact spares.elim

/-! ## Requests of others -/

/-- The request is none of the owner and does not overwrite the usage of the device. -/
def PoolRequest.ApartFrom (owner : String) (id : DeviceId) : PoolRequest → Prop
  | .reserve assigner _ _ => assigner ≠ owner
  | .unreserve assigner _ => assigner ≠ owner
  | .addUsage _ assigner => assigner ≠ owner
  | .decreaseUsage _ assigner => assigner ≠ owner
  | .restoreUsage _ change => ∃ assigner, assigner ≠ owner ∧ change.MadeBy assigner
  | .setUsage device _ => device ≠ id
  | .createTemplate _ => True
  | .editTemplate _ _ => True
  | .deleteTemplate _ => True
  | .sync => True

/-- Requests of others spare the record of the device, as long as every listing names it. -/
theorem spares_of_touches {owner : String} {id : DeviceId} {request : PoolRequest} {touch : Touch}
    (apart : request.ApartFrom owner id)
    (touches : request.Touches (Observation.Lists id) id touch) : touch.Spares owner := by
  have synced (kind : PoolRequest.TouchedBySync (Observation.Lists id) id touch) :
      touch.Spares owner := by
    rcases kind with rfl | ⟨rfl, lacks⟩
    · trivial
    · exact not_listingLacks lacks
  cases request with
  | reserve assigner template provider =>
    rcases touches with kind | ⟨template, rfl⟩
    · exact synced kind
    · exact apart
  | unreserve assigner template =>
    obtain rfl := touches
    exact apart
  | addUsage device assigner =>
    obtain ⟨_, rfl⟩ := touches
    exact apart
  | decreaseUsage device assigner =>
    obtain ⟨_, rfl⟩ := touches
    exact apart
  | restoreUsage device change =>
    obtain ⟨_, rfl⟩ := touches
    obtain ⟨assigner, other, made⟩ := apart
    show change.current.assigner ≠ owner
    rw [made.current_assigner]
    exact other
  | setUsage device usage =>
    obtain ⟨rfl, _⟩ := touches
    exact absurd rfl apart
  | createTemplate request =>
    obtain rfl := touches
    trivial
  | editTemplate template request =>
    obtain rfl := touches
    trivial
  | deleteTemplate template => exact touches.elim
  | sync => exact synced touches

/-! ## Rollbacks -/

namespace Tables

variable {tables after : Tables} {id : DeviceId} {assigner : String} {change : UsageChange}

/-- What a connection leaves: the device has the usage that was told, which names the assigner. -/
theorem hasUsage_of_addConnection (done : addConnection id assigner tables = .ok (change, after)) :
    HasUsage change.current (after.at? id) ∧ change.current.assigner = assigner ∧
      change.current.assigner ≠ "" ∧ change.current.InUse := by
  obtain ⟨record, changed, _, made, checked, rfl, rfl⟩ := addConnection_eq_ok.1 done
  obtain ⟨_, rfl⟩ := connected_eq_ok.1 made
  obtain ⟨_, assigned⟩ := Usage.check_eq_ok.1 checked
  exact ⟨⟨_, putRecord_at?_self _ _ _, rfl⟩, rfl, assigned rfl, .inl rfl⟩

/-- What a connection has told of the time before: it is the usage that the device had. -/
theorem hasUsage_previous (done : addConnection id assigner tables = .ok (change, after)) :
    HasUsage change.previous (tables.at? id) := by
  obtain ⟨record, changed, stored, _, _, rfl, _⟩ := addConnection_eq_ok.1 done
  exact ⟨record, stored, rfl⟩

/-- An earlier usage that keeps the rule is put back when the device still has the later one. -/
theorem restoreUsage_of_hasUsage (has : HasUsage change.current (tables.at? id))
    (checked : change.previous.check = .ok ()) :
    ∃ record after, restoreUsage id change tables = .ok (record, after) ∧
      HasUsage change.previous (after.at? id) := by
  obtain ⟨record, stored, current⟩ := has
  have done : restoreUsage id change tables = .ok (record.withUsage change.previous,
      tables.putRecord id (record.withUsage change.previous)) :=
    modifyRecord_eq_ok.2 ⟨record, stored, restored_eq_ok.2 ⟨current, rfl⟩, checked, rfl⟩
  exact ⟨_, _, done, _, putRecord_at?_self _ _ _, rfl⟩

end Tables

section Histories

variable {settings : OperatorSettings} {scheduler : Scheduler (Outcome Output)}
  {earlier between : List (Deed PoolRequest PoolAnswer)} {before after : Tables}

theorem recordsSound_of_history (reached : scheduler.Reached (Volume.Dispatched settings))
    (history : History (Pool.perform settings.pool) scheduler.store.tables earlier before)
    (named : ∀ deed ∈ earlier, deed.asked.assigner ≠ some "") : before.RecordsSound := by
  have keeps : ∀ deed ∈ earlier,
      deed.asked.Keeps settings.pool (fun _ => True) Tables.RecordsSound := by
    intro deed member
    exact PoolRequest.keeps_of_upkeep (recordsSound_upkeep _) recordsSound_usageChanges
      (named deed member)
  exact holds_of_history reached.recordsSound history keeps fun _ _ _ _ => trivial

/-- **Whatever others do to the pool after a connection, it can be taken back, and the device has
the usage again that it had before.** -/
theorem rollback_undisturbed (reached : scheduler.Reached (Volume.Dispatched settings))
    (start : History (Pool.perform settings.pool) scheduler.store.tables earlier before)
    (named : ∀ deed ∈ earlier, deed.asked.assigner ≠ some "") {id : DeviceId} {owner : String}
    {change : UsageChange} {added : Deed PoolRequest PoolAnswer}
    (history : History (Pool.perform settings.pool) before (added :: between) after)
    (asked : added.asked = .addUsage id owner) (answered : added.outcome = .ok (.change change))
    (apart : ∀ deed ∈ between, deed.asked.ApartFrom owner id)
    (listed : ∀ deed ∈ between, ∀ observation ∈ deed.seen, observation.Lists id)
    (around : Surroundings) :
    ∃ scene old record,
      (Pool.perform settings.pool (.restoreUsage id change)).run.alone around { tables := after } =
        (some (.ok .done), scene) ∧
      before.devices.get? id = some old ∧ scene.tables.devices.get? id = some record ∧
      record.usage = old.usage := by
  obtain ⟨_, middle, run, _, later⟩ := History.cons_iff.1 history
  rw [asked, answered] at run
  obtain ⟨_, ⟨⟩, done⟩ := Pool.addConnection_of_run run
  obtain ⟨old, stored, previous⟩ := Tables.hasUsage_previous done
  obtain ⟨has, own, assigned, inUse⟩ := Tables.hasUsage_of_addConnection done
  have kept : HasUsage change.current (after.at? id) := by
    have altered : Altered (Touch.Spares owner) id (middle.tables.at? id) (after.at? id) := by
      refine altered_of_history later (fun deed member touch touches => ?_) listed
      exact spares_of_touches (apart deed member) touches
    refine altered.keeps (HasUsage change.current) (fun touch _ _ spares step => ?_) has
    exact step.hasUsage (own.symm ▸ spares) assigned inUse
  have checked : change.previous.check = .ok () := by
    rw [← previous]
    exact (recordsSound_of_history reached start named id old stored).check
  obtain ⟨_, restored, back, record, stored', same⟩ := Tables.restoreUsage_of_hasUsage kept checked
  have ends : (Pool.perform settings.pool (.restoreUsage id change)).Ends around
      { tables := after } (fun answer final => answer = .done ∧ final.tables = restored)
      fun _ _ => False :=
    (ends_map _ _).2 ((Pool.restoreUsage_ends back).mono (fun _ _ leads => ⟨rfl, leads.1⟩)
      fun _ _ => False.elim)
  obtain ⟨outcome, scene, run⟩ := ends.exists_outcome
  cases outcome with
  | ok answer =>
    obtain ⟨rfl, rfl⟩ := ends.of_ok run
    exact ⟨scene, old, record, run, stored, stored', same.trans previous.symm⟩
  | error failure => exact (ends.of_error run).elim

end Histories

/-! ## A rival in between -/

namespace Sample

/-- While `A` is connected, `B` tries to connect, to disconnect and to reserve, and the device is
listed once more. -/
def contested := next (.addUsage device "B") joined.2
def pulled := next (.decreaseUsage device "B") contested.2
def claimed := next (.reserve "B" (some "T") none) pulled.2
def relisted := next .sync claimed.2

end Sample

/-- The rival changes nothing for `A`, who gets back the reservation without a connection. -/
theorem rollback_undisturbed_by_rival :
    ∃ scene record,
      (Pool.perform Sample.settings.pool (.restoreUsage Sample.device
        ⟨⟨"A", true, 0, "T"⟩, ⟨"A", true, 1, "T"⟩⟩)).run.alone Sample.listing
          { tables := Sample.relisted.2 } = (some (.ok .done), scene) ∧
      scene.tables.devices.get? Sample.device = some record ∧
      record.usage = ⟨"A", true, 0, "T"⟩ := by
  have reached : Sample.idle.Reached (Volume.Dispatched Sample.settings) := .idle rfl rfl rfl
  have states : (∀ ran ∈ [Sample.made, Sample.synced, Sample.taken, Sample.joined,
        Sample.contested, Sample.pulled, Sample.claimed, Sample.relisted],
          ran.1.outcome ≠ .error default) ∧
      Sample.joined.1.outcome = .ok (.change ⟨⟨"A", true, 0, "T"⟩, ⟨"A", true, 1, "T"⟩⟩) ∧
      Sample.taken.2.devices.get? Sample.device = some Sample.owned ∧
      ∀ deed ∈ [Sample.contested.1, Sample.pulled.1, Sample.claimed.1, Sample.relisted.1],
        ∀ observation ∈ deed.seen, observation.Lists Sample.device := by decide +kernel
  obtain ⟨ended, connected, held, listed⟩ := states
  simp only [List.forall_mem_cons] at ended
  obtain ⟨ended₁, ended₂, ended₃, ended₄, ended₅, ended₆, ended₇, ended₈, -⟩ := ended
  have start : History (Pool.perform Sample.settings.pool) Sample.idle.store.tables
      [Sample.made.1, Sample.synced.1, Sample.taken.1] Sample.taken.2 := by
    refine history_of_carryOut rfl (ended_of_ne_default ended₁) ?_
    refine history_of_carryOut rfl (ended_of_ne_default ended₂) ?_
    exact history_of_carryOut rfl (ended_of_ne_default ended₃) (.rest _)
  have history : History (Pool.perform Sample.settings.pool) Sample.taken.2
      (Sample.joined.1 ::
        [Sample.contested.1, Sample.pulled.1, Sample.claimed.1, Sample.relisted.1])
      Sample.relisted.2 := by
    refine history_of_carryOut rfl (ended_of_ne_default ended₄) ?_
    refine history_of_carryOut rfl (ended_of_ne_default ended₅) ?_
    refine history_of_carryOut rfl (ended_of_ne_default ended₆) ?_
    refine history_of_carryOut rfl (ended_of_ne_default ended₇) ?_
    exact history_of_carryOut rfl (ended_of_ne_default ended₈) (.rest _)
  have apart : ∀ deed ∈ [Sample.contested.1, Sample.pulled.1, Sample.claimed.1,
      Sample.relisted.1], deed.asked.ApartFrom "A" Sample.device := by
    simp only [List.forall_mem_cons]
    have rival : "B" ≠ "A" := by decide
    exact ⟨rival, rival, rival, True.intro, List.forall_mem_nil _⟩
  obtain ⟨scene, old, record, run, stored, stored', same⟩ := rollback_undisturbed reached start
    (by decide) history rfl connected apart listed Sample.listing
  cases held.symm.trans stored
  exact ⟨scene, record, run, stored', same⟩

end FibrePool
