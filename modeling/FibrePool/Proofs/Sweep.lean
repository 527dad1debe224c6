import FibrePool.Proofs.AllOrNothing
import FibrePool.Proofs.Pinned
import FibrePool.Proofs.Redundancy

/-!
# Giving everything back

A release gives back what an assigner has reserved under one template and is not connected to.  As
long as nobody overwrites a usage, a device in use under a template has a template that is there
(`Scheduler.Reached.pinned`), so releases under all templates leave nothing that is reserved under
any (`sweep_releases_idle_devices`).

A device that is attached without a reservation is in use under no template.  The connection has
reserved it, and it stays so when the connection is gone; a release needs a template, so this device
is not given back by any (`attached_device_stays_reserved`).
-/

namespace FibrePool

set_option autoImplicit false

/-! ## Operators that overwrite no usage -/

/-- The programs of dispatched actions that do not overwrite a usage. -/
def Volume.DispatchedWithoutOverwriting (settings : OperatorSettings)
    (program : Program (Outcome Output)) : Prop :=
  ∃ action, (∀ device usage, action ≠ .setUsage device usage) ∧
    program = (Volume.dispatch settings action).run

namespace Tables

theorem pinned_upkeep : UpkeepKeeps (fun _ => True) Pinned where
  reconciles _ _ devices _ _ := keeps_pinned_reconcile devices
  reserves _ found id pairing named := keeps_pinned_reserve named found id pairing
  releases := keeps_pinned_release
  creates template paths providers _ _ _ := keeps_pinned_createTemplate template paths providers
  edits id changes _ := keeps_pinned_editTemplate id changes
  deletes := keeps_pinned_deleteTemplate

theorem pinned_connections : ConnectionsKeep UsageChange.Anchored Pinned where
  connects assigner id _ := keeps_pinned_addConnection id assigner
  makes _ _ _ _ _ pinned done := anchored_of_addConnection pinned done
  restores id _ anchored := keeps_pinned_restoreUsage id anchored
  disconnects := keeps_pinned_removeConnection

end Tables

/-- **While the operator overwrites no usage, devices in use stay with their templates** in every
state, between the steps of actions under way too. -/
theorem Scheduler.Reached.pinned {settings : OperatorSettings}
    {scheduler : Scheduler (Outcome Output)}
    (reached : scheduler.Reached (Volume.DispatchedWithoutOverwriting settings)) :
    scheduler.store.tables.Pinned := by
  refine reached.tables Tables.pinned_empty ?_
  rintro program ⟨action, other, rfl⟩
  exact (Volume.dispatch_preserves (Volume.run_preserves_of_connections settings
    Tables.pinned_upkeep Tables.pinned_connections other)).keeps

/-! ## Releases under all templates -/

/-- The assigner has reserved the device and is not connected to it. -/
def DeviceRecord.IsIdleFor (record : DeviceRecord) (assigner : String) : Prop :=
  record.reserved = true ∧ record.connections = 0 ∧ record.assigner = assigner

namespace Tables

variable {tables after : Tables} {assigner template : String} {results : List DeviceRecord}
  {id : DeviceId} {record : DeviceRecord}

/-- The record of the device is the same as before, or it was idle and has been released. -/
def GivenBack (assigner : String) (tables after : Tables) (id : DeviceId) : Prop :=
  after.at? id = tables.at? id ∨ ∃ record, tables.at? id = some record ∧
    record.IsIdleFor assigner ∧ after.at? id = some (released record)

/-- One more release gives back what was idle from the beginning. -/
theorem GivenBack.release {now : Tables} (soFar : GivenBack assigner tables now id)
    (done : release assigner template now = .ok (results, after)) :
    GivenBack assigner tables after id := by
  rw [GivenBack, release_at? done id]
  rcases soFar with same | ⟨old, before, idle, freed⟩
  · rw [same]
    cases stored : tables.at? id with
    | none => exact .inl rfl
    | some record =>
      rw [Option.map_some]
      split
      · next releasable =>
        obtain ⟨reserved, unconnected, own, _⟩ := isReleasable_iff.1 releasable
        exact .inr ⟨record, rfl, ⟨reserved, unconnected, own⟩, rfl⟩
      · exact .inl rfl
  · refine .inr ⟨old, before, idle, ?_⟩
    rw [freed, Option.map_some, if_neg]
    intro releasable
    cases (isReleasable_iff.1 releasable).1

/-- What is idle after a release was idle before, under another template. -/
theorem idle_before_release (done : release assigner template tables = .ok (results, after))
    (stored : after.at? id = some record) (idle : record.IsIdleFor assigner) :
    tables.at? id = some record ∧ record.template ≠ template := by
  rw [release_at? done id] at stored
  obtain ⟨old, before, changed⟩ := Option.map_eq_some_iff.1 stored
  split at changed
  · rw [← changed] at idle
    cases idle.1
  · next kept =>
    subst changed
    obtain ⟨reserved, unconnected, own⟩ := idle
    exact ⟨before, fun same => kept (isReleasable_iff.2 ⟨reserved, unconnected, own, same⟩)⟩

end Tables

namespace Pool

open Workflow

/-- Releases under each of the templates, whatever comes of the others. -/
def sweep (assigner : String) (templates : List String) :
    Workflow (List (Outcome (List DeviceRecord))) :=
  templates.mapM fun template => (unreserve assigner template).outcome

/-- Only what is idle under a template that is still to come can be idle under a template. -/
def StillToCome (assigner : String) (templates : List String) (tables : Tables) : Prop :=
  ∀ id record, tables.at? id = some record → record.IsIdleFor assigner → record.template ≠ "" →
    record.template ∈ templates

/-- **A release under every template in question leaves nothing idle under a template**, and changes
only what was idle. -/
theorem sweep_ends {around : Surroundings} {scene : Scene} {assigner : String}
    {templates : List String} (start : StillToCome assigner templates scene.tables) :
    (sweep assigner templates).Ends around scene
      (fun _ after => StillToCome assigner [] after.tables ∧
        ∀ id, Tables.GivenBack assigner scene.tables after.tables id) fun _ _ => False := by
  refine ends_mapM (fun left now => StillToCome assigner left now.tables ∧
    ∀ id, Tables.GivenBack assigner scene.tables now.tables id) ?_ ⟨start, fun _ => .inl rfl⟩
  rintro template rest now ⟨left, soFar⟩
  rw [ends_outcome]
  refine (unreserve_ends assigner template).mono ?_ ?_
  · rintro _ after ⟨_, done⟩
    refine ⟨fun id record stored idle named => ?_, fun id => (soFar id).release done⟩
    obtain ⟨before, other⟩ := Tables.idle_before_release done stored idle
    exact List.mem_of_ne_of_mem other (left id record before idle named)
  · rintro _ _ ⟨rfl, rfl⟩
    refine ⟨fun id record stored idle named => ?_, soFar⟩
    exact List.mem_of_ne_of_mem named (left id record stored idle named)

end Pool

open Workflow in
/-- **What an assigner has reserved under a template can be given back.**  In every state that comes
about without overwriting a usage, releases under all templates come to an end; what is idle but
still reserved for the assigner afterwards has no template, and nothing that is not idle is
changed. -/
theorem sweep_releases_idle_devices {settings : OperatorSettings}
    {scheduler : Scheduler (Outcome Output)}
    (reached : scheduler.Reached (Volume.DispatchedWithoutOverwriting settings))
    (around : Surroundings) (assigner : String) {templates : List String}
    (all : ∀ id template, scheduler.store.tables.templates.get? id = some template →
      id ∈ templates) :
    (Pool.sweep assigner templates).Ends around { tables := scheduler.store.tables }
      (fun _ after =>
        (∀ id record, after.tables.devices.get? id = some record → record.connections = 0 →
          record.reserved = true → record.assigner = assigner → record.template = "") ∧
        ∀ id, Tables.GivenBack assigner scheduler.store.tables after.tables id)
      fun _ _ => False := by
  have start : Pool.StillToCome assigner templates scheduler.store.tables := by
    intro id record stored idle named
    obtain ⟨⟨found, there⟩, _⟩ := (reached.pinned.pinned id record stored).offered (.inl idle.1) named
    exact all record.template found there
  refine (Pool.sweep_ends start).mono ?_ fun _ _ => id
  rintro _ after ⟨left, soFar⟩
  refine ⟨fun id record stored unconnected reserved own => ?_, soFar⟩
  by_contra named
  cases left id record stored ⟨reserved, unconnected, own⟩ named

/-! ## A device of a template, and one of none -/

namespace Sample

/-- The operator after one more action. -/
def afterwards (scheduler : Scheduler (Outcome Output)) (action : Action) :
    Scheduler (Outcome Output) :=
  (scheduler.start (Volume.dispatch settings action).run).2.settle 40

theorem reached_afterwards {scheduler : Scheduler (Outcome Output)} {actions : List Action}
    (reached : scheduler.Reached (Volume.DispatchedWithoutOverwriting settings))
    (other : ∀ action ∈ actions, ∀ device usage, action ≠ .setUsage device usage) :
    (actions.foldl afterwards scheduler).Reached
      (Volume.DispatchedWithoutOverwriting settings) := by
  induction actions generalizing scheduler with
  | nil => exact reached
  | cons action rest ih =>
    obtain ⟨first, others⟩ := List.forall_mem_cons.1 other
    exact ih (.settle (.started reached ⟨action, first, rfl⟩) 40) others

/-- `A` has reserved the device of the only template. -/
def holding := [.sync, .createTemplate { devices := "1a00" }, .reserve "A" (some "T") none].foldl
  afterwards { idle with
    collaborators := { guests := ["A"], listing := .ok (listingOf [("1A00", "Free")]) } }

/-- `A` has attached a volume through the device and detached it again. -/
def stranded := [.createTemplate { devices := "1a00" }, .attach volume, .detach volume].foldl
  afterwards idle

end Sample

/-- The device that `A` has reserved is given back. -/
theorem sweep_releases_reserved_device :
    Sample.holding.store.tables.devices.get? Sample.device = some Sample.owned ∧
    Sample.owned.IsIdleFor "A" ∧ Sample.owned.template = "T" ∧
    ∃ results after, (Pool.sweep "A" ["T"]).run.alone Sample.refusing
        { tables := Sample.holding.store.tables } = (some (.ok results), after) ∧
      ∀ id record, after.tables.devices.get? id = some record → record.connections = 0 →
        record.reserved = true → record.assigner = "A" → record.template = "" := by
  obtain ⟨stored, listed⟩ :
      Sample.holding.store.tables.devices.get? Sample.device = some Sample.owned ∧
      Sample.holding.store.tables.templates.keys = ["T"] := by decide +kernel
  have reached : Sample.holding.Reached (Volume.DispatchedWithoutOverwriting Sample.settings) :=
    Sample.reached_afterwards (.idle rfl rfl rfl) (by simp)
  have all : ∀ id template, Sample.holding.store.tables.templates.get? id = some template →
      id ∈ ["T"] := by
    intro id template there
    rw [← listed, OrderedMap.mem_keys_iff, OrderedMap.contains, there]
    rfl
  have ends := sweep_releases_idle_devices reached Sample.refusing "A" all
  obtain ⟨outcome, after, run⟩ := ends.exists_outcome
  cases outcome with
  | error failure => exact (ends.of_error run).elim
  | ok results =>
    exact ⟨stored, ⟨rfl, rfl, rfl⟩, rfl, results, after, run, (ends.of_ok run).1⟩

/-- **A device that was attached without a reservation stays reserved.**  `A` has no connection left,
and no release takes the device back. -/
theorem attached_device_stays_reserved :
    Sample.stranded.Reached (Volume.DispatchedWithoutOverwriting Sample.settings) ∧
    Sample.stranded.store.tables.templates.keys = ["T"] ∧
    ∃ results after, (Pool.sweep "A" ["T"]).run.alone Sample.refusing
        { tables := Sample.stranded.store.tables } = (some (.ok results), after) ∧
      ∃ record, after.tables.devices.get? Sample.device = some record ∧ record.IsIdleFor "A" := by
  have given :
      let ran := (Pool.sweep "A" ["T"]).run.alone Sample.refusing
        { tables := Sample.stranded.store.tables }
      ran.1 = some (.ok [.ok []]) ∧ ran.2.tables.devices.get? Sample.device =
        some { DeviceRecord.placeholder Sample.device with assigner := "A", reserved := true } ∧
      Sample.stranded.store.tables.templates.keys = ["T"] := by decide +kernel
  have reached : Sample.stranded.Reached (Volume.DispatchedWithoutOverwriting Sample.settings) :=
    Sample.reached_afterwards (.idle rfl rfl rfl) (by simp)
  obtain ⟨swept, stored, listed⟩ := given
  obtain ⟨after, run⟩ := Sample.exists_run swept
  rw [run] at stored
  exact ⟨reached, listed, _, after, run, _, stored, rfl, rfl, rfl⟩

end FibrePool
