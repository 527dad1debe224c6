import FibrePool.Proofs.Alone
import FibrePool.Proofs.RecordSound

/-!
# Unwinding

Attaching and detaching change devices one by one and collect what would undo each change.  When a
step fails, the collected changes are undone the latest first, and this leads back exactly to the
tables before: a connection is taken back by putting the earlier usage back, which nobody has
changed since, and a removed connection is added again, which restores the record because a
connected device was reserved for the same assigner.  The order makes this right for a device that
is named several times.

`Rollback.LeadsBack` is the invariant of both loops: undoing what was collected leads from the
present tables to those at the start.  `Rollback.Told` says what is told of it: the devices that
could not be taken from the guest again when there are any, else what made the step fail.
-/

namespace FibrePool

set_option autoImplicit false

open Workflow

/-! ## Transactions one after the other -/

namespace Transaction

variable {ι α : Type} {change : ι → Transaction α}

/-- The transactions for the items of a list succeed one after the other. -/
def Runs (change : ι → Transaction α) : List ι → Tables → Tables → Prop
  | [], before, after => after = before
  | item :: rest, before, after => ∃ result middle,
      change item before = .ok (result, middle) ∧ Runs change rest middle after

variable {first second done : List ι} {item : ι} {before middle after other : Tables} {result : α}

theorem runs_append : Runs change (first ++ second) before after ↔
    ∃ middle, Runs change first before middle ∧ Runs change second middle after := by
  induction first generalizing before with
  | nil =>
    refine ⟨fun runs => ⟨before, rfl, runs⟩, ?_⟩
    rintro ⟨_, rfl, runs⟩
    exact runs
  | cons item rest ih =>
    rw [List.cons_append]
    constructor
    · rintro ⟨result, next, changed, further⟩
      obtain ⟨middle, earlier, later⟩ := ih.1 further
      exact ⟨middle, ⟨result, next, changed, earlier⟩, later⟩
    · rintro ⟨middle, ⟨result, next, changed, earlier⟩, later⟩
      exact ⟨result, next, changed, ih.2 ⟨middle, earlier, later⟩⟩

theorem Runs.snoc (runs : Runs change done before middle)
    (changed : change item middle = .ok (result, after)) :
    Runs change (done ++ [item]) before after :=
  runs_append.2 ⟨middle, runs, result, after, changed, rfl⟩

/-- Transactions leave nothing open. -/
theorem Runs.unique (runs : Runs change done before after) (runs' : Runs change done before other) :
    other = after := by
  induction done generalizing before with
  | nil => exact (runs' : other = before).trans (runs : after = before).symm
  | cons item rest ih =>
    obtain ⟨_, _, changed, further⟩ := runs
    obtain ⟨_, _, changed', further'⟩ := runs'
    cases changed.symm.trans changed'
    exact ih further further'

/-- What succeeds as a whole succeeds at each item. -/
theorem Runs.exists_ok (runs : Runs change (first ++ item :: second) before after)
    (earlier : Runs change first before middle) :
    ∃ result next, change item middle = .ok (result, next) := by
  obtain ⟨_, earlier', result, next, changed, _⟩ := runs_append.1 runs
  cases earlier.unique earlier'
  exact ⟨result, next, changed⟩

end Transaction

namespace Tables

/-- **Putting the earlier usage back undoes a connection.** -/
theorem restoreUsage_of_addConnection {tables after : Tables} {id : DeviceId} {assigner : String}
    {change : UsageChange} (sound : tables.RecordsSound)
    (done : addConnection id assigner tables = .ok (change, after)) :
    ∃ record, restoreUsage id change after = .ok (record, tables) := by
  obtain ⟨record, changed, stored, made, _, rfl, rfl⟩ := addConnection_eq_ok.1 done
  have back : changed.withUsage record.usage = record := by
    obtain ⟨_, rfl⟩ := connected_eq_ok.1 made
    rfl
  have checked : record.usage.check = .ok () := (sound id record stored).check
  refine ⟨record, modifyRecord_eq_ok.2 ⟨changed, putRecord_at?_self _ _ _, ?_, checked, ?_⟩⟩
  · rw [restored, if_pos rfl, back]
  · rw [putRecord, putRecord, OrderedMap.insert_insert_of_get? stored]

/-- **Adding a connection undoes its removal.** -/
theorem addConnection_of_removeConnection {tables after : Tables} {id : DeviceId}
    {assigner : String} {result : DeviceRecord} (sound : tables.RecordsSound)
    (done : removeConnection id assigner tables = .ok (result, after)) :
    ∃ change, addConnection id assigner after = .ok (change, tables) := by
  obtain ⟨record, stored, made, _, rfl⟩ := modifyRecord_eq_ok.1 done
  obtain ⟨connections, rfl, rfl⟩ := disconnected_eq_ok.1 made
  have kept := sound id record stored
  have reserved : record.reserved = true :=
    kept.reserved_of_connected (UInt32.pos_iff_ne_zero.2 connections)
  have count : record.connections - 1 + 1 = record.connections :=
    UInt32.sub_add_cancel _ _
  have back : connected record.assigner { record with connections := record.connections - 1 } =
      .ok record := by
    refine connected_eq_ok.2 ⟨fun other => other.2.1 rfl, ?_⟩
    simp only [count, ← reserved]
  have checked : record.usage.check = .ok () := kept.check
  refine ⟨_, addConnection_eq_ok.2
    ⟨_, record, putRecord_at?_self _ _ _, back, checked, rfl, ?_⟩⟩
  rw [putRecord, putRecord, OrderedMap.insert_insert_of_get? stored]

end Tables

/-! ## Single connections -/

namespace Pool

variable {around : Surroundings} {scene : Scene}

/-- A connection is one transaction, with an event that tells of it. -/
theorem addUsage_ends (id : DeviceId) (assigner : String) :
    (addUsage id assigner).Ends around scene
      (fun change after =>
        Tables.addConnection id assigner scene.tables = .ok (change, after.tables) ∧
          scene.StepsTo after.tables after)
      fun failure after =>
        Tables.addConnection id assigner scene.tables = .error failure ∧ after = scene := by
  unfold addUsage
  rw [ends_bind, ends_commit]
  split
  · next change tables done =>
    rw [ends_bind, ends_emit]
    exact (ends_pure _).2 ⟨done, rfl, by simp [Observation.isCall, Scene.calls]⟩
  · next failure refused => exact ⟨refused, rfl⟩

/-- So is the removal of one. -/
theorem decreaseUsage_ends (id : DeviceId) (assigner : String) :
    (decreaseUsage id assigner).Ends around scene
      (fun left after => (∃ record,
        Tables.removeConnection id assigner scene.tables = .ok (record, after.tables) ∧
          record.connections = left) ∧ scene.StepsTo after.tables after)
      fun failure after =>
        Tables.removeConnection id assigner scene.tables = .error failure ∧ after = scene := by
  unfold decreaseUsage
  rw [ends_bind, ends_commit]
  split
  · next record tables done =>
    rw [ends_bind, ends_emit]
    exact (ends_pure _).2 ⟨⟨record, done, rfl⟩, rfl, by simp [Observation.isCall, Scene.calls]⟩
  · next failure refused => exact ⟨refused, rfl⟩

/-- So is putting a usage back. -/
theorem restoreUsage_ends {id : DeviceId} {change : UsageChange} {record : DeviceRecord}
    {tables : Tables}
    (done : Tables.restoreUsage id change scene.tables = .ok (record, tables)) :
    (restoreUsage id change).Ends around scene (fun _ after => scene.StepsTo tables after)
      fun _ _ => False := by
  unfold restoreUsage
  rw [ends_bind, ends_commit, done]
  dsimp only
  rw [ends_emit]
  exact ⟨rfl, by simp [Observation.isCall, Scene.calls]⟩

end Pool

/-! ## Taking devices from a guest -/

/-- A device was to be taken from the guest, with what was answered. -/
abbrev Taking := DeviceId × Outcome Unit

/-- The call that was made for it. -/
def Taking.asked (user : String) (taking : Taking) : Observation :=
  .called (.undedicate taking.1 user) taking.2

/-- The devices that could not be taken, with the reasons. -/
def refusals (takings : List Taking) : List (DeviceId × Failure) :=
  takings.filterMap fun
    | (_, .ok _) => none
    | (id, .error failure) => some (id, failure)

namespace Scene

/-- The devices `ids` were to be taken from the guest, one after the other. -/
structure Takes (before : Scene) (user : String) (ids : List DeviceId) (takings : List Taking)
    (after : Scene) : Prop where
  devices : takings.map (·.1) = ids
  calls : after.calls = before.calls ++ takings.map (Taking.asked user)

/-- A guest removes no volume when devices are taken from it. -/
theorem Takes.guestRemoved {before after : Scene} {user : String} {ids : List DeviceId}
    {takings : List Taking} (takes : before.Takes user ids takings after) :
    after.guestRemoved = before.guestRemoved := by
  rw [guestRemoved_eq_any_calls, guestRemoved_eq_any_calls, takes.calls, List.any_append,
    List.any_map]
  exact (congrArg _ (List.any_eq_false.2 fun _ _ => Bool.false_ne_true)).trans (Bool.or_false _)

end Scene

/-- A workflow that has devices taken from the guest, one by one and in order, asks for all of them,
whatever is answered. -/
theorem Workflow.ends_mapM_takes {α : Type} {around : Surroundings} {scene : Scene} {user : String}
    {step : DeviceId → Workflow α} {told : Taking → α}
    (steps : ∀ id scene, (step id).Ends around scene (fun value after => ∃ answer : Outcome Unit,
      value = told (id, answer) ∧ after = scene.note (Taking.asked user (id, answer)))
      fun _ _ => False) (ids : List DeviceId) :
    (ids.mapM step).Ends around scene (fun values after => ∃ takings, values = takings.map told ∧
      after.tables = scene.tables ∧ scene.Takes user ids takings after) fun _ _ => False := by
  refine (ends_mapM_results (fun left values now => ∃ takings : List Taking,
    takings.map (·.1) ++ left = ids ∧ values = takings.map told ∧ now.tables = scene.tables ∧
      now.calls = scene.calls ++ takings.map (Taking.asked user)) ?_ ?_).mono ?_ fun _ _ => id
  · rintro id rest values now ⟨takings, whole, rfl, same, calls⟩
    refine (steps id now).mono ?_ fun _ _ => False.elim
    rintro _ _ ⟨answer, rfl, rfl⟩
    refine ⟨takings ++ [(id, answer)], ?_, ?_, same, ?_⟩
    · rw [List.map_append, List.append_assoc]
      exact whole
    · rw [List.map_append]
      rfl
    · rw [Scene.note_calls, calls, List.map_append, List.append_assoc]
      rfl
  · exact ⟨[], rfl, rfl, rfl, (List.append_nil _).symm⟩
  · rintro values after ⟨takings, whole, results, same, calls⟩
    rw [List.append_nil] at whole
    exact ⟨takings, results, same, whole, calls⟩

/-! ## Undoing -/

/-- Whether a failure is about the request itself. -/
def Failure.isAboutRequest : Failure → Bool
  | .conflict _ => true
  | .deviceNotFound _ => true
  | .invalidParameter _ => true
  | _ => false

/-- The reason that a failure of a step gives for the failure of the whole operation. -/
def Failure.asReason : Failure → String
  | .operation step reason _ _ => s!"{step}: {reason}"
  | failure => failure.message

namespace Rollback

variable {around : Surroundings} {scene : Scene} {assigner : String}

/-- Undoing what was collected leads from the tables to the tables `origin`. -/
def LeadsBack (rollback : Rollback) (assigner : String) (tables origin : Tables) : Prop :=
  ∃ middle,
    Transaction.Runs (fun entry => Tables.restoreUsage entry.1 entry.2) rollback.connected tables
      middle ∧
    Transaction.Runs (fun id => Tables.addConnection id assigner) rollback.disconnected middle
      origin

/-- The devices whose usage is put back, the latest first. -/
def restored (rollback : Rollback) : List String :=
  rollback.connected.map (·.1.text) ++ rollback.disconnected.map DeviceId.text

/-- How a failed operation is reported once its steps have been undone: devices that the guest could
not be relieved of come first, a cause that is about the request is passed on as it is, and any
other is the reason why the operation failed for all of its devices. -/
inductive Told (operation : String) (devices : List DeviceId) (restored : List String)
    (cause : Failure) : List (DeviceId × Failure) → Failure → Prop where
  | incomplete {refused : List (DeviceId × Failure)} (some : refused ≠ []) :
    Told operation devices restored cause refused (.rollbackIncomplete operation cause.message
      (refused.map fun refusal => s!"undedicate {refusal.1}: {refusal.2.message}"))
  | asItIs (about : cause.isAboutRequest = true) :
    Told operation devices restored cause [] cause
  | whole (other : cause.isAboutRequest = false) :
    Told operation devices restored cause []
      (.operation operation cause.asReason (devices.map DeviceId.text) restored)

theorem told_failureOf (operation : String) (devices : List DeviceId) (restored : List String)
    (cause : Failure) :
    Told operation devices restored cause [] (failureOf operation devices restored cause) := by
  cases cause with
  | conflict _ | deviceNotFound _ | invalidParameter _ => exact .asItIs rfl
  | _ => exact .whole rfl

/-- What became of taking a device from the guest. -/
def undone : Taking → Result
  | (_, .ok _) => .undone
  | (id, .error failure) => .failed s!"undedicate {id}: {failure.message}"

theorem undoDedicate_ends (id : DeviceId) :
    (undoDedicate assigner id).Ends around scene (fun result after => ∃ answer : Outcome Unit,
      result = undone (id, answer) ∧ after = scene.note (Taking.asked assigner (id, answer)))
      fun _ _ => False := by
  unfold undoDedicate
  rw [ends_bind, ends_outcome, ends_call]
  split <;> exact (ends_pure _).2 ⟨_, rfl, rfl⟩

theorem undoConnect_ends {id : DeviceId} {change : UsageChange} {record : DeviceRecord}
    {tables : Tables}
    (done : Tables.restoreUsage id change scene.tables = .ok (record, tables)) :
    (undoConnect id change).Ends around scene
      (fun result after => result = .putBack id.text ∧ scene.StepsTo tables after)
      fun _ _ => False := by
  unfold undoConnect
  rw [ends_bind, ends_outcome]
  refine (Pool.restoreUsage_ends done).mono (fun _ after steps => ?_) fun _ _ => False.elim
  exact (ends_pure _).2 ⟨rfl, steps⟩

theorem undoDisconnect_ends {id : DeviceId} {change : UsageChange} {tables : Tables}
    (done : Tables.addConnection id assigner scene.tables = .ok (change, tables)) :
    (undoDisconnect assigner id).Ends around scene
      (fun result after => result = .putBack id.text ∧ scene.StepsTo tables after)
      fun _ _ => False := by
  unfold undoDisconnect
  rw [ends_bind, ends_outcome]
  refine (Pool.addUsage_ends id assigner).mono ?_ ?_
  · rintro _ after ⟨added, steps⟩
    cases done.symm.trans added
    exact (ends_pure _).2 ⟨rfl, steps⟩
  · rintro failure _ ⟨refused, _⟩
    cases done.symm.trans refused

/-- Undoing steps one after the other leads to where their transactions lead. -/
theorem ends_mapM_of_runs {ι α : Type} {change : ι → Transaction α} {step : ι → Workflow Result}
    {told : ι → Result}
    (steps : ∀ item scene result tables, change item scene.tables = .ok (result, tables) →
      (step item).Ends around scene
        (fun value after => value = told item ∧ scene.StepsTo tables after) fun _ _ => False)
    {items : List ι} {origin : Tables}
    (runs : Transaction.Runs change items scene.tables origin) :
    (items.mapM step).Ends around scene
      (fun values after => values = items.map told ∧ scene.StepsTo origin after)
      fun _ _ => False := by
  refine (ends_mapM_results (fun left values now => (∃ done, done ++ left = items ∧
    values = done.map told) ∧ scene.StepsTo now.tables now ∧
      Transaction.Runs change left now.tables origin) ?_ ?_).mono ?_ fun _ _ => id
  · rintro item rest values now ⟨⟨done, whole, rfl⟩, earlier, result, tables, changed, further⟩
    refine (steps item now result tables changed).mono ?_ fun _ _ => False.elim
    rintro _ after ⟨rfl, next⟩
    refine ⟨⟨done ++ [item], ?_, ?_⟩, next.1 ▸ earlier.trans next, next.1 ▸ further⟩
    · rw [List.append_assoc]
      exact whole
    · rw [List.map_append]
      rfl
  · exact ⟨⟨[], rfl, rfl⟩, scene.stepsTo_self, runs⟩
  · rintro values after ⟨⟨done, whole, results⟩, steps, last⟩
    rw [List.append_nil] at whole
    exact ⟨whole ▸ results, (last : origin = after.tables) ▸ steps⟩

/-- **Undoing everything leads back to the start**, and everything is undone, except that devices
may be left with the guest. -/
theorem undo_ends {rollback : Rollback} {origin : Tables}
    (back : rollback.LeadsBack assigner scene.tables origin) :
    (rollback.undo assigner).Ends around scene
      (fun results after => after.tables = origin ∧ ∃ takings,
        results = takings.map undone ++ rollback.restored.map .putBack ∧
        scene.Takes assigner rollback.dedicated takings after) fun _ _ => False := by
  obtain ⟨middle, restoring, adding⟩ := back
  unfold undo
  rw [ends_bind]
  refine (ends_mapM_takes (fun id _ => undoDedicate_ends id) _).mono ?_ fun _ _ => id
  rintro _ first ⟨takings, rfl, same, takes⟩
  rw [ends_bind]
  refine (ends_mapM_of_runs (fun entry _ _ _ => undoConnect_ends) (same ▸ restoring)).mono
    ?_ fun _ _ => id
  rintro _ second ⟨rfl, restored⟩
  rw [ends_bind]
  refine (ends_mapM_of_runs (fun device _ _ _ => undoDisconnect_ends) (restored.1 ▸ adding)).mono
    ?_ fun _ _ => id
  rintro _ third ⟨rfl, added⟩
  refine (ends_pure _).2 ⟨added.1, takings, ?_, takes.devices, ?_⟩
  · rw [Rollback.restored, List.map_append, List.map_map, List.map_map, List.append_assoc]
    rfl
  · rw [added.2, restored.2, takes.calls]

theorem failures_undone (takings : List Taking) (restored : List String) :
    failures (takings.map undone ++ restored.map .putBack) = (refusals takings).map
      fun refusal => s!"undedicate {refusal.1}: {refusal.2.message}" := by
  have kept : failures (restored.map .putBack) = [] := by simp [failures, List.filterMap_map]
  rw [failures, List.filterMap_append, ← failures, ← failures, kept, List.append_nil, failures,
    List.filterMap_map, refusals, List.map_filterMap]
  congr 1
  funext taking
  obtain ⟨id, _ | _⟩ := taking <;> rfl

theorem putBack_undone (takings : List Taking) (restored : List String) :
    putBack (takings.map undone ++ restored.map .putBack) = restored := by
  have taken : putBack (takings.map undone) = [] := by
    rw [putBack, List.filterMap_map, List.filterMap_eq_nil_iff]
    rintro ⟨id, _ | _⟩ _ <;> rfl
  rw [putBack, List.filterMap_append, ← putBack, ← putBack, taken, List.nil_append, putBack,
    List.filterMap_map]
  exact List.filterMap_some

/-- **A rollback ends in a failure**, with the tables as they were at the start.  It has asked for
all dedicated devices, the latest first, and reports the ones that it did not get. -/
theorem fail_tells {α : Type} {rollback : Rollback} {origin : Tables} {operation : String}
    {devices : List DeviceId} {cause : Failure}
    (back : rollback.LeadsBack assigner scene.tables origin) :
    Ends around (rollback.fail operation assigner devices cause : Workflow α) scene
      (fun _ _ => False) fun failure after => after.tables = origin ∧ ∃ takings,
        scene.Takes assigner rollback.dedicated takings after ∧
        Told operation devices rollback.restored cause (refusals takings) failure := by
  let noted := scene.note (.measured (.rolledBack operation))
  have undone : (rollback.undo assigner).Ends around noted _ fun _ _ => False := undo_ends back
  have quiet : noted.calls = scene.calls := by simp [noted, Observation.isCall]
  unfold fail
  rw [ends_bind, ends_measure, ends_bind]
  refine undone.mono ?_ fun _ _ => False.elim
  rintro _ after ⟨same, takings, rfl, takes⟩
  have takes : scene.Takes assigner rollback.dedicated takings after :=
    ⟨takes.devices, quiet ▸ takes.calls⟩
  rw [failures_undone, putBack_undone]
  split
  · next none =>
    rw [List.map_eq_nil_iff] at none
    refine (ends_throw _).2 ⟨same, takings, takes, ?_⟩
    rw [none]
    exact told_failureOf ..
  · next errors some =>
    refine (ends_throw _).2 ⟨same, takings, takes, .incomplete fun none => some ?_⟩
    rw [none]
    rfl

/-- Nothing is left of a failed operation but what the guest was not relieved of. -/
theorem fail_ends {α : Type} {rollback : Rollback} {origin : Tables} {operation : String}
    {devices : List DeviceId} {cause : Failure}
    (back : rollback.LeadsBack assigner scene.tables origin) :
    Ends around (rollback.fail operation assigner devices cause : Workflow α) scene
      (fun _ _ => False) fun _ after => scene.LeadsTo origin after := by
  refine (fail_tells back).mono (fun _ _ => id) ?_
  rintro _ after ⟨same, takings, takes, _⟩
  exact ⟨same, takes.guestRemoved⟩

/-! ## What is collected -/

theorem leadsBack_nil (tables : Tables) : LeadsBack {} assigner tables tables :=
  ⟨tables, rfl, rfl⟩

/-- What happened outside of the tables does not matter for the way back. -/
theorem LeadsBack.dedicated {rollback : Rollback} {tables origin : Tables}
    (back : rollback.LeadsBack assigner tables origin) (ids : List DeviceId) :
    LeadsBack { rollback with dedicated := ids } assigner tables origin := back

/-- Connections alone lead back when nothing else changed tables. -/
theorem LeadsBack.usageOnly {rollback : Rollback} {tables origin : Tables}
    (back : rollback.LeadsBack assigner tables origin) (nothing : rollback.disconnected = []) :
    LeadsBack { connected := rollback.connected } assigner tables origin := by
  obtain ⟨middle, restoring, adding⟩ := back
  rw [nothing] at adding
  exact ⟨middle, restoring, adding⟩

theorem LeadsBack.connect {rollback : Rollback} {tables after origin : Tables} {id : DeviceId}
    {change : UsageChange} (back : rollback.LeadsBack assigner tables origin)
    (sound : tables.RecordsSound)
    (done : Tables.addConnection id assigner tables = .ok (change, after)) :
    LeadsBack { rollback with connected := (id, change) :: rollback.connected } assigner after
      origin := by
  obtain ⟨middle, restoring, adding⟩ := back
  obtain ⟨record, undone⟩ := Tables.restoreUsage_of_addConnection sound done
  exact ⟨middle, ⟨record, tables, undone, restoring⟩, adding⟩

/-- Removals are collected by detaches only, which collect nothing else that changes tables. -/
theorem LeadsBack.disconnect {rollback : Rollback} {tables after origin : Tables} {id : DeviceId}
    {result : DeviceRecord} (back : rollback.LeadsBack assigner tables origin)
    (nothing : rollback.connected = []) (sound : tables.RecordsSound)
    (done : Tables.removeConnection id assigner tables = .ok (result, after)) :
    LeadsBack { rollback with disconnected := id :: rollback.disconnected } assigner after
      origin := by
  obtain ⟨middle, restoring, adding⟩ := back
  rw [nothing] at restoring
  obtain ⟨change, undone⟩ := Tables.addConnection_of_removeConnection sound done
  have start : Transaction.Runs (fun id => Tables.addConnection id assigner) rollback.disconnected
      tables origin := (restoring : middle = tables) ▸ adding
  refine ⟨after, ?_, change, tables, undone, start⟩
  show Transaction.Runs _ rollback.connected after after
  rw [nothing]
  rfl

end Rollback

/-! ## The loops over devices -/

namespace Volume

variable {around : Surroundings} {scene : Scene} {assigner : String} {origin : Tables}

/-- The loop over the devices of a request keeps what its steps keep, and a failing step ends in what
becomes of the rollback after it. -/
theorem eachDevice_ends_of (inv : List DeviceId → Rollback → Scene → Prop)
    {bad : Failure → Scene → Prop} {operation : String} {devices : List DeviceId}
    {step : Rollback → DeviceId → Workflow Rollback}
    (steps : ∀ id rest rollback scene, inv (id :: rest) rollback scene →
      (step rollback id).Ends around scene (fun next after => inv rest next after)
        fun cause after => Ends around (rollback.fail operation assigner devices cause :
          Workflow Rollback) after (fun _ _ => False) bad)
    {rollback : Rollback} {left : List DeviceId} (start : inv left rollback scene) :
    (eachDevice operation assigner devices step rollback left).Ends around scene
      (fun next after => inv [] next after) bad := by
  induction left generalizing rollback scene with
  | nil => exact (ends_pure rollback).2 start
  | cons id rest ih =>
    unfold eachDevice
    rw [ends_bind, ends_outcome]
    refine (steps id rest rollback scene start).mono (fun next after left => ih left) ?_
    intro cause after failing
    exact failing.mono (fun _ _ => False.elim) fun _ _ ended => ended

/-- As long as the way back is known, a failing step of the loop leads to the start. -/
theorem eachDevice_ends {first : Scene} (inv : List DeviceId → Rollback → Scene → Prop)
    {operation : String} {devices : List DeviceId} {step : Rollback → DeviceId → Workflow Rollback}
    (steps : ∀ id rest rollback scene, inv (id :: rest) rollback scene →
      (step rollback id).Ends around scene (fun next after => inv rest next after)
        fun _ after => rollback.LeadsBack assigner after.tables origin ∧
          after.guestRemoved = first.guestRemoved)
    {rollback : Rollback} {left : List DeviceId} (start : inv left rollback scene) :
    (eachDevice operation assigner devices step rollback left).Ends around scene
      (fun next after => inv [] next after) fun _ after => first.LeadsTo origin after := by
  refine eachDevice_ends_of inv (fun id rest rollback scene holds => ?_) start
  refine (steps id rest rollback scene holds).mono (fun _ _ kept => kept) ?_
  rintro cause after ⟨back, quiet⟩
  exact (Rollback.fail_ends back).mono (fun _ _ => False.elim)
    fun _ last leads => ⟨leads.1, leads.2.trans quiet⟩

/-- Where a loop of an attach stands: the way back is known, nothing is to be added again, and no
guest has removed a volume. -/
structure Attaching (assigner : String) (first : Scene) (rollback : Rollback) (now : Scene) :
    Prop where
  back : rollback.LeadsBack assigner now.tables first.tables
  nothing : rollback.disconnected = []
  sound : now.tables.RecordsSound
  quiet : now.guestRemoved = first.guestRemoved

theorem Attaching.connect {first now after : Scene} {rollback : Rollback} {id : DeviceId}
    {change : UsageChange} (attaching : Attaching assigner first rollback now)
    (present : assigner ≠ "")
    (done : Tables.addConnection id assigner now.tables = .ok (change, after.tables))
    (steps : now.StepsTo after.tables after) :
    Attaching assigner first { rollback with connected := (id, change) :: rollback.connected }
      after where
  back := attaching.back.connect attaching.sound done
  nothing := attaching.nothing
  sound := recordsSound_usageChanges.connects id present attaching.sound done
  quiet := steps.leadsTo.2.trans attaching.quiet

/-- **Connecting every device of a request** adds all the connections or none. -/
theorem connectAll_ends (present : assigner ≠ "") (sound : scene.tables.RecordsSound)
    (devices : List DeviceId) :
    (eachDevice "attach" assigner devices (connect assigner) {} devices).Ends around scene
      (fun rollback after => Attaching assigner scene rollback after ∧
        Transaction.Runs (fun id => Tables.addConnection id assigner) devices scene.tables
          after.tables)
      fun _ after => scene.LeadsTo scene.tables after := by
  have start : Attaching assigner scene {} scene :=
    ⟨Rollback.leadsBack_nil scene.tables, rfl, sound, rfl⟩
  -- What is left of the request leads to the same tables as the whole of it.
  refine (eachDevice_ends (fun left rollback now => Attaching assigner scene rollback now ∧
      ∀ final, Transaction.Runs (fun id => Tables.addConnection id assigner) left now.tables final →
        Transaction.Runs (fun id => Tables.addConnection id assigner) devices scene.tables final)
    ?_ ⟨start, fun _ => id⟩).mono (fun rollback after ended => ?_) fun _ _ => id
  · rintro device rest rollback now ⟨attaching, onward⟩
    unfold connect
    rw [ends_bind]
    refine (Pool.addUsage_ends device assigner).mono ?_ ?_
    · rintro change after ⟨done, steps⟩
      refine (ends_pure _).2 ⟨attaching.connect present done steps, fun final later => ?_⟩
      exact onward final ⟨change, after.tables, done, later⟩
    · rintro failure _ ⟨_, rfl⟩
      exact ⟨attaching.back, attaching.quiet⟩
  · exact ⟨ended.1, ended.2 after.tables rfl⟩

/-- Dedicating devices leaves the tables alone, and a failure leads back to the start. -/
theorem dedicateAll_ends {first : Scene} {devices : List DeviceId} {rollback : Rollback}
    (attaching : Attaching assigner first rollback scene) (left : List DeviceId) :
    (eachDevice "attach" assigner devices (dedicate assigner) rollback left).Ends around scene
      (fun next after => Attaching assigner first next after ∧ after.tables = scene.tables)
      fun _ after => first.LeadsTo first.tables after := by
  refine eachDevice_ends (fun _ next now => Attaching assigner first next now ∧
    now.tables = scene.tables) ?_ ⟨attaching, rfl⟩
  rintro device rest rollback now ⟨attaching, same⟩
  have asked (answer : Outcome Unit) :
      now.LeadsTo now.tables (now.note (.called (.dedicate device assigner) answer)) :=
    now.leadsTo_self.note rfl
  unfold dedicate
  rw [ends_bind, ends_call]
  split
  · rw [ends_pure]
    exact ⟨⟨attaching.back.dedicated _, attaching.nothing, attaching.sound,
      (asked _).2.trans attaching.quiet⟩, same⟩
  · exact ⟨attaching.back, (asked _).2.trans attaching.quiet⟩

/-- **An attach adds a connection for every mention of a device, or nothing changes.** -/
theorem attachAlone_ends (present : assigner ≠ "") (sound : scene.tables.RecordsSound)
    (connection : VolumeConnection) :
    (attachAlone assigner connection).Ends around scene
      (fun _ after => Transaction.Runs (fun id => Tables.addConnection id assigner)
        connection.devices scene.tables after.tables)
      fun _ after => after.tables = scene.tables := by
  unfold attachAlone
  extract_lets attaching
  have afterwards (asked : Scene) (same : asked.tables = scene.tables) :
      (attaching ()).Ends around asked
        (fun _ after => Transaction.Runs (fun id => Tables.addConnection id assigner)
          connection.devices scene.tables after.tables)
        fun _ after => after.tables = scene.tables := by
    unfold attaching
    rw [ends_bind]
    refine (connectAll_ends present (same ▸ sound) connection.devices).mono
      (fun connected after ended => ?_) fun _ _ leads => leads.1.trans same
    obtain ⟨standing, runs⟩ := ended
    rw [same] at runs
    split
    · exact (ends_pure ()).2 runs
    · rw [ends_bind]
      refine (dedicateAll_ends standing _).mono (fun dedicated last ended => ?_)
        fun _ _ leads => leads.1.trans same
      obtain ⟨standing, unchanged⟩ := ended
      rw [ends_bind, ends_outcome, ends_call]
      split
      · rw [ends_pure, Scene.note_tables, unchanged]
        exact runs
      · next cause _ =>
        let asking := Call.configureAttach (connection.inGuest assigner)
        have back : Rollback.LeadsBack { connected := dedicated.connected } assigner
            (last.note (.called asking (.error cause))).tables asked.tables :=
          standing.back.usageOnly standing.nothing
        exact (Rollback.fail_ends back).mono (fun _ _ => False.elim)
          fun _ _ leads => leads.1.trans same
  split
  · rw [ends_bind, ends_call]
    split
    · split
      · exact (ends_bind _ _).2 ((ends_throw _).2 rfl)
      · exact afterwards _ rfl
    · rfl
  · exact afterwards scene rfl

/-- Where the loop of a detach stands. -/
structure Standing (assigner : String) (first : Scene) (state : Detaching) (now : Scene) :
    Prop where
  back : state.rollback.LeadsBack assigner now.tables first.tables
  nothing : state.rollback.connected = []
  sound : now.tables.RecordsSound
  quiet : now.guestRemoved = first.guestRemoved

/-- What a detach knows after one more removal, which leaves the device so many connections. -/
def Detaching.next (state : Detaching) (id : DeviceId) (left : UInt32) : Detaching where
  rollback := { state.rollback with disconnected := id :: state.rollback.disconnected }
  remaining := state.remaining + left
  drained := if left = 0 then id :: state.drained else state.drained

theorem Standing.disconnect {first now after : Scene} {state : Detaching} {id : DeviceId}
    {record : DeviceRecord} (standing : Standing assigner first state now)
    (removed : Tables.removeConnection id assigner now.tables = .ok (record, after.tables))
    (steps : now.StepsTo after.tables after) :
    Standing assigner first (state.next id record.connections) after where
  back := standing.back.disconnect standing.nothing standing.sound removed
  nothing := standing.nothing
  sound := recordsSound_usageChanges.disconnects id assigner standing.sound removed
  quiet := steps.leadsTo.2.trans standing.quiet

/-- **Disconnecting every device of a request** removes all the connections or none. -/
theorem disconnectAll_ends {first : Scene} {state : Detaching} {devices left : List DeviceId}
    (standing : Standing assigner first state scene)
    (onward : ∀ final, Transaction.Runs (fun id => Tables.removeConnection id assigner) left
      scene.tables final → Transaction.Runs (fun id => Tables.removeConnection id assigner) devices
      first.tables final) :
    (disconnectAll assigner devices state left).Ends around scene
      (fun state after => Standing assigner first state after ∧
        Transaction.Runs (fun id => Tables.removeConnection id assigner) devices first.tables
          after.tables)
      fun _ after => first.LeadsTo first.tables after := by
  induction left generalizing state scene with
  | nil => exact (ends_pure state).2 ⟨standing, onward scene.tables rfl⟩
  | cons device rest ih =>
    unfold disconnectAll disconnect
    rw [ends_bind, ends_outcome, ends_bind]
    refine (Pool.decreaseUsage_ends device assigner).mono ?_ ?_
    · rintro _ after ⟨⟨record, done, rfl⟩, steps⟩
      exact (ends_pure _).2 (ih (standing.disconnect done steps) fun final later =>
        onward final ⟨record, after.tables, done, later⟩)
    · rintro failure _ ⟨_, rfl⟩
      refine (Rollback.fail_ends standing.back).mono (fun _ _ => False.elim) ?_
      intro _ _ leads
      exact ⟨leads.1, leads.2.trans standing.quiet⟩

/-- What a detach leaves when it fails: everything as it was while the guest has not removed the
volume, and afterwards every connection removed. -/
def DetachFailed (assigner : String) (devices : List DeviceId) (before after : Scene) : Prop :=
  before.LeadsTo before.tables after ∨
    after.guestRemoved = true ∧
      Transaction.Runs (fun id => Tables.removeConnection id assigner) devices before.tables
        after.tables

/-- What is reported of taking a device from the guest. -/
def complaint : Taking → Option (String × String)
  | (_, .ok _) => none
  | (id, .error failure) => some (id.text, s!"{id}: {failure.message}")

theorem withdraw_ends (id : DeviceId) :
    (withdraw assigner id).Ends around scene (fun value after => ∃ answer : Outcome Unit,
      value = complaint (id, answer) ∧ after = scene.note (Taking.asked assigner (id, answer)))
      fun _ _ => False := by
  unfold withdraw
  rw [ends_bind, ends_outcome, ends_call]
  split <;> exact (ends_pure _).2 ⟨_, rfl, rfl⟩

/-- **A detach removes a connection for every mention of a device, or nothing changes**, unless the
guest has removed the volume before it failed. -/
theorem detachAlone_ends (sound : scene.tables.RecordsSound) (connection : VolumeConnection) :
    (detachAlone assigner connection).Ends around scene
      (fun _ after => Transaction.Runs (fun id => Tables.removeConnection id assigner)
        connection.devices scene.tables after.tables)
      (fun _ after => DetachFailed assigner connection.devices scene after) := by
  have start : Standing assigner scene {} scene :=
    ⟨Rollback.leadsBack_nil scene.tables, rfl, sound, rfl⟩
  unfold detachAlone
  rw [ends_bind]
  refine (disconnectAll_ends start fun _ runs => runs).mono (fun state after ended => ?_)
    fun _ _ => .inl
  obtain ⟨standing, runs⟩ := ended
  split
  · exact (ends_pure ()).2 runs
  · extract_lets removal
    rw [ends_bind, ends_outcome, ends_call]
    split
    · -- The guest has removed the volume: from here on the tables stay.
      let removed := after.note (.called (.configureDetach removal) (.ok ()))
      have done : removed.guestRemoved = true := by
        rw [Scene.note_guestRemoved]
        exact Bool.or_true _
      refine (ends_bind _ _).2 ((ends_mapM_takes (fun id _ => withdraw_ends id) _).mono ?_
        fun _ _ => False.elim)
      rintro results last ⟨takings, _, same, takes⟩
      have runs : Transaction.Runs (fun id => Tables.removeConnection id assigner)
          connection.devices scene.tables last.tables := same ▸ runs
      split
      · exact (ends_pure ()).2 runs
      · exact (ends_throw _).2 (.inr ⟨takes.guestRemoved.trans done, runs⟩)
    · next cause _ =>
      let refused := after.note (.called (.configureDetach removal) (.error cause))
      have quiet : refused.guestRemoved = scene.guestRemoved :=
        (after.leadsTo_self.note rfl).2.trans standing.quiet
      have back : state.rollback.LeadsBack assigner refused.tables scene.tables := standing.back
      refine (ends_bind _ _).2 ((Rollback.fail_ends back).mono (fun _ _ => False.elim)
        fun _ _ leads => ?_)
      exact .inl ⟨leads.1, leads.2.trans quiet⟩

end Volume

end FibrePool
