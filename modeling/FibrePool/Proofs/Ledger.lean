import FibrePool.Proofs.AllOrNothing
import FibrePool.Proofs.Counting
import FibrePool.Proofs.History
import Mathlib.Algebra.GroupWithZero.Nat

/-!
# The ledger of connections

The connections stored for a device are an account: an attach that succeeds pays in one for every
mention of the device, a detach that succeeds takes one out for every mention, and so does a detach
that failed after the guest had removed the volume.  Everything else leaves the account alone, also
what is done and undone on the way to a failure.

The balance is drawn over a history of dispatched actions in which every listing of the hypervisor
names the device, and nobody overwrites its usage.  A counter that runs over loses 4294967296
connections each time; nothing else is ever lost.
-/

namespace FibrePool

set_option autoImplicit false

open Workflow

/-! ## Entries of the ledger -/

namespace Deed

/-- How many connections of a device the deed adds. -/
def gained (id : DeviceId) (deed : Deed Action Output) : Nat :=
  match deed.asked, deed.outcome with
  | .attach connection, .ok _ => connection.devices.count id
  | _, _ => 0

/-- How many connections of a device the deed takes away.  A detach that failed has done so exactly
when the guest had removed the volume before. -/
def lost (id : DeviceId) (deed : Deed Action Output) : Nat :=
  match deed.asked, deed.outcome with
  | .detach connection, .ok _ => connection.devices.count id
  | .detach connection, .error _ =>
    if deed.seen.any Observation.isRemoval then connection.devices.count id else 0
  | _, _ => 0

end Deed

theorem Deed.eq_zero_of_quiet {deed : Deed Action Output} (quiet : deed.asked.changesUsage = false)
    (id : DeviceId) : deed.gained id = 0 ∧ deed.lost id = 0 := by
  obtain ⟨action, outcome, seen⟩ := deed
  cases action with
  | attach connection => cases quiet
  | detach connection => cases quiet
  | _ => exact ⟨rfl, rfl⟩

/-- What neither connects nor disconnects keeps the connections of a device that every listing
names. -/
theorem connections_upkeep (id : DeviceId) (count : UInt32) :
    UpkeepKeeps (Observation.Lists id) fun tables =>
      ∃ record, tables.at? id = some record ∧ record.connections = count := by
  refine upkeepKeeps_of_steps (fun stored => ∃ record, stored = some record ∧
    record.connections = count) fun touch before after upkeep step holds => ?_
  obtain ⟨record, rfl, same⟩ := holds
  cases step with
  | refreshed => exact ⟨_, rfl, same⟩
  | removed => exact absurd upkeep not_listingLacks
  | reserved => exact ⟨_, rfl, same⟩
  | released => exact ⟨_, rfl, same⟩
  | connected => cases upkeep
  | restored => cases upkeep
  | disconnected => cases upkeep
  | overwritten => cases upkeep

namespace Volume

variable {settings : OperatorSettings} {around : Surroundings} {tables : Tables} {scene : Scene}
  {outcome : Outcome Output} {id : DeviceId} {record : DeviceRecord}

theorem balance_of_attach {connection : VolumeConnection} (sound : tables.RecordsSound)
    (run : (dispatch settings (.attach connection)).run.alone around { tables } =
      (some outcome, scene)) (stored : tables.at? id = some record) :
    ∃ changed, scene.tables.at? id = some changed ∧
      changed.connections = record.connections +
        UInt32.ofNat (Deed.gained id ⟨.attach connection, outcome, scene.seen⟩) := by
  have ends : (dispatch settings (.attach connection)).Ends around { tables }
      (fun _ after => ∃ assigner, Transaction.Runs (fun id => Tables.addConnection id assigner)
        connection.devices tables after.tables)
      fun _ after => after.tables = tables := by
    rw [ends_dispatch]
    unfold Volume.run
    rw [ends_bind]
    refine (attach_ends sound connection).mono (fun _ after ended => ?_) fun _ _ same => same
    obtain ⟨assigner, _, runs⟩ := ended
    exact (ends_pure _).2 ⟨assigner, runs⟩
  cases outcome with
  | ok output =>
    obtain ⟨assigner, runs⟩ := ends.of_ok run
    exact ⟨_, Tables.at?_of_runs_addConnection runs stored, DeviceRecord.charged_connections _⟩
  | error failure =>
    rw [ends.of_error run]
    exact ⟨record, stored, (UInt32.add_zero _).symm⟩

theorem balance_of_detach {connection : VolumeConnection} (sound : tables.RecordsSound)
    (run : (dispatch settings (.detach connection)).run.alone around { tables } =
      (some outcome, scene)) (stored : tables.at? id = some record) :
    ∃ changed, scene.tables.at? id = some changed ∧
      changed.connections.toNat + Deed.lost id ⟨.detach connection, outcome, scene.seen⟩ =
        record.connections.toNat := by
  have ends : (dispatch settings (.detach connection)).Ends around { tables }
      (fun _ after => ∃ assigner, Transaction.Runs (fun id => Tables.removeConnection id assigner)
        connection.devices tables after.tables)
      fun _ after => after.tables = tables ∧ after.guestRemoved = false ∨
        after.guestRemoved = true ∧ ∃ assigner,
          Transaction.Runs (fun id => Tables.removeConnection id assigner) connection.devices tables
            after.tables := by
    rw [ends_dispatch]
    unfold Volume.run
    rw [ends_bind]
    refine (detach_ends sound connection).mono (fun _ after runs => (ends_pure _).2 runs) ?_
    rintro failure after (same | removed)
    · exact .inl (same.note rfl)
    · refine .inr ⟨?_, removed.2⟩
      rw [Scene.note_guestRemoved, removed.1, Bool.true_or]
  cases outcome with
  | ok output =>
    obtain ⟨assigner, runs⟩ := ends.of_ok run
    obtain ⟨left, kept, count⟩ := Tables.at?_of_runs_removeConnection runs stored
    exact ⟨_, kept, count⟩
  | error failure =>
    rcases ends.of_error run with ⟨same, quiet⟩ | ⟨removed, assigner, runs⟩
    · rw [same]
      refine ⟨record, stored, ?_⟩
      show record.connections.toNat + (if scene.guestRemoved = true then _ else 0) = _
      rw [quiet, if_neg Bool.false_ne_true, Nat.add_zero]
    · obtain ⟨left, kept, count⟩ := Tables.at?_of_runs_removeConnection runs stored
      refine ⟨_, kept, ?_⟩
      show left.toNat + (if scene.guestRemoved = true then _ else 0) = _
      rw [removed, if_pos rfl]
      exact count

/-- **Every deed changes the connections of a device by what it gains and loses**, and by what the
counter loses when it runs over. -/
theorem balance_of_deed {action : Action} (sound : tables.RecordsSound)
    (run : (dispatch settings action).run.alone around { tables } = (some outcome, scene))
    (listed : ∀ observation ∈ scene.seen, observation.Lists id)
    (untargeted : ∀ usage, action ≠ .setUsage id usage) (stored : tables.at? id = some record) :
    ∃ changed overflows, scene.tables.at? id = some changed ∧
      changed.connections.toNat + Deed.lost id ⟨action, outcome, scene.seen⟩ +
          overflows * 4294967296 =
        record.connections.toNat + Deed.gained id ⟨action, outcome, scene.seen⟩ := by
  have unchanged (preserves : (dispatch settings action).Preserves (Observation.Lists id)
      fun tables => ∃ changed, tables.at? id = some changed ∧
        changed.connections = record.connections) :=
    preserves.alone run ⟨record, stored, rfl⟩ listed
  cases quiet : action.changesUsage with
  | false =>
    have upkeep := connections_upkeep id record.connections
    obtain ⟨changed, kept, same⟩ :=
      unchanged (dispatch_preserves (run_preserves_of_upkeep settings upkeep quiet))
    let deed : Deed Action Output := ⟨action, outcome, scene.seen⟩
    have still : deed.asked.changesUsage = false := quiet
    obtain ⟨nothing, none⟩ := Deed.eq_zero_of_quiet still id
    exact ⟨changed, 0, kept, by rw [nothing, none, same, Nat.zero_mul]⟩
  | true =>
    cases action with
    | attach connection =>
      obtain ⟨changed, kept, added⟩ := balance_of_attach sound run stored
      obtain ⟨overflows, balance⟩ := exists_overflows record.connections
        (Deed.gained id ⟨.attach connection, outcome, scene.seen⟩)
      have none : Deed.lost id ⟨.attach connection, outcome, scene.seen⟩ = 0 := rfl
      exact ⟨changed, overflows, kept, by rw [none, added, Nat.add_zero, balance]⟩
    | detach connection =>
      obtain ⟨changed, kept, balance⟩ := balance_of_detach sound run stored
      have none : Deed.gained id ⟨.detach connection, outcome, scene.seen⟩ = 0 := rfl
      exact ⟨changed, 0, kept, by rw [none, Nat.zero_mul, Nat.add_zero, Nat.add_zero, balance]⟩
    | setUsage device usage =>
      have other : id ≠ device := fun same => untargeted usage (same ▸ rfl)
      have overwrites (usage : Usage) : (Tables.setUsage device usage).Keeps
          fun tables => ∃ changed, tables.at? id = some changed ∧
            changed.connections = record.connections := by
        intro tables _ after start done
        obtain ⟨_, _, _, rfl⟩ := Tables.setUsage_eq_ok.1 done
        rw [Tables.putRecord_at?_of_ne tables other]
        exact start
      obtain ⟨changed, kept, same⟩ := unchanged (dispatch_preserves
        ((overwriteUsage_preserves device _ (overwrites _)).bind fun _ => preserves_pure _))
      have nothing : Deed.gained id ⟨.setUsage device usage, outcome, scene.seen⟩ = 0 := rfl
      have none : Deed.lost id ⟨.setUsage device usage, outcome, scene.seen⟩ = 0 := rfl
      exact ⟨changed, 0, kept, by rw [nothing, none, same, Nat.zero_mul]⟩
    | _ => cases quiet

/-- The balance over a history that starts on sound records. -/
theorem balance_of_history {before after : Tables} {deeds : List (Deed Action Output)}
    (history : History (dispatch settings) before deeds after) (sound : before.RecordsSound)
    (listed : ∀ deed ∈ deeds, ∀ observation ∈ deed.seen, observation.Lists id)
    (untargeted : ∀ deed ∈ deeds, ∀ usage, deed.asked ≠ .setUsage id usage)
    (stored : before.at? id = some record) :
    ∃ changed overflows, after.at? id = some changed ∧
      changed.connections.toNat + (deeds.map (Deed.lost id)).sum + overflows * 4294967296 =
        record.connections.toNat + (deeds.map (Deed.gained id)).sum := by
  induction history generalizing record with
  | rest tables => exact ⟨record, 0, stored, by simp⟩
  | @deed before after action outcome scene deeds around run later ih =>
    obtain ⟨listed, listed'⟩ := List.forall_mem_cons.1 listed
    obtain ⟨untargeted, untargeted'⟩ := List.forall_mem_cons.1 untargeted
    obtain ⟨middle, here, kept, balance⟩ := balance_of_deed sound run listed untargeted stored
    have recordsKept : (dispatch settings action).Preserves (fun _ => True) Tables.RecordsSound :=
      dispatch_preserves
        (run_preserves settings (recordsSound_upkeep _) recordsSound_usageChanges action)
    have sound' := recordsKept.alone run sound fun _ _ => trivial
    obtain ⟨changed, onward, final, balance'⟩ := ih sound' listed' untargeted' kept
    refine ⟨changed, here + onward, final, ?_⟩
    rw [List.map_cons, List.map_cons, List.sum_cons, List.sum_cons]
    omega

end Volume

/-- **The connections stored for a device are those at the start, with every connection that the
deeds gained and without every one that they lost**, as long as 32 bits can hold the balance.  In
any case only multiples of 4294967296 are missing. -/
theorem connections_balance {settings : OperatorSettings} {scheduler : Scheduler (Outcome Output)}
    (reached : scheduler.Reached (Volume.Dispatched settings)) {after : Tables}
    {deeds : List (Deed Action Output)}
    (history : History (Volume.dispatch settings) scheduler.store.tables deeds after)
    {id : DeviceId} {record : DeviceRecord}
    (stored : scheduler.store.tables.devices.get? id = some record)
    (listed : ∀ deed ∈ deeds, ∀ observation ∈ deed.seen, observation.Lists id)
    (untargeted : ∀ deed ∈ deeds, ∀ usage, deed.asked ≠ .setUsage id usage) :
    ∃ changed, after.devices.get? id = some changed ∧
      (record.connections.toNat + (deeds.map (Deed.gained id)).sum <
          (deeds.map (Deed.lost id)).sum + 4294967296 →
        changed.connections.toNat + (deeds.map (Deed.lost id)).sum =
          record.connections.toNat + (deeds.map (Deed.gained id)).sum) ∧
      ∃ overflows, changed.connections.toNat + (deeds.map (Deed.lost id)).sum +
          overflows * 4294967296 =
        record.connections.toNat + (deeds.map (Deed.gained id)).sum := by
  obtain ⟨changed, overflows, kept, balance⟩ :=
    Volume.balance_of_history history reached.recordsSound listed untargeted stored
  exact ⟨changed, kept, by omega, overflows, balance⟩

/-! ## Two deeds -/

namespace Sample

/-- A guest that does what it is asked, and a directory that takes nothing back. -/
def willing : Surroundings where
  stamp _ := default
  answer _
    | .listDevices _ => .ok ""
    | .guestExists _ => .ok true
    | .dedicate _ _ => .ok ()
    | .undedicate _ _ => .error (.internal "not taken back")
    | .configureAttach _ => .ok ()
    | .configureDetach _ => .ok ()

/-- An attach, with the tables that it leaves. -/
def attached : Deed Action Output × Tables :=
  carryOut (Volume.dispatch settings) willing (.attach volume) prepared.store.tables

/-- The detach after it. -/
def detached : Deed Action Output × Tables :=
  carryOut (Volume.dispatch settings) willing (.detach volume) attached.2

/-- Both of them, in order. -/
def deeds : List (Deed Action Output) := [attached.1, detached.1]

end Sample

/-- The detach fails at its last step, and its connections are gone all the same. -/
theorem connections_balance_attach_detach :
    ∃ changed, Sample.detached.2.devices.get? Sample.device = some changed ∧
      (Sample.deeds.map (Deed.gained Sample.device)).sum = 2 ∧
      changed.connections.toNat + 2 = 0 + 2 := by
  have history : History (Volume.dispatch Sample.settings) Sample.prepared.store.tables
      Sample.deeds Sample.detached.2 :=
    history_of_carryOut rfl (by decide +kernel)
      (history_of_carryOut rfl (by decide +kernel) (.rest _))
  have listed : ∀ deed ∈ Sample.deeds, ∀ observation ∈ deed.seen,
      observation.Lists Sample.device := by decide +kernel
  have untargeted : ∀ deed ∈ Sample.deeds, ∀ usage,
      deed.asked ≠ .setUsage Sample.device usage := by
    simp [Sample.deeds, Sample.attached, Sample.detached, carryOut]
  have stored : Sample.prepared.store.tables.devices.get? Sample.device =
      some (.placeholder Sample.device) := by decide +kernel
  have gained : (Sample.deeds.map (Deed.gained Sample.device)).sum = 2 := by decide +kernel
  have lost : (Sample.deeds.map (Deed.lost Sample.device)).sum = 2 := by decide +kernel
  obtain ⟨changed, kept, balance, _⟩ :=
    connections_balance Sample.prepared_reached history stored listed untargeted
  rw [gained, lost] at balance
  exact ⟨changed, kept, gained, balance (by decide)⟩

end FibrePool
