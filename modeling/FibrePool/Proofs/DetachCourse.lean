import FibrePool.Proofs.AttachCourse
import Mathlib.Algebra.Order.BigOperators.Group.Finset

/-!
# The course of a detach

A detach removes its connections before it asks anybody, then has the guest remove the volume, and
at last takes back the devices that have no connection left.  `DetachCourse` says for every pattern
of answers which calls are made, which tables are left and how the detach ends.

The devices that are taken back are those of the list that are idle in the end, each of them once,
in the order in which they lost their last connection (`Volume.Drained`).  None of them is skipped
when another cannot be taken (`detach_takes_drained_devices`).

With the removal the guest is told how many connections are left.  They are counted while they are
removed, after every single removal, so a device that is named several times is counted as often,
and before it has lost all that it loses.  And they are counted with 32 bits.  So the number is that
of the connections that are left on the devices only when the list names each device once and 32
bits can hold it (`detach_counts_remaining_connections`).
-/

namespace FibrePool

set_option autoImplicit false

open Workflow

/-! ## Connections that are left -/

namespace Tables

variable {assigner : String} {now after : Tables} {id : DeviceId}

/-- The connections that are stored for a device. -/
def connectionsOf (tables : Tables) (id : DeviceId) : Nat :=
  ((tables.at? id).map (·.connections.toNat)).getD 0

theorem connectionsOf_of_at? {record : DeviceRecord} (stored : now.at? id = some record) :
    now.connectionsOf id = record.connections.toNat := by
  rw [connectionsOf, stored]
  rfl

/-- What is counted as left while a list is gone through that leads to the tables: for every mention
of a device its connections then, which are those at the end and one for every later mention. -/
def counted (tables : Tables) : List DeviceId → Nat
  | [] => 0
  | id :: rest => tables.connectionsOf id + rest.count id + tables.counted rest

theorem connectionsOf_removeConnection {result : DeviceRecord}
    (removed : removeConnection id assigner now = .ok (result, after)) :
    after.connectionsOf id = result.connections.toNat ∧
      now.connectionsOf id = result.connections.toNat + 1 := by
  obtain ⟨record, stored, made, _, rfl⟩ := modifyRecord_eq_ok.1 removed
  obtain ⟨busy, _, rfl⟩ := disconnected_eq_ok.1 made
  rw [connectionsOf_of_at? stored, connectionsOf_of_at? (putRecord_at?_self _ _ _)]
  exact ⟨rfl, (toNat_sub_one_add_one busy).symm⟩

/-- Every removal counts what it leaves. -/
theorem counted_snoc {result : DeviceRecord}
    (removed : removeConnection id assigner now = .ok (result, after)) (done : List DeviceId) :
    after.counted (done ++ [id]) = now.counted done + result.connections.toNat := by
  obtain ⟨left, before⟩ := connectionsOf_removeConnection removed
  induction done with
  | nil => simp [counted, left]
  | cons device rest ih =>
    rw [List.cons_append, counted, counted, ih, List.count_append]
    by_cases same : device = id
    · subst same
      rw [left, before, List.count_singleton_self]
      omega
    · rw [connectionsOf, connectionsOf, at?_of_removeConnection removed device same,
        List.count_singleton, if_neg (by simpa using Ne.symm same)]
      omega

/-- **What is counted is at least what is left, and no more than that exactly for lists that name no
device twice.** -/
theorem sum_le_counted (tables : Tables) (devices : List DeviceId) :
    ∑ id ∈ devices.toFinset, tables.connectionsOf id ≤ tables.counted devices ∧
      (tables.counted devices = ∑ id ∈ devices.toFinset, tables.connectionsOf id ↔
        devices.Nodup) := by
  induction devices with
  | nil => simp [counted]
  | cons id rest ih =>
    obtain ⟨least, exact_iff⟩ := ih
    rw [List.toFinset_cons, counted, List.nodup_cons, ← exact_iff]
    by_cases named : id ∈ rest
    · have again : 0 < rest.count id := List.count_pos_iff.2 named
      rw [Finset.insert_eq_of_mem (List.mem_toFinset.2 named)]
      refine ⟨by omega, fun same => by omega, fun single => absurd named single.1⟩
    · rw [Finset.sum_insert (fun listed => named (List.mem_toFinset.1 listed)),
        List.count_eq_zero_of_not_mem named]
      refine ⟨by omega, fun same => ⟨named, by omega⟩, fun single => by omega⟩

end Tables

/-! ## Devices that lose their last connection -/

namespace Volume

/-- The devices of a list that have lost their last connection when connections were removed for the
list, in the order in which they lost it. -/
structure Drained (assigner : String) (before : Tables) (devices : List DeviceId) (after : Tables)
    (drained : List DeviceId) : Prop where
  single : drained.Nodup
  idle : ∀ id, id ∈ drained ↔ id ∈ devices ∧ after.isIdle id = true
  ordered : drained.Pairwise fun first second => ∃ earlier later middle,
    earlier ++ later = devices ∧
    Transaction.Runs (fun id => Tables.removeConnection id assigner) earlier before middle ∧
    middle.isIdle first = true ∧ middle.isIdle second = false

variable {assigner : String} {before now after : Tables} {done drained : List DeviceId}
  {id : DeviceId}

theorem drained_nil (before : Tables) : Drained assigner before [] before [] where
  single := List.nodup_nil
  idle := by simp
  ordered := .nil

/-- The device of one more removal joins the drained ones when it has no connection left. -/
theorem Drained.snoc {result : DeviceRecord} (sofar : Drained assigner before done now drained)
    (runs : Transaction.Runs (fun id => Tables.removeConnection id assigner) done before now)
    (removed : Tables.removeConnection id assigner now = .ok (result, after)) :
    Drained assigner before (done ++ [id]) after
      (drained ++ if result.connections = 0 then [id] else []) := by
  obtain ⟨busy, _⟩ := Tables.isIdle_removeConnection removed
  have absent : id ∉ drained := fun listed => by
    rw [((sofar.idle id).1 listed).2] at busy
    cases busy
  constructor
  · split
    · exact List.nodup_append.2 ⟨sofar.single, List.nodup_singleton id, by
        rintro other listed _ last rfl
        exact absent (List.mem_singleton.1 last ▸ listed)⟩
    · rw [List.append_nil]
      exact sofar.single
  · intro other
    have joined := mem_drained_of_removeConnection sofar.idle removed other
    rw [← joined]
    split <;> simp [or_comm]
  · have kept : drained.Pairwise fun first second => ∃ earlier later middle,
        earlier ++ later = done ++ [id] ∧
        Transaction.Runs (fun id => Tables.removeConnection id assigner) earlier before middle ∧
        middle.isIdle first = true ∧ middle.isIdle second = false := by
      refine sofar.ordered.imp ?_
      rintro first second ⟨earlier, later, middle, whole, known⟩
      exact ⟨earlier, later ++ [id], middle, by rw [← whole, List.append_assoc], known⟩
    refine List.pairwise_append.2 ⟨kept, ?_, ?_⟩
    · split <;> simp
    · -- All that was drained before is idle while the last device still has its connection.
      intro first listed second last
      split at last
      · obtain rfl := List.mem_singleton.1 last
        exact ⟨done, [second], now, rfl, runs, ((sofar.idle first).1 listed).2, busy⟩
      · cases last

/-! ## The loop -/

variable {around : Surroundings} {scene : Scene}

/-- Where a detach stands that has removed connections of the devices `done`. -/
structure Removing (assigner : String) (first : Scene) (done : List DeviceId) (state : Detaching)
    (now : Scene) : Prop where
  standing : Standing assigner first state now
  runs : Transaction.Runs (fun id => Tables.removeConnection id assigner) done first.tables
    now.tables
  calls : now.calls = first.calls
  dedicated : state.rollback.dedicated = []
  disconnected : state.rollback.disconnected = done.reverse
  remaining : state.remaining = UInt32.ofNat (now.tables.counted done)
  drained : Drained assigner first.tables done now.tables state.drained.reverse

theorem removing_nil (sound : scene.tables.RecordsSound) : Removing assigner scene [] {} scene where
  standing := ⟨Rollback.leadsBack_nil scene.tables, rfl, sound, rfl⟩
  runs := rfl
  calls := rfl
  dedicated := rfl
  disconnected := rfl
  remaining := rfl
  drained := drained_nil scene.tables

theorem Removing.disconnect {first now after : Scene} {done : List DeviceId} {state : Detaching}
    {record : DeviceRecord} (removing : Removing assigner first done state now)
    (removed : Tables.removeConnection id assigner now.tables = .ok (record, after.tables))
    (steps : now.StepsTo after.tables after) :
    Removing assigner first (done ++ [id]) (state.next id record.connections) after where
  standing := removing.standing.disconnect removed steps
  runs := removing.runs.snoc removed
  calls := steps.2.trans removing.calls
  dedicated := removing.dedicated
  disconnected := by
    rw [List.reverse_append, ← removing.disconnected]
    rfl
  remaining := by
    rw [Tables.counted_snoc removed, UInt32.ofNat_add, ← removing.remaining, UInt32.ofNat_toNat]
    rfl
  drained := by
    have more := removing.drained.snoc removing.runs removed
    rw [Detaching.next]
    split
    · next last =>
      rw [if_pos last] at more
      rw [List.reverse_cons]
      exact more
    · next left =>
      rw [if_neg left, List.append_nil] at more
      exact more

/-- What is put back when connections of the devices `done` were removed. -/
theorem Removing.restored {first now : Scene} {done : List DeviceId} {state : Detaching}
    (removing : Removing assigner first done state now) :
    state.rollback.restored = done.reverse.map DeviceId.text := by
  rw [Rollback.restored, removing.standing.nothing, removing.disconnected, List.map_nil,
    List.nil_append]

/-- A failure while nothing has been dedicated asks for nothing back. -/
theorem Removing.fails {α : Type} {first now : Scene} {done devices : List DeviceId}
    {state : Detaching} {cause : Failure} (removing : Removing assigner first done state now)
    (noted : Scene) (same : noted.tables = now.tables) :
    Ends around (state.rollback.fail "detach" assigner devices cause : Workflow α) noted
      (fun _ _ => False) fun failure last => last.tables = first.tables ∧
        last.calls = noted.calls ∧
        Rollback.Told "detach" devices (done.reverse.map DeviceId.text) cause [] failure := by
  have back : state.rollback.LeadsBack assigner noted.tables first.tables :=
    same ▸ removing.standing.back
  refine (Rollback.fail_tells back).mono (fun _ _ => False.elim) ?_
  rintro failure last ⟨origin, takings, takes, told⟩
  obtain rfl : takings = [] := List.map_eq_nil_iff.1 (takes.devices.trans removing.dedicated)
  rw [removing.restored] at told
  exact ⟨origin, takes.calls.trans (List.append_nil _), told⟩

/-- **Disconnecting the devices of a request asks nobody.**  When one is refused, this is told. -/
theorem disconnectAll_course {first : Scene} {state : Detaching} {done left : List DeviceId}
    (removing : Removing assigner first done state scene) :
    (disconnectAll assigner (done ++ left) state left).Ends around scene
      (fun state now => Removing assigner first (done ++ left) state now)
      fun failure now => now.tables = first.tables ∧ now.calls = first.calls ∧
        ∃ earlier id rest middle cause, done ++ left = earlier ++ id :: rest ∧
          Transaction.Runs (fun id => Tables.removeConnection id assigner) earlier first.tables
            middle ∧
          Tables.removeConnection id assigner middle = .error cause ∧
          Rollback.Told "detach" (done ++ left) (earlier.reverse.map DeviceId.text) cause []
            failure := by
  induction left generalizing state scene done with
  | nil =>
    rw [List.append_nil]
    exact (ends_pure state).2 removing
  | cons id rest ih =>
    unfold disconnectAll disconnect
    rw [ends_bind, ends_outcome, ends_bind]
    refine (Pool.decreaseUsage_ends id assigner).mono ?_ ?_
    · rintro _ after ⟨⟨record, removed, rfl⟩, steps⟩
      have further := ih (removing.disconnect removed steps)
      rw [← List.append_cons] at further
      exact (ends_pure _).2 further
    · rintro cause _ ⟨refused, rfl⟩
      refine (removing.fails _ rfl).mono (fun _ _ => False.elim) ?_
      rintro failure last ⟨origin, calls, told⟩
      exact ⟨origin, calls.trans removing.calls, done, id, rest, _, cause, rfl, removing.runs,
        refused, told⟩

/-! ## The course -/

/-- What the guest is asked to remove when a detach has led to the tables.  It is told what was
counted, as far as 32 bits can hold it. -/
def removalOf (connection : VolumeConnection) (user : String) (now : Tables) : GuestRemoval where
  volume := connection.inGuest user
  remainingConnections := UInt32.ofNat (now.counted connection.devices)

/-- What is told is what was counted exactly when it has 32 bits. -/
theorem toNat_remaining_eq_iff {connection : VolumeConnection} {user : String} {now : Tables} :
    (removalOf connection user now).remainingConnections.toNat = now.counted connection.devices ↔
      now.counted connection.devices < 4294967296 := by
  rw [removalOf, UInt32.toNat_ofNat']
  exact Nat.mod_eq_iff_lt (by decide)

/-- The failure of a detach that names the devices which could not be taken back, and nothing that
was undone. -/
def notTaken (refused : List (DeviceId × Failure)) : Failure :=
  .operation "detach"
    ("undedicate failed: " ++ "; ".intercalate (refused.map fun refusal =>
      s!"{refusal.1}: {refusal.2.message}"))
    (refused.map (·.1.text)) []

/-- How a detach ends that has asked for devices once the volume was removed. -/
def endAfter (takings : List Taking) : Outcome Output :=
  if refusals takings = [] then .ok .done else .error (notTaken (refusals takings))

/-- What a detach asks from the tables `before` on, which tables it leaves, and how it ends. -/
inductive DetachCourse (connection : VolumeConnection) (user : String) (before : Tables) :
    List Observation → Tables → Outcome Output → Prop where
  | /-- A connection cannot be removed; nothing has been asked of anybody. -/
    refused {done rest : List DeviceId} {id : DeviceId} {middle : Tables} {cause failure : Failure}
    (place : connection.devices = done ++ id :: rest)
    (removed : Transaction.Runs (fun id => Tables.removeConnection id user) done before middle)
    (refused : Tables.removeConnection id user middle = .error cause)
    (told : Rollback.Told "detach" connection.devices (done.reverse.map DeviceId.text) cause []
      failure) :
    DetachCourse connection user before [] before (.error failure)
  | /-- Only the connections are counted. -/
    counted {after : Tables}
    (removed : Transaction.Runs (fun id => Tables.removeConnection id user) connection.devices
      before after)
    (skips : connection.skipsSideEffects = true) :
    DetachCourse connection user before [] after (.ok .done)
  | /-- The guest keeps the volume, and the connections are added again. -/
    kept {now : Tables} {cause failure : Failure}
    (removed : Transaction.Runs (fun id => Tables.removeConnection id user) connection.devices
      before now)
    (acts : connection.skipsSideEffects = false)
    (told : Rollback.Told "detach" connection.devices
      (connection.devices.reverse.map DeviceId.text) cause [] failure) :
    DetachCourse connection user before
      [.called (.configureDetach (removalOf connection user now)) (.error cause)] before
      (.error failure)
  | /-- The guest has removed the volume, and the drained devices are taken back. -/
    removed {after : Tables} {takings : List Taking}
    (removed : Transaction.Runs (fun id => Tables.removeConnection id user) connection.devices
      before after)
    (acts : connection.skipsSideEffects = false)
    (drained : Drained user before connection.devices after (takings.map (·.1))) :
    DetachCourse connection user before
      (.called (.configureDetach (removalOf connection user after)) (.ok ()) ::
        takings.map (Taking.asked user)) after (endAfter takings)

/-- What is complained of are the devices that could not be taken. -/
theorem complaints_eq (takings : List Taking) :
    (takings.map complaint).filterMap (fun told => told) = (refusals takings).map fun refusal =>
      (refusal.1.text, s!"{refusal.1}: {refusal.2.message}") := by
  rw [List.filterMap_map, refusals, List.map_filterMap]
  congr 1
  funext taking
  obtain ⟨id, _ | _⟩ := taking <;> rfl

theorem notWithdrawn_eq (refused : List (DeviceId × Failure)) :
    notWithdrawn (refused.map fun refusal =>
      (refusal.1.text, s!"{refusal.1}: {refusal.2.message}")) = notTaken refused := by
  rw [notWithdrawn, notTaken, List.map_map, List.map_map]
  rfl

/-- Once the volume is removed the drained devices are taken back, each of them whatever became of
the others. -/
theorem withdrawAll_course {first now : Scene} {connection : VolumeConnection} {state : Detaching}
    (removing : Removing assigner first connection.devices state now)
    (acts : connection.skipsSideEffects = false) :
    Ends around (do
      let results ← state.drained.reverse.mapM (withdraw assigner)
      match results.filterMap fun told => told with
      | [] => return
      | failed => throw (notWithdrawn failed))
      (now.note (.called (.configureDetach (removalOf connection assigner now.tables)) (.ok ())))
      (fun _ last => ∃ calls, last.calls = first.calls ++ calls ∧
        DetachCourse connection assigner first.tables calls last.tables (.ok .done))
      fun failure last => ∃ calls, last.calls = first.calls ++ calls ∧
        DetachCourse connection assigner first.tables calls last.tables (.error failure) := by
  refine (ends_bind _ _).2 ((ends_mapM_takes (fun id _ => withdraw_ends id) _).mono ?_
    fun _ _ => False.elim)
  rintro results last ⟨takings, rfl, same, takes⟩
  have course : DetachCourse connection assigner first.tables
      (.called (.configureDetach (removalOf connection assigner now.tables)) (.ok ()) ::
        takings.map (Taking.asked assigner)) last.tables (endAfter takings) := by
    rw [same, Scene.note_tables]
    exact .removed removing.runs acts (takes.devices ▸ removing.drained)
  have made : last.calls = first.calls ++
      .called (.configureDetach (removalOf connection assigner now.tables)) (.ok ()) ::
        takings.map (Taking.asked assigner) := by
    rw [takes.calls, Scene.note_calls, removing.calls, List.append_assoc]
    rfl
  have complaints := complaints_eq takings
  split
  · next none =>
    have all : refusals takings = [] := List.map_eq_nil_iff.1 (complaints.symm.trans none)
    rw [endAfter, if_pos all] at course
    exact (ends_pure ()).2 ⟨_, made, course⟩
  · next failed some =>
    rw [endAfter, if_neg fun all => some (complaints.trans (by rw [all]; rfl)),
      ← notWithdrawn_eq, ← complaints] at course
    exact (ends_throw _).2 ⟨_, made, course⟩

/-- **A detach goes its course**, asking for what is on it and nothing else. -/
theorem detachAlone_course (sound : scene.tables.RecordsSound) (connection : VolumeConnection) :
    (detachAlone assigner connection).Ends around scene
      (fun _ now => ∃ calls, now.calls = scene.calls ++ calls ∧
        DetachCourse connection assigner scene.tables calls now.tables (.ok .done))
      fun failure now => ∃ calls, now.calls = scene.calls ++ calls ∧
        DetachCourse connection assigner scene.tables calls now.tables (.error failure) := by
  unfold detachAlone
  rw [ends_bind]
  refine (disconnectAll_course (removing_nil sound)).mono ?_ ?_
  · intro state now removing
    rw [List.nil_append] at removing
    split
    · next skips =>
      exact (ends_pure ()).2 ⟨[], by rw [removing.calls, List.append_nil],
        .counted removing.runs skips⟩
    · next acts =>
      have acts := Bool.eq_false_iff.2 acts
      extract_lets removal
      have asked : removal = removalOf connection assigner now.tables := by
        rw [removalOf, ← removing.remaining]
      clear_value removal
      subst asked
      rw [ends_bind, ends_outcome, ends_call]
      split
      · exact withdrawAll_course removing acts
      · next cause _ =>
        let refused := now.note (.called
          (.configureDetach (removalOf connection assigner now.tables)) (.error cause))
        refine (ends_bind _ _).2 ((removing.fails refused rfl).mono (fun _ _ => False.elim) ?_)
        rintro failure last ⟨origin, calls, told⟩
        rw [origin]
        refine ⟨_, ?_, .kept removing.runs acts told⟩
        rw [calls, Scene.note_calls, removing.calls]
        rfl
  · rintro failure now ⟨origin, calls, done, id, rest, middle, cause, place, removed, refused, told⟩
    rw [origin]
    exact ⟨[], by rw [calls, List.append_nil], .refused place removed refused told⟩

theorem detach_course {connection : VolumeConnection}
    (present : guestName connection.assigner ≠ "") (named : connection.devices ≠ [])
    (sound : scene.tables.RecordsSound) :
    (detach connection).Ends around scene
      (fun _ now => ∃ calls, now.calls = scene.calls ++ calls ∧
        DetachCourse connection (guestName connection.assigner) scene.tables calls now.tables
          (.ok .done))
      fun failure now => ∃ calls, now.calls = scene.calls ++ calls ∧
        DetachCourse connection (guestName connection.assigner) scene.tables calls now.tables
          (.error failure) := by
  unfold detach
  rw [ends_bind, requiredGuest_eq_ok.2 ⟨present, rfl⟩, ends_ofOutcome]
  dsimp only
  rw [ends_bind, requiredDevices_of_ne_nil named, ends_ofOutcome]
  dsimp only
  rw [ends_holding]
  exact detachAlone_course sound connection

/-- A dispatched detach goes its course. -/
theorem detach_goes_course {settings : OperatorSettings} {tables : Tables}
    {connection : VolumeConnection} (present : guestName connection.assigner ≠ "")
    (named : connection.devices ≠ []) (sound : tables.RecordsSound) (around : Surroundings) :
    ∃ outcome after, (dispatch settings (.detach connection)).run.alone around { tables } =
        (some outcome, after) ∧
      DetachCourse connection (guestName connection.assigner) tables after.calls after.tables
        outcome := by
  refine Ends.exists_run (fun outcome now => DetachCourse connection
    (guestName connection.assigner) tables now.calls now.tables outcome) ?_
  refine ends_dispatch.2 ((ends_bind _ _).2 ((detach_course present named sound).mono ?_ ?_))
  · rintro _ now ⟨calls, made, course⟩
    refine (ends_pure _).2 ?_
    rw [calls_finished, made]
    exact course
  · rintro failure now ⟨calls, made, course⟩
    rw [calls_finished, made]
    exact course

/-- A detach that names no guest or no device asks nobody. -/
theorem detach_calls_nobody {settings : OperatorSettings} {tables : Tables}
    {connection : VolumeConnection}
    (invalid : ¬ (guestName connection.assigner ≠ "" ∧ connection.devices ≠ []))
    (around : Surroundings) :
    ∃ outcome after, (dispatch settings (.detach connection)).run.alone around { tables } =
      (some outcome, after) ∧ after.calls = [] := by
  refine Ends.exists_run (fun _ now => now.calls = []) (ends_dispatch.2 ((ends_bind _ _).2 ?_))
  unfold detach
  rw [ends_bind, ends_ofOutcome]
  split
  · next assigner checked =>
    obtain ⟨present, rfl⟩ := requiredGuest_eq_ok.1 checked
    have none : connection.devices = [] := Classical.not_not.1 fun named => invalid ⟨present, named⟩
    rw [none]
    exact (ends_bind _ _).2 ((ends_ofOutcome _).2 calls_finished)
  · exact calls_finished

/-! ## What the course says -/

section Course

variable {connection : VolumeConnection} {user : String} {calls : List Observation}
  {outcome : Outcome Output}

/-- Whoever is asked to remove the volume is told what was counted. -/
theorem DetachCourse.of_asked {removal : GuestRemoval} {answer : Outcome Unit}
    (course : DetachCourse connection user before calls after outcome)
    (asked : .called (.configureDetach removal) answer ∈ calls) :
    ∃ now, Transaction.Runs (fun id => Tables.removeConnection id user) connection.devices before
        now ∧
      removal = removalOf connection user now ∧ (answer = .ok () → after = now) := by
  have apart (takings : List Taking) :
      .called (.configureDetach removal) answer ∉ takings.map (Taking.asked user) := by
    rw [List.mem_map]
    rintro ⟨_, _, same⟩
    cases same
  cases course with
  | refused _ _ _ _ => cases asked
  | counted _ _ => cases asked
  | kept removed _ _ =>
    cases List.mem_singleton.1 asked
    exact ⟨_, removed, rfl, fun same => by cases same⟩
  | removed removed _ _ =>
    rcases List.mem_cons.1 asked with same | listed
    · cases same
      exact ⟨_, removed, rfl, fun _ => rfl⟩
    · exact (apart _ listed).elim

/-- When all connections can be removed the guest is asked to remove the volume, and afterwards for
the drained devices. -/
theorem DetachCourse.of_runs {final : Tables}
    (course : DetachCourse connection user before calls after outcome)
    (acts : connection.skipsSideEffects = false)
    (runs : Transaction.Runs (fun id => Tables.removeConnection id user) connection.devices before
      final) :
    ∃ answer takings, calls = .called (.configureDetach (removalOf connection user final)) answer ::
        takings.map (Taking.asked user) ∧
      (answer = .ok () → after = final ∧
        Drained user before connection.devices final (takings.map (·.1)) ∧
        outcome = endAfter takings) := by
  cases course with
  | refused place removed refused _ =>
    rw [place] at runs
    obtain ⟨_, _, changed⟩ := runs.exists_ok removed
    cases changed.symm.trans refused
  | counted _ skips => cases acts.symm.trans skips
  | kept removed _ _ =>
    cases runs.unique removed
    exact ⟨_, [], rfl, fun same => by cases same⟩
  | @removed _ takings removed _ drained =>
    cases runs.unique removed
    exact ⟨_, takings, rfl, fun _ => ⟨rfl, drained, rfl⟩⟩

end Course

end Volume

/-! ## A dispatched detach -/

/-- **A detach whose connections can all be removed takes back exactly the devices that are left
without one.**  It asks the guest to remove the volume, and once that is done for every drained
device, once each, in the order in which they were drained and however many of them are refused.  It
fails when some are, naming these and nothing as put back; the connections stay removed. -/
theorem detach_takes_drained_devices {settings : OperatorSettings}
    {scheduler : Scheduler (Outcome Output)}
    (reached : scheduler.Reached (Volume.Dispatched settings))
    {connection : VolumeConnection} (present : guestName connection.assigner ≠ "")
    (named : connection.devices ≠ []) (acts : connection.skipsSideEffects = false) {final : Tables}
    (removed : Transaction.Runs
      (fun id => Tables.removeConnection id (guestName connection.assigner)) connection.devices
      scheduler.store.tables final) (around : Surroundings) :
    ∃ outcome after answer takings,
      (Volume.dispatch settings (.detach connection)).run.alone around
        { tables := scheduler.store.tables } = (some outcome, after) ∧
      after.calls = .called (.configureDetach
          (Volume.removalOf connection (guestName connection.assigner) final)) answer ::
        takings.map (Taking.asked (guestName connection.assigner)) ∧
      (answer = .ok () → after.tables = final ∧
        Volume.Drained (guestName connection.assigner) scheduler.store.tables connection.devices
          final (takings.map (·.1)) ∧
        outcome = Volume.endAfter takings) := by
  obtain ⟨outcome, after, run, course⟩ :=
    Volume.detach_goes_course present named reached.recordsSound around
  obtain ⟨answer, takings, calls, ended⟩ := course.of_runs acts removed
  exact ⟨outcome, after, answer, takings, run, calls, ended⟩

/-- The operator after the broad volume was attached. -/
def Sample.broadAttached : Scheduler (Outcome Output) :=
  (broad.start (Volume.dispatch settings (.attach broadVolume)).run).2.settle 40

theorem Sample.broadAttached_reached :
    Sample.broadAttached.Reached (Volume.Dispatched Sample.settings) :=
  Scheduler.Reached.settle (.started broad_reached ⟨_, rfl⟩) 40

/-- A directory that keeps the device which is drained first. -/
def Sample.clinging : Surroundings where
  stamp _ := default
  answer _
    | .configureDetach _ => .ok ()
    | .undedicate device _ => if device = .ofNat 0x1a01 then .error (.internal "busy") else .ok ()
    | _ => .error (.internal "refused")

theorem Sample.broadAttached_covers : ∀ id ∈ Sample.broadVolume.devices,
    Sample.broadAttached.store.tables.Covers "A" id (Sample.broadVolume.devices.count id) := by
  have stored (id : DeviceId) (count : UInt32)
      (found : Sample.broadAttached.store.tables.at? id =
        some { DeviceRecord.placeholder id with
          reserved := true, assigner := "A", connections := count }) :
      Sample.broadAttached.store.tables.Covers "A" id count.toNat :=
    ⟨_, found, rfl, rfl, Nat.le_refl count.toNat⟩
  intro id member
  rcases List.mem_cons.1 member with rfl | member
  · exact stored _ 2 (by decide +kernel)
  · rcases List.mem_cons.1 member with rfl | member
    · exact stored _ 1 (by decide +kernel)
    · obtain rfl := List.mem_singleton.1 member
      exact stored _ 2 (by decide +kernel)

/-- Both devices are asked for, though the first one cannot be taken. -/
theorem detach_takes_drained_devices_from_clinging_directory :
    ∃ outcome after final takings,
      (Volume.dispatch Sample.settings (.detach Sample.broadVolume)).run.alone Sample.clinging
        { tables := Sample.broadAttached.store.tables } = (some outcome, after) ∧
      after.tables = final ∧ after.calls.length = 3 ∧
      Volume.Drained "A" Sample.broadAttached.store.tables Sample.broadVolume.devices final
        (takings.map (·.1)) ∧
      outcome = Volume.endAfter takings := by
  have name : guestName Sample.broadVolume.assigner = "A" := by decide +kernel
  have present : guestName Sample.broadVolume.assigner ≠ "" := by rw [name]; decide
  obtain ⟨final, removed⟩ := Tables.exists_runs_removeConnection (show "A" ≠ "" by decide)
    Sample.broadAttached_covers
  obtain ⟨outcome, after, answer, takings, run, calls, ended⟩ := detach_takes_drained_devices
    Sample.broadAttached_reached present (by decide) rfl (name.symm ▸ removed) Sample.clinging
  have seen : (fun scene : Scene => (scene.calls.head?.map Observation.isRemoval,
      scene.calls.length))
      ((Volume.dispatch Sample.settings (.detach Sample.broadVolume)).run.alone Sample.clinging
        { tables := Sample.broadAttached.store.tables }).2 = (some true, 3) := by
    decide +kernel
  rw [run] at seen
  obtain ⟨granted, made⟩ := Prod.mk.inj seen
  rw [calls] at granted
  rw [name] at ended
  cases answer with
  | error cause => cases granted
  | ok done =>
    obtain ⟨same, drained, ending⟩ := ended rfl
    exact ⟨outcome, after, final, takings, run, same, made, drained, ending⟩

/-- **A detach tells the guest how many connections it counted.**  When it asks for the removal of
the volume the connections are removed.  The number told is that of the connections then left on the
devices of the list when no device is named twice, provided that it has 32 bits.  When a device is
named twice it is another number, at least where what was counted has 32 bits. -/
theorem detach_counts_remaining_connections {settings : OperatorSettings}
    {scheduler : Scheduler (Outcome Output)}
    (reached : scheduler.Reached (Volume.Dispatched settings)) (connection : VolumeConnection)
    (around : Surroundings) :
    ∃ outcome after, (Volume.dispatch settings (.detach connection)).run.alone around
        { tables := scheduler.store.tables } = (some outcome, after) ∧
      ∀ removal answer, .called (.configureDetach removal) answer ∈ after.calls → ∃ now,
        Transaction.Runs (fun id => Tables.removeConnection id (guestName connection.assigner))
          connection.devices scheduler.store.tables now ∧
        (answer = .ok () → after.tables = now) ∧
        removal = Volume.removalOf connection (guestName connection.assigner) now ∧
        (connection.devices.Nodup →
          (removal.remainingConnections.toNat =
              ∑ id ∈ connection.devices.toFinset, now.connectionsOf id ↔
            ∑ id ∈ connection.devices.toFinset, now.connectionsOf id < 4294967296)) ∧
        (now.counted connection.devices < 4294967296 →
          (removal.remainingConnections.toNat =
              ∑ id ∈ connection.devices.toFinset, now.connectionsOf id ↔
            connection.devices.Nodup)) := by
  by_cases valid : guestName connection.assigner ≠ "" ∧ connection.devices ≠ []
  · obtain ⟨outcome, after, run, course⟩ :=
      Volume.detach_goes_course valid.1 valid.2 reached.recordsSound around
    refine ⟨outcome, after, run, fun removal answer asked => ?_⟩
    obtain ⟨now, removed, rfl, same⟩ := course.of_asked asked
    obtain ⟨_, single⟩ := now.sum_le_counted connection.devices
    refine ⟨now, removed, same, rfl, fun distinct => ?_, fun fits => ?_⟩
    · rw [← single.2 distinct]
      exact Volume.toNat_remaining_eq_iff
    · rw [← single]
      constructor
      · exact fun told => (Volume.toNat_remaining_eq_iff.2 fits).symm.trans told
      · exact fun all => (Volume.toNat_remaining_eq_iff.2 fits).trans all
  · obtain ⟨outcome, after, run, none⟩ := Volume.detach_calls_nobody valid around
    refine ⟨outcome, after, run, fun removal answer asked => ?_⟩
    rw [none] at asked
    cases asked

/-- The connections that a guest was told are left when it removed a volume. -/
def Observation.toldRemaining? : Observation → Option UInt32
  | .called (.configureDetach removal) (.ok _) => some removal.remainingConnections
  | _ => none

theorem Observation.exists_of_toldRemaining {calls : List Observation} {count : UInt32}
    (told : count ∈ calls.filterMap toldRemaining?) :
    ∃ removal, .called (.configureDetach removal) (.ok ()) ∈ calls ∧
      removal.remainingConnections = count := by
  obtain ⟨observation, listed, same⟩ := List.mem_filterMap.1 told
  unfold toldRemaining? at same
  split at same
  · next removal done =>
    exact ⟨removal, listed, Option.some.inj same⟩
  · cases same

/-- The same volume without the second mention. -/
def Sample.distinctVolume : VolumeConnection :=
  { broadVolume with devices := [.ofNat 0x1a00, .ofNat 0x1a01] }

/-- A list of different devices is counted rightly: one of three connections is left. -/
theorem detach_counts_remaining_connections_of_distinct_devices :
    ∃ outcome after removal,
      (Volume.dispatch Sample.settings (.detach Sample.distinctVolume)).run.alone Sample.yielding
        { tables := Sample.broadAttached.store.tables } = (some outcome, after) ∧
      .called (.configureDetach removal) (.ok ()) ∈ after.calls ∧
      removal.remainingConnections = 1 ∧ removal.remainingConnections.toNat =
        ∑ id ∈ Sample.distinctVolume.devices.toFinset, after.tables.connectionsOf id := by
  obtain ⟨outcome, after, run, told⟩ := detach_counts_remaining_connections
    Sample.broadAttached_reached Sample.distinctVolume Sample.yielding
  have seen : (fun scene : Scene => (scene.calls.filterMap Observation.toldRemaining?,
      scene.tables.counted Sample.distinctVolume.devices))
      ((Volume.dispatch Sample.settings (.detach Sample.distinctVolume)).run.alone Sample.yielding
        { tables := Sample.broadAttached.store.tables }).2 = ([1], 1) := by
    decide +kernel
  rw [run] at seen
  obtain ⟨numbers, counted⟩ := Prod.mk.inj seen
  obtain ⟨removal, asked, one⟩ :=
    Observation.exists_of_toldRemaining (numbers ▸ List.mem_singleton_self 1)
  obtain ⟨now, _, same, _, _, exact_iff⟩ := told removal _ asked
  rw [← same rfl, counted] at exact_iff
  exact ⟨outcome, after, removal, run, asked, one, (exact_iff (by decide)).2 (by decide)⟩

/-- **A device that is named twice is counted before its last connection is gone**: the guest is
told of a connection that is left when none is stored. -/
theorem detach_counts_passing_connection :
    (Sample.attaching 40).Reached (Volume.Dispatched Sample.settings) ∧
    ∃ outcome after removal,
      (Volume.dispatch Sample.settings (.detach Sample.volume)).run.alone Sample.yielding
        { tables := (Sample.attaching 40).store.tables } = (some outcome, after) ∧
      .called (.configureDetach removal) (.ok ()) ∈ after.calls ∧
      removal.remainingConnections = 1 ∧
      ∑ id ∈ Sample.volume.devices.toFinset, after.tables.connectionsOf id = 0 := by
  refine ⟨Sample.attaching_reached 40, ?_⟩
  have seen : (fun ran : Option (Outcome Output) × Scene => (ran.1.isSome,
      ran.2.calls.filterMap Observation.toldRemaining?,
      ran.2.tables.connectionsOf Sample.device))
      ((Volume.dispatch Sample.settings (.detach Sample.volume)).run.alone Sample.yielding
        { tables := (Sample.attaching 40).store.tables }) = (true, [1], 0) := by
    decide +kernel
  rcases run : (Volume.dispatch Sample.settings (.detach Sample.volume)).run.alone Sample.yielding
    { tables := (Sample.attaching 40).store.tables } with ⟨_ | outcome, after⟩
  · rw [run] at seen
    cases seen
  · rw [run] at seen
    obtain ⟨_, rest⟩ := Prod.mk.inj seen
    obtain ⟨told, left⟩ := Prod.mk.inj rest
    obtain ⟨removal, asked, one⟩ :=
      Observation.exists_of_toldRemaining (told ▸ List.mem_singleton_self 1)
    refine ⟨outcome, after, removal, rfl, asked, one, ?_⟩
    rw [show Sample.volume.devices.toFinset = {Sample.device} from rfl, Finset.sum_singleton]
    exact left

end FibrePool
