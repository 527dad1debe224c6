import FibrePool.Proofs.Directory

/-!
# Attaching and detaching again

A detach right after the attach of the same connection succeeds, when everybody yields what is asked
for, and puts everything back but the reservation: the devices stay reserved for the guest.

A detach goes through the list in the same order as the attach, not backwards, so for a device that
is named several times it does not undo the last step first.  What makes it succeed all the same is
an account for each device: after the attach it is the guest's, with a connection for every mention
that is still to come.

Outside of the pool the two meet in the idle devices of the list.  An attach dedicates those that
were idle before it, a detach takes back those that are idle after it, and these are the same.
-/

namespace FibrePool

set_option autoImplicit false

open Workflow

/-! ## The account of a device -/

/-- What changes single records changes no record of a device that it does not go through. -/
theorem Transaction.Runs.at?_of_notMem {α : Type} {change : DeviceId → Transaction α}
    (single : ∀ {item tables result after}, change item tables = .ok (result, after) →
      ∀ other, other ≠ item → after.at? other = tables.at? other)
    {devices : List DeviceId} {before after : Tables}
    (runs : Transaction.Runs change devices before after) {id : DeviceId} (absent : id ∉ devices) :
    after.at? id = before.at? id := by
  induction devices generalizing before with
  | nil =>
    obtain rfl : after = before := runs
    rfl
  | cons device rest ih =>
    obtain ⟨result, middle, done, further⟩ := runs
    rw [List.mem_cons, not_or] at absent
    obtain ⟨different, absent⟩ := absent
    rw [ih further absent, single done id different]

namespace Tables

variable {assigner : String} {before middle after tables : Tables} {devices : List DeviceId}
  {id : DeviceId}

theorem at?_of_removeConnection {result : DeviceRecord}
    (done : removeConnection id assigner tables = .ok (result, after)) (other : DeviceId)
    (different : other ≠ id) : after.at? other = tables.at? other := by
  obtain ⟨_, _, _, _, rfl⟩ := modifyRecord_eq_ok.1 done
  exact putRecord_at?_of_ne tables different result

/-- Only devices with a record are connected. -/
theorem exists_of_runs_addConnection
    (runs : Transaction.Runs (fun id => addConnection id assigner) devices before after)
    (member : id ∈ devices) : ∃ record, before.at? id = some record := by
  induction devices generalizing before with
  | nil => cases member
  | cons device rest ih =>
    obtain ⟨change, middle, done, further⟩ := runs
    by_cases same : id = device
    · subst same
      obtain ⟨record, _, stored, _⟩ := addConnection_eq_ok.1 done
      exact ⟨record, stored⟩
    · rw [← at?_of_addConnection done id same]
      exact ih further (List.mem_of_ne_of_mem same member)

/-- The device is the assigner's, with at least so many connections. -/
def Covers (tables : Tables) (assigner : String) (id : DeviceId) (count : Nat) : Prop :=
  ∃ record, tables.at? id = some record ∧ record.reserved = true ∧ record.assigner = assigner ∧
    count ≤ record.connections.toNat

/-- A connection can be removed while there is one, and those behind it stay. -/
theorem Covers.removeConnection {count : Nat} (covers : tables.Covers assigner id (count + 1))
    (present : assigner ≠ "") :
    ∃ result after, removeConnection id assigner tables = .ok (result, after) ∧
      after.Covers assigner id count := by
  obtain ⟨record, stored, reserved, own, enough⟩ := covers
  let left : DeviceRecord := { record with connections := record.connections - 1 }
  have busy : record.connections ≠ 0 :=
    UInt32.pos_iff_ne_zero.1 (Nat.lt_of_lt_of_le (Nat.succ_pos count) enough)
  have named : record.assigner ≠ "" := own ▸ present
  have sound : left.usage.check = .ok () :=
    Usage.check_eq_ok.2 ⟨fun _ => reserved, fun _ => named⟩
  refine ⟨left, tables.putRecord id left, modifyRecord_eq_ok.2
    ⟨record, stored, disconnected_eq_ok.2 ⟨busy, own, rfl⟩, sound, rfl⟩, ?_⟩
  have fewer : left.connections.toNat + 1 = record.connections.toNat := toNat_sub_one_add_one busy
  exact ⟨left, putRecord_at?_self _ _ _, reserved, own, by omega⟩

/-- A device that has a connection for each of its mentions can lose one for each of them. -/
theorem exists_runs_removeConnection (present : assigner ≠ "")
    (covers : ∀ id ∈ devices, tables.Covers assigner id (devices.count id)) :
    ∃ after, Transaction.Runs (fun id => removeConnection id assigner) devices tables after := by
  induction devices generalizing tables with
  | nil => exact ⟨tables, rfl⟩
  | cons device rest ih =>
    have first := covers device List.mem_cons_self
    rw [List.count_cons_self] at first
    obtain ⟨result, middle, done, kept⟩ := first.removeConnection present
    have later : ∀ id ∈ rest, middle.Covers assigner id (rest.count id) := by
      intro id member
      by_cases same : id = device
      · exact same ▸ kept
      · have others := covers id (List.mem_cons_of_mem device member)
        rw [List.count_cons_of_ne (Ne.symm same)] at others
        obtain ⟨record, stored, whole⟩ := others
        exact ⟨record, (at?_of_removeConnection done id same).trans stored, whole⟩
    obtain ⟨after, further⟩ := ih later
    exact ⟨after, result, middle, done, further⟩

/-- **Connections that were added for a list can be removed for it**, and then the records of the
list have their connections back, while they stay reserved for the assigner. -/
theorem exists_runs_removeConnection_of_runs_addConnection (present : assigner ≠ "")
    (room : before.HasRoom devices)
    (added : Transaction.Runs (fun id => addConnection id assigner) devices before middle) :
    ∃ after,
      Transaction.Runs (fun id => removeConnection id assigner) devices middle after ∧
      (∀ id, id ∉ devices → after.at? id = before.at? id) ∧
      ∀ id ∈ devices, ∃ record, before.at? id = some record ∧
        after.at? id = some { record with reserved := true, assigner } := by
  have charged (id : DeviceId) (member : id ∈ devices) : ∃ record, before.at? id = some record ∧
      middle.at? id = some { record with
        connections := record.connections + UInt32.ofNat (devices.count id)
        reserved := true, assigner } := by
    obtain ⟨record, stored⟩ := exists_of_runs_addConnection added member
    refine ⟨record, stored, ?_⟩
    rw [← DeviceRecord.charged_of_pos (List.count_pos_iff.2 member)]
    exact at?_of_runs_addConnection added stored
  obtain ⟨after, removed⟩ := exists_runs_removeConnection present fun id member => by
    obtain ⟨record, before, stored⟩ := charged id member
    refine ⟨_, stored, rfl, rfl, ?_⟩
    rw [toNat_add_of_room (room id record before)]
    exact Nat.le_add_left _ _
  refine ⟨after, removed, fun id absent => ?_, fun id member => ?_⟩
  · rw [removed.at?_of_notMem at?_of_removeConnection absent,
      added.at?_of_notMem at?_of_addConnection absent]
  · obtain ⟨record, stored, more⟩ := charged id member
    obtain ⟨left, kept, balance⟩ := at?_of_runs_removeConnection removed more
    rw [toNat_add_of_room (room id record stored)] at balance
    obtain rfl : left = record.connections := UInt32.toNat_inj.1 (Nat.add_right_cancel balance)
    exact ⟨record, stored, kept⟩

/-! ## Idle devices -/

/-- Whether there is a record of the device, without connections. -/
def isIdle (tables : Tables) (id : DeviceId) : Bool :=
  (tables.at? id).any fun record => record.connections == 0

theorem isIdle_of_at? {record : DeviceRecord} (stored : tables.at? id = some record) :
    tables.isIdle id = (record.connections == 0) := by
  rw [isIdle, stored, Option.any_some]

theorem isIdle_congr (same : after.at? id = before.at? id) :
    after.isIdle id = before.isIdle id := by
  rw [isIdle, isIdle, same]

/-- The first connection is told from the others by its device, which was idle and no longer is. -/
theorem isIdle_addConnection {change : UsageChange} {rest : List DeviceId}
    (room : tables.HasRoom (id :: rest))
    (done : addConnection id assigner tables = .ok (change, after)) :
    change.isFirstConnection = tables.isIdle id ∧ after.isIdle id = false := by
  obtain ⟨record, changed, stored, made, _, rfl, rfl⟩ := addConnection_eq_ok.1 done
  obtain ⟨_, rfl⟩ := connected_eq_ok.1 made
  rw [isIdle_of_at? stored, isIdle_of_at? (putRecord_at?_self _ _ _)]
  constructor
  · by_cases idle : record.connections = 0 <;>
      simp [UsageChange.isFirstConnection, DeviceRecord.usage, idle]
  · exact beq_eq_false_iff_ne.2
      (UInt32.pos_iff_ne_zero.1 (add_one_pos_of_room (room.first stored)))

theorem isIdle_removeConnection {result : DeviceRecord}
    (done : removeConnection id assigner tables = .ok (result, after)) :
    tables.isIdle id = false ∧ after.isIdle id = (result.connections == 0) := by
  obtain ⟨record, stored, made, _, rfl⟩ := modifyRecord_eq_ok.1 done
  obtain ⟨busy, _⟩ := disconnected_eq_ok.1 made
  rw [isIdle_of_at? stored, isIdle_of_at? (putRecord_at?_self _ _ _)]
  exact ⟨beq_eq_false_iff_ne.2 busy, rfl⟩

end Tables

/-- The devices of a connection that are dedicated when it is attached to the tables, and taken back
when its detach leaves them. -/
def VolumeConnection.idleDevices (connection : VolumeConnection) (tables : Tables) :
    List DeviceId :=
  if connection.skipsSideEffects then [] else connection.devices.filter tables.isIdle

theorem VolumeConnection.exists_idle_of_mem {connection : VolumeConnection} {tables : Tables}
    {id : DeviceId} (member : id ∈ connection.idleDevices tables) : id ∈ connection.devices ∧
      ∃ record, tables.at? id = some record ∧ record.connections = 0 := by
  unfold idleDevices at member
  split at member
  · cases member
  · obtain ⟨listed, idle⟩ := List.mem_filter.1 member
    obtain ⟨record, stored, none⟩ := (Option.any_eq_true _ _).1 idle
    exact ⟨listed, record, stored, beq_iff_eq.1 none⟩

/-- The directory takes back every device, and the guests give up every volume. -/
def Surroundings.Yielding (around : Surroundings) : Prop :=
  ∀ seen, (∀ device user, around.answer seen (.undedicate device user) = .ok ()) ∧
    ∀ removal, around.answer seen (.configureDetach removal) = .ok ()

/-! ## A failing rollback -/

section Workflows

variable {around : Surroundings} {scene : Scene} {assigner : String} {directory : Directory}

/-- A rollback comes to an end, whatever cannot be undone, and the end is a failure. -/
theorem Rollback.fail_fails {α : Type} (rollback : Rollback) (operation : String)
    (devices : List DeviceId) (cause : Failure) :
    Ends around (rollback.fail operation assigner devices cause : Workflow α) scene
      (fun _ _ => False) fun _ _ => True := by
  have undone (now : Scene) : (rollback.undo assigner).Ends around now (fun _ _ => True)
      fun _ _ => True := by
    unfold undo
    rw [ends_bind]
    refine (ends_mapM (fun _ _ => True) (fun device _ middle _ => ?_) trivial).mono
      (fun dedicated middle _ => ?_) fun _ _ => id
    · exact (undoDedicate_ends device).mono (fun _ _ _ => trivial) fun _ _ => False.elim
    · exact (undoUsage_passive rollback assigner dedicated around middle).mono
        (fun _ _ _ => trivial) fun _ _ _ => trivial
  unfold fail
  rw [ends_bind, ends_measure, ends_bind]
  refine (undone _).mono (fun results last _ => ?_) fun _ _ => id
  split <;> exact (ends_throw _).2 trivial

namespace Volume

/-! ## Attaching -/

/-- Where an attach stands after the devices `done`: none of them is idle any more, and those that
were are newly connected. -/
structure Occupying (first : Tables) (done fresh : List DeviceId) (now : Tables) : Prop where
  idle : ∀ id, now.isIdle id = true ↔ first.isIdle id = true ∧ id ∉ done
  fresh : ∀ id, id ∈ fresh ↔ id ∈ done ∧ first.isIdle id = true

theorem occupying_nil (tables : Tables) : Occupying tables [] [] tables := by
  constructor <;> simp

theorem Occupying.connect {first now after : Tables} {done rest fresh : List DeviceId}
    {id : DeviceId} {change : UsageChange} (occupying : Occupying first done fresh now)
    (room : now.HasRoom (id :: rest))
    (added : Tables.addConnection id assigner now = .ok (change, after)) :
    Occupying first (done ++ [id]) (fresh ++ if change.isFirstConnection then [id] else [])
      after := by
  obtain ⟨news, taken⟩ := Tables.isIdle_addConnection room added
  have others (other : DeviceId) (different : other ≠ id) : after.isIdle other = now.isIdle other :=
    Tables.isIdle_congr (Tables.at?_of_addConnection added other different)
  have itself := occupying.idle id
  rw [← news] at itself
  constructor
  · intro other
    by_cases same : other = id
    · simp [same, taken]
    · rw [others other same, occupying.idle]
      simp [same]
  · intro other
    by_cases same : other = id
    · subst same
      rw [List.mem_append, List.mem_append, occupying.fresh]
      cases known : change.isFirstConnection with
      | false =>
        rw [known, Bool.false_eq_true, false_iff] at itself
        simp only [Bool.false_eq_true, if_false, List.not_mem_nil, List.mem_singleton, or_false,
          or_true, true_and]
        tauto
      | true =>
        rw [known] at itself
        simp [itself.1 rfl]
    · cases change.isFirstConnection <;> simp [occupying.fresh, same]

/-- The newly connected devices are those of the list that were idle. -/
theorem connectAll_occupies {devices : List DeviceId} (room : scene.tables.HasRoom devices) :
    (eachDevice "attach" assigner devices (connect assigner) {} devices).Ends around scene
      (fun rollback now => scene.Unmoved now ∧ rollback.dedicated = [] ∧
        Occupying scene.tables devices (newlyConnected rollback) now.tables)
      fun _ _ => True := by
  refine (connectAll_ends_of (fun left fresh now => now.HasRoom left ∧ ∃ done,
    done ++ left = devices ∧ Occupying scene.tables done fresh now) ?_ ?_ ?_).mono ?_ fun _ _ => id
  · rintro id rest fresh tables change after ⟨room, done, whole, occupying⟩ added
    refine ⟨room.addConnection added, done ++ [id], ?_, occupying.connect room added⟩
    rw [List.append_assoc]
    exact whole
  · exact fun rollback now cause _ _ => rollback.fail_fails _ _ _
  · exact ⟨room, [], rfl, occupying_nil scene.tables⟩
  · rintro rollback now ⟨unmoved, nothing, _, done, whole, occupying⟩
    rw [List.append_nil] at whole
    exact ⟨unmoved, nothing, whole ▸ occupying⟩

/-- **An attach that succeeds has dedicated the idle devices**, whatever is answered on the way. -/
theorem attachAlone_gains (directory : Directory) {connection : VolumeConnection}
    (room : scene.tables.HasRoom connection.devices) :
    (attachAlone assigner connection).Ends around scene
      (fun _ now => directory.after now.seen =
        (directory.after scene.seen).gaining assigner (connection.idleDevices scene.tables))
      fun _ _ => True := by
  unfold attachAlone
  extract_lets attaching
  have afterwards (asked : Scene) (same : asked.tables = scene.tables)
      (unmoved : scene.Unmoved asked) : (attaching ()).Ends around asked
        (fun _ now => directory.after now.seen =
          (directory.after scene.seen).gaining assigner (connection.idleDevices scene.tables))
        fun _ _ => True := by
    unfold attaching
    rw [ends_bind]
    refine (connectAll_occupies (same ▸ room)).mono ?_ fun _ _ => id
    rintro connected middle ⟨further, nothing, occupying⟩
    have seen := directory.after_of_unmoved (unmoved.trans further)
    rw [same] at occupying
    unfold VolumeConnection.idleDevices
    split
    · refine (ends_pure ()).2 ?_
      rw [seen, Directory.gaining_nil]
    · rw [ends_bind]
      refine (dedicateAll_ends_of directory nothing fun rollback now cause _ _ =>
        rollback.fail_fails _ _ _).mono ?_ fun _ _ => id
      rintro dedicated last ⟨_, gained⟩
      rw [ends_bind, ends_outcome, ends_call]
      split
      · refine (ends_pure ()).2 ?_
        rw [Directory.after_note, gained, seen]
        refine Directory.gaining_congr fun id => ?_
        rw [occupying.fresh, List.mem_filter]
      · exact (Rollback.fail_fails _ _ _ _).mono (fun _ _ => False.elim) fun _ _ => id
  split
  · rw [ends_bind, ends_call]
    split
    · next found _ =>
      split
      · exact (ends_bind _ _).2 ((ends_throw _).2 trivial)
      · exact afterwards _ rfl (scene.unmoved_note rfl)
    · trivial
  · exact afterwards scene rfl (Scene.unmoved_of_seen rfl)

/-- What an attach that succeeded has found and done. -/
structure Attached (connection : VolumeConnection) (directory : Directory) (before now : Scene) :
    Prop where
  present : guestName connection.assigner ≠ ""
  devices : requiredDevices connection.devices = .ok ()
  connected : Transaction.Runs (fun id => Tables.addConnection id (guestName connection.assigner))
    connection.devices before.tables now.tables
  dedicated : directory.after now.seen = (directory.after before.seen).gaining
    (guestName connection.assigner) (connection.idleDevices before.tables)

theorem attach_attached (directory : Directory) (sound : scene.tables.RecordsSound)
    {connection : VolumeConnection} (room : scene.tables.HasRoom connection.devices) :
    (attach connection).Ends around scene
      (fun _ now => Attached connection directory scene now) fun _ _ => True := by
  unfold attach
  rw [ends_bind, ends_ofOutcome]
  split
  · next assigner checked =>
    obtain ⟨present, rfl⟩ := requiredGuest_eq_ok.1 checked
    rw [ends_bind, ends_ofOutcome]
    split
    · next named =>
      rw [ends_holding]
      refine ((attachAlone_ends present sound connection).and
        (attachAlone_gains directory room)).mono ?_ fun _ _ _ => trivial
      rintro _ now ⟨connected, dedicated⟩
      exact ⟨present, named, connected, dedicated⟩
    · trivial
  · trivial

/-! ## Detaching -/

/-- A removal drains its device exactly when this is idle afterwards; it was not so before. -/
theorem mem_drained_of_removeConnection {tables after : Tables} {done drained : List DeviceId}
    {id : DeviceId} {record : DeviceRecord}
    (known : ∀ other, other ∈ drained ↔ other ∈ done ∧ tables.isIdle other = true)
    (removed : Tables.removeConnection id assigner tables = .ok (record, after))
    (other : DeviceId) : other ∈ (if record.connections = 0 then id :: drained else drained) ↔
      other ∈ done ++ [id] ∧ after.isIdle other = true := by
  obtain ⟨busy, idle⟩ := Tables.isIdle_removeConnection removed
  by_cases same : other = id
  · subst same
    have absent : other ∉ drained := by
      rw [known, busy]
      exact fun held => Bool.false_ne_true held.2
    by_cases last : record.connections = 0 <;> simp [last, idle, absent]
  · have kept : after.isIdle other = tables.isIdle other :=
      Tables.isIdle_congr (Tables.at?_of_removeConnection removed other same)
    by_cases last : record.connections = 0 <;> simp [last, kept, known, same]

/-- Connections that can all be removed are removed, and the drained devices are those that are
idle in the end. -/
theorem disconnectAll_drains {final : Tables} {devices done left : List DeviceId}
    {state : Detaching}
    (runs : Transaction.Runs (fun id => Tables.removeConnection id assigner) left scene.tables
      final)
    (known : ∀ id, id ∈ state.drained ↔ id ∈ done ∧ scene.tables.isIdle id = true) :
    (disconnectAll assigner devices state left).Ends around scene
      (fun state now => now.tables = final ∧ scene.Unmoved now ∧
        ∀ id, id ∈ state.drained ↔ id ∈ done ++ left ∧ final.isIdle id = true)
      fun _ _ => False := by
  induction left generalizing state scene done with
  | nil =>
    obtain rfl : final = scene.tables := runs
    refine (ends_pure state).2 ⟨rfl, Scene.unmoved_of_seen rfl, ?_⟩
    rw [List.append_nil]
    exact known
  | cons device rest ih =>
    obtain ⟨record, tables, removed, further⟩ := runs
    have removing := (Pool.decreaseUsage_ends device assigner).and
      (passive_parts.decreaseUsage ∅ device assigner around scene)
    unfold disconnectAll disconnect
    rw [ends_bind, ends_outcome, ends_bind]
    refine removing.mono ?_ ?_
    · rintro _ middle ⟨⟨⟨_, done, rfl⟩, _⟩, unmoved⟩
      cases removed.symm.trans done
      refine (ends_pure _).2 ((ih further
        (mem_drained_of_removeConnection known removed)).mono ?_ fun _ _ => id)
      rintro state last ⟨same, unmoved', drained⟩
      refine ⟨same, unmoved.trans unmoved', ?_⟩
      rw [List.append_cons]
      exact drained
    · rintro failure middle ⟨⟨refused, _⟩, _⟩
      cases removed.symm.trans refused

/-- Withdrawing devices from a guest that yields them leaves nothing to complain about. -/
theorem withdrawAll_ends (directory : Directory) (yielding : around.Yielding)
    (ids : List DeviceId) :
    (ids.mapM (withdraw assigner)).Ends around scene
      (fun complaints last => complaints.filterMap id = [] ∧ last.tables = scene.tables ∧
        directory.after last.seen = (directory.after scene.seen).losing assigner ids)
      fun _ _ => False := by
  have taken (device : DeviceId) (now : Scene) := withdraw_ends_of_taken
    ((yielding now.seen).1 device assigner)
  have quiet : (ids.mapM (withdraw assigner)).Ends around scene
      (fun complaints _ => True ∧ ∀ complaint ∈ complaints, complaint = none)
      fun _ _ => False := by
    refine ends_mapM_all (fun _ _ => True) (fun complaint => complaint = none) ?_ trivial
    intro device _ now _
    exact (taken device now).mono (fun _ _ ended => ⟨trivial, ended.1⟩) fun _ _ => False.elim
  have taking (device : DeviceId) (now : Scene) : (withdraw assigner device).Ends around now
      (fun _ after => after = now.note (.called (.undedicate device assigner) (.ok ())))
      fun _ _ => False :=
    (taken device now).mono (fun _ _ ended => ended.2) fun _ _ => False.elim
  refine (quiet.and (undedicateAll_ends directory taking ids)).mono ?_ fun _ _ ended => ended.1
  rintro complaints last ⟨⟨_, none⟩, ended⟩
  exact ⟨List.filterMap_eq_nil_iff.2 none, ended⟩

/-- **A detach whose connections can all be removed succeeds**, and takes back the devices that it
leaves idle. -/
theorem detachAlone_yields (directory : Directory) (yielding : around.Yielding) {final : Tables}
    {connection : VolumeConnection}
    (runs : Transaction.Runs (fun id => Tables.removeConnection id assigner) connection.devices
      scene.tables final) :
    (detachAlone assigner connection).Ends around scene
      (fun _ now => now.tables = final ∧ directory.after now.seen =
        (directory.after scene.seen).losing assigner (connection.idleDevices final))
      fun _ _ => False := by
  have nothing : ∀ id, id ∈ (Detaching.drained {}) ↔ id ∈ [] ∧ scene.tables.isIdle id = true := by
    simp
  unfold detachAlone
  rw [ends_bind]
  refine (disconnectAll_drains runs nothing).mono ?_ fun _ _ => id
  rintro state middle ⟨same, unmoved, drained⟩
  have seen := directory.after_of_unmoved unmoved
  unfold VolumeConnection.idleDevices
  split
  · refine (ends_pure ()).2 ⟨same, ?_⟩
    rw [seen, Directory.losing_nil]
  · extract_lets removal
    rw [ends_bind, ends_outcome, ends_call, (yielding middle.seen).2]
    refine (ends_bind _ _).2 ((withdrawAll_ends directory yielding
      state.drained.reverse).mono ?_ fun _ _ => False.elim)
    rintro complaints last ⟨none, unchanged, lost⟩
    rw [none]
    refine (ends_pure ()).2 ⟨unchanged.trans same, ?_⟩
    rw [lost, Directory.losing_reverse, Directory.after_note, ← seen]
    refine Directory.losing_congr fun id => ?_
    rw [drained, List.nil_append, List.mem_filter]

/-- The detach of a connection whose devices can all be disconnected succeeds. -/
theorem detach_yields (directory : Directory) (yielding : around.Yielding) {final : Tables}
    {connection : VolumeConnection} (present : guestName connection.assigner ≠ "")
    (devices : requiredDevices connection.devices = .ok ())
    (runs : Transaction.Runs (fun id => Tables.removeConnection id (guestName connection.assigner))
      connection.devices scene.tables final) :
    (detach connection).Ends around scene
      (fun _ now => now.tables = final ∧ directory.after now.seen =
        (directory.after scene.seen).losing (guestName connection.assigner)
          (connection.idleDevices final))
      fun _ _ => False := by
  unfold detach
  rw [ends_bind, requiredGuest_eq_ok.2 ⟨present, rfl⟩, ends_ofOutcome]
  dsimp only
  rw [ends_bind, devices, ends_ofOutcome]
  dsimp only
  rw [ends_holding]
  exact detachAlone_yields directory yielding runs

end Volume

end Workflows

/-! ## One after the other -/

namespace Volume

variable {settings : OperatorSettings} {around : Surroundings} {tables : Tables} {scene : Scene}
  {connection : VolumeConnection}

/-- Counting an action says nothing to the directory. -/
theorem after_finished (directory : Directory) (name : String) (succeeded : Bool) :
    directory.after (scene.note (.measured (.finished name succeeded))).seen =
      directory.after scene.seen := by
  rw [Directory.after_note]
  rfl

theorem attached_of_run {output : Output} (sound : tables.RecordsSound)
    (room : tables.HasRoom connection.devices)
    (run : (dispatch settings (.attach connection)).run.alone around { tables } =
      (some (.ok output), scene)) (directory : Directory) :
    Attached connection directory { tables } scene := by
  have ends : (dispatch settings (.attach connection)).Ends around { tables }
      (fun _ now => Attached connection directory { tables } now) fun _ _ => True := by
    refine ends_dispatch.2 ((ends_bind _ _).2 ?_)
    refine (attach_attached directory sound room).mono ?_ fun _ _ _ => trivial
    intro _ now attached
    refine (ends_pure _).2 ⟨attached.present, attached.devices, attached.connected, ?_⟩
    rw [after_finished]
    exact attached.dedicated
  exact ends.of_ok run

theorem detached_of_runs {final : Tables} (yielding : around.Yielding)
    (present : guestName connection.assigner ≠ "")
    (devices : requiredDevices connection.devices = .ok ())
    (runs : Transaction.Runs (fun id => Tables.removeConnection id (guestName connection.assigner))
      connection.devices tables final) :
    ∃ after, (dispatch settings (.detach connection)).run.alone around { tables } =
        (some (.ok .done), after) ∧ after.tables = final ∧
      ∀ directory : Directory, directory.after after.seen =
        directory.losing (guestName connection.assigner) (connection.idleDevices final) := by
  have ends (directory : Directory) :
      (dispatch settings (.detach connection)).Ends around { tables }
        (fun output now => output = .done ∧ now.tables = final ∧
          directory.after now.seen =
            directory.losing (guestName connection.assigner) (connection.idleDevices final))
        fun _ _ => False := by
    refine ends_dispatch.2 ((ends_bind _ _).2 ?_)
    refine (detach_yields directory yielding present devices runs).mono ?_ fun _ _ => id
    rintro _ now ⟨same, lost⟩
    refine (ends_pure _).2 ⟨rfl, same, ?_⟩
    rw [after_finished]
    exact lost
  obtain ⟨outcome, after, run⟩ := (ends ∅).exists_outcome
  cases outcome with
  | error failure => exact ((ends ∅).of_error run).elim
  | ok output =>
    obtain ⟨rfl, same, _⟩ := (ends ∅).of_ok run
    exact ⟨after, run, same, fun directory => ((ends directory).of_ok run).2.2⟩

end Volume

/-- **A detach right after the attach of the same connection changes everything back but the
reservation.**  It succeeds when everybody yields what is asked for and no counter has run over.
Then the records of other devices are what they were before the attach, and so are those of the
connection, except that they are reserved for its guest.  The directory is what it was, unless it
had given the guest an idle device of the connection before. -/
theorem detach_reverses_attach {settings : OperatorSettings}
    {scheduler : Scheduler (Outcome Output)}
    (reached : scheduler.Reached (Volume.Dispatched settings)) {connection : VolumeConnection}
    (room : scheduler.store.tables.HasRoom connection.devices)
    {around around' : Surroundings} {output : Output} {attached : Scene}
    (run : (Volume.dispatch settings (.attach connection)).run.alone around
      { tables := scheduler.store.tables } = (some (.ok output), attached))
    (yielding : around'.Yielding) :
    ∃ detached, (Volume.dispatch settings (.detach connection)).run.alone around'
        { tables := attached.tables } = (some (.ok .done), detached) ∧
      (∀ id, id ∉ connection.devices →
        detached.tables.devices.get? id = scheduler.store.tables.devices.get? id) ∧
      (∀ id ∈ connection.devices, ∃ record,
        scheduler.store.tables.devices.get? id = some record ∧
        detached.tables.devices.get? id =
          some { record with reserved := true, assigner := guestName connection.assigner }) ∧
      ∀ directory : Directory,
        (∀ id ∈ connection.devices, ∀ record,
          scheduler.store.tables.devices.get? id = some record → record.connections = 0 →
            (id, guestName connection.assigner) ∉ directory) →
        (directory.after attached.seen).after detached.seen = directory := by
  have done (directory : Directory) :=
    Volume.attached_of_run reached.recordsSound room run directory
  obtain ⟨present, devices, connected, _⟩ := done ∅
  obtain ⟨final, removed, others, restored⟩ :=
    Tables.exists_runs_removeConnection_of_runs_addConnection present room connected
  obtain ⟨detached, run', rfl, lost⟩ :=
    Volume.detached_of_runs yielding present devices removed
  refine ⟨detached, run', others, restored, fun directory absent => ?_⟩
  -- The devices that the detach leaves idle were idle before the attach.
  have idle : connection.idleDevices detached.tables =
      connection.idleDevices scheduler.store.tables := by
    unfold VolumeConnection.idleDevices
    split
    · rfl
    · refine List.filter_congr fun id member => ?_
      obtain ⟨record, stored, kept⟩ := restored id member
      rw [Tables.isIdle_of_at? stored, Tables.isIdle_of_at? kept]
  rw [lost, idle, (done directory).dedicated]
  refine Directory.losing_gaining fun id member => ?_
  obtain ⟨listed, record, stored, none⟩ := VolumeConnection.exists_idle_of_mem member
  exact absent id listed record stored none

/-! ## A device that is named twice -/

/-- Surroundings that do everything they are asked. -/
def Sample.yielding : Surroundings where
  stamp _ := default
  answer _
    | .listDevices _ => .ok ""
    | .guestExists _ => .ok true
    | .dedicate _ _ => .ok ()
    | .undedicate _ _ => .ok ()
    | .configureAttach _ => .ok ()
    | .configureDetach _ => .ok ()

/-- Another guest's claim to the device stays where it is. -/
theorem detach_reverses_attach_twice_named :
    ∃ output attached detached,
      (Volume.dispatch Sample.settings (.attach Sample.volume)).run.alone Sample.yielding
        { tables := Sample.prepared.store.tables } = (some (.ok output), attached) ∧
      (Volume.dispatch Sample.settings (.detach Sample.volume)).run.alone Sample.yielding
        { tables := attached.tables } = (some (.ok .done), detached) ∧
      detached.tables.devices.get? Sample.device =
        some { DeviceRecord.placeholder Sample.device with reserved := true, assigner := "A" } ∧
      (Directory.after {(Sample.device, "B")} attached.seen).after detached.seen =
        {(Sample.device, "B")} := by
  have succeeds : ((Volume.dispatch Sample.settings (.attach Sample.volume)).run.alone
      Sample.yielding { tables := Sample.prepared.store.tables }).1.map Volume.succeeded =
        some true := by decide +kernel
  have stored : Sample.prepared.store.tables.devices.get? Sample.device =
      some (.placeholder Sample.device) := by decide +kernel
  have name : guestName Sample.volume.assigner = "A" := by decide +kernel
  rcases run : (Volume.dispatch Sample.settings (.attach Sample.volume)).run.alone Sample.yielding
    { tables := Sample.prepared.store.tables } with ⟨_ | failure | output, attached⟩
  · rw [run] at succeeds
    cases succeeds
  · rw [run] at succeeds
    cases succeeds
  · have yielding : Sample.yielding.Yielding := fun _ => ⟨fun _ _ => rfl, fun _ => rfl⟩
    have room : Sample.prepared.store.tables.HasRoom Sample.volume.devices := by decide +kernel
    obtain ⟨detached, run', _, restored, directory⟩ :=
      detach_reverses_attach Sample.prepared_reached room run yielding
    obtain ⟨record, same, kept⟩ := restored Sample.device List.mem_cons_self
    cases stored.symm.trans same
    rw [name] at kept directory
    refine ⟨output, attached, detached, rfl, run', kept, directory _ fun id _ _ _ _ => ?_⟩
    simp

end FibrePool
