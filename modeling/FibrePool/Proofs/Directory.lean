import FibrePool.Proofs.AllOrNothing
import FibrePool.Proofs.Counting
import FibrePool.Proofs.Outside
import Mathlib.Data.Finset.Basic

/-!
# The directory of guests

A directory of guests keeps its own account of who has which device: it gains a pair when a device
is dedicated to a guest, and loses it when the device is taken back.  Nobody compares it with the
pool, yet the two agree after every action: a device is dedicated to a guest exactly while that
guest is connected to it.

The loops of an attach and of a detach are followed together with the pairs that are still to come
or to go.  The workflow finds these from what single changes tell it: the change from no connection
to the first (`Connecting`), and back to none (`agrees_of_removeConnection`).

A counter that runs over tells of no such change, so the agreement needs room for every connection:
2^32 connections leave a device dedicated that has none by its record
(`overflow_leaves_idle_device_dedicated`).
-/

namespace FibrePool

set_option autoImplicit false

open Workflow

/-! ## Directories -/

/-- The devices that are dedicated, each with its guest. -/
abbrev Directory := Finset (DeviceId × String)

namespace Directory

/-- What becomes of a directory: a call of it that fails changes nothing. -/
def note (directory : Directory) : Observation → Directory
  | .called (.dedicate device user) (.ok _) => insert (device, user) directory
  | .called (.undedicate device user) (.ok _) => directory.erase (device, user)
  | _ => directory

/-- What becomes of a directory that is told of everything seen. -/
def after (directory : Directory) (seen : List Observation) : Directory :=
  seen.foldl note directory

/-- The directory with devices that are dedicated to a guest in addition. -/
def gaining (directory : Directory) (user : String) (ids : List DeviceId) : Directory :=
  directory ∪ (ids.map fun id => (id, user)).toFinset

/-- The directory with devices taken back from a guest. -/
def losing (directory : Directory) (user : String) (ids : List DeviceId) : Directory :=
  directory \ (ids.map fun id => (id, user)).toFinset

variable {directory : Directory} {user : String} {id : DeviceId} {ids : List DeviceId}

theorem after_append (first second : List Observation) :
    directory.after (first ++ second) = (directory.after first).after second := List.foldl_append

theorem after_note (scene : Scene) (observation : Observation) :
    directory.after (scene.note observation).seen =
      (directory.after scene.seen).note observation := by
  rw [Scene.note_seen, after_append]
  rfl

theorem note_of_isPassive {observation : Observation} (passive : observation.isPassive = true) :
    directory.note observation = directory := by
  cases observation with
  | called request answer =>
    cases request with
    | listDevices target => rfl
    | guestExists user => rfl
    | dedicate device user => cases passive
    | undedicate device user => cases passive
    | configureAttach volume => cases passive
    | configureDetach removal => cases passive
  | told event => rfl
  | measured taken => rfl
  | stamped fresh => rfl

/-- An empty directory gains a pair by nothing but a dedication. -/
theorem eq_dedicated_of_gained {observation : Observation}
    (gained : (id, user) ∈ note ∅ observation) :
    observation = .called (.dedicate id user) (.ok ()) := by
  unfold note at gained
  split at gained
  · obtain ⟨rfl, rfl⟩ := Prod.mk.inj (Finset.mem_singleton.1 gained)
    rfl
  · exact absurd (Finset.mem_of_mem_erase gained) (Finset.notMem_empty _)
  · exact absurd gained (Finset.notMem_empty _)

theorem after_of_unmoved (directory : Directory) {before now : Scene}
    (unmoved : before.Unmoved now) :
    directory.after now.seen = directory.after before.seen := by
  obtain ⟨added, same, passive⟩ := unmoved
  rw [same, after_append]
  clear same
  induction added with
  | nil => rfl
  | cons observation rest ih =>
    obtain ⟨first, others⟩ := List.forall_mem_cons.1 passive
    rw [after, List.foldl_cons, note_of_isPassive first]
    exact ih others

theorem mem_gaining {pair : DeviceId × String} :
    pair ∈ directory.gaining user ids ↔ pair ∈ directory ∨ pair.1 ∈ ids ∧ pair.2 = user := by
  obtain ⟨device, guest⟩ := pair
  simp [gaining, eq_comm]

theorem mem_losing {pair : DeviceId × String} :
    pair ∈ directory.losing user ids ↔ pair ∈ directory ∧ ¬ (pair.1 ∈ ids ∧ pair.2 = user) := by
  obtain ⟨device, guest⟩ := pair
  simp [losing, eq_comm]

@[simp] theorem gaining_nil : directory.gaining user [] = directory := by
  simp [gaining]

@[simp] theorem losing_nil : directory.losing user [] = directory := by
  simp [losing]

theorem gaining_cons : directory.gaining user (id :: ids) =
    insert (id, user) (directory.gaining user ids) := by
  ext pair
  simp only [mem_gaining, Finset.mem_insert, List.mem_cons, Prod.ext_iff]
  tauto

theorem gaining_append_singleton : directory.gaining user (ids ++ [id]) =
    insert (id, user) (directory.gaining user ids) := by
  ext pair
  simp only [mem_gaining, Finset.mem_insert, List.mem_append, List.mem_singleton, Prod.ext_iff]
  tauto

theorem losing_cons : directory.losing user (id :: ids) =
    (directory.losing user ids).erase (id, user) := by
  ext pair
  simp only [mem_losing, Finset.mem_erase, List.mem_cons, ne_eq, Prod.ext_iff]
  tauto

/-- Only which devices are dedicated matters. -/
theorem gaining_congr {others : List DeviceId} (same : ∀ id, id ∈ ids ↔ id ∈ others) :
    directory.gaining user ids = directory.gaining user others := by
  ext pair
  rw [mem_gaining, mem_gaining, same]

theorem losing_congr {others : List DeviceId} (same : ∀ id, id ∈ ids ↔ id ∈ others) :
    directory.losing user ids = directory.losing user others := by
  ext pair
  rw [mem_losing, mem_losing, same]

theorem losing_of_erase : losing (directory.erase (id, user)) user ids =
    (directory.losing user ids).erase (id, user) := by
  ext pair
  simp only [mem_losing, Finset.mem_erase]
  tauto

theorem gaining_reverse : directory.gaining user ids.reverse = directory.gaining user ids :=
  gaining_congr fun _ => List.mem_reverse

theorem losing_reverse : directory.losing user ids.reverse = directory.losing user ids :=
  losing_congr fun _ => List.mem_reverse

/-- What was not dedicated before is all that is lost when it is taken back again. -/
theorem losing_gaining (absent : ∀ id ∈ ids, (id, user) ∉ directory) :
    (directory.gaining user ids).losing user ids = directory := by
  ext ⟨device, guest⟩
  rw [mem_losing, mem_gaining]
  constructor
  · rintro ⟨held | gained, kept⟩
    · exact held
    · exact absurd gained kept
  · intro held
    refine ⟨.inl held, ?_⟩
    rintro ⟨member, rfl⟩
    exact absent device member held

end Directory

/-! ## Who is connected -/

/-- The guest that is connected through the device. -/
def DeviceRecord.user? (record : DeviceRecord) : Option String :=
  if 0 < record.connections then some record.assigner else none

/-- The guest that is connected through the device, where it has a record. -/
def Tables.userOf (tables : Tables) (id : DeviceId) : Option String :=
  (tables.at? id).bind DeviceRecord.user?

namespace DeviceRecord

variable {record : DeviceRecord}

theorem user?_of_connected (connected : 0 < record.connections) :
    record.user? = some record.assigner := if_pos connected

theorem user?_of_idle (idle : record.connections = 0) : record.user? = none := by
  rw [user?, idle]
  rfl

end DeviceRecord

namespace Tables

variable {tables after : Tables} {id other : DeviceId} {assigner user : String}

theorem userOf_eq_some : tables.userOf id = some user ↔
    ∃ record, tables.at? id = some record ∧ 0 < record.connections ∧ record.assigner = user := by
  simp [userOf, DeviceRecord.user?, Option.bind_eq_some_iff]

theorem userOf_putRecord_self (record : DeviceRecord) :
    (tables.putRecord id record).userOf id = record.user? := by
  rw [userOf, putRecord_at?_self, Option.bind_some]

theorem userOf_putRecord_of_ne (different : other ≠ id) (record : DeviceRecord) :
    (tables.putRecord id record).userOf other = tables.userOf other := by
  rw [userOf, putRecord_at?_of_ne tables different, userOf]

/-- A connection makes the assigner the user of the device, unless the counter runs over.  It is
told to be the first exactly when there was no user before. -/
theorem userOf_addConnection {change : UsageChange} {rest : List DeviceId}
    (sound : tables.RecordsSound) (room : tables.HasRoom (id :: rest))
    (done : addConnection id assigner tables = .ok (change, after)) :
    after.userOf id = some assigner ∧
      (∀ other, other ≠ id → after.userOf other = tables.userOf other) ∧
      tables.userOf id = if change.isFirstConnection then none else some assigner := by
  obtain ⟨record, changed, stored, made, _, rfl, rfl⟩ := addConnection_eq_ok.1 done
  obtain ⟨free, rfl⟩ := connected_eq_ok.1 made
  refine ⟨?_, fun other different => userOf_putRecord_of_ne different _, ?_⟩
  · rw [userOf_putRecord_self]
    exact DeviceRecord.user?_of_connected (add_one_pos_of_room (room.first stored))
  · rw [userOf, stored, Option.bind_some]
    by_cases idle : record.connections = 0
    · rw [DeviceRecord.user?_of_idle idle, if_pos]
      simp [UsageChange.isFirstConnection, DeviceRecord.usage, idle]
    · have connected : 0 < record.connections := UInt32.pos_iff_ne_zero.2 idle
      have old := sound id record stored
      have reserved := old.reserved_of_connected connected
      -- The device is in use by somebody with a name, so only the assigner was let in.
      have own : record.assigner = assigner := by
        by_contra different
        refine free ⟨old.assigner_of_reserved reserved, different, ?_⟩
        rw [DeviceRecord.isInUse, reserved, Bool.true_or]
      rw [DeviceRecord.user?_of_connected connected, own, if_neg]
      simp [UsageChange.isFirstConnection, DeviceRecord.usage, idle]

/-- A removed connection was the assigner's, and the last one leaves no user behind. -/
theorem userOf_removeConnection {result : DeviceRecord}
    (done : removeConnection id assigner tables = .ok (result, after)) :
    tables.userOf id = some assigner ∧
      (∀ other, other ≠ id → after.userOf other = tables.userOf other) ∧
      after.userOf id = if result.connections = 0 then none else some assigner := by
  obtain ⟨record, stored, made, _, rfl⟩ := modifyRecord_eq_ok.1 done
  obtain ⟨busy, rfl, rfl⟩ := disconnected_eq_ok.1 made
  refine ⟨?_, fun other different => userOf_putRecord_of_ne different _, ?_⟩
  · rw [userOf, stored, Option.bind_some]
    exact DeviceRecord.user?_of_connected (UInt32.pos_iff_ne_zero.2 busy)
  · rw [userOf_putRecord_self]
    split
    · next last => exact DeviceRecord.user?_of_idle last
    · next left => exact DeviceRecord.user?_of_connected (UInt32.pos_iff_ne_zero.2 left)

end Tables

/-- What neither connects nor disconnects keeps the user of a device that every listing names, and
gives no user to one that has none. -/
theorem userOf_upkeep (id : DeviceId) (user : Option String) :
    UpkeepKeeps (fun observation => user.isSome = true → observation.Lists id)
      fun tables => tables.userOf id = user := by
  refine upkeepKeeps_of_steps (fun stored => stored.bind DeviceRecord.user? = user) ?_
  intro touch before after upkeep step holds
  cases step with
  | listed =>
    rw [← holds]
    rfl
  | refreshed => exact holds
  | removed =>
    cases user with
    | none => rfl
    | some user =>
      obtain ⟨target, text, devices, expected, parsed, absent⟩ := upkeep
      exact absurd ⟨target, text, devices, expected rfl, parsed, absent⟩ not_listingLacks
  | named =>
    rw [← holds]
    rfl
  | @reserved record assigner template available =>
    rw [← holds, Option.bind_some, Option.bind_some]
    rcases available with held | free
    · rw [DeviceRecord.user?, DeviceRecord.user?, (DeviceRecord.isHeldBy_iff.1 held).1]
    · obtain ⟨idle, _⟩ := DeviceRecord.isFree_iff.1 free
      rw [DeviceRecord.user?_of_idle idle]
      exact DeviceRecord.user?_of_idle idle
  | @released record assigner template releasable =>
    obtain ⟨_, idle, _⟩ := Tables.isReleasable_iff.1 releasable
    rw [← holds, Option.bind_some, Option.bind_some, DeviceRecord.user?_of_idle idle]
    exact DeviceRecord.user?_of_idle idle
  | connected => cases upkeep
  | restored => cases upkeep
  | disconnected => cases upkeep
  | overwritten => cases upkeep

/-- A device is dedicated to a guest exactly while that guest is connected through it. -/
def Directory.Agrees (directory : Directory) (tables : Tables) : Prop :=
  ∀ id user, (id, user) ∈ directory ↔ tables.userOf id = some user

namespace Directory

variable {directory : Directory} {tables now : Tables} {id : DeviceId} {user : String}

theorem agrees_empty : Agrees ∅ ∅ := by
  intro id user
  exact iff_of_false (Finset.notMem_empty _) nofun

theorem Agrees.of_same (agrees : directory.Agrees tables)
    (same : ∀ id, now.userOf id = tables.userOf id) : directory.Agrees now := by
  intro id user
  rw [agrees, same]

/-- A device that gets its first user is to be dedicated to it. -/
theorem Agrees.insert (agrees : directory.Agrees tables) (unused : tables.userOf id = none)
    (used : now.userOf id = some user)
    (others : ∀ other, other ≠ id → now.userOf other = tables.userOf other) :
    Agrees (Insert.insert (id, user) directory) now := by
  intro other guest
  rw [Finset.mem_insert, Prod.mk.injEq, agrees]
  by_cases same : other = id
  · subst same
    simp [unused, used, eq_comm]
  · simp [same, others other same]

/-- A device that has lost its user is to be taken back. -/
theorem Agrees.erase (agrees : directory.Agrees tables) (used : tables.userOf id = some user)
    (unused : now.userOf id = none)
    (others : ∀ other, other ≠ id → now.userOf other = tables.userOf other) :
    Agrees (Finset.erase directory (id, user)) now := by
  intro other guest
  rw [Finset.mem_erase, agrees, ne_eq, Prod.mk.injEq]
  by_cases same : other = id
  · subst same
    simp [unused, used, eq_comm]
  · simp [same, others other same]

end Directory

/-! ## Taking devices back -/

/-- The directory takes back every device, and the guests configure every volume. -/
def Surroundings.Obliging (around : Surroundings) : Prop :=
  ∀ seen, (∀ device user, around.answer seen (.undedicate device user) = .ok ()) ∧
    ∀ volume, around.answer seen (.configureAttach volume) = .ok ()

section Workflows

variable {around : Surroundings} {scene : Scene} {assigner : String} {directory : Directory}

/-- Taking devices back one after the other takes these pairs from the directory. -/
theorem undedicateAll_ends (directory : Directory) {α : Type} {step : DeviceId → Workflow α}
    (steps : ∀ id scene, (step id).Ends around scene
      (fun _ after => after = scene.note (.called (.undedicate id assigner) (.ok ())))
      fun _ _ => False) (ids : List DeviceId) :
    (ids.mapM step).Ends around scene
      (fun _ last => last.tables = scene.tables ∧
        directory.after last.seen = (directory.after scene.seen).losing assigner ids)
      fun _ _ => False := by
  -- What is in the directory now, without what is still to be taken back, is what shall be left.
  have loop : (ids.mapM step).Ends around scene
      (fun _ last => last.tables = scene.tables ∧ (directory.after last.seen).losing assigner [] =
        (directory.after scene.seen).losing assigner ids)
      fun _ _ => False := by
    refine ends_mapM (fun left now => now.tables = scene.tables ∧
      (directory.after now.seen).losing assigner left =
        (directory.after scene.seen).losing assigner ids) ?_ ⟨rfl, rfl⟩
    rintro device rest now ⟨same, others⟩
    refine (steps device now).mono ?_ fun _ _ => False.elim
    rintro _ _ rfl
    refine ⟨same, ?_⟩
    rw [← others, Directory.after_note, Directory.note, Directory.losing_of_erase,
      Directory.losing_cons]
  refine loop.mono (fun _ last ended => ⟨ended.1, ?_⟩) fun _ _ => False.elim
  rw [← ended.2, Directory.losing_nil]

namespace Rollback

variable {rollback : Rollback}

theorem undoConnect_passive (id : DeviceId) (change : UsageChange) :
    (undoConnect id change).Passive := by
  refine (passive_parts.restoreUsage ∅ id change).outcome.bind fun outcome => ?_
  cases outcome <;> exact passive_pure _

theorem undoDisconnect_passive (id : DeviceId) : (undoDisconnect assigner id).Passive := by
  refine (passive_parts.addUsage ∅ id assigner).outcome.bind fun outcome => ?_
  cases outcome <;> exact passive_pure _

theorem undoDedicate_ends_of_obliging (obliging : around.Obliging) (id : DeviceId)
    (scene : Scene) : (undoDedicate assigner id).Ends around scene
      (fun _ after => after = scene.note (.called (.undedicate id assigner) (.ok ())))
      fun _ _ => False := by
  unfold undoDedicate
  rw [ends_bind, ends_outcome, ends_call, (obliging scene.seen).1]
  exact (ends_pure _).2 rfl

/-- Only the undoing of dedications asks anything of another system. -/
theorem undoUsage_passive (rollback : Rollback) (assigner : String) (dedicated : List Result) :
    Passive (do
      let connected ← rollback.connected.mapM fun (id, change) => undoConnect id change
      let disconnected ← rollback.disconnected.mapM (undoDisconnect assigner)
      return dedicated ++ connected ++ disconnected) := by
  refine Passive.bind (passive_parts.mapM ∅ fun entry => ?_) fun connected => ?_
  · exact undoConnect_passive entry.1 entry.2
  · refine Passive.bind (passive_parts.mapM ∅ fun id => ?_) fun disconnected => passive_pure _
    exact undoDisconnect_passive id

/-- Undoing everything takes back what has been dedicated, and nothing else. -/
theorem undo_directory (directory : Directory) (obliging : around.Obliging) :
    (rollback.undo assigner).Ends around scene
      (fun _ last => directory.after last.seen =
        (directory.after scene.seen).losing assigner rollback.dedicated)
      fun _ last => directory.after last.seen =
        (directory.after scene.seen).losing assigner rollback.dedicated := by
  unfold undo
  rw [ends_bind]
  refine (undedicateAll_ends directory (undoDedicate_ends_of_obliging obliging)
    rollback.dedicated).mono ?_ fun _ _ => False.elim
  rintro dedicated middle ⟨_, lost⟩
  refine (undoUsage_passive rollback assigner dedicated around middle).mono
    (fun _ last unmoved => ?_) fun _ last unmoved => ?_
  · rw [directory.after_of_unmoved unmoved, lost]
  · rw [directory.after_of_unmoved unmoved, lost]

/-- **A rollback takes back what has been dedicated, and nothing else.** -/
theorem fail_directory (directory : Directory) {α : Type} (obliging : around.Obliging)
    (operation : String) (devices : List DeviceId) (cause : Failure) :
    Ends around (rollback.fail operation assigner devices cause : Workflow α) scene
      (fun _ _ => False) fun _ last => directory.after last.seen =
        (directory.after scene.seen).losing assigner rollback.dedicated := by
  unfold fail
  rw [ends_bind, ends_measure, ends_bind]
  refine (undo_directory directory obliging).mono (fun results last lost => ?_)
    fun _ last lost => ?_
  · rw [Directory.after_note, Directory.note_of_isPassive rfl] at lost
    split <;> exact (ends_throw _).2 lost
  · rw [Directory.after_note, Directory.note_of_isPassive rfl] at lost
    exact lost

end Rollback

namespace Volume

/-! ## Attaching -/

/-- Where an attach stands that is adding connections: the directory will agree with the tables once
the newly connected devices are dedicated, of which none is so far.  The counters have room for the
devices that are left. -/
structure Connecting (assigner : String) (directory : Directory) (left fresh : List DeviceId)
    (tables : Tables) : Prop where
  sound : tables.RecordsSound
  room : tables.HasRoom left
  agrees : (directory.gaining assigner fresh).Agrees tables
  absent : ∀ id ∈ fresh, (id, assigner) ∉ directory

theorem newlyConnected_cons (rollback : Rollback) (id : DeviceId) (change : UsageChange) :
    newlyConnected { rollback with connected := (id, change) :: rollback.connected } =
      newlyConnected rollback ++ if change.isFirstConnection then [id] else [] := by
  unfold newlyConnected
  cases first : change.isFirstConnection <;> simp [first]

theorem Connecting.connect {rest fresh : List DeviceId} {tables after : Tables} {id : DeviceId}
    {change : UsageChange} (connecting : Connecting assigner directory (id :: rest) fresh tables)
    (present : assigner ≠ "")
    (done : Tables.addConnection id assigner tables = .ok (change, after)) :
    Connecting assigner directory rest (fresh ++ if change.isFirstConnection then [id] else [])
      after := by
  obtain ⟨used, others, before⟩ :=
    Tables.userOf_addConnection connecting.sound connecting.room done
  have sound : after.RecordsSound :=
    recordsSound_usageChanges.connects id present connecting.sound done
  have room : after.HasRoom rest := connecting.room.addConnection done
  cases first : change.isFirstConnection with
  | false =>
    rw [first, if_neg Bool.false_ne_true] at before
    rw [if_neg Bool.false_ne_true, List.append_nil]
    refine ⟨sound, room, connecting.agrees.of_same fun other => ?_, connecting.absent⟩
    by_cases same : other = id
    · rw [same, used, before]
    · exact others other same
  | true =>
    rw [first, if_pos rfl] at before
    rw [if_pos rfl]
    refine ⟨sound, room, ?_, ?_⟩
    · rw [Directory.gaining_append_singleton]
      exact connecting.agrees.insert before used others
    · intro other member
      rcases List.mem_append.1 member with earlier | last
      · exact connecting.absent other earlier
      · -- A device without a user is not dedicated to anybody.
        obtain rfl := List.mem_singleton.1 last
        intro held
        have there := (connecting.agrees other assigner).1 (Directory.mem_gaining.2 (.inl held))
        rw [before] at there
        cases there

/-- Connecting devices asks nothing of another system.  A statement about the devices still to be
connected, the newly connected ones and the tables is kept when each connection keeps it. -/
theorem connectAll_ends_of (inv : List DeviceId → List DeviceId → Tables → Prop)
    {bad : Failure → Scene → Prop} {devices : List DeviceId}
    (steps : ∀ {id rest fresh tables change after}, inv (id :: rest) fresh tables →
      Tables.addConnection id assigner tables = .ok (change, after) →
      inv rest (fresh ++ if change.isFirstConnection then [id] else []) after)
    (failing : ∀ (rollback : Rollback) now cause, scene.Unmoved now → rollback.dedicated = [] →
      Ends around (rollback.fail "attach" assigner devices cause : Workflow Rollback) now
        (fun _ _ => False) bad)
    (start : inv devices [] scene.tables) :
    (eachDevice "attach" assigner devices (connect assigner) {} devices).Ends around scene
      (fun rollback now => scene.Unmoved now ∧ rollback.dedicated = [] ∧
        inv [] (newlyConnected rollback) now.tables) bad := by
  refine eachDevice_ends_of (fun left rollback now => scene.Unmoved now ∧ rollback.dedicated = [] ∧
    inv left (newlyConnected rollback) now.tables) ?_ ⟨Scene.unmoved_of_seen rfl, rfl, start⟩
  rintro device rest rollback now ⟨unmoved, nothing, holds⟩
  have adding := (Pool.addUsage_ends device assigner).and
    (passive_parts.addUsage ∅ device assigner around now)
  unfold connect
  rw [ends_bind]
  refine adding.mono ?_ ?_
  · rintro change middle ⟨⟨done, _⟩, further⟩
    refine (ends_pure _).2 ⟨unmoved.trans further, nothing, ?_⟩
    rw [newlyConnected_cons]
    exact steps holds done
  · rintro cause middle ⟨_, further⟩
    exact failing rollback middle cause (unmoved.trans further) nothing

/-- Dedicating devices gives the guest what has been gone through so far. -/
theorem dedicateAll_ends_of (directory : Directory) {bad : Failure → Scene → Prop}
    {fresh devices : List DeviceId} {rollback : Rollback} (nothing : rollback.dedicated = [])
    (failing : ∀ (rollback : Rollback) now cause, (∀ id ∈ rollback.dedicated, id ∈ fresh) →
      directory.after now.seen =
        (directory.after scene.seen).gaining assigner rollback.dedicated →
      Ends around (rollback.fail "attach" assigner devices cause : Workflow Rollback) now
        (fun _ _ => False) bad) :
    (eachDevice "attach" assigner devices (dedicate assigner) rollback fresh).Ends around scene
      (fun _ now => now.tables = scene.tables ∧
        directory.after now.seen = (directory.after scene.seen).gaining assigner fresh) bad := by
  refine (eachDevice_ends_of (fun left rollback now => now.tables = scene.tables ∧
    rollback.dedicated.reverse ++ left = fresh ∧ directory.after now.seen =
      (directory.after scene.seen).gaining assigner rollback.dedicated) ?_ ?_).mono
    (fun rollback now ended => ?_) fun _ _ => id
  · rintro device rest rollback now ⟨same, whole, gained⟩
    unfold dedicate
    rw [ends_bind, ends_call]
    split
    · refine (ends_pure _).2 ⟨same, ?_, ?_⟩
      · rw [List.reverse_cons, List.append_assoc]
        exact whole
      · rw [Directory.after_note, gained, Directory.gaining_cons]
        rfl
    · refine failing rollback _ _ (fun id member => ?_) ?_
      · rw [← whole]
        exact List.mem_append_left _ (List.mem_reverse.2 member)
      · rw [Directory.after_note]
        exact gained
  · rw [nothing, Directory.gaining_nil]
    exact ⟨rfl, rfl, rfl⟩
  · obtain ⟨same, whole, gained⟩ := ended
    rw [List.append_nil] at whole
    refine ⟨same, ?_⟩
    rw [gained, ← whole, Directory.gaining_reverse]

theorem connectAll_directory (obliging : around.Obliging) (present : assigner ≠ "")
    (sound : scene.tables.RecordsSound)
    (agrees : (directory.after scene.seen).Agrees scene.tables) {devices : List DeviceId}
    (room : scene.tables.HasRoom devices) :
    (eachDevice "attach" assigner devices (connect assigner) {} devices).Ends around scene
      (fun rollback now => scene.Unmoved now ∧ rollback.dedicated = [] ∧
        Connecting assigner (directory.after scene.seen) [] (newlyConnected rollback) now.tables)
      fun _ now => directory.after now.seen = directory.after scene.seen := by
  refine connectAll_ends_of (Connecting assigner (directory.after scene.seen)) ?_ ?_ ?_
  · intro id rest fresh tables change after connecting done
    exact connecting.connect present done
  · intro rollback now cause unmoved nothing
    refine (Rollback.fail_directory directory obliging _ _ _).mono
      (fun _ _ => False.elim) fun _ last lost => ?_
    rw [lost, nothing, Directory.losing_nil, directory.after_of_unmoved unmoved]
  · refine ⟨sound, room, ?_, fun id member => by cases member⟩
    rw [Directory.gaining_nil]
    exact agrees

theorem dedicateAll_directory (obliging : around.Obliging) {fresh devices : List DeviceId}
    (absent : ∀ id ∈ fresh, (id, assigner) ∉ directory.after scene.seen) {rollback : Rollback}
    (nothing : rollback.dedicated = []) :
    (eachDevice "attach" assigner devices (dedicate assigner) rollback fresh).Ends around scene
      (fun _ now => now.tables = scene.tables ∧
        directory.after now.seen = (directory.after scene.seen).gaining assigner fresh)
      fun _ now => directory.after now.seen = directory.after scene.seen := by
  refine dedicateAll_ends_of directory nothing fun rollback now cause among gained => ?_
  refine (Rollback.fail_directory directory obliging _ _ _).mono
    (fun _ _ => False.elim) fun _ last lost => ?_
  rw [lost, gained]
  exact Directory.losing_gaining fun id member => absent id (among id member)

/-- **An attach that succeeds has dedicated every device that it connected first, and one that fails
leaves the directory as it was.** -/
theorem attachAlone_directory (obliging : around.Obliging) (present : assigner ≠ "")
    (sound : scene.tables.RecordsSound)
    (agrees : (directory.after scene.seen).Agrees scene.tables) {connection : VolumeConnection}
    (room : scene.tables.HasRoom connection.devices)
    (outer : connection.skipsSideEffects = false) :
    (attachAlone assigner connection).Ends around scene
      (fun _ now => (directory.after now.seen).Agrees now.tables)
      fun _ now => directory.after now.seen = directory.after scene.seen := by
  unfold attachAlone
  extract_lets attaching
  have afterwards (asked : Scene) (same : asked.tables = scene.tables)
      (unmoved : scene.Unmoved asked) : (attaching ()).Ends around asked
        (fun _ now => (directory.after now.seen).Agrees now.tables)
        fun _ now => directory.after now.seen = directory.after scene.seen := by
    have seen := directory.after_of_unmoved unmoved
    rw [← same, ← seen] at agrees
    unfold attaching
    rw [ends_bind, ← seen]
    refine (connectAll_directory obliging present (same ▸ sound) agrees (same ▸ room)).mono
      ?_ fun _ _ kept => kept
    rintro connected middle ⟨unmoved, nothing, connecting⟩
    have seen := directory.after_of_unmoved unmoved
    rw [← seen] at connecting ⊢
    rw [outer, if_neg Bool.false_ne_true, ends_bind]
    refine (dedicateAll_directory obliging connecting.absent nothing).mono ?_ fun _ _ kept => kept
    rintro dedicated last ⟨unchanged, gained⟩
    rw [ends_bind, ends_outcome, ends_call, (obliging last.seen).2]
    refine (ends_pure ()).2 ?_
    rw [Directory.after_note, gained, Scene.note_tables, unchanged]
    exact connecting.agrees
  split
  · rw [ends_bind, ends_call]
    split
    · next found _ =>
      have asked : scene.Unmoved (scene.note (.called (.guestExists assigner) (.ok found))) :=
        scene.unmoved_note rfl
      split
      · exact (ends_bind _ _).2 ((ends_throw _).2 (directory.after_of_unmoved asked))
      · exact afterwards _ rfl asked
    · exact directory.after_of_unmoved (scene.unmoved_note rfl)
  · exact afterwards scene rfl (Scene.unmoved_of_seen rfl)

theorem attach_directory (obliging : around.Obliging) (sound : scene.tables.RecordsSound)
    (agrees : (directory.after scene.seen).Agrees scene.tables) {connection : VolumeConnection}
    (room : scene.tables.HasRoom connection.devices)
    (outer : connection.skipsSideEffects = false) :
    (attach connection).Ends around scene
      (fun _ now => (directory.after now.seen).Agrees now.tables)
      fun _ now => (directory.after now.seen).Agrees now.tables := by
  unfold attach
  rw [ends_bind, ends_ofOutcome]
  split
  · next assigner checked =>
    have present := ne_empty_of_requiredGuest checked
    rw [ends_bind, ends_ofOutcome]
    split
    · rw [ends_holding]
      refine ((attachAlone_ends present sound connection).and
        (attachAlone_directory obliging present sound agrees room outer)).mono ?_ ?_
      · rintro _ now ⟨_, agrees⟩
        exact agrees
      · rintro _ now ⟨same, kept⟩
        rw [same, kept]
        exact agrees
    · exact agrees
  · exact agrees

/-! ## Detaching -/

/-- A directory that agrees with the tables once the drained devices are taken back still does so
after one connection more is removed. -/
theorem agrees_of_removeConnection {drained : List DeviceId} {tables after : Tables}
    {id : DeviceId} {record : DeviceRecord}
    (agrees : (directory.losing assigner drained).Agrees tables)
    (done : Tables.removeConnection id assigner tables = .ok (record, after)) :
    (directory.losing assigner
      (if record.connections = 0 then id :: drained else drained)).Agrees after := by
  obtain ⟨used, others, left⟩ := Tables.userOf_removeConnection done
  by_cases last : record.connections = 0
  · rw [if_pos last] at left ⊢
    rw [Directory.losing_cons]
    exact agrees.erase used left others
  · rw [if_neg last] at left ⊢
    refine agrees.of_same fun other => ?_
    by_cases same : other = id
    · rw [same, used, left]
    · exact others other same

theorem disconnectAll_directory (directory : Directory) (obliging : around.Obliging)
    {first : Directory}
    (same : directory.after scene.seen = first) {devices : List DeviceId} {state : Detaching}
    (nothing : state.rollback.dedicated = [])
    (agrees : (first.losing assigner state.drained).Agrees scene.tables) (left : List DeviceId) :
    (disconnectAll assigner devices state left).Ends around scene
      (fun state now => directory.after now.seen = first ∧ state.rollback.dedicated = [] ∧
        (first.losing assigner state.drained).Agrees now.tables)
      fun _ now => directory.after now.seen = first := by
  induction left generalizing state scene with
  | nil => exact (ends_pure state).2 ⟨same, nothing, agrees⟩
  | cons device rest ih =>
    have removing := (Pool.decreaseUsage_ends device assigner).and
      (passive_parts.decreaseUsage ∅ device assigner around scene)
    unfold disconnectAll disconnect
    rw [ends_bind, ends_outcome, ends_bind]
    refine removing.mono ?_ ?_
    · rintro _ middle ⟨⟨⟨record, done, rfl⟩, _⟩, unmoved⟩
      refine (ends_pure _).2 (ih ?_ nothing ?_)
      · rw [directory.after_of_unmoved unmoved, same]
      · exact agrees_of_removeConnection agrees done
    · rintro cause middle ⟨_, unmoved⟩
      refine (Rollback.fail_directory directory obliging _ _ _).mono
        (fun _ _ => False.elim) fun _ last lost => ?_
      rw [lost, nothing, Directory.losing_nil, directory.after_of_unmoved unmoved, same]

/-- A device that the directory takes back is withdrawn without a complaint. -/
theorem withdraw_ends_of_taken {id : DeviceId}
    (taken : around.answer scene.seen (.undedicate id assigner) = .ok ()) :
    (withdraw assigner id).Ends around scene
      (fun complaint after => complaint = none ∧
        after = scene.note (.called (.undedicate id assigner) (.ok ())))
      fun _ _ => False := by
  unfold withdraw
  rw [ends_bind, ends_outcome, ends_call, taken]
  exact (ends_pure _).2 ⟨rfl, rfl⟩

/-- **A detach takes back exactly the devices that it drained**, and none when it changed
nothing. -/
theorem detachAlone_directory (obliging : around.Obliging) (sound : scene.tables.RecordsSound)
    (agrees : (directory.after scene.seen).Agrees scene.tables) {connection : VolumeConnection}
    (outer : connection.skipsSideEffects = false) :
    (detachAlone assigner connection).Ends around scene
      (fun _ now => (directory.after now.seen).Agrees now.tables)
      fun _ now => (directory.after now.seen).Agrees now.tables := by
  have standing : Standing assigner scene {} scene :=
    ⟨Rollback.leadsBack_nil scene.tables, rfl, sound, rfl⟩
  have start : ((directory.after scene.seen).losing assigner
      (Detaching.drained {})).Agrees scene.tables := by
    rw [Directory.losing_nil]
    exact agrees
  have connections : (disconnectAll assigner connection.devices {} connection.devices).Ends around
      scene _ _ := disconnectAll_ends standing fun _ runs => runs
  have dedications : (disconnectAll assigner connection.devices {} connection.devices).Ends around
      scene _ _ := disconnectAll_directory directory obliging rfl rfl start connection.devices
  unfold detachAlone
  rw [ends_bind]
  refine (connections.and dedications).mono ?_ ?_
  · rintro state middle ⟨⟨standing, _⟩, same, nothing, drained⟩
    rw [outer, if_neg Bool.false_ne_true]
    extract_lets removal
    rw [ends_bind, ends_outcome, ends_call]
    split
    · have taking (id : DeviceId) (now : Scene) : (withdraw assigner id).Ends around now
          (fun _ after => after = now.note (.called (.undedicate id assigner) (.ok ())))
          fun _ _ => False :=
        (withdraw_ends_of_taken ((obliging now.seen).1 id assigner)).mono
          (fun _ _ ended => ended.2) fun _ _ => False.elim
      refine (ends_bind _ _).2 ((undedicateAll_ends directory taking
        state.drained.reverse).mono ?_ fun _ _ => False.elim)
      rintro results last ⟨unchanged, lost⟩
      have agrees : (directory.after last.seen).Agrees last.tables := by
        rw [lost, unchanged, Directory.losing_reverse, Directory.after_note, same]
        exact drained
      split
      · exact (ends_pure ()).2 agrees
      · exact (ends_throw _).2 agrees
    · next cause _ =>
      let refused := middle.note (.called (.configureDetach removal) (.error cause))
      have back : state.rollback.LeadsBack assigner refused.tables scene.tables := standing.back
      have failing : Ends around (state.rollback.fail "detach" assigner connection.devices cause :
          Workflow PUnit) refused _ _ :=
        (Rollback.fail_ends back).and (Rollback.fail_directory directory obliging _ _ _)
      refine (ends_bind _ _).2 (failing.mono (fun _ _ ended => ended.1.elim) ?_)
      rintro _ last ⟨leads, lost⟩
      rw [lost, nothing, Directory.losing_nil, Directory.after_note, leads.1]
      show (directory.after middle.seen).Agrees scene.tables
      rw [same]
      exact agrees
  · rintro _ last ⟨leads, same⟩
    rw [same, leads.1]
    exact agrees

theorem detach_directory (obliging : around.Obliging) (sound : scene.tables.RecordsSound)
    (agrees : (directory.after scene.seen).Agrees scene.tables) {connection : VolumeConnection}
    (outer : connection.skipsSideEffects = false) :
    (detach connection).Ends around scene
      (fun _ now => (directory.after now.seen).Agrees now.tables)
      fun _ now => (directory.after now.seen).Agrees now.tables := by
  unfold detach
  rw [ends_bind, ends_ofOutcome]
  split
  · rw [ends_bind, ends_ofOutcome]
    split
    · rw [ends_holding]
      exact detachAlone_directory obliging sound agrees outer
    · exact agrees
  · exact agrees

end Volume

end Workflows

/-! ## Every action -/

/-- The action overwrites no usage, and an attach or a detach leaves nothing out that is to happen
outside of the pool. -/
def Action.IsDirected : Action → Prop
  | .attach connection =>
    connection.isRootVolume = false ∧ connection.updateConnectionsOnly = false
  | .detach connection =>
    connection.isRootVolume = false ∧ connection.updateConnectionsOnly = false
  | .setUsage _ _ => False
  | _ => True

/-- No counter of connections runs over in the action. -/
def Tables.HasRoomFor (tables : Tables) : Action → Prop
  | .attach connection => tables.HasRoom connection.devices
  | _ => True

namespace Volume

/-- The tables and the directory after actions that ran one after the other, from an empty pool and
an empty directory on, each of them allowed on the tables before it.  No reconciliation drops a
device that is connected when its action begins. -/
inductive Directed (settings : OperatorSettings) (allowed : Tables → Action → Prop) :
    Tables → Directory → Prop where
  | start : Directed settings allowed ∅ ∅
  | acted {tables : Tables} {directory : Directory} {action : Action} {around : Surroundings}
    {outcome : Outcome Output} {scene : Scene}
    (earlier : Directed settings allowed tables directory) (directed : action.IsDirected)
    (allows : allowed tables action) (obliging : around.Obliging)
    (run : (dispatch settings action).run.alone around { tables } = (some outcome, scene))
    (listed : ∀ id record, tables.devices.get? id = some record → 0 < record.connections →
      ∀ observation ∈ scene.seen, observation.Lists id) :
    Directed settings allowed scene.tables (directory.after scene.seen)

variable {settings : OperatorSettings} {around : Surroundings} {tables : Tables}
  {directory : Directory} {action : Action} {outcome : Outcome Output} {scene : Scene}

/-- Neither what is not an attach nor a detach changes the directory, nor who is connected. -/
theorem agrees_of_quiet (agrees : directory.Agrees tables) (quiet : action.changesUsage = false)
    (run : (dispatch settings action).run.alone around { tables } = (some outcome, scene))
    (listed : ∀ id record, tables.devices.get? id = some record → 0 < record.connections →
      ∀ observation ∈ scene.seen, observation.Lists id) :
    (directory.after scene.seen).Agrees scene.tables := by
  have ends := passive_parts.dispatch settings (passive_parts.run settings quiet) around { tables }
  have unmoved : Scene.Unmoved { tables } scene := by
    cases outcome with
    | ok output => exact ends.of_ok run
    | error failure => exact ends.of_error run
  rw [directory.after_of_unmoved unmoved]
  refine agrees.of_same fun id => ?_
  refine (dispatch_preserves (run_preserves_of_upkeep settings
    (userOf_upkeep id (tables.userOf id)) quiet)).alone run rfl ?_
  intro observation seen connected
  obtain ⟨user, used⟩ := Option.isSome_iff_exists.1 connected
  obtain ⟨record, stored, busy, _⟩ := Tables.userOf_eq_some.1 used
  exact listed id record stored busy observation seen

/-- **Every action leaves a directory that agrees with the tables.** -/
theorem agrees_of_run (sound : tables.RecordsSound) (agrees : directory.Agrees tables)
    (directed : action.IsDirected) (room : tables.HasRoomFor action) (obliging : around.Obliging)
    (run : (dispatch settings action).run.alone around { tables } = (some outcome, scene))
    (listed : ∀ id record, tables.devices.get? id = some record → 0 < record.connections →
      ∀ observation ∈ scene.seen, observation.Lists id) :
    (directory.after scene.seen).Agrees scene.tables := by
  have counted (now : Scene) (taken : Measure) (agrees : (directory.after now.seen).Agrees
      now.tables) : (directory.after (now.note (.measured taken)).seen).Agrees now.tables := by
    rw [Directory.after_note]
    exact agrees
  have whole (ends : (Volume.run settings action).Ends around { tables }
      (fun _ now => (directory.after now.seen).Agrees now.tables)
      fun _ now => (directory.after now.seen).Agrees now.tables) :
      (directory.after scene.seen).Agrees scene.tables := by
    have dispatched : (dispatch settings action).Ends around { tables }
        (fun _ now => (directory.after now.seen).Agrees now.tables)
        fun _ now => (directory.after now.seen).Agrees now.tables :=
      ends_dispatch.2 (ends.mono (fun _ now => counted now _) fun _ now => counted now _)
    cases outcome with
    | ok output => exact dispatched.of_ok run
    | error failure => exact dispatched.of_error run
  have start : (directory.after (Scene.seen { tables })).Agrees (Scene.tables { tables }) := agrees
  have outer {connection : VolumeConnection} (full : connection.isRootVolume = false ∧
      connection.updateConnectionsOnly = false) : connection.skipsSideEffects = false := by
    rw [VolumeConnection.skipsSideEffects, full.1, full.2, Bool.or_false]
  cases quiet : action.changesUsage with
  | false => exact agrees_of_quiet agrees quiet run listed
  | true =>
    cases action with
    | attach connection =>
      refine whole ((ends_bind _ _).2 ?_)
      refine (attach_directory obliging sound start room (outer directed)).mono ?_
        fun _ _ kept => kept
      intro _ now agrees
      exact (ends_pure _).2 agrees
    | detach connection =>
      refine whole ((ends_bind _ _).2 ?_)
      refine (detach_directory obliging sound start (outer directed)).mono ?_ fun _ _ kept => kept
      intro _ now agrees
      exact (ends_pure _).2 agrees
    | setUsage device usage => exact directed.elim
    | _ => cases quiet

theorem Directed.sound_agrees (directed : Directed settings Tables.HasRoomFor tables directory) :
    tables.RecordsSound ∧ directory.Agrees tables := by
  induction directed with
  | start => exact ⟨Tables.recordsSound_empty, Directory.agrees_empty⟩
  | @acted tables directory action around outcome scene earlier directed room obliging run listed
      ih =>
    obtain ⟨sound, agrees⟩ := ih
    have kept : (dispatch settings action).Preserves (fun _ => True) Tables.RecordsSound :=
      dispatch_preserves
        (run_preserves settings (recordsSound_upkeep _) recordsSound_usageChanges action)
    exact ⟨kept.alone run sound fun _ _ => trivial,
      agrees_of_run sound agrees directed room obliging run listed⟩

end Volume

/-- **After every action a device is dedicated to a guest exactly when that guest is connected
through it**, as long as no counter has run over. -/
theorem directory_agrees_with_pool {settings : OperatorSettings} {tables : Tables}
    {directory : Directory}
    (directed : Volume.Directed settings Tables.HasRoomFor tables directory) (id : DeviceId)
    (user : String) : (id, user) ∈ directory ↔ ∃ record,
      tables.devices.get? id = some record ∧ 0 < record.connections ∧ record.assigner = user := by
  obtain ⟨_, agrees⟩ := directed.sound_agrees
  rw [agrees, Tables.userOf_eq_some]

/-! ## An attach and a refused detach -/

/-- An action that comes to an end without a listing follows those before it. -/
theorem Volume.Directed.unlisted {settings : OperatorSettings}
    {allowed : Tables → Action → Prop} {tables : Tables} {directory : Directory}
    (earlier : Directed settings allowed tables directory) (action : Action)
    (directed : action.IsDirected) (allows : allowed tables action) {around : Surroundings}
    (obliging : around.Obliging) {ran : Option (Outcome Output) × Scene}
    (run : (dispatch settings action).run.alone around { tables } = ran)
    (ended : ran.1.isSome = true)
    (unlisted : ∀ observation ∈ ran.2.seen, observation.listed?.isNone = true) :
    Directed settings allowed ran.2.tables (directory.after ran.2.seen) := by
  obtain ⟨outcome, finished⟩ := Option.isSome_iff_exists.1 ended
  refine earlier.acted directed allows obliging (run.trans (Prod.ext finished rfl)) ?_
  intro id record _ _ observation member devices listed
  have none := unlisted observation member
  rw [Option.mem_def.1 listed] at none
  cases none

namespace Sample

/-- A directory that does what it is asked, and a guest that removes no volume. -/
def keeping : Surroundings where
  stamp _ := { id := "T", createdAt := default }
  answer _
    | .listDevices _ => .ok ""
    | .guestExists _ => .ok true
    | .dedicate _ _ => .ok ()
    | .undedicate _ _ => .ok ()
    | .configureAttach _ => .ok ()
    | .configureDetach _ => .error (.internal "not removed")

/-- What comes of an action. -/
def ran (action : Action) (tables : Tables) : Option (Outcome Output) × Scene :=
  (Volume.dispatch settings action).run.alone keeping { tables }

/-- A template is made, the volume is attached, and a detach is tried. -/
def known := ran (.createTemplate { devices := "1a00" }) ∅
def used := ran (.attach volume) known.2.tables
def stillUsed := ran (.detach volume) used.2.tables

/-- What the directory holds in the end. -/
def dedicated : Directory :=
  ((Directory.after ∅ known.2.seen).after used.2.seen).after stillUsed.2.seen

theorem keeping_obliging : keeping.Obliging := fun _ => ⟨fun _ _ => rfl, fun _ => rfl⟩

/-- The attach is directed after the template was made, where both are allowed. -/
theorem used_directed {allowed : Tables → Action → Prop}
    (making : allowed ∅ (.createTemplate { devices := "1a00" }))
    (attaching : allowed known.2.tables (.attach volume)) :
    Volume.Directed settings allowed used.2.tables
      ((Directory.after ∅ known.2.seen).after used.2.seen) := by
  have states : ∀ ran ∈ [known, used], ran.1.isSome = true ∧
      ∀ observation ∈ ran.2.seen, observation.listed?.isNone = true := by decide +kernel
  simp only [List.forall_mem_cons] at states
  obtain ⟨⟨ended₁, unlisted₁⟩, ⟨ended₂, unlisted₂⟩, -⟩ := states
  have made : Volume.Directed settings allowed known.2.tables _ :=
    Volume.Directed.start.unlisted (.createTemplate _) trivial making keeping_obliging rfl ended₁
      unlisted₁
  exact made.unlisted (.attach volume) ⟨rfl, rfl⟩ attaching keeping_obliging rfl ended₂ unlisted₂

end Sample

/-- The guest keeps the device that it has not let go. -/
theorem directory_agrees_with_pool_after_refusal :
    Sample.stillUsed.1.map Volume.succeeded = some false ∧
      Volume.Directed Sample.settings Tables.HasRoomFor Sample.stillUsed.2.tables
        Sample.dedicated ∧
      (Sample.device, "A") ∈ Sample.dedicated ∧ (Sample.device, "B") ∉ Sample.dedicated := by
  obtain ⟨ended, unlisted, refused, user⟩ : Sample.stillUsed.1.isSome = true ∧
      (∀ observation ∈ Sample.stillUsed.2.seen, observation.listed?.isNone = true) ∧
      Sample.stillUsed.1.map Volume.succeeded = some false ∧
      Sample.stillUsed.2.tables.userOf Sample.device = some "A" := by decide +kernel
  have room : Sample.known.2.tables.HasRoom Sample.volume.devices := by decide +kernel
  have directed : Volume.Directed Sample.settings Tables.HasRoomFor Sample.stillUsed.2.tables
      Sample.dedicated :=
    (Sample.used_directed trivial room).unlisted (.detach Sample.volume) ⟨rfl, rfl⟩ trivial
      Sample.keeping_obliging rfl ended unlisted
  refine ⟨refused, directed, ?_, ?_⟩
  · exact (directory_agrees_with_pool directed Sample.device "A").2 (Tables.userOf_eq_some.1 user)
  · intro held
    have other := Tables.userOf_eq_some.2
      ((directory_agrees_with_pool directed Sample.device "B").1 held)
    rw [user] at other
    exact absurd other (by decide)

/-! ## A counter that runs over -/

/-- Every guest is known, and nothing is refused that an attach asks for. -/
def Surroundings.Granting (around : Surroundings) : Prop :=
  ∀ seen, (∀ user, around.answer seen (.guestExists user) = .ok true) ∧
    (∀ device user, around.answer seen (.dedicate device user) = .ok ()) ∧
    ∀ volume, around.answer seen (.configureAttach volume) = .ok ()

/-- Whether no device is taken back from a guest, and none listed. -/
def Observation.gives : Observation → Bool
  | .called (.listDevices _) _ => false
  | .called (.undedicate _ _) _ => false
  | _ => true

/-- A directory that is asked for nothing back keeps what it has. -/
theorem Directory.subset_after {seen : List Observation}
    (gives : ∀ observation ∈ seen, observation.gives = true) (directory : Directory) :
    directory ⊆ directory.after seen := by
  induction seen generalizing directory with
  | nil => exact Finset.Subset.refl directory
  | cons observation rest ih =>
    obtain ⟨first, others⟩ := List.forall_mem_cons.1 gives
    refine Finset.Subset.trans ?_ (ih others (directory.note observation))
    unfold note
    split
    · exact Finset.subset_insert _ _
    · cases first
    · exact Finset.Subset.refl directory

/-- Nothing has been seen so far by which a directory could lose a pair, and no listing. -/
def Scene.Giving (scene : Scene) : Prop :=
  ∀ observation ∈ scene.seen, observation.gives = true

namespace Scene.Giving

variable {scene : Scene}

theorem note (giving : scene.Giving) {observation : Observation}
    (gives : observation.gives = true) : (scene.note observation).Giving :=
  List.forall_mem_append.2 ⟨giving, List.forall_mem_singleton.2 gives⟩

theorem unlisted (giving : scene.Giving) :
    ∀ observation ∈ scene.seen, observation.listed?.isNone = true := by
  intro observation member
  have gives := giving observation member
  unfold Observation.listed?
  split
  · cases gives
  · rfl

end Scene.Giving

namespace Volume

section Granted

variable {around : Surroundings} {scene : Scene} {assigner : String} {final : Tables}
  {connection : VolumeConnection}

/-- Connections that can be added are added. -/
theorem connectAll_grants {devices : List DeviceId} (giving : scene.Giving)
    (runs : Transaction.Runs (fun id => Tables.addConnection id assigner) devices scene.tables
      final) :
    (eachDevice "attach" assigner devices (connect assigner) {} devices).Ends around scene
      (fun _ now => now.tables = final ∧ now.Giving) fun _ _ => False := by
  refine (eachDevice_ends_of (fun left _ now => Transaction.Runs
    (fun id => Tables.addConnection id assigner) left now.tables final ∧ now.Giving) ?_
    ⟨runs, giving⟩).mono (fun _ now ended => ⟨ended.1.symm, ended.2⟩) fun _ _ => id
  rintro id rest rollback now ⟨⟨change, after, done, further⟩, giving⟩
  unfold connect Pool.addUsage
  have added : Tables.addConnection id assigner now.tables = .ok (change, after) := done
  rw [ends_bind, ends_bind, ends_commit, added]
  dsimp only
  rw [ends_bind, ends_emit, ends_pure, ends_pure]
  exact ⟨further, giving.note rfl⟩

theorem dedicateAll_grants (granting : around.Granting) (giving : scene.Giving)
    {devices left : List DeviceId} {rollback : Rollback} :
    (eachDevice "attach" assigner devices (dedicate assigner) rollback left).Ends around scene
      (fun _ now => now.tables = scene.tables ∧ now.Giving) fun _ _ => False := by
  refine eachDevice_ends_of (fun _ _ now => now.tables = scene.tables ∧ now.Giving) ?_
    ⟨rfl, giving⟩
  rintro id rest rollback now ⟨same, giving⟩
  unfold dedicate
  rw [ends_bind, ends_call, (granting now.seen).2.1]
  exact (ends_pure _).2 ⟨same, giving.note rfl⟩

/-- An attach that is refused nothing adds its connections and takes nothing back, also when a
counter runs over. -/
theorem attachAlone_grants (granting : around.Granting) (giving : scene.Giving)
    (runs : Transaction.Runs (fun id => Tables.addConnection id assigner) connection.devices
      scene.tables final) :
    (attachAlone assigner connection).Ends around scene
      (fun _ now => now.tables = final ∧ now.Giving) fun _ _ => False := by
  unfold attachAlone
  extract_lets attaching
  have afterwards (asked : Scene) (same : asked.tables = scene.tables) (giving : asked.Giving) :
      (attaching ()).Ends around asked (fun _ now => now.tables = final ∧ now.Giving)
        fun _ _ => False := by
    unfold attaching
    rw [ends_bind]
    refine (connectAll_grants giving (same ▸ runs)).mono ?_ fun _ _ => id
    rintro connected middle ⟨reached, giving⟩
    split
    · exact (ends_pure ()).2 ⟨reached, giving⟩
    · rw [ends_bind]
      refine (dedicateAll_grants granting giving).mono ?_ fun _ _ => id
      rintro dedicated last ⟨unchanged, giving⟩
      rw [ends_bind, ends_outcome, ends_call, (granting last.seen).2.2]
      exact (ends_pure ()).2 ⟨unchanged.trans reached, giving.note rfl⟩
  split
  · rw [ends_bind, ends_call, (granting scene.seen).1]
    exact afterwards _ rfl (giving.note rfl)
  · exact afterwards scene rfl giving

theorem exists_run_attach (settings : OperatorSettings) {tables : Tables}
    (granting : around.Granting) (present : guestName connection.assigner ≠ "")
    (named : requiredDevices connection.devices = .ok ())
    (runs : Transaction.Runs (fun id => Tables.addConnection id (guestName connection.assigner))
      connection.devices tables final) :
    ∃ outcome scene, (dispatch settings (.attach connection)).run.alone around { tables } =
      (some outcome, scene) ∧ scene.tables = final ∧ scene.Giving := by
  have attached : (attach connection).Ends around { tables }
      (fun _ now => now.tables = final ∧ now.Giving) fun _ _ => False := by
    unfold attach
    rw [ends_bind, ends_ofOutcome, requiredGuest_eq_ok.2 ⟨present, rfl⟩]
    dsimp only
    rw [ends_bind, ends_ofOutcome, named]
    dsimp only
    rw [ends_holding]
    exact attachAlone_grants granting (fun _ member => by cases member) runs
  refine Ends.exists_run (fun _ now => now.tables = final ∧ now.Giving) (ends_dispatch.2 ?_)
  refine (ends_bind _ _).2 (attached.mono ?_ fun _ _ => False.elim)
  rintro _ now ⟨reached, giving⟩
  exact (ends_pure _).2 ⟨reached, giving.note rfl⟩

end Granted

end Volume

namespace Sample

/-- A volume that the guest `A` reaches once through the device. -/
def slimVolume : VolumeConnection := { volume with devices := [device] }

theorem keeping_granting : keeping.Granting := fun _ => ⟨fun _ => rfl, fun _ _ => rfl, fun _ => rfl⟩

/-- One attach after the other keeps the device dedicated, while its counter goes round. -/
theorem exists_directed (number : Nat) : ∃ tables directory record,
    Volume.Directed settings (fun _ _ => True) tables directory ∧ (device, "A") ∈ directory ∧
      tables.devices.get? device = some record ∧ record.assigner = "A" ∧
        record.connections = UInt32.ofNat (number + 2) := by
  induction number with
  | zero =>
    obtain ⟨dedicated, stored⟩ :
        (device, "A") ∈ (Directory.after ∅ known.2.seen).after used.2.seen ∧
        used.2.tables.devices.get? device = some { DeviceRecord.placeholder device with
          reserved := true, assigner := "A", connections := 2 } := by decide +kernel
    exact ⟨_, _, _, used_directed trivial trivial, dedicated, stored, rfl, rfl⟩
  | succ number ih =>
    obtain ⟨tables, directory, record, directed, dedicated, stored, own, count⟩ := ih
    have made : Tables.connected "A" record = .ok (record.charged "A" 1) :=
      Tables.connected_eq_ok.2 ⟨fun taken => taken.2.1 own, rfl⟩
    have checked : (record.charged "A" 1).usage.check = .ok () :=
      Usage.check_eq_ok.2 ⟨fun _ => rfl, fun _ => show "A" ≠ "" by decide⟩
    have done : Tables.addConnection device "A" tables =
        .ok (⟨record.usage, _⟩, tables.putRecord device (record.charged "A" 1)) :=
      Tables.addConnection_eq_ok.2 ⟨record, _, stored, made, checked, rfl, rfl⟩
    have name : guestName slimVolume.assigner = "A" := by decide +kernel
    have runs : Transaction.Runs
        (fun id => Tables.addConnection id (guestName slimVolume.assigner)) slimVolume.devices
          tables (tables.putRecord device (record.charged "A" 1)) := by
      rw [name]
      exact ⟨_, _, done, rfl⟩
    obtain ⟨outcome, scene, run, reached, giving⟩ := Volume.exists_run_attach settings
      keeping_granting (show guestName slimVolume.assigner ≠ "" by rw [name]; decide) rfl runs
    refine ⟨scene.tables, directory.after scene.seen, record.charged "A" 1, ?_,
      Directory.subset_after giving directory dedicated, ?_, rfl, ?_⟩
    · exact directed.unlisted (.attach slimVolume) ⟨rfl, rfl⟩ trivial keeping_obliging run rfl
        giving.unlisted
    · rw [reached]
      exact tables.putRecord_at?_self device _
    · rw [DeviceRecord.charged_connections, count, ← UInt32.ofNat_add]

end Sample

/-- **A device stays dedicated while its counter runs over** to no connection at all. -/
theorem overflow_leaves_idle_device_dedicated : ∃ tables directory record,
    Volume.Directed Sample.settings (fun _ _ => True) tables directory ∧
      (Sample.device, "A") ∈ directory ∧ tables.devices.get? Sample.device = some record ∧
        record.connections = 0 := by
  obtain ⟨tables, directory, record, directed, dedicated, stored, _, count⟩ :=
    Sample.exists_directed 4294967294
  exact ⟨tables, directory, record, directed, dedicated, stored, count⟩

end FibrePool
