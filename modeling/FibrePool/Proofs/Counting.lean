import FibrePool.Proofs.Unwinding

/-!
# Counting connections

A counter of connections has 32 bits, and nobody looks at the carry: the connection that is added
to a device with 4294967295 of them leaves it with none.  Removing a connection is refused when
there is none, so counters never run over in that direction.

What a list of devices adds to the record of a device is `DeviceRecord.charged`, in every case.  The
numbers add up as long as there is room for all of them, which is `Tables.HasRoom`; each connection
that is added leaves room for those still to come.
-/

namespace FibrePool

set_option autoImplicit false

/-! ## Counters -/

section Counters

variable {count : UInt32} {number : Nat}

theorem toNat_add_of_room (room : count.toNat + number < 4294967296) :
    (count + UInt32.ofNat number).toNat = count.toNat + number := by
  have fits : number < UInt32.size := Nat.lt_of_le_of_lt (Nat.le_add_left _ _) room
  rw [UInt32.toNat_add, UInt32.toNat_ofNat_of_lt' fits]
  exact Nat.mod_eq_of_lt room

theorem add_one_pos_of_room (room : count.toNat + 1 < 4294967296) : 0 < count + 1 := by
  have counted : (count + 1).toNat = count.toNat + 1 := toNat_add_of_room room
  rw [UInt32.lt_iff_toNat_lt, counted]
  exact Nat.succ_pos _

/-- A counter that is added to may run over, once for every 4294967296. -/
theorem exists_overflows (count : UInt32) (number : Nat) : ∃ overflows,
    (count + UInt32.ofNat number).toNat + overflows * 4294967296 = count.toNat + number := by
  refine ⟨(count.toNat + number) / 4294967296, ?_⟩
  rw [UInt32.toNat_add, UInt32.toNat_ofNat', Nat.add_mod_mod, Nat.mul_comm]
  exact Nat.mod_add_div _ _

theorem toNat_sub_one_add_one (some : count ≠ 0) : (count - 1).toNat + 1 = count.toNat := by
  have positive : 0 < count.toNat := UInt32.pos_iff_ne_zero.2 some
  have below : (1 : UInt32) ≤ count := positive
  rw [UInt32.toNat_sub_of_le _ _ below]
  exact Nat.sub_add_cancel positive

end Counters

/-! ## Records -/

/-- The record after the assigner has added so many connections; the first of them makes the device
the assigner's. -/
def DeviceRecord.charged (assigner : String) (record : DeviceRecord) : Nat → DeviceRecord
  | 0 => record
  | count + 1 =>
    { record with
      connections := record.connections + UInt32.ofNat (count + 1), reserved := true, assigner }

namespace DeviceRecord

variable {assigner : String} {record : DeviceRecord}

@[simp] theorem charged_connections (count : Nat) :
    (record.charged assigner count).connections = record.connections + UInt32.ofNat count := by
  cases count with
  | zero => exact (UInt32.add_zero _).symm
  | succ count => rfl

theorem charged_of_pos {count : Nat} (some : 0 < count) : record.charged assigner count =
    { record with
      connections := record.connections + UInt32.ofNat count, reserved := true, assigner } := by
  cases count with
  | zero => exact absurd some (Nat.lt_irrefl 0)
  | succ count => rfl

/-- Connections may be added one by one. -/
theorem charged_charged (first second : Nat) :
    (record.charged assigner first).charged assigner second =
      record.charged assigner (first + second) := by
  cases second with
  | zero => rfl
  | succ second =>
    rw [charged_of_pos (Nat.succ_pos second), charged_of_pos (Nat.add_pos_right first
      (Nat.succ_pos second)), charged_connections, UInt32.add_assoc, ← UInt32.ofNat_add]
    cases first <;> rfl

end DeviceRecord

/-! ## Lists of devices -/

namespace Tables

variable {assigner : String} {tables before after : Tables} {devices rest : List DeviceId}
  {id device : DeviceId} {record : DeviceRecord}

theorem at?_of_addConnection {change : UsageChange}
    (done : addConnection id assigner tables = .ok (change, after)) (other : DeviceId)
    (different : other ≠ id) : after.at? other = tables.at? other := by
  obtain ⟨_, changed, _, _, _, _, rfl⟩ := addConnection_eq_ok.1 done
  exact putRecord_at?_of_ne tables different changed

/-- A connection that is added charges the record of its device. -/
theorem exists_charged_of_addConnection {change : UsageChange}
    (done : addConnection id assigner tables = .ok (change, after)) :
    ∃ record, tables.at? id = some record ∧ after.at? id = some (record.charged assigner 1) := by
  obtain ⟨record, changed, stored, made, _, _, rfl⟩ := addConnection_eq_ok.1 done
  obtain rfl : changed = record.charged assigner 1 := (connected_eq_ok.1 made).2
  exact ⟨record, stored, putRecord_at?_self _ _ _⟩

/-- Connections that are added for a list leave a device with one for every mention of it. -/
theorem at?_of_runs_addConnection
    (runs : Transaction.Runs (fun id => addConnection id assigner) devices before after)
    (stored : before.at? id = some record) :
    after.at? id = some (record.charged assigner (devices.count id)) := by
  induction devices generalizing before record with
  | nil =>
    obtain rfl : after = before := runs
    exact stored
  | cons device rest ih =>
    obtain ⟨change, middle, done, further⟩ := runs
    by_cases same : id = device
    · subst same
      obtain ⟨old, found, charged⟩ := exists_charged_of_addConnection done
      obtain rfl : record = old := Option.some.inj (stored.symm.trans found)
      rw [ih further charged, DeviceRecord.charged_charged, Nat.add_comm, List.count_cons_self]
    · rw [ih further ((at?_of_addConnection done id same).trans stored),
        List.count_cons_of_ne (Ne.symm same)]

/-- Connections that are removed for a list were there, and nothing else of a record changes. -/
theorem at?_of_runs_removeConnection
    (runs : Transaction.Runs (fun id => removeConnection id assigner) devices before after)
    (stored : before.at? id = some record) :
    ∃ left, after.at? id = some { record with connections := left } ∧
      left.toNat + devices.count id = record.connections.toNat := by
  induction devices generalizing before record with
  | nil =>
    obtain rfl : after = before := runs
    exact ⟨record.connections, stored, rfl⟩
  | cons device rest ih =>
    obtain ⟨new, middle, done, further⟩ := runs
    obtain ⟨old, found, made, _, rfl⟩ := modifyRecord_eq_ok.1 done
    by_cases same : id = device
    · subst same
      obtain rfl : record = old := Option.some.inj (stored.symm.trans found)
      obtain ⟨connections, _, rfl⟩ := disconnected_eq_ok.1 made
      obtain ⟨left, kept, count⟩ := ih further (putRecord_at?_self _ _ _)
      refine ⟨left, kept, ?_⟩
      rw [List.count_cons_self, ← Nat.add_assoc, count]
      exact toNat_sub_one_add_one connections
    · obtain ⟨left, kept, count⟩ := ih further ((putRecord_at?_of_ne _ same _).trans stored)
      refine ⟨left, kept, ?_⟩
      rw [List.count_cons_of_ne (Ne.symm same), count]

/-! ## Room -/

/-- No counter runs over when a connection is added for every device of a list. -/
def HasRoom (tables : Tables) (devices : List DeviceId) : Prop :=
  ∀ id record, tables.at? id = some record →
    record.connections.toNat + devices.count id < 4294967296

theorem hasRoom_iff : tables.HasRoom devices ↔ ∀ entry ∈ tables.devices.entries,
    entry.2.connections.toNat + devices.count entry.1 < 4294967296 := by
  constructor
  · intro room entry listed
    exact room entry.1 entry.2 (OrderedMap.mem_entries_iff.1 listed)
  · intro room id record stored
    exact room (id, record) (OrderedMap.mem_entries_iff.2 stored)

instance : Decidable (tables.HasRoom devices) := decidable_of_iff _ hasRoom_iff.symm

/-- The room for a list does for its first device. -/
theorem HasRoom.first (room : tables.HasRoom (device :: rest))
    (stored : tables.at? device = some record) : record.connections.toNat + 1 < 4294967296 := by
  have enough := room device record stored
  rw [List.count_cons_self] at enough
  omega

/-- **A connection that is added leaves room for those to come.** -/
theorem HasRoom.addConnection {change : UsageChange} (room : tables.HasRoom (device :: rest))
    (done : Tables.addConnection device assigner tables = .ok (change, after)) :
    after.HasRoom rest := by
  intro id record stored
  by_cases same : id = device
  · subst same
    obtain ⟨old, found, charged⟩ := exists_charged_of_addConnection done
    obtain rfl := Option.some.inj (charged.symm.trans stored)
    have enough := room id old found
    rw [List.count_cons_self] at enough
    rw [DeviceRecord.charged_connections, toNat_add_of_room (room.first found)]
    omega
  · have enough := room id record ((at?_of_addConnection done id same).symm.trans stored)
    rwa [List.count_cons_of_ne (Ne.symm same)] at enough

end Tables

end FibrePool
