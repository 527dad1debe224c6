import FibrePool.Pool.UsageChange
import FibrePool.Proofs.Lookup
import Mathlib.Logic.Relation

/-!
# What happens to the record of a device

A transaction changes many records or one, and each of them in one of a few ways: it appears
because the hypervisor lists it or a template names it, it is refreshed or dropped by a
reconciliation, it is reserved or released, it gets a connection more or less, and its usage is put
back or overwritten.
`RecordStep` lists these ways with the conditions under which the store takes them.

For every transaction there is one statement here: the record of each device goes through steps of
certain kinds only (`Altered`).  What is true of records in every state is then proved by looking at
the steps, not at the transactions.
-/

namespace FibrePool

set_option autoImplicit false

/-! ## Steps -/

/-- Why the record of a device changes. -/
inductive Touch where
  | listing
  | removal
  | naming
  | reservation (assigner template : String)
  | release (assigner template : String)
  | connection (assigner : String)
  | restoration (change : UsageChange)
  | disconnection (assigner : String)
  | overwriting (usage : Usage)

/-- The record of a device, where there is one, before and after one change of it. -/
inductive RecordStep (id : DeviceId) :
    Touch → Option DeviceRecord → Option DeviceRecord → Prop where
  | listed {device : LiveDevice} (same : device.id = id) :
    RecordStep id .listing none (some (.ofLive device))
  | refreshed {record : DeviceRecord} {device : LiveDevice} (same : device.id = id) :
    RecordStep id .listing (some record) (some (record.refresh device))
  | removed {record : DeviceRecord} : RecordStep id .removal (some record) none
  | named : RecordStep id .naming none (some (.placeholder id))
  | reserved {record : DeviceRecord} {assigner template : String}
    (available : record.isHeldBy assigner template = true ∨ record.isFree = true) :
    RecordStep id (.reservation assigner template) (some record)
      (some { record with reserved := true, assigner, template })
  | released {record : DeviceRecord} {assigner template : String}
    (releasable : Tables.isReleasable assigner template record = true) :
    RecordStep id (.release assigner template) (some record) (some (Tables.released record))
  | connected {record changed : DeviceRecord} {assigner : String}
    (done : Tables.connected assigner record = .ok changed) (sound : changed.usage.check = .ok ()) :
    RecordStep id (.connection assigner) (some record) (some changed)
  | restored {record changed : DeviceRecord} {change : UsageChange}
    (done : Tables.restored change record = .ok changed) (sound : changed.usage.check = .ok ()) :
    RecordStep id (.restoration change) (some record) (some changed)
  | disconnected {record changed : DeviceRecord} {assigner : String}
    (done : Tables.disconnected assigner record = .ok changed)
    (sound : changed.usage.check = .ok ()) :
    RecordStep id (.disconnection assigner) (some record) (some changed)
  | overwritten {record : DeviceRecord} {usage : Usage} (sound : usage.check = .ok ()) :
    RecordStep id (.overwriting usage) (some record) (some (record.withUsage usage))

/-- Any number of changes, each for a reason that `touches` allows. -/
def Altered (touches : Touch → Prop) (id : DeviceId) :
    Option DeviceRecord → Option DeviceRecord → Prop :=
  Relation.ReflTransGen fun before after =>
    ∃ touch, touches touch ∧ RecordStep id touch before after

namespace Altered

variable {touches : Touch → Prop} {id : DeviceId} {before after : Option DeviceRecord}

theorem refl : Altered touches id before before := Relation.ReflTransGen.refl

theorem of_eq (same : after = before) : Altered touches id before after := same ▸ refl

theorem of_step {touch : Touch} (allowed : touches touch)
    (step : RecordStep id touch before after) : Altered touches id before after :=
  Relation.ReflTransGen.single ⟨touch, allowed, step⟩

theorem trans {middle : Option DeviceRecord} (first : Altered touches id before middle)
    (second : Altered touches id middle after) : Altered touches id before after :=
  Relation.ReflTransGen.trans first second

theorem mono {touches' : Touch → Prop} (altered : Altered touches id before after)
    (implies : ∀ touch, touches touch → touches' touch) : Altered touches' id before after := by
  refine Relation.ReflTransGen.mono (fun _ _ step => ?_) _ _ altered
  obtain ⟨touch, allowed, step⟩ := step
  exact ⟨touch, implies touch allowed, step⟩

/-- **What every allowed step keeps is kept by all of them together.** -/
theorem keeps (altered : Altered touches id before after) (holds : Option DeviceRecord → Prop)
    (steps : ∀ touch before after, touches touch → RecordStep id touch before after →
      holds before → holds after) (start : holds before) : holds after := by
  induction altered with
  | refl => exact start
  | tail _ step ih =>
    obtain ⟨touch, allowed, step⟩ := step
    exact steps touch _ _ allowed step ih

end Altered

/-! ## Results of several steps -/

namespace Outcome

variable {ε α β : Type}

theorem bind_eq_ok {outcome : Except ε α} {next : α → Except ε β} {result : β} :
    (outcome >>= next) = .ok result ↔ ∃ value, outcome = .ok value ∧ next value = .ok result := by
  cases outcome with
  | ok value =>
    constructor
    · intro done
      exact ⟨value, rfl, done⟩
    · rintro ⟨other, same, done⟩
      cases same
      exact done
  | error failure =>
    constructor
    · intro done
      cases done
    · rintro ⟨value, same, _⟩
      cases same

theorem pure_eq_ok {value result : α} : (pure value : Except ε α) = .ok result ↔ value = result :=
  Except.ok.injEq value result ▸ Iff.rfl

end Outcome

namespace DeviceRecord

variable {record : DeviceRecord} {assigner template : String}

theorem isHeldBy_iff : record.isHeldBy assigner template = true ↔
    record.assigner = assigner ∧ record.template = template ∧ record.isInUse = true := by
  simp only [isHeldBy, Bool.and_eq_true, beq_iff_eq, and_assoc]

theorem isFree_iff : record.isFree = true ↔
    record.connections = 0 ∧ record.reserved = false ∧ record.state = .free := by
  simp only [isFree, Bool.and_eq_true, beq_iff_eq, Bool.not_eq_true', and_assoc]

end DeviceRecord

namespace Tables

/-- The record that is stored for a device. -/
abbrev at? (tables : Tables) (id : DeviceId) : Option DeviceRecord := tables.devices.get? id

/-! ## Single records -/

theorem isReleasable_iff {record : DeviceRecord} {assigner template : String} :
    isReleasable assigner template record = true ↔ record.reserved = true ∧
      record.connections = 0 ∧ record.assigner = assigner ∧ record.template = template := by
  simp only [isReleasable, Bool.and_eq_true, beq_iff_eq, and_assoc]

theorem record_eq_ok {tables : Tables} {id : DeviceId} {record : DeviceRecord} :
    tables.record id = .ok record ↔ tables.at? id = some record := by
  unfold Tables.record at?
  cases tables.devices.get? id <;> simp

theorem template_eq_ok {tables : Tables} {id : String} {template : Template} :
    tables.template id = .ok template ↔ tables.templates.get? id = some template := by
  unfold Tables.template
  cases tables.templates.get? id <;> simp

theorem connected_eq_ok {record changed : DeviceRecord} {assigner : String} :
    connected assigner record = .ok changed ↔
      ¬(record.assigner ≠ "" ∧ record.assigner ≠ assigner ∧ record.isInUse = true) ∧
        changed = { record with
          connections := record.connections + 1, reserved := true, assigner } := by
  unfold connected
  split
  · next used => simp [used]
  · next unused =>
    rw [Except.ok.injEq, eq_comm]
    exact (and_iff_right unused).symm

theorem restored_eq_ok {record changed : DeviceRecord} {change : UsageChange} :
    restored change record = .ok changed ↔
      record.usage = change.current ∧ changed = record.withUsage change.previous := by
  unfold restored
  split
  · next current =>
    rw [Except.ok.injEq, eq_comm]
    exact (and_iff_right current).symm
  · next other => simp [other]

theorem disconnected_eq_ok {record changed : DeviceRecord} {assigner : String} :
    disconnected assigner record = .ok changed ↔
      record.connections ≠ 0 ∧ record.assigner = assigner ∧
        changed = { record with connections := record.connections - 1 } := by
  unfold disconnected
  split
  · next idle => simp [idle]
  · next busy =>
    split
    · next other => simp [other]
    · next own =>
      rw [Except.ok.injEq, eq_comm]
      exact ⟨fun same => ⟨busy, Decidable.not_not.1 own, same⟩, fun done => done.2.2⟩

theorem putRecord_at?_self (tables : Tables) (id : DeviceId) (record : DeviceRecord) :
    (tables.putRecord id record).at? id = some record :=
  OrderedMap.get?_insert_self _ id record

theorem putRecord_at?_of_ne (tables : Tables) {id other : DeviceId} (different : other ≠ id)
    (record : DeviceRecord) : (tables.putRecord id record).at? other = tables.at? other :=
  OrderedMap.get?_insert_of_ne _ different record

/-- Filing a record changes the record of its device only. -/
theorem altered_putRecord {tables : Tables} {id : DeviceId} {record : DeviceRecord} {touch : Touch}
    (step : RecordStep id touch (tables.at? id) (some record)) (other : DeviceId) :
    Altered (fun reason => other = id ∧ reason = touch) other (tables.at? other)
      ((tables.putRecord id record).at? other) := by
  by_cases same : other = id
  · subst same
    rw [putRecord_at?_self]
    exact .of_step ⟨rfl, rfl⟩ step
  · exact .of_eq (putRecord_at?_of_ne tables same record)

theorem modifyRecord_eq_ok {tables after : Tables} {id : DeviceId} {changed : DeviceRecord}
    {change : DeviceRecord → Outcome DeviceRecord} :
    modifyRecord id change tables = .ok (changed, after) ↔
      ∃ record, tables.at? id = some record ∧ change record = .ok changed ∧
        changed.usage.check = .ok () ∧ after = tables.putRecord id changed := by
  simp only [modifyRecord, Outcome.bind_eq_ok, record_eq_ok, Outcome.pure_eq_ok, Prod.mk.injEq]
  constructor
  · rintro ⟨record, stored, _, made, _, sound, rfl, rfl⟩
    exact ⟨record, stored, made, sound, rfl⟩
  · rintro ⟨record, stored, made, sound, rfl⟩
    exact ⟨record, stored, changed, made, (), sound, rfl, rfl⟩

theorem addConnection_eq_ok {tables after : Tables} {id : DeviceId} {assigner : String}
    {change : UsageChange} :
    addConnection id assigner tables = .ok (change, after) ↔
      ∃ record changed, tables.at? id = some record ∧ connected assigner record = .ok changed ∧
        changed.usage.check = .ok () ∧ change = ⟨record.usage, changed.usage⟩ ∧
        after = tables.putRecord id changed := by
  simp only [addConnection, Outcome.bind_eq_ok, record_eq_ok, Outcome.pure_eq_ok, Prod.mk.injEq,
    Prod.exists, modifyRecord_eq_ok]
  constructor
  · rintro ⟨record, stored, changed, _, ⟨_, same, made, sound, rfl⟩, rfl, rfl⟩
    cases stored.symm.trans same
    exact ⟨record, changed, stored, made, sound, rfl, rfl⟩
  · rintro ⟨record, changed, stored, made, sound, rfl, rfl⟩
    exact ⟨record, stored, changed, _, ⟨record, stored, made, sound, rfl⟩, rfl, rfl⟩

theorem setUsage_eq_ok {tables after : Tables} {id : DeviceId} {usage : Usage} {result : Unit} :
    setUsage id usage tables = .ok (result, after) ↔
      usage.check = .ok () ∧ ∃ record, tables.at? id = some record ∧
        after = tables.putRecord id (record.withUsage usage) := by
  simp only [setUsage, Outcome.bind_eq_ok, record_eq_ok, Outcome.pure_eq_ok, Prod.mk.injEq]
  constructor
  · rintro ⟨_, sound, record, stored, _, rfl⟩
    exact ⟨sound, record, stored, rfl⟩
  · rintro ⟨sound, record, stored, rfl⟩
    exact ⟨(), sound, record, stored, trivial, rfl⟩

/-! ## Changes of usage -/

section Usage

variable {tables after : Tables} {id : DeviceId} {assigner : String}

theorem altered_addConnection {change : UsageChange}
    (done : addConnection id assigner tables = .ok (change, after)) (other : DeviceId) :
    Altered (fun touch => other = id ∧ touch = .connection assigner) other (tables.at? other)
      (after.at? other) := by
  obtain ⟨record, changed, stored, made, sound, _, rfl⟩ := addConnection_eq_ok.1 done
  exact altered_putRecord (stored ▸ .connected made sound) other

theorem altered_restoreUsage {change : UsageChange} {result : DeviceRecord}
    (done : restoreUsage id change tables = .ok (result, after)) (other : DeviceId) :
    Altered (fun touch => other = id ∧ touch = .restoration change) other (tables.at? other)
      (after.at? other) := by
  obtain ⟨record, stored, made, sound, rfl⟩ := modifyRecord_eq_ok.1 done
  exact altered_putRecord (stored ▸ .restored made sound) other

theorem altered_removeConnection {result : DeviceRecord}
    (done : removeConnection id assigner tables = .ok (result, after)) (other : DeviceId) :
    Altered (fun touch => other = id ∧ touch = .disconnection assigner) other (tables.at? other)
      (after.at? other) := by
  obtain ⟨record, stored, made, sound, rfl⟩ := modifyRecord_eq_ok.1 done
  exact altered_putRecord (stored ▸ .disconnected made sound) other

theorem altered_setUsage {usage : Usage} {result : Unit}
    (done : setUsage id usage tables = .ok (result, after)) (other : DeviceId) :
    Altered (fun touch => other = id ∧ touch = .overwriting usage) other (tables.at? other)
      (after.at? other) := by
  obtain ⟨sound, record, stored, rfl⟩ := setUsage_eq_ok.1 done
  exact altered_putRecord (stored ▸ .overwritten sound) other

end Usage

/-! ## Reconciliations -/

theorem altered_upsertOne (tables : Tables) (device : LiveDevice) (id : DeviceId) :
    Altered (fun touch => id = device.id ∧ touch = .listing) id (tables.at? id)
      ((tables.upsertOne device).2.at? id) := by
  unfold upsertOne
  split
  · next record stored =>
    exact altered_putRecord (by rw [at?, stored]; exact .refreshed rfl) id
  · next stored =>
    exact altered_putRecord (by rw [at?, stored]; exact .listed rfl) id

theorem altered_upsertAll (tables : Tables) (devices : List LiveDevice) (id : DeviceId) :
    Altered (fun touch => (∃ device ∈ devices, device.id = id) ∧ touch = .listing) id
      (tables.at? id) ((tables.upsertAll devices).2.at? id) := by
  induction devices generalizing tables with
  | nil => exact .refl
  | cons device rest ih =>
    have first := altered_upsertOne tables device id
    have second := ih (tables.upsertOne device).2
    refine Altered.trans (first.mono ?_) (second.mono ?_)
    · rintro touch ⟨same, kind⟩
      exact ⟨⟨device, List.mem_cons_self, same.symm⟩, kind⟩
    · rintro touch ⟨⟨other, member, same⟩, kind⟩
      exact ⟨⟨other, List.mem_cons_of_mem _ member, same⟩, kind⟩

/-- **A reconciliation** refreshes the listed devices and drops the others. -/
theorem altered_reconcile {tables after : Tables} {devices : List LiveDevice}
    {outcome : ReconcileOutcome} (done : reconcile devices tables = .ok (outcome, after))
    (id : DeviceId) :
    Altered (fun touch => touch = .listing ∨
        touch = .removal ∧ ∀ device ∈ devices, device.id ≠ id) id
      (tables.at? id) (after.at? id) := by
  have upserted := (altered_upsertAll tables devices id).mono fun touch allowed =>
    (Or.inl allowed.2 : touch = .listing ∨
      touch = .removal ∧ ∀ device ∈ devices, device.id ≠ id)
  refine upserted.trans ?_
  have devices_eq : after.devices = (tables.upsertAll devices).2.devices.filter
      fun id _ => devices.any fun device => device.id == id := by
    unfold reconcile at done
    simp only [Except.ok.injEq, Prod.mk.injEq, Bool.not_not] at done
    rw [← done.2]
  rw [at?, at?, devices_eq, OrderedMap.get?_filter]
  cases (tables.upsertAll devices).2.devices.get? id with
  | none => exact .refl
  | some record =>
    by_cases listed : ∃ device ∈ devices, device.id = id
    · obtain ⟨device, member, same⟩ := listed
      refine .of_eq (Option.filter_some_pos ?_)
      exact List.any_eq_true.2 ⟨device, member, by simpa using same⟩
    · have absent : ∀ device ∈ devices, device.id ≠ id := fun device member same =>
        listed ⟨device, member, same⟩
      rw [Option.filter_some_neg (by simpa using absent)]
      exact .of_step (.inr ⟨rfl, absent⟩) .removed

/-! ## Reservations and their release -/

section Reservation

variable {assigner template : String}

theorem reserveOne_eq_ok {tables after : Tables} {id : DeviceId} {result : DeviceRecord} :
    reserveOne assigner template id tables = .ok (result, after) ↔
      ∃ record, tables.at? id = some record ∧
        (record.isHeldBy assigner template = true ∨ record.isFree = true) ∧
        result = { record with reserved := true, assigner, template } ∧
        after = tables.putRecord id result := by
  simp only [reserveOne, Outcome.bind_eq_ok, record_eq_ok]
  constructor
  · rintro ⟨record, stored, done⟩
    split at done
    · cases done
    · next available =>
      obtain ⟨rfl, rfl⟩ := Prod.mk.injEq .. ▸ Outcome.pure_eq_ok.1 done
      refine ⟨record, stored, ?_, rfl, rfl⟩
      cases held : record.isHeldBy assigner template <;> simp_all
  · rintro ⟨record, stored, available, rfl, rfl⟩
    refine ⟨record, stored, ?_⟩
    rw [if_neg]
    · rfl
    · rcases available with held | free
      · simp [held]
      · simp [free]

theorem reserveAll_cons_eq_ok {tables after : Tables} {id : DeviceId} {rest : List DeviceId}
    {results : List DeviceRecord} :
    reserveAll assigner template (id :: rest) tables = .ok (results, after) ↔
      ∃ result middle others, reserveOne assigner template id tables = .ok (result, middle) ∧
        reserveAll assigner template rest middle = .ok (others, after) ∧
        results = result :: others := by
  simp only [reserveAll, Outcome.bind_eq_ok, Outcome.pure_eq_ok, Prod.exists, Prod.mk.injEq]
  constructor
  · rintro ⟨result, middle, first, others, _, second, rfl, rfl⟩
    exact ⟨result, middle, others, first, second, rfl⟩
  · rintro ⟨result, middle, others, first, second, rfl⟩
    exact ⟨result, middle, first, others, after, second, rfl, rfl⟩

theorem altered_reserveOne {tables after : Tables} {id : DeviceId} {result : DeviceRecord}
    (done : reserveOne assigner template id tables = .ok (result, after)) (other : DeviceId) :
    Altered (fun touch => other = id ∧ touch = .reservation assigner template) other
      (tables.at? other) (after.at? other) := by
  obtain ⟨record, stored, available, rfl, rfl⟩ := reserveOne_eq_ok.1 done
  exact altered_putRecord (stored ▸ .reserved available) other

theorem altered_reserveAll {tables after : Tables} {ids : List DeviceId}
    {results : List DeviceRecord}
    (done : reserveAll assigner template ids tables = .ok (results, after)) (id : DeviceId) :
    Altered (fun touch => id ∈ ids ∧ touch = .reservation assigner template) id (tables.at? id)
      (after.at? id) := by
  induction ids generalizing tables results with
  | nil =>
    cases done
    exact .refl
  | cons first rest ih =>
    obtain ⟨result, middle, others, one, all, rfl⟩ := reserveAll_cons_eq_ok.1 done
    refine Altered.trans ((altered_reserveOne one id).mono ?_) ((ih all).mono ?_)
    · rintro touch ⟨same, kind⟩
      exact ⟨same ▸ List.mem_cons_self, kind⟩
    · rintro touch ⟨member, kind⟩
      exact ⟨List.mem_cons_of_mem _ member, kind⟩

/-- What a reservation does: the template is there, and the chosen devices are reserved. -/
theorem reserveWith_eq_ok {tables after : Tables} {results : List DeviceRecord}
    {select : List Candidates → Outcome (List DeviceId)} :
    reserveWith assigner template select tables = .ok (results, after) ↔
      (∃ found, tables.template template = .ok found) ∧
        ∃ chosen, select (tables.candidates template) = .ok chosen ∧
          reserveAll assigner template chosen tables = .ok (results, after) := by
  simp only [reserveWith, Outcome.bind_eq_ok, exists_and_right]

theorem altered_reserve {tables after : Tables} {found : Template} {pairing : Bool}
    {results : List DeviceRecord}
    (done : reserve assigner found template pairing tables = .ok (results, after))
    (id : DeviceId) :
    Altered (fun touch => touch = .reservation assigner template) id (tables.at? id)
      (after.at? id) := by
  obtain ⟨_, chosen, _, all⟩ := reserveWith_eq_ok.1 done
  exact (altered_reserveAll all id).mono fun touch allowed => allowed.2

theorem modifyWhere_eq_ok {tables after : Tables} {condition : DeviceRecord → Bool}
    {change : DeviceRecord → DeviceRecord} {results : List DeviceRecord}
    (done : modifyWhere condition change tables = .ok (results, after)) :
    results = (tables.devices.values.filter condition).map change ∧
      after = { tables with
        devices := tables.devices.mapValues fun _ record =>
          if condition record then change record else record } := by
  simp only [modifyWhere, Outcome.bind_eq_ok, Outcome.pure_eq_ok, Prod.mk.injEq] at done
  obtain ⟨_, _, rfl, rfl⟩ := done
  exact ⟨rfl, rfl⟩

/-- A release changes the records that it may release, and no others. -/
theorem release_at? {tables after : Tables} {results : List DeviceRecord}
    (done : release assigner template tables = .ok (results, after)) (id : DeviceId) :
    after.at? id = (tables.at? id).map fun record =>
      if isReleasable assigner template record then released record else record := by
  obtain ⟨_, rfl⟩ := modifyWhere_eq_ok done
  exact OrderedMap.get?_mapValues ..

/-- A release is never refused: nothing is wrong with a record that nobody has reserved. -/
theorem exists_release (assigner template : String) (tables : Tables) :
    ∃ results after, release assigner template tables = .ok (results, after) := by
  have checked (records : List DeviceRecord) (idle : ∀ record ∈ records, record.connections = 0) :
      (records.map released).forM (fun record => record.usage.check) = .ok () := by
    induction records with
    | nil => rfl
    | cons record rest ih =>
      obtain ⟨first, others⟩ := List.forall_mem_cons.1 idle
      have fine : (released record).usage.check = .ok () := by
        simp [Usage.check, DeviceRecord.usage, released, first]
      rw [List.map_cons, List.forM, fine]
      exact ih others
  have passes := checked (tables.devices.values.filter (isReleasable assigner template))
    fun record member => (isReleasable_iff.1 (List.mem_filter.1 member).2).2.1
  unfold release modifyWhere
  simp only [passes]
  exact ⟨_, _, rfl⟩

theorem altered_release {tables after : Tables} {results : List DeviceRecord}
    (done : release assigner template tables = .ok (results, after)) (id : DeviceId) :
    Altered (fun touch => touch = .release assigner template) id (tables.at? id)
      (after.at? id) := by
  rw [release_at? done id]
  cases tables.at? id with
  | none => exact .refl
  | some record =>
    rw [Option.map_some]
    split
    · next releasable => exact .of_step rfl (.released releasable)
    · exact .refl

end Reservation

/-! ## The life of templates -/

theorem addPlaceholders_at? (tables : Tables) (paths : PathMap) (id : DeviceId) :
    (tables.addPlaceholders paths).at? id = tables.at? id ∨
      tables.at? id = none ∧ (tables.addPlaceholders paths).at? id = some (.placeholder id) := by
  unfold addPlaceholders at?
  dsimp only
  generalize paths.values = sets
  generalize tables.devices = devices
  induction sets generalizing devices with
  | nil => exact .inl rfl
  | cons ids sets ih =>
    rw [List.foldl_cons]
    have later := ih (devices.union (ids.mapValues fun id _ => .placeholder id))
    rw [OrderedMap.get?_union, OrderedMap.get?_mapValues] at later
    cases stored : devices.get? id with
    | some record =>
      rw [stored, Option.some_or] at later
      rcases later with same | ⟨absent, _⟩
      · exact .inl same
      · cases absent
    | none =>
      rw [stored, Option.none_or] at later
      cases named : ids.get? id with
      | none =>
        rw [named] at later
        exact later
      | some _ =>
        rw [named] at later
        rcases later with same | ⟨absent, _⟩
        · exact .inr ⟨rfl, same⟩
        · cases absent

theorem altered_addPlaceholders (tables : Tables) (paths : PathMap) (id : DeviceId) :
    Altered (fun touch => touch = .naming) id (tables.at? id)
      ((tables.addPlaceholders paths).at? id) := by
  rcases addPlaceholders_at? tables paths id with same | ⟨absent, named⟩
  · exact .of_eq same
  · rw [absent, named]
    exact .of_step rfl .named

/-- What making a template does: its id is new, and its devices and the template are filed. -/
theorem createTemplate_eq_ok {tables after : Tables} {template : Template} {paths : PathMap}
    {providers : List String} {result : Unit}
    (done : createTemplate template paths providers tables = .ok (result, after)) :
    tables.templates.get? template.id = none ∧
      after.devices = (tables.addPlaceholders paths).devices ∧
      after.templates = ((if template.hostDefault = true then tables.clearHostDefault
        else tables).templates.insert template.id template) ∧
      after.paths = tables.paths.insert template.id paths ∧
      after.providers = (tables.bindProviders template.id providers).providers := by
  unfold createTemplate at done
  extract_lets filing at done
  split at done
  · cases done
  · next absent =>
    obtain ⟨_, rfl⟩ := Prod.mk.injEq .. ▸ Outcome.pure_eq_ok.1 done
    obtain ⟨devices, paths', bound⟩ : filing.devices = tables.devices ∧
        filing.paths = tables.paths ∧ filing.providers = tables.providers := by
      unfold filing
      split <;> exact ⟨rfl, rfl, rfl⟩
    refine ⟨?_, ?_, rfl, ?_, ?_⟩
    · simpa [OrderedMap.contains] using absent
    · exact congrArg (fun devices => (addPlaceholders { tables with devices } paths).devices) devices
    · exact congrArg (fun filed : OrderedMap String PathMap => filed.insert template.id paths) paths'
    · exact congrArg
        (fun bound => (bindProviders { tables with providers := bound } template.id
          providers).providers) bound

theorem template_of_createTemplate {tables after : Tables} {template : Template}
    {paths : PathMap} {providers : List String} {result : Unit}
    (done : createTemplate template paths providers tables = .ok (result, after)) :
    after.templates.get? template.id = some template := by
  rw [(createTemplate_eq_ok done).2.2.1]
  exact OrderedMap.get?_insert_self _ _ _

theorem altered_createTemplate {tables after : Tables} {template : Template} {paths : PathMap}
    {providers : List String} {result : Unit}
    (done : createTemplate template paths providers tables = .ok (result, after))
    (id : DeviceId) :
    Altered (fun touch => touch = .naming) id (tables.at? id) (after.at? id) := by
  rw [at?, at?, (createTemplate_eq_ok done).2.1]
  exact altered_addPlaceholders tables paths id

/-- The template has other paths afterwards, which no device of it was in the way of, and every
device of them has a record. -/
def Repathed (template : String) (tables after : Tables) : Prop :=
  tables.devicesInUse template = [] ∧ ∃ paths,
    after.devices = (tables.addPlaceholders paths).devices ∧
    after.paths = tables.paths.insert template paths

theorem changePaths_eq_ok {tables after : Tables} {template : String} {paths : PathMap}
    (done : tables.changePaths template paths = .ok after) :
    after.templates = tables.templates ∧
      (after.devices = tables.devices ∧ after.paths = tables.paths ∨
        Repathed template tables after) := by
  unfold changePaths at done
  split at done
  · cases done
    exact ⟨rfl, .inl ⟨rfl, rfl⟩⟩
  · split at done
    · next unused =>
      cases done
      exact ⟨rfl, .inr ⟨unused, paths, rfl, rfl⟩⟩
    · cases done

/-- The paths that are filed for a template when it is given other ones, and what stays. -/
theorem changePaths_frame {tables after : Tables} {template : String} {paths : PathMap}
    (done : tables.changePaths template paths = .ok after) :
    after.paths = tables.paths.insert template paths ∧ after.providers = tables.providers := by
  unfold changePaths at done
  split at done
  · next same =>
    cases done
    exact ⟨(OrderedMap.insert_of_get? same).symm, rfl⟩
  · split at done
    · cases done
      exact ⟨rfl, rfl⟩
    · cases done

/-- What an edit makes of a template. -/
def edited (changes : TemplateChanges) (template : Template) : Template :=
  { template with
    name := changes.name.getD template.name
    description := changes.description.getD template.description
    leastPaths := changes.leastPaths <|> template.leastPaths
    hostDefault := changes.hostDefault.getD template.hostDefault }

/-- What an edit files besides the template leaves the devices and the paths alone. -/
theorem cleared_and_bound (tables : Tables) (id : String) (changes : TemplateChanges) :
    (match changes.providers with
      | some providers => (if changes.hostDefault = some true then tables.clearHostDefault
          else tables).bindProviders id providers
      | none => if changes.hostDefault = some true then tables.clearHostDefault else tables) =
      { tables with
        templates := (if changes.hostDefault = some true then tables.clearHostDefault
          else tables).templates
        providers := match changes.providers with
          | some providers => (tables.bindProviders id providers).providers
          | none => tables.providers } := by
  cases changes.providers with
  | some providers =>
    dsimp only
    split <;> rfl
  | none =>
    dsimp only
    split <;> rfl

/-- An edit first gives the template its new paths, where there are any, and then files the changed
template and its providers; the paths must be as many as a reservation has to cover. -/
theorem editTemplate_parts {tables after : Tables} {id : String} {changes : TemplateChanges}
    {result : Template} (done : editTemplate id changes tables = .ok (result, after)) :
    ∃ old middle, tables.templates.get? id = some old ∧ result = edited changes old ∧
      (match changes.paths with
        | some paths => tables.changePaths id paths = .ok middle
        | none => middle = tables) ∧
      (∀ least, result.leastPaths = some least → least ≤ (after.pathsOf id).size) ∧
      after = { middle with
        templates := ((if changes.hostDefault = some true then middle.clearHostDefault
          else middle).templates.insert id result)
        providers := match changes.providers with
          | some providers => (middle.bindProviders id providers).providers
          | none => middle.providers } := by
  unfold editTemplate at done
  obtain ⟨old, found, done⟩ := Outcome.bind_eq_ok.1 done
  extract_lets changed filing at done
  obtain ⟨middle, placed, done⟩ : ∃ middle : Tables,
      (match changes.paths with
        | some paths => tables.changePaths id paths = .ok middle
        | none => middle = tables) ∧ filing middle = .ok (result, after) := by
    cases given : changes.paths with
    | some paths =>
      rw [given] at done
      obtain ⟨middle, placed, done⟩ := Outcome.bind_eq_ok.1 done
      exact ⟨middle, placed, done⟩
    | none =>
      rw [given] at done
      exact ⟨tables, rfl, done⟩
  unfold filing at done
  extract_lets cleared bound at done
  have filed : bound = _ := cleared_and_bound middle id changes
  obtain ⟨enough, same⟩ : (∀ least, changed.leastPaths = some least →
      least ≤ (bound.pathsOf id).size) ∧
      (changed, { bound with templates := bound.templates.insert id changed }) =
        (result, after) := by
    split at done
    · next least given =>
      split at done
      · cases done
      · next covered =>
        refine ⟨?_, Outcome.pure_eq_ok.1 done⟩
        intro other same
        cases given.symm.trans same
        exact Nat.le_of_not_lt covered
    · next absent =>
      refine ⟨?_, Outcome.pure_eq_ok.1 done⟩
      intro least given
      cases absent.symm.trans given
  obtain ⟨made, rfl⟩ := Prod.mk.inj same
  rw [← made]
  refine ⟨old, middle, template_eq_ok.1 found, rfl, placed, enough, ?_⟩
  rw [filed]

/-- The other way round, an edit with these parts succeeds. -/
theorem editTemplate_of_parts {tables middle : Tables} {id : String} {changes : TemplateChanges}
    {old : Template} (stored : tables.templates.get? id = some old)
    (placed : match changes.paths with
      | some paths => tables.changePaths id paths = .ok middle
      | none => middle = tables)
    (enough : ∀ least, (edited changes old).leastPaths = some least →
      least ≤ (middle.pathsOf id).size) :
    editTemplate id changes tables = .ok (edited changes old, { middle with
      templates := ((if changes.hostDefault = some true then middle.clearHostDefault
        else middle).templates.insert id (edited changes old))
      providers := match changes.providers with
        | some providers => (middle.bindProviders id providers).providers
        | none => middle.providers }) := by
  refine Outcome.bind_eq_ok.2 ⟨old, template_eq_ok.2 stored, ?_⟩
  extract_lets changed filing
  calc
    _ = filing middle := by
      cases given : changes.paths with
      | some paths =>
        rw [given] at placed
        exact congrArg (· >>= filing) placed
      | none =>
        rw [given] at placed
        rw [placed]
        rfl
    _ = _ := by
      unfold filing
      extract_lets cleared bound count finish
      have filed : bound = _ := cleared_and_bound middle id changes
      split
      · next least given =>
        have covered : ¬count < least := by
          unfold count
          rw [filed]
          exact Nat.not_lt_of_le (enough least given)
        rw [if_neg covered]
        unfold finish
        rw [filed]
        rfl
      · unfold finish
        rw [filed]
        rfl

/-- What an edit does: the template is there, its new devices get records, and the changed template
takes the place of the old one. -/
theorem editTemplate_eq_ok {tables after : Tables} {id : String} {changes : TemplateChanges}
    {result : Template} (done : editTemplate id changes tables = .ok (result, after)) :
    ∃ old, tables.templates.get? id = some old ∧ result.id = old.id ∧
      (after.devices = tables.devices ∧ after.paths = tables.paths ∨ Repathed id tables after) ∧
      after.templates = ((if changes.hostDefault = some true then tables.clearHostDefault
        else tables).templates.insert id result) := by
  obtain ⟨old, middle, stored, rfl, placed, _, rfl⟩ := editTemplate_parts done
  obtain ⟨kept, repathed⟩ : middle.templates = tables.templates ∧
      (middle.devices = tables.devices ∧ middle.paths = tables.paths ∨
        Repathed id tables middle) := by
    split at placed
    · exact changePaths_eq_ok placed
    · rw [placed]
      exact ⟨rfl, .inl ⟨rfl, rfl⟩⟩
  refine ⟨old, stored, rfl, repathed, ?_⟩
  simp only [clearHostDefault]
  split <;> rw [kept]

/-- An edit binds the providers that it lists, if it lists any. -/
theorem providers_of_editTemplate {tables after : Tables} {id : String} {changes : TemplateChanges}
    {result : Template} (done : editTemplate id changes tables = .ok (result, after)) :
    (changes.providers = none → after.providers = tables.providers) ∧
      ∀ providers, changes.providers = some providers →
        after.providers = (tables.bindProviders id providers).providers := by
  obtain ⟨_, middle, _, _, placed, _, rfl⟩ := editTemplate_parts done
  have kept : middle.providers = tables.providers := by
    split at placed
    · exact (changePaths_frame placed).2
    · rw [placed]
  constructor
  · intro unlisted
    dsimp only
    rw [unlisted]
    exact kept
  · intro providers listed
    dsimp only
    rw [listed]
    dsimp only
    rw [bindProviders, bindProviders, kept]

theorem altered_editTemplate {tables after : Tables} {template : String}
    {changes : TemplateChanges} {result : Template}
    (done : editTemplate template changes tables = .ok (result, after)) (id : DeviceId) :
    Altered (fun touch => touch = .naming) id (tables.at? id) (after.at? id) := by
  obtain ⟨_, _, _, ⟨same, _⟩ | ⟨_, paths, named, _⟩, _⟩ := editTemplate_eq_ok done
  · exact .of_eq (congrArg (OrderedMap.get? · id) same)
  · rw [at?, at?, named]
    exact altered_addPlaceholders tables paths id

/-- What dropping a template does: none of its devices is in use, and the devices stay. -/
theorem deleteTemplate_eq_ok {tables after : Tables} {id : String} {result : Unit}
    (done : deleteTemplate id tables = .ok (result, after)) :
    tables.devicesInUse id = [] ∧ after.devices = tables.devices ∧
      after.templates = tables.templates.erase id ∧ after.paths = tables.paths.erase id ∧
      after.providers = tables.providers.filter fun _ bound => bound != id := by
  unfold deleteTemplate at done
  obtain ⟨_, _, done⟩ := Outcome.bind_eq_ok.1 done
  split at done
  · next unused =>
    obtain ⟨_, rfl⟩ := Prod.mk.injEq .. ▸ Outcome.pure_eq_ok.1 done
    exact ⟨unused, rfl, rfl, rfl, rfl⟩
  · cases done

/-- A template that is not dropped is not there, or a device of it is in use. -/
theorem deleteTemplate_eq_error {tables : Tables} {id : String} {failure : Failure}
    (refused : deleteTemplate id tables = .error failure) :
    tables.templates.get? id = none ∨ tables.devicesInUse id ≠ [] := by
  cases stored : tables.templates.get? id with
  | none => exact .inl rfl
  | some template =>
    refine .inr fun unused => ?_
    rw [deleteTemplate, template_eq_ok.2 stored, unused] at refused
    cases refused

theorem at?_of_deleteTemplate {tables after : Tables} {template : String} {result : Unit}
    (done : deleteTemplate template tables = .ok (result, after)) (id : DeviceId) :
    after.at? id = tables.at? id :=
  congrArg (OrderedMap.get? · id) (deleteTemplate_eq_ok done).2.1

end Tables

end FibrePool
