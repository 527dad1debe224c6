import FibrePool.Proofs.Composition
import FibrePool.Proofs.GatewayPaths
import FibrePool.Proofs.OnePerPath
import FibrePool.Proofs.Orders
import FibrePool.Proofs.Reconciliation

/-!
# Events that tell what happened

Events tell listeners by whom a device is held and how many connections it has: a reservation gives
it an assigner, a release takes the assigner away, and a change of usage says both
(`Event.applied`).  For this to be the truth about a device, every transaction that changes its
holding has to be followed by one event that says so, and nothing else may be said about it.

`Program.Narrates` is this condition on a program: whatever the program is answered, and on whatever
tables its transactions run, no transaction and no end comes upon a change that has not been told,
and an event about the device tells of the transaction that came last.  The operations that change
tables are looked at one by one, and every order is made of them (`Order.narrates`): also one that
fails and takes back what it did, since it takes it back by operations of the same kind.

Reconciliations are the exception: when the hypervisor does not list a device any more, no event
names it.
-/

namespace FibrePool

set_option autoImplicit false

open Workflow

/-! ## Holdings -/

/-- Who holds a device, and with how many connections. -/
structure Holding where
  assigner : String := ""
  connections : UInt32 := 0
  deriving DecidableEq, Repr

/-- What a record says about the holding. -/
def DeviceRecord.holding (record : DeviceRecord) : Holding := ⟨record.assigner, record.connections⟩

namespace Tables

/-- The holding of a device; nobody holds one without a record. -/
def holding (tables : Tables) (id : DeviceId) : Holding :=
  ((tables.at? id).map DeviceRecord.holding).getD {}

variable {tables after : Tables} {id : DeviceId}

theorem holding_of_stored {record : DeviceRecord} (stored : tables.at? id = some record) :
    tables.holding id = record.holding := by
  rw [holding, stored]
  rfl

theorem holding_of_absent (absent : tables.at? id = none) : tables.holding id = {} := by
  rw [holding, absent]
  rfl

theorem holding_congr (same : after.at? id = tables.at? id) :
    tables.holding id = after.holding id := by
  rw [holding, holding, same]

/-- A device that gets a record because a template names it is held by nobody. -/
theorem holding_of_addPlaceholders {paths : PathMap}
    (placed : after.devices = (tables.addPlaceholders paths).devices) (id : DeviceId) :
    tables.holding id = after.holding id := by
  have now : after.at? id = (tables.addPlaceholders paths).at? id :=
    congrArg (OrderedMap.get? · id) placed
  rcases addPlaceholders_at? tables paths id with same | ⟨absent, named⟩
  · exact holding_congr (now.trans same)
  · rw [holding_of_absent absent, holding_of_stored (now.trans named)]
    rfl

end Tables

/-! ## What events say -/

namespace Event

/-- Whether the event names the device. -/
def Concerns (id : DeviceId) : Event → Prop
  | devicesReserved _ _ devices => id.text ∈ devices
  | devicesReleased _ _ devices => id.text ∈ devices
  | usageChanged device _ _ => device = id.text
  | _ => False

/-- The holding of a device according to an event, given what it was before. -/
def applied (id : DeviceId) (holding : Holding) : Event → Holding
  | devicesReserved assigner _ devices =>
    if id.text ∈ devices then { holding with assigner } else holding
  | devicesReleased _ _ devices =>
    if id.text ∈ devices then { holding with assigner := "" } else holding
  | usageChanged device assigner connections =>
    if device = id.text then { assigner, connections } else holding
  | _ => holding

theorem applied_of_not_concerns {id : DeviceId} {event : Event} (elsewhere : ¬ event.Concerns id)
    (holding : Holding) : event.applied id holding = holding := by
  cases event with
  | devicesReserved assigner template devices => exact if_neg elsewhere
  | devicesReleased assigner template devices => exact if_neg elsewhere
  | usageChanged device assigner connections => exact if_neg elsewhere
  | _ => rfl

end Event

/-- The holding of a device according to some events, from the first to the last. -/
def replay (id : DeviceId) (events : List Event) (holding : Holding) : Holding :=
  events.foldl (fun holding event => event.applied id holding) holding

/-! ## Changes that have to be told -/

/-- What a transaction did. -/
structure Change where
  before : Tables
  after : Tables

namespace Change

/-- The change is a reconciliation that drops the record of the device. -/
def Drops (id : DeviceId) (change : Change) : Prop :=
  (∃ devices outcome, Tables.reconcile devices change.before = .ok (outcome, change.after)) ∧
    change.before.at? id ≠ none ∧ change.after.at? id = none

/-- The device is held as before, or it was dropped. -/
def Silent (id : DeviceId) (change : Change) : Prop :=
  change.before.holding id = change.after.holding id ∨ change.Drops id

end Change

/-- Nothing is left to be told of the change that came last, if there was one. -/
def Settled (id : DeviceId) (pending : Option Change) : Prop :=
  ∀ change ∈ pending, change.Silent id

/-- What an event says about the device is what the change before it did, and what it does not
mention has not changed. -/
structure Event.Tells (id : DeviceId) (pending : Option Change) (event : Event) : Prop where
  concerning : event.Concerns id → ∃ change ∈ pending,
    event.applied id (change.before.holding id) = change.after.holding id
  otherwise : ¬ event.Concerns id → Settled id pending

section

variable {id : DeviceId} {pending : Option Change}

theorem settled_none : Settled id none := nofun

/-- An event that is true without any change is about something else, and true after a change that
need not be told. -/
theorem Event.Tells.of_settled {event : Event} (tells : event.Tells id none)
    (settled : Settled id pending) : event.Tells id pending where
  concerning concerns := by
    obtain ⟨_, ⟨⟩, _⟩ := tells.concerning concerns
  otherwise _ := settled

theorem tells_of_not_concerns {event : Event} (elsewhere : ¬ event.Concerns id)
    (settled : Settled id pending) : event.Tells id pending :=
  ⟨fun concerns => absurd concerns elsewhere, fun _ => settled⟩

/-- An event tells of a transaction when it gives the holding that the transaction gave. -/
theorem tells_of_applied {event : Event} {tables after : Tables}
    (said : event.applied id (tables.holding id) = after.holding id) :
    event.Tells id (some ⟨tables, after⟩) where
  concerning _ := ⟨_, rfl, said⟩
  otherwise elsewhere := by
    rintro _ ⟨⟩
    exact .inl ((Event.applied_of_not_concerns elsewhere _).symm.trans said)

end

/-! ## Programs that tell what they do -/

namespace Program

variable {α β : Type} {id : DeviceId} {pending : Option Change}

/-- The program tells of every transaction that changes the holding of the device, before the next
one and before its end, and says nothing else about it.  The change that came last may be pending.
-/
def Narrates (id : DeviceId) : Program α → Option Change → Prop
  | done _, pending => Settled id pending
  | again, pending => Settled id pending
  | acquire _ next, pending => next.Narrates id pending
  | release _ next, pending => next.Narrates id pending
  | read next, pending => ∀ tables, (next tables).Narrates id pending
  | commit change next, pending => Settled id pending ∧
    (∀ failure, (next (.error failure)).Narrates id none) ∧
    ∀ tables result after, tables.RecordsFiled → change tables = .ok (result, after) →
      (next (.ok result)).Narrates id (some ⟨tables, after⟩)
  | call _ next, pending => ∀ answer, (next answer).Narrates id pending
  | emit event next, pending => event.Tells id pending ∧ next.Narrates id none
  | measure _ next, pending => next.Narrates id pending
  | stamp next, pending => ∀ fresh, (next fresh).Narrates id pending

theorem Narrates.of_settled {program : Program α} (narrates : program.Narrates id none)
    (settled : Settled id pending) : program.Narrates id pending := by
  induction program with
  | done value => exact settled
  | again => exact settled
  | acquire key next ih => exact ih narrates
  | release key next ih => exact ih narrates
  | read next ih => exact fun tables => ih tables (narrates tables)
  | commit change next ih => exact ⟨settled, narrates.2⟩
  | call request next ih => exact fun answer => ih answer (narrates answer)
  | emit event next ih => exact ⟨narrates.1.of_settled settled, narrates.2⟩
  | measure taken next ih => exact ih narrates
  | stamp next ih => exact fun fresh => ih fresh (narrates fresh)

theorem Narrates.bind {program : Program β} {next : β → Program α}
    (first : program.Narrates id pending) (rest : ∀ value, (next value).Narrates id none) :
    (program.bind next).Narrates id pending := by
  induction program generalizing pending with
  | done value => exact (rest value).of_settled first
  | again => exact first
  | acquire key further ih => exact ih first
  | release key further ih => exact ih first
  | read further ih => exact fun tables => ih tables (first tables)
  | commit change further ih =>
    obtain ⟨settled, onFailure, onResult⟩ := first
    refine ⟨settled, fun failure => ih _ (onFailure failure), ?_⟩
    exact fun tables result after filed done => ih _ (onResult tables result after filed done)
  | call request further ih => exact fun answer => ih answer (first answer)
  | emit event further ih => exact ⟨first.1, ih first.2⟩
  | measure taken further ih => exact ih first
  | stamp further ih => exact fun fresh => ih fresh (first fresh)

end Program

/-! ## Workflows that tell what they do -/

namespace Workflow

variable {α β : Type} {id : DeviceId} {pending : Option Change}

/-- The workflow tells of what it does, however it ends. -/
def Narrates (id : DeviceId) (workflow : Workflow α) : Prop := workflow.run.Narrates id none

theorem Narrates.bind {workflow : Workflow β} {next : β → Workflow α}
    (first : workflow.Narrates id) (rest : ∀ value, (next value).Narrates id) :
    (workflow >>= next).Narrates id := by
  refine Program.Narrates.bind first fun outcome => ?_
  cases outcome with
  | ok value => exact rest value
  | error failure => exact settled_none

theorem Narrates.map {workflow : Workflow β} (narrates : workflow.Narrates id) (change : β → α) :
    (change <$> workflow).Narrates id := by
  rw [map_eq_pure_bind]
  exact narrates.bind fun _ => settled_none

theorem narrates_pure (value : α) : (pure value : Workflow α).Narrates id := settled_none

theorem narrates_call (request : Call) : (call request).Narrates id := fun _ => settled_none

theorem narrates_again : (ofProgram .again : Workflow α).Narrates id := settled_none

theorem Narrates.outcome {workflow : Workflow α} (narrates : workflow.Narrates id) :
    workflow.outcome.Narrates id :=
  Program.Narrates.bind narrates fun _ => settled_none

theorem Narrates.adapt {workflow : Workflow α} (narrates : workflow.Narrates id)
    (change : Failure → Failure) : Narrates id (workflow.adapt change : Workflow α) := by
  have adapted : (workflow.run.bind fun outcome => .done (outcome.mapError change)).Narrates id
      none := Program.Narrates.bind narrates fun _ => settled_none
  exact adapted

theorem Narrates.holding {workflow : Workflow α} (narrates : workflow.Narrates id)
    (key : String) : (holding key workflow).Narrates id :=
  Program.Narrates.bind narrates fun _ => settled_none

theorem Narrates.holdingAll {workflow : Workflow α} (narrates : workflow.Narrates id)
    (keys : List String) : (holdingAll keys workflow).Narrates id := by
  have freed (outcome : Outcome α) :
      (keys.foldr Program.release (.done outcome)).Narrates id none := by
    induction keys with
    | nil => exact settled_none
    | cons key keys ih => exact ih
  have taken (program : Program (Outcome α)) (narrates : program.Narrates id none) :
      (keys.foldr Program.acquire program).Narrates id none := by
    clear freed
    induction keys with
    | nil => exact narrates
    | cons key keys ih => exact ih
  exact taken _ (Program.Narrates.bind narrates freed)

/-- A transaction, and what has to be told of it. -/
theorem narrates_commit_bind {change : Transaction β} {next : β → Workflow α}
    (told : ∀ tables result after, tables.RecordsFiled → change tables = .ok (result, after) →
      (next result).run.Narrates id (some ⟨tables, after⟩)) :
    (commit change >>= next).Narrates id :=
  ⟨settled_none, fun _ => settled_none, told⟩

theorem narrates_emit {event : Event} (tells : event.Tells id pending) :
    (emit event).run.Narrates id pending :=
  ⟨tells, settled_none⟩

theorem narrates_emit_bind {event : Event} {next : Unit → Workflow α}
    (tells : event.Tells id pending) (rest : (next ()).Narrates id) :
    (emit event >>= next).run.Narrates id pending :=
  ⟨tells, rest⟩

theorem narrates_pure_of_settled (settled : Settled id pending) (value : α) :
    (pure value : Workflow α).run.Narrates id pending :=
  settled

/-- What changes no tables has nothing to tell. -/
theorem narrates_plain (id : DeviceId) : Plain fun _ {_} workflow => workflow.Narrates id where
  pure _ _ value := narrates_pure value
  throw _ _ _ := settled_none
  bind first rest := first.bind rest
  outcome narrates := narrates.outcome
  adapt narrates change := narrates.adapt change
  holding _ narrates := narrates.holding _
  ask _ _ _ := fun _ => settled_none
  askFor _ _ _ := fun _ => settled_none
  look _ _ _ := narrates_call _
  measure _ _ := settled_none
  stamp _ := fun _ => settled_none

theorem Narrates.program {workflow : Workflow α} (narrates : workflow.Narrates id) :
    workflow.run.Narrates id none := narrates

-- Followed from here on through the statements above only: a program is never run by unfolding.
attribute [irreducible] Narrates

end Workflow

/-! ## What transactions do to holdings -/

section Applied

variable {tables after : Tables}

/-- A change of usage says what the record of the device says now. -/
theorem tells_usageChanged (tables : Tables) (device : DeviceId) {record : DeviceRecord}
    {assigner : String} {connections : UInt32} (held : record.holding = ⟨assigner, connections⟩)
    (id : DeviceId) :
    (Event.usageChanged device.text assigner connections).Tells id
      (some ⟨tables, tables.putRecord device record⟩) := by
  refine tells_of_applied ?_
  by_cases same : device = id
  · subst same
    rw [Event.applied, if_pos rfl, Tables.holding_of_stored (Tables.putRecord_at?_self ..), held]
  · rw [Event.applied, if_neg fun texts => same (Gateway.device_of_text texts)]
    exact Tables.holding_congr (Tables.putRecord_at?_of_ne tables (Ne.symm same) _)

/-- The texts of records name a device when one of them is its record. -/
theorem text_mem_iff {records : List DeviceRecord} {id : DeviceId} :
    id.text ∈ records.map (·.id.text) ↔ ∃ record ∈ records, record.id = id := by
  rw [List.mem_map]
  refine exists_congr fun record => and_congr_right fun _ => ?_
  exact ⟨fun same => Gateway.device_of_text same, fun same => congrArg DeviceId.text same⟩

/-- A reservation makes the assigner that of the devices that it gives. -/
theorem applied_of_reserve {assigner template : String} {found : Template} {pairing : Bool}
    {results : List DeviceRecord} (filed : tables.RecordsFiled)
    (done : Tables.reserve assigner found template pairing tables = .ok (results, after))
    (id : DeviceId) :
    (Event.devicesReserved assigner template (results.map (·.id.text))).applied id
      (tables.holding id) = after.holding id := by
  obtain ⟨_, rfl, now⟩ := Tables.reserve_eq_ok filed done
  have given : id.text ∈ ((tables.choice assigner template found pairing).map
      (·.takenBy assigner template)).map (·.id.text) ↔
      id ∈ (tables.choice assigner template found pairing).map (·.id) := by
    rw [text_mem_iff]
    simp
  refine Eq.symm ?_
  rw [Tables.holding, now id]
  simp only [Event.applied, given]
  split
  · next chosen =>
    obtain ⟨record, listed, rfl⟩ := List.mem_map.1 chosen
    have candidate := Selection.isCandidate_of_chosen listed
    have stored := (Tables.stored_of_isCandidate filed candidate).2
    rw [Tables.holding_of_stored stored, stored]
    rfl
  · rfl

/-- A release leaves the devices that it gives back without an assigner. -/
theorem applied_of_release {assigner template : String} {results : List DeviceRecord}
    (filed : tables.RecordsFiled)
    (done : Tables.release assigner template tables = .ok (results, after)) (id : DeviceId) :
    (Event.devicesReleased assigner template (results.map (·.id.text))).applied id
      (tables.holding id) = after.holding id := by
  obtain ⟨rfl, _⟩ := Tables.modifyWhere_eq_ok done
  have given : id.text ∈ ((tables.devices.values.filter
      (Tables.isReleasable assigner template)).map Tables.released).map (·.id.text) ↔
      ∃ record, tables.at? id = some record ∧
        Tables.isReleasable assigner template record = true := by
    rw [text_mem_iff]
    simp only [List.mem_map, List.mem_filter, OrderedMap.mem_values_iff]
    constructor
    · rintro ⟨_, ⟨record, ⟨⟨key, stored⟩, releasable⟩, rfl⟩, rfl⟩
      obtain rfl : record.id = key := filed key record stored
      exact ⟨record, stored, releasable⟩
    · rintro ⟨record, stored, releasable⟩
      exact ⟨_, ⟨record, ⟨⟨id, stored⟩, releasable⟩, rfl⟩, filed id record stored⟩
  have now := Tables.release_at? done id
  simp only [Event.applied, given]
  split
  · next released =>
    obtain ⟨record, stored, releasable⟩ := released
    rw [stored, Option.map_some, if_pos releasable] at now
    rw [Tables.holding_of_stored now, Tables.holding_of_stored stored]
    rfl
  · next kept =>
    refine Tables.holding_congr ?_
    rw [now]
    cases stored : tables.at? id with
    | none => rfl
    | some record =>
      rw [Option.map_some, if_neg fun releasable => kept ⟨record, stored, releasable⟩]

/-- A reconciliation takes no holding away but that of a device which it drops. -/
theorem settled_of_reconcile {devices : List LiveDevice} {outcome : ReconcileOutcome}
    (done : Tables.reconcile devices tables = .ok (outcome, after)) (id : DeviceId) :
    Settled id (some ⟨tables, after⟩) := by
  have now := Tables.reconciled_at? done id
  rintro _ ⟨⟩
  cases last : LiveDevice.lastOf id devices with
  | none =>
    rw [last, Option.map_none] at now
    cases stored : tables.at? id with
    | none => exact .inl (Tables.holding_congr (now.trans stored.symm))
    | some record => exact .inr ⟨⟨devices, outcome, done⟩, by simp [stored], now⟩
  | some device =>
    rw [last, Option.map_some] at now
    refine .inl (Eq.trans ?_ (Tables.holding_of_stored now).symm)
    cases stored : tables.at? id with
    | none => exact Tables.holding_of_absent stored
    | some record => exact (Tables.holding_of_stored stored).trans rfl

end Applied

/-! ## Operations of the pool -/

namespace Pool

variable {id : DeviceId}

/-- A transaction that answers with records, and an event about these, unless there are none. -/
theorem narrates_report {α : Type} {change : Transaction (List DeviceRecord)}
    {event : List DeviceRecord → Event} {answer : List DeviceRecord → α}
    (nobody : ¬ (event []).Concerns id)
    (said : ∀ tables records after, tables.RecordsFiled → change tables = .ok (records, after) →
      (event records).applied id (tables.holding id) = after.holding id) :
    Narrates id (do
      let records ← Workflow.commit change
      if !records.isEmpty then
        Workflow.emit (event records)
      return answer records) := by
  refine narrates_commit_bind fun tables records after filed done => ?_
  have now := said tables records after filed done
  split
  · exact narrates_emit_bind (tells_of_applied now) (narrates_pure _)
  · next empty =>
    obtain rfl : records = [] := by simpa using empty
    exact narrates_pure_of_settled ((tells_of_applied now).otherwise nobody) _

theorem sync_narrates (settings : PoolSettings) : (sync settings).Narrates id := by
  have plain := narrates_plain id
  refine Narrates.holding ?_ syncKey
  refine (narrates_call _).bind fun listing => ?_
  refine (plain.ofOutcome ∅ _).bind fun devices => narrates_commit_bind ?_
  intro tables outcome after _ done
  exact narrates_emit_bind (tells_of_not_concerns nofun (settled_of_reconcile done id))
    (narrates_pure _)

theorem reserve_narrates (settings : PoolSettings) (assigner : String)
    (template provider : Option String) :
    (reserve settings assigner template provider).Narrates id := by
  have plain := narrates_plain id
  unfold reserve
  refine (plain.resolve ∅ template provider).bind fun name => ?_
  refine (plain.askFor ∅ _).bind fun found => ?_
  have afterwards : Narrates id (do
      let devices ← Workflow.commit (Tables.reserve assigner found name settings.sameIndexPairing)
      if !devices.isEmpty then
        Workflow.emit (.devicesReserved assigner name (devices.map (·.id.text)))
      return ({ template := name, devices } : Reservation)) :=
    narrates_report List.not_mem_nil fun _ _ _ filed done => applied_of_reserve filed done id
  split
  · exact (sync_narrates settings).bind fun _ => afterwards
  · exact afterwards

theorem unreserve_narrates (assigner template : String) :
    (unreserve assigner template).Narrates id := by
  have afterwards : Narrates id (do
      let released ← Workflow.commit (Tables.release assigner template)
      if !released.isEmpty then
        Workflow.emit (.devicesReleased assigner template (released.map (·.id.text)))
      return released) :=
    narrates_report List.not_mem_nil fun _ _ _ filed done => applied_of_release filed done id
  unfold unreserve
  split
  · exact ((narrates_plain id).throw ∅ _).bind fun _ => afterwards
  · exact afterwards

theorem addUsage_narrates (device : DeviceId) (assigner : String) :
    (addUsage device assigner).Narrates id := by
  refine narrates_commit_bind fun tables change after _ done => ?_
  obtain ⟨record, changed, _, made, _, rfl, rfl⟩ := Tables.addConnection_eq_ok.1 done
  obtain ⟨_, rfl⟩ := Tables.connected_eq_ok.1 made
  exact narrates_emit_bind (tells_usageChanged tables device (by rfl) id) (narrates_pure _)

theorem restoreUsage_narrates (device : DeviceId) (change : UsageChange) :
    (restoreUsage device change).Narrates id := by
  refine narrates_commit_bind fun tables record after _ done => ?_
  obtain ⟨_, _, _, _, rfl⟩ := Tables.modifyRecord_eq_ok.1 done
  exact narrates_emit (tells_usageChanged tables device (by rfl) id)

theorem decreaseUsage_narrates (device : DeviceId) (assigner : String) :
    (decreaseUsage device assigner).Narrates id := by
  refine narrates_commit_bind fun tables changed after _ done => ?_
  obtain ⟨record, _, made, _, rfl⟩ := Tables.modifyRecord_eq_ok.1 done
  obtain ⟨_, rfl, rfl⟩ := Tables.disconnected_eq_ok.1 made
  exact narrates_emit_bind (tells_usageChanged tables device (by rfl) id) (narrates_pure _)

theorem setUsage_narrates (device : DeviceId) (usage : Usage) :
    (setUsage device usage).Narrates id := by
  refine narrates_commit_bind fun tables _ after _ done => ?_
  obtain ⟨_, record, _, rfl⟩ := Tables.setUsage_eq_ok.1 done
  exact narrates_emit (tells_usageChanged tables device (by rfl) id)

theorem createTemplate_narrates (request : NewTemplate) : (createTemplate request).Narrates id := by
  have plain := narrates_plain id
  refine (plain.ofOutcome ∅ _).bind fun paths => ?_
  refine (plain.ofOutcome ∅ _).bind fun _ => ?_
  refine (plain.stamp ∅).bind fun fresh => narrates_commit_bind ?_
  intro tables _ after _ done
  obtain ⟨_, devices, _⟩ := Tables.createTemplate_eq_ok done
  have silent := Tables.holding_of_addPlaceholders devices id
  exact narrates_emit_bind (tells_of_applied silent) (plain.summarize ∅ _)

theorem editTemplate_narrates (template : String) (request : TemplateEdit) :
    (editTemplate template request).Narrates id := by
  have plain := narrates_plain id
  have afterwards (paths : Option PathMap) : Narrates id (do
      let template' ← Workflow.commit (Tables.editTemplate template
        { name := request.name
          description := request.description
          paths
          hostDefault := request.hostDefault
          providers := request.providers
          leastPaths := request.leastPaths })
      Workflow.emit (.templateEdited template)
      Pool.summarize template') := by
    refine narrates_commit_bind fun tables _ after _ done => ?_
    have silent : tables.holding id = after.holding id := by
      obtain ⟨_, _, _, ⟨same, _⟩ | ⟨_, paths, devices, _⟩, _⟩ := Tables.editTemplate_eq_ok done
      · exact Tables.holding_congr (congrArg (OrderedMap.get? · id) same)
      · exact Tables.holding_of_addPlaceholders devices id
    exact narrates_emit_bind (tells_of_applied silent) (plain.summarize ∅ _)
  unfold editTemplate
  dsimp only
  split
  · exact ((plain.ofOutcome ∅ _).map some).bind afterwards
  · exact (narrates_pure _).bind afterwards

theorem deleteTemplate_narrates (template : String) : (deleteTemplate template).Narrates id := by
  refine narrates_commit_bind fun tables _ after _ done => ?_
  have silent := Tables.holding_congr (Tables.at?_of_deleteTemplate done id)
  exact narrates_emit (tells_of_applied silent)

/-- **Every operation of the pool tells of what it does.** -/
theorem narrates_parts (id : DeviceId) :
    Assembled fun _ {_} workflow => workflow.Narrates id where
  toPlain := narrates_plain id
  sync settings _ := sync_narrates settings
  reserve settings _ := reserve_narrates settings
  unreserve _ := unreserve_narrates
  addUsage _ := addUsage_narrates
  restoreUsage _ := restoreUsage_narrates
  decreaseUsage _ := decreaseUsage_narrates
  setUsage _ := setUsage_narrates
  createTemplate _ := createTemplate_narrates
  editTemplate _ := editTemplate_narrates
  deleteTemplate _ := deleteTemplate_narrates

end Pool

/-! ## Orders -/

namespace Volume

variable {id : DeviceId}

theorem guarded_narrates {raw : String} {devices : List DeviceId}
    {workflow : String → Workflow Unit} (narrates : ∀ assigner, (workflow assigner).Narrates id) :
    Narrates id (do
      let assigner ← ofOutcome (requiredGuest raw)
      ofOutcome (requiredDevices devices)
      holding (guestKey assigner) (workflow assigner)) := by
  have plain := narrates_plain id
  refine (plain.ofOutcome ∅ _).bind fun assigner => ?_
  exact (plain.ofOutcome ∅ _).bind fun _ => (narrates assigner).holding _

theorem overwriteUsage_narrates (device : DeviceId) (usage : Usage) :
    (overwriteUsage device usage).Narrates id := by
  have parts := Pool.narrates_parts id
  refine (parts.usageOf ∅ device).bind fun before => ?_
  refine (Narrates.holdingAll ?_ _).bind fun finished => ?_
  · refine (parts.usageOf ∅ device).bind fun now => ?_
    split
    · exact (parts.setUsage ∅ device usage).bind fun _ => narrates_pure _
    · exact narrates_pure _
  · split
    · exact narrates_pure _
    · exact narrates_again

/-- Every action tells of what it does, also when it fails. -/
theorem dispatch_narrates (settings : OperatorSettings) (action : Action) :
    (dispatch settings action).Narrates id := by
  have parts := Pool.narrates_parts id
  refine parts.dispatch settings ?_
  cases quiet : action.changesUsage with
  | false => exact parts.run settings quiet
  | true =>
    cases action with
    | attach connection =>
      refine Narrates.bind (guarded_narrates fun assigner => ?_) fun _ => narrates_pure _
      exact parts.attachAlone (fun _ => narrates_call) assigner ∅ connection
    | detach connection =>
      refine Narrates.bind (guarded_narrates fun assigner => ?_) fun _ => narrates_pure _
      exact parts.detachAlone (fun _ => narrates_call) assigner ∅ connection
    | setUsage device usage =>
      exact (overwriteUsage_narrates device _).bind fun _ => narrates_pure _
    | _ => cases quiet

end Volume

/-- **Every order tells of what it does.** -/
theorem Order.narrates (settings : OperatorSettings) (order : Order) (id : DeviceId) :
    (order.perform settings).Narrates id := by
  cases order with
  | operator action => exact (Volume.dispatch_narrates settings action).map _
  | pool request =>
    refine Narrates.map ?_ _
    cases request with
    | reserve assigner template provider =>
      exact (Pool.reserve_narrates settings.pool assigner template provider).map _
    | unreserve assigner template => exact (Pool.unreserve_narrates assigner template).map _
    | addUsage device assigner => exact (Pool.addUsage_narrates device assigner).map _
    | decreaseUsage device assigner => exact (Pool.decreaseUsage_narrates device assigner).map _
    | restoreUsage device change => exact (Pool.restoreUsage_narrates device change).map _
    | setUsage device usage => exact (Pool.setUsage_narrates device usage).map _
    | createTemplate request => exact (Pool.createTemplate_narrates request).map _
    | editTemplate template request => exact (Pool.editTemplate_narrates template request).map _
    | deleteTemplate template => exact (Pool.deleteTemplate_narrates template).map _
    | sync => exact (Pool.sync_narrates settings.pool).map _

end FibrePool
