import FibrePool.Proofs.Candidates
import FibrePool.Proofs.LeastPaths
import FibrePool.Proofs.Undisturbed

/-!
# Changes of structure

A template is dropped, or given other paths, only while its devices are not in use.  Looked for are
the devices on its paths whose records name it, and with sound tables none of these is missed
(`Tables.unusedUnder_iff`).

A device may be in use without naming the template, though, and then it is in nobody's way.  There
are three ways past a template (`Deed.Bypasses`): a connection to a device that is not in use, which
asks for no reservation (`attached_device_is_passed_over`), a reservation under another template
with the same device, and a usage written over the old one.  There is no fourth
(`loyalTo_of_run`): connections to a device in use, rollbacks, disconnections, releases, changes of
templates and reconciliations leave a device that was loyal to the template loyal to it.
-/

namespace FibrePool

set_option autoImplicit false

open Workflow

/-! ## What is looked for -/

namespace Tables

variable {tables after : Tables} {template : String}

/-- No device on a path of the template is in use under it. -/
def UnusedUnder (tables : Tables) (template : String) : Prop :=
  ∀ path ids, (tables.pathsOf template).get? path = some ids →
    ∀ id record, tables.devices.get? id = some record → ids.contains record.id = true →
      record.template = template → record.isInUse = false

/-- **What is looked for before a change is what must not be there.** -/
theorem unusedUnder_iff (sound : tables.RecordsSound) :
    tables.UnusedUnder template ↔ tables.devicesInUse template = [] := by
  rw [List.eq_nil_iff_forall_not_mem]
  constructor
  · intro unused device found
    obtain ⟨id, listed, record, stored, under, inUse, _⟩ := mem_devicesInUse.1 found
    obtain ⟨path, ids, filed, member⟩ := mem_devicesOf.1 listed
    rw [← (sound id record stored).own_id] at member
    exact absurd inUse (Bool.eq_false_iff.1 (unused path ids filed id record stored member under))
  · intro none path ids filed id record stored member under
    have own := (sound id record stored).own_id
    rw [own] at member
    refine Bool.eq_false_iff.2 fun inUse => none id (mem_devicesInUse.2 ?_)
    exact ⟨id, mem_devicesOf.2 ⟨path, ids, filed, member⟩, record, stored, under, inUse, own⟩

theorem unusedUnder_of_deleteTemplate (sound : tables.RecordsSound) {result : Unit}
    (done : deleteTemplate template tables = .ok (result, after)) : tables.UnusedUnder template :=
  (unusedUnder_iff sound).2 (deleteTemplate_eq_ok done).1

theorem unusedUnder_of_editTemplate (sound : tables.RecordsSound) {changes : TemplateChanges}
    {result : Template} (done : editTemplate template changes tables = .ok (result, after))
    (changed : after.paths.get? template ≠ tables.paths.get? template) :
    tables.UnusedUnder template := by
  obtain ⟨_, _, _, ⟨_, same⟩ | ⟨unused, _⟩, _⟩ := editTemplate_eq_ok done
  · exact absurd (congrArg (OrderedMap.get? · template) same) changed
  · exact (unusedUnder_iff sound).2 unused

end Tables

/-! ## Loyal devices -/

/-- In use, the device names the template. -/
def LoyalTo (template : String) (stored : Option DeviceRecord) : Prop :=
  ∀ record, stored = some record → record.usage.InUse → record.template = template

/-- Only the template is reserved under, only connections are taken back, and a usage that is
written over another is loyal itself. -/
def Touch.IsLoyalTo (template : String) : Touch → Prop
  | .reservation _ given => given = template
  | .connection _ => False
  | .restoration change => ∃ assigner, change.MadeBy assigner
  | .overwriting usage => usage.InUse → usage.template = template
  | _ => True

section Steps

variable {template : String}

theorem loyalTo_none (template : String) : LoyalTo template none := by
  intro record stored
  cases stored

theorem loyalTo_of_idle {record : DeviceRecord} (idle : ¬ record.usage.InUse) :
    LoyalTo template (some record) := by
  rintro _ ⟨⟩ inUse
  exact absurd inUse idle

theorem loyalTo_of_names {record : DeviceRecord} (names : record.template = template) :
    LoyalTo template (some record) := by
  rintro _ ⟨⟩ _
  exact names

/-- A connection leaves the template of the device as it was, and the device in use. -/
theorem UsageChange.MadeBy.same_template {assigner : String} {change : UsageChange}
    (made : change.MadeBy assigner) :
    change.current.template = change.previous.template ∧ change.current.InUse := by
  obtain ⟨device, before, after, done⟩ := made
  obtain ⟨record, changed, _, connected, _, rfl, _⟩ := Tables.addConnection_eq_ok.1 done
  obtain ⟨_, rfl⟩ := Tables.connected_eq_ok.1 connected
  exact ⟨rfl, .inl rfl⟩

/-- **A loyal step keeps the record of a device loyal.** -/
theorem RecordStep.loyalTo {id : DeviceId} {touch : Touch} {before after : Option DeviceRecord}
    (step : RecordStep id touch before after) (loyal : touch.IsLoyalTo template)
    (holds : LoyalTo template before) : LoyalTo template after := by
  cases step with
  | listed => exact loyalTo_of_idle (DeviceRecord.not_inUse_ofLive _)
  | @refreshed record device =>
    rintro _ ⟨⟩ inUse
    exact holds record rfl inUse
  | removed => exact loyalTo_none template
  | named => exact loyalTo_of_idle (DeviceRecord.not_inUse_placeholder id)
  | reserved => exact loyalTo_of_names loyal
  | released releasable => exact loyalTo_of_idle (DeviceRecord.not_inUse_released releasable)
  | connected => exact loyal.elim
  | restored done =>
    obtain ⟨current, rfl⟩ := Tables.restored_eq_ok.1 done
    obtain ⟨assigner, made⟩ := loyal
    obtain ⟨same, inUse⟩ := made.same_template
    rw [← current] at same inUse
    exact loyalTo_of_names (same.symm.trans (holds _ rfl inUse))
  | @disconnected record changed assigner done =>
    obtain ⟨busy, _, rfl⟩ := Tables.disconnected_eq_ok.1 done
    exact loyalTo_of_names (holds record rfl (.inr (UInt32.pos_iff_ne_zero.2 busy)))
  | overwritten =>
    rintro _ ⟨⟩ inUse
    exact loyal inUse

theorem Altered.loyalTo {touches : Touch → Prop} {id : DeviceId}
    {before after : Option DeviceRecord} (altered : Altered touches id before after)
    (loyal : ∀ touch, touches touch → touch.IsLoyalTo template)
    (holds : LoyalTo template before) : LoyalTo template after :=
  altered.keeps (LoyalTo template)
    (fun touch _ _ allowed step => step.loyalTo (loyal touch allowed)) holds

end Steps

/-! ## Ways past a template -/

/-- The deed brings the device into use past the template. -/
inductive Deed.Bypasses (template : String) (id : DeviceId)
    (deed : Deed PoolRequest PoolAnswer) : Prop where
  | /-- A connection is added to a device that is not in use. -/
    connection {assigner : String} {change : UsageChange}
    (asked : deed.asked = .addUsage id assigner) (answered : deed.outcome = .ok (.change change))
    (idle : ¬ change.previous.InUse) (other : change.previous.template ≠ template)
  | /-- The device is reserved under another template. -/
    reservation {assigner : String} {wanted provider : Option String} {reservation : Reservation}
    {record : DeviceRecord} (asked : deed.asked = .reserve assigner wanted provider)
    (answered : deed.outcome = .ok (.reservation reservation))
    (member : record ∈ reservation.devices) (own : record.id = id)
    (other : reservation.template ≠ template)
  | /-- A usage without the template is written over the old one. -/
    overwriting {usage : Usage} {answer : PoolAnswer} (asked : deed.asked = .setUsage id usage)
    (answered : deed.outcome = .ok answer) (inUse : usage.InUse)
    (other : usage.template ≠ template)

section OneDeed

variable {settings : PoolSettings} {template : String} {id : DeviceId} {around : Surroundings}
  {tables : Tables} {scene : Scene} {outcome : Outcome PoolAnswer}

theorem reconciles_loyalTo (template : String) (id : DeviceId) :
    Reconciles (fun _ => True) fun now =>
      now.RecordsSound ∧ LoyalTo template (now.at? id) := by
  intro target text devices seen parsed now outcome after holds done
  have sound : Reconciles (fun _ => True) Tables.RecordsSound :=
    (recordsSound_upkeep _).reconciles
  refine ⟨@sound target text devices seen parsed now outcome after holds.1 done, ?_⟩
  refine (Tables.altered_reconcile done id).loyalTo ?_ holds.2
  rintro touch (rfl | ⟨rfl, _⟩) <;> trivial

/-- A connection keeps a device loyal, unless it was not in use before. -/
theorem loyalTo_of_addUsage {device : DeviceId} {assigner : String}
    (loyal : LoyalTo template (tables.at? id))
    (straight : ∀ change, device = id → outcome = .ok (.change change) →
      change.previous.InUse ∨ change.previous.template = template)
    (run : (Pool.perform settings (.addUsage device assigner)).run.alone around { tables } =
      (some outcome, scene)) : LoyalTo template (scene.tables.at? id) := by
  have ran := Pool.addConnection_of_run run
  cases outcome with
  | error failure =>
    rw [show scene.tables = tables from ran]
    exact loyal
  | ok answer =>
    obtain ⟨change, rfl, done⟩ := ran
    obtain ⟨record, changed, stored, made, _, rfl, same⟩ := Tables.addConnection_eq_ok.1 done
    obtain ⟨_, rfl⟩ := Tables.connected_eq_ok.1 made
    rw [same]
    by_cases own : device = id
    · subst own
      rw [Tables.putRecord_at?_self]
      refine loyalTo_of_names ?_
      rcases straight _ rfl rfl with inUse | names
      · exact loyal record stored inUse
      · exact names
    · rw [Tables.putRecord_at?_of_ne tables (Ne.symm own)]
      exact loyal

/-- A reservation keeps a device loyal, unless it gives the device away under another template. -/
theorem loyalTo_of_reserve {assigner : String} {wanted provider : Option String}
    (sound : tables.RecordsSound) (loyal : LoyalTo template (tables.at? id))
    (straight : ∀ reservation, outcome = .ok (.reservation reservation) →
      ∀ record ∈ reservation.devices, record.id = id → reservation.template = template)
    (run : (Pool.perform settings (.reserve assigner wanted provider)).run.alone around { tables } =
      (some outcome, scene)) : LoyalTo template (scene.tables.at? id) := by
  have ran := Pool.reserve_of_run (reconciles_loyalTo template id) ⟨sound, loyal⟩ run
  cases outcome with
  | error failure => exact ran.2
  | ok answer =>
    obtain ⟨reservation, found, before, rfl, ⟨sound, loyal⟩, done⟩ := ran
    obtain ⟨_, chosen, _, all⟩ := Tables.reserveWith_eq_ok.1 done
    rw [Tables.at?_of_reserveAll all]
    split
    · next member =>
      intro taken given _
      obtain ⟨record, stored, rfl⟩ := Option.map_eq_some_iff.1 given
      refine straight reservation rfl (record.takenBy assigner reservation.template) ?_
        (sound id record stored).own_id
      rw [Tables.results_of_reserveAll all]
      exact List.mem_filterMap.2 ⟨id, member, given⟩
    · exact loyal

/-- **A deed that does not bypass the template keeps a device loyal to it.** -/
theorem loyalTo_of_run {deed : Deed PoolRequest PoolAnswer} (sound : tables.RecordsSound)
    (made : ∀ device change, deed.asked = .restoreUsage device change →
      ∃ assigner, change.MadeBy assigner)
    (straight : ¬ deed.Bypasses template id) (loyal : LoyalTo template (tables.at? id))
    (run : (Pool.perform settings deed.asked).run.alone around { tables } =
      (some deed.outcome, scene)) : LoyalTo template (scene.tables.at? id) := by
  obtain ⟨asked, outcome, seen⟩ := deed
  have altered : Altered (asked.Touches (fun _ => True) id) id (tables.at? id)
      (scene.tables.at? id) := PoolRequest.altered_of_run run (fun _ _ => trivial) id
  cases asked with
  | reserve assigner wanted provider =>
    refine loyalTo_of_reserve sound loyal (fun reservation answered record member own => ?_) run
    by_contra other
    exact straight (.reservation rfl answered member own other)
  | unreserve assigner given =>
    refine altered.loyalTo ?_ loyal
    rintro touch rfl
    trivial
  | addUsage device assigner =>
    refine loyalTo_of_addUsage loyal (fun change own answered => ?_) run
    by_contra neither
    obtain ⟨idle, other⟩ := not_or.1 neither
    have same := congrArg (PoolRequest.addUsage · assigner) own
    exact straight (.connection same answered idle other)
  | decreaseUsage device assigner =>
    refine altered.loyalTo ?_ loyal
    rintro touch ⟨_, rfl⟩
    trivial
  | restoreUsage device change =>
    refine altered.loyalTo ?_ loyal
    rintro touch ⟨_, rfl⟩
    exact made device change rfl
  | setUsage device usage =>
    cases outcome with
    | error failure =>
      have ends : (Pool.perform settings (.setUsage device usage)).Ends around { tables }
          (fun _ _ => True) fun _ after => after.tables = tables :=
        (ends_map _ _).2 (Pool.setUsage_allOrNothing device usage)
      rw [show scene.tables = tables from ends.of_error run]
      exact loyal
    | ok answer =>
      refine altered.loyalTo ?_ loyal
      rintro touch ⟨rfl, rfl⟩ inUse
      by_contra other
      exact straight (.overwriting rfl rfl inUse other)
  | createTemplate request =>
    refine altered.loyalTo ?_ loyal
    rintro touch rfl
    trivial
  | editTemplate given request =>
    refine altered.loyalTo ?_ loyal
    rintro touch rfl
    trivial
  | deleteTemplate given => exact altered.loyalTo (fun _ => False.elim) loyal
  | sync =>
    refine altered.loyalTo ?_ loyal
    rintro touch (rfl | ⟨rfl, _⟩) <;> trivial

end OneDeed

/-! ## Histories -/

section Histories

variable {settings : PoolSettings} {template : String} {id : DeviceId}
  {deeds : List (Deed PoolRequest PoolAnswer)} {before after : Tables}

/-- What is known of every deed: assigners have names, and only connections are taken back. -/
structure Deed.Sourced (deed : Deed PoolRequest PoolAnswer) : Prop where
  named : deed.asked.assigner ≠ some ""
  made : ∀ device change, deed.asked = .restoreUsage device change →
    ∃ assigner, change.MadeBy assigner

/-- **A device that is not loyal to the template in the end was not so in the beginning, or one of
the deeds has bypassed the template.** -/
theorem exists_bypasses_of_history (sound : before.RecordsSound)
    (history : History (Pool.perform settings) before deeds after)
    (sourced : ∀ deed ∈ deeds, deed.Sourced) (loyal : LoyalTo template (before.at? id))
    (disloyal : ¬ LoyalTo template (after.at? id)) :
    ∃ deed ∈ deeds, deed.Bypasses template id := by
  induction deeds generalizing before with
  | nil =>
    obtain rfl := History.nil_iff.1 history
    exact absurd loyal disloyal
  | cons deed rest ih =>
    obtain ⟨around, scene, run, _, later⟩ := History.cons_iff.1 history
    obtain ⟨first, others⟩ := List.forall_mem_cons.1 sourced
    by_cases past : deed.Bypasses template id
    · exact ⟨deed, List.mem_cons_self, past⟩
    · have keeps : deed.asked.Keeps settings (fun _ => True) Tables.RecordsSound :=
        PoolRequest.keeps_of_upkeep (recordsSound_upkeep _) recordsSound_usageChanges first.named
      have sound' : scene.tables.RecordsSound := keeps.preserves.alone run sound fun _ _ => trivial
      obtain ⟨other, member, bypasses⟩ := ih sound' later others
        (loyalTo_of_run sound first.made past loyal run)
      exact ⟨other, List.mem_cons_of_mem _ member, bypasses⟩

end Histories

/-! ## Changes of structure -/

/-- Whatever is in use on a path of the template does not name it, and came there by a deed that has
bypassed the template, or was in use without it before all deeds. -/
def Tables.UsedPast (tables : Tables) (template : String) (start : Tables)
    (deeds : List (Deed PoolRequest PoolAnswer)) : Prop :=
  ∀ path ids, (tables.pathsOf template).get? path = some ids →
    ∀ id record, tables.devices.get? id = some record → ids.contains record.id = true →
      record.isInUse = true → record.template ≠ template ∧
        (¬ LoyalTo template (start.at? id) ∨ ∃ deed ∈ deeds, deed.Bypasses template id)

theorem Tables.UnusedUnder.usedPast {settings : PoolSettings} {template : String}
    {start tables : Tables} {deeds : List (Deed PoolRequest PoolAnswer)}
    (unused : tables.UnusedUnder template) (sound : start.RecordsSound)
    (history : History (Pool.perform settings) start deeds tables)
    (sourced : ∀ deed ∈ deeds, deed.Sourced) : tables.UsedPast template start deeds := by
  intro path ids filed id record stored member inUse
  have other : record.template ≠ template := by
    intro names
    have idle := unused path ids filed id record stored member names
    rw [inUse] at idle
    cases idle
  refine ⟨other, or_iff_not_imp_left.2 fun loyal => ?_⟩
  refine exists_bypasses_of_history sound history sourced (not_not.1 loyal) fun loyal' => ?_
  exact other (loyal' record stored (DeviceRecord.isInUse_iff.1 inUse))

/-- **A template is dropped, or gets other paths, only while every device in use on its paths is so
past the template**, in every state and after whatever is asked of the pool from there on.  A
template that is there and not in use can be dropped, and what is refused leaves the tables as they
were. -/
theorem structure_changes_past_bypassing_devices {settings : OperatorSettings}
    {scheduler : Scheduler (Outcome Output)}
    (reached : scheduler.Reached (Volume.Dispatched settings))
    {deeds : List (Deed PoolRequest PoolAnswer)} {tables : Tables}
    (history : History (Pool.perform settings.pool) scheduler.store.tables deeds tables)
    (sourced : ∀ deed ∈ deeds, deed.Sourced) (around : Surroundings) (template : String)
    (request : TemplateEdit) :
    (Pool.deleteTemplate template).Ends around { tables }
      (fun _ _ => tables.UsedPast template scheduler.store.tables deeds)
      (fun _ after => after.tables = tables ∧
        (tables.templates.get? template = none ∨ ¬ tables.UnusedUnder template)) ∧
    (Pool.editTemplate template request).Ends around { tables }
      (fun _ after => after.tables.paths.get? template ≠ tables.paths.get? template →
        tables.UsedPast template scheduler.store.tables deeds)
      (fun _ after => after.tables = tables) := by
  have named : ∀ deed ∈ deeds, deed.asked.assigner ≠ some "" := fun deed member =>
    (sourced deed member).named
  have sound := recordsSound_of_history reached history named
  have filed := (templatesSound_of_history reached.templatesSound history).filed
  constructor
  · refine (Pool.deleteTemplate_ends template).mono ?_ ?_
    · intro _ _ done
      exact (Tables.unusedUnder_of_deleteTemplate sound done).usedPast reached.recordsSound history
        sourced
    · rintro _ _ ⟨rfl, refused⟩
      refine ⟨rfl, (Tables.deleteTemplate_eq_error refused).imp_right fun inUse unused => ?_⟩
      exact inUse ((Tables.unusedUnder_iff sound).1 unused)
  · refine (Pool.editTemplate_ends filed template request).mono ?_ fun _ _ same => same
    rintro _ _ ⟨changes, result, done⟩ changed
    exact (Tables.unusedUnder_of_editTemplate sound done changed).usedPast reached.recordsSound
      history sourced

namespace Sample

/-- `A` is connected to the device, which nobody has reserved. -/
def entered := next (.addUsage device "A") synced.2

end Sample

/-- The template of the device can be dropped, because the connection went past it. -/
theorem structure_changes_past_connected_device :
    ∃ dropped, (Pool.deleteTemplate "T").run.alone Sample.refusing
        { tables := Sample.entered.2 } = (some (.ok ()), dropped) ∧
      (∃ record, Sample.entered.2.devices.get? Sample.device = some record ∧
        record.isInUse = true ∧ record.template ≠ "T") ∧
      ∃ deed ∈ [Sample.made.1, Sample.synced.1, Sample.entered.1],
        deed.Bypasses "T" Sample.device := by
  have reached : Sample.idle.Reached (Volume.Dispatched Sample.settings) := .idle rfl rfl rfl
  have states : (∀ ran ∈ [Sample.made, Sample.synced, Sample.entered],
        ran.1.outcome ≠ .error default) ∧
      ((Pool.deleteTemplate "T").run.alone Sample.refusing { tables := Sample.entered.2 }).1 =
        some (.ok ()) ∧
      (Sample.entered.2.pathsOf "T").get? 0 = some (OrderedMap.insert ∅ Sample.device ()) ∧
      Sample.entered.2.devices.get? Sample.device =
        some { Sample.owned with connections := 1, template := "" } := by decide +kernel
  obtain ⟨ended, dropping, filed, stored⟩ := states
  simp only [List.forall_mem_cons] at ended
  obtain ⟨ended₁, ended₂, ended₃, -⟩ := ended
  have history : History (Pool.perform Sample.settings.pool) Sample.idle.store.tables
      [Sample.made.1, Sample.synced.1, Sample.entered.1] Sample.entered.2 := by
    refine history_of_carryOut rfl (ended_of_ne_default ended₁) ?_
    refine history_of_carryOut rfl (ended_of_ne_default ended₂) ?_
    exact history_of_carryOut rfl (ended_of_ne_default ended₃) (.rest _)
  have sourced : ∀ deed ∈ [Sample.made.1, Sample.synced.1, Sample.entered.1], deed.Sourced := by
    simp only [List.forall_mem_cons]
    exact ⟨⟨by decide, nofun⟩, ⟨by decide, nofun⟩, ⟨by decide, nofun⟩, List.forall_mem_nil _⟩
  obtain ⟨deletes, _⟩ := structure_changes_past_bypassing_devices reached history sourced
    Sample.refusing "T" {}
  obtain ⟨dropped, ran⟩ := Sample.exists_run dropping
  have inUse : ({ Sample.owned with connections := 1, template := "" } : DeviceRecord).isInUse =
      true := by decide
  obtain ⟨other, disloyal | bypassed⟩ := deletes.of_ok ran 0 _ filed Sample.device _ stored
    (by decide) inUse
  · exact absurd (loyalTo_none "T") disloyal
  · exact ⟨dropped, ran, ⟨_, stored, inUse, other⟩, bypassed⟩

/-- **A device in use without a template is passed over.**  `A` has attached `1a00` twice, the only
device of the template, and the template can be dropped. -/
theorem attached_device_is_passed_over :
    (Sample.attaching 40).Reached (Volume.Dispatched Sample.settings) ∧
    (∃ ids record, ((Sample.attaching 40).store.tables.pathsOf "T").get? 0 = some ids ∧
      (Sample.attaching 40).store.tables.devices.get? Sample.device = some record ∧
      ids.contains record.id = true ∧ record.isInUse = true ∧ record.template = "") ∧
    ∃ after, (Pool.deleteTemplate "T").run.alone Sample.refusing
      { tables := (Sample.attaching 40).store.tables } = (some (.ok ()), after) := by
  obtain ⟨dropping, filed, stored⟩ :
      ((Pool.deleteTemplate "T").run.alone Sample.refusing
        { tables := (Sample.attaching 40).store.tables }).1 = some (.ok ()) ∧
      ((Sample.attaching 40).store.tables.pathsOf "T").get? 0 =
        some (OrderedMap.insert ∅ Sample.device ()) ∧
      (Sample.attaching 40).store.tables.devices.get? Sample.device =
        some { DeviceRecord.placeholder Sample.device with
          assigner := "A", reserved := true, connections := 2 } := by decide +kernel
  refine ⟨Sample.attaching_reached 40, ⟨_, _, filed, stored, ?_, rfl, rfl⟩, ?_⟩
  · decide
  · exact Sample.exists_run dropping

end FibrePool
