import FibrePool.Proofs.Candidates
import FibrePool.Proofs.Exclusive

/-!
# Devices in use stay with their template

A device that is in use under a template is one of the devices of that template, and the template is
there; a device that is not in use belongs to nobody.

Editing and dropping a template are refused while a device is in use, but they look for such devices
on the paths of the template only.  That none is overlooked there is the statement itself, so every
transaction is shown to keep it on tables that have it already (`Tables.Pinned`).  A restoration is
no exception, however late: a connection does not change the template of a device, so the usage
before it names a template that is offered whenever the usage after it does
(`UsageChange.Anchored`).
-/

namespace FibrePool

set_option autoImplicit false

/-! ## Usages under a template -/

/-- In use, the device is offered by its template, if it has one; otherwise it belongs to nobody. -/
structure Usage.Pinned (offered : String → Prop) (usage : Usage) : Prop where
  offered : usage.InUse → usage.template ≠ "" → offered usage.template
  vacant : ¬ usage.InUse → usage.assigner = "" ∧ usage.template = ""

/-- Wherever the usage after the change is pinned, so is the usage before it. -/
def UsageChange.Anchored (change : UsageChange) : Prop :=
  ∀ offered, change.current.Pinned offered → change.previous.Pinned offered

section Usages

variable {offered : String → Prop} {usage : Usage}

theorem Usage.pinned_of_vacant (unassigned : usage.assigner = "") (free : usage.template = "") :
    usage.Pinned offered :=
  ⟨fun _ named => absurd free named, fun _ => ⟨unassigned, free⟩⟩

theorem Usage.pinned_of_inUse (inUse : usage.InUse)
    (offers : usage.template ≠ "" → offered usage.template) : usage.Pinned offered :=
  ⟨fun _ => offers, fun idle => absurd inUse idle⟩

/-- Who has a template is in use. -/
theorem Usage.Pinned.inUse (pinned : usage.Pinned offered) (named : usage.template ≠ "") :
    usage.InUse := by
  by_contra idle
  exact named (pinned.vacant idle).2

theorem Usage.Pinned.mono {offered' : String → Prop} (pinned : usage.Pinned offered)
    (kept : usage.InUse → offered usage.template → offered' usage.template) :
    usage.Pinned offered' := by
  refine ⟨fun inUse named => ?_, pinned.vacant⟩
  exact kept inUse (pinned.offered inUse named)

end Usages

/-! ## Steps -/

/-- Only what is offered is reserved, only anchored changes are taken back, and nobody overwrites a
usage. -/
def Touch.IsAnchored (offered : String → Prop) : Touch → Prop
  | .reservation _ template => offered template
  | .restoration change => change.Anchored
  | .overwriting _ => False
  | _ => True

/-- **Every step of a record keeps it pinned to what is offered.** -/
theorem RecordStep.pinned {id : DeviceId} {touch : Touch} {before after : Option DeviceRecord}
    {offered : String → Prop} (step : RecordStep id touch before after)
    (anchored : touch.IsAnchored offered)
    (sound : ∀ record, before = some record → record.SoundFor id)
    (pinned : ∀ record, before = some record → record.usage.Pinned offered) :
    ∀ record, after = some record → record.usage.Pinned offered := by
  intro record stored
  cases step with
  | listed =>
    cases stored
    exact Usage.pinned_of_vacant rfl rfl
  | refreshed =>
    cases stored
    have old := pinned _ rfl
    exact old
  | removed => cases stored
  | named =>
    cases stored
    exact Usage.pinned_of_vacant rfl rfl
  | reserved =>
    cases stored
    exact Usage.pinned_of_inUse (.inl rfl) fun _ => anchored
  | released =>
    cases stored
    exact Usage.pinned_of_vacant rfl rfl
  | connected done =>
    cases stored
    obtain ⟨_, rfl⟩ := Tables.connected_eq_ok.1 done
    have old := pinned _ rfl
    refine Usage.pinned_of_inUse (.inl rfl) fun named => ?_
    exact old.offered (old.inUse named) named
  | restored done =>
    cases stored
    obtain ⟨current, rfl⟩ := Tables.restored_eq_ok.1 done
    have old := pinned _ rfl
    rw [current] at old
    exact anchored offered old
  | disconnected done =>
    cases stored
    obtain ⟨busy, _, rfl⟩ := Tables.disconnected_eq_ok.1 done
    have old := pinned _ rfl
    have reserved := (sound _ rfl).reserved_of_connected (UInt32.pos_iff_ne_zero.2 busy)
    exact Usage.pinned_of_inUse (.inl reserved) (old.offered (.inl reserved))
  | overwritten => exact anchored.elim

/-! ## Tables -/

namespace Tables

/-- The template is there, and the device is one of its devices. -/
def Offers (tables : Tables) (id : DeviceId) (template : String) : Prop :=
  (∃ found, tables.templates.get? template = some found) ∧ id ∈ tables.devicesOf template

/-- Every record is sound and pinned to a template that offers its device. -/
structure Pinned (tables : Tables) : Prop where
  sound : tables.RecordsSound
  pinned : ∀ id record, tables.at? id = some record → record.usage.Pinned (tables.Offers id)

theorem pinned_empty : Pinned ∅ where
  sound := recordsSound_empty
  pinned id record stored := by cases stored

/-! ## Changes of devices -/

/-- A transaction that takes each record through anchored steps keeps all records pinned. -/
theorem keeps_pinned_of_altered {α : Type} {change : Transaction α} (only : change.OnlyDevices)
    (altered : ∀ ⦃tables : Tables⦄ ⦃result : α⦄ ⦃after : Tables⦄, tables.Pinned →
      change tables = .ok (result, after) → ∀ id,
        Altered (fun touch => touch.Assigned ∧ touch.IsAnchored (tables.Offers id)) id
          (tables.at? id) (after.at? id)) : change.Keeps Pinned := by
  intro tables result after pinned done
  have kept (id : DeviceId) : ∀ record, after.at? id = some record →
      record.SoundFor id ∧ record.usage.Pinned (tables.Offers id) := by
    refine (altered pinned done id).keeps (fun stored => ∀ record, stored = some record →
      record.SoundFor id ∧ record.usage.Pinned (tables.Offers id)) ?_ ?_
    · rintro touch before final ⟨assigned, anchored⟩ step holds record stored
      have sound (old : DeviceRecord) (found : before = some old) := (holds old found).1
      constructor
      · exact step.soundFor assigned sound record stored
      · exact step.pinned anchored sound (fun old found => (holds old found).2) record stored
    · intro record stored
      exact ⟨pinned.sound id record stored, pinned.pinned id record stored⟩
  -- Nothing but records has changed, so the same templates offer the same devices.
  obtain ⟨devices, rfl⟩ := only done
  constructor
  · intro id record stored
    exact (kept id record stored).1
  · intro id record stored
    exact (kept id record stored).2

theorem keeps_pinned_reconcile (devices : List LiveDevice) : (reconcile devices).Keeps Pinned := by
  refine keeps_pinned_of_altered (onlyDevices_reconcile devices) ?_
  intro tables outcome after pinned done id
  refine (altered_reconcile done id).mono ?_
  rintro touch (rfl | ⟨rfl, _⟩) <;> exact ⟨trivial, trivial⟩

theorem keeps_pinned_reserve {assigner : String} (named : assigner ≠ "") (found : Template)
    (template : String) (pairing : Bool) :
    (reserve assigner found template pairing).Keeps Pinned := by
  refine keeps_pinned_of_altered (onlyDevices_reserve assigner found template pairing) ?_
  intro tables records after pinned done id
  obtain ⟨⟨present, there⟩, chosen, selected, all⟩ := reserveWith_eq_ok.1 done
  refine (altered_reserveAll all id).mono ?_
  rintro touch ⟨member, rfl⟩
  refine ⟨named, ⟨present, template_eq_ok.1 there⟩, ?_⟩
  obtain ⟨record, candidate, rfl⟩ := Selection.isCandidate_of_select selected member
  obtain ⟨key, listed, stored⟩ := exists_of_isCandidate candidate
  rw [(pinned.sound key record stored).own_id]
  exact listed

theorem keeps_pinned_release (assigner template : String) :
    (release assigner template).Keeps Pinned := by
  refine keeps_pinned_of_altered (onlyDevices_release assigner template) ?_
  intro tables records after pinned done id
  refine (altered_release done id).mono ?_
  rintro touch rfl
  exact ⟨trivial, trivial⟩

theorem keeps_pinned_addConnection (id : DeviceId) (assigner : String) :
    (addConnection id assigner).Keeps Pinned := by
  refine keeps_pinned_of_altered (onlyDevices_addConnection id assigner) ?_
  intro tables change after pinned done other
  refine (altered_addConnection done other).mono ?_
  rintro touch ⟨_, rfl⟩
  exact ⟨trivial, trivial⟩

theorem keeps_pinned_removeConnection (id : DeviceId) (assigner : String) :
    (removeConnection id assigner).Keeps Pinned := by
  refine keeps_pinned_of_altered (onlyDevices_modifyRecord id (disconnected assigner)) ?_
  intro tables record after pinned done other
  refine (altered_removeConnection done other).mono ?_
  rintro touch ⟨_, rfl⟩
  exact ⟨trivial, trivial⟩

theorem keeps_pinned_restoreUsage (id : DeviceId) {change : UsageChange}
    (anchored : change.Anchored) : (restoreUsage id change).Keeps Pinned := by
  refine keeps_pinned_of_altered (onlyDevices_modifyRecord id (restored change)) ?_
  intro tables record after pinned done other
  refine (altered_restoreUsage done other).mono ?_
  rintro touch ⟨_, rfl⟩
  exact ⟨trivial, anchored⟩

/-- **Every connection is an anchored change**, whatever device it is taken back from. -/
theorem anchored_of_addConnection {tables after : Tables} {id : DeviceId} {assigner : String}
    {change : UsageChange} (pinned : tables.Pinned)
    (done : addConnection id assigner tables = .ok (change, after)) : change.Anchored := by
  obtain ⟨record, changed, stored, made, _, rfl, rfl⟩ := addConnection_eq_ok.1 done
  obtain ⟨_, rfl⟩ := connected_eq_ok.1 made
  intro offered current
  refine ⟨fun inUse named => ?_, (pinned.pinned id record stored).vacant⟩
  exact current.offered (.inl rfl) named

/-! ## Changes of templates -/

section Templates

variable {tables after : Tables} {id : DeviceId} {record : DeviceRecord} {template : String}

/-- A template goes on offering a device when neither it nor its paths have changed. -/
theorem Offers.of_same (offers : tables.Offers id template)
    (found : (∃ found, tables.templates.get? template = some found) →
      ∃ found, after.templates.get? template = some found)
    (paths : after.paths.get? template = tables.paths.get? template) :
    after.Offers id template := by
  refine ⟨found offers.1, ?_⟩
  have same : after.devicesOf template = tables.devicesOf template := by
    rw [devicesOf, devicesOf, pathsOf, pathsOf, paths]
  rw [same]
  exact offers.2

/-- No device that the template offers is in use under it. -/
theorem template_ne_of_unused (unused : tables.devicesInUse template = [])
    (stored : tables.at? id = some record) (inUse : record.usage.InUse)
    (offers : tables.Offers id record.template) : record.template ≠ template := by
  rintro rfl
  have listed : record.id ∈ tables.devicesInUse record.template :=
    mem_devicesInUse.2
      ⟨id, offers.2, record, stored, rfl, DeviceRecord.isInUse_iff.2 inUse, rfl⟩
  rw [unused] at listed
  cases listed

/-- Records stay pinned when none has changed, new ones are placeholders, and every template that is
used goes on offering its devices. -/
theorem Pinned.of_placeholders (pinned : tables.Pinned)
    (placed : ∀ id, after.at? id = tables.at? id ∨ after.at? id = some (.placeholder id))
    (kept : ∀ id record, tables.at? id = some record → record.usage.InUse →
      tables.Offers id record.template → after.Offers id record.template) : after.Pinned := by
  constructor
  · intro id record stored
    rcases placed id with same | new
    · exact pinned.sound id record (same ▸ stored)
    · cases new.symm.trans stored
      exact DeviceRecord.soundFor_of_idle rfl (DeviceRecord.not_inUse_placeholder id)
  · intro id record stored
    rcases placed id with same | new
    · rw [same] at stored
      exact (pinned.pinned id record stored).mono (kept id record stored)
    · cases new.symm.trans stored
      exact Usage.pinned_of_vacant rfl rfl

theorem placed_of_addPlaceholders {paths : PathMap}
    (named : after.devices = (tables.addPlaceholders paths).devices) (id : DeviceId) :
    after.at? id = tables.at? id ∨ after.at? id = some (.placeholder id) := by
  rw [at?, named]
  rcases addPlaceholders_at? tables paths id with same | ⟨_, placed⟩
  · exact .inl same
  · exact .inr placed

end Templates

theorem keeps_pinned_createTemplate (template : Template) (paths : PathMap)
    (providers : List String) : (createTemplate template paths providers).Keeps Pinned := by
  intro tables result after pinned done
  obtain ⟨absent, devices, templates, filed, _⟩ := createTemplate_eq_ok done
  refine pinned.of_placeholders (placed_of_addPlaceholders devices) ?_
  intro id record stored inUse offers
  refine offers.of_same ?_ ?_
  · exact exists_template_of_file templates
  · -- The new template was not there, so it offered nothing.
    have other : record.template ≠ template.id := by
      intro same
      obtain ⟨found, there⟩ := offers.1
      rw [same, absent] at there
      cases there
    rw [filed, OrderedMap.get?_insert_of_ne _ other]

theorem keeps_pinned_editTemplate (template : String) (changes : TemplateChanges) :
    (editTemplate template changes).Keeps Pinned := by
  intro tables result after pinned done
  obtain ⟨old, _, _, placed, templates⟩ := editTemplate_eq_ok done
  have there {other : String} (known : ∃ found, tables.templates.get? other = some found) :
      ∃ found, after.templates.get? other = some found := exists_template_of_file templates known
  rcases placed with ⟨devices, paths⟩ | ⟨unused, paths, devices, filed⟩
  · refine pinned.of_placeholders (fun id => .inl (congrArg (OrderedMap.get? · id) devices)) ?_
    intro id record stored inUse offers
    exact offers.of_same there (by rw [paths])
  · refine pinned.of_placeholders (placed_of_addPlaceholders devices) ?_
    intro id record stored inUse offers
    have other := template_ne_of_unused unused stored inUse offers
    refine offers.of_same there ?_
    rw [filed, OrderedMap.get?_insert_of_ne _ other]

theorem keeps_pinned_deleteTemplate (template : String) :
    (deleteTemplate template).Keeps Pinned := by
  intro tables result after pinned done
  obtain ⟨unused, devices, templates, paths, _⟩ := deleteTemplate_eq_ok done
  refine pinned.of_placeholders (fun id => .inl (congrArg (OrderedMap.get? · id) devices)) ?_
  intro id record stored inUse offers
  have other := template_ne_of_unused unused stored inUse offers
  refine offers.of_same ?_ ?_
  · intro there
    rw [templates, OrderedMap.get?_erase_of_ne _ other]
    exact there
  · rw [paths, OrderedMap.get?_erase_of_ne _ other]

end Tables

/-! ## Histories -/

/-- What is known of every deed: assigners have names, nobody overwrites a usage, and only changes
that were made before are taken back, be it from another device. -/
structure Deed.Traceable (past : List (Deed PoolRequest PoolAnswer))
    (deed : Deed PoolRequest PoolAnswer) : Prop where
  named : deed.asked.assigner ≠ some ""
  kept : ∀ device usage, deed.asked ≠ .setUsage device usage
  restored : ∀ device change, deed.asked = .restoreUsage device change →
    ∃ origin, Deed.Made past origin change

/-- What is true of the tables after traceable deeds. -/
structure Moored (past : List (Deed PoolRequest PoolAnswer)) (tables : Tables) : Prop where
  pinned : tables.Pinned
  anchored : ∀ origin change, Deed.Made past origin change → change.Anchored

theorem moored_empty : Moored [] ∅ where
  pinned := Tables.pinned_empty
  anchored origin change made := by
    obtain ⟨deed, member, _⟩ := made
    cases member

section Histories

variable {settings : PoolSettings} {past deeds : List (Deed PoolRequest PoolAnswer)}
  {deed : Deed PoolRequest PoolAnswer} {tables after : Tables}

open Tables in
/-- Every transaction of a traceable request keeps all records pinned. -/
theorem keeps_pinned_of_traceable (settings : PoolSettings) (moored : Moored past tables)
    (traceable : deed.Traceable past) : deed.asked.Keeps settings (fun _ => True) Pinned := by
  have present {assigner : String} (same : deed.asked.assigner = some assigner) : assigner ≠ "" :=
    fun empty => traceable.named (empty ▸ same)
  obtain ⟨asked, outcome, seen⟩ := deed
  cases asked with
  | reserve assigner template provider =>
    constructor
    · intro synced target text devices _ _
      exact keeps_pinned_reconcile devices
    · intro found id
      exact keeps_pinned_reserve (present rfl) found id _
  | unreserve assigner template => exact keeps_pinned_release assigner template
  | addUsage device assigner => exact keeps_pinned_addConnection device assigner
  | decreaseUsage device assigner => exact keeps_pinned_removeConnection device assigner
  | restoreUsage device change =>
    obtain ⟨origin, made⟩ := traceable.restored device change rfl
    exact keeps_pinned_restoreUsage device (moored.anchored origin change made)
  | setUsage device usage => exact absurd rfl (traceable.kept device usage)
  | createTemplate request =>
    intro template paths providers _ _ _
    exact keeps_pinned_createTemplate template paths providers
  | editTemplate template request =>
    intro changes _
    exact keeps_pinned_editTemplate template changes
  | deleteTemplate template => exact keeps_pinned_deleteTemplate template
  | sync =>
    intro target text devices _ _
    exact keeps_pinned_reconcile devices

theorem moored_of_run {around : Surroundings} {scene : Scene} (moored : Moored past tables)
    (traceable : deed.Traceable past)
    (run : (Pool.perform settings deed.asked).run.alone around { tables } =
      (some deed.outcome, scene)) : Moored (past ++ [deed]) scene.tables where
  pinned := by
    have keeps := keeps_pinned_of_traceable settings moored traceable
    exact keeps.preserves.alone run moored.pinned fun _ _ => trivial
  anchored origin change made := by
    obtain ⟨other, member, ⟨assigner, asked⟩, answered⟩ := made
    rcases List.mem_append.1 member with earlier | last
    · exact moored.anchored origin change ⟨other, earlier, ⟨assigner, asked⟩, answered⟩
    · obtain rfl := List.mem_singleton.1 last
      rw [asked, answered] at run
      obtain ⟨_, ⟨⟩, done⟩ := Pool.addConnection_of_run run
      exact Tables.anchored_of_addConnection moored.pinned done

theorem moored_of_history (moored : Moored past tables)
    (history : History (Pool.perform settings) tables deeds after)
    (traceable : Throughout Deed.Traceable past deeds) : Moored (past ++ deeds) after := by
  induction deeds generalizing past tables with
  | nil =>
    obtain rfl := History.nil_iff.1 history
    rwa [List.append_nil]
  | cons deed rest ih =>
    obtain ⟨around, scene, run, _, later⟩ := History.cons_iff.1 history
    obtain ⟨first, others⟩ := throughout_cons_iff.1 traceable
    have := ih (moored_of_run moored first run) later others
    rwa [List.append_assoc] at this

/-- **Whatever is asked of the pool, a device that is in use under a template is on a path of that
template, and the template is there; a device that is not in use belongs to nobody.** -/
theorem devices_in_use_stay_with_template
    (history : History (Pool.perform settings) ∅ deeds tables)
    (traceable : Throughout Deed.Traceable [] deeds) {id : DeviceId} {record : DeviceRecord}
    (stored : tables.devices.get? id = some record) :
    (record.isInUse = true → record.template ≠ "" →
      (∃ template, tables.templates.get? record.template = some template) ∧
        ∃ path ids, (tables.pathsOf record.template).get? path = some ids ∧
          ids.contains record.id = true) ∧
    (record.isInUse = false → record.assigner = "" ∧ record.template = "") := by
  have pinned := (moored_of_history moored_empty history traceable).pinned
  have own := (pinned.sound id record stored).own_id
  have usage := pinned.pinned id record stored
  constructor
  · intro inUse named
    obtain ⟨there, listed⟩ := usage.offered (DeviceRecord.isInUse_iff.1 inUse) named
    rw [own]
    exact ⟨there, Tables.mem_devicesOf.1 listed⟩
  · intro idle
    refine usage.vacant fun inUse => ?_
    rw [DeviceRecord.isInUse_iff.2 inUse] at idle
    cases idle

end Histories

/-! ## An edit in between -/

namespace Sample

/-- The device is to leave its template while `A` is connected to it. -/
def edited := next (.editTemplate "T" { devices := some "1b00" }) joined.2

/-- `A` takes the connection back after that. -/
def reverted := next (.restoreUsage device ⟨⟨"A", true, 0, "T"⟩, ⟨"A", true, 1, "T"⟩⟩) edited.2

end Sample

/-- The edit is refused, so the device that `A` goes on holding is still one of its template. -/
theorem devices_in_use_stay_with_template_through_edit :
    Sample.edited.1.outcome.isOk = false ∧
      Sample.reverted.2.devices.get? Sample.device = some Sample.owned ∧
      (∃ template, Sample.reverted.2.templates.get? "T" = some template) ∧
      ∃ path ids, (Sample.reverted.2.pathsOf "T").get? path = some ids ∧
        ids.contains Sample.device = true := by
  have states : (∀ ran ∈ [Sample.made, Sample.synced, Sample.taken, Sample.joined,
        Sample.edited, Sample.reverted], ran.1.outcome ≠ .error default) ∧
      Sample.joined.1.outcome = .ok (.change ⟨⟨"A", true, 0, "T"⟩, ⟨"A", true, 1, "T"⟩⟩) ∧
      Sample.edited.1.outcome.isOk = false ∧
      Sample.reverted.2.devices.get? Sample.device = some Sample.owned := by decide +kernel
  obtain ⟨ended, connected, refused, stored⟩ := states
  simp only [List.forall_mem_cons] at ended
  obtain ⟨ended₁, ended₂, ended₃, ended₄, ended₅, ended₆, -⟩ := ended
  have history : History (Pool.perform Sample.settings.pool) ∅ [Sample.made.1, Sample.synced.1,
      Sample.taken.1, Sample.joined.1, Sample.edited.1, Sample.reverted.1] Sample.reverted.2 := by
    refine history_of_carryOut rfl (ended_of_ne_default ended₁) ?_
    refine history_of_carryOut rfl (ended_of_ne_default ended₂) ?_
    refine history_of_carryOut rfl (ended_of_ne_default ended₃) ?_
    refine history_of_carryOut rfl (ended_of_ne_default ended₄) ?_
    refine history_of_carryOut rfl (ended_of_ne_default ended₅) ?_
    exact history_of_carryOut rfl (ended_of_ne_default ended₆) (.rest _)
  have traceable : Throughout Deed.Traceable [] [Sample.made.1, Sample.synced.1,
      Sample.taken.1, Sample.joined.1, Sample.edited.1, Sample.reverted.1] := by
    refine throughout_cons_iff.2 ⟨⟨by decide, nofun, nofun⟩, ?_⟩
    refine throughout_cons_iff.2 ⟨⟨by decide, nofun, nofun⟩, ?_⟩
    refine throughout_cons_iff.2 ⟨⟨by decide, nofun, nofun⟩, ?_⟩
    refine throughout_cons_iff.2 ⟨⟨by decide, nofun, nofun⟩, ?_⟩
    refine throughout_cons_iff.2 ⟨⟨by decide, nofun, nofun⟩, ?_⟩
    refine throughout_cons_iff.2 ⟨⟨by decide, nofun, ?_⟩, throughout_nil⟩
    intro device change same
    obtain rfl : _ = change := (PoolRequest.restoreUsage.inj same).2
    exact ⟨Sample.device, Sample.joined.1, by simp, ⟨"A", rfl⟩, connected⟩
  obtain ⟨inUse, _⟩ := devices_in_use_stay_with_template history traceable stored
  exact ⟨refused, stored, inUse (by decide) (by decide)⟩

end FibrePool
