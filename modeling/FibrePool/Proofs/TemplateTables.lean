import FibrePool.Proofs.Conduct
import FibrePool.Proofs.RecordStep
import FibrePool.Proofs.Schedule

/-!
# The tables of templates

Reconciliations, reservations and changes of usage touch nothing but the records of devices.  What
is true of templates is therefore a matter of making, editing and dropping them, and each template
stays filed under its own id.
-/

namespace FibrePool

set_option autoImplicit false

/-- The transaction changes the records of devices only. -/
def Transaction.OnlyDevices {α : Type} (change : Transaction α) : Prop :=
  ∀ ⦃tables : Tables⦄ ⦃result : α⦄ ⦃after : Tables⦄, change tables = .ok (result, after) →
    ∃ devices, after = { tables with devices }

namespace Tables

theorem upsertAll_onlyDevices (tables : Tables) (devices : List LiveDevice) :
    ∃ records, (tables.upsertAll devices).2 = { tables with devices := records } := by
  induction devices generalizing tables with
  | nil => exact ⟨tables.devices, rfl⟩
  | cons device rest ih =>
    obtain ⟨records, later⟩ := ih (tables.upsertOne device).2
    refine ⟨records, later.trans ?_⟩
    unfold upsertOne
    split <;> rfl

theorem onlyDevices_reconcile (devices : List LiveDevice) : (reconcile devices).OnlyDevices := by
  intro tables outcome after done
  unfold reconcile at done
  simp only [Except.ok.injEq, Prod.mk.injEq] at done
  obtain ⟨records, upserted⟩ := upsertAll_onlyDevices tables devices
  rw [← done.2, upserted]
  exact ⟨_, rfl⟩

theorem onlyDevices_reserveOne (assigner template : String) (id : DeviceId) :
    (reserveOne assigner template id).OnlyDevices := by
  intro tables result after done
  obtain ⟨_, _, _, _, rfl⟩ := reserveOne_eq_ok.1 done
  exact ⟨_, rfl⟩

theorem onlyDevices_reserveAll (assigner template : String) (ids : List DeviceId) :
    (reserveAll assigner template ids).OnlyDevices := by
  induction ids with
  | nil =>
    intro tables results after done
    cases done
    exact ⟨tables.devices, rfl⟩
  | cons id rest ih =>
    intro tables results after done
    obtain ⟨_, middle, _, one, all, _⟩ := reserveAll_cons_eq_ok.1 done
    obtain ⟨_, rfl⟩ := onlyDevices_reserveOne assigner template id one
    obtain ⟨records, rfl⟩ := ih all
    exact ⟨records, rfl⟩

theorem onlyDevices_reserve (assigner : String) (found : Template) (id : String)
    (pairing : Bool) : (reserve assigner found id pairing).OnlyDevices := by
  intro tables results after done
  obtain ⟨_, chosen, _, all⟩ := reserveWith_eq_ok.1 done
  exact onlyDevices_reserveAll assigner id chosen all

theorem onlyDevices_release (assigner template : String) :
    (release assigner template).OnlyDevices := by
  intro tables results after done
  obtain ⟨_, rfl⟩ := modifyWhere_eq_ok done
  exact ⟨_, rfl⟩

theorem onlyDevices_modifyRecord (id : DeviceId) (change : DeviceRecord → Outcome DeviceRecord) :
    (modifyRecord id change).OnlyDevices := by
  intro tables result after done
  obtain ⟨_, _, _, _, rfl⟩ := modifyRecord_eq_ok.1 done
  exact ⟨_, rfl⟩

theorem onlyDevices_addConnection (id : DeviceId) (assigner : String) :
    (addConnection id assigner).OnlyDevices := by
  intro tables change after done
  obtain ⟨_, _, _, _, _, _, rfl⟩ := addConnection_eq_ok.1 done
  exact ⟨_, rfl⟩

theorem onlyDevices_setUsage (id : DeviceId) (usage : Usage) :
    (setUsage id usage).OnlyDevices := by
  intro tables result after done
  obtain ⟨_, _, _, rfl⟩ := setUsage_eq_ok.1 done
  exact ⟨_, rfl⟩

end Tables

/-! ## Statements about templates -/

/-- The statement says nothing about the records of devices. -/
def Tables.Deviceless (inv : Tables → Prop) : Prop :=
  ∀ (tables : Tables) (devices : OrderedMap DeviceId DeviceRecord),
    inv tables → inv { tables with devices }

section Templates

variable {inv : Tables → Prop} (deviceless : Tables.Deviceless inv)

include deviceless

theorem Transaction.OnlyDevices.keeps {α : Type} {change : Transaction α}
    (only : change.OnlyDevices) : change.Keeps inv := by
  intro tables result after start done
  obtain ⟨devices, rfl⟩ := only done
  exact deviceless tables devices start

open Tables in
/-- A statement that says nothing about devices is kept by all upkeep when the life of templates
keeps it. -/
theorem upkeepKeeps_of_templates {expected : Observation → Prop} (creates : Creates expected inv)
    (edits : ∀ id, Edits inv id) (deletes : ∀ id, (deleteTemplate id).Keeps inv) :
    UpkeepKeeps expected inv where
  reconciles _ _ devices _ _ := (onlyDevices_reconcile devices).keeps deviceless
  reserves assigner found id pairing _ :=
    (onlyDevices_reserve assigner found id pairing).keeps deviceless
  releases assigner template := (onlyDevices_release assigner template).keeps deviceless
  creates := creates
  edits := edits
  deletes := deletes

open Tables in
theorem usageChangesKeep_templates : UsageChangesKeep inv where
  connects assigner id _ := (onlyDevices_addConnection id assigner).keeps deviceless
  restores id change := (onlyDevices_modifyRecord id (restored change)).keeps deviceless
  disconnects id assigner := (onlyDevices_modifyRecord id (disconnected assigner)).keeps deviceless
  overwrites id usage := (onlyDevices_setUsage id usage).keeps deviceless

end Templates

namespace Tables

/-! ## Templates under their own ids -/

/-- Every template is filed under its own id. -/
def TemplatesFiled (tables : Tables) : Prop :=
  ∀ id template, tables.templates.get? id = some template → template.id = id

theorem templatesFiled_empty : TemplatesFiled ∅ := by
  intro id template stored
  cases stored

section Filing

variable {tables after : Tables} {clears : Prop} [Decidable clears] {id : String}
  {filed : String} {template : Template}

/-- A look-up after a template was filed, where the default of the host may have been taken from the
others before. -/
theorem get?_file (same : after.templates = ((if clears then tables.clearHostDefault
      else tables).templates.insert filed template)) :
    after.templates.get? id =
      if id = filed then some template
      else (tables.templates.get? id).map fun old =>
        { old with hostDefault := if clears then false else old.hostDefault } := by
  rw [same]
  by_cases here : id = filed
  · rw [here, if_pos rfl, OrderedMap.get?_insert_self]
  · rw [if_neg here, OrderedMap.get?_insert_of_ne _ here]
    by_cases cleared : clears
    · simp only [if_pos cleared, clearHostDefault, OrderedMap.get?_mapValues]
    · simp [if_neg cleared]

/-- Filing a template leaves the others, and itself, in the table. -/
theorem exists_template_of_file (same : after.templates = ((if clears then tables.clearHostDefault
      else tables).templates.insert filed template))
    (there : ∃ found, tables.templates.get? id = some found) :
    ∃ found, after.templates.get? id = some found := by
  obtain ⟨found, stored⟩ := there
  rw [get?_file same, stored]
  split <;> exact ⟨_, rfl⟩

/-- Filing one more template under its own id, after the default of the host may have been taken
from the others. -/
theorem TemplatesFiled.insert (kept : tables.TemplatesFiled) (own : template.id = filed)
    (same : after.templates = ((if clears then tables.clearHostDefault
      else tables).templates.insert filed template)) : after.TemplatesFiled := by
  intro other found stored
  rw [get?_file same] at stored
  split at stored
  · next here =>
    cases stored
    exact own.trans here.symm
  · obtain ⟨old, before, rfl⟩ := Option.map_eq_some_iff.1 stored
    exact kept other old before

/-- Filing a template leaves every other id without one. -/
theorem get?_none_of_insert (absent : tables.templates.get? id = none) (different : id ≠ filed)
    (same : after.templates = ((if clears then tables.clearHostDefault
      else tables).templates.insert filed template)) : after.templates.get? id = none := by
  rw [get?_file same, if_neg different, absent, Option.map_none]

end Filing

/-! ## Bindings -/

theorem filter_bne_of_ne {bound : Option String} {template : String}
    (apart : bound ≠ some template) : bound.filter (· != template) = bound := by
  cases bound with
  | none => rfl
  | some other => exact if_pos (bne_iff_ne.2 fun same => apart (congrArg some same))

theorem mem_bindingsOf {tables : Tables} {template provider : String} :
    provider ∈ tables.bindingsOf template ↔ tables.providers.get? provider = some template := by
  rw [bindingsOf, List.mem_map]
  constructor
  · rintro ⟨⟨provider, bound⟩, listed, rfl⟩
    obtain ⟨filed, same⟩ := List.mem_filter.1 listed
    rw [← beq_iff_eq.1 same]
    exact OrderedMap.mem_entries_iff.1 filed
  · intro bound
    exact ⟨(provider, template),
      List.mem_filter.2 ⟨OrderedMap.mem_entries_iff.2 bound, beq_self_eq_true template⟩, rfl⟩

/-- A binding takes over the providers of the template: those that are listed are its own, and no
other that was. -/
theorem get?_bindProviders (tables : Tables) (template : String) (providers : List String)
    (provider : String) : (tables.bindProviders template providers).providers.get? provider =
      if provider ∈ providers then some template
      else (tables.providers.get? provider).filter (· != template) := by
  rw [bindProviders, OrderedMap.get?_foldl_insert_const, OrderedMap.get?_filter]

end Tables

open Tables in
theorem templatesFiled_upkeep (expected : Observation → Prop) :
    UpkeepKeeps expected TemplatesFiled := by
  refine upkeepKeeps_of_templates (fun _ _ => id) ?_ ?_ ?_
  · intro template paths providers _ _ _ tables result after filed done
    exact TemplatesFiled.insert filed rfl (createTemplate_eq_ok done).2.2.1
  · intro id changes _ tables result after filed done
    obtain ⟨old, found, same, _, templates⟩ := editTemplate_eq_ok done
    exact TemplatesFiled.insert filed (same.trans (filed id old found)) templates
  · intro id tables result after filed done other template stored
    rw [(deleteTemplate_eq_ok done).2.2.1] at stored
    by_cases equal : other = id
    · rw [equal, OrderedMap.get?_erase_self] at stored
      cases stored
    · rw [OrderedMap.get?_erase_of_ne _ equal] at stored
      exact filed other template stored

theorem templatesFiled_usageChanges : UsageChangesKeep Tables.TemplatesFiled :=
  usageChangesKeep_templates fun _ _ => id

/-! ## Templates without an id -/

/-- The id of a template that is stamped is not empty. -/
def Observation.StampsNamed : Observation → Prop
  | .stamped fresh => fresh.id ≠ ""
  | _ => True

instance : DecidablePred Observation.StampsNamed
  | .stamped fresh => inferInstanceAs (Decidable (fresh.id ≠ ""))
  | .called _ _ | .told _ | .measured _ => .isTrue trivial

open Tables in
/-- No template gets the empty id as long as no stamp has it. -/
theorem unnamed_upkeep : UpkeepKeeps Observation.StampsNamed
    fun tables => tables.templates.get? "" = none := by
  refine upkeepKeeps_of_templates (fun _ _ => id) ?_ ?_ ?_
  · intro template paths providers named _ _ tables result after absent done
    exact get?_none_of_insert absent (Ne.symm named) (createTemplate_eq_ok done).2.2.1
  · intro id changes _ tables result after absent done
    obtain ⟨old, found, _, _, templates⟩ := editTemplate_eq_ok done
    refine get?_none_of_insert absent ?_ templates
    rintro rfl
    cases absent.symm.trans found
  · intro id tables result after absent done
    rw [(deleteTemplate_eq_ok done).2.2.1]
    by_cases equal : "" = id
    · rw [equal, OrderedMap.get?_erase_self]
    · rw [OrderedMap.get?_erase_of_ne _ equal]
      exact absent

theorem Scheduler.Reached.templatesFiled {settings : OperatorSettings}
    {scheduler : Scheduler (Outcome Output)}
    (reached : scheduler.Reached (Volume.Dispatched settings)) :
    scheduler.store.tables.TemplatesFiled :=
  reached.dispatched_tables Tables.templatesFiled_empty (templatesFiled_upkeep _)
    templatesFiled_usageChanges

end FibrePool
