import FibrePool.Proofs.LeastPaths
import FibrePool.Proofs.Orders

/-!
# Editing a template into itself

A client that edits a template reads its summary, changes what it wants to change and sends all of
it back.  So an edit that says what the summary says must change nothing, and it must not be refused,
even though the devices of a template that is in use cannot be changed.

Several things have to fit for that.  The range expression of a summary is read back to the very
paths it was written from, so the edit does not count as a change of devices.  The default of the
host is taken from every template and given back to this one, which is right as long as no other has
it.  The providers are bound anew, to the same template.  And the fewest paths that a reservation
must cover are no more than the template has.  All of this is part of what is true of the template
tables in every state (`Tables.TemplatesSound`), whoever asks for whatever
(`Scheduler.Reached.templatesSound_of_orders`).
-/

namespace FibrePool

set_option autoImplicit false

/-! ## Template tables under any orders -/

/-- No order unsettles the template tables. -/
theorem Order.preserves_templatesSound (settings : OperatorSettings) (order : Order) :
    (order.perform settings).Preserves (fun _ => True) Tables.TemplatesSound := by
  have upkeep := templatesSound_upkeep fun _ => True
  have deviceless := Tables.TemplatesSound.deviceless
  cases order with
  | pool request =>
    exact (PoolRequest.preserves_of_templates deviceless upkeep.creates
      (fun id _ _ changes _ => upkeep.edits id changes) upkeep.deletes).map _
  | operator action =>
    exact (Volume.dispatch_preserves (Volume.run_preserves settings upkeep
      (usageChangesKeep_templates deviceless) action)).map _

/-- **Whatever has been ordered and is under way, the template tables are sound.** -/
theorem Scheduler.Reached.templatesSound_of_orders {settings : OperatorSettings}
    {scheduler : Scheduler (Outcome Reply)} (reached : scheduler.Reached (Ordered settings)) :
    scheduler.store.tables.TemplatesSound := by
  refine reached.tables Tables.templatesSound_empty ?_
  rintro program ⟨order, rfl⟩
  exact (order.preserves_templatesSound settings).keeps

/-! ## The edit that a summary says -/

/-- The edit that sets everything as the summary has it. -/
def TemplateSummary.resubmission (summary : TemplateSummary) : TemplateEdit where
  name := some summary.template.name
  description := some summary.template.description
  devices := some summary.devices
  hostDefault := some summary.template.hostDefault
  providers := some summary.providers
  leastPaths := summary.template.leastPaths

namespace Tables

variable {tables : Tables} {id : String} {template : Template}

/-- Binding the providers that a template has anyway. -/
theorem bindProviders_bindingsOf (tables : Tables) (id : String) :
    tables.bindProviders id (tables.bindingsOf id) = tables := by
  have same : (tables.bindProviders id (tables.bindingsOf id)).providers = tables.providers := by
    refine OrderedMap.ext_get? fun provider => ?_
    rw [get?_bindProviders]
    split
    · next own => exact (mem_bindingsOf.1 own).symm
    · next other => exact filter_bne_of_ne fun own => other (mem_bindingsOf.2 own)
  exact congrArg (fun providers => { tables with providers }) same

namespace TemplatesSound

variable (sound : tables.TemplatesSound) (stored : tables.templates.get? id = some template)

include sound stored

/-- A template that is there has paths. -/
theorem get?_paths : tables.paths.get? id = some (tables.pathsOf id) := by
  obtain ⟨paths, mapped⟩ := (sound.exists_paths_iff id).2 ⟨template, stored⟩
  rw [pathsOf, mapped, Option.getD_some]

/-- Filing a template in its own place.  When it is the default of the host, no other template is
there to lose it. -/
theorem insert_cleared : (if template.hostDefault = true then tables.clearHostDefault
    else tables).templates.insert id template = tables.templates := by
  split
  · next isDefault =>
    refine OrderedMap.ext_get? fun probe => ?_
    by_cases same : probe = id
    · rw [same, OrderedMap.get?_insert_self, stored]
    · rw [OrderedMap.get?_insert_of_ne _ same, clearHostDefault, OrderedMap.get?_mapValues]
      cases found : tables.templates.get? probe with
      | none => rfl
      | some other =>
        have lacks : other.hostDefault = false := Bool.eq_false_iff.2 fun also =>
          same (sound.one_default probe other id template found stored also isDefault)
        rw [Option.map_some, ← lacks]
  · exact OrderedMap.insert_of_get? stored

/-- **The edit that a summary says changes nothing**, and it is not refused. -/
theorem editTemplate_resubmission :
    editTemplate id ((tables.summary template).resubmission.changes (some (tables.pathsOf id)))
      tables = .ok (template, tables) := by
  obtain rfl : template.id = id := sound.filed id template stored
  let changes := (tables.summary template).resubmission.changes (some (tables.pathsOf template.id))
  have still : edited changes template = template := by
    have kept : (template.leastPaths <|> template.leastPaths) = template.leastPaths := by
      cases template.leastPaths <;> rfl
    exact congrArg (fun leastPaths => { template with leastPaths }) kept
  -- The paths are those that it has, so it does not matter whether the template is in use.
  have placed : tables.changePaths template.id (tables.pathsOf template.id) = .ok tables :=
    if_pos (sound.get?_paths stored)
  have covered : ∀ least, (edited changes template).leastPaths = some least →
      least ≤ (tables.pathsOf template.id).size := by
    rw [still]
    exact fun least => sound.covered template.id template least stored
  have templates : (if some template.hostDefault = some true then tables.clearHostDefault
      else tables).templates.insert template.id template = tables.templates := by
    simp only [Option.some.injEq]
    exact sound.insert_cleared stored
  have providers := congrArg Tables.providers (bindProviders_bindingsOf tables template.id)
  refine (editTemplate_of_parts stored placed covered).trans ?_
  rw [still]
  show Except.ok (template, ({ tables with
    templates := (if some template.hostDefault = some true then tables.clearHostDefault
      else tables).templates.insert template.id template
    providers := (tables.bindProviders template.id (tables.bindingsOf template.id)).providers } :
      Tables)) = .ok (template, tables)
  rw [templates, providers]

end TemplatesSound

end Tables

/-! ## Sending a summary back -/

open Workflow in
/-- **Sending a summary back changes nothing.**  In every state, a template that is there can be
summarized, and the edit that says what the summary says succeeds, be the template in use or not,
and leaves all tables exactly as they were.  Its answer is the summary that was sent. -/
theorem resubmitting_summary_changes_nothing {settings : OperatorSettings}
    {scheduler : Scheduler (Outcome Reply)} (reached : scheduler.Reached (Ordered settings))
    {id : String} {template : Template}
    (stored : scheduler.store.tables.templates.get? id = some template)
    (around : Surroundings) :
    (Pool.summarize template).Ends around { tables := scheduler.store.tables }
      (fun summary read => read.tables = scheduler.store.tables ∧ summary.template = template ∧
        ∀ around', (Pool.editTemplate id summary.resubmission).Ends around'
          { tables := read.tables }
          (fun answer after => answer = summary ∧ after.tables = scheduler.store.tables)
          fun _ _ => False)
      fun _ _ => False := by
  have sound := reached.templatesSound_of_orders
  generalize scheduler.store.tables = tables at sound stored ⊢
  obtain rfl : template.id = id := sound.filed id template stored
  rw [Pool.ends_summarize, Tables.template_eq_ok.2 stored]
  refine ⟨rfl, rfl, fun around' => ?_⟩
  have asked : (tables.summary template).resubmission.paths =
      .ok (some (tables.pathsOf template.id)) :=
    congrArg (some <$> ·)
      (Ranges.expand_collapsePaths (sound.numbered template.id _ (sound.get?_paths stored)))
  rw [Pool.ends_editTemplate sound.filed, asked]
  dsimp only
  rw [sound.editTemplate_resubmission stored]
  exact ⟨rfl, rfl⟩

namespace Sample

/-- A template that is the default of the host and of two providers, and one of whose devices is
reserved. -/
def employed : Scheduler (Outcome Reply) :=
  serving settings (.ok (listingOf [("1A00", "Free")]))
    [.pool .sync, .pool (.createTemplate
      { devices := "1b00-1b03,1b05;1a00", hostDefault := true, providers := ["P", "Q"],
        leastPaths := some 1 }), .pool (.reserve "A" none (some "Q"))]

/-- What is said of that template. -/
def account : TemplateSummary where
  template := ⟨"T", "", "", true, some 1, default⟩
  providers := ["P", "Q"]
  devices := "1B00-1B03,1B05;1A00"
  pathCount := 2

end Sample

/-- The summary of a template in use can be sent back. -/
theorem resubmitting_summary_of_employed_template :
    Sample.employed.store.tables.devicesInUse "T" = [Sample.device] ∧
    ∃ read, (Pool.summarize Sample.account.template).run.alone Sample.refusing
        { tables := Sample.employed.store.tables } = (some (.ok Sample.account), read) ∧
      (Pool.editTemplate "T" Sample.account.resubmission).Ends Sample.refusing
        { tables := read.tables }
        (fun answer after => answer = Sample.account ∧
          after.tables = Sample.employed.store.tables)
        fun _ _ => False := by
  have reached : Sample.employed.Reached (Ordered Sample.settings) := Sample.serving_reached _ _ _
  obtain ⟨inUse, stored, said⟩ :
      Sample.employed.store.tables.devicesInUse "T" = [Sample.device] ∧
      Sample.employed.store.tables.templates.get? "T" = some Sample.account.template ∧
      ((Pool.summarize Sample.account.template).run.alone Sample.refusing
        { tables := Sample.employed.store.tables }).1 = some (.ok Sample.account) := by
    decide +kernel
  obtain ⟨read, run⟩ := Sample.exists_run said
  have sent := (resubmitting_summary_changes_nothing reached stored Sample.refusing).of_ok run
  exact ⟨inUse, read, run, sent.2.2 Sample.refusing⟩

end FibrePool
