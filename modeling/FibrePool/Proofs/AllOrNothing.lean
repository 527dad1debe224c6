import FibrePool.Proofs.Resolution
import FibrePool.Proofs.Solo
import FibrePool.Proofs.TemplateTables
import FibrePool.Proofs.Unwinding

/-!
# All or nothing

An action that fails leaves the tables as they were before it.  An operation of the pool has one
transaction, and what comes after it cannot fail: the summary of a template only needs the template
to be filed under its own id.  Attaching and detaching unwind.  The one exception is a detach that
fails after the guest has removed the volume.

The reconciliation before a reservation is a transaction of its own, so the statement is about
operators that do without it.  It is made of the action alone, and carried over to a scheduler in
which no other task takes a step (`Scheduler.Solo.allOrNothing`).
-/

namespace FibrePool

set_option autoImplicit false

open Workflow

/-- The workflow comes to an end, and when that is a failure the tables are as they were. -/
def Workflow.AllOrNothing {α : Type} (around : Surroundings) (scene : Scene)
    (workflow : Workflow α) : Prop :=
  workflow.Ends around scene (fun _ _ => True) fun _ after => after.tables = scene.tables

/-- The paths that an edit asks for, if it asks for any. -/
def TemplateEdit.paths (request : TemplateEdit) : Outcome (Option PathMap) :=
  match request.devices with
  | some devices => some <$> Ranges.expand devices
  | none => pure none

/-- What an edit changes, with the paths that it asks for. -/
def TemplateEdit.changes (request : TemplateEdit) (paths : Option PathMap) : TemplateChanges where
  name := request.name
  description := request.description
  paths
  hostDefault := request.hostDefault
  providers := request.providers
  leastPaths := request.leastPaths

namespace Pool

variable {around : Surroundings} {scene : Scene}

/-! ## Operations of the pool -/

theorem sync_allOrNothing (settings : PoolSettings) :
    (sync settings).AllOrNothing around scene := by
  unfold AllOrNothing sync
  rw [ends_holding, ends_bind, ends_call]
  split
  · rw [ends_bind, ends_ofOutcome]
    split
    · rw [ends_bind, ends_commit]
      simp only [Tables.reconcile, ends_bind, ends_emit, ends_pure]
    · rfl
  · rfl

/-- A reservation is one transaction on the template that is meant, on tables with everything that a
reconciliation keeps, and it keeps that too when it fails; without a reconciliation before it, it
fails only as the transaction does, and leaves the tables as they were. -/
theorem reserve_ends {settings : PoolSettings} {inv : Tables → Prop}
    (reconciles : Reconciles (fun _ => True) inv) (holds : inv scene.tables) (assigner : String)
    (template provider : Option String) :
    (reserve settings assigner template provider).Ends around scene
      (fun reservation after =>
        scene.tables.resolved template provider = .ok reservation.template ∧ ∃ found ready,
          scene.tables.templates.get? reservation.template = some found ∧ inv ready ∧
          (settings.syncBeforeReserve = false → ready = scene.tables) ∧
          Tables.reserve assigner found reservation.template settings.sameIndexPairing ready =
            .ok (reservation.devices, after.tables))
      fun failure after => inv after.tables ∧ (settings.syncBeforeReserve = false →
        after.tables = scene.tables ∧
        ∀ id found, scene.tables.resolved template provider = .ok id →
          scene.tables.templates.get? id = some found →
          Tables.reserve assigner found id settings.sameIndexPairing scene.tables =
            .error failure) := by
  have reserving (found : Template) (id : String) (now : Scene) : Ends around (do
        let devices ← commit (Tables.reserve assigner found id settings.sameIndexPairing)
        if !devices.isEmpty then
          emit (.devicesReserved assigner id (devices.map (·.id.text)))
        return ({ template := id, devices } : Reservation)) now
        (fun reservation after => reservation.template = id ∧
          Tables.reserve assigner found id settings.sameIndexPairing now.tables =
            .ok (reservation.devices, after.tables))
        fun failure after => after = now ∧
          Tables.reserve assigner found id settings.sameIndexPairing now.tables =
            .error failure := by
    rw [ends_bind, ends_commit]
    split
    · next devices tables done =>
      split
      · rw [ends_bind, ends_emit]
        exact (ends_pure _).2 ⟨rfl, done⟩
      · exact (ends_pure _).2 ⟨rfl, done⟩
    · next failure failed => exact ⟨rfl, failed⟩
  unfold reserve
  rw [ends_bind, ends_resolve]
  split
  · next id meant =>
    rw [ends_bind, ends_askFor]
    split
    · next found there =>
      have stored := Tables.template_eq_ok.1 there
      dsimp only
      split
      · next synced =>
        have reconciled (unsynced : settings.syncBeforeReserve = false) : False :=
          absurd synced (Bool.eq_false_iff.1 unsynced)
        rw [ends_bind]
        refine ((sync_preserves settings reconciles).ends holds
          (sync_allOrNothing settings)).mono (fun _ now ended => ?_)
          fun _ _ failed => ⟨failed.1, fun unsynced => (reconciled unsynced).elim⟩
        refine (reserving found id now).mono ?_ ?_
        · rintro reservation after ⟨rfl, done⟩
          exact ⟨meant, found, now.tables, stored, ended.1,
            fun unsynced => (reconciled unsynced).elim, done⟩
        · rintro failure _ ⟨rfl, _⟩
          exact ⟨ended.1, fun unsynced => (reconciled unsynced).elim⟩
      · refine (reserving found id scene).mono ?_ ?_
        · rintro reservation after ⟨rfl, done⟩
          exact ⟨meant, found, scene.tables, stored, holds, fun _ => rfl, done⟩
        · rintro failure _ ⟨rfl, failed⟩
          refine ⟨holds, fun _ => ⟨rfl, fun id' found' meant' stored' => ?_⟩⟩
          cases meant.symm.trans meant'
          cases stored.symm.trans stored'
          exact failed
    · next failure absent =>
      refine ⟨holds, fun _ => ⟨rfl, fun id' found' meant' stored' => ?_⟩⟩
      cases meant.symm.trans meant'
      cases absent.symm.trans (Tables.template_eq_ok.2 stored')
  · next failure unmeant =>
    exact ⟨holds, fun _ => ⟨rfl, fun id' found' meant' _ => by cases unmeant.symm.trans meant'⟩⟩

/-- Without a reconciliation, a reservation is its transaction on the tables as they are. -/
theorem reserve_ends_of_direct {settings : PoolSettings}
    (direct : settings.syncBeforeReserve = false) (assigner : String)
    (template provider : Option String) :
    (reserve settings assigner template provider).Ends around scene
      (fun reservation after =>
        scene.tables.resolved template provider = .ok reservation.template ∧ ∃ found,
          scene.tables.templates.get? reservation.template = some found ∧
          Tables.reserve assigner found reservation.template settings.sameIndexPairing
            scene.tables = .ok (reservation.devices, after.tables))
      fun failure after => after.tables = scene.tables ∧
        ∀ id found, scene.tables.resolved template provider = .ok id →
          scene.tables.templates.get? id = some found →
          Tables.reserve assigner found id settings.sameIndexPairing scene.tables =
            .error failure := by
  have anything : Reconciles (fun _ => True) fun _ => True := fun _ _ _ _ _ _ _ _ _ _ => trivial
  refine (reserve_ends anything trivial assigner template provider).mono ?_
    fun _ _ ended => ended.2 direct
  rintro reservation after ⟨meant, found, _, there, _, unsynced, done⟩
  rw [unsynced direct] at done
  exact ⟨meant, found, there, done⟩

theorem reserve_allOrNothing {settings : PoolSettings} (direct : settings.syncBeforeReserve = false)
    (assigner : String) (template provider : Option String) :
    (reserve settings assigner template provider).AllOrNothing around scene :=
  (reserve_ends_of_direct direct assigner template provider).mono (fun _ _ _ => trivial)
    fun _ _ failed => failed.1

/-- A release is one transaction; it only fails when no template is named, and nothing is told when
there was nothing to release. -/
theorem unreserve_ends (assigner template : String) :
    (unreserve assigner template).Ends around scene
      (fun released after => template ≠ "" ∧
        Tables.release assigner template scene.tables = .ok (released, after.tables))
      fun _ after => template = "" ∧ after = scene := by
  unfold unreserve
  split
  · next unnamed => exact (ends_bind _ _).2 ((ends_throw _).2 ⟨unnamed, rfl⟩)
  · next named =>
    obtain ⟨released, tables, done⟩ := Tables.exists_release assigner template scene.tables
    dsimp only
    rw [ends_bind, ends_commit, done]
    dsimp only
    split
    · rw [ends_bind, ends_emit]
      exact (ends_pure _).2 ⟨named, rfl⟩
    · exact (ends_pure _).2 ⟨named, rfl⟩

theorem unreserve_allOrNothing (assigner template : String) :
    (unreserve assigner template).AllOrNothing around scene :=
  (unreserve_ends assigner template).mono (fun _ _ _ => trivial) fun _ _ failed =>
    congrArg Scene.tables failed.2

theorem setUsage_allOrNothing (id : DeviceId) (usage : Usage) :
    (setUsage id usage).AllOrNothing around scene := by
  unfold AllOrNothing setUsage
  rw [ends_bind, ends_commit]
  split
  · rw [ends_emit]
    trivial
  · rfl

/-! ## Templates -/

/-- A stored template can always be summarized. -/
theorem summarize_ends {template found : Template}
    (stored : scene.tables.templates.get? template.id = some found) :
    (summarize template).Ends around scene
      (fun summary after => after = scene ∧ summary.template = template) fun _ _ => False := by
  rw [ends_summarize, Tables.template_eq_ok.2 stored]
  exact ⟨rfl, rfl⟩

/-- Making a template is one transaction, and afterwards the template can be summarized. -/
theorem createTemplate_ends (request : NewTemplate) :
    (createTemplate request).Ends around scene
      (fun summary after => summary.template.hostDefault = request.hostDefault ∧ ∃ paths,
        Tables.createTemplate summary.template paths request.providers scene.tables =
          .ok ((), after.tables))
      fun _ after => after.tables = scene.tables := by
  unfold createTemplate
  rw [ends_bind, ends_ofOutcome]
  split
  · next paths _ =>
    rw [ends_bind, ends_ofOutcome]
    split
    · rw [ends_bind, ends_stamp, ends_bind, ends_commit]
      split
      · next result tables done =>
        rw [ends_bind, ends_emit]
        have stored := Tables.template_of_createTemplate done
        refine (summarize_ends stored).mono ?_ fun _ _ => False.elim
        rintro summary after ⟨rfl, same⟩
        rw [same]
        exact ⟨rfl, paths, done⟩
      · rfl
    · rfl
  · rfl

theorem createTemplate_allOrNothing (request : NewTemplate) :
    (createTemplate request).AllOrNothing around scene :=
  (createTemplate_ends request).mono (fun _ _ _ => trivial) fun _ _ same => same

/-- **An edit is one transaction**, and afterwards the template can be summarized. -/
theorem ends_editTemplate (filed : scene.tables.TemplatesFiled) (id : String)
    (request : TemplateEdit) {good : TemplateSummary → Scene → Prop}
    {bad : Failure → Scene → Prop} :
    (editTemplate id request).Ends around scene good bad ↔
      match request.paths with
      | .error failure => bad failure scene
      | .ok paths =>
        match Tables.editTemplate id (request.changes paths) scene.tables with
        | .error failure => bad failure scene
        | .ok (template, tables) => good (tables.summary template)
            (Scene.note { scene with tables } (.told (.templateEdited id))) := by
  have afterwards (paths : Option PathMap) : Ends around (do
      let template ← commit (Tables.editTemplate id (request.changes paths))
      emit (.templateEdited id)
      summarize template) scene good bad ↔
      match Tables.editTemplate id (request.changes paths) scene.tables with
      | .error failure => bad failure scene
      | .ok (template, tables) => good (tables.summary template)
          (Scene.note { scene with tables } (.told (.templateEdited id))) := by
    rw [ends_bind, ends_commit]
    cases done : Tables.editTemplate id (request.changes paths) scene.tables with
    | error failure => exact Iff.rfl
    | ok changed =>
      obtain ⟨template, tables⟩ := changed
      obtain ⟨old, found, same, _, templates⟩ := Tables.editTemplate_eq_ok done
      have stored : tables.templates.get? template.id = some template := by
        rw [templates, same.trans (filed id old found)]
        exact OrderedMap.get?_insert_self _ _ _
      dsimp only
      rw [ends_bind, ends_emit, ends_summarize]
      dsimp only [Scene.note_tables]
      rw [Tables.template_eq_ok.2 stored]
  unfold editTemplate TemplateEdit.paths
  dsimp only
  cases request.devices with
  | none =>
    dsimp only
    rw [ends_bind, ends_pure]
    exact afterwards none
  | some devices =>
    dsimp only
    rw [ends_bind, ends_map, ends_ofOutcome]
    cases Ranges.expand devices with
    | error failure => exact Iff.rfl
    | ok paths => exact afterwards (some paths)

/-- What is left of an edit when the answer does not matter. -/
theorem editTemplate_ends (filed : scene.tables.TemplatesFiled) (id : String)
    (request : TemplateEdit) :
    (editTemplate id request).Ends around scene
      (fun _ after => ∃ changes template,
        Tables.editTemplate id changes scene.tables = .ok (template, after.tables))
      fun _ after => after.tables = scene.tables := by
  rw [ends_editTemplate filed]
  split
  · rfl
  · next paths _ =>
    split
    · rfl
    · next template tables done => exact ⟨request.changes paths, template, done⟩

theorem editTemplate_allOrNothing (filed : scene.tables.TemplatesFiled) (id : String)
    (request : TemplateEdit) : (editTemplate id request).AllOrNothing around scene :=
  (editTemplate_ends filed id request).mono (fun _ _ _ => trivial) fun _ _ same => same

/-- Dropping a template is one transaction. -/
theorem deleteTemplate_ends (id : String) :
    (deleteTemplate id).Ends around scene
      (fun _ after => Tables.deleteTemplate id scene.tables = .ok ((), after.tables))
      fun failure after => after = scene ∧
        Tables.deleteTemplate id scene.tables = .error failure := by
  unfold deleteTemplate
  rw [ends_bind, ends_commit]
  split
  · next done =>
    rw [ends_emit]
    exact done
  · next refused => exact ⟨rfl, refused⟩

theorem deleteTemplate_allOrNothing (id : String) :
    (deleteTemplate id).AllOrNothing around scene :=
  (deleteTemplate_ends id).mono (fun _ _ _ => trivial) fun _ _ refused =>
    congrArg Scene.tables refused.1

/-- Every template that is found is stored under its id. -/
theorem stored_of_mem_templatesBy {tables : Tables} (filed : tables.TemplatesFiled)
    {filter : TemplateFilter} {template : Template}
    (found : template ∈ tables.templatesBy filter) :
    tables.templates.get? template.id = some template := by
  have own {id : String} (stored : tables.templates.get? id = some template) :
      tables.templates.get? template.id = some template := filed id template stored ▸ stored
  have among {keep : Template → Bool} (member : template ∈ tables.templatesWhere keep) :
      tables.templates.get? template.id = some template := by
    have listed := List.mem_mergeSort.1 member
    obtain ⟨id, stored⟩ := OrderedMap.mem_values_iff.1 (List.mem_filter.1 listed).1
    exact own stored
  cases filter with
  | ids ids =>
    obtain ⟨id, _, stored⟩ := List.mem_filterMap.1 found
    exact own stored
  | all => exact among found
  | assigner name => exact among found
  | hostDefault => exact among found
  | providers names => exact among found

/-- Listing templates never fails, and every summary is that of a stored template. -/
theorem templates_ends (filed : scene.tables.TemplatesFiled) (filter : TemplateFilter) :
    (templates filter).Ends around scene
      (fun summaries after => after = scene ∧ ∀ summary ∈ summaries,
        ∃ found, scene.tables.templates.get? summary.template.id = some found)
      fun _ _ => False := by
  unfold templates
  rw [ends_bind, ends_ask]
  refine (ends_mapM_all (fun left after => after = scene ∧ ∀ template ∈ left,
      scene.tables.templates.get? template.id = some template)
    (fun summary : TemplateSummary => ∃ found,
      scene.tables.templates.get? summary.template.id = some found) ?_
    ⟨rfl, fun template member => stored_of_mem_templatesBy filed member⟩).mono
    (fun _ _ ended => ⟨ended.1.1, ended.2⟩) fun _ _ => id
  rintro template rest _ ⟨rfl, stored⟩
  have own := stored template List.mem_cons_self
  refine (summarize_ends own).mono (fun summary after ended => ?_) fun _ _ => id
  obtain ⟨rfl, same⟩ := ended
  exact ⟨⟨rfl, fun other member => stored other (List.mem_cons_of_mem _ member)⟩,
    template, same ▸ own⟩

theorem details_allOrNothing (filed : scene.tables.TemplatesFiled) (settings : PoolSettings)
    (ids : Option (List String)) (records statistics syncFirst : Bool) :
    (details settings ids records statistics syncFirst).AllOrNothing around scene := by
  have listed (known : OrderedMap DeviceId DeviceRecord) (summaries : List TemplateSummary)
      (now : Scene) (stored : ∀ summary ∈ summaries,
        ∃ found, now.tables.templates.get? summary.template.id = some found) :
      Ends around (summaries.mapM fun summary => do
        let paths ← askFor (·.pathMapping summary.template.id)
        let lists := paths.mapValues fun _ ids => ids.keys.filterMap known.get?
        return ({
          summary
          records := if records then some lists else none
          statistics := if statistics then some (Statistics.ofPaths paths known) else none } :
          TemplateDetails)) now (fun _ _ => True) fun _ _ => False := by
    refine (ends_mapM (fun left after => after = now ∧ ∀ summary ∈ left,
      ∃ found, now.tables.templates.get? summary.template.id = some found) ?_ ⟨rfl, stored⟩).mono
      (fun _ _ _ => trivial) fun _ _ => id
    rintro summary rest _ ⟨rfl, stored⟩
    obtain ⟨found, filed⟩ := stored summary List.mem_cons_self
    rw [ends_bind, ends_askFor, Tables.pathMapping, Tables.template_eq_ok.2 filed]
    exact (ends_pure _).2 ⟨rfl, fun other member => stored other (List.mem_cons_of_mem _ member)⟩
  have afterwards (now : Scene) (filed : now.tables.TemplatesFiled)
      (filter : TemplateFilter) : Ends around (do
        let summaries ← templates filter
        let known ← if records || statistics then ask recordsById else pure ∅
        summaries.mapM fun summary => do
          let paths ← askFor (·.pathMapping summary.template.id)
          let lists := paths.mapValues fun _ ids => ids.keys.filterMap known.get?
          return ({
            summary
            records := if records then some lists else none
            statistics := if statistics then some (Statistics.ofPaths paths known) else none } :
            TemplateDetails)) now (fun _ _ => True) fun _ _ => False := by
    rw [ends_bind]
    refine (templates_ends filed filter).mono ?_ fun _ _ => id
    rintro summaries _ ⟨rfl, stored⟩
    dsimp only
    split
    · rw [ends_bind, ends_ask]
      exact listed _ summaries _ stored
    · rw [ends_bind, ends_pure]
      exact listed ∅ summaries _ stored
  unfold AllOrNothing details
  dsimp only
  split
  · rw [ends_bind]
    have synced : (sync settings).Preserves (fun _ => True) Tables.TemplatesFiled :=
      sync_preserves settings (templatesFiled_upkeep _).reconciles
    refine (synced.ends filed (sync_allOrNothing settings)).mono (fun _ after ended => ?_)
      fun _ _ ended => ended.2
    exact (afterwards after ended.1 _).mono (fun _ _ _ => trivial) fun _ _ => False.elim
  · exact (afterwards scene filed _).mono (fun _ _ _ => trivial) fun _ _ => False.elim

end Pool

/-! ## Actions -/

namespace Volume

variable {around : Surroundings} {scene : Scene} {settings : OperatorSettings}

theorem connector_allOrNothing (direct : settings.pool.syncBeforeReserve = false)
    (request : ConnectorRequest) : (connector settings request).AllOrNothing around scene := by
  unfold AllOrNothing connector
  rw [ends_bind, ends_ofOutcome]
  split
  · next assigner _ =>
    rw [ends_holding]
    dsimp only
    split
    · rw [ends_bind, ends_adapt]
      refine (Pool.reserve_allOrNothing direct assigner request.template request.provider).mono
        (fun reservation after _ => ?_) fun _ _ => id
      exact (ends_pure _).2 trivial
    · rw [ends_bind, ends_adapt, Pool.ends_resolve]
      split
      · rw [ends_bind, Pool.ends_held]
        split
        · exact (ends_pure _).2 trivial
        · rfl
      · rfl
  · rfl

/-- Nobody takes the device away in between, so the first attempt is the last. -/
theorem overwriteUsage_allOrNothing (device : DeviceId) (usage : Usage) :
    (overwriteUsage device usage).AllOrNothing around scene := by
  unfold AllOrNothing overwriteUsage Pool.usageOf
  rw [ends_bind, ends_bind, ends_askFor]
  split
  · next record found =>
    rw [ends_pure, ends_bind, ends_holdingAll, ends_bind, ends_bind, ends_askFor, found]
    dsimp only
    rw [ends_pure, if_pos rfl, ends_bind]
    refine (Pool.setUsage_allOrNothing device usage).mono (fun _ after _ => ?_) fun _ _ => id
    exact (ends_pure true).2 ((ends_pure ()).2 trivial)
  · rfl

/-- **An attach gives every mentioned device a connection, or nothing changes.** -/
theorem attach_ends (sound : scene.tables.RecordsSound) (connection : VolumeConnection) :
    (attach connection).Ends around scene
      (fun _ after => ∃ assigner, assigner ≠ "" ∧
        Transaction.Runs (fun id => Tables.addConnection id assigner) connection.devices
          scene.tables after.tables)
      fun _ after => after.tables = scene.tables := by
  unfold attach
  rw [ends_bind, ends_ofOutcome]
  split
  · next assigner checked =>
    have present := ne_empty_of_requiredGuest checked
    rw [ends_bind, ends_ofOutcome]
    split
    · rw [ends_holding]
      exact (attachAlone_ends present sound connection).mono
        (fun _ _ runs => ⟨assigner, present, runs⟩) fun _ _ => id
    · rfl
  · rfl

/-- **A detach takes a connection from every mentioned device, or nothing changes**, unless the
guest has removed the volume before it failed. -/
theorem detach_ends (sound : scene.tables.RecordsSound) (connection : VolumeConnection) :
    (detach connection).Ends around scene
      (fun _ after => ∃ assigner, Transaction.Runs (fun id => Tables.removeConnection id assigner)
        connection.devices scene.tables after.tables)
      fun _ after => scene.LeadsTo scene.tables after ∨ after.guestRemoved = true ∧
        ∃ assigner, Transaction.Runs (fun id => Tables.removeConnection id assigner)
          connection.devices scene.tables after.tables := by
  unfold detach
  rw [ends_bind, ends_ofOutcome]
  split
  · next assigner checked =>
    rw [ends_bind, ends_ofOutcome]
    split
    · rw [ends_holding]
      refine (detachAlone_ends sound connection).mono (fun _ _ runs => ⟨assigner, runs⟩) ?_
      rintro _ _ (same | ⟨removed, runs⟩)
      · exact .inl same
      · exact .inr ⟨removed, assigner, runs⟩
    · exact .inl scene.leadsTo_self
  · exact .inl scene.leadsTo_self

/-- Every action but a detach is all or nothing. -/
theorem run_allOrNothing (direct : settings.pool.syncBeforeReserve = false)
    (sound : scene.tables.RecordsSound) (filed : scene.tables.TemplatesFiled) {action : Action}
    (other : ∀ connection, action ≠ .detach connection) :
    (run settings action).AllOrNothing around scene := by
  unfold AllOrNothing
  cases action with
  | detach connection => exact absurd rfl (other connection)
  | attach connection =>
    unfold run
    rw [ends_bind]
    refine (attach_ends sound connection).mono (fun _ after _ => ?_) fun _ _ => id
    exact (ends_pure _).2 trivial
  | connector request =>
    exact (ends_map _ _).2 (connector_allOrNothing direct request)
  | reserve assigner template provider =>
    unfold run
    rw [ends_bind, ends_ofOutcome]
    split
    · rw [ends_map, ends_holding]
      exact Pool.reserve_allOrNothing direct _ template provider
    · rfl
  | unreserve assigner template =>
    unfold run
    rw [ends_bind, ends_ofOutcome]
    split
    · rw [ends_map, ends_holding]
      exact Pool.unreserve_allOrNothing _ template
    · rfl
  | createTemplate request =>
    exact (ends_map _ _).2 (Pool.createTemplate_allOrNothing request)
  | editTemplate template request =>
    unfold run
    rw [ends_map, ends_holding]
    exact Pool.editTemplate_allOrNothing filed template request
  | deleteTemplate template =>
    unfold run
    rw [ends_bind, ends_holding]
    refine (Pool.deleteTemplate_allOrNothing template).mono (fun _ after _ => ?_) fun _ _ => id
    exact (ends_pure _).2 trivial
  | templates query =>
    refine (ends_map _ _).2 ((Pool.templates_ends filed query.filter).mono (fun _ _ _ => trivial)
      fun _ _ => False.elim)
  | details templates records statistics syncFirst =>
    exact (ends_map _ _).2 (Pool.details_allOrNothing filed _ _ _ _ _)
  | usage device =>
    unfold run Pool.usageOf
    rw [ends_map, ends_bind, ends_askFor]
    split
    · exact (ends_pure _).2 trivial
    · rfl
  | setUsage device usage =>
    unfold run
    rw [ends_bind]
    refine (overwriteUsage_allOrNothing device _).mono (fun _ after _ => ?_) fun _ _ => id
    exact (ends_pure _).2 trivial
  | sync => exact (ends_map _ _).2 (Pool.sync_allOrNothing settings.pool)

/-- A dispatched action ends as it does when it is run, and its end is counted. -/
theorem ends_dispatch {action : Action} {good : Output → Scene → Prop}
    {bad : Failure → Scene → Prop} :
    (dispatch settings action).Ends around scene good bad ↔
      (run settings action).Ends around scene
        (fun output after => good output (after.note (.measured (.finished action.name true))))
        (fun failure after =>
          bad failure (after.note (.measured (.finished action.name false)))) := by
  unfold dispatch
  simp only [ends_bind, ends_outcome, ends_measure, ends_ofOutcome, succeeded]

end Volume

/-- A dispatched action comes to an end, and when that is a failure the tables are as they were,
unless it is a detach whose volume the guest has removed. -/
theorem Volume.dispatch_ends {settings : OperatorSettings} {scene : Scene}
    (direct : settings.pool.syncBeforeReserve = false) (sound : scene.tables.RecordsSound)
    (filed : scene.tables.TemplatesFiled) (around : Surroundings) (action : Action) :
    (dispatch settings action).Ends around scene (fun _ _ => True)
      fun _ after => after.tables = scene.tables ∨
        (∃ connection, action = .detach connection) ∧ after.guestRemoved = true := by
  rw [ends_dispatch]
  by_cases detaches : ∃ connection, action = .detach connection
  · obtain ⟨connection, rfl⟩ := detaches
    unfold run
    rw [ends_bind]
    refine (detach_ends sound connection).mono (fun _ after _ => ?_) ?_
    · exact (ends_pure _).2 trivial
    · rintro failure after (same | ⟨removed, _⟩)
      · exact .inl same.1
      · refine .inr ⟨⟨connection, rfl⟩, ?_⟩
        rw [Scene.note_guestRemoved, removed, Bool.true_or]
  · have other (connection : VolumeConnection) : action ≠ .detach connection := fun same =>
      detaches ⟨connection, same⟩
    exact (run_allOrNothing direct sound filed other).mono (fun _ _ _ => trivial)
      fun _ _ same => .inl same

/-- **A failed action leaves all tables as they were**, whatever the systems around answer.  The
only exception is a detach whose volume the guest has removed already. -/
theorem failed_action_leaves_tables {settings : OperatorSettings}
    {scheduler : Scheduler (Outcome Output)}
    (reached : scheduler.Reached (Volume.Dispatched settings))
    (direct : settings.pool.syncBeforeReserve = false) (around : Surroundings) (action : Action) :
    ∃ outcome after, (Volume.dispatch settings action).run.alone around
        { tables := scheduler.store.tables } = (some outcome, after) ∧
      ∀ failure, outcome = .error failure → after.tables = scheduler.store.tables ∨
        (∃ connection, action = .detach connection) ∧ after.guestRemoved = true := by
  have ends : (Volume.dispatch settings action).Ends around { tables := scheduler.store.tables }
      _ _ := Volume.dispatch_ends direct reached.recordsSound reached.templatesFiled around action
  obtain ⟨outcome, after, run⟩ := ends.exists_outcome
  refine ⟨outcome, after, run, ?_⟩
  rintro failure rfl
  exact ends.of_error run

/-- A guest that is there but refuses the volume, and a directory that takes nothing back. -/
def Sample.refusing : Surroundings where
  stamp _ := default
  answer _
    | .guestExists _ => .ok true
    | .dedicate _ _ => .ok ()
    | _ => .error (.internal "refused")

/-- A run whose result is known leaves some scene. -/
theorem Sample.exists_run {Result : Type} {ran : Result × Scene} {outcome : Result}
    (given : ran.1 = outcome) : ∃ after, ran = (outcome, after) := ⟨ran.2, Prod.ext given rfl⟩

/-- The refused attach names its device twice. -/
theorem refused_attach_leaves_tables :
    ∃ failure after, (Volume.dispatch Sample.settings (.attach Sample.volume)).run.alone
        Sample.refusing { tables := Sample.prepared.store.tables } =
        (some (.error failure), after) ∧
      after.tables = Sample.prepared.store.tables := by
  obtain ⟨outcome, after, run, unchanged⟩ := failed_action_leaves_tables Sample.prepared_reached rfl
    Sample.refusing (.attach Sample.volume)
  have refused : ((Volume.dispatch Sample.settings (.attach Sample.volume)).run.alone
      Sample.refusing { tables := Sample.prepared.store.tables }).1.map Volume.succeeded =
        some false := by decide +kernel
  rw [run] at refused
  cases outcome with
  | ok output => cases refused
  | error failure =>
    rcases unchanged failure rfl with same | ⟨⟨connection, other⟩, _⟩
    · exact ⟨failure, after, run, same⟩
    · cases other

/-- **Of an action that has gone alone in an operator all is done or nothing**: its outcome is filed,
and a failure has left the tables as they were unless a guest has removed a volume. -/
theorem Scheduler.Solo.allOrNothing {settings : OperatorSettings}
    {scheduler last : Scheduler (Outcome Output)} {task : Task (Outcome Output)}
    {seen : List Observation} (solo : Solo task.ticket scheduler seen last)
    (reached : scheduler.Reached (Volume.Dispatched settings))
    (direct : settings.pool.syncBeforeReserve = false) (underWay : scheduler.UnderWay task)
    {action : Action} (fresh : task.rest = (Volume.dispatch settings action).run)
    (ended : last.task? task.ticket = none) :
    ∃ outcome, last.results = scheduler.results ++ [(task.ticket, outcome)] ∧
      ∀ failure, outcome = .error failure → last.store.tables = scheduler.store.tables ∨
        (∃ connection, action = .detach connection) ∧ seen.any Observation.isRemoval = true := by
  obtain ⟨around, given⟩ := solo.alone underWay rfl ended []
  have ends : (Volume.dispatch settings action).Ends around { tables := scheduler.store.tables }
      _ _ := Volume.dispatch_ends direct reached.recordsSound reached.templatesFiled around action
  rw [fresh] at given
  rcases given with none | ⟨outcome, run, results⟩
  · obtain ⟨outcome, after, run⟩ := ends.exists_outcome
    rw [run] at none
    cases none
  · refine ⟨outcome, results, ?_⟩
    rintro failure rfl
    exact ends.of_error run

end FibrePool
