import FibrePool.Proofs.Override
import FibrePool.Proofs.Redundancy
import FibrePool.Proofs.TemplatesSound

/-!
# The minimum of a reservation

A reservation looks at its template before it takes devices, in steps of their own.  The paths and
the devices are those of the moment at which it takes them, but the fewest paths that it must cover
are those that the template asked for at the look, and meanwhile anybody may have changed the
template.

So a reservation covers what its template asked for at the look, and what the template asks for when
the devices are taken as well, unless an edit in between has asked for more
(`reservation_honours_minimum`).  If one has, the reservation may be too small for its template
(`reservation_misses_raised_minimum`).
-/

namespace FibrePool

set_option autoImplicit false

open Workflow

/-! ## What a reservation covers -/

namespace Tables

variable {tables after : Tables} {assigner template : String} {found stored : Template}
  {pairing : Bool} {records : List DeviceRecord}

/-- A reservation gives devices of different paths.  Where it gives any and the assigner had none
before, they are at least one and as many as the template that was found asks for. -/
theorem reserve_covers (filed : tables.RecordsFiled)
    (unheld : ∀ id ∈ tables.devicesOf template, ∀ record, tables.devices.get? id = some record →
      record.isReservedBy assigner template = false)
    (done : reserve assigner found template pairing tables = .ok (records, after))
    (given : records ≠ []) :
    tables.AlongPaths template records ∧
      max 1 (found.leastPathsOf (tables.pathsOf template).size) ≤ records.length := by
  obtain ⟨_, rfl, _⟩ := reserve_eq_ok filed done
  refine ⟨?_, ?_⟩
  · obtain ⟨covered, sublist, pairs⟩ :=
      alongPaths_of_onePerPath filed Selection.onePerPath_chosen
    exact ⟨covered, sublist, List.forall₂_map_right_iff.2 pairs⟩
  · obtain ⟨chosen, listed⟩ :=
      List.exists_mem_of_ne_nil _ fun none => given (List.map_eq_nil_iff.2 none)
    obtain ⟨own, there⟩ := stored_of_isCandidate filed (Selection.isCandidate_of_chosen listed)
    have enough := Selection.leastPaths_le_length listed (unheld chosen.id own chosen there)
    rw [List.length_map]
    refine Nat.max_le.2 ⟨List.length_pos_of_mem listed, ?_⟩
    rw [OrderedMap.size, ← List.length_map]
    exact enough

/-- The template asks for a number of paths, and for no more than `least`. -/
def AsksAtMost (tables : Tables) (template : String) (least : Nat) : Prop :=
  ∀ stored, tables.templates.get? template = some stored →
    ∃ asked, stored.leastPaths = some asked ∧ asked ≤ least

/-- A template never asks for more paths than it has. -/
theorem TemplatesSound.leastPathsOf_le (sound : tables.TemplatesSound)
    (there : tables.templates.get? template = some stored) :
    stored.leastPathsOf (tables.pathsOf template).size ≤ (tables.pathsOf template).size := by
  unfold Template.leastPathsOf
  cases asks : stored.leastPaths with
  | none => exact le_rfl
  | some least => exact sound.covered template stored least there asks

end Tables

/-! ## What changes a minimum -/

/-- A template that is stamped gets another id. -/
def Observation.StampsApart (template : String) : Observation → Prop
  | .stamped fresh => fresh.id ≠ template
  | _ => True

instance (template : String) : DecidablePred (Observation.StampsApart template)
  | .stamped fresh => inferInstanceAs (Decidable (fresh.id ≠ template))
  | .called _ _ | .told _ | .measured _ => .isTrue trivial

namespace Tables

variable {tables after : Tables} {template : String} {least : Nat}

theorem deviceless_asksAtMost (template : String) (least : Nat) :
    Deviceless (AsksAtMost · template least) := fun _ _ => id

/-- Filing a template under another id leaves what the template asks for. -/
theorem AsksAtMost.file {clears : Prop} [Decidable clears] {id : String} {filed : Template}
    (asks : tables.AsksAtMost template least)
    (same : after.templates = ((if clears then tables.clearHostDefault
      else tables).templates.insert id filed))
    (own : id = template → ∃ asked, filed.leastPaths = some asked ∧ asked ≤ least) :
    after.AsksAtMost template least := by
  intro stored there
  rw [get?_file same] at there
  split at there
  · next here =>
    cases there
    exact own here.symm
  · obtain ⟨old, before, rfl⟩ := Option.map_eq_some_iff.1 there
    exact asks old before

theorem creates_asksAtMost (template : String) (least : Nat) :
    Creates (Observation.StampsApart template) (AsksAtMost · template least) := by
  intro filed paths providers apart _ _ tables result after asks done
  exact asks.file (createTemplate_eq_ok done).2.2.1 fun here => absurd here apart

/-- Only an edit that asks for more raises the minimum of a template. -/
theorem editTemplate_keeps_asksAtMost {id : String} {changes : TemplateChanges}
    (spares : id = template → ∀ asked, changes.leastPaths = some asked → asked ≤ least) :
    (editTemplate id changes).Keeps (AsksAtMost · template least) := by
  intro tables result after asks done
  obtain ⟨old, _, found, rfl, _⟩ := editTemplate_parts done
  obtain ⟨_, _, _, _, same⟩ := editTemplate_eq_ok done
  refine asks.file same ?_
  rintro rfl
  cases wanted : changes.leastPaths with
  | none =>
    rw [edited, wanted]
    exact asks old found
  | some asked =>
    rw [edited, wanted]
    exact ⟨asked, rfl, spares rfl asked wanted⟩

theorem deleteTemplate_keeps_asksAtMost (id : String) :
    (deleteTemplate id).Keeps (AsksAtMost · template least) := by
  intro tables result after asks done stored there
  rw [(deleteTemplate_eq_ok done).2.2.1] at there
  by_cases same : template = id
  · rw [same, OrderedMap.get?_erase_self] at there
    cases there
  · rw [OrderedMap.get?_erase_of_ne _ same] at there
    exact asks stored there

end Tables

/-! ## Requests in between -/

/-- Whether a request is one to make, edit or drop a template. -/
def PoolRequest.writesTemplates : PoolRequest → Bool
  | .createTemplate _ => true
  | .editTemplate _ _ => true
  | .deleteTemplate _ => true
  | _ => false

section Deviceless

variable {settings : PoolSettings} {expected : Observation → Prop} {inv : Tables → Prop}
  (deviceless : Tables.Deviceless inv) {request : PoolRequest}

include deviceless

/-- What says nothing about devices is kept by requests that write no template. -/
theorem PoolRequest.preserves_of_deviceless (apart : request.writesTemplates = false) :
    (Pool.perform settings request).Preserves expected inv := by
  have reconciles : Reconciles expected inv :=
    fun _ _ devices _ _ => (Tables.onlyDevices_reconcile devices).keeps deviceless
  have changes := usageChangesKeep_templates deviceless
  cases request with
  | reserve assigner template provider =>
    refine (Pool.reserve_preserves settings assigner template provider (fun _ => reconciles)
      fun found id => ?_).map _
    exact (Tables.onlyDevices_reserve assigner found id _).keeps deviceless
  | unreserve assigner template =>
    refine (Pool.unreserve_preserves assigner template ?_).map _
    exact (Tables.onlyDevices_release assigner template).keeps deviceless
  | addUsage device assigner =>
    refine (Pool.addUsage_preserves device assigner ?_).map _
    exact (Tables.onlyDevices_addConnection device assigner).keeps deviceless
  | decreaseUsage device assigner =>
    exact (Pool.decreaseUsage_preserves device assigner (changes.disconnects device assigner)).map _
  | restoreUsage device change =>
    exact (Pool.restoreUsage_preserves device change (changes.restores device change)).map _
  | setUsage device usage =>
    exact (Pool.setUsage_preserves device usage (changes.overwrites device usage)).map _
  | sync => exact (Pool.sync_preserves settings reconciles).map _
  | createTemplate _ | editTemplate _ _ | deleteTemplate _ => cases apart

/-- What says nothing about devices is kept by every request, if the life of templates keeps it. -/
theorem PoolRequest.preserves_of_templates (creates : Creates expected inv)
    (edits : ∀ id edit, request = .editTemplate id edit → ∀ changes : TemplateChanges,
      changes.leastPaths = edit.leastPaths → (∀ paths, changes.paths = some paths → paths.Written) →
        (Tables.editTemplate id changes).Keeps inv)
    (deletes : ∀ id, (Tables.deleteTemplate id).Keeps inv) :
    (Pool.perform settings request).Preserves expected inv := by
  cases apart : request.writesTemplates with
  | false => exact preserves_of_deviceless deviceless apart
  | true =>
    cases request with
    | createTemplate request => exact (Pool.createTemplate_preserves request creates).map _
    | editTemplate id edit =>
      exact (Pool.editTemplate_preserves_of_asked id edit (edits id edit rfl)).map _
    | deleteTemplate id => exact (Pool.deleteTemplate_preserves id (deletes id)).map _
    | _ => cases apart

end Deviceless

/-- The deed is no edit of the template that asks for more than `least` paths, and does not make a
template with this id anew. -/
structure Deed.SparesMinimum (template : String) (least : Nat)
    (deed : Deed PoolRequest PoolAnswer) : Prop where
  edits : ∀ edit asked, deed.asked = .editTemplate template edit → deed.outcome.isOk = true →
    edit.leastPaths = some asked → asked ≤ least
  stamps : ∀ observation ∈ deed.seen, observation.StampsApart template

namespace Pool

variable {settings : PoolSettings} {around : Surroundings} {before : Tables} {scene : Scene}
  {asked : PoolRequest} {outcome : Outcome PoolAnswer} {template : String} {least : Nat}

/-- A request that spares the minimum of a template leaves a template that asks for no more. -/
theorem asksAtMost_of_run (filed : before.TemplatesFiled) (asks : before.AsksAtMost template least)
    (run : (perform settings asked).run.alone around { tables := before } = (some outcome, scene))
    (spares : Deed.SparesMinimum template least ⟨asked, outcome, scene.seen⟩) :
    scene.tables.AsksAtMost template least := by
  by_cases refused : ∃ id edit failure, asked = .editTemplate id edit ∧ outcome = .error failure
  · obtain ⟨id, edit, failure, rfl, rfl⟩ := refused
    have ends : (perform settings (.editTemplate id edit)).Ends around { tables := before }
        (fun _ _ => True) fun _ after => after.tables = before :=
      (ends_map _ _).2 ((editTemplate_ends filed id edit).mono (fun _ _ _ => trivial)
        fun _ _ same => same)
    rw [ends.of_error run]
    exact asks
  · refine (PoolRequest.preserves_of_templates (Tables.deviceless_asksAtMost template least)
      (Tables.creates_asksAtMost template least) (fun id edit same changes wanted _ => ?_)
      Tables.deleteTemplate_keeps_asksAtMost).alone run asks spares.stamps
    refine Tables.editTemplate_keeps_asksAtMost fun own more wants => ?_
    subst own same
    cases outcome with
    | ok answer => exact spares.edits edit more rfl rfl (wanted ▸ wants)
    | error failure => exact absurd ⟨id, edit, failure, rfl, rfl⟩ refused

end Pool

section Histories

variable {settings : PoolSettings} {deeds : List (Deed PoolRequest PoolAnswer)}
  {before now : Tables}

theorem recordsFiled_of_history (filed : before.RecordsFiled)
    (history : History (Pool.perform settings) before deeds now) : now.RecordsFiled := by
  intro id
  have seen : ∀ deed ∈ deeds, ∀ observation ∈ deed.seen,
      (fun _ : Observation => True) observation := fun _ _ _ _ => trivial
  have altered : Altered (fun _ => True) id (before.at? id) (now.at? id) :=
    altered_of_history history (fun _ _ _ _ => trivial) seen
  exact altered.keeps (fun stored => ∀ record, stored = some record → record.id = id)
    (fun _ _ _ _ step => step.own_id) (filed id)

theorem templatesSound_of_history (sound : before.TemplatesSound)
    (history : History (Pool.perform settings) before deeds now) : now.TemplatesSound := by
  have upkeep := templatesSound_upkeep fun _ => True
  refine holds_of_preserved sound history (fun deed _ => ?_) fun _ _ _ _ => trivial
  exact PoolRequest.preserves_of_templates Tables.TemplatesSound.deviceless upkeep.creates
    (fun id _ _ changes _ => upkeep.edits id changes) upkeep.deletes

/-- **Only an edit that asks for more raises the minimum of a template.** -/
theorem asksAtMost_of_history {template : String} {least : Nat} (sound : before.TemplatesSound)
    (asks : before.AsksAtMost template least)
    (history : History (Pool.perform settings) before deeds now)
    (spares : ∀ deed ∈ deeds, deed.SparesMinimum template least) :
    now.AsksAtMost template least := by
  induction deeds generalizing before with
  | nil =>
    obtain rfl := History.nil_iff.1 history
    exact asks
  | cons deed rest ih =>
    obtain ⟨around, scene, run, seen, later⟩ := History.cons_iff.1 history
    obtain ⟨spares, spares'⟩ := List.forall_mem_cons.1 spares
    have kept : scene.tables.TemplatesSound :=
      templatesSound_of_history sound (History.cons_iff.2 ⟨around, scene, run, seen, .rest _⟩)
    obtain ⟨request, outcome, _⟩ := deed
    subst seen
    exact ih kept (Pool.asksAtMost_of_run sound.filed asks run spares) later spares'

/-- **A reservation honours the minimum of its template.**  In every state a reservation may look at
its template, and anybody may ask the pool for anything before it takes its devices.  Where it takes
any and the assigner had none under the template before, they lie on different paths of it and cover
what it asks for at that moment, unless it was edited in between to ask for more than at the look. -/
theorem reservation_honours_minimum {settings : OperatorSettings}
    {scheduler : Scheduler (Outcome Output)}
    (reached : scheduler.Reached (Volume.Dispatched settings)) {template : String}
    {found : Template} (looked : scheduler.store.tables.template template = .ok found)
    (between : History (Pool.perform settings.pool) scheduler.store.tables deeds now)
    (spares : ∀ least, found.leastPaths = some least →
      ∀ deed ∈ deeds, deed.SparesMinimum template least)
    {assigner : String} {pairing : Bool} {records : List DeviceRecord} {after : Tables}
    (unheld : ∀ id ∈ now.devicesOf template, ∀ record, now.devices.get? id = some record →
      record.isReservedBy assigner template = false)
    (taken : Tables.reserve assigner found template pairing now = .ok (records, after))
    (given : records ≠ []) :
    ∃ stored, now.template template = .ok stored ∧ now.AlongPaths template records ∧
      max 1 (stored.leastPathsOf (now.pathsOf template).size) ≤ records.length := by
  have sound := templatesSound_of_history reached.templatesSound between
  obtain ⟨stored, there⟩ := (Tables.reserveWith_eq_ok.1 taken).1
  obtain ⟨along, enough⟩ :=
    Tables.reserve_covers (recordsFiled_of_history reached.recordsSound.filed between) unheld taken
      given
  obtain ⟨positive, enough⟩ := Nat.max_le.1 enough
  refine ⟨stored, there, along, Nat.max_le.2 ⟨positive, ?_⟩⟩
  have filed := Tables.template_eq_ok.1 there
  cases asked : found.leastPaths with
  | none =>
    -- Every path is covered, and a template never asks for more.
    rw [Template.leastPathsOf, asked, Option.getD_none] at enough
    exact (sound.leastPathsOf_le filed).trans enough
  | some least =>
    have asks : scheduler.store.tables.AsksAtMost template least := by
      intro old before
      cases (Tables.template_eq_ok.1 looked).symm.trans before
      exact ⟨least, asked, le_rfl⟩
    obtain ⟨wanted, wants, few⟩ :=
      asksAtMost_of_history reached.templatesSound asks between (spares least asked) stored filed
    rw [Template.leastPathsOf, asked, Option.getD_some] at enough
    rw [Template.leastPathsOf, wants, Option.getD_some]
    exact few.trans enough

end Histories

/-! ## An edit in between -/

namespace Sample

/-- What the template asked for when a reservation looked at it. -/
def seen : Template := (lopsided.store.tables.templates.get? "T").getD default

/-- The template asks for one of its paths and goes on doing so. -/
def relaxed := next (.editTemplate "T" { name := some "N", leastPaths := some 1 })
  lopsided.store.tables

/-- A reservation for `A`, whose ticket is 2, and an edit by which the template asks for both of its
paths, whose ticket is 3, after turns of theirs. -/
def raising (order : List Ticket) : Scheduler (Outcome Output) :=
  ((lopsided.start (Volume.dispatch settings (.reserve "A" (some "T") none)).run).2.start
    (Volume.dispatch settings (.editTemplate "T" { leastPaths := some 2 })).run).2.turns order

/-- How many paths a reservation under the template must cover. -/
def leastPaths (scheduler : Scheduler (Outcome Output)) : Option Nat :=
  (scheduler.store.tables.templates.get? "T").map
    (·.leastPathsOf (scheduler.store.tables.pathsOf "T").size)

/-- The devices that a reservation has given. -/
def granted (scheduler : Scheduler (Outcome Output)) (ticket : Ticket) : Option (List DeviceId) :=
  match scheduler.result? ticket with
  | some (.ok (.reservation reservation)) => some (reservation.devices.map (·.id))
  | _ => none

end Sample

/-- An edit in between that asks for no more leaves the reservation large enough. -/
theorem reservation_honours_minimum_after_edit :
    Sample.relaxed.1.outcome.isOk = true ∧
    ∃ after stored,
      Tables.reserve "A" Sample.seen "T" false Sample.relaxed.2 = .ok ([Sample.owned], after) ∧
      Sample.relaxed.2.template "T" = .ok stored ∧
      Sample.relaxed.2.AlongPaths "T" [Sample.owned] ∧
      max 1 (stored.leastPathsOf (Sample.relaxed.2.pathsOf "T").size) ≤ 1 := by
  obtain ⟨answered, asked, looked, free, given, stamps⟩ :
      Sample.relaxed.1.outcome.isOk = true ∧ Sample.seen.leastPaths = some 1 ∧
      Sample.lopsided.store.tables.template "T" = .ok Sample.seen ∧
      (∀ id ∈ Sample.relaxed.2.devicesOf "T", ∀ record ∈ Sample.relaxed.2.devices.get? id,
        record.isReservedBy "A" "T" = false) ∧
      (Tables.reserve "A" Sample.seen "T" false Sample.relaxed.2).map (·.1) =
        .ok [Sample.owned] ∧
      ∀ observation ∈ Sample.relaxed.1.seen, observation.StampsApart "T" := by decide +kernel
  obtain ⟨after, taken⟩ : ∃ after, Tables.reserve "A" Sample.seen "T" false Sample.relaxed.2 =
      .ok ([Sample.owned], after) := by
    cases done : Tables.reserve "A" Sample.seen "T" false Sample.relaxed.2 with
    | error failure =>
      rw [done] at given
      cases given
    | ok result =>
      obtain ⟨records, after⟩ := result
      rw [done] at given
      cases given
      exact ⟨after, rfl⟩
  have between : History (Pool.perform Sample.settings.pool) Sample.lopsided.store.tables
      [Sample.relaxed.1] Sample.relaxed.2 :=
    history_of_carryOut rfl (ended_of_isOk answered) (.rest _)
  have spares : ∀ least, Sample.seen.leastPaths = some least →
      ∀ deed ∈ [Sample.relaxed.1], deed.SparesMinimum "T" least := by
    rintro least wanted deed member
    obtain rfl := List.mem_singleton.1 member
    obtain rfl : 1 = least := Option.some.inj (asked.symm.trans wanted)
    refine ⟨fun edit more same _ asks => ?_, stamps⟩
    cases same
    exact (Option.some.inj asks).ge
  have reached : Sample.lopsided.Reached (Volume.Dispatched Sample.settings) :=
    Sample.stocked_reached _ _ _
  obtain ⟨stored, there, along, enough⟩ := reservation_honours_minimum reached looked between spares
    free taken (List.cons_ne_nil _ _)
  exact ⟨answered, after, stored, taken, there, along, enough⟩

/-- **A reservation may be too small for its template.**  It looks at the template while that asks
for one path; then an edit has the template ask for two and is over; and then the reservation gives
the only device there is, to a guest that had none. -/
theorem reservation_misses_raised_minimum :
    Sample.lopsided.Reached (Volume.Dispatched Sample.settings) ∧
    (∃ moves, Interleaving (Volume.Dispatched Sample.settings) Sample.lopsided moves
      (Sample.raising ([2, 2, 2] ++ List.replicate 8 3 ++ List.replicate 5 2))) ∧
    Sample.leastPaths (Sample.raising [2, 2, 2]) = some 1 ∧
    Sample.leastPaths (Sample.raising ([2, 2, 2] ++ List.replicate 8 3)) = some 2 ∧
    (∀ record ∈ (Sample.raising ([2, 2, 2] ++ List.replicate 8 3)).store.tables.devices.values,
      record.isInUse = false) ∧
    ((Sample.raising ([2, 2, 2] ++ List.replicate 8 3)).task? 2).any (·.rest.acts) = true ∧
    Sample.leastPaths (Sample.raising
      ([2, 2, 2] ++ List.replicate 8 3 ++ List.replicate 5 2)) = some 2 ∧
    Sample.granted (Sample.raising
      ([2, 2, 2] ++ List.replicate 8 3 ++ List.replicate 5 2)) 2 = some [Sample.device] := by
  obtain ⟨moves, turns⟩ := Scheduler.turns_interleaving (Volume.Dispatched Sample.settings)
    (Sample.raising []) ([2, 2, 2] ++ List.replicate 8 3 ++ List.replicate 5 2)
  refine ⟨Sample.stocked_reached _ _ _, ⟨moves, ?_⟩, by decide +kernel⟩
  exact .started ⟨_, rfl⟩ (.started ⟨_, rfl⟩ turns)

end FibrePool
