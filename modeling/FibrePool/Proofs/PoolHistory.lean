import FibrePool.Proofs.AllOrNothing
import FibrePool.Proofs.History

/-!
# Histories of the pool

The operations of the pool as requests, issued by anybody in any order and each run to its end.  The
record of a device goes through steps of few kinds under each of them (`altered_of_run`), so what is
true of the device along a history is found by looking at single steps of its record.
-/

namespace FibrePool

set_option autoImplicit false

open Workflow

/-! ## Requests -/

/-- An operation of the pool that changes tables. -/
inductive PoolRequest where
  | reserve (assigner : String) (template provider : Option String)
  | unreserve (assigner template : String)
  | addUsage (device : DeviceId) (assigner : String)
  | decreaseUsage (device : DeviceId) (assigner : String)
  | restoreUsage (device : DeviceId) (change : UsageChange)
  | setUsage (device : DeviceId) (usage : Usage)
  | createTemplate (request : NewTemplate)
  | editTemplate (template : String) (request : TemplateEdit)
  | deleteTemplate (template : String)
  | sync

/-- What an operation of the pool answers. -/
inductive PoolAnswer where
  | reservation (reservation : Reservation)
  | released (records : List DeviceRecord)
  | change (change : UsageChange)
  | connections (left : UInt32)
  | template (summary : TemplateSummary)
  | synced (summary : SyncSummary)
  | done
  deriving DecidableEq

/-- The assigner on whose behalf a request is made. -/
def PoolRequest.assigner : PoolRequest → Option String
  | .reserve assigner _ _ => some assigner
  | .unreserve assigner _ => some assigner
  | .addUsage _ assigner => some assigner
  | .decreaseUsage _ assigner => some assigner
  | _ => none

/-- Carries a request out. -/
def Pool.perform (settings : PoolSettings) : PoolRequest → Workflow PoolAnswer
  | .reserve assigner template provider =>
    .reservation <$> reserve settings assigner template provider
  | .unreserve assigner template => .released <$> unreserve assigner template
  | .addUsage device assigner => .change <$> addUsage device assigner
  | .decreaseUsage device assigner => .connections <$> decreaseUsage device assigner
  | .restoreUsage device change => (fun _ => .done) <$> restoreUsage device change
  | .setUsage device usage => (fun _ => .done) <$> setUsage device usage
  | .createTemplate request => .template <$> createTemplate request
  | .editTemplate template request => .template <$> editTemplate template request
  | .deleteTemplate template => (fun _ => .done) <$> deleteTemplate template
  | .sync => .synced <$> sync settings

/-! ## What answers tell -/

namespace Pool

variable {settings : PoolSettings} {around : Surroundings} {tables : Tables} {scene : Scene}
  {id : DeviceId} {assigner : String}

/-- A connection is added as the answer tells, and nothing changes when it fails. -/
theorem addConnection_of_run {outcome : Outcome PoolAnswer}
    (run : (perform settings (.addUsage id assigner)).run.alone around { tables } =
      (some outcome, scene)) :
    match outcome with
    | .ok answer => ∃ change, answer = .change change ∧
        Tables.addConnection id assigner tables = .ok (change, scene.tables)
    | .error _ => scene.tables = tables := by
  have ends : (perform settings (.addUsage id assigner)).Ends around { tables }
      (fun answer after => ∃ change, answer = .change change ∧
        Tables.addConnection id assigner tables = .ok (change, after.tables))
      fun _ after => after.tables = tables :=
    (ends_map _ _).2 ((addUsage_ends id assigner).mono
      (fun change _ added => ⟨change, rfl, added.1⟩) fun _ _ failed =>
        congrArg Scene.tables failed.2)
  cases outcome with
  | ok answer => exact ends.of_ok run
  | error failure => exact ends.of_error run

theorem removeConnection_of_run {answer : PoolAnswer}
    (run : (perform settings (.decreaseUsage id assigner)).run.alone around { tables } =
      (some (.ok answer), scene)) :
    ∃ record, Tables.removeConnection id assigner tables = .ok (record, scene.tables) := by
  have ends : (perform settings (.decreaseUsage id assigner)).Ends around { tables }
      (fun _ after => ∃ record,
        Tables.removeConnection id assigner tables = .ok (record, after.tables))
      fun _ _ => True :=
    (ends_map _ _).2 ((decreaseUsage_ends id assigner).mono
      (fun _ _ removed => removed.1.imp fun _ => And.left) fun _ _ _ => trivial)
  exact ends.of_ok run

/-- A release does what it answers, and nothing when it fails. -/
theorem release_of_run {template : String} {outcome : Outcome PoolAnswer}
    (run : (perform settings (.unreserve assigner template)).run.alone around { tables } =
      (some outcome, scene)) :
    scene.tables = tables ∨ ∃ records, outcome = .ok (.released records) ∧
      Tables.release assigner template tables = .ok (records, scene.tables) := by
  have ends : (perform settings (.unreserve assigner template)).Ends around { tables }
      (fun answer after => ∃ records, answer = .released records ∧
        Tables.release assigner template tables = .ok (records, after.tables))
      fun _ after => after.tables = tables :=
    (ends_map _ _).2 ((unreserve_ends assigner template).mono
      (fun records _ done => ⟨records, rfl, done.2⟩) fun _ _ failed =>
        congrArg Scene.tables failed.2)
  cases outcome with
  | ok answer =>
    obtain ⟨records, rfl, done⟩ := ends.of_ok run
    exact .inr ⟨records, rfl, done⟩
  | error failure => exact .inl (ends.of_error run)

/-- What is made is the template that the answer tells of, and nothing when it fails. -/
theorem createTemplate_of_run {request : NewTemplate} {outcome : Outcome PoolAnswer}
    (run : (perform settings (.createTemplate request)).run.alone around { tables } =
      (some outcome, scene)) :
    match outcome with
    | .ok answer => ∃ summary, answer = .template summary ∧
        summary.template.hostDefault = request.hostDefault ∧ ∃ paths,
          Tables.createTemplate summary.template paths request.providers tables =
            .ok ((), scene.tables)
    | .error _ => scene.tables = tables := by
  have ends : (perform settings (.createTemplate request)).Ends around { tables }
      (fun answer after => ∃ summary, answer = .template summary ∧
        summary.template.hostDefault = request.hostDefault ∧ ∃ paths,
          Tables.createTemplate summary.template paths request.providers tables =
            .ok ((), after.tables))
      fun _ after => after.tables = tables :=
    (ends_map _ _).2 ((createTemplate_ends request).mono
      (fun summary _ made => ⟨summary, rfl, made⟩) fun _ _ same => same)
  cases outcome with
  | ok answer => exact ends.of_ok run
  | error failure => exact ends.of_error run

theorem editTemplate_of_run {id : String} {request : TemplateEdit} {outcome : Outcome PoolAnswer}
    (filed : tables.TemplatesFiled)
    (run : (perform settings (.editTemplate id request)).run.alone around { tables } =
      (some outcome, scene)) :
    match outcome with
    | .ok _ => ∃ paths template, Tables.editTemplate id (request.changes paths) tables =
        .ok (template, scene.tables)
    | .error _ => scene.tables = tables := by
  have ends : (perform settings (.editTemplate id request)).Ends around { tables }
      (fun _ after => ∃ paths template, Tables.editTemplate id (request.changes paths) tables =
        .ok (template, after.tables))
      fun _ after => after.tables = tables := by
    refine (ends_map _ _).2 ((ends_editTemplate filed id request).2 ?_)
    split
    · rfl
    · next paths _ =>
      split
      · rfl
      · next template tables done => exact ⟨paths, template, done⟩
  cases outcome with
  | ok answer => exact ends.of_ok run
  | error failure => exact ends.of_error run

theorem deleteTemplate_of_run {id : String} {outcome : Outcome PoolAnswer}
    (run : (perform settings (.deleteTemplate id)).run.alone around { tables } =
      (some outcome, scene)) :
    match outcome with
    | .ok _ => Tables.deleteTemplate id tables = .ok ((), scene.tables)
    | .error _ => scene.tables = tables := by
  have ends : (perform settings (.deleteTemplate id)).Ends around { tables }
      (fun _ after => Tables.deleteTemplate id tables = .ok ((), after.tables))
      fun _ after => after.tables = tables :=
    (ends_map _ _).2 ((deleteTemplate_ends id).mono (fun _ _ done => done)
      fun _ _ refused => congrArg Scene.tables refused.1)
  cases outcome with
  | ok answer => exact ends.of_ok run
  | error failure => exact ends.of_error run

/-- What is reserved is reserved on tables with everything that a reconciliation keeps, and a failed
reservation keeps that as well. -/
theorem reserve_of_run {inv : Tables → Prop} {template provider : Option String}
    {outcome : Outcome PoolAnswer} (reconciles : Reconciles (fun _ => True) inv)
    (holds : inv tables)
    (run : (perform settings (.reserve assigner template provider)).run.alone around { tables } =
      (some outcome, scene)) :
    match outcome with
    | .ok answer => ∃ reservation found before, answer = .reservation reservation ∧ inv before ∧
        Tables.reserve assigner found reservation.template settings.sameIndexPairing before =
          .ok (reservation.devices, scene.tables)
    | .error _ => inv scene.tables := by
  have ends : (perform settings (.reserve assigner template provider)).Ends around { tables }
      (fun answer after => ∃ reservation found before, answer = .reservation reservation ∧
        inv before ∧
        Tables.reserve assigner found reservation.template settings.sameIndexPairing before =
          .ok (reservation.devices, after.tables))
      fun _ after => inv after.tables := by
    refine (ends_map _ _).2 ((reserve_ends reconciles holds assigner template provider).mono ?_
      fun _ _ failed => failed.1)
    rintro reservation _ ⟨_, found, ready, _, holds, _, done⟩
    exact ⟨reservation, found, ready, rfl, holds, done⟩
  cases outcome with
  | ok answer => exact ends.of_ok run
  | error failure => exact ends.of_error run

end Pool

/-! ## What requests keep -/

namespace PoolRequest

/-- Every transaction of the request keeps `inv`. -/
def Keeps (settings : PoolSettings) (expected : Observation → Prop) (inv : Tables → Prop) :
    PoolRequest → Prop
  | .reserve assigner _ _ => (settings.syncBeforeReserve = true → Reconciles expected inv) ∧
      ∀ found id, (Tables.reserve assigner found id settings.sameIndexPairing).Keeps inv
  | .unreserve assigner template => (Tables.release assigner template).Keeps inv
  | .addUsage device assigner => (Tables.addConnection device assigner).Keeps inv
  | .decreaseUsage device assigner => (Tables.removeConnection device assigner).Keeps inv
  | .restoreUsage device change => (Tables.restoreUsage device change).Keeps inv
  | .setUsage device usage => (Tables.setUsage device usage).Keeps inv
  | .createTemplate _ => Creates expected inv
  | .editTemplate template _ => Edits inv template
  | .deleteTemplate template => (Tables.deleteTemplate template).Keeps inv
  | .sync => Reconciles expected inv

variable {settings : PoolSettings} {expected : Observation → Prop} {inv : Tables → Prop}

theorem Keeps.preserves {request : PoolRequest} (keeps : request.Keeps settings expected inv) :
    (Pool.perform settings request).Preserves expected inv := by
  cases request with
  | reserve assigner template provider =>
    exact (Pool.reserve_preserves settings assigner template provider keeps.1 keeps.2).map _
  | unreserve assigner template => exact (Pool.unreserve_preserves assigner template keeps).map _
  | addUsage device assigner => exact (Pool.addUsage_preserves device assigner keeps).map _
  | decreaseUsage device assigner =>
    exact (Pool.decreaseUsage_preserves device assigner keeps).map _
  | restoreUsage device change => exact (Pool.restoreUsage_preserves device change keeps).map _
  | setUsage device usage => exact (Pool.setUsage_preserves device usage keeps).map _
  | createTemplate request => exact (Pool.createTemplate_preserves request keeps).map _
  | editTemplate template request =>
    exact (Pool.editTemplate_preserves template request keeps).map _
  | deleteTemplate template => exact (Pool.deleteTemplate_preserves template keeps).map _
  | sync => exact (Pool.sync_preserves settings keeps).map _

/-- What upkeep and changes of usage keep is kept by every request of somebody with a name. -/
theorem keeps_of_upkeep (upkeep : UpkeepKeeps expected inv) (changes : UsageChangesKeep inv)
    {request : PoolRequest} (named : request.assigner ≠ some "") :
    request.Keeps settings expected inv := by
  have present {assigner : String} (same : request.assigner = some assigner) : assigner ≠ "" :=
    fun empty => named (empty ▸ same)
  cases request with
  | reserve assigner template provider =>
    exact ⟨fun _ => upkeep.reconciles, fun found id => upkeep.reserves found id _ (present rfl)⟩
  | unreserve assigner template => exact upkeep.releases assigner template
  | addUsage device assigner => exact changes.connects device (present rfl)
  | decreaseUsage device assigner => exact changes.disconnects device assigner
  | restoreUsage device change => exact changes.restores device change
  | setUsage device usage => exact changes.overwrites device usage
  | createTemplate request => exact upkeep.creates
  | editTemplate template request => exact upkeep.edits template
  | deleteTemplate template => exact upkeep.deletes template
  | sync => exact upkeep.reconciles

/-! ## What requests do to the record of a device -/

/-- A reconciliation with an expected listing. -/
def TouchedBySync (expected : Observation → Prop) (id : DeviceId) (touch : Touch) : Prop :=
  touch = .listing ∨ touch = .removal ∧ ListingLacks expected id

/-- The reasons for which a request changes the record of a device. -/
def Touches (expected : Observation → Prop) (id : DeviceId) : PoolRequest → Touch → Prop
  | .reserve assigner _ _, touch =>
    TouchedBySync expected id touch ∨ ∃ template, touch = .reservation assigner template
  | .unreserve assigner template, touch => touch = .release assigner template
  | .addUsage device assigner, touch => id = device ∧ touch = .connection assigner
  | .decreaseUsage device assigner, touch => id = device ∧ touch = .disconnection assigner
  | .restoreUsage device change, touch => id = device ∧ touch = .restoration change
  | .setUsage device usage, touch => id = device ∧ touch = .overwriting usage
  | .createTemplate _, touch => touch = .naming
  | .editTemplate _ _, touch => touch = .naming
  | .deleteTemplate _, _ => False
  | .sync, touch => TouchedBySync expected id touch

/-- Only a reconciliation removes a record, and only when a listing lacks the device. -/
theorem listingLacks_of_touches {id : DeviceId} {request : PoolRequest}
    (touches : request.Touches expected id .removal) : ListingLacks expected id := by
  cases request with
  | reserve assigner template provider =>
    rcases touches with (same | ⟨_, lacks⟩) | ⟨_, same⟩
    · cases same
    · exact lacks
    · cases same
  | unreserve assigner template => cases touches
  | addUsage device assigner => cases touches.2
  | decreaseUsage device assigner => cases touches.2
  | restoreUsage device change => cases touches.2
  | setUsage device usage => cases touches.2
  | createTemplate request => cases touches
  | editTemplate template request => cases touches
  | deleteTemplate template => exact touches.elim
  | sync =>
    rcases touches with same | ⟨_, lacks⟩
    · cases same
    · exact lacks

/-- Only who asks for it releases a record. -/
theorem eq_unreserve_of_touches {id : DeviceId} {request : PoolRequest}
    {assigner template : String}
    (touches : request.Touches expected id (.release assigner template)) :
    request = .unreserve assigner template := by
  cases request with
  | reserve assigner template provider =>
    rcases touches with (same | ⟨same, _⟩) | ⟨_, same⟩ <;> cases same
  | unreserve assigner template =>
    cases touches
    rfl
  | addUsage device assigner => cases touches.2
  | decreaseUsage device assigner => cases touches.2
  | restoreUsage device change => cases touches.2
  | setUsage device usage => cases touches.2
  | createTemplate request => cases touches
  | editTemplate template request => cases touches
  | deleteTemplate template => exact touches.elim
  | sync => rcases touches with same | ⟨same, _⟩ <;> cases same

/-- **A request changes the record of a device for its own reasons only.** -/
theorem altered_of_run {request : PoolRequest} {around : Surroundings} {tables : Tables}
    {outcome : Outcome PoolAnswer} {scene : Scene}
    (run : (Pool.perform settings request).run.alone around { tables } = (some outcome, scene))
    (sound : ∀ observation ∈ scene.seen, expected observation) (id : DeviceId) :
    Altered (request.Touches expected id) id (tables.at? id) (scene.tables.at? id) := by
  have reconciles (allowed : ∀ touch, TouchedBySync expected id touch →
      request.Touches expected id touch) : Reconciles expected fun now =>
        Altered (request.Touches expected id) id (tables.at? id) (now.at? id) := by
    intro target text devices seen parsed now _ after altered done
    refine altered.trans ((Tables.altered_reconcile done id).mono fun touch kind => ?_)
    refine allowed touch ?_
    exact kind.imp_right fun ⟨removed, absent⟩ =>
      ⟨removed, target, text, devices, seen, parsed, absent⟩
  have keeps : request.Keeps settings expected fun now =>
      Altered (request.Touches expected id) id (tables.at? id) (now.at? id) := by
    cases request with
    | reserve assigner template provider =>
      refine ⟨fun _ => reconciles fun touch => .inl, ?_⟩
      intro found template now _ after altered done
      exact altered.trans ((Tables.altered_reserve done id).mono fun touch same =>
        .inr ⟨template, same⟩)
    | unreserve assigner template =>
      exact fun now _ after altered done => altered.trans (Tables.altered_release done id)
    | addUsage device assigner =>
      exact fun now _ after altered done => altered.trans (Tables.altered_addConnection done id)
    | decreaseUsage device assigner =>
      exact fun now _ after altered done => altered.trans (Tables.altered_removeConnection done id)
    | restoreUsage device change =>
      exact fun now _ after altered done => altered.trans (Tables.altered_restoreUsage done id)
    | setUsage device usage =>
      exact fun now _ after altered done => altered.trans (Tables.altered_setUsage done id)
    | createTemplate request =>
      exact fun _ _ _ _ _ _ now _ after altered done =>
        altered.trans (Tables.altered_createTemplate done id)
    | editTemplate template request =>
      exact fun _ _ now _ after altered done =>
        altered.trans (Tables.altered_editTemplate done id)
    | deleteTemplate template =>
      exact fun now _ after altered done =>
        altered.trans (.of_eq (Tables.at?_of_deleteTemplate done id))
    | sync => exact reconciles fun _ kind => kind
  exact keeps.preserves.alone run .refl sound

end PoolRequest

/-! ## Whole histories -/

section Histories

variable {settings : PoolSettings} {expected : Observation → Prop}
  {deeds : List (Deed PoolRequest PoolAnswer)} {before after : Tables}

/-- What every request of a history preserves is true at its end. -/
theorem holds_of_preserved {inv : Tables → Prop} (holds : inv before)
    (history : History (Pool.perform settings) before deeds after)
    (preserves : ∀ deed ∈ deeds, (Pool.perform settings deed.asked).Preserves expected inv)
    (sound : ∀ deed ∈ deeds, ∀ observation ∈ deed.seen, expected observation) : inv after := by
  induction deeds generalizing before with
  | nil =>
    obtain rfl := History.nil_iff.1 history
    exact holds
  | cons deed rest ih =>
    obtain ⟨around, scene, run, seen, later⟩ := History.cons_iff.1 history
    obtain ⟨preserves, preserves'⟩ := List.forall_mem_cons.1 preserves
    obtain ⟨sound, sound'⟩ := List.forall_mem_cons.1 sound
    have kept : inv scene.tables := preserves.alone run holds (seen ▸ sound)
    exact ih kept later preserves' sound'

/-- What every request of a history keeps is true at its end. -/
theorem holds_of_history {inv : Tables → Prop} (holds : inv before)
    (history : History (Pool.perform settings) before deeds after)
    (keeps : ∀ deed ∈ deeds, deed.asked.Keeps settings expected inv)
    (sound : ∀ deed ∈ deeds, ∀ observation ∈ deed.seen, expected observation) : inv after :=
  holds_of_preserved holds history (fun deed member => (keeps deed member).preserves) sound

/-- **The record of a device changes along a history for the reasons of its requests only.** -/
theorem altered_of_history {touches : Touch → Prop} {id : DeviceId}
    (history : History (Pool.perform settings) before deeds after)
    (allowed : ∀ deed ∈ deeds, ∀ touch, deed.asked.Touches expected id touch → touches touch)
    (sound : ∀ deed ∈ deeds, ∀ observation ∈ deed.seen, expected observation) :
    Altered touches id (before.at? id) (after.at? id) := by
  induction deeds generalizing before with
  | nil =>
    obtain rfl := History.nil_iff.1 history
    exact .refl
  | cons deed rest ih =>
    obtain ⟨around, scene, run, seen, later⟩ := History.cons_iff.1 history
    obtain ⟨allowed, allowed'⟩ := List.forall_mem_cons.1 allowed
    obtain ⟨sound, sound'⟩ := List.forall_mem_cons.1 sound
    have first := PoolRequest.altered_of_run run (seen ▸ sound) id
    exact (first.mono allowed).trans (ih later allowed' sound')

end Histories

end FibrePool
