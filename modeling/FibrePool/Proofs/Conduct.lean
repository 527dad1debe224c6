import FibrePool.Proofs.Keeping
import FibrePool.Volume.Dispatch

/-!
# What operations and actions preserve

Every operation of the pool and every action of the operator is followed through its steps once, and
what it preserves is reduced to what its transactions keep.  A statement about the tables is thus
proved of an action by showing that a reconciliation, a reservation, a change of usage or a change
of a template keeps it.

The names of guests that reach a transaction are never empty, since every action checks them first.
-/

namespace FibrePool

set_option autoImplicit false

open Workflow

/-- Every reconciliation with an expected listing keeps `inv`. -/
def Reconciles (expected : Observation → Prop) (inv : Tables → Prop) : Prop :=
  ∀ ⦃target text : String⦄ ⦃devices : List LiveDevice⦄,
    expected (.called (.listDevices target) (.ok text)) → Listing.parse text = .ok devices →
      (Tables.reconcile devices).Keeps inv

/-- The paths that some expression stands for. -/
def PathMap.Written (paths : PathMap) : Prop := ∃ spec, Ranges.expand spec = .ok paths

/-- New templates that a request may ask for keep `inv`: their paths are written as an expression
and are as many as a reservation must cover, and their identity is an expected one. -/
def Creates (expected : Observation → Prop) (inv : Tables → Prop) : Prop :=
  ∀ (template : Template) (paths : PathMap) (providers : List String),
    expected (.stamped ⟨template.id, template.createdAt⟩) → paths.Written →
      Pool.checkLeastPaths template.leastPaths paths = .ok () →
        (Tables.createTemplate template paths providers).Keeps inv

/-- Changes of a template that a request may ask for keep `inv`. -/
def Edits (inv : Tables → Prop) (id : String) : Prop :=
  ∀ changes : TemplateChanges, (∀ paths, changes.paths = some paths → paths.Written) →
    (Tables.editTemplate id changes).Keeps inv

namespace Pool

variable {expected : Observation → Prop} {inv : Tables → Prop}

/-! ## Operations of the pool -/

theorem sync_preserves (settings : PoolSettings) (reconciles : Reconciles expected inv) :
    (sync settings).Preserves expected inv := by
  refine Preserves.holding ?_ syncKey
  refine preserves_call_bind fun listing sound => ?_
  refine preserves_ofOutcome_bind fun devices parsed => ?_
  refine (preserves_commit (reconciles sound parsed)).bind fun outcome => ?_
  exact (preserves_emit _).bind fun _ => preserves_pure _

theorem resolve_preserves (template provider : Option String) :
    (resolve template provider).Preserves expected inv := by
  unfold resolve
  split
  · exact (preserves_askFor _).bind fun _ => preserves_pure _
  · extract_lets fallback
    have falling (bound : Option String) : (fallback bound).Preserves expected inv := by
      unfold fallback
      cases bound with
      | some id => exact preserves_pure id
      | none =>
        refine (preserves_ask _).bind fun default => ?_
        cases default with
        | some id => exact preserves_pure id
        | none => exact preserves_throw _
    split
    · exact (preserves_ask _).bind falling
    · exact (preserves_pure _).bind falling

theorem reserve_preserves (settings : PoolSettings) (assigner : String)
    (template provider : Option String)
    (reconciles : settings.syncBeforeReserve = true → Reconciles expected inv)
    (reserves : ∀ found id,
      (Tables.reserve assigner found id settings.sameIndexPairing).Keeps inv) :
    (reserve settings assigner template provider).Preserves expected inv := by
  unfold reserve
  refine (resolve_preserves template provider).bind fun id => ?_
  refine (preserves_askFor _).bind fun found => ?_
  have afterwards : Preserves expected inv (do
      let devices ← commit (Tables.reserve assigner found id settings.sameIndexPairing)
      if !devices.isEmpty then
        emit (.devicesReserved assigner id (devices.map (·.id.text)))
      return ({ template := id, devices } : Reservation)) := by
    refine (preserves_commit (reserves found id)).bind fun devices => ?_
    split
    · exact (preserves_emit _).bind fun _ => preserves_pure _
    · exact preserves_pure _
  split
  · next synced => exact (sync_preserves settings (reconciles synced)).bind fun _ => afterwards
  · exact afterwards

theorem held_preserves (assigner template : String) :
    (held assigner template).Preserves expected inv := by
  refine (preserves_askFor _).bind fun paths => ?_
  refine Preserves.bind ?_ fun found => preserves_pure _
  exact preserves_mapM fun ids _ => (preserves_ask _).bind fun records => preserves_pure _

theorem unreserve_preserves (assigner template : String)
    (releases : (Tables.release assigner template).Keeps inv) :
    (unreserve assigner template).Preserves expected inv := by
  have afterwards : Preserves expected inv (do
      let released ← commit (Tables.release assigner template)
      if !released.isEmpty then
        emit (.devicesReleased assigner template (released.map (·.id.text)))
      return released) := by
    refine (preserves_commit releases).bind fun released => ?_
    split
    · exact (preserves_emit _).bind fun _ => preserves_pure _
    · exact preserves_pure _
  unfold unreserve
  split
  · exact (preserves_throw _).bind fun _ => afterwards
  · exact afterwards

theorem addUsage_delivers (id : DeviceId) (assigner : String) {valid : UsageChange → Prop}
    (connects : (Tables.addConnection id assigner).Keeps inv)
    (makes : ∀ tables change after, inv tables →
      Tables.addConnection id assigner tables = .ok (change, after) → valid change) :
    (addUsage id assigner).Delivers expected inv valid :=
  (delivers_commit connects makes).bind fun _ made =>
    (preserves_emit _).delivers.bind fun _ _ => delivers_pure made

theorem addUsage_preserves (id : DeviceId) (assigner : String)
    (connects : (Tables.addConnection id assigner).Keeps inv) :
    (addUsage id assigner).Preserves expected inv :=
  (addUsage_delivers id assigner connects fun _ _ _ _ _ => trivial).preserves

theorem restoreUsage_preserves (id : DeviceId) (change : UsageChange)
    (restores : (Tables.restoreUsage id change).Keeps inv) :
    (restoreUsage id change).Preserves expected inv :=
  (preserves_commit restores).bind fun _ => preserves_emit _

theorem decreaseUsage_preserves (id : DeviceId) (assigner : String)
    (disconnects : (Tables.removeConnection id assigner).Keeps inv) :
    (decreaseUsage id assigner).Preserves expected inv :=
  (preserves_commit disconnects).bind fun _ => (preserves_emit _).bind fun _ => preserves_pure _

theorem usageOf_preserves (id : DeviceId) : (usageOf id).Preserves expected inv :=
  (preserves_askFor _).bind fun _ => preserves_pure _

theorem setUsage_preserves (id : DeviceId) (usage : Usage)
    (overwrites : (Tables.setUsage id usage).Keeps inv) :
    (setUsage id usage).Preserves expected inv :=
  (preserves_commit overwrites).bind fun _ => preserves_emit _

theorem summarize_preserves (template : Template) :
    (summarize template).Preserves expected inv :=
  (preserves_askFor _).bind fun _ => (preserves_ask _).bind fun _ => preserves_pure _

theorem createTemplate_preserves (request : NewTemplate) (creates : Creates expected inv) :
    (createTemplate request).Preserves expected inv := by
  refine preserves_ofOutcome_bind fun paths read => ?_
  refine preserves_ofOutcome_bind fun _ enough => ?_
  refine preserves_stamp_bind fun fresh sound => ?_
  refine (preserves_commit (creates _ paths request.providers sound ⟨_, read⟩ enough)).bind
    fun _ => ?_
  exact (preserves_emit _).bind fun _ => summarize_preserves _

/-- An edit keeps what the changes keep that it may ask for, none of which sets another minimum than
the one that is asked for. -/
theorem editTemplate_preserves_of_asked (id : String) (request : TemplateEdit)
    (edits : ∀ changes : TemplateChanges, changes.leastPaths = request.leastPaths →
      (∀ paths, changes.paths = some paths → paths.Written) →
        (Tables.editTemplate id changes).Keeps inv) :
    (editTemplate id request).Preserves expected inv := by
  have afterwards (paths : Option PathMap) (written : ∀ given, paths = some given → given.Written) :
      Preserves expected inv (do
      let template ← commit (Tables.editTemplate id
        { name := request.name
          description := request.description
          paths
          hostDefault := request.hostDefault
          providers := request.providers
          leastPaths := request.leastPaths })
      emit (.templateEdited id)
      summarize template) :=
    (preserves_commit (edits _ rfl written)).bind fun _ =>
      (preserves_emit _).bind fun _ => summarize_preserves _
  unfold editTemplate
  dsimp only
  split
  · rw [bind_map_left]
    refine preserves_ofOutcome_bind fun paths read => afterwards _ ?_
    rintro _ ⟨⟩
    exact ⟨_, read⟩
  · rw [pure_bind]
    exact afterwards _ (by simp)

theorem editTemplate_preserves (id : String) (request : TemplateEdit) (edits : Edits inv id) :
    (editTemplate id request).Preserves expected inv :=
  editTemplate_preserves_of_asked id request fun changes _ => edits changes

theorem deleteTemplate_preserves (id : String)
    (deletes : (Tables.deleteTemplate id).Keeps inv) :
    (deleteTemplate id).Preserves expected inv :=
  (preserves_commit deletes).bind fun _ => preserves_emit _

theorem templates_preserves (filter : TemplateFilter) :
    (templates filter).Preserves expected inv :=
  (preserves_ask _).bind fun _ => preserves_mapM fun template _ => summarize_preserves template

theorem details_preserves (settings : PoolSettings) (ids : Option (List String))
    (records statistics syncFirst : Bool)
    (reconciles : syncFirst = true → Reconciles expected inv) :
    (details settings ids records statistics syncFirst).Preserves expected inv := by
  have listed (known : OrderedMap DeviceId DeviceRecord) (summaries : List TemplateSummary) :
      Preserves expected inv (summaries.mapM fun summary => do
        let paths ← askFor (·.pathMapping summary.template.id)
        let lists := paths.mapValues fun _ ids => ids.keys.filterMap known.get?
        return ({
          summary
          records := if records then some lists else none
          statistics := if statistics then some (Statistics.ofPaths paths known) else none } :
          TemplateDetails)) :=
    preserves_mapM fun _ _ => (preserves_askFor _).bind fun _ => preserves_pure _
  unfold details
  dsimp only
  split
  · next synced =>
    refine (sync_preserves settings (reconciles synced)).bind fun _ => ?_
    refine (templates_preserves _).bind fun summaries => ?_
    split
    · exact (preserves_ask _).bind fun known => listed known summaries
    · exact (preserves_pure _).bind fun known => listed known summaries
  · refine (templates_preserves _).bind fun summaries => ?_
    split
    · exact (preserves_ask _).bind fun known => listed known summaries
    · exact (preserves_pure _).bind fun known => listed known summaries

end Pool

/-! ## Workflows of volumes -/

/-- `inv` is kept by connecting and disconnecting devices.  Where it is true a connection makes a
`valid` change, and valid changes can be taken back. -/
structure ConnectionsKeep (valid : UsageChange → Prop) (inv : Tables → Prop) : Prop where
  connects : ∀ ⦃assigner : String⦄ (id : DeviceId), assigner ≠ "" →
    (Tables.addConnection id assigner).Keeps inv
  makes : ∀ ⦃tables after : Tables⦄ ⦃id : DeviceId⦄ ⦃assigner : String⦄ ⦃change : UsageChange⦄,
    inv tables → Tables.addConnection id assigner tables = .ok (change, after) → valid change
  restores : ∀ id change, valid change → (Tables.restoreUsage id change).Keeps inv
  disconnects : ∀ id assigner, (Tables.removeConnection id assigner).Keeps inv

namespace Rollback

variable {expected : Observation → Prop} {inv : Tables → Prop} {valid : UsageChange → Prop}

/-- Only valid changes are to be taken back. -/
def Holds (valid : UsageChange → Prop) (rollback : Rollback) : Prop :=
  ∀ entry ∈ rollback.connected, valid entry.2

theorem holds_nil {rollback : Rollback} (none : rollback.connected = []) :
    rollback.Holds valid := by
  intro entry member
  rw [none] at member
  cases member

theorem undoDedicate_preserves (assigner : String) (id : DeviceId) :
    (undoDedicate assigner id).Preserves expected inv := by
  unfold undoDedicate
  refine (preserves_call _).outcome.bind fun outcome => ?_
  cases outcome <;> exact preserves_pure _

theorem undoConnect_preserves (id : DeviceId) (change : UsageChange)
    (restores : (Tables.restoreUsage id change).Keeps inv) :
    (undoConnect id change).Preserves expected inv := by
  unfold undoConnect
  refine (Pool.restoreUsage_preserves id change restores).outcome.bind fun outcome => ?_
  cases outcome <;> exact preserves_pure _

theorem undoDisconnect_preserves (assigner : String) (id : DeviceId)
    (connects : (Tables.addConnection id assigner).Keeps inv) :
    (undoDisconnect assigner id).Preserves expected inv := by
  unfold undoDisconnect
  refine (Pool.addUsage_preserves id assigner connects).outcome.bind fun outcome => ?_
  cases outcome <;> exact preserves_pure _

section Undoing

variable {assigner : String} (keeps : ConnectionsKeep valid inv) (present : assigner ≠ "")

include keeps present

theorem undo_preserves {rollback : Rollback} (holds : rollback.Holds valid) :
    (rollback.undo assigner).Preserves expected inv := by
  unfold undo
  refine (preserves_mapM fun id _ => undoDedicate_preserves assigner id).bind fun dedicated => ?_
  refine (preserves_mapM fun entry member => ?_).bind fun connected => ?_
  · exact undoConnect_preserves entry.1 entry.2
      (keeps.restores entry.1 entry.2 (holds entry member))
  · refine (preserves_mapM fun id _ =>
      undoDisconnect_preserves assigner id (keeps.connects id present)).bind fun disconnected => ?_
    exact preserves_pure _

/-- Undoing ends with a failure, so whatever is wanted of its result is true. -/
theorem fail_delivers {α : Type} {good : α → Prop} {rollback : Rollback}
    (holds : rollback.Holds valid) (operation : String) (devices : List DeviceId)
    (cause : Failure) :
    Delivers expected inv (rollback.fail operation assigner devices cause : Workflow α) good := by
  unfold fail
  refine (preserves_measure _).delivers.bind fun _ _ => ?_
  refine (undo_preserves keeps present holds).delivers.bind fun results _ => ?_
  split <;> exact delivers_throw _

theorem fail_preserves {α : Type} {rollback : Rollback} (holds : rollback.Holds valid)
    (operation : String) (devices : List DeviceId) (cause : Failure) :
    Preserves expected inv (rollback.fail operation assigner devices cause : Workflow α) := by
  have delivers : Delivers expected inv
      (rollback.fail operation assigner devices cause : Workflow α) fun _ => True :=
    fail_delivers keeps present holds operation devices cause
  exact delivers.preserves

end Undoing

end Rollback

namespace Volume

variable {expected : Observation → Prop} {inv : Tables → Prop}

theorem requiredGuest_eq_ok {raw name : String} :
    requiredGuest raw = .ok name ↔ guestName raw ≠ "" ∧ name = guestName raw := by
  unfold requiredGuest
  by_cases blank : guestName raw = ""
  · simp [blank]
  · simp [blank, eq_comm]

theorem ne_empty_of_requiredGuest {raw name : String} (checked : requiredGuest raw = .ok name) :
    name ≠ "" := by
  obtain ⟨present, rfl⟩ := requiredGuest_eq_ok.1 checked
  exact present

section Changes

variable {valid : UsageChange → Prop} {assigner : String} (keeps : ConnectionsKeep valid inv)
  (present : assigner ≠ "")

include keeps present

theorem eachDevice_delivers (operation : String) (devices : List DeviceId)
    {step : Rollback → DeviceId → Workflow Rollback}
    (steps : ∀ rollback id, rollback.Holds valid →
      (step rollback id).Delivers expected inv (·.Holds valid))
    {rollback : Rollback} (holds : rollback.Holds valid) (left : List DeviceId) :
    (eachDevice operation assigner devices step rollback left).Delivers expected inv
      (·.Holds valid) := by
  induction left generalizing rollback with
  | nil => exact delivers_pure holds
  | cons id rest ih =>
    unfold eachDevice
    refine (steps rollback id holds).outcome.bind fun outcome found => ?_
    cases outcome with
    | ok rollback => exact ih (found rollback rfl)
    | error cause => exact Rollback.fail_delivers keeps present holds operation devices cause

theorem connect_delivers {rollback : Rollback} (holds : rollback.Holds valid) (id : DeviceId) :
    (connect assigner rollback id).Delivers expected inv (·.Holds valid) := by
  refine (Pool.addUsage_delivers id assigner (keeps.connects id present)
    fun _ _ _ before made => keeps.makes before made).bind fun change made => delivers_pure ?_
  exact List.forall_mem_cons.2 ⟨made, holds⟩

theorem attachAlone_preserves (connection : VolumeConnection) :
    (attachAlone assigner connection).Preserves expected inv := by
  have dedicating (rollback : Rollback) (id : DeviceId) (holds : rollback.Holds valid) :
      (dedicate assigner rollback id).Delivers expected inv (·.Holds valid) :=
    (preserves_call _).delivers.bind fun _ _ => delivers_pure holds
  unfold attachAlone
  extract_lets attaching
  have afterwards (ended : Unit) : (attaching ended).Preserves expected inv := by
    refine (eachDevice_delivers keeps present _ _
      (fun _ id holds => connect_delivers keeps present holds id) (Rollback.holds_nil rfl)
      _).bind_preserves fun connected holds => ?_
    split
    · exact preserves_pure _
    · refine (eachDevice_delivers keeps present _ _ dedicating holds _).bind_preserves
        fun dedicated held => ?_
      refine (preserves_call _).outcome.bind fun outcome => ?_
      cases outcome with
      | ok _ => exact preserves_pure _
      | error cause =>
        have usageOnly : Rollback.Holds valid { connected := dedicated.connected } := held
        exact Rollback.fail_preserves keeps present usageOnly _ _ _
  split
  · refine (preserves_call _).bind fun found => ?_
    split
    · exact (preserves_throw _).bind afterwards
    · exact afterwards ()
  · exact afterwards ()

/-- A detach has made no change of usage that would be taken back as it is. -/
theorem disconnectAll_delivers (devices : List DeviceId) {state : Detaching}
    (none : state.rollback.connected = []) (left : List DeviceId) :
    (disconnectAll assigner devices state left).Delivers expected inv
      (·.rollback.connected = []) := by
  have disconnecting (state : Detaching) (id : DeviceId) (none : state.rollback.connected = []) :
      (disconnect assigner state id).Delivers expected inv (·.rollback.connected = []) :=
    (Pool.decreaseUsage_preserves id assigner (keeps.disconnects id assigner)).delivers.bind
      fun _ _ => delivers_pure none
  induction left generalizing state with
  | nil => exact delivers_pure none
  | cons id rest ih =>
    unfold disconnectAll
    refine (disconnecting state id none).outcome.bind fun outcome found => ?_
    cases outcome with
    | ok state => exact ih (found state rfl)
    | error cause => exact Rollback.fail_delivers keeps present (Rollback.holds_nil none) _ _ _

theorem detachAlone_preserves (connection : VolumeConnection) :
    (detachAlone assigner connection).Preserves expected inv := by
  unfold detachAlone
  refine (disconnectAll_delivers keeps present _ rfl _).bind_preserves fun state none => ?_
  split
  · exact preserves_pure _
  · refine (preserves_call _).outcome.bind fun outcome => ?_
    extract_lets withdrawing
    have afterwards (ended : Unit) : (withdrawing ended).Preserves expected inv := by
      have withdrawn (id : DeviceId) : (withdraw assigner id).Preserves expected inv := by
        unfold withdraw
        refine (preserves_call _).outcome.bind fun outcome => ?_
        cases outcome <;> exact preserves_pure _
      refine (preserves_mapM fun id _ => withdrawn id).bind fun results => ?_
      split
      · exact preserves_pure _
      · exact preserves_throw _
    cases outcome with
    | ok _ => exact afterwards ()
    | error cause =>
      exact (Rollback.fail_preserves keeps present (Rollback.holds_nil none) _ _ _).bind afterwards

end Changes

theorem connector_preserves (settings : OperatorSettings) (request : ConnectorRequest)
    (reconciles : settings.pool.syncBeforeReserve = true → Reconciles expected inv)
    (reserves : ∀ ⦃assigner : String⦄ (found : Template) (id : String), assigner ≠ "" →
      (Tables.reserve assigner found id settings.pool.sameIndexPairing).Keeps inv) :
    (connector settings request).Preserves expected inv := by
  unfold connector
  refine preserves_ofOutcome_bind fun assigner checked => ?_
  refine Preserves.holding ?_ _
  dsimp only
  split
  · refine Preserves.bind (Preserves.adapt ?_ _) fun _ => preserves_pure _
    exact Pool.reserve_preserves _ _ _ _ reconciles fun found id =>
      reserves found id (ne_empty_of_requiredGuest checked)
  · refine Preserves.bind (Preserves.adapt (Pool.resolve_preserves _ _) _) fun template => ?_
    exact (Pool.held_preserves assigner template).bind fun records => preserves_pure _

theorem overwriteUsage_preserves (device : DeviceId) (usage : Usage)
    (overwrites : (Tables.setUsage device usage).Keeps inv) :
    (overwriteUsage device usage).Preserves expected inv := by
  refine (Pool.usageOf_preserves device).bind fun before => ?_
  refine Preserves.bind (Preserves.holdingAll ?_ _) fun finished => ?_
  · refine (Pool.usageOf_preserves device).bind fun now => ?_
    split
    · exact (Pool.setUsage_preserves device usage overwrites).bind fun _ => preserves_pure true
    · exact preserves_pure false
  · split
    · exact preserves_pure _
    · exact preserves_again

end Volume

/-! ## Actions -/

/-- `inv` is kept by everything but changes of usage: by reconciliations with expected listings, by
reservations and their release, and by the life of templates. -/
structure UpkeepKeeps (expected : Observation → Prop) (inv : Tables → Prop) : Prop where
  reconciles : Reconciles expected inv
  reserves : ∀ ⦃assigner : String⦄ (found : Template) (id : String) (pairing : Bool),
    assigner ≠ "" → (Tables.reserve assigner found id pairing).Keeps inv
  releases : ∀ assigner template, (Tables.release assigner template).Keeps inv
  creates : Creates expected inv
  edits : ∀ id, Edits inv id
  deletes : ∀ id, (Tables.deleteTemplate id).Keeps inv

/-- `inv` is kept by all changes of usage. -/
structure UsageChangesKeep (inv : Tables → Prop) : Prop where
  connects : ∀ ⦃assigner : String⦄ (id : DeviceId), assigner ≠ "" →
    (Tables.addConnection id assigner).Keeps inv
  restores : ∀ id change, (Tables.restoreUsage id change).Keeps inv
  disconnects : ∀ id assigner, (Tables.removeConnection id assigner).Keeps inv
  overwrites : ∀ id usage, (Tables.setUsage id usage).Keeps inv

/-- What is kept for everything one by one is kept for all of it. -/
theorem UpkeepKeeps.forall {ι : Type} {expected : Observation → Prop} {inv : ι → Tables → Prop}
    (each : ∀ index, UpkeepKeeps expected (inv index)) :
    UpkeepKeeps expected fun tables => ∀ index, inv index tables where
  reconciles _ _ _ sound parsed :=
    Transaction.keeps_forall fun index => (each index).reconciles sound parsed
  reserves _ found id pairing present :=
    Transaction.keeps_forall fun index => (each index).reserves found id pairing present
  releases assigner template :=
    Transaction.keeps_forall fun index => (each index).releases assigner template
  creates template paths providers sound written enough :=
    Transaction.keeps_forall fun index =>
      (each index).creates template paths providers sound written enough
  edits id changes written :=
    Transaction.keeps_forall fun index => (each index).edits id changes written
  deletes id := Transaction.keeps_forall fun index => (each index).deletes id

theorem UsageChangesKeep.forall {ι : Type} {inv : ι → Tables → Prop}
    (each : ∀ index, UsageChangesKeep (inv index)) :
    UsageChangesKeep fun tables => ∀ index, inv index tables where
  connects _ id present := Transaction.keeps_forall fun index => (each index).connects id present
  restores id change := Transaction.keeps_forall fun index => (each index).restores id change
  disconnects id assigner :=
    Transaction.keeps_forall fun index => (each index).disconnects id assigner
  overwrites id usage := Transaction.keeps_forall fun index => (each index).overwrites id usage

/-- When all changes of usage keep a statement, it does not matter which of them are taken back. -/
theorem UsageChangesKeep.connections {inv : Tables → Prop} (changes : UsageChangesKeep inv) :
    ConnectionsKeep (fun _ => True) inv where
  connects := changes.connects
  makes _ _ _ _ _ _ _ := trivial
  restores id change _ := changes.restores id change
  disconnects := changes.disconnects

/-- Whether the action is one of those that change the usage of devices one by one. -/
def Action.changesUsage : Action → Bool
  | .attach _ => true
  | .detach _ => true
  | .setUsage _ _ => true
  | _ => false

namespace Volume

variable {expected : Observation → Prop} {inv : Tables → Prop}

theorem run_preserves_of_upkeep (settings : OperatorSettings) (upkeep : UpkeepKeeps expected inv)
    {action : Action} (quiet : action.changesUsage = false) :
    (run settings action).Preserves expected inv := by
  cases action with
  | attach connection => cases quiet
  | detach connection => cases quiet
  | setUsage device usage => cases quiet
  | connector request =>
    exact (connector_preserves settings request (fun _ => upkeep.reconciles)
      fun _ found id present => upkeep.reserves found id _ present).map _
  | reserve assigner template provider =>
    unfold run
    refine preserves_ofOutcome_bind fun name checked => Preserves.map (Preserves.holding ?_ _) _
    exact Pool.reserve_preserves _ _ _ _ (fun _ => upkeep.reconciles) fun found id =>
      upkeep.reserves found id _ (ne_empty_of_requiredGuest checked)
  | unreserve assigner template =>
    unfold run
    refine preserves_ofOutcome_bind fun name _ => Preserves.map (Preserves.holding ?_ _) _
    exact Pool.unreserve_preserves name template (upkeep.releases name template)
  | createTemplate request => exact (Pool.createTemplate_preserves request upkeep.creates).map _
  | editTemplate template request =>
    exact ((Pool.editTemplate_preserves template request (upkeep.edits template)).holding _).map _
  | deleteTemplate template =>
    exact ((Pool.deleteTemplate_preserves template (upkeep.deletes template)).holding _).bind
      fun _ => preserves_pure _
  | templates query => exact (Pool.templates_preserves query.filter).map _
  | details templates records statistics syncFirst =>
    exact (Pool.details_preserves _ _ _ _ _ fun _ => upkeep.reconciles).map _
  | usage device => exact (Pool.usageOf_preserves device).map _
  | sync => exact (Pool.sync_preserves _ upkeep.reconciles).map _

theorem attach_preserves {valid : UsageChange → Prop} (keeps : ConnectionsKeep valid inv)
    (connection : VolumeConnection) : (attach connection).Preserves expected inv := by
  unfold attach
  refine preserves_ofOutcome_bind fun assigner checked => ?_
  refine (preserves_ofOutcome _).bind fun _ => Preserves.holding ?_ _
  exact attachAlone_preserves keeps (ne_empty_of_requiredGuest checked) connection

theorem detach_preserves {valid : UsageChange → Prop} (keeps : ConnectionsKeep valid inv)
    (connection : VolumeConnection) : (detach connection).Preserves expected inv := by
  unfold detach
  refine preserves_ofOutcome_bind fun assigner checked => ?_
  refine (preserves_ofOutcome _).bind fun _ => Preserves.holding ?_ _
  exact detachAlone_preserves keeps (ne_empty_of_requiredGuest checked) connection

/-- Every action but an overwriting goes back to upkeep, to connections and to taking them back. -/
theorem run_preserves_of_connections (settings : OperatorSettings)
    (upkeep : UpkeepKeeps expected inv) {valid : UsageChange → Prop}
    (keeps : ConnectionsKeep valid inv) {action : Action}
    (other : ∀ device usage, action ≠ .setUsage device usage) :
    (run settings action).Preserves expected inv := by
  cases quiet : action.changesUsage with
  | false => exact run_preserves_of_upkeep settings upkeep quiet
  | true =>
    cases action with
    | attach connection =>
      exact (attach_preserves keeps connection).bind fun _ => preserves_pure _
    | detach connection =>
      exact (detach_preserves keeps connection).bind fun _ => preserves_pure _
    | setUsage device usage => exact absurd rfl (other device usage)
    | _ => cases quiet

theorem run_preserves (settings : OperatorSettings) (upkeep : UpkeepKeeps expected inv)
    (changes : UsageChangesKeep inv) (action : Action) :
    (run settings action).Preserves expected inv := by
  by_cases overwrites : ∃ device usage, action = .setUsage device usage
  · obtain ⟨device, usage, rfl⟩ := overwrites
    exact (overwriteUsage_preserves device _ (changes.overwrites device _)).bind
      fun _ => preserves_pure _
  · exact run_preserves_of_connections settings upkeep changes.connections
      fun device usage same => overwrites ⟨device, usage, same⟩

/-- An action preserves when it is dispatched what it preserves when it is run. -/
theorem dispatch_preserves {settings : OperatorSettings} {action : Action}
    (preserves : (run settings action).Preserves expected inv) :
    (dispatch settings action).Preserves expected inv :=
  preserves.outcome.bind fun _ => (preserves_measure _).bind fun _ => preserves_ofOutcome _

end Volume

end FibrePool
