import FibrePool.Proofs.Conduct
import Mathlib.Data.Finset.Basic
import Mathlib.Data.String.Basic

/-!
# Statements about all parts of a workflow

Many statements about workflows hold of a whole as soon as they hold of its parts: that it comes to
an end, that it takes its locks in order, that it makes no call of a certain kind.  They may depend
on the locks that are held, and taking a lock is then possible where it comes after all of these.

`Workflow.Compositional` collects what such a statement has to say about the steps that operations
are made of, except for calls that have another system do something.  Every operation of the pool
and every action that makes no such call is followed through its steps once, for all statements of
this kind together.

A statement need not be true of a transaction alone, because it has to be followed by something, for
it to be true of whole operations of the pool (`Workflow.Assembled`).  That is enough to follow the
actions.
-/

namespace FibrePool

set_option autoImplicit false

open Workflow

/-- Whether the other system does something when it is asked. -/
def Call.acts : Call → Bool
  | .listDevices _ => false
  | .guestExists _ => false
  | .dedicate _ _ => true
  | .undedicate _ _ => true
  | .configureAttach _ => true
  | .configureDetach _ => true

/-- The key comes after the keys of all locks that are held. -/
def Below (held : Finset String) (key : String) : Prop := ∀ other ∈ held, other < key

namespace Workflow

/-- A statement about workflows, and about the locks held around them, that is true of a workflow
when it is true of its parts, where these change no tables. -/
structure Plain (holds : Finset String → ∀ {α : Type}, Workflow α → Prop) : Prop where
  pure : ∀ held {α : Type} (value : α), holds held (pure value)
  throw : ∀ held {α : Type} (failure : Failure), holds held (throw failure : Workflow α)
  bind : ∀ {held} {α β : Type} {workflow : Workflow α} {next : α → Workflow β},
    holds held workflow → (∀ value, holds held (next value)) → holds held (workflow >>= next)
  outcome : ∀ {held} {α : Type} {workflow : Workflow α}, holds held workflow →
    holds held workflow.outcome
  adapt : ∀ {held} {α : Type} {workflow : Workflow α}, holds held workflow →
    ∀ change : Failure → Failure, holds held (workflow.adapt change : Workflow α)
  holding : ∀ {held key} {α : Type} {workflow : Workflow α}, Below held key →
    holds (insert key held) workflow → holds held (holding key workflow)
  ask : ∀ held {α : Type} (question : Tables → α), holds held (ask question)
  askFor : ∀ held {α : Type} (question : Tables → Outcome α), holds held (askFor question)
  look : ∀ held {request}, request.acts = false → holds held (call request)
  measure : ∀ held taken, holds held (measure taken)
  stamp : ∀ held, holds held stamp

/-- The statement is true of transactions and of events as well, and so of everything that is made
of them. -/
structure Compositional (holds : Finset String → ∀ {α : Type}, Workflow α → Prop) : Prop
    extends Plain holds where
  commit : ∀ held {α : Type} (change : Transaction α), holds held (commit change)
  emit : ∀ held event, holds held (emit event)

/-- The statement is true of the operations of the pool that change tables. -/
structure Assembled (holds : Finset String → ∀ {α : Type}, Workflow α → Prop) : Prop
    extends Plain holds where
  sync : ∀ {held} settings, Below held syncKey → holds held (Pool.sync settings)
  reserve : ∀ {held} settings, Below held syncKey → ∀ assigner template provider,
    holds held (Pool.reserve settings assigner template provider)
  unreserve : ∀ held assigner template, holds held (Pool.unreserve assigner template)
  addUsage : ∀ held id assigner, holds held (Pool.addUsage id assigner)
  restoreUsage : ∀ held id change, holds held (Pool.restoreUsage id change)
  decreaseUsage : ∀ held id assigner, holds held (Pool.decreaseUsage id assigner)
  setUsage : ∀ held id usage, holds held (Pool.setUsage id usage)
  createTemplate : ∀ held request, holds held (Pool.createTemplate request)
  editTemplate : ∀ held id request, holds held (Pool.editTemplate id request)
  deleteTemplate : ∀ held id, holds held (Pool.deleteTemplate id)

section

variable {holds : Finset String → ∀ {α : Type}, Workflow α → Prop} {held : Finset String}
  {α β : Type}

/-! ## Looking -/

namespace Plain

variable (parts : Plain holds)

include parts

theorem map {workflow : Workflow β} (whole : holds held workflow) (change : β → α) :
    holds held (change <$> workflow) := by
  rw [map_eq_pure_bind]
  exact parts.bind whole fun value => parts.pure held (change value)

theorem ofOutcome (held : Finset String) (outcome : Outcome α) :
    holds held (Workflow.ofOutcome outcome) := by
  cases outcome with
  | ok value => exact parts.pure held value
  | error failure => exact parts.throw held failure

theorem mapM (held : Finset String) {items : List β} {step : β → Workflow α}
    (each : ∀ item, holds held (step item)) : holds held (items.mapM step) := by
  induction items with
  | nil => exact parts.pure held []
  | cons item rest ih =>
    rw [List.mapM_cons]
    refine parts.bind (each item) fun value => ?_
    exact parts.bind ih fun values => parts.pure held (value :: values)

theorem resolve (held : Finset String) (template provider : Option String) :
    holds held (Pool.resolve template provider) := by
  unfold Pool.resolve
  split
  · exact parts.bind (parts.askFor _ _) fun _ => parts.pure _ _
  · extract_lets fallback
    have falling (bound : Option String) : holds held (fallback bound) := by
      unfold fallback
      cases bound with
      | some id => exact parts.pure held id
      | none =>
        refine parts.bind (parts.ask _ _) fun default => ?_
        cases default with
        | some id => exact parts.pure held id
        | none => exact parts.throw held _
    split
    · exact parts.bind (parts.ask _ _) falling
    · exact parts.bind (parts.pure _ _) falling

theorem heldDevices (held : Finset String) (assigner template : String) :
    holds held (Pool.held assigner template) := by
  refine parts.bind (parts.askFor _ _) fun paths => ?_
  refine parts.bind ?_ fun found => parts.pure _ _
  exact parts.mapM _ fun ids => parts.bind (parts.ask _ _) fun records => parts.pure _ _

theorem usageOf (held : Finset String) (id : DeviceId) : holds held (Pool.usageOf id) :=
  parts.bind (parts.askFor _ _) fun _ => parts.pure _ _

theorem summarize (held : Finset String) (template : Template) :
    holds held (Pool.summarize template) :=
  parts.bind (parts.askFor _ _) fun _ => parts.bind (parts.ask _ _) fun _ => parts.pure _ _

theorem templates (held : Finset String) (filter : TemplateFilter) :
    holds held (Pool.templates filter) :=
  parts.bind (parts.ask _ _) fun _ => parts.mapM _ fun template => parts.summarize held template

end Plain

/-! ## Operations of the pool -/

namespace Compositional

variable (parts : Compositional holds)

include parts

theorem sync (settings : PoolSettings) (free : Below held syncKey) :
    holds held (Pool.sync settings) := by
  refine parts.holding free ?_
  refine parts.bind (parts.look _ rfl) fun listing => ?_
  refine parts.bind (parts.ofOutcome _ _) fun devices => ?_
  refine parts.bind (parts.commit _ _) fun outcome => ?_
  exact parts.bind (parts.emit _ _) fun _ => parts.pure _ _

theorem reserve (settings : PoolSettings) (free : Below held syncKey) (assigner : String)
    (template provider : Option String) :
    holds held (Pool.reserve settings assigner template provider) := by
  unfold Pool.reserve
  refine parts.bind (parts.resolve held template provider) fun id => ?_
  refine parts.bind (parts.askFor _ _) fun found => ?_
  have afterwards : holds held (do
      let devices ← Workflow.commit (Tables.reserve assigner found id settings.sameIndexPairing)
      if !devices.isEmpty then
        Workflow.emit (.devicesReserved assigner id (devices.map (·.id.text)))
      return ({ template := id, devices } : Reservation)) := by
    refine parts.bind (parts.commit _ _) fun devices => ?_
    split
    · exact parts.bind (parts.emit _ _) fun _ => parts.pure _ _
    · exact parts.pure _ _
  split
  · exact parts.bind (parts.sync settings free) fun _ => afterwards
  · exact afterwards

theorem unreserve (held : Finset String) (assigner template : String) :
    holds held (Pool.unreserve assigner template) := by
  have afterwards : holds held (do
      let released ← Workflow.commit (Tables.release assigner template)
      if !released.isEmpty then
        Workflow.emit (.devicesReleased assigner template (released.map (·.id.text)))
      return released) := by
    refine parts.bind (parts.commit _ _) fun released => ?_
    split
    · exact parts.bind (parts.emit _ _) fun _ => parts.pure _ _
    · exact parts.pure _ _
  unfold Pool.unreserve
  split
  · exact parts.bind (parts.throw _ _) fun _ => afterwards
  · exact afterwards

theorem addUsage (held : Finset String) (id : DeviceId) (assigner : String) :
    holds held (Pool.addUsage id assigner) :=
  parts.bind (parts.commit _ _) fun _ => parts.bind (parts.emit _ _) fun _ => parts.pure _ _

theorem restoreUsage (held : Finset String) (id : DeviceId) (change : UsageChange) :
    holds held (Pool.restoreUsage id change) :=
  parts.bind (parts.commit _ _) fun _ => parts.emit _ _

theorem decreaseUsage (held : Finset String) (id : DeviceId) (assigner : String) :
    holds held (Pool.decreaseUsage id assigner) :=
  parts.bind (parts.commit _ _) fun _ => parts.bind (parts.emit _ _) fun _ => parts.pure _ _

theorem setUsage (held : Finset String) (id : DeviceId) (usage : Usage) :
    holds held (Pool.setUsage id usage) :=
  parts.bind (parts.commit _ _) fun _ => parts.emit _ _

theorem createTemplate (held : Finset String) (request : NewTemplate) :
    holds held (Pool.createTemplate request) := by
  refine parts.bind (parts.ofOutcome _ _) fun paths => ?_
  refine parts.bind (parts.ofOutcome _ _) fun _ => ?_
  refine parts.bind (parts.stamp _) fun fresh => ?_
  refine parts.bind (parts.commit _ _) fun _ => ?_
  exact parts.bind (parts.emit _ _) fun _ => parts.summarize _ _

theorem editTemplate (held : Finset String) (id : String) (request : TemplateEdit) :
    holds held (Pool.editTemplate id request) := by
  have afterwards (paths : Option PathMap) : holds held (do
      let template ← Workflow.commit (Tables.editTemplate id
        { name := request.name
          description := request.description
          paths
          hostDefault := request.hostDefault
          providers := request.providers
          leastPaths := request.leastPaths })
      Workflow.emit (.templateEdited id)
      Pool.summarize template) :=
    parts.bind (parts.commit _ _) fun _ =>
      parts.bind (parts.emit _ _) fun _ => parts.summarize _ _
  unfold Pool.editTemplate
  dsimp only
  split
  · exact parts.bind (parts.map (parts.ofOutcome _ _) some) afterwards
  · exact parts.bind (parts.pure _ _) afterwards

theorem deleteTemplate (held : Finset String) (id : String) :
    holds held (Pool.deleteTemplate id) :=
  parts.bind (parts.commit _ _) fun _ => parts.emit _ _

/-- What is true of all steps is true of the operations that are made of them. -/
theorem assembled : Assembled holds where
  toPlain := parts.toPlain
  sync := parts.sync
  reserve := parts.reserve
  unreserve := parts.unreserve
  addUsage := parts.addUsage
  restoreUsage := parts.restoreUsage
  decreaseUsage := parts.decreaseUsage
  setUsage := parts.setUsage
  createTemplate := parts.createTemplate
  editTemplate := parts.editTemplate
  deleteTemplate := parts.deleteTemplate

end Compositional

/-! ## Actions -/

namespace Compositional

/-- The lock of a guest comes before that of reconciliations. -/
theorem below_syncKey (guest : String) : Below (insert (Volume.guestKey guest) ∅) syncKey := by
  intro key member
  obtain rfl : key = Volume.guestKey guest := by simpa using member
  rw [String.lt_iff_toList_lt, Volume.guestKey, String.toList_append]
  exact List.Lex.rel (by decide)

theorem below_of_empty (key : String) : Below ∅ key := by
  intro other member
  simp at member

end Compositional

namespace Assembled

section

variable (parts : Assembled holds)

include parts

theorem details (settings : PoolSettings) (free : Below held syncKey)
    (ids : Option (List String)) (records statistics syncFirst : Bool) :
    holds held (Pool.details settings ids records statistics syncFirst) := by
  have listed (known : OrderedMap DeviceId DeviceRecord) (summaries : List TemplateSummary) :
      holds held (summaries.mapM fun summary => do
        let paths ← Workflow.askFor (·.pathMapping summary.template.id)
        let lists := paths.mapValues fun _ ids => ids.keys.filterMap known.get?
        return ({
          summary
          records := if records then some lists else none
          statistics := if statistics then some (Statistics.ofPaths paths known) else none } :
          TemplateDetails)) :=
    parts.mapM _ fun _ => parts.bind (parts.askFor _ _) fun _ => parts.pure _ _
  unfold Pool.details
  extract_lets finding
  have found (ended : Unit) : holds held (finding ended) := by
    unfold finding
    refine parts.bind (parts.templates _ _) fun summaries => ?_
    dsimp only
    split
    · exact parts.bind (parts.ask _ _) fun known => listed known summaries
    · exact parts.bind (parts.pure _ _) fun known => listed known summaries
  split
  · exact parts.bind (parts.sync settings free) fun _ => found ()
  · exact found ()

end

section

variable (parts : Assembled holds) (settings : OperatorSettings)

include parts

theorem connector (request : ConnectorRequest) : holds ∅ (Volume.connector settings request) := by
  unfold Volume.connector
  refine parts.bind (parts.ofOutcome _ _) fun assigner => ?_
  refine parts.holding (Compositional.below_of_empty _) ?_
  dsimp only
  split
  · refine parts.bind (parts.adapt ?_ _) fun _ => parts.pure _ _
    exact parts.reserve _ (Compositional.below_syncKey assigner) _ _ _
  · refine parts.bind (parts.adapt (parts.resolve _ _ _) _) fun template => ?_
    exact parts.bind (parts.heldDevices _ _ _) fun records => parts.pure _ _

/-- What is true of the parts is true of every action that does not change the usage of devices one
by one. -/
theorem run {action : Action} (quiet : action.changesUsage = false) :
    holds ∅ (Volume.run settings action) := by
  cases action with
  | attach connection => cases quiet
  | detach connection => cases quiet
  | setUsage device usage => cases quiet
  | connector request => exact parts.map (parts.connector settings request) _
  | reserve assigner template provider =>
    refine parts.bind (parts.ofOutcome _ _) fun name => parts.map ?_ _
    refine parts.holding (Compositional.below_of_empty _) ?_
    exact parts.reserve _ (Compositional.below_syncKey name) _ _ _
  | unreserve assigner template =>
    refine parts.bind (parts.ofOutcome _ _) fun name => parts.map ?_ _
    exact parts.holding (Compositional.below_of_empty _) (parts.unreserve _ _ _)
  | createTemplate request => exact parts.map (parts.createTemplate _ request) _
  | editTemplate template request =>
    refine parts.map (parts.holding (Compositional.below_of_empty _) ?_) _
    exact parts.editTemplate _ template request
  | deleteTemplate template =>
    refine parts.bind ?_ fun _ => parts.pure _ _
    exact parts.holding (Compositional.below_of_empty _) (parts.deleteTemplate _ template)
  | templates query => exact parts.map (parts.templates _ query.filter) _
  | details templates records statistics syncFirst =>
    exact parts.map (parts.details _ (Compositional.below_of_empty _) _ _ _ _) _
  | usage device => exact parts.map (parts.usageOf _ device) _
  | sync => exact parts.map (parts.sync _ (Compositional.below_of_empty _)) _

theorem dispatch {action : Action} (whole : holds ∅ (Volume.run settings action)) :
    holds ∅ (Volume.dispatch settings action) := by
  refine parts.bind (parts.outcome whole) fun outcome => ?_
  exact parts.bind (parts.measure _ _) fun _ => parts.ofOutcome _ _

end

/-! ## Workflows of volumes -/

section

variable (parts : Assembled holds)
  (acting : ∀ held request, holds held (Workflow.call request)) (assigner : String)

include parts acting

theorem fail (held : Finset String) (rollback : Rollback) (operation : String)
    (devices : List DeviceId) (cause : Failure) :
    holds held (rollback.fail operation assigner devices cause : Workflow α) := by
  have dedicated (id : DeviceId) : holds held (Rollback.undoDedicate assigner id) := by
    unfold Rollback.undoDedicate
    refine parts.bind (parts.outcome (acting _ _)) fun outcome => ?_
    cases outcome <;> exact parts.pure _ _
  have connected (entry : DeviceId × UsageChange) :
      holds held (Rollback.undoConnect entry.1 entry.2) := by
    unfold Rollback.undoConnect
    refine parts.bind (parts.outcome (parts.restoreUsage _ _ _)) fun outcome => ?_
    cases outcome <;> exact parts.pure _ _
  have disconnected (id : DeviceId) : holds held (Rollback.undoDisconnect assigner id) := by
    unfold Rollback.undoDisconnect
    refine parts.bind (parts.outcome (parts.addUsage _ _ _)) fun outcome => ?_
    cases outcome <;> exact parts.pure _ _
  have undone : holds held (rollback.undo assigner) := by
    refine parts.bind (parts.mapM _ dedicated) fun _ => ?_
    refine parts.bind (parts.mapM _ connected) fun _ => ?_
    exact parts.bind (parts.mapM _ disconnected) fun _ => parts.pure _ _
  unfold Rollback.fail
  refine parts.bind (parts.measure _ _) fun _ => parts.bind undone fun results => ?_
  split <;> exact parts.throw _ _

theorem eachDevice (operation : String) (devices : List DeviceId)
    {step : Rollback → DeviceId → Workflow Rollback}
    (steps : ∀ rollback id, holds held (step rollback id)) (rollback : Rollback)
    (left : List DeviceId) :
    holds held (Volume.eachDevice operation assigner devices step rollback left) := by
  induction left generalizing rollback with
  | nil => exact parts.pure held rollback
  | cons id rest ih =>
    unfold Volume.eachDevice
    refine parts.bind (parts.outcome (steps rollback id)) fun outcome => ?_
    cases outcome with
    | ok rollback => exact ih rollback
    | error cause => exact parts.fail acting assigner held rollback operation devices cause

theorem attachAlone (held : Finset String) (connection : VolumeConnection) :
    holds held (Volume.attachAlone assigner connection) := by
  have connecting (rollback : Rollback) (id : DeviceId) :
      holds held (Volume.connect assigner rollback id) :=
    parts.bind (parts.addUsage _ _ _) fun _ => parts.pure _ _
  have dedicating (rollback : Rollback) (id : DeviceId) :
      holds held (Volume.dedicate assigner rollback id) :=
    parts.bind (acting _ _) fun _ => parts.pure _ _
  unfold Volume.attachAlone
  extract_lets attaching
  have afterwards (ended : Unit) : holds held (attaching ended) := by
    refine parts.bind (parts.eachDevice acting _ _ _ connecting _ _) fun connected => ?_
    split
    · exact parts.pure _ _
    · refine parts.bind (parts.eachDevice acting _ _ _ dedicating _ _) fun dedicated => ?_
      refine parts.bind (parts.outcome (acting _ _)) fun outcome => ?_
      cases outcome with
      | ok _ => exact parts.pure _ _
      | error cause => exact parts.fail acting _ _ _ _ _ _
  split
  · refine parts.bind (acting _ _) fun found => ?_
    split
    · exact parts.bind (parts.throw _ _) afterwards
    · exact afterwards ()
  · exact afterwards ()

theorem detachAlone (held : Finset String) (connection : VolumeConnection) :
    holds held (Volume.detachAlone assigner connection) := by
  have disconnecting (state : Volume.Detaching) (id : DeviceId) :
      holds held (Volume.disconnect assigner state id) :=
    parts.bind (parts.decreaseUsage _ _ _) fun _ => parts.pure _ _
  have disconnected (state : Volume.Detaching) (left : List DeviceId) :
      holds held (Volume.disconnectAll assigner connection.devices state left) := by
    induction left generalizing state with
    | nil => exact parts.pure held state
    | cons id rest ih =>
      unfold Volume.disconnectAll
      refine parts.bind (parts.outcome (disconnecting state id)) fun outcome => ?_
      cases outcome with
      | ok state => exact ih state
      | error cause => exact parts.fail acting _ _ _ _ _ _
  have withdrawn (id : DeviceId) : holds held (Volume.withdraw assigner id) := by
    unfold Volume.withdraw
    refine parts.bind (parts.outcome (acting _ _)) fun outcome => ?_
    cases outcome <;> exact parts.pure _ _
  unfold Volume.detachAlone
  refine parts.bind (disconnected _ _) fun state => ?_
  split
  · exact parts.pure _ _
  · refine parts.bind (parts.outcome (acting _ _)) fun outcome => ?_
    extract_lets withdrawing
    have afterwards (ended : Unit) : holds held (withdrawing ended) := by
      refine parts.bind (parts.mapM _ withdrawn) fun results => ?_
      split
      · exact parts.pure _ _
      · exact parts.throw _ _
    cases outcome with
    | ok _ => exact afterwards ()
    | error cause => exact parts.bind (parts.fail acting _ _ _ _ _ _) afterwards

end

end Assembled

/-! ## Statements about steps -/

namespace Compositional

variable (parts : Compositional holds)

include parts

theorem run (settings : OperatorSettings) {action : Action} (quiet : action.changesUsage = false) :
    holds ∅ (Volume.run settings action) :=
  parts.assembled.run settings quiet

theorem dispatch (settings : OperatorSettings) {action : Action}
    (whole : holds ∅ (Volume.run settings action)) : holds ∅ (Volume.dispatch settings action) :=
  parts.assembled.dispatch settings whole

theorem attachAlone (acting : ∀ held request, holds held (Workflow.call request))
    (assigner : String) (held : Finset String) (connection : VolumeConnection) :
    holds held (Volume.attachAlone assigner connection) :=
  parts.assembled.attachAlone acting assigner held connection

theorem detachAlone (acting : ∀ held request, holds held (Workflow.call request))
    (assigner : String) (held : Finset String) (connection : VolumeConnection) :
    holds held (Volume.detachAlone assigner connection) :=
  parts.assembled.detachAlone acting assigner held connection

end Compositional

end

end Workflow

end FibrePool
