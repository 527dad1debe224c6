import FibrePool.Volume.Action
import FibrePool.Volume.Detach

/-!
# Running actions

Every action is run by `dispatch`, which counts how it ended.  What is done for a guest happens
under the lock of that guest, and what changes the structure of a template under the lock of the
template.  Overwriting a usage concerns two guests, the one that holds the device and the one that
gets it, so it takes both locks, and starts anew when the device has changed hands before it had
them.
-/

namespace FibrePool

set_option autoImplicit false

/-- How the operator is set up. -/
structure OperatorSettings where
  /-- The name of the partition. -/
  partition : String
  pool : PoolSettings
  deriving DecidableEq, Repr, Inhabited

namespace Volume

/-- The lock of structural changes to one template. -/
def templateKey (id : String) : String := "template-" ++ id

/-- The failure of a connector whose template does not exist. -/
def connectorFailure : Failure → Failure
  | .templateNotFound id =>
    .ofStep "get_volume_connector" s!"FCP template {id} does not exist"
  | failure => failure

/-- What a guest needs to reach its storage. -/
def connector (settings : OperatorSettings) (request : ConnectorRequest) : Workflow Connector := do
  let assigner ← Workflow.ofOutcome (requiredGuest request.assigner)
  Workflow.holding (guestKey assigner) do
    let host := settings.partition ++ "_" ++ assigner
    if request.reserve then
      let reserving := Pool.reserve settings.pool assigner request.template request.provider
      let reservation ← reserving.adapt connectorFailure
      return .ofRecords host reservation.template reservation.devices
    else
      let template ← (Pool.resolve request.template request.provider).adapt connectorFailure
      let records ← Pool.held assigner template
      return .ofRecords host template records

/-- The locks that an overwriting of usage takes, in order. -/
def overwriteKeys (owner assigner : String) : List String :=
  match ([owner, assigner].filter (· ≠ "")).map guestKey with
  | [first, second] =>
    match compare first second with
    | .lt => [first, second]
    | .eq => [first]
    | .gt => [second, first]
  | keys => keys

/-- Overwrites the usage of a device under the locks of its present and its new assigner.  Nothing
precedes the first step, so starting the task anew is trying again. -/
def overwriteUsage (device : DeviceId) (usage : Usage) : Workflow Unit := do
  let before ← Pool.usageOf device
  let finished ← Workflow.holdingAll (overwriteKeys before.assigner usage.assigner) do
    let now ← Pool.usageOf device
    if now.assigner = before.assigner then
      Pool.setUsage device usage
      return true
    else
      return false
  if finished then return else Workflow.ofProgram .again

/-- Runs an action. -/
def run (settings : OperatorSettings) : Action → Workflow Output
  | .attach connection => do
    attach connection
    return .done
  | .detach connection => do
    detach connection
    return .done
  | .connector request => .connector <$> connector settings request
  | .reserve assigner template provider => do
    let assigner ← Workflow.ofOutcome (requiredGuest assigner)
    .reservation <$> Workflow.holding (guestKey assigner)
      (Pool.reserve settings.pool assigner template provider)
  | .unreserve assigner template => do
    let assigner ← Workflow.ofOutcome (requiredGuest assigner)
    .released <$> Workflow.holding (guestKey assigner) (Pool.unreserve assigner template)
  | .createTemplate request => .template <$> Pool.createTemplate request
  | .editTemplate template request =>
    .template <$> Workflow.holding (templateKey template) (Pool.editTemplate template request)
  | .deleteTemplate template => do
    Workflow.holding (templateKey template) (Pool.deleteTemplate template)
    return .done
  | .templates query => .templates <$> Pool.templates query.filter
  | .details templates records statistics syncFirst =>
    .details <$> Pool.details settings.pool templates records statistics syncFirst
  | .usage device => .usage <$> Pool.usageOf device
  | .setUsage device usage => do
    overwriteUsage device { usage with assigner := guestName usage.assigner }
    return .done
  | .sync => .synced <$> Pool.sync settings.pool

/-- Whether an outcome is a result. -/
def succeeded {α : Type} : Outcome α → Bool
  | .ok _ => true
  | .error _ => false

/-- Runs an action and counts how it ended. -/
def dispatch (settings : OperatorSettings) (action : Action) : Workflow Output := do
  let outcome ← (run settings action).outcome
  Workflow.measure (.finished action.name (succeeded outcome))
  Workflow.ofOutcome outcome

end Volume

end FibrePool
