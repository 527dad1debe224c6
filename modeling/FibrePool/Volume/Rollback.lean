import FibrePool.Pool.Operation

/-!
# Rollback

A workflow that changes several devices collects what would undo its steps.  When a later step fails
everything collected is undone, the latest first; what cannot be undone is reported, and so is what
was put back.
-/

namespace FibrePool

set_option autoImplicit false

/-- Collected steps to undo, the latest first. -/
structure Rollback where
  /-- Devices to take from the guest again. -/
  dedicated : List DeviceId := []
  /-- Usage changes to take back. -/
  connected : List (DeviceId × UsageChange) := []
  /-- Devices whose connection is to be added again. -/
  disconnected : List DeviceId := []

namespace Rollback

/-- What became of the undoing of one step. -/
inductive Result where
  | putBack (device : String)
  | undone
  | failed (reason : String)

/-- The devices that were put back. -/
def putBack (results : List Result) : List String :=
  results.filterMap fun
    | .putBack device => some device
    | _ => none

/-- The reasons for which steps could not be undone. -/
def failures (results : List Result) : List String :=
  results.filterMap fun
    | .failed reason => some reason
    | _ => none

/-- Takes a device from the guest again. -/
def undoDedicate (assigner : String) (id : DeviceId) : Workflow Result := do
  match ← Workflow.outcome (Workflow.call (.undedicate id assigner)) with
  | .ok _ => return .undone
  | .error failure => return .failed s!"undedicate {id}: {failure.message}"

/-- Takes a usage change back. -/
def undoConnect (id : DeviceId) (change : UsageChange) : Workflow Result := do
  match ← Workflow.outcome (Pool.restoreUsage id change) with
  | .ok _ => return .putBack id.text
  | .error failure => return .failed s!"restore usage {id}: {failure.message}"

/-- Adds a removed connection again. -/
def undoDisconnect (assigner : String) (id : DeviceId) : Workflow Result := do
  match ← Workflow.outcome (Pool.addUsage id assigner) with
  | .ok _ => return .putBack id.text
  | .error failure => return .failed s!"increase usage {id}: {failure.message}"

/-- Undoes every collected step. -/
def undo (rollback : Rollback) (assigner : String) : Workflow (List Result) := do
  let dedicated ← rollback.dedicated.mapM (undoDedicate assigner)
  let connected ← rollback.connected.mapM fun (id, change) => undoConnect id change
  let disconnected ← rollback.disconnected.mapM (undoDisconnect assigner)
  return dedicated ++ connected ++ disconnected

/-- The failure that a caller is told of when an operation on `devices` failed and everything was
undone: the cause itself where it is about the request, otherwise the operation with the cause. -/
def failureOf (operation : String) (devices : List DeviceId) (rolledBack : List String) :
    Failure → Failure
  | .conflict reason => .conflict reason
  | .deviceNotFound device => .deviceNotFound device
  | .invalidParameter reason => .invalidParameter reason
  | .operation step reason _ _ =>
    .operation operation s!"{step}: {reason}" (devices.map DeviceId.text) rolledBack
  | cause => .operation operation cause.message (devices.map DeviceId.text) rolledBack

/-- Undoes every collected step and fails. -/
def fail {α : Type} (rollback : Rollback) (operation assigner : String) (devices : List DeviceId)
    (cause : Failure) : Workflow α := do
  Workflow.measure (.rolledBack operation)
  let results ← rollback.undo assigner
  match failures results with
  | [] => throw (failureOf operation devices (putBack results) cause)
  | errors => throw (.rollbackIncomplete operation cause.message errors)

end Rollback

end FibrePool
