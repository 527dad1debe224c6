import FibrePool.Volume.Attach

/-!
# Detaching volumes

A detach removes a connection of every device of its request, has the guest remove the volume, and
takes from the guest the devices that have no connection left.  Once the guest has removed the
volume nothing is undone any more: devices that cannot be taken are reported, and the connections
stay removed.
-/

namespace FibrePool

set_option autoImplicit false

namespace Volume

/-- What a detach knows after some of its devices. -/
structure Detaching where
  rollback : Rollback := {}
  /-- The connections that are left on the devices so far. -/
  remaining : UInt32 := 0
  /-- The devices without connections, the latest first. -/
  drained : List DeviceId := []

/-- Removes a connection of a device. -/
def disconnect (assigner : String) (state : Detaching) (id : DeviceId) : Workflow Detaching := do
  let left ← Pool.decreaseUsage id assigner
  return {
    rollback := { state.rollback with disconnected := id :: state.rollback.disconnected }
    remaining := state.remaining + left
    drained := if left = 0 then id :: state.drained else state.drained }

/-- Removes a connection of every device; the first failure adds them all again. -/
def disconnectAll (assigner : String) (devices : List DeviceId) (state : Detaching) :
    List DeviceId → Workflow Detaching
  | [] => pure state
  | id :: rest => do
    match ← Workflow.outcome (disconnect assigner state id) with
    | .ok state => disconnectAll assigner devices state rest
    | .error cause => state.rollback.fail "detach" assigner devices cause

/-- Takes a device from the guest; a failure is given with the device. -/
def withdraw (assigner : String) (id : DeviceId) : Workflow (Option (String × String)) := do
  match ← Workflow.outcome (Workflow.call (.undedicate id assigner)) with
  | .ok _ => return none
  | .error failure => return some (id.text, s!"{id}: {failure.message}")

/-- The failure of a detach that could not take some devices from the guest. -/
def notWithdrawn (failed : List (String × String)) : Failure :=
  .operation "detach" ("undedicate failed: " ++ "; ".intercalate (failed.map (·.2)))
    (failed.map (·.1)) []

/-- Detaches a volume while nothing else is done for the guest. -/
def detachAlone (assigner : String) (connection : VolumeConnection) : Workflow Unit := do
  let state ← disconnectAll assigner connection.devices {} connection.devices
  if connection.skipsSideEffects then return
  let removal : GuestRemoval :=
    { volume := connection.inGuest assigner, remainingConnections := state.remaining }
  match ← Workflow.outcome (Workflow.call (.configureDetach removal)) with
  | .ok _ => pure ()
  | .error cause => state.rollback.fail "detach" assigner connection.devices cause
  let results ← state.drained.reverse.mapM (withdraw assigner)
  match results.filterMap id with
  | [] => return
  | failed => throw (notWithdrawn failed)

/-- Detaches a volume from a guest. -/
def detach (connection : VolumeConnection) : Workflow Unit := do
  let assigner ← Workflow.ofOutcome (requiredGuest connection.assigner)
  Workflow.ofOutcome (requiredDevices connection.devices)
  Workflow.holding (guestKey assigner) (detachAlone assigner connection)

end Volume

end FibrePool
