import FibrePool.Volume.Rollback

/-!
# Attaching volumes

An attach adds a connection to every device of its request, then dedicates those devices to the
guest that had no connection before, and at last has the guest configure the volume.  When a step
fails the earlier ones are undone; only dedications stay when it was the configuration that failed.
-/

namespace FibrePool

set_option autoImplicit false

namespace Volume

/-- The name of a guest, which must not be blank. -/
def requiredGuest (raw : String) : Outcome String :=
  let name := guestName raw
  if name = "" then .error (.invalidParameter "assigner userid is required") else .ok name

/-- A request must name a device. -/
def requiredDevices (devices : List DeviceId) : Outcome Unit :=
  if devices.isEmpty then .error (.invalidParameter "fcp list must not be empty") else .ok ()

/-- The lock of everything that is done for one guest. -/
def guestKey (name : String) : String := "assigner-" ++ name

/-- Goes through the devices of a request one after the other, collecting what would undo each step;
the first failing step undoes them all. -/
def eachDevice (operation assigner : String) (devices : List DeviceId)
    (step : Rollback → DeviceId → Workflow Rollback) (rollback : Rollback) :
    List DeviceId → Workflow Rollback
  | [] => pure rollback
  | id :: rest => do
    match ← Workflow.outcome (step rollback id) with
    | .ok rollback => eachDevice operation assigner devices step rollback rest
    | .error cause => rollback.fail operation assigner devices cause

/-- Adds a connection to a device. -/
def connect (assigner : String) (rollback : Rollback) (id : DeviceId) : Workflow Rollback := do
  let change ← Pool.addUsage id assigner
  return { rollback with connected := (id, change) :: rollback.connected }

/-- Dedicates a device to the guest. -/
def dedicate (assigner : String) (rollback : Rollback) (id : DeviceId) : Workflow Rollback := do
  Workflow.call (.dedicate id assigner)
  return { rollback with dedicated := id :: rollback.dedicated }

/-- The devices that got their first connection, in the order of the request. -/
def newlyConnected (rollback : Rollback) : List DeviceId :=
  (rollback.connected.reverse.filter fun (_, change) => change.isFirstConnection).map (·.1)

/-- Attaches a volume while nothing else is done for the guest. -/
def attachAlone (assigner : String) (connection : VolumeConnection) : Workflow Unit := do
  if !connection.isRootVolume then
    if !(← Workflow.call (.guestExists assigner)) then
      throw (.guestNotFound assigner)
  let connected ← eachDevice "attach" assigner connection.devices (connect assigner) {}
    connection.devices
  if connection.skipsSideEffects then return
  let dedicated ← eachDevice "attach" assigner connection.devices (dedicate assigner) connected
    (newlyConnected connected)
  match ← Workflow.outcome (Workflow.call (.configureAttach (connection.inGuest assigner))) with
  | .ok _ => return
  | .error cause =>
    let usageOnly : Rollback := { connected := dedicated.connected }
    usageOnly.fail "attach" assigner connection.devices cause

/-- Attaches a volume to a guest. -/
def attach (connection : VolumeConnection) : Workflow Unit := do
  let assigner ← Workflow.ofOutcome (requiredGuest connection.assigner)
  Workflow.ofOutcome (requiredDevices connection.devices)
  Workflow.holding (guestKey assigner) (attachAlone assigner connection)

end Volume

end FibrePool
