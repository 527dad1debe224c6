import FibrePool.Pool.Request
import FibrePool.Pool.Selection
import FibrePool.Store.Transaction

/-!
# Changes of usage

The transactions by which devices change hands: a reservation and its release, one connection more
or less, and putting a usage back.  Each of them refuses to touch a device that another assigner
uses.
-/

namespace FibrePool

set_option autoImplicit false

namespace Tables

/-- Reserves devices of a template as `select` chooses them, where a reservation covers at least as
many paths as `template` asks for. -/
def reserve (assigner : String) (template : Template) (id : String) (sameIndexPairing : Bool) :
    Transaction (List DeviceRecord) :=
  reserveWith assigner id fun candidates =>
    Selection.select candidates assigner id
      { sameIndexPairing, leastPaths := template.leastPathsOf candidates.length }

/-- Whether the assigner has reserved a device under the template and is not connected to it. -/
def isReleasable (assigner template : String) (record : DeviceRecord) : Bool :=
  record.reserved && record.connections == 0 && record.assigner == assigner &&
    record.template == template

/-- A record that nobody has reserved. -/
def released (record : DeviceRecord) : DeviceRecord :=
  { record with reserved := false, assigner := "", template := "" }

/-- Releases the unconnected devices that the assigner has reserved under the template. -/
def release (assigner template : String) : Transaction (List DeviceRecord) :=
  modifyWhere (isReleasable assigner template) released

/-- The failure of a device that another assigner uses. -/
def inUseBy (record : DeviceRecord) : Failure :=
  .conflict s!"FCP device {record.id} is in use by {record.assigner}"

/-- A record with one connection more, which makes it the assigner's. -/
def connected (assigner : String) (record : DeviceRecord) : Outcome DeviceRecord :=
  if record.assigner ≠ "" ∧ record.assigner ≠ assigner ∧ record.isInUse = true then
    .error (inUseBy record)
  else .ok { record with connections := record.connections + 1, reserved := true, assigner }

/-- Adds a connection to a device. -/
def addConnection (id : DeviceId) (assigner : String) : Transaction UsageChange :=
  fun tables => do
    let before ← tables.record id
    let (after, tables) ← modifyRecord id (connected assigner) tables
    return (⟨before.usage, after.usage⟩, tables)

/-- A record with the usage it had before a change, unless it was changed since. -/
def restored (change : UsageChange) (record : DeviceRecord) : Outcome DeviceRecord :=
  if record.usage = change.current then .ok (record.withUsage change.previous)
  else .error (.conflict s!"FCP device {record.id} changed since its usage was recorded")

/-- Puts back the usage that a device had before a change. -/
def restoreUsage (id : DeviceId) (change : UsageChange) : Transaction DeviceRecord :=
  modifyRecord id (restored change)

/-- A record with one connection less. -/
def disconnected (assigner : String) (record : DeviceRecord) : Outcome DeviceRecord :=
  if record.connections = 0 then
    .error (.conflict s!"FCP device {record.id} has no connections to remove")
  else if record.assigner ≠ assigner then
    .error (.conflict
      s!"FCP device {record.id} is in use by {record.assigner}, not {assigner}")
  else .ok { record with connections := record.connections - 1 }

/-- Removes a connection of a device. -/
def removeConnection (id : DeviceId) (assigner : String) : Transaction DeviceRecord :=
  modifyRecord id (disconnected assigner)

end Tables

end FibrePool
