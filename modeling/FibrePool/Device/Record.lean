import FibrePool.Device.Status

/-!
# Device records

What the pool keeps about a device: who holds it, how many volumes are connected through it, and
what the hypervisor last said.  A record may be reserved without connections, but connections need a
reservation and a reservation needs an assigner; `Usage.check` is that rule.
-/

namespace FibrePool

set_option autoImplicit false

/-- Who uses a device, and how. -/
structure Usage where
  /-- The guest that holds the device, empty when nobody does. -/
  assigner : String
  reserved : Bool
  /-- The number of volumes that are connected through the device. -/
  connections : UInt32
  /-- The template the device is held under, empty when there is none. -/
  template : String
  deriving DecidableEq, Repr, Inhabited

namespace Usage

/-- The rule that every stored usage keeps. -/
def check (usage : Usage) : Outcome Unit :=
  if 0 < usage.connections ∧ (usage.reserved = false ∨ usage.assigner = "") then
    .error (.invalidParameter "a device with connections must be reserved and have an assigner")
  else if usage.reserved = true ∧ usage.assigner = "" then
    .error (.invalidParameter "a reserved device must have an assigner")
  else .ok ()

end Usage

/-- What the pool knows about a device. -/
structure DeviceRecord where
  id : DeviceId
  assigner : String
  connections : UInt32
  reserved : Bool
  npivName : String
  physicalName : String
  channelPath : String
  state : DeviceStatus
  owner : String
  template : String
  deriving DecidableEq, Repr, Inhabited

namespace DeviceRecord

/-- The record of a device that nobody uses yet. -/
def ofLive (device : LiveDevice) : DeviceRecord where
  id := device.id
  assigner := ""
  connections := 0
  reserved := false
  npivName := device.npivName
  physicalName := device.physicalName
  channelPath := device.channelPath
  state := device.status
  owner := device.owner
  template := ""

/-- The record of a device that only a template names so far. -/
def placeholder (id : DeviceId) : DeviceRecord where
  id := id
  assigner := ""
  connections := 0
  reserved := false
  npivName := noneWord
  physicalName := noneWord
  channelPath := ""
  state := .notFound
  owner := noneWord
  template := ""

/-- Takes over what the hypervisor says.  A connected device keeps its NPIV port name. -/
def refresh (record : DeviceRecord) (device : LiveDevice) : DeviceRecord :=
  { record with
    npivName := if record.connections = 0 then device.npivName else record.npivName
    physicalName := device.physicalName
    channelPath := device.channelPath
    state := device.status
    owner := device.owner }

/-- Whether the device can be given to a new assigner. -/
def isFree (record : DeviceRecord) : Bool :=
  record.connections == 0 && !record.reserved && record.state == .free

/-- Whether the device is reserved or connected. -/
def isInUse (record : DeviceRecord) : Bool := record.reserved || 0 < record.connections

/-- Whether the assigner uses the device under the template. -/
def isHeldBy (record : DeviceRecord) (assigner template : String) : Bool :=
  record.assigner == assigner && record.template == template && record.isInUse

/-- Whether the assigner has reserved the device under the template. -/
def isReservedBy (record : DeviceRecord) (assigner template : String) : Bool :=
  record.reserved && record.isHeldBy assigner template

/-- The usage in the record. -/
def usage (record : DeviceRecord) : Usage where
  assigner := record.assigner
  reserved := record.reserved
  connections := record.connections
  template := record.template

/-- The record with another usage. -/
def withUsage (record : DeviceRecord) (usage : Usage) : DeviceRecord :=
  { record with
    assigner := usage.assigner
    reserved := usage.reserved
    connections := usage.connections
    template := usage.template }

@[simp] theorem usage_withUsage (record : DeviceRecord) (usage : Usage) :
    (record.withUsage usage).usage = usage := rfl

@[simp] theorem withUsage_usage (record : DeviceRecord) : record.withUsage record.usage = record :=
  rfl

end DeviceRecord

end FibrePool
