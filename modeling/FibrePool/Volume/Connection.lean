import FibrePool.Device.Id

/-!
# Volume connections

A volume is attached to a guest through a list of devices.  The request names the storage side too,
and what the guest has to configure is sent to it in a request of its own.
-/

namespace FibrePool

set_option autoImplicit false

/-- A request to attach a volume or to detach it. -/
structure VolumeConnection where
  assigner : String
  devices : List DeviceId
  targetNames : List String
  lun : String
  multipath : Bool := false
  osVersion : String := ""
  mountPoint : String := ""
  platform : String := ""
  isRootVolume : Bool := false
  /-- Only the connections are counted; nothing happens outside of the pool. -/
  updateConnectionsOnly : Bool := false
  deriving DecidableEq, Repr, Inhabited

/-- Whether devices are neither dedicated nor configured. -/
def VolumeConnection.skipsSideEffects (connection : VolumeConnection) : Bool :=
  connection.isRootVolume || connection.updateConnectionsOnly

/-- What a guest configures for a volume. -/
structure GuestVolume where
  user : String
  devices : List DeviceId
  targetNames : List String
  lun : String
  multipath : Bool
  osVersion : String
  mountPoint : String
  deriving DecidableEq, Repr, Inhabited

/-- What a guest removes for a volume. -/
structure GuestRemoval where
  volume : GuestVolume
  /-- The connections left on the devices of the volume. -/
  remainingConnections : UInt32
  deriving DecidableEq, Repr, Inhabited

/-- What the guest `user` configures for a connection. -/
def VolumeConnection.inGuest (connection : VolumeConnection) (user : String) : GuestVolume where
  user := user
  devices := connection.devices
  targetNames := connection.targetNames
  lun := connection.lun
  multipath := connection.multipath
  osVersion := connection.osVersion
  mountPoint := connection.mountPoint

/-- What is asked of the systems around the pool. -/
inductive Call where
  | /-- The listing of the devices of a target. -/
    listDevices (target : String)
  | guestExists (user : String)
  | /-- Gives a device to a guest. -/
    dedicate (device : DeviceId) (user : String)
  | /-- Takes a device from a guest. -/
    undedicate (device : DeviceId) (user : String)
  | configureAttach (volume : GuestVolume)
  | configureDetach (removal : GuestRemoval)
  deriving DecidableEq, Repr

/-- What a successful call answers. -/
abbrev Call.Answer : Call → Type
  | .listDevices _ => String
  | .guestExists _ => Bool
  | .dedicate _ _ => Unit
  | .undedicate _ _ => Unit
  | .configureAttach _ => Unit
  | .configureDetach _ => Unit

end FibrePool
