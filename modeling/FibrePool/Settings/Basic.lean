import FibrePool.Net.SocketAddress
import FibrePool.Pool.Operation
import FibrePool.Text.Blank

/-!
# Settings

How the operator is set up.  Every setting has a default, and with the name of the partition the
defaults make a usable whole.
-/

namespace FibrePool

set_option autoImplicit false

/-- Which partition is served. -/
structure HostSettings where
  /-- The name of the partition, the first half of the host of every connector. -/
  partition : String := ""
  /-- The target whose devices are listed, if it is not the partition. -/
  queryTarget : Option String := none
  deriving DecidableEq, Repr, Inhabited

/-- How devices are listed. -/
structure HardwareSettings where
  /-- A program with its arguments, to which the target is added. -/
  queryCommand : Option (List String) := none
  deriving DecidableEq, Repr, Inhabited

/-- How devices are chosen. -/
structure VolumeSettings where
  sameIndexPairing : Bool := false
  syncBeforeReserve : Bool := false
  deriving DecidableEq, Repr, Inhabited

/-- How the gateway is reached. -/
structure GatewaySettings where
  endpoint : String := "http://127.0.0.1:8080"
  /-- What every request is authorised by. -/
  token : Option String := none
  timeoutSeconds : Nat := 300
  /-- For how long reads are tried again. -/
  retrySeconds : Nat := 30
  deriving DecidableEq, Repr, Inhabited

/-- Where the tables are kept. -/
structure StoreSettings where
  snapshotPath : Option String := none
  deriving DecidableEq, Repr, Inhabited

/-- Where the web interface listens. -/
structure ApiSettings where
  listenAddress : String := "0.0.0.0:8090"
  deriving DecidableEq, Repr, Inhabited

/-- All settings. -/
structure Settings where
  host : HostSettings := {}
  hardware : HardwareSettings := {}
  volume : VolumeSettings := {}
  gateway : GatewaySettings := {}
  store : StoreSettings := {}
  api : ApiSettings := {}
  deriving DecidableEq, Repr, Inhabited

namespace Settings

/-- The address to listen on. -/
def listenAddress (settings : Settings) : Outcome SocketAddress :=
  match SocketAddress.parse? settings.api.listenAddress with
  | some address => .ok address
  | none => .error (.configuration
      s!"invalid api.listen_addr '{settings.api.listenAddress}': invalid socket address syntax")

/-- Whether the operator can be set up like this. -/
def check (settings : Settings) : Outcome Unit := do
  if Text.trimmed settings.host.partition = "" then
    throw (.configuration "host.lpar_name must be set")
  if settings.hardware.queryCommand = some [] then
    throw (.configuration "hardware.query_command must not be empty")
  if settings.gateway.timeoutSeconds = 0 then
    throw (.configuration "gateway.timeout_secs must be greater than zero")
  let _ ← settings.listenAddress

/-- How the pool is set up. -/
def pool (settings : Settings) : PoolSettings where
  queryTarget := settings.host.queryTarget.getD settings.host.partition
  sameIndexPairing := settings.volume.sameIndexPairing
  syncBeforeReserve := settings.volume.syncBeforeReserve

end Settings

end FibrePool
