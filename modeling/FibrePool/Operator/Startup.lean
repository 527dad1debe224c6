import FibrePool.Command.Shell
import FibrePool.Gateway.Client
import FibrePool.Operator.Options
import FibrePool.Settings.File
import FibrePool.Task.Scheduler
import FibrePool.Volume.Dispatch

/-!
# Starting the operator

The operator reads its settings, opens its store and looks at the gateway's address; on request it
reconciles with the hardware; then it listens.  Each of these may end it, except the reconciliation:
when that fails the operator serves what it has.
-/

namespace FibrePool

set_option autoImplicit false

/-! ## Preparation -/

/-- What the operator needs before it listens. -/
structure Setup where
  settings : Settings
  store : Store
  gateway : Gateway
  address : SocketAddress

namespace Setup

/-- Reads the settings and opens what they name, seen from a directory. -/
def ofOptions (files : FileSystem) (directory : FilePath) (options : Options) : Outcome Setup := do
  let read ← match options.settingsPath with
    | some path => Settings.ofFile path (files.read (FilePath.ofText directory path))
    | none => pure {}
  let settings := options.override read
  settings.check
  let store ← match settings.store.snapshotPath with
    | some path => Store.ofSnapshot files (FilePath.ofText directory path)
    | none => pure {}
  let gateway ← Gateway.ofSettings settings.gateway
  let address ← settings.listenAddress
  return { settings, store, gateway, address }

/-- The settings of the operator itself. -/
def operator (setup : Setup) : OperatorSettings where
  partition := setup.settings.host.partition
  pool := setup.settings.pool

/-- The listing of the devices, by the program of the settings or by the gateway. -/
def listing (setup : Setup) (launch : Launcher) (server : GatewayServer) : Outcome String :=
  let target := setup.settings.pool.queryTarget
  match setup.settings.hardware.queryCommand with
  | some words => listByProgram launch words target
  | none => (setup.gateway.run (.listDevices target) server).1

/-- The operator before its first task, with the listing of the devices and no way to its guests. -/
def scheduler {A : Type} (setup : Setup) (files : FileSystem) (listing : Outcome String)
    (stamps : Nat → Stamp) : Scheduler A where
  store := setup.store
  files := files
  stamps := stamps
  collaborators := { listing, outage := some (.unreachable true) }

/-- So many steps are more than any request takes. -/
def enoughSteps : Nat := 1000000000

/-- Reconciles with the hardware; gives the operator, the files and the measures that come of it. -/
def synchronize (setup : Setup) (files : FileSystem) (listing : Outcome String) :
    Setup × FileSystem × Metrics :=
  let begun : Scheduler (Outcome Output) := setup.scheduler files listing fun _ => default
  let started := (begun.start (Volume.dispatch setup.operator .sync).run).2
  let ended := started.settle enoughSteps
  ({ setup with store := ended.store }, ended.files, ended.metrics)

end Setup

/-! ## Listening -/

namespace SocketAddress

/-- Whether an address belongs to every host. -/
def isLocal (address : SocketAddress) : Bool :=
  match address.host with
  | .four (first :: rest) => first == 127 || (first :: rest).all (· == 0)
  | .four [] => false
  | .six groups _ => groups.dropLast.all (· == 0) && groups.getLast?.any (· ≤ 1)

/-- The number of the error with which an address cannot be listened on: the low ports are kept for
others, and so are the addresses of other hosts. -/
def bindError? (address : SocketAddress) : Option Int :=
  if 0 < address.port ∧ address.port < 1024 then some 13
  else if address.isLocal then none
  else some 99

end SocketAddress

/-- The failure of an operator that cannot listen. -/
def bindFailure (code : Int) : Failure :=
  .internal s!"Failed to bind REST server: {Failure.systemText code}"

/-! ## Starting -/

/-- What a start came to: how the program ended, if it did, and what it left. -/
structure Started where
  /-- The exit code, or nothing while the operator listens. -/
  code : Option Nat
  /-- The line about the failure that ended the program. -/
  report : Option String := none
  files : FileSystem
  metrics : Metrics := {}
  /-- The operator that listens. -/
  setup : Option Setup := none

namespace Started

/-- A start that failed. -/
def failed (files : FileSystem) (failure : Failure) : Started where
  code := some 1
  report := some ("Error: " ++ failure.report)
  files := files

/-- Starts the operator with options. -/
def ofOptions (files : FileSystem) (directory : FilePath) (launch : Launcher)
    (server : GatewayServer) (options : Options) : Started :=
  match Setup.ofOptions files directory options with
  | .error failure => failed files failure
  | .ok setup =>
    let (setup, files, metrics) :=
      if options.syncOnStart = some true then
        setup.synchronize files (setup.listing launch server)
      else (setup, files, {})
    match setup.address.bindError? with
    | some code => failed files (bindFailure code)
    | none => { code := none, files, metrics, setup := some setup }

/-- Starts the operator with a command line. -/
def ofCommandLine (files : FileSystem) (directory : FilePath) (launch : Launcher)
    (server : GatewayServer) : CommandLine → Started
  | .misused => { code := some 2, files }
  | .information => { code := some 0, files }
  | .start options => ofOptions files directory launch server options

end Started

end FibrePool
