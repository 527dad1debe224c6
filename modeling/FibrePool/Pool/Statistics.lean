import FibrePool.Device.Ranges
import FibrePool.Device.Record

/-!
# Statistics

Every device of a path falls into exactly one class, which depends on its own record alone.  The
statistics of a path write each class as a range expression, and list beside it the devices of each
channel path.
-/

namespace FibrePool

set_option autoImplicit false

/-- The classes of devices. -/
inductive UsageClass where
  | /-- Free on the hardware and unused by the pool. -/
    available
  | allocated
  | /-- Reserved without connections. -/
    reserveOnly
  | /-- Connected without a reservation. -/
    connectionOnly
  | /-- In use on the hardware and unknown to the pool. -/
    unallocatedButActive
  | /-- In use by the pool and free on the hardware. -/
    allocatedButFree
  | notFound
  | offline
  deriving DecidableEq, Repr, Inhabited

namespace UsageClass

/-- The name of a class. -/
def name : UsageClass → String
  | available => "Available"
  | allocated => "Allocated"
  | reserveOnly => "ReserveOnly"
  | connectionOnly => "ConnectionOnly"
  | unallocatedButActive => "UnallocatedButActive"
  | allocatedButFree => "AllocatedButFree"
  | notFound => "NotFound"
  | offline => "Offline"

/-- The class of a record. -/
def ofRecord (record : DeviceRecord) : UsageClass :=
  match record.state, decide (0 < record.connections), record.reserved with
  | .notFound, _, _ => notFound
  | .offline, _, _ => offline
  | .free, true, true => allocatedButFree
  | .active, true, true => allocated
  | _, true, false => connectionOnly
  | _, false, true => reserveOnly
  | .free, false, false => available
  | .active, false, false => unallocatedButActive

/-- The class of a device, which may have no record. -/
def ofDevice : Option DeviceRecord → UsageClass
  | some record => ofRecord record
  | none => notFound

end UsageClass

/-- A set of devices as a range expression with their number. -/
structure DeviceRanges where
  ranges : String
  count : Nat
  deriving DecidableEq, Repr, Inhabited

/-- The expression and the number of a set of devices. -/
def DeviceRanges.ofSet (ids : DeviceSet) : DeviceRanges := ⟨Ranges.collapse ids, ids.size⟩

/-- The statistics of one path. -/
structure PathStatistics where
  total : DeviceRanges
  available : DeviceRanges
  allocated : DeviceRanges
  reserveOnly : DeviceRanges
  connectionOnly : DeviceRanges
  /-- The owner of each device that is active without the pool knowing of it. -/
  unallocatedButActive : OrderedMap String String
  allocatedButFree : DeviceRanges
  notFound : DeviceRanges
  offline : DeviceRanges
  /-- The devices of each channel path. -/
  channelPaths : OrderedMap String String
  deriving DecidableEq

namespace Statistics

/-- The record of each device of a set, where it has one. -/
def recordsOf (ids : DeviceSet) (records : OrderedMap DeviceId DeviceRecord) :
    OrderedMap DeviceId (Option DeviceRecord) :=
  ids.mapValues fun id _ => records.get? id

/-- The devices of a path whose record satisfies a condition. -/
def devicesWhere (known : OrderedMap DeviceId (Option DeviceRecord))
    (condition : Option DeviceRecord → Bool) : DeviceSet :=
  (known.filter fun _ record => condition record).mapValues fun _ _ => ()

/-- The owner of each active device that the pool does not use. -/
def activeOwners (known : OrderedMap DeviceId (Option DeviceRecord)) : OrderedMap String String :=
  OrderedMap.ofList (known.entries.filterMap fun (id, record?) =>
    match record? with
    | some record =>
      if UsageClass.ofRecord record = .unallocatedButActive then some (id.text, record.owner)
      else none
    | none => none)

/-- The channel paths that records of the path name. -/
def channelPathsOf (known : OrderedMap DeviceId (Option DeviceRecord)) : List String :=
  (known.values.filterMap fun record? => record?.map (·.channelPath)).filter (· != "")

/-- The devices of each channel path. -/
def byChannelPath (known : OrderedMap DeviceId (Option DeviceRecord)) :
    OrderedMap String String :=
  let names := OrderedMap.ofList ((channelPathsOf known).map fun name => (name, ()))
  names.mapValues fun name _ =>
    Ranges.collapse (devicesWhere known fun record? => record?.any (·.channelPath == name))

/-- The statistics of the devices of a path. -/
def ofPath (ids : DeviceSet) (records : OrderedMap DeviceId DeviceRecord) : PathStatistics :=
  let known := recordsOf ids records
  let ranges (usageClass : UsageClass) : DeviceRanges :=
    .ofSet (devicesWhere known fun record? => UsageClass.ofDevice record? == usageClass)
  { total := .ofSet ids
    available := ranges .available
    allocated := ranges .allocated
    reserveOnly := ranges .reserveOnly
    connectionOnly := ranges .connectionOnly
    unallocatedButActive := activeOwners known
    allocatedButFree := ranges .allocatedButFree
    notFound := ranges .notFound
    offline := ranges .offline
    channelPaths := byChannelPath known }

/-- The statistics of every path of a template. -/
def ofPaths (paths : PathMap) (records : OrderedMap DeviceId DeviceRecord) :
    OrderedMap Nat PathStatistics :=
  paths.mapValues fun _ ids => ofPath ids records

end Statistics

end FibrePool
