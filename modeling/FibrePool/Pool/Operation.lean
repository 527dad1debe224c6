import FibrePool.Device.Listing
import FibrePool.Pool.UsageChange
import FibrePool.Task.Program

/-!
# Operations of the pool

The workflows that the pool offers.  Each changes the tables by at most one transaction of its own,
and tells its listeners once that transaction is done; a reconciliation runs under a lock, so two of
them never interleave.
-/

namespace FibrePool

set_option autoImplicit false

/-- How the pool is set up. -/
structure PoolSettings where
  /-- The target whose devices are listed. -/
  queryTarget : String
  /-- Prefer devices at the same place of every path. -/
  sameIndexPairing : Bool
  /-- Reconcile with the hardware before each reservation. -/
  syncBeforeReserve : Bool
  deriving DecidableEq, Repr, Inhabited

/-- The lock under which reconciliations run. -/
def syncKey : String := "fcp-sync"

namespace Pool

/-! ## Reconciliation -/

/-- Replaces the stored devices by those that the hypervisor lists. -/
def sync (settings : PoolSettings) : Workflow SyncSummary :=
  Workflow.holding syncKey do
    let listing ← Workflow.call (.listDevices settings.queryTarget)
    let devices ← Workflow.ofOutcome (Listing.parse listing)
    let outcome ← Workflow.commit (Tables.reconcile devices)
    let summary : SyncSummary :=
      { inserted := outcome.inserted
        updated := outcome.updated
        deleted := outcome.removed.length }
    Workflow.emit (.reconciled summary.inserted summary.updated summary.deleted)
    return summary

/-! ## Reservation -/

/-- The first of two texts that is not empty. -/
def given (text : Option String) : Option String := text.filter (· ≠ "")

/-- The template that is asked for, or the default of the provider, or that of the host. -/
def resolve (template provider : Option String) : Workflow String :=
  match given template with
  | some id => do
    let _ ← Workflow.askFor (·.template id)
    return id
  | none => do
    let bound ← match given provider with
      | some name => Workflow.ask (·.providerDefault name)
      | none => pure none
    match bound with
    | some id => return id
    | none =>
      match ← Workflow.ask Tables.hostDefault with
      | some id => return id
      | none => throw (.noDefaultTemplate (given provider))

/-- Reserves one device of each path for an assigner.  Devices that it has reserved under the
template before are given again; an empty list means that there are not enough free ones. -/
def reserve (settings : PoolSettings) (assigner : String) (template provider : Option String) :
    Workflow Reservation := do
  let id ← resolve template provider
  let found ← Workflow.askFor (·.template id)
  if settings.syncBeforeReserve then
    let _ ← sync settings
  let devices ← Workflow.commit (Tables.reserve assigner found id settings.sameIndexPairing)
  if !devices.isEmpty then
    Workflow.emit (.devicesReserved assigner id (devices.map (·.id.text)))
  return { template := id, devices }

/-- The device of each path that an assigner has reserved under a template, where there is one. -/
def held (assigner template : String) : Workflow (List DeviceRecord) := do
  let paths ← Workflow.askFor (·.pathMapping template)
  let found ← paths.values.mapM fun ids => do
    let records ← Workflow.ask (·.recordsOf ids.keys)
    return records.find? (·.isReservedBy assigner template)
  return found.filterMap id

/-- Releases the unconnected devices that an assigner has reserved under a template. -/
def unreserve (assigner template : String) : Workflow (List DeviceRecord) := do
  if template = "" then
    throw (.invalidParameter "a template id is required to release FCP devices")
  let released ← Workflow.commit (Tables.release assigner template)
  if !released.isEmpty then
    Workflow.emit (.devicesReleased assigner template (released.map (·.id.text)))
  return released

/-! ## Connections -/

/-- Adds a connection to a device; gives the usage before and after. -/
def addUsage (id : DeviceId) (assigner : String) : Workflow UsageChange := do
  let change ← Workflow.commit (Tables.addConnection id assigner)
  Workflow.emit (.usageChanged id.text assigner change.current.connections)
  return change

/-- Puts back the usage that a device had before a change. -/
def restoreUsage (id : DeviceId) (change : UsageChange) : Workflow Unit := do
  let record ← Workflow.commit (Tables.restoreUsage id change)
  Workflow.emit (.usageChanged id.text record.assigner record.connections)

/-- Removes a connection of a device; gives the number of those that are left. -/
def decreaseUsage (id : DeviceId) (assigner : String) : Workflow UInt32 := do
  let record ← Workflow.commit (Tables.removeConnection id assigner)
  Workflow.emit (.usageChanged id.text assigner record.connections)
  return record.connections

/-- The usage of a device. -/
def usageOf (id : DeviceId) : Workflow Usage := do
  let record ← Workflow.askFor (·.record id)
  return record.usage

/-- Overwrites the usage of a device. -/
def setUsage (id : DeviceId) (usage : Usage) : Workflow Unit := do
  Workflow.commit (Tables.setUsage id usage)
  Workflow.emit (.usageChanged id.text usage.assigner usage.connections)

/-! ## Templates -/

/-- A template with its providers and its devices. -/
def summarize (template : Template) : Workflow TemplateSummary := do
  let paths ← Workflow.askFor (·.pathMapping template.id)
  let providers ← Workflow.ask (·.bindingsOf template.id)
  return { template, providers, devices := Ranges.collapsePaths paths, pathCount := paths.size }

/-- A reservation cannot cover more paths than there are. -/
def checkLeastPaths (least : Option Nat) (paths : PathMap) : Outcome Unit :=
  match least with
  | some least =>
    if paths.size < least then
      .error (.conflict
        s!"min_fcp_paths_count {least} exceeds the {paths.size} paths of the device ranges")
    else .ok ()
  | none => .ok ()

/-- Makes a new template. -/
def createTemplate (request : NewTemplate) : Workflow TemplateSummary := do
  let paths ← Workflow.ofOutcome (Ranges.expand request.devices)
  Workflow.ofOutcome (checkLeastPaths request.leastPaths paths)
  let stamp ← Workflow.stamp
  let template : Template :=
    { id := stamp.id
      name := request.name
      description := request.description
      hostDefault := request.hostDefault
      leastPaths := request.leastPaths
      createdAt := stamp.createdAt }
  Workflow.commit (Tables.createTemplate template paths request.providers)
  Workflow.emit (.templateCreated template.id)
  summarize template

/-- Changes a template. -/
def editTemplate (id : String) (request : TemplateEdit) : Workflow TemplateSummary := do
  let paths ← match request.devices with
    | some devices => some <$> Workflow.ofOutcome (Ranges.expand devices)
    | none => pure none
  let template ← Workflow.commit (Tables.editTemplate id
    { name := request.name
      description := request.description
      paths
      hostDefault := request.hostDefault
      providers := request.providers
      leastPaths := request.leastPaths })
  Workflow.emit (.templateEdited id)
  summarize template

/-- Drops a template. -/
def deleteTemplate (id : String) : Workflow Unit := do
  Workflow.commit (Tables.deleteTemplate id)
  Workflow.emit (.templateDeleted id)

/-- The summaries of the templates that a filter asks for. -/
def templates (filter : TemplateFilter) : Workflow (List TemplateSummary) := do
  let found ← Workflow.ask (·.templatesBy filter)
  found.mapM summarize

/-- The records of the tables by the devices they name. -/
def recordsById (tables : Tables) : OrderedMap DeviceId DeviceRecord :=
  OrderedMap.ofList (tables.devices.values.map fun record => (record.id, record))

/-- Summaries with the records and the statistics of their paths, as far as they are asked for. -/
def details (settings : PoolSettings) (ids : Option (List String)) (records statistics : Bool)
    (syncFirst : Bool) : Workflow (List TemplateDetails) := do
  if syncFirst then
    let _ ← sync settings
  let summaries ← templates (match ids with | some ids => .ids ids | none => .all)
  let known ← if records || statistics then Workflow.ask recordsById else pure ∅
  summaries.mapM fun summary => do
    let paths ← Workflow.askFor (·.pathMapping summary.template.id)
    let lists := paths.mapValues fun _ ids => ids.keys.filterMap known.get?
    return {
      summary
      records := if records then some lists else none
      statistics := if statistics then some (Statistics.ofPaths paths known) else none }

end Pool

end FibrePool
