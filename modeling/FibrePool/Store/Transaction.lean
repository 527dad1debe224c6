import FibrePool.Store.Tables

/-!
# Transactions

A transaction reads the tables and either fails or gives a result together with new tables.  A
failing transaction has no tables to give, so nothing it did on the way can be seen.
-/

namespace FibrePool

set_option autoImplicit false

/-- A change of the tables as a whole. -/
abbrev Transaction (α : Type) := Tables → Outcome (α × Tables)

/-- How the stored devices changed in a reconciliation. -/
structure ReconcileOutcome where
  inserted : Nat
  updated : Nat
  /-- The records of the devices that are gone. -/
  removed : List DeviceRecord
  deriving DecidableEq, Repr, Inhabited

namespace Tables

/-! ## Devices -/

/-- Files a record under a device. -/
def putRecord (tables : Tables) (id : DeviceId) (record : DeviceRecord) : Tables :=
  { tables with devices := tables.devices.insert id record }

/-- Takes over one reported device; says whether it is new. -/
def upsertOne (tables : Tables) (device : LiveDevice) : Bool × Tables :=
  match tables.devices.get? device.id with
  | some record => (false, tables.putRecord device.id (record.refresh device))
  | none => (true, tables.putRecord device.id (.ofLive device))

/-- Takes over reported devices; counts the new ones and the known ones. -/
def upsertAll (tables : Tables) : List LiveDevice → (Nat × Nat) × Tables
  | [] => ((0, 0), tables)
  | device :: rest =>
    let (isNew, tables) := tables.upsertOne device
    let ((inserted, updated), tables) := upsertAll tables rest
    (if isNew then (inserted + 1, updated) else (inserted, updated + 1), tables)

/-- Takes over reported devices. -/
def upsert (devices : List LiveDevice) : Transaction Unit := fun tables =>
  .ok ((), (tables.upsertAll devices).2)

/-- Takes over reported devices and drops every device that is not among them. -/
def reconcile (devices : List LiveDevice) : Transaction ReconcileOutcome := fun tables =>
  let isStale (id : DeviceId) : Bool := !devices.any fun device => device.id == id
  let removed := (tables.devices.filter fun id _ => isStale id).values
  let ((inserted, updated), tables) := tables.upsertAll devices
  .ok ({ inserted, updated, removed },
    { tables with devices := tables.devices.filter fun id _ => !isStale id })

/-- Drops devices. -/
def deleteDevices (ids : List DeviceId) : Transaction Unit := fun tables =>
  .ok ((), { tables with devices := ids.foldl OrderedMap.erase tables.devices })

/-- Overwrites the usage of a device. -/
def setUsage (id : DeviceId) (usage : Usage) : Transaction Unit := fun tables => do
  usage.check
  let record ← tables.record id
  return ((), tables.putRecord id (record.withUsage usage))

/-- Changes the record of a device; the result must keep the rule of usages. -/
def modifyRecord (id : DeviceId) (change : DeviceRecord → Outcome DeviceRecord) :
    Transaction DeviceRecord := fun tables => do
  let record ← tables.record id
  let changed ← change record
  changed.usage.check
  return (changed, tables.putRecord id changed)

/-- Changes every record that satisfies a condition; gives the changed records. -/
def modifyWhere (condition : DeviceRecord → Bool) (change : DeviceRecord → DeviceRecord) :
    Transaction (List DeviceRecord) := fun tables => do
  let changed := (tables.devices.values.filter condition).map change
  changed.forM fun record => record.usage.check
  let devices := tables.devices.mapValues fun _ record =>
    if condition record then change record else record
  return (changed, { tables with devices })

/-! ## Reservations -/

/-- Reserves one chosen device, which must be free or held already. -/
def reserveOne (assigner template : String) (id : DeviceId) : Transaction DeviceRecord :=
  fun tables => do
    let record ← tables.record id
    if !record.isHeldBy assigner template && !record.isFree then
      throw (.internal s!"selected FCP device {id} is not free")
    let reserved := { record with reserved := true, assigner, template }
    return (reserved, tables.putRecord id reserved)

/-- Reserves chosen devices one after the other. -/
def reserveAll (assigner template : String) :
    List DeviceId → Transaction (List DeviceRecord)
  | [] => fun tables => .ok ([], tables)
  | id :: rest => fun tables => do
    let (record, tables) ← reserveOne assigner template id tables
    let (records, tables) ← reserveAll assigner template rest tables
    return (record :: records, tables)

/-- Reserves the devices that `select` chooses among those of a template. -/
def reserveWith (assigner template : String)
    (select : List Candidates → Outcome (List DeviceId)) : Transaction (List DeviceRecord) :=
  fun tables => do
    let _ ← tables.template template
    let chosen ← select (tables.candidates template)
    reserveAll assigner template chosen tables

/-! ## Templates -/

/-- Gives every device of the paths a record. -/
def addPlaceholders (tables : Tables) (paths : PathMap) : Tables :=
  let placeholders (ids : DeviceSet) : OrderedMap DeviceId DeviceRecord :=
    ids.mapValues fun id _ => .placeholder id
  { tables with
    devices := paths.values.foldl (fun devices ids => devices.union (placeholders ids))
      tables.devices }

/-- Takes the default of the host from every template. -/
def clearHostDefault (tables : Tables) : Tables :=
  { tables with
    templates := tables.templates.mapValues fun _ template =>
      { template with hostDefault := false } }

/-- Makes a template the default of exactly these storage providers. -/
def bindProviders (tables : Tables) (template : String) (providers : List String) : Tables :=
  let others := tables.providers.filter fun _ bound => bound != template
  { tables with
    providers := providers.foldl
      (fun bindings provider => bindings.insert provider template) others }

/-- Files a new template. -/
def createTemplate (template : Template) (paths : PathMap) (providers : List String) :
    Transaction Unit := fun tables => do
  if tables.templates.contains template.id then
    throw (.conflict s!"FCP template {template.id} already exists")
  let tables := if template.hostDefault then tables.clearHostDefault else tables
  let tables := tables.addPlaceholders paths
  let tables := { tables with
    templates := tables.templates.insert template.id template
    paths := tables.paths.insert template.id paths }
  return ((), tables.bindProviders template.id providers)

/-- Gives a template other paths, unless that would change the devices of one in use. -/
def changePaths (tables : Tables) (template : String) (paths : PathMap) : Outcome Tables :=
  if tables.paths.get? template = some paths then .ok tables
  else
    match tables.devicesInUse template with
    | [] =>
      let tables := tables.addPlaceholders paths
      .ok { tables with paths := tables.paths.insert template paths }
    | inUse =>
      .error (.conflict (s!"cannot change devices of FCP template {template}: devices in use: " ++
        DeviceId.joined inUse))

/-- Changes a template; gives the changed one. -/
def editTemplate (id : String) (changes : TemplateChanges) : Transaction Template :=
  fun tables => do
    let template ← tables.template id
    let tables ← match changes.paths with
      | some paths => tables.changePaths id paths
      | none => pure tables
    let tables := if changes.hostDefault = some true then tables.clearHostDefault else tables
    let tables := match changes.providers with
      | some providers => tables.bindProviders id providers
      | none => tables
    let template := { template with
      name := changes.name.getD template.name
      description := changes.description.getD template.description
      leastPaths := changes.leastPaths <|> template.leastPaths
      hostDefault := changes.hostDefault.getD template.hostDefault }
    let pathCount := (tables.pathsOf id).size
    match template.leastPaths with
    | some least =>
      if pathCount < least then
        throw (.conflict (s!"min_fcp_paths_count {least} exceeds the {pathCount} paths of FCP " ++
          s!"template {id}"))
    | none => pure ()
    return (template, { tables with templates := tables.templates.insert id template })

/-- Drops a template with its paths and bindings, unless a device of it is in use. -/
def deleteTemplate (id : String) : Transaction Unit := fun tables => do
  let _ ← tables.template id
  match tables.devicesInUse id with
  | [] =>
    return ((), { tables with
      templates := tables.templates.erase id
      paths := tables.paths.erase id
      providers := tables.providers.filter fun _ bound => bound != id })
  | inUse =>
    throw (.conflict s!"FCP template {id} is in use by devices {DeviceId.joined inUse}")

end Tables

end FibrePool
