import FibrePool.Pool.Request
import FibrePool.Volume.Connection

/-!
# Actions

The closed set of operations that the operator offers, and what each of them answers.
-/

namespace FibrePool

set_option autoImplicit false

/-- A request for what a guest needs to reach its storage. -/
structure ConnectorRequest where
  assigner : String := ""
  /-- Reserve devices first; otherwise the reserved ones are reported. -/
  reserve : Bool := false
  template : Option String := none
  provider : Option String := none
  deriving DecidableEq, Repr, Inhabited

/-- Criteria for templates; the first one given counts. -/
structure TemplateQuery where
  templates : Option (List String) := none
  assigner : Option String := none
  hostDefault : Bool := false
  providers : Option (List String) := none
  deriving DecidableEq, Repr, Inhabited

/-- The filter of a query. -/
def TemplateQuery.filter (query : TemplateQuery) : TemplateFilter :=
  match query.templates, query.assigner, query.hostDefault, query.providers with
  | some ids, _, _, _ => .ids ids
  | none, some assigner, _, _ => .assigner (guestName assigner)
  | none, none, true, _ => .hostDefault
  | none, none, false, some providers => .providers providers
  | none, none, false, none => .all

/-- An operation. -/
inductive Action where
  | attach (connection : VolumeConnection)
  | detach (connection : VolumeConnection)
  | connector (request : ConnectorRequest)
  | reserve (assigner : String) (template provider : Option String)
  | unreserve (assigner template : String)
  | createTemplate (request : NewTemplate)
  | editTemplate (template : String) (request : TemplateEdit)
  | deleteTemplate (template : String)
  | templates (query : TemplateQuery)
  | details (templates : Option (List String)) (records statistics syncFirst : Bool)
  | usage (device : DeviceId)
  | setUsage (device : DeviceId) (usage : Usage)
  | sync
  deriving DecidableEq, Repr

/-- The name under which an action is counted. -/
def Action.name : Action → String
  | attach _ => "attach"
  | detach _ => "detach"
  | connector _ => "get_volume_connector"
  | reserve _ _ _ => "reserve_devices"
  | unreserve _ _ => "unreserve_devices"
  | createTemplate _ => "create_template"
  | editTemplate _ _ => "edit_template"
  | deleteTemplate _ => "delete_template"
  | templates _ => "get_templates"
  | details _ _ _ _ => "get_templates_details"
  | usage _ => "get_fcp_usage"
  | setUsage _ _ => "set_fcp_usage"
  | sync => "sync_with_hardware"

/-- What a guest needs to reach its storage. -/
structure Connector where
  devices : List String
  /-- The NPIV port names in the order of the devices. -/
  portNames : List String
  /-- The physical port name behind each NPIV port name. -/
  physicalNames : OrderedMap String String
  host : String
  pathCount : Nat
  template : String
  deriving DecidableEq

/-- The connector of a host through the given devices. -/
def Connector.ofRecords (host template : String) (records : List DeviceRecord) : Connector where
  devices := records.map (·.id.text)
  portNames := records.map (·.npivName)
  physicalNames := OrderedMap.ofList
    (records.map fun record => (record.npivName, record.physicalName))
  host := host
  pathCount := records.length
  template := template

/-- What an action answers. -/
inductive Output where
  | done
  | connector (connector : Connector)
  | reservation (reservation : Reservation)
  | released (records : List DeviceRecord)
  | template (summary : TemplateSummary)
  | templates (summaries : List TemplateSummary)
  | details (details : List TemplateDetails)
  | usage (usage : Usage)
  | synced (summary : SyncSummary)

end FibrePool
