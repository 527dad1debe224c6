import FibrePool.Volume.Action
import FibrePool.Wire.Template

/-!
# Volumes and actions in JSON

The requests of actions and what actions answer.  An answer is written as its content alone, and an
action that answers nothing writes `null`.
-/

namespace FibrePool

set_option autoImplicit false

open Json (Codec Field Reading Row)

/-- The device numbers in a value. -/
def devicesOfJson : Json → Reading (List DeviceId) := Json.asList DeviceId.ofJson

/-- Device numbers as a list. -/
def devicesToJson (devices : List DeviceId) : Json := Json.ofList DeviceId.toJson devices

/-! ## Connections -/

/-- The fields of a connection. -/
def VolumeConnection.fields : List Field :=
  [.of "assignerId" Json.asText, .of "fcpList" devicesOfJson,
    .of "targetWwpns" (Json.asList Json.asText), .of "targetLun" Json.asText] ++
  [.of "multipath" Json.asBool, .of "osVersion" Json.asText, .of "mountPoint" Json.asText,
    .of "platform" Json.asText, .of "isRootVolume" Json.asBool,
    .of "updateConnectionsOnly" Json.asBool].map Field.omitted

/-- The connection in a value. -/
def VolumeConnection.ofJson (value : Json) : Reading VolumeConnection := do
  let row ← Row.read VolumeConnection.fields value
  return {
    assigner := ← row.required "assignerId" Json.asText
    devices := ← row.required "fcpList" devicesOfJson
    targetNames := ← row.required "targetWwpns" (Json.asList Json.asText)
    lun := ← row.required "targetLun" Json.asText
    multipath := ← row.withDefault "multipath" Json.asBool false
    osVersion := ← row.withDefault "osVersion" Json.asText ""
    mountPoint := ← row.withDefault "mountPoint" Json.asText ""
    platform := ← row.withDefault "platform" Json.asText ""
    isRootVolume := ← row.withDefault "isRootVolume" Json.asBool false
    updateConnectionsOnly := ← row.withDefault "updateConnectionsOnly" Json.asBool false }

/-- A connection as an object. -/
def VolumeConnection.toJson (connection : VolumeConnection) : Json :=
  .object [("assignerId", .text connection.assigner),
    ("fcpList", devicesToJson connection.devices),
    ("targetWwpns", Json.ofTexts connection.targetNames), ("targetLun", .text connection.lun),
    ("multipath", .bool connection.multipath), ("osVersion", .text connection.osVersion),
    ("mountPoint", .text connection.mountPoint), ("platform", .text connection.platform),
    ("isRootVolume", .bool connection.isRootVolume),
    ("updateConnectionsOnly", .bool connection.updateConnectionsOnly)]

instance : Codec VolumeConnection := ⟨VolumeConnection.toJson, VolumeConnection.ofJson⟩

/-- The fields of what a guest configures. -/
def GuestVolume.fields : List Field :=
  [.of "userid" Json.asText, .of "fcpList" devicesOfJson,
    .of "targetWwpns" (Json.asList Json.asText), .of "targetLun" Json.asText,
    .of "multipath" Json.asBool, .of "osVersion" Json.asText, .of "mountPoint" Json.asText]

/-- What a guest configures, in a row. -/
def GuestVolume.ofRow (row : Row) : Reading GuestVolume := do
  return {
    user := ← row.required "userid" Json.asText
    devices := ← row.required "fcpList" devicesOfJson
    targetNames := ← row.required "targetWwpns" (Json.asList Json.asText)
    lun := ← row.required "targetLun" Json.asText
    multipath := ← row.required "multipath" Json.asBool
    osVersion := ← row.required "osVersion" Json.asText
    mountPoint := ← row.required "mountPoint" Json.asText }

/-- What a guest configures, in a value. -/
def GuestVolume.ofJson (value : Json) : Reading GuestVolume := do
  GuestVolume.ofRow (← Row.read GuestVolume.fields value)

/-- The members of what a guest configures. -/
def GuestVolume.members (volume : GuestVolume) : List (String × Json) :=
  [("userid", .text volume.user), ("fcpList", devicesToJson volume.devices),
    ("targetWwpns", Json.ofTexts volume.targetNames), ("targetLun", .text volume.lun),
    ("multipath", .bool volume.multipath), ("osVersion", .text volume.osVersion),
    ("mountPoint", .text volume.mountPoint)]

/-- What a guest configures, as an object. -/
def GuestVolume.toJson (volume : GuestVolume) : Json := .object volume.members

instance : Codec GuestVolume := ⟨GuestVolume.toJson, GuestVolume.ofJson⟩

/-- The fields of what a guest removes. -/
def GuestRemoval.fields : List Field :=
  GuestVolume.fields ++ [.of "remainingConnections" Json.asCounter]

/-- What a guest removes, in a value. -/
def GuestRemoval.ofJson (value : Json) : Reading GuestRemoval := do
  let row ← Row.read GuestRemoval.fields value
  return {
    volume := ← GuestVolume.ofRow row
    remainingConnections := ← row.required "remainingConnections" Json.asCounter }

/-- What a guest removes, as an object. -/
def GuestRemoval.toJson (removal : GuestRemoval) : Json :=
  .object (removal.volume.members ++
    [("remainingConnections", .counter removal.remainingConnections)])

instance : Codec GuestRemoval := ⟨GuestRemoval.toJson, GuestRemoval.ofJson⟩

/-! ## Connectors and queries -/

/-- The fields of a request for a connector, the guest apart. -/
def ConnectorRequest.optionFields : List Field :=
  [.of "reserve" Json.asBool, .of "templateId" (Json.asOption Json.asText),
    .of "storageProvider" (Json.asOption Json.asText)].map Field.omitted

/-- The request for a connector in a row, for the guest `assigner`. -/
def ConnectorRequest.ofRow (row : Row) (assigner : String) : Reading ConnectorRequest := do
  return {
    assigner
    reserve := ← row.withDefault "reserve" Json.asBool false
    template := ← row.optional "templateId" Json.asText
    provider := ← row.optional "storageProvider" Json.asText }

/-- The fields of a request for a connector. -/
def ConnectorRequest.fields : List Field :=
  (Field.of "assignerId" Json.asText).omitted :: ConnectorRequest.optionFields

/-- The request for a connector in a value. -/
def ConnectorRequest.ofJson (value : Json) : Reading ConnectorRequest := do
  let row ← Row.read ConnectorRequest.fields value
  ConnectorRequest.ofRow row (← row.withDefault "assignerId" Json.asText "")

/-- The request for a connector of a guest that is named elsewhere. -/
def ConnectorRequest.ofOptions (assigner : String) (value : Json) : Reading ConnectorRequest := do
  ConnectorRequest.ofRow (← Row.read ConnectorRequest.optionFields value) assigner

/-- The members of a request for a connector, the guest apart. -/
def ConnectorRequest.options (request : ConnectorRequest) : List (String × Json) :=
  [("reserve", .bool request.reserve), ("templateId", Json.ofOption .text request.template),
    ("storageProvider", Json.ofOption .text request.provider)]

/-- A request for a connector as an object. -/
def ConnectorRequest.toJson (request : ConnectorRequest) : Json :=
  .object (("assignerId", .text request.assigner) :: request.options)

instance : Codec ConnectorRequest := ⟨ConnectorRequest.toJson, ConnectorRequest.ofJson⟩

/-- The guest that a request names, its only field. -/
def assignerOfJson (value : Json) : Reading String := do
  let row ← Row.read [.of "assignerId" Json.asText] value
  row.required "assignerId" Json.asText

/-- The fields of a query for templates. -/
def TemplateQuery.fields : List Field :=
  [.of "templateIds" (Json.asOption (Json.asList Json.asText)),
    .of "assignerId" (Json.asOption Json.asText), .of "hostDefault" Json.asBool,
    .of "storageProviders" (Json.asOption (Json.asList Json.asText))].map Field.omitted

/-- The query for templates in a value. -/
def TemplateQuery.ofJson (value : Json) : Reading TemplateQuery := do
  let row ← Row.read TemplateQuery.fields value
  return {
    templates := ← row.optional "templateIds" (Json.asList Json.asText)
    assigner := ← row.optional "assignerId" Json.asText
    hostDefault := ← row.withDefault "hostDefault" Json.asBool false
    providers := ← row.optional "storageProviders" (Json.asList Json.asText) }

/-- A query for templates as an object. -/
def TemplateQuery.toJson (query : TemplateQuery) : Json :=
  .object [("templateIds", Json.ofOption Json.ofTexts query.templates),
    ("assignerId", Json.ofOption .text query.assigner),
    ("hostDefault", .bool query.hostDefault),
    ("storageProviders", Json.ofOption Json.ofTexts query.providers)]

instance : Codec TemplateQuery := ⟨TemplateQuery.toJson, TemplateQuery.ofJson⟩

/-- The fields of a connector. -/
def Connector.fields : List Field :=
  [.of "fcpDevices" (Json.asList Json.asText), .of "wwpns" (Json.asList Json.asText),
    .of "phyToVirtInitiators" textMapOfJson, .of "host" Json.asText,
    .of "fcpPathsCount" Json.asSize, .of "templateId" Json.asText]

/-- The connector in a value. -/
def Connector.ofJson (value : Json) : Reading Connector := do
  let row ← Row.read Connector.fields value
  return {
    devices := ← row.required "fcpDevices" (Json.asList Json.asText)
    portNames := ← row.required "wwpns" (Json.asList Json.asText)
    physicalNames := ← row.required "phyToVirtInitiators" textMapOfJson
    host := ← row.required "host" Json.asText
    pathCount := ← row.required "fcpPathsCount" Json.asSize
    template := ← row.required "templateId" Json.asText }

/-- A connector as an object. -/
def Connector.toJson (connector : Connector) : Json :=
  .object [("fcpDevices", Json.ofTexts connector.devices),
    ("wwpns", Json.ofTexts connector.portNames),
    ("phyToVirtInitiators", textMapToJson connector.physicalNames),
    ("host", .text connector.host), ("fcpPathsCount", .natural connector.pathCount),
    ("templateId", .text connector.template)]

instance : Codec Connector := ⟨Connector.toJson, Connector.ofJson⟩

/-! ## Outputs -/

/-- What an action answers, as its content alone. -/
def Output.toJson : Output → Json
  | .done => .null
  | .connector answer => answer.toJson
  | .reservation answer => answer.toJson
  | .released records => Json.ofList DeviceRecord.toJson records
  | .template summary => summary.toJson
  | .templates summaries => Json.ofList TemplateSummary.toJson summaries
  | .details answer => Json.ofList TemplateDetails.toJson answer
  | .usage answer => answer.toJson
  | .synced summary => summary.toJson

end FibrePool
