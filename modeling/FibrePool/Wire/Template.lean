import FibrePool.Pool.Request
import FibrePool.Wire.Device

/-!
# Templates in JSON

Templates, the requests to make and to change them, and what the pool answers about them.  A summary
has the members of its template beside its own, and details have those of their summary.
-/

namespace FibrePool

set_option autoImplicit false

open Json (Codec Field Reading Row)

/-! ## Templates -/

/-- The point in time in a value. -/
def Instant.ofJson (value : Json) : Reading Instant := do
  (Instant.parse? (← value.asText)).elim (throw .unfit) pure

/-- A point in time as a text. -/
def Instant.toJson (instant : Instant) : Json := .text instant.text

/-- The fields of a template. -/
def Template.fields : List Field :=
  [.of "id" Json.asText, .of "name" Json.asText, .of "description" Json.asText,
    .of "hostDefault" Json.asBool, .of "minFcpPathsCount" (Json.asOption Json.asWord),
    .of "createdAt" Instant.ofJson]

/-- The template in a row. -/
def Template.ofRow (row : Row) : Reading Template := do
  return {
    id := ← row.required "id" Json.asText
    name := ← row.required "name" Json.asText
    description := ← row.required "description" Json.asText
    hostDefault := ← row.required "hostDefault" Json.asBool
    leastPaths := ← row.optional "minFcpPathsCount" Json.asWord
    createdAt := ← row.required "createdAt" Instant.ofJson }

/-- The template in a value. -/
def Template.ofJson (value : Json) : Reading Template := do
  Template.ofRow (← Row.read Template.fields value)

/-- The members of a template. -/
def Template.members (template : Template) : List (String × Json) :=
  [("id", .text template.id), ("name", .text template.name),
    ("description", .text template.description), ("hostDefault", .bool template.hostDefault),
    ("minFcpPathsCount", Json.ofOption .natural template.leastPaths),
    ("createdAt", template.createdAt.toJson)]

/-- A template as an object. -/
def Template.toJson (template : Template) : Json := .object template.members

instance : Codec Template := ⟨Template.toJson, Template.ofJson⟩

/-! ## Requests -/

/-- The fields of a request for a template. -/
def NewTemplate.fields : List Field :=
  [.of "name" Json.asText, .of "description" Json.asText, .of "fcpDevices" Json.asText,
    .of "hostDefault" Json.asBool, .of "storageProviders" (Json.asList Json.asText),
    .of "minFcpPathsCount" (Json.asOption Json.asWord)].map Field.omitted

/-- The request for a template in a value. -/
def NewTemplate.ofJson (value : Json) : Reading NewTemplate := do
  let row ← Row.read NewTemplate.fields value
  return {
    name := ← row.withDefault "name" Json.asText ""
    description := ← row.withDefault "description" Json.asText ""
    devices := ← row.withDefault "fcpDevices" Json.asText ""
    hostDefault := ← row.withDefault "hostDefault" Json.asBool false
    providers := ← row.withDefault "storageProviders" (Json.asList Json.asText) []
    leastPaths := ← row.optional "minFcpPathsCount" Json.asWord }

/-- A request for a template as an object. -/
def NewTemplate.toJson (request : NewTemplate) : Json :=
  .object [("name", .text request.name), ("description", .text request.description),
    ("fcpDevices", .text request.devices), ("hostDefault", .bool request.hostDefault),
    ("storageProviders", Json.ofTexts request.providers),
    ("minFcpPathsCount", Json.ofOption .natural request.leastPaths)]

instance : Codec NewTemplate := ⟨NewTemplate.toJson, NewTemplate.ofJson⟩

/-- The fields of a request to change a template. -/
def TemplateEdit.fields : List Field :=
  [.of "name" (Json.asOption Json.asText), .of "description" (Json.asOption Json.asText),
    .of "fcpDevices" (Json.asOption Json.asText), .of "hostDefault" (Json.asOption Json.asBool),
    .of "storageProviders" (Json.asOption (Json.asList Json.asText)),
    .of "minFcpPathsCount" (Json.asOption Json.asWord)].map Field.omitted

/-- The request to change a template in a value. -/
def TemplateEdit.ofJson (value : Json) : Reading TemplateEdit := do
  let row ← Row.read TemplateEdit.fields value
  return {
    name := ← row.optional "name" Json.asText
    description := ← row.optional "description" Json.asText
    devices := ← row.optional "fcpDevices" Json.asText
    hostDefault := ← row.optional "hostDefault" Json.asBool
    providers := ← row.optional "storageProviders" (Json.asList Json.asText)
    leastPaths := ← row.optional "minFcpPathsCount" Json.asWord }

/-- A request to change a template as an object. -/
def TemplateEdit.toJson (request : TemplateEdit) : Json :=
  .object [("name", Json.ofOption .text request.name),
    ("description", Json.ofOption .text request.description),
    ("fcpDevices", Json.ofOption .text request.devices),
    ("hostDefault", Json.ofOption .bool request.hostDefault),
    ("storageProviders", Json.ofOption Json.ofTexts request.providers),
    ("minFcpPathsCount", Json.ofOption .natural request.leastPaths)]

instance : Codec TemplateEdit := ⟨TemplateEdit.toJson, TemplateEdit.ofJson⟩

/-! ## Answers -/

/-- The fields of a reservation. -/
def Reservation.fields : List Field :=
  [.of "templateId" Json.asText, .of "devices" (Json.asList DeviceRecord.ofJson)]

/-- The reservation in a value. -/
def Reservation.ofJson (value : Json) : Reading Reservation := do
  let row ← Row.read Reservation.fields value
  return {
    template := ← row.required "templateId" Json.asText
    devices := ← row.required "devices" (Json.asList DeviceRecord.ofJson) }

/-- A reservation as an object. -/
def Reservation.toJson (reservation : Reservation) : Json :=
  .object [("templateId", .text reservation.template),
    ("devices", Json.ofList DeviceRecord.toJson reservation.devices)]

instance : Codec Reservation := ⟨Reservation.toJson, Reservation.ofJson⟩

/-- The fields of the summary of a reconciliation. -/
def SyncSummary.fields : List Field :=
  [.of "inserted" Json.asSize, .of "updated" Json.asSize, .of "deleted" Json.asSize]

/-- The summary of a reconciliation in a value. -/
def SyncSummary.ofJson (value : Json) : Reading SyncSummary := do
  let row ← Row.read SyncSummary.fields value
  return {
    inserted := ← row.required "inserted" Json.asSize
    updated := ← row.required "updated" Json.asSize
    deleted := ← row.required "deleted" Json.asSize }

/-- The summary of a reconciliation as an object. -/
def SyncSummary.toJson (summary : SyncSummary) : Json :=
  .object [("inserted", .natural summary.inserted), ("updated", .natural summary.updated),
    ("deleted", .natural summary.deleted)]

instance : Codec SyncSummary := ⟨SyncSummary.toJson, SyncSummary.ofJson⟩

/-- The fields of a summary. -/
def TemplateSummary.fields : List Field :=
  Template.fields ++ [.of "storageProviders" (Json.asList Json.asText),
    .of "fcpDevices" Json.asText, .of "fcpPathsCount" Json.asSize]

/-- The summary in a row. -/
def TemplateSummary.ofRow (row : Row) : Reading TemplateSummary := do
  return {
    template := ← Template.ofRow row
    providers := ← row.required "storageProviders" (Json.asList Json.asText)
    devices := ← row.required "fcpDevices" Json.asText
    pathCount := ← row.required "fcpPathsCount" Json.asSize }

/-- The summary in a value. -/
def TemplateSummary.ofJson (value : Json) : Reading TemplateSummary := do
  TemplateSummary.ofRow (← Row.readObject TemplateSummary.fields value)

/-- The members of a summary. -/
def TemplateSummary.members (summary : TemplateSummary) : List (String × Json) :=
  summary.template.members ++ [("storageProviders", Json.ofTexts summary.providers),
    ("fcpDevices", .text summary.devices), ("fcpPathsCount", .natural summary.pathCount)]

/-- A summary as an object. -/
def TemplateSummary.toJson (summary : TemplateSummary) : Json := .object summary.members

instance : Codec TemplateSummary := ⟨TemplateSummary.toJson, TemplateSummary.ofJson⟩

/-! ## Statistics -/

/-- The fields of a range expression with its count. -/
def DeviceRanges.fields : List Field := [.of "ranges" Json.asText, .of "count" Json.asSize]

/-- The range expression with its count in a value. -/
def DeviceRanges.ofJson (value : Json) : Reading DeviceRanges := do
  let row ← Row.read DeviceRanges.fields value
  return {
    ranges := ← row.required "ranges" Json.asText
    count := ← row.required "count" Json.asSize }

/-- A range expression with its count as an object. -/
def DeviceRanges.toJson (ranges : DeviceRanges) : Json :=
  .object [("ranges", .text ranges.ranges), ("count", .natural ranges.count)]

instance : Codec DeviceRanges := ⟨DeviceRanges.toJson, DeviceRanges.ofJson⟩

/-- The map from texts to texts in a value. -/
def textMapOfJson : Json → Reading (OrderedMap String String) := Json.asMap some Json.asText

/-- A map from texts to texts as an object. -/
def textMapToJson (map : OrderedMap String String) : Json := Json.ofMap id .text map

/-- The fields of the statistics of a path. -/
def PathStatistics.fields : List Field :=
  [.of "total" DeviceRanges.ofJson, .of "available" DeviceRanges.ofJson,
    .of "allocated" DeviceRanges.ofJson, .of "reserveOnly" DeviceRanges.ofJson,
    .of "connectionOnly" DeviceRanges.ofJson, .of "unallocatedButActive" textMapOfJson,
    .of "allocatedButFree" DeviceRanges.ofJson, .of "notFound" DeviceRanges.ofJson,
    .of "offline" DeviceRanges.ofJson, .of "chpids" textMapOfJson]

/-- The statistics of a path in a value. -/
def PathStatistics.ofJson (value : Json) : Reading PathStatistics := do
  let row ← Row.read PathStatistics.fields value
  return {
    total := ← row.required "total" DeviceRanges.ofJson
    available := ← row.required "available" DeviceRanges.ofJson
    allocated := ← row.required "allocated" DeviceRanges.ofJson
    reserveOnly := ← row.required "reserveOnly" DeviceRanges.ofJson
    connectionOnly := ← row.required "connectionOnly" DeviceRanges.ofJson
    unallocatedButActive := ← row.required "unallocatedButActive" textMapOfJson
    allocatedButFree := ← row.required "allocatedButFree" DeviceRanges.ofJson
    notFound := ← row.required "notFound" DeviceRanges.ofJson
    offline := ← row.required "offline" DeviceRanges.ofJson
    channelPaths := ← row.required "chpids" textMapOfJson }

/-- The statistics of a path as an object. -/
def PathStatistics.toJson (statistics : PathStatistics) : Json :=
  .object [("total", statistics.total.toJson), ("available", statistics.available.toJson),
    ("allocated", statistics.allocated.toJson), ("reserveOnly", statistics.reserveOnly.toJson),
    ("connectionOnly", statistics.connectionOnly.toJson),
    ("unallocatedButActive", textMapToJson statistics.unallocatedButActive),
    ("allocatedButFree", statistics.allocatedButFree.toJson),
    ("notFound", statistics.notFound.toJson), ("offline", statistics.offline.toJson),
    ("chpids", textMapToJson statistics.channelPaths)]

instance : Codec PathStatistics := ⟨PathStatistics.toJson, PathStatistics.ofJson⟩

/-! ## Details -/

/-- A path number written in plain decimal. -/
def pathNumber? (text : String) : Option Nat :=
  match Text.number? text.toList with
  | some number => if number < 4294967296 ∧ toString number = text then some number else none
  | none => none

/-- The map from path numbers in a value. -/
def pathsOfJson {V : Type} (read : Json → Reading V) : Json → Reading (OrderedMap Nat V) :=
  Json.asMap pathNumber? read

/-- A map from path numbers as an object. -/
def pathsToJson {V : Type} (write : V → Json) (paths : OrderedMap Nat V) : Json :=
  Json.ofMap toString write paths

/-- The fields of details. -/
def TemplateDetails.fields : List Field :=
  TemplateSummary.fields ++
    [.of "raw" (Json.asOption (pathsOfJson (Json.asList DeviceRecord.ofJson))),
      .of "statistics" (Json.asOption (pathsOfJson PathStatistics.ofJson))]

/-- The details in a value. -/
def TemplateDetails.ofJson (value : Json) : Reading TemplateDetails := do
  let row ← Row.readObject TemplateDetails.fields value
  return {
    summary := ← TemplateSummary.ofRow row
    records := ← row.optional "raw" (pathsOfJson (Json.asList DeviceRecord.ofJson))
    statistics := ← row.optional "statistics" (pathsOfJson PathStatistics.ofJson) }

/-- Details as an object. -/
def TemplateDetails.toJson (details : TemplateDetails) : Json :=
  .object (details.summary.members ++
    Json.ofPresent "raw" (pathsToJson (Json.ofList DeviceRecord.toJson)) details.records ++
    Json.ofPresent "statistics" (pathsToJson PathStatistics.toJson) details.statistics)

instance : Codec TemplateDetails := ⟨TemplateDetails.toJson, TemplateDetails.ofJson⟩

end FibrePool
