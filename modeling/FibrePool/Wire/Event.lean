import FibrePool.Json.Row
import FibrePool.Pool.Event

/-!
# Events in JSON

An event is an object with one member: its name with its fields.
-/

namespace FibrePool

set_option autoImplicit false

open Json (Codec Field Reading Row)

namespace Event

/-- An event of a name with its fields. -/
def tagged (name : String) (fields : List (String × Json)) : Json :=
  .object [(name, .object fields)]

/-- The fields of a template event. -/
def ofTemplate (template : String) : List (String × Json) := [("template_id", .text template)]

/-- The fields of an event about the devices of a guest under a template. -/
def ofDevices (assigner template : String) (devices : List String) : List (String × Json) :=
  [("assigner_id", .text assigner), ("template_id", .text template),
    ("fcp_ids", Json.ofTexts devices)]

/-- An event as an object. -/
def toJson : Event → Json
  | devicesReserved assigner template devices =>
    tagged "DevicesReserved" (ofDevices assigner template devices)
  | devicesReleased assigner template devices =>
    tagged "DevicesReleased" (ofDevices assigner template devices)
  | usageChanged device assigner connections =>
    tagged "UsageChanged" [("fcp_id", .text device), ("assigner_id", .text assigner),
      ("connections", .counter connections)]
  | reconciled inserted updated deleted =>
    tagged "Reconciled" [("inserted", .natural inserted), ("updated", .natural updated),
      ("deleted", .natural deleted)]
  | templateCreated template => tagged "TemplateCreated" (ofTemplate template)
  | templateEdited template => tagged "TemplateEdited" (ofTemplate template)
  | templateDeleted template => tagged "TemplateDeleted" (ofTemplate template)

/-- The guest, the template and the devices of an event. -/
def devicesOfJson (value : Json) : Reading (String × String × List String) := do
  let row ← Row.read [.of "assigner_id" Json.asText, .of "template_id" Json.asText,
    .of "fcp_ids" (Json.asList Json.asText)] value
  return (← row.required "assigner_id" Json.asText, ← row.required "template_id" Json.asText,
    ← row.required "fcp_ids" (Json.asList Json.asText))

/-- The template of an event. -/
def templateOfJson (value : Json) : Reading String := do
  let row ← Row.read [.of "template_id" Json.asText] value
  row.required "template_id" Json.asText

/-- The change of usage in the fields of an event. -/
def usageOfJson (value : Json) : Reading Event := do
  let row ← Row.read [.of "fcp_id" Json.asText, .of "assigner_id" Json.asText,
    .of "connections" Json.asCounter] value
  return usageChanged (← row.required "fcp_id" Json.asText)
    (← row.required "assigner_id" Json.asText) (← row.required "connections" Json.asCounter)

/-- The reconciliation in the fields of an event. -/
def reconciledOfJson (value : Json) : Reading Event := do
  let row ← Row.read [.of "inserted" Json.asSize, .of "updated" Json.asSize,
    .of "deleted" Json.asSize] value
  return reconciled (← row.required "inserted" Json.asSize)
    (← row.required "updated" Json.asSize) (← row.required "deleted" Json.asSize)

/-- The event of a name with its fields. -/
def ofTagged (name : String) (fields : Json) : Reading Event :=
  match name with
  | "DevicesReserved" => do
    let (assigner, template, devices) ← devicesOfJson fields
    return devicesReserved assigner template devices
  | "DevicesReleased" => do
    let (assigner, template, devices) ← devicesOfJson fields
    return devicesReleased assigner template devices
  | "UsageChanged" => usageOfJson fields
  | "Reconciled" => reconciledOfJson fields
  | "TemplateCreated" => templateCreated <$> templateOfJson fields
  | "TemplateEdited" => templateEdited <$> templateOfJson fields
  | "TemplateDeleted" => templateDeleted <$> templateOfJson fields
  | _ => .error .unfit

/-- The event in a value. -/
def ofJson : Json → Reading Event
  | .object [(name, fields)] => ofTagged name fields
  | .object ((name, fields) :: _ :: _) => do
    let _ ← ofTagged name fields
    throw .broken
  | other => .error other.mismatch

instance : Codec Event := ⟨toJson, ofJson⟩

end Event

end FibrePool
