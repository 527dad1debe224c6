import FibrePool.Store.Tables
import FibrePool.Wire.Template

/-!
# Tables in JSON

The whole state of the pool as one object; this is what a snapshot file holds.
-/

namespace FibrePool

set_option autoImplicit false

open Json (Codec Field Reading Row)

/-- The device number that a member name is. -/
def deviceKey? (name : String) : Option DeviceId := DeviceId.ofChars? name.toList

/-- The set of devices in a value. -/
def DeviceSet.ofJson (value : Json) : Reading DeviceSet := do
  return OrderedMap.ofList ((← value.asList DeviceId.ofJson).map fun id => (id, ()))

/-- A set of devices as a list in ascending order. -/
def DeviceSet.toJson (ids : DeviceSet) : Json := Json.ofList DeviceId.toJson ids.keys

/-- The paths in a value. -/
def PathMap.ofJson : Json → Reading PathMap := pathsOfJson DeviceSet.ofJson

/-- Paths as an object. -/
def PathMap.toJson (paths : PathMap) : Json := pathsToJson DeviceSet.toJson paths

namespace Tables

/-- The fields of the tables. -/
def fields : List Field :=
  [.of "fcps" (Json.asMap deviceKey? DeviceRecord.ofJson),
    .of "templates" (Json.asMap some Template.ofJson),
    .of "template_paths" (Json.asMap some PathMap.ofJson), .of "sp_bindings" textMapOfJson]

/-- The tables in a value. -/
def ofJson (value : Json) : Reading Tables := do
  let row ← Row.read fields value
  return {
    devices := ← row.required "fcps" (Json.asMap deviceKey? DeviceRecord.ofJson)
    templates := ← row.required "templates" (Json.asMap some Template.ofJson)
    paths := ← row.required "template_paths" (Json.asMap some PathMap.ofJson)
    providers := ← row.required "sp_bindings" textMapOfJson }

/-- The tables as an object. -/
def toJson (tables : Tables) : Json :=
  .object [("fcps", Json.ofMap DeviceId.text DeviceRecord.toJson tables.devices),
    ("templates", Json.ofMap id Template.toJson tables.templates),
    ("template_paths", Json.ofMap id PathMap.toJson tables.paths),
    ("sp_bindings", textMapToJson tables.providers)]

instance : Codec Tables := ⟨toJson, ofJson⟩

end Tables

end FibrePool
