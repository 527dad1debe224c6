import FibrePool.Device.Record
import FibrePool.Json.Row

/-!
# Devices in JSON

Device numbers are texts, states are words, and records and usages are objects.
-/

namespace FibrePool

set_option autoImplicit false

open Json (Codec Field Reading Row)

/-! ## Numbers and states -/

/-- The device number in a value. -/
def DeviceId.ofJson (value : Json) : Reading DeviceId := do
  match DeviceId.ofChars? (← value.asText).toList with
  | some id => return id
  | none => throw .unfit

/-- A device number as a text. -/
def DeviceId.toJson (id : DeviceId) : Json := .text id.text

instance : Codec DeviceId := ⟨DeviceId.toJson, DeviceId.ofJson⟩

/-- The state in a value: its word, or an object with the word as its only name. -/
def DeviceStatus.ofJson : Json → Reading DeviceStatus
  | .object [(word, .null)] => (DeviceStatus.ofWord? word).elim (throw .unfit) pure
  | value => do (DeviceStatus.ofWord? (← value.asText)).elim (throw .unfit) pure

/-- A state as its word. -/
def DeviceStatus.toJson (status : DeviceStatus) : Json := .text status.word

instance : Codec DeviceStatus := ⟨DeviceStatus.toJson, DeviceStatus.ofJson⟩

/-! ## Live devices -/

/-- The fields of a live device. -/
def LiveDevice.fields : List Field :=
  [.of "id" DeviceId.ofJson, .of "npivWwpn" Json.asText, .of "physicalWwpn" Json.asText,
    .of "chpid" Json.asText, .of "status" DeviceStatus.ofJson, .of "owner" Json.asText]

/-- The live device in a value. -/
def LiveDevice.ofJson (value : Json) : Reading LiveDevice := do
  let row ← Row.read LiveDevice.fields value
  return {
    id := ← row.required "id" DeviceId.ofJson
    npivName := ← row.required "npivWwpn" Json.asText
    physicalName := ← row.required "physicalWwpn" Json.asText
    channelPath := ← row.required "chpid" Json.asText
    status := ← row.required "status" DeviceStatus.ofJson
    owner := ← row.required "owner" Json.asText }

/-- A live device as an object. -/
def LiveDevice.toJson (device : LiveDevice) : Json :=
  .object [("id", device.id.toJson), ("npivWwpn", .text device.npivName),
    ("physicalWwpn", .text device.physicalName), ("chpid", .text device.channelPath),
    ("status", device.status.toJson), ("owner", .text device.owner)]

instance : Codec LiveDevice := ⟨LiveDevice.toJson, LiveDevice.ofJson⟩

/-! ## Records -/

/-- The fields of a record. -/
def DeviceRecord.fields : List Field :=
  [.of "fcpId" DeviceId.ofJson, .of "assignerId" Json.asText, .of "connections" Json.asCounter,
    .of "reserved" Json.asBool, .of "wwpnNpiv" Json.asText, .of "wwpnPhy" Json.asText,
    .of "chpid" Json.asText, .of "state" DeviceStatus.ofJson, .of "owner" Json.asText,
    .of "templateId" Json.asText]

/-- The record in a value. -/
def DeviceRecord.ofJson (value : Json) : Reading DeviceRecord := do
  let row ← Row.read DeviceRecord.fields value
  return {
    id := ← row.required "fcpId" DeviceId.ofJson
    assigner := ← row.required "assignerId" Json.asText
    connections := ← row.required "connections" Json.asCounter
    reserved := ← row.required "reserved" Json.asBool
    npivName := ← row.required "wwpnNpiv" Json.asText
    physicalName := ← row.required "wwpnPhy" Json.asText
    channelPath := ← row.required "chpid" Json.asText
    state := ← row.required "state" DeviceStatus.ofJson
    owner := ← row.required "owner" Json.asText
    template := ← row.required "templateId" Json.asText }

/-- A record as an object. -/
def DeviceRecord.toJson (record : DeviceRecord) : Json :=
  .object [("fcpId", record.id.toJson), ("assignerId", .text record.assigner),
    ("connections", .counter record.connections), ("reserved", .bool record.reserved),
    ("wwpnNpiv", .text record.npivName), ("wwpnPhy", .text record.physicalName),
    ("chpid", .text record.channelPath), ("state", record.state.toJson),
    ("owner", .text record.owner), ("templateId", .text record.template)]

instance : Codec DeviceRecord := ⟨DeviceRecord.toJson, DeviceRecord.ofJson⟩

/-! ## Usages -/

/-- The fields of a usage. -/
def Usage.fields : List Field :=
  [.of "assignerId" Json.asText, .of "reserved" Json.asBool, .of "connections" Json.asCounter,
    .of "templateId" Json.asText]

/-- The usage in a value. -/
def Usage.ofJson (value : Json) : Reading Usage := do
  let row ← Row.read Usage.fields value
  return {
    assigner := ← row.required "assignerId" Json.asText
    reserved := ← row.required "reserved" Json.asBool
    connections := ← row.required "connections" Json.asCounter
    template := ← row.required "templateId" Json.asText }

/-- A usage as an object. -/
def Usage.toJson (usage : Usage) : Json :=
  .object [("assignerId", .text usage.assigner), ("reserved", .bool usage.reserved),
    ("connections", .counter usage.connections), ("templateId", .text usage.template)]

instance : Codec Usage := ⟨Usage.toJson, Usage.ofJson⟩

end FibrePool
