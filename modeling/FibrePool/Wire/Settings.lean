import FibrePool.Json.Row
import FibrePool.Settings.Basic

/-!
# Settings in JSON

The settings as an object with one member for each section.  Every section, and every member of a
section, may be missing.
-/

namespace FibrePool

set_option autoImplicit false

open Json (Codec Field Reading Row)

/-! ## Sections -/

/-- The fields of the section about the host. -/
def HostSettings.fields : List Field :=
  [.of "lpar_name" Json.asText, .of "query_target" (Json.asOption Json.asText)].map Field.omitted

/-- The section about the host in a value. -/
def HostSettings.ofJson (value : Json) : Reading HostSettings := do
  let row ← Row.read HostSettings.fields value
  return {
    partition := ← row.withDefault "lpar_name" Json.asText ""
    queryTarget := ← row.optional "query_target" Json.asText }

/-- The section about the host as an object. -/
def HostSettings.toJson (host : HostSettings) : Json :=
  .object [("lpar_name", .text host.partition),
    ("query_target", Json.ofOption .text host.queryTarget)]

/-- The fields of the section about the hardware. -/
def HardwareSettings.fields : List Field :=
  [(Field.of "query_command" (Json.asOption (Json.asList Json.asText))).omitted]

/-- The section about the hardware in a value. -/
def HardwareSettings.ofJson (value : Json) : Reading HardwareSettings := do
  let row ← Row.read HardwareSettings.fields value
  return { queryCommand := ← row.optional "query_command" (Json.asList Json.asText) }

/-- The section about the hardware as an object. -/
def HardwareSettings.toJson (hardware : HardwareSettings) : Json :=
  .object [("query_command", Json.ofOption Json.ofTexts hardware.queryCommand)]

/-- The fields of the section about volumes. -/
def VolumeSettings.fields : List Field :=
  [.of "same_index_pairing" Json.asBool, .of "sync_before_reserve" Json.asBool].map Field.omitted

/-- The section about volumes in a value. -/
def VolumeSettings.ofJson (value : Json) : Reading VolumeSettings := do
  let row ← Row.read VolumeSettings.fields value
  return {
    sameIndexPairing := ← row.withDefault "same_index_pairing" Json.asBool false
    syncBeforeReserve := ← row.withDefault "sync_before_reserve" Json.asBool false }

/-- The section about volumes as an object. -/
def VolumeSettings.toJson (volume : VolumeSettings) : Json :=
  .object [("same_index_pairing", .bool volume.sameIndexPairing),
    ("sync_before_reserve", .bool volume.syncBeforeReserve)]

/-- The fields of the section about the gateway. -/
def GatewaySettings.fields : List Field :=
  [.of "endpoint" Json.asText, .of "token" (Json.asOption Json.asText),
    .of "timeout_secs" Json.asSize, .of "retry_max_elapsed_secs" Json.asSize].map Field.omitted

/-- The section about the gateway in a value. -/
def GatewaySettings.ofJson (value : Json) : Reading GatewaySettings := do
  let row ← Row.read GatewaySettings.fields value
  let standard : GatewaySettings := {}
  return {
    endpoint := ← row.withDefault "endpoint" Json.asText standard.endpoint
    token := ← row.optional "token" Json.asText
    timeoutSeconds := ← row.withDefault "timeout_secs" Json.asSize standard.timeoutSeconds
    retrySeconds := ←
      row.withDefault "retry_max_elapsed_secs" Json.asSize standard.retrySeconds }

/-- The section about the gateway as an object. -/
def GatewaySettings.toJson (gateway : GatewaySettings) : Json :=
  .object [("endpoint", .text gateway.endpoint), ("token", Json.ofOption .text gateway.token),
    ("timeout_secs", .natural gateway.timeoutSeconds),
    ("retry_max_elapsed_secs", .natural gateway.retrySeconds)]

/-- The fields of the section about the store. -/
def StoreSettings.fields : List Field :=
  [(Field.of "snapshot_path" (Json.asOption Json.asText)).omitted]

/-- The section about the store in a value. -/
def StoreSettings.ofJson (value : Json) : Reading StoreSettings := do
  let row ← Row.read StoreSettings.fields value
  return { snapshotPath := ← row.optional "snapshot_path" Json.asText }

/-- The section about the store as an object. -/
def StoreSettings.toJson (store : StoreSettings) : Json :=
  .object [("snapshot_path", Json.ofOption .text store.snapshotPath)]

/-- The fields of the section about the web interface. -/
def ApiSettings.fields : List Field := [(Field.of "listen_addr" Json.asText).omitted]

/-- The section about the web interface in a value. -/
def ApiSettings.ofJson (value : Json) : Reading ApiSettings := do
  let row ← Row.read ApiSettings.fields value
  let standard : ApiSettings := {}
  return { listenAddress := ← row.withDefault "listen_addr" Json.asText standard.listenAddress }

/-- The section about the web interface as an object. -/
def ApiSettings.toJson (api : ApiSettings) : Json :=
  .object [("listen_addr", .text api.listenAddress)]

/-! ## All sections -/

namespace Settings

/-- The sections. -/
def fields : List Field :=
  [.of "host" HostSettings.ofJson, .of "hardware" HardwareSettings.ofJson,
    .of "volume" VolumeSettings.ofJson, .of "gateway" GatewaySettings.ofJson,
    .of "store" StoreSettings.ofJson, .of "api" ApiSettings.ofJson].map Field.omitted

/-- The settings in a value. -/
def ofJson (value : Json) : Reading Settings := do
  let row ← Row.read fields value
  return {
    host := ← row.withDefault "host" HostSettings.ofJson {}
    hardware := ← row.withDefault "hardware" HardwareSettings.ofJson {}
    volume := ← row.withDefault "volume" VolumeSettings.ofJson {}
    gateway := ← row.withDefault "gateway" GatewaySettings.ofJson {}
    store := ← row.withDefault "store" StoreSettings.ofJson {}
    api := ← row.withDefault "api" ApiSettings.ofJson {} }

/-- The settings as an object. -/
def toJson (settings : Settings) : Json :=
  .object [("host", settings.host.toJson), ("hardware", settings.hardware.toJson),
    ("volume", settings.volume.toJson), ("gateway", settings.gateway.toJson),
    ("store", settings.store.toJson), ("api", settings.api.toJson)]

instance : Codec Settings := ⟨toJson, ofJson⟩

end Settings

end FibrePool
