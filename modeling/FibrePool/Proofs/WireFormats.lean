import FibrePool.Proofs.WireRecords
import FibrePool.Wire.Event
import FibrePool.Wire.Volume

/-!
# Exchanged values read back in every order

The types whose values are exchanged as JSON are the cases of `WireType`.  A value of any of them
comes back from the text that is written for it, in both layouts and with the members of its objects
in any order (`WireType.read_reordered`).  The one condition is that its numbers have the size of
their fields; no text, no counter and no time is excepted.
-/

namespace FibrePool

set_option autoImplicit false

open Json (Codec Conveys Entry)

/-! ## Volumes -/

/-- An entry that is a list of devices. -/
abbrev Json.Entry.ofDevices (name : String) (devices : List DeviceId) : Entry :=
  ⟨name, devicesOfJson, devicesToJson devices, devices⟩

@[simp] theorem conveys_devices (devices : List DeviceId) :
    Conveys devicesOfJson (devicesToJson devices) devices :=
  .list fun id _ => id.conveys

namespace VolumeConnection

/-- The entries of a connection. -/
def entries (connection : VolumeConnection) : List Entry :=
  [.ofText "assignerId" connection.assigner, .ofDevices "fcpList" connection.devices,
    .ofTexts "targetWwpns" connection.targetNames, .ofText "targetLun" connection.lun,
    .ofFlag "multipath" connection.multipath, .ofText "osVersion" connection.osVersion,
    .ofText "mountPoint" connection.mountPoint, .ofText "platform" connection.platform,
    .ofFlag "isRootVolume" connection.isRootVolume,
    .ofFlag "updateConnectionsOnly" connection.updateConnectionsOnly]

theorem conveys (connection : VolumeConnection) :
    Conveys ofJson connection.toJson connection := by
  refine .record fields connection.entries (by decide) (.refl _) ?_ fun read _ gives _ => ?_
  · simp [entries]
  · simp [entries] at gives
    simp [ofJson, read, gives]

end VolumeConnection

namespace GuestVolume

/-- The entries of what a guest configures. -/
def entries (volume : GuestVolume) : List Entry :=
  [.ofText "userid" volume.user, .ofDevices "fcpList" volume.devices,
    .ofTexts "targetWwpns" volume.targetNames, .ofText "targetLun" volume.lun,
    .ofFlag "multipath" volume.multipath, .ofText "osVersion" volume.osVersion,
    .ofText "mountPoint" volume.mountPoint]

theorem conveys (volume : GuestVolume) : Conveys ofJson volume.toJson volume := by
  refine .record fields volume.entries (by decide) (.refl _) ?_ fun read _ gives _ => ?_
  · simp [entries]
  · simp [entries] at gives
    simp [ofJson, ofRow, read, gives]

end GuestVolume

namespace GuestRemoval

/-- The entries of what a guest removes. -/
def entries (removal : GuestRemoval) : List Entry :=
  removal.volume.entries ++ [.ofCounter "remainingConnections" removal.remainingConnections]

theorem conveys (removal : GuestRemoval) : Conveys ofJson removal.toJson removal := by
  refine .record fields removal.entries (by decide) (.refl _) ?_ fun read _ gives _ => ?_
  · simp [entries, GuestVolume.entries]
  · simp [entries, GuestVolume.entries] at gives
    simp [ofJson, GuestVolume.ofRow, read, gives]

end GuestRemoval

/-! ## Connectors and queries -/

namespace ConnectorRequest

/-- The entries of a request for a connector. -/
def entries (request : ConnectorRequest) : List Entry :=
  [.ofText "assignerId" request.assigner, .ofFlag "reserve" request.reserve,
    .ofOptionalText "templateId" request.template,
    .ofOptionalText "storageProvider" request.provider]

theorem conveys (request : ConnectorRequest) : Conveys ofJson request.toJson request := by
  refine .record fields request.entries (by decide) (.refl _) ?_ fun read _ gives _ => ?_
  · simp [entries]
  · simp [entries] at gives
    simp [ofJson, ofRow, Json.Row.optional, read, gives]

end ConnectorRequest

namespace TemplateQuery

/-- The entries of a query for templates. -/
def entries (query : TemplateQuery) : List Entry :=
  [.ofOptionalTexts "templateIds" query.templates, .ofOptionalText "assignerId" query.assigner,
    .ofFlag "hostDefault" query.hostDefault, .ofOptionalTexts "storageProviders" query.providers]

theorem conveys (query : TemplateQuery) : Conveys ofJson query.toJson query := by
  refine .record fields query.entries (by decide) (.refl _) ?_ fun read _ gives _ => ?_
  · simp [entries]
  · simp [entries] at gives
    simp [ofJson, Json.Row.optional, read, gives]

end TemplateQuery

namespace Connector

/-- The number of paths has 64 bits. -/
def Sized (connector : Connector) : Prop := connector.pathCount < 18446744073709551616

/-- The entries of a connector. -/
def entries (connector : Connector) : List Entry :=
  [.ofTexts "fcpDevices" connector.devices, .ofTexts "wwpns" connector.portNames,
    .ofTextMap "phyToVirtInitiators" connector.physicalNames, .ofText "host" connector.host,
    .ofSize "fcpPathsCount" connector.pathCount, .ofText "templateId" connector.template]

theorem conveys {connector : Connector} (sized : connector.Sized) :
    Conveys ofJson connector.toJson connector := by
  refine .record fields connector.entries (by decide) (.refl _) ?_ fun read _ gives _ => ?_
  · simp [entries, Json.conveys_size sized]
  · simp [entries] at gives
    simp [ofJson, read, gives]

end Connector

/-! ## Events -/

namespace Event

/-- Every number has the size of its field. -/
def Sized : Event → Prop
  | reconciled inserted updated deleted => inserted < 18446744073709551616 ∧
    updated < 18446744073709551616 ∧ deleted < 18446744073709551616
  | _ => True

theorem conveys_ofTemplate (template : String) :
    Conveys templateOfJson (.object (ofTemplate template)) template := by
  refine .record [.of "template_id" Json.asText] [.ofText "template_id" template] (by decide)
    (.refl _) ?_ fun read _ gives _ => ?_
  · simp
  · simp at gives
    simp [templateOfJson, read, gives]

theorem conveys_ofDevices (assigner template : String) (devices : List String) :
    Conveys devicesOfJson (.object (ofDevices assigner template devices))
      (assigner, template, devices) := by
  refine .record [.of "assigner_id" Json.asText, .of "template_id" Json.asText,
    .of "fcp_ids" (Json.asList Json.asText)] [.ofText "assigner_id" assigner,
    .ofText "template_id" template, .ofTexts "fcp_ids" devices] (by decide) (.refl _) ?_
    fun read _ gives _ => ?_
  · simp
  · simp at gives
    simp [devicesOfJson, read, gives]

theorem conveys_usage (device assigner : String) (connections : UInt32) :
    Conveys usageOfJson (.object [("fcp_id", .text device), ("assigner_id", .text assigner),
      ("connections", .counter connections)]) (usageChanged device assigner connections) := by
  refine .record [.of "fcp_id" Json.asText, .of "assigner_id" Json.asText,
    .of "connections" Json.asCounter] [.ofText "fcp_id" device, .ofText "assigner_id" assigner,
    .ofCounter "connections" connections] (by decide) (.refl _) ?_ fun read _ gives _ => ?_
  · simp
  · simp at gives
    simp [usageOfJson, read, gives]

theorem conveys_reconciled {inserted updated deleted : Nat}
    (sized : Sized (reconciled inserted updated deleted)) :
    Conveys reconciledOfJson (.object [("inserted", .natural inserted),
      ("updated", .natural updated), ("deleted", .natural deleted)])
      (reconciled inserted updated deleted) := by
  refine .record [.of "inserted" Json.asSize, .of "updated" Json.asSize,
    .of "deleted" Json.asSize] [.ofSize "inserted" inserted, .ofSize "updated" updated,
    .ofSize "deleted" deleted] (by decide) (.refl _) ?_ fun read _ gives _ => ?_
  · simp [Json.conveys_size sized.1, Json.conveys_size sized.2.1, Json.conveys_size sized.2.2]
  · simp at gives
    simp [reconciledOfJson, read, gives]

/-- A named event conveys what its name makes of its fields. -/
theorem conveys_tagged {name : String} {members : List (String × Json)} {event : Event}
    (conveys : Conveys (ofTagged name) (.object members) event) :
    Conveys ofJson (tagged name members) event where
  plain := Json.everyLeafOfMembers_iff.2 (by simpa using conveys.plain)
  back same := by
    obtain ⟨changed, others, rfl, pairs, order⟩ := Json.exists_of_reordered_object same
    cases pairs with
    | cons here there =>
      cases there
      obtain rfl := List.perm_singleton.1 order.symm
      obtain ⟨rfl, same⟩ := here
      exact conveys.back same

theorem conveys {event : Event} (sized : event.Sized) : Conveys ofJson event.toJson event := by
  cases event with
  | devicesReserved assigner template devices | devicesReleased assigner template devices =>
    refine conveys_tagged ((conveys_ofDevices assigner template devices).of_read fun done => ?_)
    simp [ofTagged, done]
  | usageChanged device assigner connections =>
    exact conveys_tagged (conveys_usage device assigner connections)
  | reconciled inserted updated deleted => exact conveys_tagged (conveys_reconciled sized)
  | templateCreated template | templateEdited template | templateDeleted template =>
    refine conveys_tagged ((conveys_ofTemplate template).of_read fun done => ?_)
    simp [ofTagged, done]

end Event

/-! ## All types -/

/-- The types whose values are exchanged as JSON. -/
inductive WireType where
  | record | usage | template | device | connection | guestVolume | guestRemoval | newTemplate
  | templateEdit | connectorRequest | templateQuery | reservation | syncSummary | templateSummary
  | templateDetails | pathStatistics | connector | event
  deriving DecidableEq, Repr

namespace WireType

/-- The values of a type. -/
def Value : WireType → Type
  | record => DeviceRecord
  | usage => Usage
  | template => Template
  | device => LiveDevice
  | connection => VolumeConnection
  | guestVolume => GuestVolume
  | guestRemoval => GuestRemoval
  | newTemplate => NewTemplate
  | templateEdit => TemplateEdit
  | connectorRequest => ConnectorRequest
  | templateQuery => TemplateQuery
  | reservation => Reservation
  | syncSummary => SyncSummary
  | templateSummary => TemplateSummary
  | templateDetails => TemplateDetails
  | pathStatistics => PathStatistics
  | connector => Connector
  | event => Event

instance (type : WireType) : Codec type.Value :=
  match type with
  | record => inferInstanceAs (Codec DeviceRecord)
  | usage => inferInstanceAs (Codec Usage)
  | template => inferInstanceAs (Codec Template)
  | device => inferInstanceAs (Codec LiveDevice)
  | connection => inferInstanceAs (Codec VolumeConnection)
  | guestVolume => inferInstanceAs (Codec GuestVolume)
  | guestRemoval => inferInstanceAs (Codec GuestRemoval)
  | newTemplate => inferInstanceAs (Codec NewTemplate)
  | templateEdit => inferInstanceAs (Codec TemplateEdit)
  | connectorRequest => inferInstanceAs (Codec ConnectorRequest)
  | templateQuery => inferInstanceAs (Codec TemplateQuery)
  | reservation => inferInstanceAs (Codec Reservation)
  | syncSummary => inferInstanceAs (Codec SyncSummary)
  | templateSummary => inferInstanceAs (Codec TemplateSummary)
  | templateDetails => inferInstanceAs (Codec TemplateDetails)
  | pathStatistics => inferInstanceAs (Codec PathStatistics)
  | connector => inferInstanceAs (Codec Connector)
  | event => inferInstanceAs (Codec Event)

/-- Every number in a value has the size of its field: 32 bits for path numbers and for the fewest
paths, 64 for sizes.  Counters have their 32 bits in any case. -/
def Sized : (type : WireType) → type.Value → Prop
  | template => Template.WordSized
  | newTemplate => NewTemplate.WordSized
  | templateEdit => TemplateEdit.WordSized
  | syncSummary => SyncSummary.Sized
  | templateSummary => TemplateSummary.Sized
  | templateDetails => TemplateDetails.Sized
  | pathStatistics => PathStatistics.Sized
  | connector => Connector.Sized
  | event => Event.Sized
  | record | usage | device | connection | guestVolume | guestRemoval | connectorRequest
  | templateQuery | reservation => fun _ => True

variable {type : WireType} {value : type.Value}

theorem conveys (sized : type.Sized value) :
    Conveys (Codec.decode : Json → Json.Reading type.Value) (Codec.encode value) value := by
  cases type with
  | record => exact DeviceRecord.conveys value
  | usage => exact Usage.conveys value
  | template => exact Template.conveys sized
  | device => exact LiveDevice.conveys value
  | connection => exact VolumeConnection.conveys value
  | guestVolume => exact GuestVolume.conveys value
  | guestRemoval => exact GuestRemoval.conveys value
  | newTemplate => exact NewTemplate.conveys sized
  | templateEdit => exact TemplateEdit.conveys sized
  | connectorRequest => exact ConnectorRequest.conveys value
  | templateQuery => exact TemplateQuery.conveys value
  | reservation => exact Reservation.conveys value
  | syncSummary => exact SyncSummary.conveys sized
  | templateSummary => exact TemplateSummary.conveys sized
  | templateDetails => exact TemplateDetails.conveys sized
  | pathStatistics => exact PathStatistics.conveys sized
  | connector => exact Connector.conveys sized
  | event => exact Event.conveys sized

/-- The value of a type that a text is. -/
def ofText (type : WireType) (text : String) : Json.Reading type.Value :=
  match Json.ofText? text with
  | some value => Codec.decode value
  | none => .error .broken

theorem ofText_eq_ok {text : String}
    (read : (Json.ofText? text).map Codec.decode = some (.ok value)) :
    type.ofText text = .ok value := by
  obtain ⟨found, whole, done⟩ := Option.map_eq_some_iff.1 read
  rw [ofText, whole]
  exact done

/-- **What is exchanged is read back**: every value, from the text that is written for it and from
both layouts of every text that lists the members of its objects in another order. -/
theorem read_reordered (sized : type.Sized value) :
    type.ofText (Codec.encode value).compact = .ok value ∧
      ∀ other, Json.Reordered (Codec.encode value) other →
        type.ofText other.compact = .ok value ∧ type.ofText other.pretty = .ok value := by
  refine ⟨ofText_eq_ok ((conveys sized).ofText?_eq (.refl _)).1, fun other same => ?_⟩
  obtain ⟨compact, pretty⟩ := (conveys sized).ofText?_eq same
  exact ⟨ofText_eq_ok compact, ofText_eq_ok pretty⟩

/-! ### An example -/

namespace Sample

/-- Owners and channel paths. -/
def names : OrderedMap String String := .ofList [("5A", "1A00"), ("\u0000", "é\\")]

/-- The statistics of a path. -/
def statistics : PathStatistics :=
  ⟨⟨"1A00-1A01", 2⟩, default, default, default, default, names, default, default, default, names⟩

/-- Details of a template with odd names, with records and statistics. -/
def details : TemplateDetails where
  summary := {
    template := {
      id := "7f3a", name := "\"Ω\"\n\u0007 東京", description := "\\", hostDefault := true
      leastPaths := some 2, createdAt := ⟨⟨2024, 2, 29, 23, 59, 59, 1000000001⟩, by decide⟩ }
    providers := ["tier-1", ""], devices := "1A00-1A01", pathCount := 1 }
  records := some (OrderedMap.insert ∅ 4294967295 [default, default])
  statistics := some (OrderedMap.insert ∅ 0 statistics)

theorem everyPath_single {V : Type} {condition : V → Prop} {path : Nat} {value : V}
    (below : path < 4294967296) (holds : condition value) :
    EveryPath condition (OrderedMap.insert ∅ path value) := by
  intro probe found stored
  rw [OrderedMap.get?_insert] at stored
  split at stored
  · next same =>
    cases stored
    exact ⟨Nat.compare_eq_eq.1 same ▸ below, holds⟩
  · cases stored

theorem sized : details.Sized where
  summary := ⟨by decide, by decide⟩
  records := by
    rintro paths ⟨⟩
    exact everyPath_single (by decide) trivial
  statistics := by
    rintro paths ⟨⟩
    exact everyPath_single (by decide) ⟨by decide, by decide, by decide, by decide, by decide,
      by decide, by decide, by decide⟩

/-- The members of the details. -/
def members : List (String × Json) :=
  details.summary.members ++ Json.ofPresent "raw" (pathsToJson (Json.ofList DeviceRecord.toJson))
    details.records ++ Json.ofPresent "statistics" (pathsToJson PathStatistics.toJson)
    details.statistics

theorem reordered_reverse (members : List (String × Json)) :
    Json.Reordered (.object members) (.object members.reverse) :=
  .object rfl (List.forall₂_same.2 fun value _ => .refl value) (List.reverse_perm members).symm

/-- The details are read back, also with the last of their members written first. -/
theorem details_read_reversed : templateDetails.Sized details ∧
    templateDetails.ofText details.toJson.compact = .ok details ∧
    templateDetails.ofText (Json.object members.reverse).compact = .ok details := by
  obtain ⟨written, reordered⟩ := @read_reordered templateDetails details sized
  exact ⟨sized, written, (reordered _ (reordered_reverse members)).1⟩

end Sample

end WireType

end FibrePool
