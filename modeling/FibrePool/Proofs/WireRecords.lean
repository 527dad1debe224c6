import FibrePool.Proofs.InstantText
import FibrePool.Proofs.RangeCodec
import FibrePool.Proofs.Reordering
import FibrePool.Wire.Template

/-!
# Devices and templates read back in every order

The parts that records are made of convey what is written for them: device numbers, states, times,
counters and maps.  From these follow the records that the pool keeps, `DeviceRecord.conveys` and
`Template.conveys`, the latter when the fewest paths have 32 bits.
-/

namespace FibrePool

set_option autoImplicit false

open Json (Conveys Entry)

/-! ## Parts -/

namespace Json

/-- An entry that is a text. -/
abbrev Entry.ofText (name content : String) : Entry := ⟨name, asText, text content, content⟩

/-- An entry that is a list of texts. -/
abbrev Entry.ofTexts (name : String) (values : List String) : Entry :=
  ⟨name, asList asText, Json.ofTexts values, values⟩

/-- An entry that is a truth value. -/
abbrev Entry.ofFlag (name : String) (flag : Bool) : Entry := ⟨name, asBool, bool flag, flag⟩

/-- An entry that is a number of 32 bits. -/
abbrev Entry.ofWord (name : String) (number : Nat) : Entry := ⟨name, asWord, natural number, number⟩

/-- An entry that is a counter. -/
abbrev Entry.ofCounter (name : String) (count : UInt32) : Entry :=
  ⟨name, asCounter, counter count, count⟩

/-- An entry that is a number of 64 bits. -/
abbrev Entry.ofSize (name : String) (number : Nat) : Entry := ⟨name, asSize, natural number, number⟩

@[simp] theorem conveys_word {number : Nat} (below : number < 4294967296) :
    Conveys asWord (natural number) number :=
  conveys_below below

@[simp] theorem conveys_counter (count : UInt32) : Conveys asCounter (counter count) count :=
  (conveys_word count.toNat_lt).of_read fun done => by
    rw [asCounter, done]
    exact congrArg Except.ok (UInt32.ofNat_toNat)

@[simp] theorem conveys_size {number : Nat} (below : number < 18446744073709551616) :
    Conveys asSize (natural number) number :=
  conveys_below below

@[simp] theorem conveys_texts (values : List String) :
    Conveys (asList asText) (ofTexts values) values :=
  .list fun value _ => conveys_text value

/-- An entry that is a text or missing. -/
abbrev Entry.ofOptionalText (name : String) (content : Option String) : Entry :=
  ⟨name, asOption asText, ofOption text content, content⟩

/-- An entry that is a list of texts or missing. -/
abbrev Entry.ofOptionalTexts (name : String) (values : Option (List String)) : Entry :=
  ⟨name, asOption (asList asText), ofOption Json.ofTexts values, values⟩

/-- The entry of the fewest paths that are asked for. -/
abbrev Entry.ofLeast (least : Option Nat) : Entry :=
  ⟨"minFcpPathsCount", asOption asWord, ofOption natural least, least⟩

@[simp] theorem conveys_optionalText (content : Option String) :
    Conveys (asOption asText) (ofOption text content) content :=
  .option (fun content _ => conveys_text content) fun _ => Json.noConfusion

@[simp] theorem conveys_optionalTexts (values : Option (List String)) :
    Conveys (asOption (asList asText)) (ofOption ofTexts values) values :=
  .option (fun values _ => conveys_texts values) fun _ => Json.noConfusion

/-- A number of 32 bits that may be missing. -/
theorem conveys_least {least : Option Nat} (below : ∀ number ∈ least, number < 4294967296) :
    Conveys (asOption asWord) (ofOption natural least) least :=
  .option (fun number given => conveys_word (below number given)) fun _ => Json.noConfusion

/-- A text that is read back to a value conveys it. -/
theorem conveys_of_text {α : Type} {read : Json → Reading α} {content : String} {value : α}
    (back : read (text content) = .ok value) : Conveys read (text content) value where
  plain := rfl
  back same := by rw [reordered_text_iff.1 same, back]

end Json

@[simp] theorem DeviceId.ofJson_toJson (id : DeviceId) : ofJson id.toJson = .ok id := by
  rw [ofJson, toJson, Json.asText_text, Json.ok_bind, ofChars?_text]
  rfl

@[simp] theorem DeviceId.conveys (id : DeviceId) : Conveys ofJson id.toJson id :=
  Json.conveys_of_text id.ofJson_toJson

@[simp] theorem DeviceStatus.ofJson_toJson (status : DeviceStatus) :
    ofJson status.toJson = .ok status := by
  cases status <;> rfl

@[simp] theorem DeviceStatus.conveys (status : DeviceStatus) :
    Conveys ofJson status.toJson status :=
  Json.conveys_of_text status.ofJson_toJson

@[simp] theorem Instant.ofJson_toJson (instant : Instant) :
    ofJson instant.toJson = .ok instant := by
  rw [ofJson, toJson, Json.asText_text, Json.ok_bind, parse?_text]
  rfl

@[simp] theorem Instant.conveys (instant : Instant) : Conveys ofJson instant.toJson instant :=
  Json.conveys_of_text instant.ofJson_toJson

/-! ## Maps -/

/-- An entry that is a map from texts to texts. -/
abbrev Json.Entry.ofTextMap (name : String) (map : OrderedMap String String) : Entry :=
  ⟨name, textMapOfJson, textMapToJson map, map⟩

@[simp] theorem conveys_textMap (map : OrderedMap String String) :
    Conveys textMapOfJson (textMapToJson map) map :=
  .map (fun _ _ => rfl) fun entry _ => Json.conveys_text entry.2

theorem pathNumber?_toString {number : Nat} (word : number < 4294967296) :
    pathNumber? (toString number) = some number := by
  rw [pathNumber?, Text.number?_toString]
  exact if_pos ⟨word, rfl⟩

/-- The numbers of the paths have 32 bits, and what is filed for each of them satisfies a
condition. -/
def EveryPath {V : Type} (condition : V → Prop) (paths : OrderedMap Nat V) : Prop :=
  ∀ path value, paths.get? path = some value → path < 4294967296 ∧ condition value

theorem conveys_paths {V : Type} {condition : V → Prop} {read : Json → Json.Reading V}
    {write : V → Json} {paths : OrderedMap Nat V} (fits : EveryPath condition paths)
    (each : ∀ {value : V}, condition value → Conveys read (write value) value) :
    Conveys (pathsOfJson read) (pathsToJson write paths) paths := by
  have both (entry : Nat × V) (listed : entry ∈ paths.entries) :=
    fits entry.1 entry.2 (OrderedMap.mem_entries_iff.1 listed)
  exact .map (fun entry listed => pathNumber?_toString (both entry listed).1)
    fun entry listed => each (both entry listed).2

/-! ## Devices -/

namespace LiveDevice

/-- The entries of a live device. -/
def entries (device : LiveDevice) : List Entry :=
  [⟨"id", DeviceId.ofJson, device.id.toJson, device.id⟩,
    .ofText "npivWwpn" device.npivName, .ofText "physicalWwpn" device.physicalName,
    .ofText "chpid" device.channelPath,
    ⟨"status", DeviceStatus.ofJson, device.status.toJson, device.status⟩,
    .ofText "owner" device.owner]

theorem conveys (device : LiveDevice) : Conveys ofJson device.toJson device := by
  refine .record fields device.entries (by decide) (.refl _) ?_ fun read _ gives _ => ?_
  · simp [entries]
  · simp [entries] at gives
    simp [ofJson, read, gives]

end LiveDevice

namespace DeviceRecord

/-- The entries of a record. -/
def entries (record : DeviceRecord) : List Entry :=
  [⟨"fcpId", DeviceId.ofJson, record.id.toJson, record.id⟩,
    .ofText "assignerId" record.assigner, .ofCounter "connections" record.connections,
    .ofFlag "reserved" record.reserved, .ofText "wwpnNpiv" record.npivName,
    .ofText "wwpnPhy" record.physicalName, .ofText "chpid" record.channelPath,
    ⟨"state", DeviceStatus.ofJson, record.state.toJson, record.state⟩,
    .ofText "owner" record.owner, .ofText "templateId" record.template]

theorem conveys (record : DeviceRecord) : Conveys ofJson record.toJson record := by
  refine .record fields record.entries (by decide) (.refl _) ?_ fun read _ gives _ => ?_
  · simp [entries]
  · simp [entries] at gives
    simp [ofJson, read, gives]

theorem conveys_list (records : List DeviceRecord) :
    Conveys (Json.asList ofJson) (Json.ofList toJson records) records :=
  .list fun record _ => record.conveys

end DeviceRecord

namespace Usage

/-- The entries of a usage. -/
def entries (usage : Usage) : List Entry :=
  [.ofText "assignerId" usage.assigner, .ofFlag "reserved" usage.reserved,
    .ofCounter "connections" usage.connections, .ofText "templateId" usage.template]

theorem conveys (usage : Usage) : Conveys ofJson usage.toJson usage := by
  refine .record fields usage.entries (by decide) (.refl _) ?_ fun read _ gives _ => ?_
  · simp [entries]
  · simp [entries] at gives
    simp [ofJson, read, gives]

end Usage

/-! ## Templates -/

namespace Template

/-- The fewest paths have 32 bits. -/
def WordSized (template : Template) : Prop := ∀ least ∈ template.leastPaths, least < 4294967296

instance (template : Template) : Decidable template.WordSized :=
  inferInstanceAs (Decidable (∀ least ∈ template.leastPaths, least < 4294967296))

/-- The entries of a template. -/
def entries (template : Template) : List Entry :=
  [.ofText "id" template.id, .ofText "name" template.name,
    .ofText "description" template.description, .ofFlag "hostDefault" template.hostDefault,
    .ofLeast template.leastPaths,
    ⟨"createdAt", Instant.ofJson, template.createdAt.toJson, template.createdAt⟩]

theorem conveys {template : Template} (word : template.WordSized) :
    Conveys ofJson template.toJson template := by
  refine .record fields template.entries (by decide) (.refl _) ?_ fun read _ gives _ => ?_
  · simp [entries, Json.conveys_least word]
  · simp [entries] at gives
    simp [ofJson, ofRow, Json.Row.optional, read, gives]

end Template

namespace NewTemplate

/-- The fewest paths have 32 bits. -/
def WordSized (request : NewTemplate) : Prop := ∀ least ∈ request.leastPaths, least < 4294967296

/-- The entries of a request for a template. -/
def entries (request : NewTemplate) : List Entry :=
  [.ofText "name" request.name, .ofText "description" request.description,
    .ofText "fcpDevices" request.devices, .ofFlag "hostDefault" request.hostDefault,
    .ofTexts "storageProviders" request.providers, .ofLeast request.leastPaths]

theorem conveys {request : NewTemplate} (word : request.WordSized) :
    Conveys ofJson request.toJson request := by
  refine .record fields request.entries (by decide) (.refl _) ?_ fun read _ gives _ => ?_
  · simp [entries, Json.conveys_least word]
  · simp [entries] at gives
    simp [ofJson, Json.Row.optional, read, gives]

end NewTemplate

namespace TemplateEdit

/-- The fewest paths have 32 bits. -/
def WordSized (request : TemplateEdit) : Prop := ∀ least ∈ request.leastPaths, least < 4294967296

/-- The entries of a request to change a template. -/
def entries (request : TemplateEdit) : List Entry :=
  [.ofOptionalText "name" request.name, .ofOptionalText "description" request.description,
    .ofOptionalText "fcpDevices" request.devices,
    ⟨"hostDefault", Json.asOption Json.asBool, Json.ofOption .bool request.hostDefault,
      request.hostDefault⟩,
    .ofOptionalTexts "storageProviders" request.providers, .ofLeast request.leastPaths]

theorem conveys {request : TemplateEdit} (word : request.WordSized) :
    Conveys ofJson request.toJson request := by
  have flag : Conveys (Json.asOption Json.asBool) (Json.ofOption .bool request.hostDefault)
      request.hostDefault :=
    .option (fun flag _ => Json.conveys_bool flag) fun _ => Json.noConfusion
  refine .record fields request.entries (by decide) (.refl _) ?_ fun read _ gives _ => ?_
  · simp [entries, Json.conveys_least word, flag]
  · simp [entries] at gives
    simp [ofJson, Json.Row.optional, read, gives]

end TemplateEdit

/-! ## Answers about templates -/

namespace Reservation

/-- The entries of a reservation. -/
def entries (reservation : Reservation) : List Entry :=
  [.ofText "templateId" reservation.template,
    ⟨"devices", Json.asList DeviceRecord.ofJson,
      Json.ofList DeviceRecord.toJson reservation.devices, reservation.devices⟩]

theorem conveys (reservation : Reservation) :
    Conveys ofJson reservation.toJson reservation := by
  refine .record fields reservation.entries (by decide) (.refl _) ?_ fun read _ gives _ => ?_
  · simp [entries, DeviceRecord.conveys_list]
  · simp [entries] at gives
    simp [ofJson, read, gives]

end Reservation

namespace SyncSummary

/-- The numbers have 64 bits. -/
structure Sized (summary : SyncSummary) : Prop where
  inserted : summary.inserted < 18446744073709551616
  updated : summary.updated < 18446744073709551616
  deleted : summary.deleted < 18446744073709551616

/-- The entries of the summary of a reconciliation. -/
def entries (summary : SyncSummary) : List Entry :=
  [.ofSize "inserted" summary.inserted, .ofSize "updated" summary.updated,
    .ofSize "deleted" summary.deleted]

theorem conveys {summary : SyncSummary} (sized : summary.Sized) :
    Conveys ofJson summary.toJson summary := by
  refine .record fields summary.entries (by decide) (.refl _) ?_ fun read _ gives _ => ?_
  · simp [entries, sized.inserted, sized.updated, sized.deleted]
  · simp [entries] at gives
    simp [ofJson, read, gives]

end SyncSummary

namespace TemplateSummary

/-- The fewest paths have 32 bits, and the number of paths has 64. -/
structure Sized (summary : TemplateSummary) : Prop where
  template : summary.template.WordSized
  pathCount : summary.pathCount < 18446744073709551616

/-- The entries of a summary. -/
def entries (summary : TemplateSummary) : List Entry :=
  summary.template.entries ++ [.ofTexts "storageProviders" summary.providers,
    .ofText "fcpDevices" summary.devices, .ofSize "fcpPathsCount" summary.pathCount]

theorem Sized.conveys_entries {summary : TemplateSummary} (sized : summary.Sized) :
    ∀ entry ∈ summary.entries, entry.Conveys := by
  simp [entries, Template.entries, Json.conveys_least sized.template, sized.pathCount]

theorem ofRow_eq_ok {summary : TemplateSummary} {row : Json.Row}
    (gives : ∀ entry ∈ summary.entries, row.Gives entry) : ofRow row = .ok summary := by
  simp [entries, Template.entries] at gives
  simp [ofRow, Template.ofRow, Json.Row.optional, gives]

theorem conveys {summary : TemplateSummary} (sized : summary.Sized) :
    Conveys ofJson summary.toJson summary := by
  refine .record fields summary.entries (by decide) (.refl _) sized.conveys_entries
    fun _ read gives _ => ?_
  rw [ofJson, read, Json.ok_bind, ofRow_eq_ok gives]

end TemplateSummary

/-! ## Statistics and details -/

namespace DeviceRanges

/-- The count has 64 bits. -/
def Sized (ranges : DeviceRanges) : Prop := ranges.count < 18446744073709551616

instance (ranges : DeviceRanges) : Decidable ranges.Sized :=
  inferInstanceAs (Decidable (ranges.count < 18446744073709551616))

/-- The entries of a range expression with its count. -/
def entries (ranges : DeviceRanges) : List Entry :=
  [.ofText "ranges" ranges.ranges, .ofSize "count" ranges.count]

theorem conveys {ranges : DeviceRanges} (sized : ranges.Sized) :
    Conveys ofJson ranges.toJson ranges := by
  refine .record fields ranges.entries (by decide) (.refl _) ?_ fun read _ gives _ => ?_
  · simp [entries, Json.conveys_size sized]
  · simp [entries] at gives
    simp [ofJson, read, gives]

/-- An entry that is a range expression with its count. -/
abbrev entry (name : String) (ranges : DeviceRanges) : Entry :=
  ⟨name, ofJson, ranges.toJson, ranges⟩

end DeviceRanges

namespace PathStatistics

/-- All counts have 64 bits. -/
structure Sized (statistics : PathStatistics) : Prop where
  total : statistics.total.Sized
  available : statistics.available.Sized
  allocated : statistics.allocated.Sized
  reserveOnly : statistics.reserveOnly.Sized
  connectionOnly : statistics.connectionOnly.Sized
  allocatedButFree : statistics.allocatedButFree.Sized
  notFound : statistics.notFound.Sized
  offline : statistics.offline.Sized

/-- The entries of the statistics of a path. -/
def entries (statistics : PathStatistics) : List Entry :=
  [statistics.total.entry "total", statistics.available.entry "available",
    statistics.allocated.entry "allocated", statistics.reserveOnly.entry "reserveOnly",
    statistics.connectionOnly.entry "connectionOnly",
    .ofTextMap "unallocatedButActive" statistics.unallocatedButActive,
    statistics.allocatedButFree.entry "allocatedButFree", statistics.notFound.entry "notFound",
    statistics.offline.entry "offline", .ofTextMap "chpids" statistics.channelPaths]

theorem conveys {statistics : PathStatistics} (sized : statistics.Sized) :
    Conveys ofJson statistics.toJson statistics := by
  refine .record fields statistics.entries (by decide) (.refl _) ?_ fun read _ gives _ => ?_
  · simp [entries, DeviceRanges.conveys, sized.total, sized.available, sized.allocated,
      sized.reserveOnly, sized.connectionOnly, sized.allocatedButFree, sized.notFound,
      sized.offline]
  · simp [entries] at gives
    simp [ofJson, read, gives]

end PathStatistics

namespace TemplateDetails

/-- Every number in the details has the size of its field. -/
structure Sized (details : TemplateDetails) : Prop where
  summary : details.summary.Sized
  records : ∀ paths ∈ details.records, EveryPath (fun _ => True) paths
  statistics : ∀ paths ∈ details.statistics, EveryPath PathStatistics.Sized paths

/-- The entry of what is only written when it is there. -/
def presentEntry {V : Type} (name : String) (read : Json → Json.Reading V) (write : V → Json) :
    Option V → List Entry
  | some value => [⟨name, Json.asOption read, write value, some value⟩]
  | none => []

section Present

variable {V : Type} {name : String} {read : Json → Json.Reading V} {write : V → Json}
  {given : Option V}

theorem map_member_presentEntry :
    (presentEntry name read write given).map Entry.member = Json.ofPresent name write given := by
  cases given <;> rfl

theorem sublist_presentEntry : ((presentEntry name read write given).map Entry.field).Sublist
    [Json.Field.strict (.of name (Json.asOption read))] := by
  cases given with
  | none => exact List.nil_sublist _
  | some value => exact .refl _

theorem conveys_presentEntry (each : ∀ value ∈ given, Conveys read (write value) value)
    (shown : ∀ value, write value ≠ .null) :
    ∀ entry ∈ presentEntry name read write given, entry.Conveys := by
  cases given with
  | none => exact fun _ listed => by cases listed
  | some value =>
    intro entry listed
    obtain rfl := List.mem_singleton.1 listed
    exact .option each shown

theorem name_of_mem_presentEntry {entry : Entry}
    (listed : entry ∈ presentEntry name read write given) : entry.name = name := by
  cases given with
  | none => cases listed
  | some value => rw [List.mem_singleton.1 listed]

/-- What is only written when it is there is read as missing when it is not. -/
theorem optional_of_presentEntry {row : Json.Row}
    (gives : ∀ entry ∈ presentEntry name read write given, row.Gives entry)
    (absent : given = none → row.lookup name = none) : row.optional name read = .ok given := by
  cases given with
  | none => rw [Json.Row.optional, Json.Row.withDefault, absent rfl]
  | some value => exact (gives _ (List.mem_singleton.2 rfl)).2 none

end Present

/-- The entry of the records in details. -/
def recordsEntry (details : TemplateDetails) : List Entry :=
  presentEntry "raw" (pathsOfJson (Json.asList DeviceRecord.ofJson))
    (pathsToJson (Json.ofList DeviceRecord.toJson)) details.records

/-- The entry of the statistics in details. -/
def statisticsEntry (details : TemplateDetails) : List Entry :=
  presentEntry "statistics" (pathsOfJson PathStatistics.ofJson) (pathsToJson PathStatistics.toJson)
    details.statistics

/-- The entries of details. -/
def entries (details : TemplateDetails) : List Entry :=
  details.summary.entries ++ details.recordsEntry ++ details.statisticsEntry

theorem conveys {details : TemplateDetails} (sized : details.Sized) :
    Conveys ofJson details.toJson details := by
  have written : details.toJson = .object (details.entries.map Entry.member) := by
    rw [entries, List.map_append, List.map_append, recordsEntry, map_member_presentEntry,
      statisticsEntry, map_member_presentEntry]
    rfl
  have among : (details.entries.map Entry.field).Sublist (fields.map Json.Field.strict) := by
    rw [entries, List.map_append, List.map_append, List.append_assoc]
    exact (List.Sublist.refl _).append (sublist_presentEntry.append sublist_presentEntry)
  have apart : ∀ entry ∈ details.summary.entries,
      entry.name ≠ "raw" ∧ entry.name ≠ "statistics" := by
    simp [TemplateSummary.entries, Template.entries]
  rw [written]
  refine .record fields details.entries (by decide) among ?_ fun {_ row} _ read gives absent => ?_
  · simp only [entries, List.forall_mem_append]
    refine ⟨⟨sized.summary.conveys_entries, ?_⟩, ?_⟩
    · exact conveys_presentEntry
        (fun paths given => conveys_paths (sized.records paths given)
          fun _ => DeviceRecord.conveys_list _)
        fun _ => Json.noConfusion
    · exact conveys_presentEntry
        (fun paths given => conveys_paths (sized.statistics paths given) PathStatistics.conveys)
        fun _ => Json.noConfusion
  · simp only [entries, List.forall_mem_append] at gives absent
    obtain ⟨⟨inSummary, inRecords⟩, inStatistics⟩ := gives
    have records := optional_of_presentEntry inRecords fun missing =>
      absent "raw" ⟨⟨fun entry listed => (apart entry listed).1, by simp [recordsEntry, missing,
        presentEntry]⟩, fun entry listed => by simp [name_of_mem_presentEntry listed]⟩
    have statistics := optional_of_presentEntry inStatistics fun missing =>
      absent "statistics" ⟨⟨fun entry listed => (apart entry listed).2, fun entry listed => by
        simp [name_of_mem_presentEntry listed]⟩, by simp [statisticsEntry, missing, presentEntry]⟩
    rw [ofJson, read, Json.ok_bind, TemplateSummary.ofRow_eq_ok inSummary, Json.ok_bind, records,
      Json.ok_bind, statistics]
    rfl

end TemplateDetails

end FibrePool
