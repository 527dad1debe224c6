import FibrePool.Wire.Tables
import FibrePool.Wire.Volume

/-!
# Actions and calls in JSON

An action is given by its name and an object of arguments.  Arguments that are plain texts may be
missing; the others are typed values.  A call is written as an array of its name and what it is
about.  Filters and changes of templates are given as objects too.
-/

namespace FibrePool

set_option autoImplicit false

open Json (Codec Reading)

/-! ## Loose members -/

namespace Json

/-- A member, or `null`. -/
def member (value : Json) (name : String) : Json := (value.get? name).getD null

/-- The text of a member that may be missing. -/
def textAt? (value : Json) (name : String) : Option String :=
  match value.member name with
  | text value => some value
  | _ => none

/-- The text of a member, empty when it is missing. -/
def textAt (value : Json) (name : String) : String := (value.textAt? name).getD ""

/-- The truth value of a member, false when it is missing. -/
def flagAt (value : Json) (name : String) : Bool :=
  match value.member name with
  | bool value => value
  | _ => false

/-- The items of a member that is a list. -/
def itemsAt? (value : Json) (name : String) : Option (List Json) :=
  match value.member name with
  | array items => some items
  | _ => none

/-- The texts in a member that may be missing. -/
def textsAt? (value : Json) (name : String) : Option (List String) :=
  (value.itemsAt? name).map fun items => items.filterMap fun
    | text value => some value
    | _ => none

/-- The texts in a member, none when it is missing. -/
def textsAt (value : Json) (name : String) : List String := (value.textsAt? name).getD []

end Json

/-- What is read of a value that must be of a type. -/
def ofReading {α : Type} (reading : Reading α) : Outcome α :=
  match reading with
  | .ok value => .ok value
  | .error _ => .error .unreadableJson

/-- A value of a type that has a form of its own. -/
def ofCodec {α : Type} [Codec α] (value : Json) : Outcome α := ofReading (Codec.decode value)

/-! ## Actions -/

/-- The action with a name and arguments. -/
def Action.ofArguments (name : String) (arguments : Json) : Outcome Action := do
  match name with
  | "attach" => attach <$> ofCodec arguments
  | "detach" => detach <$> ofCodec arguments
  | "get_volume_connector" => connector <$> ofCodec arguments
  | "reserve_devices" =>
    return reserve (arguments.textAt "assignerId") (arguments.textAt? "templateId")
      (arguments.textAt? "storageProvider")
  | "unreserve_devices" =>
    return unreserve (arguments.textAt "assignerId") (arguments.textAt "templateId")
  | "create_template" => createTemplate <$> ofCodec arguments
  | "edit_template" =>
    editTemplate (arguments.textAt "templateId") <$> ofCodec (arguments.member "request")
  | "delete_template" => return deleteTemplate (arguments.textAt "templateId")
  | "get_templates" => templates <$> ofCodec arguments
  | "get_templates_details" =>
    return details (arguments.textsAt? "templateIds") (arguments.flagAt "raw")
      (arguments.flagAt "statistics") (arguments.flagAt "syncWithHardware")
  | "get_fcp_usage" => usage <$> DeviceId.parse (arguments.textAt "fcpId")
  | "set_fcp_usage" => do
    let device ← DeviceId.parse (arguments.textAt "fcpId")
    return setUsage device (← ofCodec (arguments.member "usage"))
  | "sync_with_hardware" => return sync
  | name => throw (.invalidParameter s!"unknown action {name}")

/-! ## Calls -/

/-- A call as an array. -/
def Call.toJson : Call → Json
  | listDevices target => Json.ofTexts ["query_fcp_devices", target]
  | guestExists user => Json.ofTexts ["guest_exists", user]
  | dedicate id user => Json.ofTexts ["dedicate", id.text, user]
  | undedicate id user => Json.ofTexts ["undedicate", id.text, user]
  | configureAttach volume => .array [.text "configure_attach", volume.toJson]
  | configureDetach removal => .array [.text "configure_detach", removal.toJson]

/-- The call with a name and arguments. -/
def Call.ofArguments (name : String) (arguments : Json) : Outcome Call := do
  let user := arguments.textAt "userid"
  match name with
  | "query_fcp_devices" => return listDevices (arguments.textAt "target")
  | "guest_exists" => return guestExists user
  | "dedicate" => return dedicate (← DeviceId.parse (arguments.textAt "fcpId")) user
  | "undedicate" => return undedicate (← DeviceId.parse (arguments.textAt "fcpId")) user
  | "configure_attach" => configureAttach <$> ofCodec (arguments.member "request")
  | "configure_detach" => configureDetach <$> ofCodec (arguments.member "request")
  | name => throw (.invalidParameter s!"unknown call {name}")

/-- The answer to a call. -/
def Call.answerToJson : (call : Call) → call.Answer → Json
  | listDevices _, listing => .text listing
  | guestExists _, found => .bool found
  | dedicate _ _, _ => .null
  | undedicate _ _, _ => .null
  | configureAttach _, _ => .null
  | configureDetach _, _ => .null

/-! ## Templates -/

/-- The filter that the first of its members says. -/
def TemplateFilter.ofJson (value : Json) : TemplateFilter :=
  if (value.get? "ids").isSome then .ids (value.textsAt "ids")
  else if (value.get? "assigner").isSome then .assigner (value.textAt "assigner")
  else if (value.get? "hostDefault").isSome then .hostDefault
  else if (value.get? "providers").isSome then .providers (value.textsAt "providers")
  else .all

/-- The changes of a template. -/
def TemplateChanges.ofJson (value : Json) : Outcome TemplateChanges := do
  return {
    name := value.textAt? "name"
    description := value.textAt? "description"
    paths := ← ofReading (Json.asOption PathMap.ofJson (value.member "paths"))
    hostDefault := ← ofReading (Json.asOption Json.asBool (value.member "hostDefault"))
    providers := value.textsAt? "storageProviders"
    leastPaths := ← ofReading (Json.asOption Json.asWord (value.member "minFcpPathsCount")) }

/-- A record with some of the fields that its object has overwritten. -/
def DeviceRecord.overwrite (fields : List (String × Json)) (record : DeviceRecord) :
    Outcome DeviceRecord :=
  match record.toJson with
  | .object own =>
    ofCodec (.object (own.map fun (name, value) => (name, (fields.lookup name).getD value)))
  | _ => .ok record

/-- Whether the object of a record has all the given members. -/
def DeviceRecord.hasAll (fields : List (String × Json)) (record : DeviceRecord) : Bool :=
  fields.all fun (name, value) => record.toJson.get? name == some value

end FibrePool
