import FibrePool.Wire.Action

/-!
# Failures in JSON

A failure is given by the name of its kind and its fields, so that a script can say which failure a
call ends with.  Fields that are missing are empty.
-/

namespace FibrePool

set_option autoImplicit false

namespace Failure

/-- The number of a member, with its sign. -/
def integerAt (value : Json) (name : String) : Int :=
  match value.member name with
  | .natural size => size
  | .number numeral => if numeral.negative then -numeral.digits else numeral.digits
  | _ => 0

/-- The failure that an object gives. -/
def ofJson (value : Json) : Failure :=
  let reason := value.textAt "reason"
  match value.textAt "kind" with
  | "InvalidFormat" => invalidFormat (value.textAt "input") reason
  | "InvalidParameter" => invalidParameter reason
  | "Conflict" => conflict reason
  | "NoDefaultTemplate" => noDefaultTemplate (value.textAt? "storage_provider")
  | "TemplateNotFound" => templateNotFound (value.textAt "template_id")
  | "DeviceNotFound" => deviceNotFound (value.textAt "fcp_id")
  | "GuestNotFound" => guestNotFound (value.textAt "userid")
  | "Operation" =>
    operation (value.textAt "operation") reason (value.textsAt "fcp_ids")
      (value.textsAt "rolled_back")
  | "RollbackFailed" =>
    rollbackIncomplete (value.textAt "operation") reason (value.textsAt "rollback_errors")
  | "Internal" => internal reason
  | "Configuration" => configuration reason
  | "RemoteStatus" =>
    gatewayStatus (value.textAt "endpoint") (integerAt value "status").toNat (value.textAt "body")
  | "JsonParse" => unreadableJson
  | "YamlParse" => unreadableYaml
  | "Io" => system (integerAt value "os")
  | _ => unreachable false

/-- The failure that a member gives, if it is there. -/
def given? (value : Json) (name : String) : Option Failure :=
  match value.member name with
  | .null => none
  | description => some (ofJson description)

end Failure

end FibrePool
