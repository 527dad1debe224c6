import FibrePool.Text.Quoted
import FibrePool.Text.SystemError

/-!
# Failures

Everything that can go wrong is one of the causes below.  Each has one text for people, one stable
tag for programs and one status for the web interface, and each of these is a function of the cause
alone.
-/

namespace FibrePool

set_option autoImplicit false

/-- Why an operation did not succeed. -/
inductive Failure where
  | /-- A text does not have the form that is asked for. -/
    invalidFormat (input reason : String)
  | /-- A parameter has a value that is never allowed. -/
    invalidParameter (reason : String)
  | /-- The request does not fit the present state of the pool. -/
    conflict (reason : String)
  | /-- Neither the storage provider nor the host has a default template. -/
    noDefaultTemplate (provider : Option String)
  | templateNotFound (template : String)
  | deviceNotFound (device : String)
  | guestNotFound (user : String)
  | /-- A step failed; the devices in `rolledBack` were put back. -/
    operation (step reason : String) (devices rolledBack : List String)
  | /-- A step failed and putting things back failed too. -/
    rollbackIncomplete (step reason : String) (errors : List String)
  | internal (reason : String)
  | configuration (reason : String)
  | /-- The gateway gave no answer; asking again may help if `transient`. -/
    unreachable (transient : Bool)
  | /-- The gateway answered with a status that is no success. -/
    gatewayStatus (endpoint : String) (status : Nat) (body : String)
  | unreadableJson
  | unreadableYaml
  | /-- The operating system refused, with its error number. -/
    system (code : Int)
  deriving DecidableEq, Repr, Inhabited

namespace Failure

/-- The failure of a step that had nothing to put back. -/
def ofStep (step reason : String) : Failure := operation step reason [] []

/-- The error number with its text. -/
def systemText (code : Int) : String := s!"{Text.systemErrorText code} (os error {code})"

/-- What people are told. -/
def message : Failure → String
  | invalidFormat input reason => s!"Invalid format for '{input}': {reason}"
  | invalidParameter reason => s!"Invalid parameter: {reason}"
  | conflict reason => s!"Conflict: {reason}"
  | noDefaultTemplate none => "No default FCP template found"
  | noDefaultTemplate (some provider) =>
    s!"No default FCP template found for storage provider {provider}"
  | templateNotFound template => s!"FCP template not found: {template}"
  | deviceNotFound device => s!"FCP device not found: {device}"
  | guestNotFound user => s!"Guest not found: {user}"
  | operation step reason devices rolledBack =>
    s!"{step} failed: {reason} (devices: " ++ Text.quotedList devices ++ ", rolled back: " ++
      Text.quotedList rolledBack ++ ")"
  | rollbackIncomplete step reason errors =>
    s!"{step} failed and rollback was incomplete: {reason}; rollback errors: " ++
      Text.quotedList errors
  | internal reason => s!"Internal error: {reason}"
  | configuration reason => s!"Configuration error: {reason}"
  | unreachable _ => "Gateway connection error: the request could not be sent"
  | gatewayStatus endpoint status body => s!"Gateway returned {status} for {endpoint}: {body}"
  | unreadableJson => "JSON parse error: the text is not the expected JSON"
  | unreadableYaml => "YAML parse error: the text is not the expected YAML"
  | system code => s!"IO error: {systemText code}"

/-- Whether the same request may succeed when it is sent again. -/
def isTransient : Failure → Bool
  | unreachable transient => transient
  | gatewayStatus _ status _ => 500 ≤ status
  | _ => false

/-- Whether a caller may try again.  An incomplete rollback always needs an administrator. -/
def isRetryable : Failure → Bool
  | rollbackIncomplete _ _ _ => false
  | unreachable _ => true
  | failure => failure.isTransient

/-- The tag that programs tell failures apart by. -/
def code : Failure → String
  | invalidFormat _ _ => "invalid_format"
  | invalidParameter _ => "invalid_parameter"
  | conflict _ => "conflict"
  | noDefaultTemplate _ => "no_default_template"
  | templateNotFound _ => "template_not_found"
  | deviceNotFound _ => "device_not_found"
  | guestNotFound _ => "guest_not_found"
  | operation _ _ _ _ => "operation_error"
  | rollbackIncomplete _ _ _ => "rollback_failed"
  | internal _ => "internal_error"
  | configuration _ => "configuration_error"
  | unreachable _ => "gateway_error"
  | gatewayStatus _ _ _ => "gateway_error"
  | unreadableJson => "internal_error"
  | unreadableYaml => "internal_error"
  | system _ => "internal_error"

/-- The status of a web answer that reports the failure. -/
def httpStatus : Failure → Nat
  | invalidFormat _ _ => 400
  | invalidParameter _ => 400
  | conflict _ => 409
  | noDefaultTemplate _ => 404
  | templateNotFound _ => 404
  | deviceNotFound _ => 404
  | guestNotFound _ => 404
  | unreachable _ => 502
  | gatewayStatus _ _ _ => 502
  | _ => 500

/-- The name of the kind of failure. -/
def kind : Failure → String
  | invalidFormat _ _ => "InvalidFormat"
  | invalidParameter _ => "InvalidParameter"
  | conflict _ => "Conflict"
  | noDefaultTemplate _ => "NoDefaultTemplate"
  | templateNotFound _ => "TemplateNotFound"
  | deviceNotFound _ => "DeviceNotFound"
  | guestNotFound _ => "GuestNotFound"
  | operation _ _ _ _ => "Operation"
  | rollbackIncomplete _ _ _ => "RollbackFailed"
  | internal _ => "Internal"
  | configuration _ => "Configuration"
  | unreachable _ => "RemoteConnection"
  | gatewayStatus _ _ _ => "RemoteStatus"
  | unreadableJson => "JsonParse"
  | unreadableYaml => "YamlParse"
  | system _ => "Io"

/-- Fields between braces. -/
def braced (fields : List String) : String := " \x7b " ++ ", ".intercalate fields ++ " \x7d"

/-- What the operator is told when the program ends with the failure: the kind and its fields. -/
def report (failure : Failure) : String :=
  failure.kind ++
    match failure with
    | invalidFormat input reason =>
      braced [s!"input: {Text.quoted input}", s!"reason: {Text.quoted reason}"]
    | conflict reason => braced [s!"reason: {Text.quoted reason}"]
    | noDefaultTemplate none => braced ["storage_provider: None"]
    | noDefaultTemplate (some provider) =>
      braced [s!"storage_provider: Some({Text.quoted provider})"]
    | templateNotFound template => braced [s!"template_id: {Text.quoted template}"]
    | deviceNotFound device => braced [s!"fcp_id: {Text.quoted device}"]
    | guestNotFound user => braced [s!"userid: {Text.quoted user}"]
    | operation step reason devices rolledBack =>
      braced [s!"operation: {Text.quoted step}", s!"reason: {Text.quoted reason}",
        s!"fcp_ids: {Text.quotedList devices}", s!"rolled_back: {Text.quotedList rolledBack}"]
    | rollbackIncomplete step reason errors =>
      braced [s!"operation: {Text.quoted step}", s!"reason: {Text.quoted reason}",
        s!"rollback_errors: {Text.quotedList errors}"]
    | gatewayStatus endpoint status body =>
      braced [s!"endpoint: {Text.quoted endpoint}", s!"status: {status}",
        s!"body: {Text.quoted body}"]
    | invalidParameter reason => s!"({Text.quoted reason})"
    | internal reason => s!"({Text.quoted reason})"
    | configuration reason => s!"({Text.quoted reason})"
    | system code =>
      "(Os" ++ braced [s!"code: {code}", s!"kind: {Text.systemErrorClass code}",
        s!"message: {Text.quoted (Text.systemErrorText code)}"] ++ ")"
    | unreachable _ => ""
    | unreadableJson => ""
    | unreadableYaml => ""

end Failure

/-- The outcome of an operation that may fail. -/
abbrev Outcome (α : Type) := Except Failure α

end FibrePool
