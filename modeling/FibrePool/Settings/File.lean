import FibrePool.Settings.Basic
import FibrePool.Text.Utf8
import FibrePool.Yaml.Node

/-!
# The settings file

The settings are written in YAML, one section for each part.  A scalar in the place of a text may be
written plainly whatever it looks like; numbers and truth values must be written plainly.  An empty
section has all its defaults, and what is not known is ignored.
-/

namespace FibrePool

set_option autoImplicit false

namespace Yaml.Node

/-! ## Values -/

/-- A text. -/
def asText : Node → Option String
  | scalar text _ _ => some text
  | _ => none

/-- A truth value. -/
def asBool : Node → Option Bool
  | scalar text true _ =>
    if ["true", "True", "TRUE"].contains text then some true
    else if ["false", "False", "FALSE"].contains text then some false
    else none
  | _ => none

/-- The number that digits stand for, in the base that their first characters name.  Decimal digits
with a zero in front are no number. -/
def wholeNumber? (text : String) : Option Nat :=
  let digits := match text.toList with
    | '+' :: digits => digits
    | digits => digits
  let octal (c : Char) : Option Nat := (Text.digitValue? c).filter (· < 8)
  let binary (c : Char) : Option Nat := (Text.digitValue? c).filter (· < 2)
  match digits with
  | '0' :: 'x' :: rest => Text.hexNumber? rest
  | '0' :: 'o' :: c :: rest => Text.numberFrom? 8 octal 0 (c :: rest)
  | '0' :: 'b' :: c :: rest => Text.numberFrom? 2 binary 0 (c :: rest)
  | '0' :: _ :: _ => none
  | digits => Text.number? digits

/-- A number of 64 bits. -/
def asSize : Node → Option Nat
  | scalar text true _ => (wholeNumber? text).filter (· < 18446744073709551616)
  | _ => none

/-- Whether a node stands for nothing. -/
def isNull : Node → Bool
  | scalar text true none => ["", "~", "null", "Null", "NULL"].contains text
  | scalar text true (some "tag:yaml.org,2002:null") => ["~", "null", "Null", "NULL"].contains text
  | _ => false

/-- A value that `read` reads, or nothing. -/
def asOption {α : Type} (read : Node → Option α) (node : Node) : Option (Option α) :=
  if node.isNull then some none else (read node).map some

/-- A list of texts. -/
def asTexts : Node → Option (List String)
  | sequence items => items.mapM asText
  | scalar "" true _ => some []
  | _ => none

/-! ## Sections -/

/-- The known entries of a mapping, none of which may be there twice. -/
def knownEntries (names : List String) (seen : List String) :
    List (Node × Node) → Option (List (String × Node))
  | [] => some []
  | (key, value) :: rest => do
    let name ← key.asText
    if names.contains name then
      if seen.contains name then failure
      return (name, value) :: (← knownEntries names (name :: seen) rest)
    else knownEntries names seen rest

/-- The fields of a section that are given, by name or in their order. -/
def section? (names : List String) : Node → Option (List (String × Node))
  | mapping entries => knownEntries names [] entries
  | sequence items => if items.length ≤ names.length then some (names.zip items) else none
  | scalar "" true _ => some []
  | _ => none

/-- The value of a field, or its default. -/
def field {α : Type} (fields : List (String × Node)) (name : String) (read : Node → Option α)
    (value : α) : Option α :=
  match fields.lookup name with
  | some node => read node
  | none => some value

end Yaml.Node

namespace Settings

open Yaml (Node)
open Yaml.Node (section? field asText asBool asSize asTexts asOption)

/-- The section about the host. -/
def readHost (node : Node) : Option HostSettings := do
  let fields ← section? ["lpar_name", "query_target"] node
  return {
    partition := ← field fields "lpar_name" asText ""
    queryTarget := ← field fields "query_target" (asOption asText) none }

/-- The section about the hardware. -/
def readHardware (node : Node) : Option HardwareSettings := do
  let fields ← section? ["query_command"] node
  return { queryCommand := ← field fields "query_command" (asOption asTexts) none }

/-- The section about volumes. -/
def readVolume (node : Node) : Option VolumeSettings := do
  let fields ← section? ["same_index_pairing", "sync_before_reserve"] node
  return {
    sameIndexPairing := ← field fields "same_index_pairing" asBool false
    syncBeforeReserve := ← field fields "sync_before_reserve" asBool false }

/-- The section about the gateway. -/
def readGateway (node : Node) : Option GatewaySettings := do
  let fields ← section? ["endpoint", "token", "timeout_secs", "retry_max_elapsed_secs"] node
  let standard : GatewaySettings := {}
  return {
    endpoint := ← field fields "endpoint" asText standard.endpoint
    token := ← field fields "token" (asOption asText) none
    timeoutSeconds := ← field fields "timeout_secs" asSize standard.timeoutSeconds
    retrySeconds := ← field fields "retry_max_elapsed_secs" asSize standard.retrySeconds }

/-- The section about the store. -/
def readStore (node : Node) : Option StoreSettings := do
  let fields ← section? ["snapshot_path"] node
  return { snapshotPath := ← field fields "snapshot_path" (asOption asText) none }

/-- The section about the web interface. -/
def readApi (node : Node) : Option ApiSettings := do
  let fields ← section? ["listen_addr"] node
  let standard : ApiSettings := {}
  return { listenAddress := ← field fields "listen_addr" asText standard.listenAddress }

/-- The settings in a document. -/
def ofNode (node : Node) : Option Settings := do
  let fields ← section? ["host", "hardware", "volume", "gateway", "store", "api"] node
  return {
    host := ← field fields "host" readHost {}
    hardware := ← field fields "hardware" readHardware {}
    volume := ← field fields "volume" readVolume {}
    gateway := ← field fields "gateway" readGateway {}
    store := ← field fields "store" readStore {}
    api := ← field fields "api" readApi {} }

/-- The settings in a text. -/
def ofYaml (text : String) : Outcome Settings :=
  match (Node.ofText? text).bind ofNode with
  | some settings => .ok settings
  | none => .error .unreadableYaml

/-- The failure of a settings file that cannot be read. -/
def unreadable (path reason : String) : Failure := .configuration s!"cannot read {path}: {reason}"

/-- The settings in the bytes of a file. -/
def ofBytes (path : String) (bytes : List Nat) : Outcome Settings :=
  match Text.Utf8.decode bytes with
  | .ok text => ofYaml text
  | .error _ => .error (unreadable path "stream did not contain valid UTF-8")

/-- The settings in a file, or the failure of the error number that reading it gave. -/
def ofFile (path : String) (content : Except Int String) : Outcome Settings :=
  match content with
  | .ok text => ofYaml text
  | .error code => .error (unreadable path (Failure.systemText code))

end Settings

end FibrePool
