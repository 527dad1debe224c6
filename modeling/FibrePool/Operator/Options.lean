import FibrePool.Settings.Basic

/-!
# The command line

Options may be given as arguments or in the environment, and an argument counts before the
environment.  Every option may be given once.  Arguments that are not understood end the program
before it does anything.
-/

namespace FibrePool

set_option autoImplicit false

/-- What the operator is started with. -/
structure Options where
  settingsPath : Option String := none
  listenAddress : Option String := none
  partition : Option String := none
  gatewayEndpoint : Option String := none
  snapshotPath : Option String := none
  syncOnStart : Option Bool := none
  logLevel : Option String := none
  logJson : Option Bool := none
  deriving DecidableEq, Repr, Inhabited

/-- What a command line asks for. -/
inductive CommandLine where
  | start (options : Options)
  | /-- To be told about the program, which is nothing that can fail. -/
    information
  | misused
  deriving DecidableEq, Repr, Inhabited

namespace Options

/-- The values of the environment. -/
abbrev Environment := List (String × String)

/-- The options that take a value, with the way to set it.  Nothing comes of an option that is set
already, or of a path that is empty. -/
def setValue? (options : Options) (name value : String) : Option Options :=
  let path := if value = "" then none else some value
  match name with
  | "config" =>
    if options.settingsPath.isSome then none
    else path.map fun path => { options with settingsPath := some path }
  | "snapshot-path" =>
    if options.snapshotPath.isSome then none
    else path.map fun path => { options with snapshotPath := some path }
  | "listen-addr" =>
    if options.listenAddress.isSome then none else some { options with listenAddress := some value }
  | "lpar-name" =>
    if options.partition.isSome then none else some { options with partition := some value }
  | "gateway-endpoint" =>
    if options.gatewayEndpoint.isSome then none
    else some { options with gatewayEndpoint := some value }
  | "log-level" =>
    if options.logLevel.isSome then none else some { options with logLevel := some value }
  | _ => none

/-- Sets an option that takes no value, unless it is set already. -/
def setFlag? (options : Options) (name : String) (value : Bool) : Option Options :=
  match name with
  | "sync-on-start" =>
    if options.syncOnStart.isSome then none else some { options with syncOnStart := some value }
  | "log-json" =>
    if options.logJson.isSome then none else some { options with logJson := some value }
  | _ => none

/-- The names of the options that take no value. -/
def flags : List String := ["sync-on-start", "log-json"]

/-- Whether an argument asks for information. -/
def isQuestion (argument : String) : Bool :=
  ["--help", "-h", "--version", "-V"].contains argument

/-- The name and the value of a long option; the value stands behind a sign of equality or is
missing. -/
def longOption? (argument : String) : Option (String × Option String) :=
  match argument.toList with
  | '-' :: '-' :: rest =>
    match Text.splitOnce? '=' rest with
    | some (name, value) => some (String.ofList name, some (String.ofList value))
    | none => some (String.ofList rest, none)
  | _ => none

/-- Whether an argument may be the value of the option before it. -/
def isValue (argument : String) : Bool :=
  argument = "-" || !argument.startsWith "-"

/-- Reads arguments in their order. -/
def readArguments (options : Options) : List String → CommandLine
  | [] => .start options
  | argument :: rest =>
    if isQuestion argument then .information
    else if argument = "--" then if rest.isEmpty then .start options else .misused
    else
      match longOption? argument with
      | none => .misused
      | some (name, some value) =>
        match options.setValue? name value with
        | some options => readArguments options rest
        | none => .misused
      | some (name, none) =>
        if flags.contains name then
          match options.setFlag? name true with
          | some options => readArguments options rest
          | none => .misused
        else
          match rest with
          | value :: rest =>
            if isValue value then
              match options.setValue? name value with
              | some options => readArguments options rest
              | none => .misused
            else .misused
          | [] => .misused

/-- The variables of the environment with the options that they stand for. -/
def variableNames : List (String × String) :=
  [("FCP_CONFIG", "config"), ("FCP_LISTEN_ADDR", "listen-addr"), ("FCP_LPAR_NAME", "lpar-name"),
    ("FCP_GATEWAY_ENDPOINT", "gateway-endpoint"), ("FCP_SNAPSHOT_PATH", "snapshot-path"),
    ("FCP_SYNC_ON_START", "sync-on-start"), ("LOG_LEVEL", "log-level"), ("LOG_JSON", "log-json")]

/-- Whether an option is set. -/
def isSet (options : Options) (name : String) : Bool :=
  match name with
  | "config" => options.settingsPath.isSome
  | "listen-addr" => options.listenAddress.isSome
  | "lpar-name" => options.partition.isSome
  | "gateway-endpoint" => options.gatewayEndpoint.isSome
  | "snapshot-path" => options.snapshotPath.isSome
  | "sync-on-start" => options.syncOnStart.isSome
  | "log-level" => options.logLevel.isSome
  | "log-json" => options.logJson.isSome
  | _ => false

/-- The truth value that a variable names. -/
def truth? (value : String) : Option Bool :=
  match value with
  | "true" => some true
  | "false" => some false
  | _ => none

/-- Sets an option from the environment, unless it is set already. -/
def readVariable (environment : Environment) (options : Options) (entry : String × String) :
    Option Options :=
  let (key, name) := entry
  match environment.lookup key with
  | none => some options
  | some value =>
    if options.isSet name then some options
    else if flags.contains name then (truth? value).bind (options.setFlag? name ·)
    else options.setValue? name value

/-- What a command line and its environment ask for. -/
def read (arguments : List String) (environment : Environment) : CommandLine :=
  match readArguments {} arguments with
  | .start options =>
    match variableNames.foldlM (readVariable environment) options with
    | some options => .start options
    | none => .misused
  | other => other

/-- Settings with the options in the place of what they say. -/
def override (options : Options) (settings : Settings) : Settings :=
  { settings with
    api := { settings.api with
      listenAddress := options.listenAddress.getD settings.api.listenAddress }
    host := { settings.host with
      partition := options.partition.getD settings.host.partition }
    gateway := { settings.gateway with
      endpoint := options.gatewayEndpoint.getD settings.gateway.endpoint }
    store := { settings.store with
      snapshotPath := options.snapshotPath <|> settings.store.snapshotPath } }

end Options

end FibrePool
