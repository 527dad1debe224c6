import FibrePool.Http.Message
import FibrePool.Metrics
import FibrePool.Wire.Volume

/-!
# The web interface

Every address of the operator is a resource with its methods.  What a request comes to is a plan,
made before anything happens: a response at once, an action with the response to its outcome, or a
report about the operator itself.  So a request that is turned down never acts.
-/

namespace FibrePool

set_option autoImplicit false

/-! ## Resources -/

/-- What a request may be addressed to, with the segments of the path that name a thing. -/
inductive Resource where
  | attach
  | detach
  | connector (assigner : List Char)
  | templates
  | details
  | template (id : List Char)
  | reserve (template : List Char)
  | unreserve (template : List Char)
  | sync
  | usage (device : List Char)
  | health
  | ready
  | metrics
  deriving DecidableEq, Repr

namespace Resource

/-- The resource at the segments of a path.  A name at the end of the path must not be empty. -/
def ofSegments? : List (List Char) → Option Resource
  | [first, second, third, fourth] =>
    match String.ofList first, String.ofList second, String.ofList fourth with
    | "v1", "fcp-templates", "reserve" => some (reserve third)
    | "v1", "fcp-templates", "unreserve" => some (unreserve third)
    | "v1", "fcp", "usage" => some (usage third)
    | _, _, _ => none
  | [first, second, third] =>
    match String.ofList first, String.ofList second, String.ofList third with
    | "v1", "volumes", "attach" => some attach
    | "v1", "volumes", "detach" => some detach
    | "v1", "fcp-templates", "details" => some details
    | "v1", "fcp", "sync" => some sync
    | "v1", "connectors", name => if name = "" then none else some (connector third)
    | "v1", "fcp-templates", name => if name = "" then none else some (template third)
    | _, _, _ => none
  | [first, second] =>
    match String.ofList first, String.ofList second with
    | "v1", "fcp-templates" => some templates
    | _, _ => none
  | [first] =>
    match String.ofList first with
    | "health" => some health
    | "ready" => some ready
    | "metrics" => some metrics
    | _ => none
  | _ => none

/-- The resource at a path. -/
def find? : List Char → Option Resource
  | '/' :: path => ofSegments? (Text.splitAt '/' path)
  | _ => none

end Resource

/-! ## Plans -/

/-- What a request comes to. -/
inductive Plan where
  | respond (response : Response)
  | act (action : Action) (reply : Outcome Output → Response)
  | report (reply : OperatorStatus → Metrics → Response)

namespace Plan

/-- The plan whose responses are changed. -/
def map (change : Response → Response) : Plan → Plan
  | respond response => respond (change response)
  | act action reply => act action fun outcome => change (reply outcome)
  | report reply => report fun status metrics => change (reply status metrics)

/-- The response to an outcome, with a status of its own for success. -/
def reply (success : Nat) : Outcome Output → Response
  | .ok .done => ⟨204, none⟩
  | .ok output => .ofJson success output.toJson
  | .error failure => .ofFailure failure

/-- The response to a look-up of one template. -/
def replyTemplate (id : String) : Outcome Output → Response
  | .ok (.templates (summary :: _)) => .ofJson 200 summary.toJson
  | .ok _ => .ofFailure (.templateNotFound id)
  | .error failure => .ofFailure failure

/-- The plan that reading a request comes to. -/
def ofReading (reading : Except Rejection Plan) : Plan :=
  match reading with
  | .ok plan => plan
  | .error status => respond ⟨status, none⟩

/-- The plan of an action with the usual response. -/
def acting (action : Action) : Plan := act action (reply 200)

/-- The plan of an action on a device. -/
def onDevice (raw : String) (action : DeviceId → Action) : Plan :=
  match DeviceId.parse raw with
  | .ok id => acting (action id)
  | .error failure => respond (.ofFailure failure)

/-- The plan of a volume request. -/
def volume (request : Request) (action : VolumeConnection → Action) : Except Rejection Plan := do
  return acting (action (← request.readBody VolumeConnection.ofJson))

/-- The options of a connector request; a body that cannot be read asks for nothing special. -/
def connectorOptions (request : Request) (assigner : String) : ConnectorRequest :=
  match request.readBody (ConnectorRequest.ofOptions assigner) with
  | .ok options => options
  | .error _ => { assigner }

/-- The query for templates. -/
def templateQuery (parameters : QueryParameters) : Except Unit TemplateQuery := do
  return {
    templates := ← parameters.list? "templateIds"
    assigner := ← parameters.text? "assignerId"
    hostDefault := ← parameters.flag "hostDefault"
    providers := ← parameters.list? "storageProviders" }

/-- The query for details of templates. -/
def detailsQuery (parameters : QueryParameters) : Except Unit Action := do
  return .details (← parameters.list? "templateIds") (← parameters.flag "raw")
    (← parameters.flag "statistics") (← parameters.flag "syncWithHardware")

/-- The plan of a request to a resource, or nothing when the resource does not have the method. -/
def ofResource? (request : Request) : Resource → String → Option (Except Rejection Plan)
  | .attach, "POST" => some (volume request .attach)
  | .detach, "POST" => some (volume request .detach)
  | .connector raw, "POST" => some do
    let assigner ← Request.segment raw
    return acting (.connector (connectorOptions request assigner))
  | .templates, "GET" => some do
    return acting (.templates (← request.readQuery templateQuery))
  | .templates, "POST" => some do
    return act (.createTemplate (← request.readBody NewTemplate.ofJson)) (reply 201)
  | .details, "GET" => some do
    return acting (← request.readQuery detailsQuery)
  | .template raw, "GET" => some do
    let id ← Request.segment raw
    return act (.templates { templates := some [id] }) (replyTemplate id)
  | .template raw, "PUT" => some do
    let id ← Request.segment raw
    return acting (.editTemplate id (← request.readBody TemplateEdit.ofJson))
  | .template raw, "DELETE" => some do
    return acting (.deleteTemplate (← Request.segment raw))
  | .reserve raw, "POST" => some do
    let id ← Request.segment raw
    return acting (.reserve (← request.readBody assignerOfJson) (some id) none)
  | .unreserve raw, "POST" => some do
    let id ← Request.segment raw
    return acting (.unreserve (← request.readBody assignerOfJson) id)
  | .sync, "POST" => some (.ok (acting .sync))
  | .usage raw, "GET" => some do
    return onDevice (← Request.segment raw) .usage
  | .usage raw, "PUT" => some do
    let device ← Request.segment raw
    let usage ← request.readBody Usage.ofJson
    return onDevice device (.setUsage · usage)
  | .health, "GET" => some (.ok (respond ⟨200, some (.text "ok")⟩))
  | .ready, "GET" => some (.ok (report fun status _ => .ofJson 200 status.toJson))
  | .metrics, "GET" => some (.ok (report fun _ metrics => ⟨200, some (.text metrics.render)⟩))
  | _, _ => none

/-- The plan of a request. -/
def ofRequest (request : Request) : Plan :=
  match Resource.find? request.path with
  | none => respond ⟨404, none⟩
  | some resource =>
    match ofResource? request resource request.method with
    | some reading => ofReading reading
    | none =>
      if request.method = "HEAD" then
        match ofResource? request resource "GET" with
        | some reading => (ofReading reading).map Response.head
        | none => respond ⟨405, none⟩
      else respond ⟨405, none⟩

end Plan

end FibrePool
