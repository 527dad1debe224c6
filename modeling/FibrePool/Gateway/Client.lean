import FibrePool.Json.Printer
import FibrePool.Net.Url
import FibrePool.Settings.Basic
import FibrePool.Wire.Volume

/-!
# The gateway

The hypervisor is reached through a gateway that speaks HTTP.  Every call is a request to an address
made of the endpoint and the escaped names in the call.  Reads are sent again while the server is in
trouble; changes are sent once, since whoever asks for them undoes them.
-/

namespace FibrePool

set_option autoImplicit false

/-- A way to reach a gateway. -/
structure Gateway where
  endpoint : String
  token : Option String
  /-- Whether reads are tried again. -/
  retries : Bool
  deriving DecidableEq, Repr, Inhabited

/-- A request to a gateway. -/
structure GatewayRequest where
  method : String
  /-- The address as it was put together. -/
  address : String
  authorization : Option String
  body : Option Json
  deriving Repr, Inhabited

/-- The path and the query that the server sees; none where the address is not one of HTTP. -/
def GatewayRequest.target (request : GatewayRequest) : Option (List Char) :=
  match Url.parse request.address with
  | .ok url => if url.isHttp then some url.target else none
  | .error _ => none

/-- Whether a character may stand in a header. -/
def isHeaderChar (c : Char) : Bool := c == '\t' || !Url.isControl c

/-- Whether a request can be sent at all: its address is one of HTTP, and its authorization can
stand in a header. -/
def GatewayRequest.isSendable (request : GatewayRequest) : Bool :=
  request.target.isSome && (request.authorization.getD "").toList.all isHeaderChar

/-- What a server answers, its body read as text. -/
structure GatewayAnswer where
  status : Nat := 200
  body : String := ""
  deriving DecidableEq, Repr, Inhabited

/-- A server that answers with the first of its answers that is left, and with nothing special when
none is left. -/
structure GatewayServer where
  isUp : Bool := true
  answers : List GatewayAnswer := []
  /-- The requests that it saw. -/
  seen : List GatewayRequest := []

/-- Sends a request. -/
def GatewayServer.send (server : GatewayServer) (request : GatewayRequest) :
    Option GatewayAnswer × GatewayServer :=
  if server.isUp then
    (some (server.answers.head?.getD {}),
      { server with answers := server.answers.drop 1, seen := server.seen ++ [request] })
  else (none, server)

namespace Gateway

/-- The gateway of settings whose endpoint is an address. -/
def ofSettings (settings : GatewaySettings) : Outcome Gateway :=
  match Url.parse settings.endpoint with
  | .ok _ =>
    .ok {
      endpoint := settings.endpoint
      token := settings.token
      retries := 0 < settings.retrySeconds }
  | .error fault => .error (.configuration
      s!"invalid gateway endpoint '{settings.endpoint}': {fault.message}")

/-! ## Requests -/

/-- The endpoint without the slashes at its end. -/
def base (gateway : Gateway) : List Char :=
  (gateway.endpoint.toList.reverse.dropWhile (· == '/')).reverse

/-- The address of names below the endpoint. -/
def address (gateway : Gateway) (names : List String) : String :=
  String.ofList (gateway.base ++ names.flatMap fun name => '/' :: Percent.encode name.toList)

/-- The names, from the endpoint on, of what a call is about. -/
def namesOf : Call → List String
  | .listDevices target => ["hosts", target, "fcp"]
  | .guestExists user => ["guests", user]
  | .dedicate device user => ["guests", user, "fcp", device.text]
  | .undedicate device user => ["guests", user, "fcp", device.text]
  | .configureAttach volume => ["guests", volume.user, "volumes", "attach"]
  | .configureDetach removal => ["guests", removal.volume.user, "volumes", "detach"]

/-- The method of a call. -/
def methodOf : Call → String
  | .listDevices _ => "GET"
  | .guestExists _ => "GET"
  | .dedicate _ _ => "POST"
  | .undedicate _ _ => "DELETE"
  | .configureAttach _ => "POST"
  | .configureDetach _ => "POST"

/-- The body of a call. -/
def bodyOf : Call → Option Json
  | .configureAttach volume => some volume.toJson
  | .configureDetach removal => some removal.toJson
  | _ => none

/-- The request of a call. -/
def request (gateway : Gateway) (call : Call) : GatewayRequest where
  method := methodOf call
  address := gateway.address (namesOf call)
  authorization := gateway.token.map ("Bearer " ++ ·)
  body := bodyOf call

/-! ## Answers -/

/-- Whether a status reports success. -/
def isSuccess (status : Nat) : Bool := 200 ≤ status && status < 300

/-- The failure of an answer that reports none. -/
def refusal (request : GatewayRequest) (answer : GatewayAnswer) : Failure :=
  .gatewayStatus request.address answer.status answer.body

/-- What an answer says about a call. -/
def reading (request : GatewayRequest) (answer : GatewayAnswer) :
    (call : Call) → Outcome call.Answer
  | .listDevices _ =>
    if isSuccess answer.status then .ok answer.body else .error (refusal request answer)
  | .guestExists _ =>
    if answer.status = 404 then .ok false
    else if isSuccess answer.status then .ok true
    else .error (refusal request answer)
  | .dedicate _ _ => if isSuccess answer.status then .ok () else .error (refusal request answer)
  | .undedicate _ _ => if isSuccess answer.status then .ok () else .error (refusal request answer)
  | .configureAttach _ =>
    if isSuccess answer.status then .ok () else .error (refusal request answer)
  | .configureDetach _ =>
    if isSuccess answer.status then .ok () else .error (refusal request answer)

/-- Whether a call changes nothing, so that it may be sent again. -/
def isRead : Call → Bool
  | .listDevices _ => true
  | .guestExists _ => true
  | _ => false

/-- Sends a call once, if it can be sent. -/
def runOnce (gateway : Gateway) (call : Call) (server : GatewayServer) :
    Outcome call.Answer × GatewayServer :=
  let request := gateway.request call
  if request.isSendable then
    match server.send request with
    | (some answer, server) => (reading request answer call, server)
    | (none, server) => (.error (.unreachable true), server)
  else (.error (.unreachable false), server)

/-- Whether an outcome may be better next time. -/
def isTransient {α : Type} : Outcome α → Bool
  | .ok _ => false
  | .error failure => failure.isTransient

/-- Sends a call, and up to `tries` times again while its outcome is transient. -/
def runAgain (gateway : Gateway) (call : Call) (server : GatewayServer) :
    Nat → Outcome call.Answer × GatewayServer
  | 0 => gateway.runOnce call server
  | tries + 1 =>
    let (outcome, server) := gateway.runOnce call server
    if isTransient outcome then gateway.runAgain call server tries else (outcome, server)

/-- Carries out a call.  A server has no more troubles than answers, so a read is over before it has
been sent once more often than there are answers. -/
def run (gateway : Gateway) (call : Call) (server : GatewayServer) :
    Outcome call.Answer × GatewayServer :=
  if gateway.retries && isRead call then gateway.runAgain call server server.answers.length
  else gateway.runOnce call server

end Gateway

end FibrePool
