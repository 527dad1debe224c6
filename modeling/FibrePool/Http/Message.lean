import FibrePool.Http.MediaType
import FibrePool.Http.Query
import FibrePool.Json.Reader
import FibrePool.Json.Row
import FibrePool.Wire.Report

/-!
# Requests and responses

A request as it reaches the operator, the readings of its parts, and the responses.  Every part
that cannot be read has a status of its own: the answer to such a request is that status and
nothing else.
-/

namespace FibrePool

set_option autoImplicit false

open Json (Reading)

/-- A status with which a request is turned down. -/
abbrev Rejection := Nat

/-! ## Requests -/

/-- A request. -/
structure Request where
  method : String
  /-- The path with its escapes. -/
  path : List Char
  query : List Char
  contentType : Option String
  /-- The bytes of the body, which need not be those of a text. -/
  body : List Nat
  deriving DecidableEq, Repr

namespace Request

/-- The path and the query of an address; the part behind a number sign never reaches a server. -/
def splitTarget (target : String) : List Char × List Char :=
  let target := ((Text.splitOnce? '#' target.toList).map (·.1)).getD target.toList
  (Text.splitOnce? '?' target).getD (target, [])

/-- The text that a segment of the path stands for. -/
def segment (raw : List Char) : Except Rejection String :=
  match Text.Utf8.decode (Percent.decode raw) with
  | .ok text => .ok text
  | .error _ => .error 400

/-- Whether the body is said to be JSON. -/
def isJson (request : Request) : Bool :=
  match request.contentType.bind MediaType.parse? with
  | some media => media.isJson
  | none => false

/-- The value in the body; what follows it is not looked at. -/
def readBody {α : Type} (request : Request) (read : Json → Reading α) : Except Rejection α :=
  if request.isJson then
    match read (Json.ofFront request.body) with
    | .ok value => .ok value
    | .error .broken => .error 400
    | .error .unfit => .error 422
  else .error 415

/-- What is read from the query. -/
def readQuery {α : Type} (request : Request) (read : QueryParameters → Except Unit α) :
    Except Rejection α :=
  match read (QueryParameters.ofQuery request.query) with
  | .ok value => .ok value
  | .error _ => .error 400

end Request

/-! ## Responses -/

/-- What a response carries. -/
inductive Content where
  | text (value : String)
  | /-- JSON, with no value where only the head was asked for. -/
    json (value : Option Json)

/-- A response. -/
structure Response where
  status : Nat
  content : Option Content := none

namespace Response

/-- A response that carries a value. -/
def ofJson (status : Nat) (value : Json) : Response := ⟨status, some (.json (some value))⟩

/-- The response to a request that failed. -/
def ofFailure (failure : Failure) : Response :=
  .ofJson failure.httpStatus (FailureReport.ofFailure failure).toJson

/-- The response with its head alone. -/
def head (response : Response) : Response :=
  match response.content with
  | some (.json _) => { response with content := some (.json none) }
  | _ => { response with content := none }

end Response

end FibrePool
