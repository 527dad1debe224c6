import FibrePool.Http.Message

/-!
# Requests and responses in JSON

A request without a network: an object with the method, the target with its path and query, the
body as a text, and the content type.  A content type that is not mentioned is that of JSON, and
one that is `null` is none at all.  A response is an object with its status and with what it
carries, either a JSON value or a text that is not empty.
-/

namespace FibrePool

set_option autoImplicit false

/-- The text of a member that may be missing. -/
def Request.textIn? (value : Json) (name : String) : Option String :=
  match value.get? name with
  | some (.text given) => some given
  | _ => none

/-- The request that an object describes. -/
def Request.ofJson (value : Json) : Request :=
  let (path, query) := splitTarget ((textIn? value "path").getD "")
  { method := (textIn? value "method").getD ""
    path
    query
    contentType :=
      if (value.get? "contentType").isSome then textIn? value "contentType"
      else some "application/json"
    body := Text.Utf8.encode ((textIn? value "body").getD "").toList }

/-- A response as an object. -/
def Response.toJson (response : Response) : Json :=
  let status := ("status", Json.natural response.status)
  match response.content with
  | some (.json value) => .object [status, ("json", value.getD .null)]
  | some (.text "") => .object [status]
  | some (.text content) => .object [status, ("text", .text content)]
  | none => .object [status]

end FibrePool
