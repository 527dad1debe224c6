import FibrePool.Failure
import FibrePool.Json.Row

/-!
# Reports

What the operator says about itself and about failures: its status, and the object that every
failing request of the web interface is answered with.
-/

namespace FibrePool

set_option autoImplicit false

open Json (Codec Field Reading Row)

/-! ## Failures -/

/-- A failure as clients see it. -/
structure FailureReport where
  /-- The tag of the kind of failure. -/
  error : String
  message : String
  /-- What was put back, or what could not be. -/
  details : Option String := none
  deriving DecidableEq, Repr, Inhabited

namespace FailureReport

/-- What a report says beyond the message. -/
def detailsOf : Failure → Option String
  | .operation _ _ _ (device :: devices) =>
    some ("rolled back: " ++ ",".intercalate (device :: devices))
  | .rollbackIncomplete _ _ errors => some ("; ".intercalate errors)
  | _ => none

/-- The report of a failure. -/
def ofFailure (failure : Failure) : FailureReport :=
  ⟨failure.code, failure.message, detailsOf failure⟩

/-- The fields of a report. -/
def fields : List Field :=
  [.of "error" Json.asText, .of "message" Json.asText, .of "details" (Json.asOption Json.asText)]

/-- The report in a value. -/
def ofJson (value : Json) : Reading FailureReport := do
  let row ← Row.read fields value
  return {
    error := ← row.required "error" Json.asText
    message := ← row.required "message" Json.asText
    details := ← row.optional "details" Json.asText }

/-- A report as an object. -/
def toJson (report : FailureReport) : Json :=
  .object ([("error", .text report.error), ("message", .text report.message)] ++
    Json.ofPresent "details" .text report.details)

instance : Codec FailureReport := ⟨toJson, ofJson⟩

end FailureReport

/-! ## Status -/

/-- Which partition is served, and how much is going on. -/
structure OperatorStatus where
  partition : String
  /-- How many locks are held or waited for. -/
  active : Nat
  deriving DecidableEq, Repr, Inhabited

namespace OperatorStatus

/-- The fields of a status. -/
def fields : List Field := [.of "lparName" Json.asText, .of "activeOperations" Json.asSize]

/-- The status in a value. -/
def ofJson (value : Json) : Reading OperatorStatus := do
  let row ← Row.read fields value
  return {
    partition := ← row.required "lparName" Json.asText
    active := ← row.required "activeOperations" Json.asSize }

/-- A status as an object. -/
def toJson (status : OperatorStatus) : Json :=
  .object [("lparName", .text status.partition), ("activeOperations", .natural status.active)]

instance : Codec OperatorStatus := ⟨toJson, ofJson⟩

end OperatorStatus

end FibrePool
