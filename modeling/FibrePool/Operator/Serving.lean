import FibrePool.Http.Answer
import FibrePool.Operator.Startup

/-!
# Serving

The operator at work answers one request after the other.  Between two requests it keeps its tables,
its files and its counters; every request is a task of its own, run until nothing can move.
-/

namespace FibrePool

set_option autoImplicit false

/-- What an operator keeps between requests. -/
structure Serving where
  setup : Setup
  files : FileSystem
  metrics : Metrics := {}
  /-- How many templates were made. -/
  created : Nat := 0

namespace Serving

/-- The tasks of an operator before a request comes in. -/
def scheduler (serving : Serving) (listing : Outcome String) (stamps : Nat → Stamp) :
    Scheduler Response :=
  { serving.setup.scheduler serving.files listing stamps with
    metrics := serving.metrics
    created := serving.created }

/-- Answers a request; an answer that does not come in time is that of a server in trouble. -/
def answer (serving : Serving) (listing : Outcome String) (stamps : Nat → Stamp)
    (request : Request) : Response × Serving :=
  let idle := serving.scheduler listing stamps
  let (ticket, started) := idle.start (idle.answering serving.setup.operator request)
  let ended := started.settle Setup.enoughSteps
  ((ended.result? ticket).getD { status := 503 },
    { setup := { serving.setup with store := ended.store }
      files := ended.files
      metrics := ended.metrics
      created := ended.created })

end Serving

/-! ## Template identities -/

/-- Two hexadecimal digits for each byte. -/
def byteDigits (bytes : List Nat) : String :=
  String.ofList (bytes.flatMap fun byte => (Text.hexWord byte).drop 2)

/-- A random identifier of sixteen bytes, in five groups of digits.  Its version is four, and its
variant begins with the bits 10. -/
def identifierText (bytes : List Nat) : String :=
  let marked := bytes.zipIdx.map fun (byte, place) =>
    if place = 6 then 64 + byte % 16 else if place = 8 then 128 + byte % 64 else byte
  let group (first count : Nat) : String := byteDigits ((marked.drop first).take count)
  "-".intercalate [group 0 4, group 4 2, group 6 2, group 8 2, group 10 6]

/-! ## What a start looks at -/

namespace Settings

/-- The names in settings that may be those of files. -/
def fileNames (settings : Settings) : List String :=
  let words := settings.hardware.queryCommand.getD []
  settings.store.snapshotPath.toList ++
    words.flatMap fun word => (Text.splitAt ' ' word.toList).map String.ofList

end Settings

end FibrePool
