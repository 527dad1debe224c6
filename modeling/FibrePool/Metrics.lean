import FibrePool.Data.OrderedMap
import FibrePool.Decimal.Shortest

/-!
# Metrics

How often each operation ended well or badly, how often its steps had to be undone, and how long it
took.  The metrics are shown in the text format of Prometheus: families in the order of their names,
series in the order of their label values, and families without series left out.
-/

namespace FibrePool

set_option autoImplicit false

/-- The upper bounds of the buckets of durations, in seconds, with their texts. -/
def durationBounds : List (Float × String) :=
  [(0.005, "0.005"), (0.01, "0.01"), (0.025, "0.025"), (0.05, "0.05"), (0.1, "0.1"),
    (0.25, "0.25"), (0.5, "0.5"), (1.0, "1"), (2.5, "2.5"), (5.0, "5"), (10.0, "10")]

/-- The durations of one operation. -/
structure Durations where
  count : Nat := 0
  sum : Float := 0
  /-- How many durations are at most each bound. -/
  within : List Nat := durationBounds.map fun _ => 0
  deriving Inhabited

/-- Counts a duration. -/
def Durations.observe (durations : Durations) (seconds : Float) : Durations where
  count := durations.count + 1
  sum := durations.sum + seconds
  within := List.zipWith (fun bound held => if seconds ≤ bound.1 then held + 1 else held)
    durationBounds durations.within

/-- The counters of the operator. -/
structure Metrics where
  /-- Ended operations, by operation and result. -/
  operations : OrderedMap String (OrderedMap String Nat) := ∅
  rollbacks : OrderedMap String Nat := ∅
  durations : OrderedMap String Durations := ∅
  deriving Inhabited

namespace Metrics

/-- How often an operation had a result. -/
def operationCount (metrics : Metrics) (operation result : String) : Nat :=
  (((metrics.operations.get? operation).getD ∅).get? result).getD 0

/-- How often the steps of an operation were undone. -/
def rollbackCount (metrics : Metrics) (operation : String) : Nat :=
  (metrics.rollbacks.get? operation).getD 0

/-- Sets the counter of an operation and a result. -/
def setOperation (metrics : Metrics) (operation result : String) (count : Nat) : Metrics :=
  let results := (metrics.operations.get? operation).getD ∅
  { metrics with operations := metrics.operations.insert operation (results.insert result count) }

/-- Sets the counter of rollbacks of an operation. -/
def setRollbacks (metrics : Metrics) (operation : String) (count : Nat) : Metrics :=
  { metrics with rollbacks := metrics.rollbacks.insert operation count }

/-- The word for a result. -/
def resultWord (success : Bool) : String := if success then "success" else "error"

/-- Counts an ended operation with its duration. -/
def observe (metrics : Metrics) (operation : String) (success : Bool) (seconds : Float) :
    Metrics :=
  let result := resultWord success
  let counted := metrics.setOperation operation result (metrics.operationCount operation result + 1)
  let held := (counted.durations.get? operation).getD {}
  { counted with durations := counted.durations.insert operation (held.observe seconds) }

/-- Counts a rollback. -/
def rollback (metrics : Metrics) (operation : String) : Metrics :=
  metrics.setRollbacks operation (metrics.rollbackCount operation + 1)

/-- The counter of an operation and a result, and the metrics that now have such a series. -/
def askOperation (metrics : Metrics) (operation result : String) : Nat × Metrics :=
  let count := metrics.operationCount operation result
  (count, metrics.setOperation operation result count)

/-- The counter of rollbacks, and the metrics that now have such a series. -/
def askRollbacks (metrics : Metrics) (operation : String) : Nat × Metrics :=
  let count := metrics.rollbackCount operation
  (count, metrics.setRollbacks operation count)

/-! ## Text format -/

/-- One character of a label value. -/
def escapedLabel (c : Char) : List Char :=
  match c with
  | '\\' => ['\\', '\\']
  | '"' => ['\\', '"']
  | '\n' => ['\\', 'n']
  | c => [c]

/-- A label with its value. -/
def label (name value : String) : String :=
  name ++ "=\"" ++ String.ofList (value.toList.flatMap escapedLabel) ++ "\""

/-- The line of a sample. -/
def sample (name : String) (labels : List String) (value : String) : String :=
  name ++ "\x7b" ++ ",".intercalate labels ++ "\x7d " ++ value

/-- A family with its head lines, or nothing when it has no sample. -/
def family (name help type : String) (samples : List String) : List String :=
  if samples.isEmpty then []
  else (s!"# HELP {name} {help}") :: (s!"# TYPE {name} {type}") :: samples

/-- The samples of the durations of an operation. -/
def durationSamples (operation : String) (durations : Durations) : List String :=
  let name := "fcp_operation_duration_seconds"
  let operation := label "operation" operation
  let bucket (bound : String) (count : Nat) : String :=
    sample (name ++ "_bucket") [operation, label "le" bound] (toString count)
  List.zipWith (fun bound count => bucket bound.2 count) durationBounds durations.within ++
    [bucket "+Inf" durations.count,
      sample (name ++ "_sum") [operation] (Decimal.text durations.sum),
      sample (name ++ "_count") [operation] (toString durations.count)]

/-- The samples of the results of an operation. -/
def operationSamples (operation : String) (results : OrderedMap String Nat) : List String :=
  results.entries.map fun (result, count) =>
    sample "fcp_operations_total" [label "operation" operation, label "result" result]
      (toString count)

/-- The metrics as text. -/
def render (metrics : Metrics) : String :=
  let lines :=
    family "fcp_operation_duration_seconds" "Duration of volume and pool operations" "histogram"
      (metrics.durations.entries.flatMap fun entry => durationSamples entry.1 entry.2) ++
    family "fcp_operations_total" "Volume and pool operations by result" "counter"
      (metrics.operations.entries.flatMap fun entry => operationSamples entry.1 entry.2) ++
    family "fcp_rollbacks_total" "Rollback sequences started after a failed step" "counter"
      (metrics.rollbacks.entries.map fun entry =>
        sample "fcp_rollbacks_total" [label "operation" entry.1] (toString entry.2))
  String.join (lines.map (· ++ "\n"))

end Metrics

end FibrePool
