import FibrePool.Pool.Statistics
import FibrePool.Template.Basic

/-!
# Requests and answers of the pool

What a caller may ask about templates and devices, and what the pool answers.
-/

namespace FibrePool

set_option autoImplicit false

/-- A request for a new template. -/
structure NewTemplate where
  name : String := ""
  description : String := ""
  /-- The range expression of its devices. -/
  devices : String := ""
  hostDefault : Bool := false
  providers : List String := []
  leastPaths : Option Nat := none
  deriving DecidableEq, Repr, Inhabited

/-- A request to change a template; what is absent stays. -/
structure TemplateEdit where
  name : Option String := none
  description : Option String := none
  devices : Option String := none
  hostDefault : Option Bool := none
  providers : Option (List String) := none
  leastPaths : Option Nat := none
  deriving DecidableEq, Repr, Inhabited

/-- The devices that an assigner holds under a template. -/
structure Reservation where
  template : String
  devices : List DeviceRecord
  deriving DecidableEq, Repr, Inhabited

/-- The usage of a device before and after a change. -/
structure UsageChange where
  previous : Usage
  current : Usage
  deriving DecidableEq, Repr, Inhabited

/-- Whether the change gave the device its first connection. -/
def UsageChange.isFirstConnection (change : UsageChange) : Bool :=
  change.previous.connections == 0 && change.current.connections == 1

/-- What a reconciliation did. -/
structure SyncSummary where
  inserted : Nat
  updated : Nat
  deleted : Nat
  deriving DecidableEq, Repr, Inhabited

/-- A template with its providers and its devices as a range expression. -/
structure TemplateSummary where
  template : Template
  providers : List String
  devices : String
  pathCount : Nat
  deriving DecidableEq, Repr, Inhabited

/-- A template with, on request, the records and the statistics of its paths. -/
structure TemplateDetails where
  summary : TemplateSummary
  records : Option (OrderedMap Nat (List DeviceRecord))
  statistics : Option (OrderedMap Nat PathStatistics)
  deriving DecidableEq

end FibrePool
