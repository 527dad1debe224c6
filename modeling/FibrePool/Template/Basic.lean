import FibrePool.Device.Record
import FibrePool.Time.Instant

/-!
# Templates

A template is a named choice of devices on several paths.  A reservation under it takes one device
of each path, and it succeeds only when enough paths have one.
-/

namespace FibrePool

set_option autoImplicit false

/-- A named device-selection policy. -/
structure Template where
  id : String
  name : String
  description : String
  hostDefault : Bool
  /-- The fewest paths that a reservation must cover; every path when absent. -/
  leastPaths : Option Nat
  createdAt : Instant
  deriving DecidableEq, Repr, Inhabited

namespace Template

/-- The fewest paths that a reservation must cover when there are `pathCount` of them. -/
def leastPathsOf (template : Template) (pathCount : Nat) : Nat :=
  template.leastPaths.getD pathCount

/-- Older templates first; of equally old ones the one with the smaller id. -/
def notAfter (first second : Template) : Bool :=
  ((first.createdAt.order second.createdAt).then (compare first.id second.id)).isLE

end Template

/-- Which templates are asked for. -/
inductive TemplateFilter where
  | all
  | /-- The templates with these ids, in this order. -/
    ids (templates : List String)
  | /-- The templates under which an assigner uses a device. -/
    assigner (name : String)
  | hostDefault
  | /-- The templates bound to one of these providers, or to any for the provider `all`. -/
    providers (names : List String)
  deriving DecidableEq, Repr, Inhabited

/-- What an edit changes; the rest stays as it is. -/
structure TemplateChanges where
  name : Option String := none
  description : Option String := none
  paths : Option PathMap := none
  hostDefault : Option Bool := none
  providers : Option (List String) := none
  leastPaths : Option Nat := none

/-- The devices of one path as a reservation sees them, in ascending order. -/
structure Candidates where
  path : Nat
  devices : List DeviceRecord
  deriving DecidableEq, Repr, Inhabited

end FibrePool
