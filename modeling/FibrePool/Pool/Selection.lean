import FibrePool.Template.Basic

/-!
# Choosing devices

A reservation takes one device of each path.  What the assigner has already reserved under the
template is kept as it is; otherwise a free device is taken of each path that has one, if possible
at the same place of every path, and the choice stands only when it covers enough paths.  Every
chosen device must have both its port names.
-/

namespace FibrePool

set_option autoImplicit false

/-- How devices are chosen. -/
structure SelectionPolicy where
  /-- Prefer devices at the same place of every path. -/
  sameIndexPairing : Bool
  /-- The fewest paths that must get a device. -/
  leastPaths : Nat
  deriving DecidableEq, Repr, Inhabited

namespace Selection

/-- The first device of each path that the assigner has reserved. -/
def reserved (candidates : List Candidates) (assigner template : String) : List DeviceRecord :=
  candidates.filterMap fun path => path.devices.find? (·.isReservedBy assigner template)

/-- The first free device of each path that has one. -/
def firstFree (candidates : List Candidates) : List DeviceRecord :=
  candidates.filterMap fun path => path.devices.find? (·.isFree)

/-- The devices at a place, if every path has a free one there. -/
def freeAt? (candidates : List Candidates) (place : Nat) : Option (List DeviceRecord) :=
  candidates.mapM fun path => path.devices[place]?.filter (·.isFree)

/-- The number of places that every path has. -/
def commonPlaces (candidates : List Candidates) : Nat :=
  ((candidates.map fun path => path.devices.length).min?).getD 0

/-- The devices at the lowest place that is free on every path. -/
def paired? (candidates : List Candidates) : Option (List DeviceRecord) :=
  (List.range (commonPlaces candidates)).findSome? (freeAt? candidates)

/-- The free devices that are picked, before their number is looked at. -/
def picked (candidates : List Candidates) (policy : SelectionPolicy) : List DeviceRecord :=
  if policy.sameIndexPairing then (paired? candidates).getD (firstFree candidates)
  else firstFree candidates

/-- The chosen devices, before their port names are looked at. -/
def chosen (candidates : List Candidates) (assigner template : String)
    (policy : SelectionPolicy) : List DeviceRecord :=
  match reserved candidates assigner template with
  | [] =>
    let records := picked candidates policy
    if records.length < policy.leastPaths then [] else records
  | held => held

/-- The failure of a chosen device without a port name. -/
def missingName (record : DeviceRecord) (face : String) : Failure :=
  .operation "reserve_devices" s!"FCP device {record.id} has no {face}" [record.id.text] []

/-- A chosen device, which must have both its port names. -/
def named (record : DeviceRecord) : Outcome DeviceId :=
  if !isPortName record.npivName then .error (missingName record "NPIV WWPN")
  else if !isPortName record.physicalName then .error (missingName record "physical WWPN")
  else .ok record.id

/-- The devices to reserve, in path order; none when the template cannot serve the request. -/
def select (candidates : List Candidates) (assigner template : String)
    (policy : SelectionPolicy) : Outcome (List DeviceId) :=
  (chosen candidates assigner template policy).mapM named

end Selection

end FibrePool
