import FibrePool.Template.Basic

/-!
# Tables

All that the pool keeps: device records, templates, the devices of each template by path, and the
default template of each storage provider.  This module holds the questions that can be asked of the
tables; the transactions that change them are in `Store.Transaction`.
-/

namespace FibrePool

set_option autoImplicit false

/-- The state of the pool. -/
structure Tables where
  devices : OrderedMap DeviceId DeviceRecord
  templates : OrderedMap String Template
  paths : OrderedMap String PathMap
  /-- The default template of each storage provider. -/
  providers : OrderedMap String String
  deriving DecidableEq

namespace Tables

instance : EmptyCollection Tables := ⟨⟨∅, ∅, ∅, ∅⟩⟩

instance : Inhabited Tables := ⟨∅⟩

/-- The paths of a template; none when it has no entry. -/
def pathsOf (tables : Tables) (template : String) : PathMap :=
  (tables.paths.get? template).getD ∅

/-- The stored records of a list of devices. -/
def recordsOf (tables : Tables) (ids : List DeviceId) : List DeviceRecord :=
  ids.filterMap tables.devices.get?

/-- The devices of every path of a template, one list after the other. -/
def devicesOf (tables : Tables) (template : String) : List DeviceId :=
  (tables.pathsOf template).values.flatMap fun ids => ids.keys

/-- The devices of a template that are reserved or connected under it. -/
def devicesInUse (tables : Tables) (template : String) : List DeviceId :=
  ((tables.recordsOf (tables.devicesOf template)).filter fun record =>
    record.template == template && record.isInUse).map (·.id)

/-- The template with an id, which must be there. -/
def template (tables : Tables) (id : String) : Outcome Template :=
  match tables.templates.get? id with
  | some template => .ok template
  | none => .error (.templateNotFound id)

/-- The record of a device, which must be there. -/
def record (tables : Tables) (id : DeviceId) : Outcome DeviceRecord :=
  match tables.devices.get? id with
  | some record => .ok record
  | none => .error (.deviceNotFound id.text)

/-- The candidates of each path of a template, in path order. -/
def candidates (tables : Tables) (template : String) : List Candidates :=
  (tables.pathsOf template).entries.map fun (path, ids) =>
    { path, devices := tables.recordsOf ids.keys }

/-- The paths of a template that must be there. -/
def pathMapping (tables : Tables) (template : String) : Outcome PathMap := do
  let _ ← tables.template template
  return tables.pathsOf template

/-- The records of every path of every template. -/
def grouped (tables : Tables) : OrderedMap String (OrderedMap Nat (List DeviceRecord)) :=
  tables.paths.mapValues fun _ paths =>
    paths.mapValues fun _ ids => tables.recordsOf ids.keys

/-- The storage providers whose default is the template. -/
def bindingsOf (tables : Tables) (template : String) : List String :=
  (tables.providers.entries.filter fun entry => entry.2 == template).map (·.1)

/-- The default template of a storage provider. -/
def providerDefault (tables : Tables) (provider : String) : Option String :=
  tables.providers.get? provider

/-- The default template of the host. -/
def hostDefault (tables : Tables) : Option String :=
  (tables.templates.values.find? (·.hostDefault)).map (·.id)

/-- The templates under which an assigner uses a device. -/
def templatesHeldBy (tables : Tables) (assigner : String) : List String :=
  (tables.devices.values.filter fun record =>
    record.assigner == assigner && record.isInUse).map (·.template)

/-- The templates bound to one of the providers, where the provider `all` stands for every one. -/
def templatesBoundTo (tables : Tables) (providers : List String) : List String :=
  (tables.providers.entries.filter fun entry =>
    providers.contains "all" || providers.contains entry.1).map (·.2)

/-- The templates that satisfy a condition, older ones first. -/
def templatesWhere (tables : Tables) (keep : Template → Bool) : List Template :=
  (tables.templates.values.filter keep).mergeSort Template.notAfter

/-- The templates that a filter asks for. -/
def templatesBy (tables : Tables) : TemplateFilter → List Template
  | .all => tables.templatesWhere fun _ => true
  | .ids ids => ids.filterMap tables.templates.get?
  | .assigner name =>
    let held := tables.templatesHeldBy name
    tables.templatesWhere fun template => held.contains template.id
  | .hostDefault => tables.templatesWhere (·.hostDefault)
  | .providers names =>
    let bound := tables.templatesBoundTo names
    tables.templatesWhere fun template => bound.contains template.id

end Tables

end FibrePool
