import FibrePool.Pool.Operation
import FibrePool.Proofs.Alone

/-!
# What is read off the tables

A request names a template, or a storage provider whose default it means, or neither of them.
`Tables.resolved` is what comes of it, and `Pool.resolve` ends with just that (`Pool.ends_resolve`).
The records of devices play no part, so a request goes on meaning the same template whatever is done
to devices.

A look at the devices that an assigner holds goes through the paths one by one, and still ends with
what a reservation takes to be reserved (`Pool.ends_held`).  The summary of a template is read off
the tables too (`Pool.ends_summarize`).
-/

namespace FibrePool

set_option autoImplicit false

namespace Tables

/-- The template that is taken where none is named: the default of the provider, or that of the
host. -/
def fallback (tables : Tables) (provider : Option String) : Option String :=
  (provider.bind tables.providerDefault).or tables.hostDefault

/-- The template that a request means. -/
def resolved (tables : Tables) (template provider : Option String) : Outcome String :=
  match Pool.given template with
  | some id => (tables.template id).map fun _ => id
  | none =>
    match tables.fallback (Pool.given provider) with
    | some id => .ok id
    | none => .error (.noDefaultTemplate (Pool.given provider))

/-- A template with the providers and the paths that are filed for it. -/
def summary (tables : Tables) (template : Template) : TemplateSummary where
  template
  providers := tables.bindingsOf template.id
  devices := Ranges.collapsePaths (tables.pathsOf template.id)
  pathCount := (tables.pathsOf template.id).size

end Tables

namespace Pool

open Workflow

variable {around : Surroundings} {scene : Scene} {good : String → Scene → Prop}
  {bad : Failure → Scene → Prop}

/-- **Finding out which template is meant reads it off the tables** and leaves everything as it
was. -/
theorem ends_resolve (template provider : Option String) :
    (resolve template provider).Ends around scene good bad ↔
      match scene.tables.resolved template provider with
      | .ok id => good id scene
      | .error failure => bad failure scene := by
  unfold resolve Tables.resolved
  cases given template with
  | some id =>
    dsimp only
    rw [ends_bind, ends_askFor]
    cases scene.tables.template id with
    | ok found => exact ends_pure id
    | error failure => exact Iff.rfl
  | none =>
    dsimp -zeta only
    extract_lets fallback
    have falling (bound : Option String)
        (asked : (given provider).bind scene.tables.providerDefault = bound) :
        (fallback bound).Ends around scene good bad ↔
          match scene.tables.fallback (given provider) with
          | some id => good id scene
          | none => bad (.noDefaultTemplate (given provider)) scene := by
      rw [Tables.fallback, asked]
      unfold fallback
      cases bound with
      | some id => exact ends_pure id
      | none =>
        rw [Option.none_or, ends_bind, ends_ask]
        cases scene.tables.hostDefault with
        | some id => exact ends_pure id
        | none => exact ends_throw _
    refine Iff.trans ?_ (b := match scene.tables.fallback (given provider) with
      | some id => good id scene
      | none => bad (.noDefaultTemplate (given provider)) scene) ?_
    · split
      · next name named =>
        rw [ends_bind, ends_ask]
        exact falling _ (by rw [named]; rfl)
      · next unnamed =>
        rw [ends_bind, ends_pure]
        exact falling none (by rw [unnamed]; rfl)
    · cases scene.tables.fallback (given provider) <;> exact Iff.rfl

/-- **Looking up what is held reads it off the tables** as well. -/
theorem ends_held {good : List DeviceRecord → Scene → Prop} (assigner template : String) :
    (held assigner template).Ends around scene good bad ↔
      match scene.tables.template template with
      | .ok _ => good (Selection.reserved (scene.tables.candidates template) assigner template) scene
      | .error failure => bad failure scene := by
  have finding (sets : List DeviceSet) {good : List (Option DeviceRecord) → Scene → Prop} :
      Ends around (sets.mapM fun ids => do
        let records ← ask (·.recordsOf ids.keys)
        return records.find? (·.isReservedBy assigner template)) scene good bad ↔
      good (sets.map fun ids =>
        (scene.tables.recordsOf ids.keys).find? (·.isReservedBy assigner template)) scene := by
    induction sets generalizing good with
    | nil => exact ends_pure _
    | cons ids rest ih =>
      rw [List.mapM_cons, ends_bind, ends_bind, ends_ask, ends_pure, ends_bind, ih]
      exact ends_pure _
  unfold held
  rw [ends_bind, ends_askFor, Tables.pathMapping]
  cases scene.tables.template template with
  | error failure => exact Iff.rfl
  | ok found =>
    refine (ends_bind _ _).trans ((finding _).trans ?_)
    rw [ends_pure, OrderedMap.values, List.map_map, List.filterMap_map, Selection.reserved,
      Tables.candidates, List.filterMap_map]
    rfl

/-- **So does summarizing a template**, as long as it is there. -/
theorem ends_summarize {good : TemplateSummary → Scene → Prop} (template : Template) :
    (summarize template).Ends around scene good bad ↔
      match scene.tables.template template.id with
      | .ok _ => good (scene.tables.summary template) scene
      | .error failure => bad failure scene := by
  unfold summarize
  rw [ends_bind, ends_askFor, Tables.pathMapping]
  cases scene.tables.template template.id with
  | error failure => exact Iff.rfl
  | ok found =>
    refine (ends_bind _ _).trans ?_
    rw [ends_ask]
    exact ends_pure _

end Pool

end FibrePool
