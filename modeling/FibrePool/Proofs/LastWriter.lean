import FibrePool.Proofs.LeastPaths

/-!
# The last writer of a default

A template can be the default of the host and of any number of storage providers.  The host's is a
mark on the template, of which there is at most one; those of the providers are bindings in a table
of their own.  Making, editing and dropping templates writes both, and a template that takes a
default over takes it from another one.

Seen from outside there is one rule for all of these (`LastWriter`): a default belongs to the
template that was the last to ask for it, unless that template has been edited not to have it, or
dropped, since then.  It never falls back to a template that had it earlier, and what fails writes
nothing.
Every deed does to a default what the rule says of it (`Pool.defaultFor_of_run`), so the rule holds
after any history (`defaults_follow_last_writer`).
-/

namespace FibrePool

set_option autoImplicit false

/-! ## The rule -/

/-- What a template can be the default of. -/
inductive Scope where
  | host
  | provider (name : String)

namespace Scope

/-- Whether a new template is to be the default. -/
def wantedBy : Scope → NewTemplate → Bool
  | host, request => request.hostDefault
  | provider name, request => decide (name ∈ request.providers)

/-- Whether an edit says that the template is to be the default, or that it is not, or neither. -/
def settledBy : Scope → TemplateEdit → Option Bool
  | host, request => request.hostDefault
  | provider name, request => request.providers.map fun providers => decide (name ∈ providers)

end Scope

/-- What a deed says of a default: that a template takes it, or that a template does not have it. -/
inductive Ruling where
  | takes (template : String)
  | yields (template : String)

/-- A template that is made or edited takes a default that it asks for, and one that is edited not
to have it, or dropped, gives it up.  What has failed says nothing. -/
def Deed.ruling (scope : Scope) : Deed PoolRequest PoolAnswer → Option Ruling
  | ⟨.createTemplate request, .ok (.template summary), _⟩ =>
    if scope.wantedBy request then some (.takes summary.template.id) else none
  | ⟨.editTemplate id request, .ok _, _⟩ =>
    (scope.settledBy request).map fun wanted => if wanted then .takes id else .yields id
  | ⟨.deleteTemplate id, .ok _, _⟩ => some (.yields id)
  | _ => none

/-- The template is the last one to have taken the default, and it has not given it up since. -/
def LastWriter (scope : Scope) (deeds : List (Deed PoolRequest PoolAnswer)) (id : String) : Prop :=
  ∃ earlier deed later, deeds = earlier ++ deed :: later ∧
    deed.ruling scope = some (.takes id) ∧
    ∀ other ∈ later, (∀ id', other.ruling scope ≠ some (.takes id')) ∧
      other.ruling scope ≠ some (.yields id)

/-- The default after a ruling. -/
def Ruling.applied : Option Ruling → Option String → Option String
  | some (takes id), _ => some id
  | some (yields id), current => current.filter (· != id)
  | none, current => current

section Rule

variable {scope : Scope} {deeds : List (Deed PoolRequest PoolAnswer)} {id : String}
  {current : Option String}

theorem not_lastWriter_nil : ¬LastWriter scope [] id := by
  rintro ⟨earlier, deed, later, same, _⟩
  cases List.append_ne_nil_of_right_ne_nil earlier (List.cons_ne_nil deed later) same.symm

/-- One more deed makes its template the last writer, or leaves the last one. -/
theorem lastWriter_append_singleton_iff {deed : Deed PoolRequest PoolAnswer} :
    LastWriter scope (deeds ++ [deed]) id ↔ deed.ruling scope = some (.takes id) ∨
      LastWriter scope deeds id ∧ (∀ id', deed.ruling scope ≠ some (.takes id')) ∧
        deed.ruling scope ≠ some (.yields id) := by
  constructor
  · rintro ⟨earlier, writer, later, same, takes, kept⟩
    -- The writer is the new deed itself, or the split lies within the deeds before it.
    rcases List.eq_nil_or_concat' later with rfl | ⟨others, last, rfl⟩
    · obtain ⟨_, rfl⟩ := List.append_singleton_inj.1 same
      exact .inl takes
    · rw [← List.cons_append, ← List.append_assoc] at same
      obtain ⟨rfl, rfl⟩ := List.append_singleton_inj.1 same
      refine .inr ⟨⟨earlier, writer, others, rfl, takes, fun other member => ?_⟩, ?_⟩
      · exact kept other (List.mem_append_left _ member)
      · exact kept deed (List.mem_append_right _ List.mem_cons_self)
  · rintro (takes | ⟨⟨earlier, writer, later, rfl, takes, kept⟩, spared⟩)
    · exact ⟨deeds, deed, [], rfl, takes, fun _ none => absurd none List.not_mem_nil⟩
    · refine ⟨earlier, writer, later ++ [deed], ?_, takes, fun other member => ?_⟩
      · rw [List.append_assoc, List.cons_append]
      · rcases List.mem_append.1 member with before | last
        · exact kept other before
        · obtain rfl := List.mem_singleton.1 last
          exact spared

/-- **The rule is kept by applying what each deed says.** -/
theorem applied_eq_some_iff (follows : ∀ id, current = some id ↔ LastWriter scope deeds id)
    (deed : Deed PoolRequest PoolAnswer) :
    Ruling.applied (deed.ruling scope) current = some id ↔
      LastWriter scope (deeds ++ [deed]) id := by
  rw [lastWriter_append_singleton_iff, ← follows]
  cases deed.ruling scope with
  | none => simp [Ruling.applied]
  | some ruling =>
    cases ruling with
    | takes template => simp [Ruling.applied]
    | yields template =>
      show current.filter (· != template) = some id ↔ _
      rw [Option.filter_eq_some_iff]
      simp [ne_comm]

end Rule

/-! ## What is written -/

namespace Tables

/-- The default template of the host or of a provider. -/
def defaultFor (tables : Tables) : Scope → Option String
  | .host => tables.hostDefault
  | .provider name => tables.providerDefault name

variable {tables after : Tables}

section Filing

variable (sound : tables.TemplatesSound) (sound' : after.TemplatesSound)

include sound sound'

/-- When a template is filed, and the default of the host may have been taken from all templates
before, it is the default that it is marked as, and any other one stays that was left its mark. -/
theorem hostDefault_of_file {clears : Prop} [Decidable clears] {filed id : String}
    {template : Template} (templates_eq : after.templates = ((if clears then tables.clearHostDefault
      else tables).templates.insert filed template)) :
    after.hostDefault = some id ↔ id = filed ∧ template.hostDefault = true ∨
      id ≠ filed ∧ ¬clears ∧ tables.hostDefault = some id := by
  rw [sound'.hostDefault_eq_some_iff, sound.hostDefault_eq_some_iff]
  simp only [get?_file templates_eq]
  by_cases same : id = filed
  · simp [same]
  · by_cases cleared : clears
    · simp [same, cleared]
    · simp [same, cleared]

theorem defaultFor_createTemplate {template : Template} {paths : PathMap} {request : NewTemplate}
    {result : Unit} (same : template.hostDefault = request.hostDefault)
    (done : createTemplate template paths request.providers tables = .ok (result, after))
    (scope : Scope) : after.defaultFor scope = Ruling.applied
      (if scope.wantedBy request then some (.takes template.id) else none)
      (tables.defaultFor scope) := by
  obtain ⟨absent, _, templates_eq, _, providers_eq⟩ := createTemplate_eq_ok done
  -- A template that was not there had no default.
  have unmarked : tables.hostDefault ≠ some template.id := by
    intro isDefault
    obtain ⟨_, stored, _⟩ := sound.hostDefault_eq_some_iff.1 isDefault
    cases absent.symm.trans stored
  have unbound (name : String) : tables.providers.get? name ≠ some template.id := by
    intro bound
    obtain ⟨_, stored⟩ := sound.bound name template.id bound
    cases absent.symm.trans stored
  cases scope with
  | host =>
    refine Option.ext fun id => (hostDefault_of_file sound sound' templates_eq).trans ?_
    rw [Scope.wantedBy, ← same]
    cases template.hostDefault with
    | true => simp [Ruling.applied, eq_comm]
    | false =>
      show _ ↔ tables.hostDefault = some id
      have other (isDefault : tables.hostDefault = some id) : id ≠ template.id :=
        fun own => unmarked (own ▸ isDefault)
      simpa using other
  | provider name =>
    show after.providers.get? name = _
    rw [providers_eq, get?_bindProviders, Scope.wantedBy]
    by_cases listed : name ∈ request.providers
    · rw [if_pos listed, if_pos (decide_eq_true listed)]
      rfl
    · rw [if_neg listed, if_neg (ne_true_of_eq_false (decide_eq_false listed))]
      exact filter_bne_of_ne (unbound name)

theorem defaultFor_editTemplate {id : String} {request : TemplateEdit} {paths : Option PathMap}
    {result : Template}
    (done : editTemplate id (request.changes paths) tables = .ok (result, after))
    (scope : Scope) : after.defaultFor scope = Ruling.applied
      ((scope.settledBy request).map fun wanted => if wanted then .takes id else .yields id)
      (tables.defaultFor scope) := by
  obtain ⟨_, _, _, _, templates_eq⟩ := editTemplate_eq_ok done
  obtain ⟨kept, bound⟩ := providers_of_editTemplate done
  obtain ⟨old, _, stored, rfl, _⟩ := editTemplate_parts done
  have marked : tables.hostDefault = some id ↔ old.hostDefault = true := by
    rw [sound.hostDefault_eq_some_iff, stored]
    simp
  cases scope with
  | host =>
    refine Option.ext fun other => (hostDefault_of_file sound sound' templates_eq).trans ?_
    show other = id ∧ request.hostDefault.getD old.hostDefault = true ∨
      other ≠ id ∧ ¬request.hostDefault = some true ∧ tables.hostDefault = some other ↔
        Ruling.applied (request.hostDefault.map _) tables.hostDefault = some other
    cases request.hostDefault with
    | none =>
      show _ ↔ tables.hostDefault = some other
      by_cases same : other = id
      · simp [same, marked]
      · simp [same]
    | some wanted =>
      cases wanted with
      | true => simp [Ruling.applied, eq_comm]
      | false =>
        show _ ↔ tables.hostDefault.filter (· != id) = some other
        simp [Option.filter_eq_some_iff, and_comm]
  | provider name =>
    show after.providers.get? name = _
    cases asked : request.providers with
    | none =>
      rw [kept asked, Scope.settledBy, asked]
      rfl
    | some providers =>
      rw [bound providers asked, get?_bindProviders, Scope.settledBy, asked]
      by_cases listed : name ∈ providers
      · simp [listed, Ruling.applied]
      · simp [listed, Ruling.applied, defaultFor, providerDefault]

theorem defaultFor_deleteTemplate {id : String} {result : Unit}
    (done : deleteTemplate id tables = .ok (result, after)) (scope : Scope) :
    after.defaultFor scope = Ruling.applied (some (.yields id)) (tables.defaultFor scope) := by
  obtain ⟨_, _, templates_eq, _, providers_eq⟩ := deleteTemplate_eq_ok done
  cases scope with
  | host =>
    refine Option.ext fun other => ?_
    show after.hostDefault = some other ↔ tables.hostDefault.filter (· != id) = some other
    rw [Option.filter_eq_some_iff, sound'.hostDefault_eq_some_iff, sound.hostDefault_eq_some_iff,
      templates_eq]
    by_cases same : other = id
    · simp [same, OrderedMap.get?_erase_self]
    · simp [same, OrderedMap.get?_erase_of_ne _ same]
  | provider name =>
    show after.providers.get? name = _
    rw [providers_eq, OrderedMap.get?_filter]
    rfl

end Filing

end Tables

/-! ## Deeds and histories -/

namespace Pool

open Workflow

variable {settings : PoolSettings} {around : Surroundings} {before : Tables} {scene : Scene}

/-- **A deed does to a default what the rule says of it.** -/
theorem defaultFor_of_run {deed : Deed PoolRequest PoolAnswer} (sound : before.TemplatesSound)
    (sound' : scene.tables.TemplatesSound)
    (run : (perform settings deed.asked).run.alone around { tables := before } =
      (some deed.outcome, scene)) (scope : Scope) :
    scene.tables.defaultFor scope =
      Ruling.applied (deed.ruling scope) (before.defaultFor scope) := by
  obtain ⟨asked, outcome, seen⟩ := deed
  dsimp only at run
  cases writes : asked.writesTemplates with
  | false =>
    have deviceless :
        Tables.Deviceless fun tables => tables.defaultFor scope = before.defaultFor scope := by
      intro tables devices same
      cases scope <;> exact same
    have unruled : Deed.ruling scope ⟨asked, outcome, seen⟩ = none := by
      cases asked <;> first | rfl | cases writes
    rw [unruled]
    exact (PoolRequest.preserves_of_deviceless deviceless writes).alone run rfl fun _ _ => trivial
  | true =>
    cases asked with
    | createTemplate request =>
      have made := createTemplate_of_run run
      cases outcome with
      | ok answer =>
        obtain ⟨summary, rfl, same, paths, done⟩ := made
        exact Tables.defaultFor_createTemplate sound sound' same done scope
      | error failure => exact congrArg (Tables.defaultFor · scope) made
    | editTemplate id request =>
      have edited := editTemplate_of_run sound.filed run
      cases outcome with
      | ok answer =>
        obtain ⟨paths, template, done⟩ := edited
        exact Tables.defaultFor_editTemplate sound sound' done scope
      | error failure => exact congrArg (Tables.defaultFor · scope) edited
    | deleteTemplate id =>
      have dropped := deleteTemplate_of_run run
      cases outcome with
      | ok answer => exact Tables.defaultFor_deleteTemplate sound sound' dropped scope
      | error failure => exact congrArg (Tables.defaultFor · scope) dropped
    | _ => cases writes

end Pool

section Histories

variable {settings : PoolSettings} {past deeds : List (Deed PoolRequest PoolAnswer)}
  {before after : Tables}

/-- Where the rule holds it goes on holding, whatever is done. -/
theorem defaultFor_of_history {scope : Scope} (sound : before.TemplatesSound)
    (follows : ∀ id, before.defaultFor scope = some id ↔ LastWriter scope past id)
    (history : History (Pool.perform settings) before deeds after) (id : String) :
    after.defaultFor scope = some id ↔ LastWriter scope (past ++ deeds) id := by
  -- The deeds that are done join the past, of which the tables are known to follow the rule.
  induction deeds generalizing past before with
  | nil =>
    obtain rfl := History.nil_iff.1 history
    rw [List.append_nil]
    exact follows id
  | cons deed rest ih =>
    obtain ⟨around, scene, run, seen, later⟩ := History.cons_iff.1 history
    have sound' : scene.tables.TemplatesSound :=
      templatesSound_of_history sound (History.cons_iff.2 ⟨around, scene, run, seen, .rest _⟩)
    have written := Pool.defaultFor_of_run sound sound' run scope
    rw [List.append_cons]
    refine ih sound' (fun id => ?_) later
    rw [written]
    exact applied_eq_some_iff follows deed

/-- **Defaults follow the last writer.**  After any history from an empty pool, the default of the
host and that of each provider is the template that was the last to take it, by being made or
edited, if it has not been edited to give it up, or dropped, since then; otherwise there is none.
What has failed plays no part. -/
theorem defaults_follow_last_writer
    (history : History (Pool.perform settings) ∅ deeds after) :
    (∀ id, after.hostDefault = some id ↔ LastWriter .host deeds id) ∧
      ∀ provider id, after.providerDefault provider = some id ↔
        LastWriter (.provider provider) deeds id := by
  have rule (scope : Scope) (id : String) :
      after.defaultFor scope = some id ↔ LastWriter scope ([] ++ deeds) id := by
    refine defaultFor_of_history Tables.templatesSound_empty (fun id => ?_) history id
    refine iff_of_false ?_ not_lastWriter_nil
    cases scope <;> exact nofun
  exact ⟨rule .host, fun provider => rule (.provider provider)⟩

end Histories

/-! ## A default without a successor -/

namespace Sample

/-- Surroundings in which a new template gets this id. -/
def naming (id : String) : Surroundings :=
  { refusing with stamp := fun _ => { id, createdAt := default } }

/-- `T` is the default of the host and of two providers. -/
def senior := carryOut (Pool.perform settings.pool) (naming "T")
  (.createTemplate { devices := "1a00", hostDefault := true, providers := ["P", "Q"] }) ∅

/-- `U` takes over from it for the host and for one of the providers. -/
def junior := carryOut (Pool.perform settings.pool) (naming "U")
  (.createTemplate { devices := "1b00", hostDefault := true, providers := ["P"] }) senior.2

/-- `T` is to be the default of the host again, but also to cover two paths, and has only one. -/
def overreach := carryOut (Pool.perform settings.pool) refusing
  (.editTemplate "T" { hostDefault := some true, leastPaths := some 2 }) junior.2

/-- `U` is dropped. -/
def retired := carryOut (Pool.perform settings.pool) refusing (.deleteTemplate "U") overreach.2

end Sample

/-- When the last writer is dropped, nobody gets back what it had, and the other provider keeps its
default. -/
theorem dropped_default_has_no_successor :
    ∃ deeds, deeds = [Sample.senior.1, Sample.junior.1, Sample.overreach.1, Sample.retired.1] ∧
      History (Pool.perform Sample.settings.pool) ∅ deeds Sample.retired.2 ∧
      (∀ id, ¬LastWriter .host deeds id) ∧ (∀ id, ¬LastWriter (.provider "P") deeds id) ∧
      LastWriter (.provider "Q") deeds "T" := by
  obtain ⟨ended, host, taken, kept⟩ :
      (∀ ran ∈ [Sample.senior, Sample.junior, Sample.overreach, Sample.retired],
        ran.1.outcome ≠ .error default) ∧
      Sample.retired.2.hostDefault = none ∧ Sample.retired.2.providerDefault "P" = none ∧
      Sample.retired.2.providerDefault "Q" = some "T" := by decide +kernel
  simp only [List.forall_mem_cons] at ended
  obtain ⟨ended₁, ended₂, ended₃, ended₄, -⟩ := ended
  have history : History (Pool.perform Sample.settings.pool) ∅
      [Sample.senior.1, Sample.junior.1, Sample.overreach.1, Sample.retired.1]
      Sample.retired.2 := by
    refine history_of_carryOut rfl (ended_of_ne_default ended₁) ?_
    refine history_of_carryOut rfl (ended_of_ne_default ended₂) ?_
    refine history_of_carryOut rfl (ended_of_ne_default ended₃) ?_
    exact history_of_carryOut rfl (ended_of_ne_default ended₄) (.rest _)
  obtain ⟨ofHost, ofProvider⟩ := defaults_follow_last_writer history
  refine ⟨_, rfl, history, fun id last => ?_, fun id last => ?_, (ofProvider "Q" "T").1 kept⟩
  · cases host.symm.trans ((ofHost id).2 last)
  · cases taken.symm.trans ((ofProvider "P" id).2 last)

end FibrePool
