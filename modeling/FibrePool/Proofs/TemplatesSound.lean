import FibrePool.Proofs.RangeCodec
import FibrePool.Proofs.Resolution
import FibrePool.Proofs.TemplateTables

/-!
# Sound template tables

Templates live in three tables: the templates themselves, their paths, and the default template of
each storage provider.  What holds of the three together in every state is `Tables.TemplatesSound`:
a template and its paths are filed under the same id, a binding leads to a template that is there,
the host has one default template at the most, and no template asks for more paths than it has.

Making a template and editing one come to the same thing, which is filing a template together with
its paths (`Tables.TemplatesSound.file`); an edit without new paths files the old ones again.  With
sound tables, asking for a default either gives a template that is there or fails with the failure
that says so (`Pool.resolve_default_ends`).
-/

namespace FibrePool

set_option autoImplicit false

namespace Tables

/-! ## Sound tables -/

/-- What is true of the templates, their paths and their bindings in every state. -/
structure TemplatesSound (tables : Tables) : Prop where
  /-- Every template is filed under its own id. -/
  filed : tables.TemplatesFiled
  /-- The templates are those that have paths. -/
  same_keys : tables.templates.keys = tables.paths.keys
  /-- The default of a storage provider is a template. -/
  bound : ∀ provider id, tables.providers.get? provider = some id →
    ∃ template, tables.templates.get? id = some template
  /-- There is at most one default of the host. -/
  one_default : ∀ id template id' template', tables.templates.get? id = some template →
    tables.templates.get? id' = some template' → template.hostDefault = true →
      template'.hostDefault = true → id = id'
  /-- The paths of a template are numbered from zero, and each of them has a device. -/
  numbered : ∀ id paths, tables.paths.get? id = some paths → paths.Numbered
  /-- A template has as many paths as a reservation must cover. -/
  covered : ∀ id template least, tables.templates.get? id = some template →
    template.leastPaths = some least → least ≤ (tables.pathsOf id).size

theorem templatesSound_empty : TemplatesSound ∅ where
  filed := templatesFiled_empty
  same_keys := rfl
  bound _ _ found := by cases found
  one_default _ _ _ _ found := by cases found
  numbered _ _ found := by cases found
  covered _ _ _ found := by cases found

theorem TemplatesSound.deviceless : Deviceless TemplatesSound :=
  fun _ _ sound => ⟨sound.filed, sound.same_keys, sound.bound, sound.one_default, sound.numbered,
    sound.covered⟩

namespace TemplatesSound

variable {tables after : Tables}

theorem exists_paths_iff (sound : tables.TemplatesSound) (id : String) :
    (∃ paths, tables.paths.get? id = some paths) ↔
      ∃ template, tables.templates.get? id = some template := by
  have same := OrderedMap.keys_eq_iff.1 sound.same_keys id
  rw [OrderedMap.contains, OrderedMap.contains, Option.isSome_iff_exists,
    Option.isSome_iff_exists] at same
  exact same.symm

/-! ## Filing a template -/

/-- After a filing the default of the host is the filed template, or the one it was before. -/
theorem default_of_file {clears : Prop} [Decidable clears] {template : Template}
    (inherits : template.hostDefault = true → clears ∨
      ∃ old, tables.templates.get? template.id = some old ∧ old.hostDefault = true)
    (templates_eq : after.templates = ((if clears then tables.clearHostDefault
      else tables).templates.insert template.id template)) {id : String} {found : Template}
    (stored : after.templates.get? id = some found) (isDefault : found.hostDefault = true) :
    clears ∧ id = template.id ∨
      ¬clears ∧ ∃ old, tables.templates.get? id = some old ∧ old.hostDefault = true := by
  rw [get?_file templates_eq] at stored
  by_cases same : id = template.id
  · rw [if_pos same] at stored
    cases stored
    by_cases cleared : clears
    · exact .inl ⟨cleared, same⟩
    · rw [same]
      exact .inr ⟨cleared, (inherits isDefault).resolve_left cleared⟩
  · rw [if_neg same] at stored
    obtain ⟨old, before, rfl⟩ := Option.map_eq_some_iff.1 stored
    by_cases cleared : clears
    · simp [cleared] at isDefault
    · exact .inr ⟨cleared, old, before, by simpa [cleared] using isDefault⟩

/-- **Filing a template together with its paths keeps the tables sound.** -/
theorem file (sound : tables.TemplatesSound) (clears : Prop) [Decidable clears]
    (template : Template) {paths : PathMap} (numbered : paths.Numbered)
    (covered : ∀ least, template.leastPaths = some least → least ≤ paths.size)
    (inherits : template.hostDefault = true → clears ∨
      ∃ old, tables.templates.get? template.id = some old ∧ old.hostDefault = true)
    (templates_eq : after.templates = ((if clears then tables.clearHostDefault
      else tables).templates.insert template.id template))
    (paths_eq : after.paths = tables.paths.insert template.id paths)
    (bound : ∀ provider id, after.providers.get? provider = some id →
      id = template.id ∨ tables.providers.get? provider = some id) :
    after.TemplatesSound where
  filed := sound.filed.insert rfl templates_eq
  same_keys := by
    apply OrderedMap.keys_eq_iff.2
    intro probe
    rw [paths_eq, OrderedMap.contains_insert, ← OrderedMap.keys_eq_iff.1 sound.same_keys probe,
      templates_eq, OrderedMap.contains_insert]
    split
    · rw [clearHostDefault, OrderedMap.contains_mapValues]
    · exact Iff.rfl
  bound provider id found := by
    rcases bound provider id found with rfl | before
    · rw [templates_eq]
      exact ⟨template, OrderedMap.get?_insert_self _ _ _⟩
    · exact exists_template_of_file templates_eq (sound.bound provider id before)
  one_default id first id' second stored stored' isDefault isDefault' := by
    rcases default_of_file inherits templates_eq stored isDefault with
      ⟨cleared, own⟩ | ⟨kept, old, before, wasDefault⟩
    · rcases default_of_file inherits templates_eq stored' isDefault' with
        ⟨_, own'⟩ | ⟨kept, _⟩
      · exact own.trans own'.symm
      · exact absurd cleared kept
    · rcases default_of_file inherits templates_eq stored' isDefault' with
        ⟨cleared, _⟩ | ⟨_, old', before', wasDefault'⟩
      · exact absurd cleared kept
      · exact sound.one_default id old id' old' before before' wasDefault wasDefault'
  numbered id found stored := by
    rw [paths_eq] at stored
    by_cases same : id = template.id
    · subst same
      rw [OrderedMap.get?_insert_self] at stored
      cases stored
      exact numbered
    · rw [OrderedMap.get?_insert_of_ne _ same] at stored
      exact sound.numbered id found stored
  covered id found least stored asks := by
    rw [get?_file templates_eq] at stored
    rw [pathsOf, paths_eq]
    split at stored
    · next same =>
      cases stored
      rw [same, OrderedMap.get?_insert_self]
      exact covered least asks
    · next other =>
      obtain ⟨old, before, rfl⟩ := Option.map_eq_some_iff.1 stored
      rw [OrderedMap.get?_insert_of_ne _ other]
      exact sound.covered id old least before asks

/-! ## Making, editing and dropping -/

/-- The default of a storage provider is the template that has just been bound, or what it was. -/
theorem bound_of_bindProviders {template : String} {providers : List String} {provider id : String}
    (found : (tables.bindProviders template providers).providers.get? provider = some id) :
    id = template ∨ tables.providers.get? provider = some id := by
  rw [get?_bindProviders] at found
  split at found
  · exact .inl (Option.some.inj found).symm
  · exact .inr (Option.filter_eq_some_iff.1 found).1

theorem create (sound : tables.TemplatesSound) {template : Template} {paths : PathMap}
    {providers : List String} {result : Unit} (numbered : paths.Numbered)
    (enough : Pool.checkLeastPaths template.leastPaths paths = .ok ())
    (done : createTemplate template paths providers tables = .ok (result, after)) :
    after.TemplatesSound := by
  obtain ⟨_, _, templates_eq, paths_eq, providers_eq⟩ := createTemplate_eq_ok done
  refine sound.file _ template numbered ?_ .inl templates_eq paths_eq ?_
  · intro least asks
    rw [asks, Pool.checkLeastPaths] at enough
    by_contra short
    rw [if_pos (Nat.lt_of_not_le short)] at enough
    cases enough
  · intro provider id found
    rw [providers_eq] at found
    exact bound_of_bindProviders found

/-- The paths of an edited template: the new ones where there are any, and else the old ones. -/
theorem paths_of_edit (sound : tables.TemplatesSound) {id : String} {changes : TemplateChanges}
    {old : Template} {middle : Tables} (stored : tables.templates.get? id = some old)
    (numbered : ∀ paths, changes.paths = some paths → paths.Numbered)
    (placed : match changes.paths with
      | some paths => tables.changePaths id paths = .ok middle
      | none => middle = tables) :
    middle.templates = tables.templates ∧ middle.providers = tables.providers ∧
      ∃ paths : PathMap, paths.Numbered ∧ middle.paths = tables.paths.insert id paths := by
  split at placed
  · next paths given =>
    obtain ⟨paths_eq, providers_eq⟩ := changePaths_frame placed
    exact ⟨(changePaths_eq_ok placed).1, providers_eq, paths, numbered paths given, paths_eq⟩
  · subst placed
    obtain ⟨paths, found⟩ := (sound.exists_paths_iff id).2 ⟨old, stored⟩
    exact ⟨rfl, rfl, paths, sound.numbered id paths found, (OrderedMap.insert_of_get? found).symm⟩

theorem edit (sound : tables.TemplatesSound) {id : String} {changes : TemplateChanges}
    {result : Template} (numbered : ∀ paths, changes.paths = some paths → paths.Numbered)
    (done : editTemplate id changes tables = .ok (result, after)) : after.TemplatesSound := by
  obtain ⟨old, middle, stored, rfl, placed, enough, rfl⟩ := editTemplate_parts done
  obtain ⟨templates_eq, providers_eq, paths, numbered, paths_eq⟩ :=
    sound.paths_of_edit stored numbered placed
  have own : (edited changes old).id = id := sound.filed id old stored
  refine sound.file (changes.hostDefault = some true) (edited changes old) numbered
    ?_ ?_ ?_ ?_ ?_
  · intro least asks
    have least_le := enough least asks
    rwa [pathsOf, paths_eq, OrderedMap.get?_insert_self, Option.getD_some] at least_le
  · intro isDefault
    rw [own]
    cases asked : changes.hostDefault with
    | none =>
      rw [edited, asked] at isDefault
      exact .inr ⟨old, stored, isDefault⟩
    | some wanted =>
      rw [edited, asked] at isDefault
      exact .inl (congrArg some isDefault)
  · rw [own]
    dsimp only [clearHostDefault]
    split <;> rw [templates_eq]
  · rw [own]
    exact paths_eq
  · intro provider bound found
    rw [own, ← providers_eq]
    dsimp only at found
    split at found
    · exact bound_of_bindProviders found
    · exact .inr found

theorem delete (sound : tables.TemplatesSound) {id : String} {result : Unit}
    (done : deleteTemplate id tables = .ok (result, after)) : after.TemplatesSound := by
  obtain ⟨_, _, templates_eq, paths_eq, providers_eq⟩ := deleteTemplate_eq_ok done
  have kept {other : String} {template : Template}
      (stored : after.templates.get? other = some template) :
      other ≠ id ∧ tables.templates.get? other = some template := by
    rw [templates_eq] at stored
    by_cases same : other = id
    · rw [same, OrderedMap.get?_erase_self] at stored
      cases stored
    · rw [OrderedMap.get?_erase_of_ne _ same] at stored
      exact ⟨same, stored⟩
  constructor
  case filed =>
    intro other template stored
    exact sound.filed other template (kept stored).2
  case same_keys =>
    apply OrderedMap.keys_eq_iff.2
    intro probe
    rw [templates_eq, paths_eq, OrderedMap.contains_erase, OrderedMap.contains_erase,
      OrderedMap.keys_eq_iff.1 sound.same_keys probe]
  case bound =>
    intro provider other found
    rw [providers_eq, OrderedMap.get?_filter] at found
    obtain ⟨before, different⟩ := Option.filter_eq_some_iff.1 found
    rw [templates_eq, OrderedMap.get?_erase_of_ne _ (by simpa using different)]
    exact sound.bound provider other before
  case one_default =>
    intro first template second template' stored stored'
    exact sound.one_default first template second template' (kept stored).2 (kept stored').2
  case numbered =>
    intro other paths stored
    rw [paths_eq] at stored
    by_cases same : other = id
    · rw [same, OrderedMap.get?_erase_self] at stored
      cases stored
    · rw [OrderedMap.get?_erase_of_ne _ same] at stored
      exact sound.numbered other paths stored
  case covered =>
    intro other template least stored asks
    obtain ⟨different, before⟩ := kept stored
    rw [pathsOf, paths_eq, OrderedMap.get?_erase_of_ne _ different]
    exact sound.covered other template least before asks

end TemplatesSound

/-! ## Defaults -/

/-- The default of the host is the only template that is marked as such. -/
theorem TemplatesSound.hostDefault_eq_some_iff {tables : Tables} (sound : tables.TemplatesSound)
    {id : String} : tables.hostDefault = some id ↔
      ∃ template, tables.templates.get? id = some template ∧ template.hostDefault = true := by
  have marked {template : Template}
      (chosen : tables.templates.values.find? (·.hostDefault) = some template) :
      tables.templates.get? template.id = some template ∧ template.hostDefault = true := by
    obtain ⟨key, stored⟩ := OrderedMap.mem_values_iff.1 (List.mem_of_find?_eq_some chosen)
    rw [sound.filed key template stored]
    exact ⟨stored, List.find?_some (p := Template.hostDefault) chosen⟩
  rw [hostDefault, Option.map_eq_some_iff]
  constructor
  · rintro ⟨template, chosen, rfl⟩
    exact ⟨template, marked chosen⟩
  · rintro ⟨template, stored, isDefault⟩
    cases chosen : tables.templates.values.find? (·.hostDefault) with
    | none =>
      have member := OrderedMap.mem_values_iff.2 ⟨id, stored⟩
      exact absurd isDefault (List.find?_eq_none.1 chosen template member)
    | some other =>
      obtain ⟨stored', isDefault'⟩ := marked chosen
      exact ⟨other, rfl, sound.one_default _ other id template stored' stored isDefault' isDefault⟩

/-- With sound tables a default is a template that is there. -/
theorem TemplatesSound.exists_of_fallback {tables : Tables} (sound : tables.TemplatesSound)
    {provider : Option String} {id : String} (found : tables.fallback provider = some id) :
    ∃ template, tables.templates.get? id = some template := by
  rcases Option.or_eq_some_iff.1 found with bound | ⟨_, host⟩
  · obtain ⟨name, _, default⟩ := Option.bind_eq_some_iff.1 bound
    exact sound.bound name id default
  · exact (sound.hostDefault_eq_some_iff.1 host).imp fun _ => And.left

end Tables

namespace Pool

open Workflow

variable {around : Surroundings} {scene : Scene}

/-- Without a template that is named, the default is given, or its absence reported. -/
theorem resolve_default_ends {template : Option String} (unnamed : given template = none)
    (provider : Option String) :
    (resolve template provider).Ends around scene
      (fun id after => after = scene ∧ scene.tables.fallback (given provider) = some id)
      fun failure after => after = scene ∧ failure = .noDefaultTemplate (given provider) ∧
        scene.tables.fallback (given provider) = none := by
  rw [ends_resolve, Tables.resolved, unnamed]
  cases fallen : scene.tables.fallback (given provider) with
  | some id => exact ⟨rfl, rfl⟩
  | none => exact ⟨rfl, rfl, rfl⟩

end Pool

/-! ## Every state -/

theorem templatesSound_upkeep (expected : Observation → Prop) :
    UpkeepKeeps expected Tables.TemplatesSound := by
  refine upkeepKeeps_of_templates Tables.TemplatesSound.deviceless ?_ ?_ ?_
  · rintro template paths providers _ ⟨spec, read⟩ enough tables result after sound done
    exact sound.create (Ranges.numbered_of_expand read) enough done
  · intro id changes written tables result after sound done
    refine sound.edit (fun paths given => ?_) done
    obtain ⟨spec, read⟩ := written paths given
    exact Ranges.numbered_of_expand read
  · intro id tables result after sound done
    exact sound.delete done

theorem Scheduler.Reached.templatesSound {settings : OperatorSettings}
    {scheduler : Scheduler (Outcome Output)}
    (reached : scheduler.Reached (Volume.Dispatched settings)) :
    scheduler.store.tables.TemplatesSound :=
  reached.dispatched_tables Tables.templatesSound_empty (templatesSound_upkeep _)
    (usageChangesKeep_templates Tables.TemplatesSound.deviceless)

/-- **Template tables stay sound, and a default is never dangling.**  Whatever the operator has done
and is in the middle of, its template tables are sound, and asking for a template without naming one
gives a template that is there or reports that there is no default. -/
theorem template_tables_sound {settings : OperatorSettings}
    {scheduler : Scheduler (Outcome Output)}
    (reached : scheduler.Reached (Volume.Dispatched settings)) :
    scheduler.store.tables.TemplatesSound ∧
      ∀ (around : Surroundings) (template provider : Option String), Pool.given template = none →
        (Pool.resolve template provider).Ends around { tables := scheduler.store.tables }
          (fun id after => after.tables = scheduler.store.tables ∧
            ∃ found, scheduler.store.tables.templates.get? id = some found)
          fun failure after => after.tables = scheduler.store.tables ∧
            failure = .noDefaultTemplate (Pool.given provider) := by
  have sound := reached.templatesSound
  refine ⟨sound, fun around template provider unnamed => ?_⟩
  refine (Pool.resolve_default_ends unnamed provider).mono ?_ ?_
  · rintro id _ ⟨rfl, found⟩
    exact ⟨rfl, sound.exists_of_fallback found⟩
  · rintro failure _ ⟨rfl, reported, _⟩
    exact ⟨rfl, reported⟩

/-- The small pool after a template was made that is the default of the host and of one provider. -/
def Sample.defaulted : Scheduler (Outcome Output) :=
  (idle.start (Volume.dispatch settings (.createTemplate
    { devices := "1a00;1b00-1b03", hostDefault := true, providers := ["P"],
      leastPaths := some 2 })).run).2.settle 20

/-- With the template of the small pool there is a default for every provider. -/
theorem template_tables_sound_with_default :
    Sample.defaulted.store.tables.templates.keys = ["T"] ∧
    Sample.defaulted.store.tables.TemplatesSound ∧
    ∀ around, (Pool.resolve (some "") (some "Q")).Ends around
      { tables := Sample.defaulted.store.tables }
      (fun id after => after.tables = Sample.defaulted.store.tables ∧
        ∃ found, Sample.defaulted.store.tables.templates.get? id = some found)
      fun failure after => after.tables = Sample.defaulted.store.tables ∧
        failure = .noDefaultTemplate (some "Q") := by
  have reached : Sample.defaulted.Reached (Volume.Dispatched Sample.settings) :=
    Scheduler.Reached.settle (.started (.idle rfl rfl rfl) ⟨_, rfl⟩) 20
  obtain ⟨sound, resolves⟩ := template_tables_sound reached
  exact ⟨by decide +kernel, sound, fun around => resolves around (some "") (some "Q") rfl⟩

end FibrePool
