import FibrePool.Proofs.WireRecords
import FibrePool.Store.Snapshot

/-!
# Tables read back

Tables come back from the text of a snapshot (`Store.tablesOf_snapshotText`) when the numbers of
paths have 32 bits in them, and so have the fewest paths of the templates.  All numbers that a
snapshot gives have (`wordSized_of_tablesOf`).  No text is excepted: names, descriptions, owners and
providers may contain any character.
-/

namespace FibrePool

set_option autoImplicit false

open Json (Conveys Row)

/-! ## Templates -/

theorem Template.wordSized_of_ofJson {value : Json} {template : Template}
    (done : ofJson value = .ok template) : template.WordSized := by
  simp only [ofJson, ofRow, Outcome.bind_eq_ok, Outcome.pure_eq_ok] at done
  obtain ⟨row, -, id, -, name, -, description, -, hostDefault, -, leastPaths, found, createdAt, -,
    rfl⟩ := done
  rintro least given
  cases given
  obtain ⟨given, read⟩ := Row.exists_of_optional found
  exact (Json.asWord_eq_ok.1 read).2

/-! ## Paths and bindings -/

/-- The numbers of the paths have 32 bits. -/
def PathMap.WordSized (paths : PathMap) : Prop :=
  ∀ path ids, paths.get? path = some ids → path < 4294967296

theorem lt_of_pathNumber? {text : String} {number : Nat} (read : pathNumber? text = some number) :
    number < 4294967296 := by
  unfold pathNumber? at read
  split at read
  · split at read
    · next fits =>
      cases read
      exact fits.1
    · cases read
  · cases read

theorem DeviceSet.conveys (ids : DeviceSet) : Conveys ofJson ids.toJson ids := by
  have keys : Conveys (Json.asList DeviceId.ofJson) ids.toJson ids.keys :=
    .list fun id _ => id.conveys
  have entries : (ids.keys.map fun id => (id, ())) = ids.entries := by
    rw [OrderedMap.keys, List.map_map]
    exact List.map_id _
  refine keys.of_read fun done => ?_
  rw [ofJson, done, Json.ok_bind, entries, OrderedMap.ofList_entries]
  rfl

theorem PathMap.conveys {paths : PathMap} (word : paths.WordSized) :
    Conveys ofJson paths.toJson paths :=
  .map (fun entry listed =>
    pathNumber?_toString (word entry.1 entry.2 (OrderedMap.mem_entries_iff.1 listed)))
    fun entry _ => DeviceSet.conveys entry.2

theorem PathMap.wordSized_of_ofJson {value : Json} {paths : PathMap}
    (done : ofJson value = .ok paths) : paths.WordSized := by
  intro path ids found
  obtain ⟨⟨name, read⟩, -⟩ := Json.mem_of_asMap done (OrderedMap.mem_entries_iff.2 found)
  exact lt_of_pathNumber? read

/-! ## Tables -/

namespace Tables

/-- The numbers that templates and paths hold have 32 bits. -/
structure WordSized (tables : Tables) : Prop where
  templates : ∀ id template, tables.templates.get? id = some template → template.WordSized
  paths : ∀ id paths, tables.paths.get? id = some paths → paths.WordSized

variable {tables : Tables}

/-- The entries of tables. -/
def entries (tables : Tables) : List Json.Entry :=
  [⟨"fcps", Json.asMap deviceKey? DeviceRecord.ofJson,
      Json.ofMap DeviceId.text DeviceRecord.toJson tables.devices, tables.devices⟩,
    ⟨"templates", Json.asMap some Template.ofJson,
      Json.ofMap id Template.toJson tables.templates, tables.templates⟩,
    ⟨"template_paths", Json.asMap some PathMap.ofJson,
      Json.ofMap id PathMap.toJson tables.paths, tables.paths⟩,
    .ofTextMap "sp_bindings" tables.providers]

theorem conveys (words : tables.WordSized) : Conveys ofJson tables.toJson tables := by
  have devices : Conveys (Json.asMap deviceKey? DeviceRecord.ofJson)
      (Json.ofMap DeviceId.text DeviceRecord.toJson tables.devices) tables.devices :=
    .map (fun entry _ => entry.1.ofChars?_text) fun entry _ => entry.2.conveys
  have templates : Conveys (Json.asMap some Template.ofJson)
      (Json.ofMap id Template.toJson tables.templates) tables.templates :=
    .map (fun _ _ => rfl) fun entry listed =>
      Template.conveys (words.templates _ _ (OrderedMap.mem_entries_iff.1 listed))
  have paths : Conveys (Json.asMap some PathMap.ofJson)
      (Json.ofMap id PathMap.toJson tables.paths) tables.paths :=
    .map (fun _ _ => rfl) fun entry listed =>
      PathMap.conveys (words.paths _ _ (OrderedMap.mem_entries_iff.1 listed))
  refine .record fields tables.entries (by decide) (.refl _) ?_ fun read _ gives _ => ?_
  · simp [entries, devices, templates, paths]
  · simp [entries] at gives
    simp [ofJson, read, gives]

theorem wordSized_of_ofJson {value : Json} (done : ofJson value = .ok tables) :
    tables.WordSized := by
  simp only [ofJson, Outcome.bind_eq_ok, Outcome.pure_eq_ok] at done
  obtain ⟨row, -, devices, -, templates, found, paths, found', providers, -, rfl⟩ := done
  obtain ⟨_, templatesRead⟩ := Row.exists_of_required found
  obtain ⟨_, pathsRead⟩ := Row.exists_of_required found'
  constructor
  case templates =>
    intro id template held
    obtain ⟨-, part, read⟩ := Json.mem_of_asMap templatesRead (OrderedMap.mem_entries_iff.2 held)
    exact Template.wordSized_of_ofJson read
  case paths =>
    intro id paths held
    obtain ⟨-, part, read⟩ := Json.mem_of_asMap pathsRead (OrderedMap.mem_entries_iff.2 held)
    exact PathMap.wordSized_of_ofJson read

end Tables

/-! ## Snapshots -/

namespace Store

/-- **Tables come back from the text of their snapshot.** -/
theorem tablesOf_snapshotText {tables : Tables} (words : tables.WordSized) :
    tablesOf (snapshotText tables) = .ok tables := by
  rw [tablesOf, snapshotText, ((Tables.conveys words).ofText?_eq (.refl _)).2]

theorem wordSized_of_tablesOf {text : String} {tables : Tables}
    (read : tablesOf text = .ok tables) : tables.WordSized := by
  unfold tablesOf at read
  split at read
  · next found =>
    cases read
    obtain ⟨value, -, done⟩ := Option.map_eq_some_iff.1 found
    exact Tables.wordSized_of_ofJson done
  · cases read

end Store

end FibrePool
