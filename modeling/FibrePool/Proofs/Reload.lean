import FibrePool.Proofs.Keeping
import FibrePool.Proofs.Saving
import FibrePool.Proofs.TablesCodec
import FibrePool.Proofs.TemplateTables

/-!
# Reopened stores

The operations of a store keep the numbers in its tables to 32 bits, whatever the functions do that
they are given (`StoreOperation.keeps`).  So the tables come back from the text that the last
operation has saved, and a store that is opened on the file is the store that wrote it
(`Store.reopened_store_eq`).
-/

namespace FibrePool

set_option autoImplicit false

/-! ## Operations -/

/-- The operations of a store that change its tables, by what they give. -/
inductive StoreOperation : Type → Type where
  | setUsage (id : DeviceId) (usage : Usage) : StoreOperation Unit
  | upsert (devices : List LiveDevice) : StoreOperation Unit
  | reconcile (devices : List LiveDevice) : StoreOperation ReconcileOutcome
  | deleteDevices (ids : List DeviceId) : StoreOperation Unit
  | modifyRecord (id : DeviceId) (change : DeviceRecord → Outcome DeviceRecord) :
    StoreOperation DeviceRecord
  | modifyWhere (condition : DeviceRecord → Bool) (change : DeviceRecord → DeviceRecord) :
    StoreOperation (List DeviceRecord)
  | reserveWith (assigner template : String)
    (select : List Candidates → Outcome (List DeviceId)) : StoreOperation (List DeviceRecord)
  | createTemplate (template : Template) (paths : PathMap) (providers : List String) :
    StoreOperation Unit
  | editTemplate (id : String) (changes : TemplateChanges) : StoreOperation Template
  | deleteTemplate (id : String) : StoreOperation Unit

namespace StoreOperation

variable {α : Type}

/-- The transaction of an operation. -/
def run : StoreOperation α → Transaction α
  | .setUsage id usage => Tables.setUsage id usage
  | .upsert devices => Tables.upsert devices
  | .reconcile devices => Tables.reconcile devices
  | .deleteDevices ids => Tables.deleteDevices ids
  | .modifyRecord id change => Tables.modifyRecord id change
  | .modifyWhere condition change => Tables.modifyWhere condition change
  | .reserveWith assigner template select => Tables.reserveWith assigner template select
  | .createTemplate template paths providers => Tables.createTemplate template paths providers
  | .editTemplate id changes => Tables.editTemplate id changes
  | .deleteTemplate id => Tables.deleteTemplate id

/-- The numbers of paths that an operation is given have 32 bits. -/
def WordSized : StoreOperation α → Prop
  | .createTemplate template paths _ => template.WordSized ∧ paths.WordSized
  | .editTemplate _ changes =>
    (∀ least ∈ changes.leastPaths, least < 4294967296) ∧
      ∀ paths ∈ changes.paths, PathMap.WordSized paths
  | _ => True

end StoreOperation

/-! ## Numbers of 32 bits -/

theorem OrderedMap.get?_of_erase {K V : Type} [Ord K] [Std.TransOrd K] [Std.LawfulEqOrd K]
    {map : OrderedMap K V} {key probe : K} {value : V}
    (found : (map.erase key).get? probe = some value) : map.get? probe = some value := by
  by_cases same : probe = key
  · rw [same, get?_erase_self] at found
    cases found
  · rwa [get?_erase_of_ne _ same] at found

namespace Tables

variable {tables after : Tables}

theorem wordSized_empty : WordSized ∅ where
  templates _ _ found := by cases found
  paths _ _ found := by cases found

namespace WordSized

/-- A change of records leaves the templates and their paths. -/
theorem of_onlyDevices (words : tables.WordSized)
    (only : ∃ devices, after = { tables with devices }) : after.WordSized := by
  obtain ⟨_, rfl⟩ := only
  exact ⟨words.templates, words.paths⟩

/-- The templates after one was filed. -/
theorem templates_of_file (words : tables.WordSized) {clears : Prop} [Decidable clears]
    {filed : String} {template : Template} (word : template.WordSized)
    (same : after.templates = ((if clears then tables.clearHostDefault
      else tables).templates.insert filed template)) (id : String) (found : Template)
    (stored : after.templates.get? id = some found) : found.WordSized := by
  rw [get?_file same] at stored
  split at stored
  · cases stored
    exact word
  · obtain ⟨old, before, rfl⟩ := Option.map_eq_some_iff.1 stored
    exact words.templates id old before

/-- The paths after those of a template were filed. -/
theorem paths_of_insert (words : tables.WordSized) {filed : String} {paths : PathMap}
    (word : paths.WordSized) (id : String) (found : PathMap)
    (stored : (tables.paths.insert filed paths).get? id = some found) : found.WordSized := by
  by_cases same : id = filed
  · rw [same, OrderedMap.get?_insert_self] at stored
    cases stored
    exact word
  · rw [OrderedMap.get?_insert_of_ne _ same] at stored
    exact words.paths id found stored

theorem changePaths (words : tables.WordSized) {template : String} {paths : PathMap}
    (word : paths.WordSized) (done : tables.changePaths template paths = .ok after) :
    after.WordSized := by
  unfold Tables.changePaths at done
  split at done
  · cases done
    exact words
  · split at done
    · cases done
      exact ⟨words.templates, words.paths_of_insert word⟩
    · cases done

end WordSized

end Tables

namespace StoreOperation

variable {α : Type}

/-- **Every operation keeps the numbers in the tables to 32 bits.** -/
theorem keeps (operation : StoreOperation α) (typed : operation.WordSized) :
    operation.run.Keeps Tables.WordSized := by
  intro tables result after words done
  cases operation with
  | setUsage id usage =>
    obtain ⟨_, record, _, rfl⟩ := Tables.setUsage_eq_ok.1 done
    exact words.of_onlyDevices ⟨_, rfl⟩
  | upsert devices =>
    cases done
    exact words.of_onlyDevices (Tables.upsertAll_onlyDevices tables devices)
  | reconcile devices => exact words.of_onlyDevices (Tables.onlyDevices_reconcile devices done)
  | deleteDevices ids =>
    cases done
    exact words.of_onlyDevices ⟨_, rfl⟩
  | modifyRecord id change =>
    obtain ⟨_, _, _, _, rfl⟩ := Tables.modifyRecord_eq_ok.1 done
    exact words.of_onlyDevices ⟨_, rfl⟩
  | modifyWhere condition change =>
    obtain ⟨_, rfl⟩ := Tables.modifyWhere_eq_ok done
    exact words.of_onlyDevices ⟨_, rfl⟩
  | reserveWith assigner template select =>
    obtain ⟨_, chosen, _, all⟩ := Tables.reserveWith_eq_ok.1 done
    exact words.of_onlyDevices (Tables.onlyDevices_reserveAll assigner template chosen all)
  | createTemplate template paths providers =>
    obtain ⟨_, _, templates, filed, _⟩ := Tables.createTemplate_eq_ok done
    refine ⟨words.templates_of_file typed.1 templates, ?_⟩
    rw [filed]
    exact words.paths_of_insert typed.2
  | editTemplate id changes =>
    obtain ⟨old, middle, stored, rfl, placed, _, rfl⟩ := Tables.editTemplate_parts done
    have between : middle.WordSized := by
      split at placed
      · next paths given => exact words.changePaths (typed.2 paths given) placed
      · exact placed ▸ words
    have word : (Tables.edited changes old).WordSized := by
      intro least given
      cases asked : changes.leastPaths with
      | some other =>
        rw [Tables.edited, asked] at given
        cases given
        exact typed.1 least asked
      | none =>
        rw [Tables.edited, asked] at given
        exact words.templates id old stored least given
    exact ⟨between.templates_of_file word rfl, between.paths⟩
  | deleteTemplate id =>
    obtain ⟨_, _, templates, paths, _⟩ := Tables.deleteTemplate_eq_ok done
    refine ⟨fun other template stored => ?_, fun other held stored => ?_⟩
    · rw [templates] at stored
      exact words.templates other template (OrderedMap.get?_of_erase stored)
    · rw [paths] at stored
      exact words.paths other held (OrderedMap.get?_of_erase stored)

end StoreOperation

/-! ## Reopening -/

theorem FileSystem.isThere_of_read {files : FileSystem} {path : FilePath} {content : String}
    (read : files.read path = .ok content) : files.isThere path = true := by
  obtain ⟨entry, found, -⟩ := Outcome.bind_eq_ok.1 read
  rw [isThere, found]

namespace Store

/-- What a store with a snapshot goes through when every save succeeds, with the number of its
operations that were saved: it is opened, operations are saved or refused before anything is
written, and others may change files in a way that leaves the snapshot as it reads. -/
inductive Operated (path : FilePath) : Nat → Store → FileSystem → Prop where
  | opened {store : Store} {files : FileSystem} (opens : ofSnapshot files path = .ok store) :
    Operated path 0 store files
  | elsewhere {count : Nat} {store : Store} {files changed : FileSystem}
    (before : Operated path count store files) (same : changed.read path = files.read path) :
    Operated path count store changed
  | saved {α : Type} {count : Nat} {store after : Store} {files saved : FileSystem} {result : α}
    (before : Operated path count store files) (operation : StoreOperation α)
    (words : operation.WordSized)
    (done : store.transact files none operation.run = (.ok result, after, saved)) :
    Operated path (count + 1) after saved
  | refused {α : Type} {count : Nat} {store after : Store} {files left : FileSystem}
    {failure : Failure} (before : Operated path count store files) (operation : StoreOperation α)
    (unwritten : operation.run store.tables = .error failure)
    (failed : store.transact files none operation.run = (.error failure, after, left)) :
    Operated path count after left

variable {path : FilePath} {count : Nat} {store : Store} {files : FileSystem}

/-- The tables of a store after a transaction are those that it has made. -/
theorem run_of_transact {α : Type} {after : Store} {saved : FileSystem} {fault : Option SaveFault}
    {change : Transaction α} {result : α}
    (done : store.transact files fault change = (.ok result, after, saved)) :
    change store.tables = .ok (result, after.tables) := by
  unfold transact at done
  split at done
  · cases done
  · next found =>
    rw [found]
    split at done
    · cases done
      rfl
    · split at done
      · cases done
        rfl
      · cases done

theorem wordSized_of_ofSnapshot (opens : ofSnapshot files path = .ok store) :
    store.tables.WordSized := by
  unfold ofSnapshot at opens
  split at opens
  · split at opens
    · obtain ⟨tables, read, same⟩ := Outcome.bind_eq_ok.1 opens
      cases same
      exact wordSized_of_tablesOf read
    · cases opens
  · cases opens
    exact Tables.wordSized_empty

/-- What the snapshot of a store holds after its operations. -/
theorem Operated.read_eq (operated : Operated path count store files) :
    store.snapshot = some path ∧ store.tables.WordSized ∧
      (0 < count → files.read path = .ok (snapshotText store.tables)) := by
  induction operated with
  | opened opens =>
    exact ⟨snapshot_of_ofSnapshot opens, wordSized_of_ofSnapshot opens, fun none => nomatch none⟩
  | elsewhere _ same ih => exact ⟨ih.1, ih.2.1, fun some => same.trans (ih.2.2 some)⟩
  | saved _ operation words done ih =>
    obtain ⟨backed, saves⟩ := transact_eq_ok ih.1 done
    exact ⟨backed, operation.keeps words ih.2.1 (run_of_transact done),
      fun _ => (FileSystem.read_of_save_ok saves).2⟩
  | refused _ operation unwritten failed ih =>
    rw [transact, unwritten] at failed
    cases failed
    exact ih

/-- **A store that is opened on a saved snapshot is the store that saved it.** -/
theorem reopened_store_eq (operated : Operated path count store files) (saved : 0 < count) :
    ofSnapshot files path = .ok store := by
  obtain ⟨backed, words, reads⟩ := operated.read_eq
  have read := reads saved
  rw [ofSnapshot, if_pos (FileSystem.isThere_of_read read), read]
  dsimp only
  rw [tablesOf_snapshotText words, ← backed]
  rfl

/-- A template that was made in a leap second, with a name of quotes, signs and line ends. -/
def Sample.template : Template where
  id := "t"
  name := "\"two\" \\ paths\r\n\u00e9"
  description := ""
  hostDefault := true
  leastPaths := some 1
  createdAt := ⟨⟨2016, 12, 31, 23, 59, 59, 1500000000⟩, by decide⟩

/-- The making of the template with one device on one path. -/
def Sample.creation : StoreOperation Unit :=
  .createTemplate template (.ofList [(0, .ofList [(.ofNat 0x1a00, ())])]) ["sp"]

/-- What comes of it on a store with a snapshot that is not there yet. -/
def Sample.created : Outcome Unit × Store × FileSystem :=
  transact { snapshot := some (snapshot "fcp.json") } vacant none creation.run

/-- A template comes back from the file that was written when it was made. -/
theorem reopened_store_eq_after_creation :
    Operated (Sample.snapshot "fcp.json") 1 Sample.created.2.1 Sample.created.2.2 ∧ 0 < 1 ∧
      Sample.created.2.1.tables.templates.get? "t" = some Sample.template ∧
      ofSnapshot Sample.created.2.2 (Sample.snapshot "fcp.json") = .ok Sample.created.2.1 := by
  have opens : ofSnapshot Sample.vacant (Sample.snapshot "fcp.json") =
      .ok { snapshot := some (Sample.snapshot "fcp.json") } := by
    decide
  have words : Sample.creation.WordSized := by
    refine ⟨fun least given => ?_, fun path ids found => ?_⟩
    · cases given
      decide
    · cases List.mem_singleton.1 (OrderedMap.mem_entries_iff.2 found)
      decide
  have done : Sample.created.1 = .ok () := by decide
  have operated := Operated.saved (.opened opens) Sample.creation words (Prod.ext done rfl)
  exact ⟨operated, Nat.one_pos, by decide, reopened_store_eq operated Nat.one_pos⟩

end Store

end FibrePool
