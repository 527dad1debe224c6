import FibrePool.Proofs.Candidates
import FibrePool.Proofs.RecordSound
import Mathlib.Data.List.Find

/-!
# One device of each path

Devices are chosen path by path, and whichever way they are chosen, a path gives one of them at the
most (`Selection.onePerPath_chosen`).  That says nothing about the devices themselves: a device may
be on several paths.

The chosen devices are then taken one after the other.  To take a device twice is to take it once,
so what a reservation answers and what it leaves can be said of all chosen devices together
(`Tables.reserve_eq_ok`).
-/

namespace FibrePool

set_option autoImplicit false

/-! ## Picking from paths -/

namespace Selection

variable {candidates : List Candidates} {assigner template : String} {policy : SelectionPolicy}
  {records : List DeviceRecord}

/-- The records come from different paths, in the order of the paths. -/
def OnePerPath (candidates : List Candidates) (records : List DeviceRecord) : Prop :=
  ∃ covered, covered.Sublist candidates ∧
    List.Forall₂ (fun path record => record ∈ path.devices) covered records

theorem onePerPath_nil : OnePerPath candidates [] := ⟨[], List.nil_sublist _, .nil⟩

/-- What is picked of each path comes from different paths. -/
theorem onePerPath_filterMap {pick? : Candidates → Option DeviceRecord}
    (own : ∀ path record, pick? path = some record → record ∈ path.devices) :
    OnePerPath candidates (candidates.filterMap pick?) := by
  induction candidates with
  | nil => exact onePerPath_nil
  | cons path rest ih =>
    obtain ⟨covered, among, pairs⟩ := ih
    cases picked : pick? path with
    | none =>
      rw [List.filterMap_cons_none picked]
      exact ⟨covered, among.cons path, pairs⟩
    | some record =>
      rw [List.filterMap_cons_some picked]
      exact ⟨path :: covered, among.cons_cons path, .cons (own path record picked) pairs⟩

theorem onePerPath_freeAt? {place : Nat} (found : freeAt? candidates place = some records) :
    OnePerPath candidates records := by
  refine ⟨candidates, List.Sublist.refl _, (mapM_eq_some.1 found).imp ?_⟩
  intro path record here
  exact List.mem_of_getElem? (Option.filter_eq_some_iff.1 here).1

theorem onePerPath_picked : OnePerPath candidates (picked candidates policy) := by
  have first : OnePerPath candidates (firstFree candidates) :=
    onePerPath_filterMap fun _ _ => List.mem_of_find?_eq_some
  unfold picked
  split
  · cases paired : paired? candidates with
    | none => exact first
    | some records =>
      obtain ⟨place, _, found⟩ := List.exists_of_findSome?_eq_some paired
      exact onePerPath_freeAt? found
  · exact first

/-- **At most one device is chosen of each path.** -/
theorem onePerPath_chosen :
    OnePerPath candidates (chosen candidates assigner template policy) := by
  unfold chosen
  split
  · dsimp only
    split
    · exact onePerPath_nil
    · exact onePerPath_picked
  · exact onePerPath_filterMap fun _ _ => List.mem_of_find?_eq_some

theorem isReservedBy_of_mem {record : DeviceRecord}
    (member : record ∈ reserved candidates assigner template) :
    record.isReservedBy assigner template = true := by
  obtain ⟨path, _, found⟩ := List.mem_filterMap.1 member
  exact List.find?_some (p := (DeviceRecord.isReservedBy · assigner template)) found

theorem mapM_named_eq_ok {ids : List DeviceId} :
    records.mapM named = .ok ids ↔
      ids = records.map (·.id) ∧ ∀ record ∈ records, named record = .ok record.id := by
  induction records generalizing ids with
  | nil =>
    rw [List.mapM_nil, Outcome.pure_eq_ok]
    simp [eq_comm]
  | cons record rest ih =>
    simp only [List.mapM_cons, Outcome.bind_eq_ok, Outcome.pure_eq_ok, ih, List.forall_mem_cons,
      List.map_cons]
    constructor
    · rintro ⟨id, own, _, ⟨rfl, others⟩, rfl⟩
      rw [named_eq_ok own]
      exact ⟨rfl, own, others⟩
    · rintro ⟨rfl, own, others⟩
      exact ⟨_, own, _, ⟨rfl, others⟩, rfl⟩

end Selection

/-! ## Taking devices -/

/-- The record of a device that the assigner takes under the template. -/
def DeviceRecord.takenBy (record : DeviceRecord) (assigner template : String) : DeviceRecord :=
  { record with reserved := true, assigner, template }

namespace DeviceRecord

variable {record : DeviceRecord} {assigner template : String}

@[simp] theorem takenBy_id : (record.takenBy assigner template).id = record.id := rfl

@[simp] theorem takenBy_takenBy :
    (record.takenBy assigner template).takenBy assigner template =
      record.takenBy assigner template := rfl

@[simp] theorem isReservedBy_takenBy :
    (record.takenBy assigner template).isReservedBy assigner template = true := by
  simp [isReservedBy, isHeldBy, isInUse, takenBy]

@[simp] theorem named_takenBy :
    Selection.named (record.takenBy assigner template) = Selection.named record := rfl

/-- Taking what is reserved already changes nothing. -/
theorem takenBy_of_isReservedBy (reserved : record.isReservedBy assigner template = true) :
    record.takenBy assigner template = record := by
  obtain ⟨taken, held⟩ := (Bool.and_eq_true _ _).mp reserved
  obtain ⟨rfl, rfl, _⟩ := isHeldBy_iff.1 held
  rw [takenBy, ← taken]

end DeviceRecord

namespace Tables

variable {tables after : Tables} {assigner template : String} {ids : List DeviceId}
  {results : List DeviceRecord}

/-- The record of each device after some of them were taken. -/
theorem at?_of_reserveAll (done : reserveAll assigner template ids tables = .ok (results, after))
    (id : DeviceId) :
    after.at? id = if id ∈ ids then (tables.at? id).map (·.takenBy assigner template)
      else tables.at? id := by
  induction ids generalizing tables results with
  | nil =>
    cases done
    exact (if_neg List.not_mem_nil).symm
  | cons first rest ih =>
    obtain ⟨result, middle, others, one, all, rfl⟩ := reserveAll_cons_eq_ok.1 done
    obtain ⟨record, stored, _, rfl, rfl⟩ := reserveOne_eq_ok.1 one
    rw [ih all]
    by_cases same : id = first
    · subst same
      rw [putRecord_at?_self, stored, if_pos List.mem_cons_self]
      split <;> rfl
    · rw [putRecord_at?_of_ne tables same]
      simp only [List.mem_cons, same, false_or]

/-- What is given are the records of the devices, taken. -/
theorem results_of_reserveAll
    (done : reserveAll assigner template ids tables = .ok (results, after)) :
    results = ids.filterMap fun id => (tables.at? id).map (·.takenBy assigner template) := by
  induction ids generalizing tables results with
  | nil =>
    cases done
    rfl
  | cons first rest ih =>
    obtain ⟨result, middle, others, one, all, rfl⟩ := reserveAll_cons_eq_ok.1 done
    obtain ⟨record, stored, _, rfl, rfl⟩ := reserveOne_eq_ok.1 one
    rw [List.filterMap_cons_some (by rw [stored]; rfl), ih all]
    refine congrArg _ (List.filterMap_congr fun id _ => ?_)
    by_cases same : id = first
    · subst same
      rw [putRecord_at?_self, stored]
      rfl
    · rw [putRecord_at?_of_ne tables same]

/-- A candidate is stored under its own id, which is that of a device of the template. -/
theorem stored_of_isCandidate (filed : tables.RecordsFiled) {record : DeviceRecord}
    (candidate : Selection.IsCandidate (tables.candidates template) record) :
    record.id ∈ tables.devicesOf template ∧ tables.at? record.id = some record := by
  obtain ⟨id, listed, stored⟩ := exists_of_isCandidate candidate
  rw [filed id record stored]
  exact ⟨listed, stored⟩

/-- The devices that a reservation chooses. -/
def choice (tables : Tables) (assigner template : String) (found : Template) (pairing : Bool) :
    List DeviceRecord :=
  Selection.chosen (tables.candidates template) assigner template
    { sameIndexPairing := pairing
      leastPaths := found.leastPathsOf (tables.candidates template).length }

/-- **What a reservation does**: it takes the chosen devices, which all have their port names, and
answers with their records. -/
theorem reserve_eq_ok {found : Template} {pairing : Bool} (filed : tables.RecordsFiled)
    (done : reserve assigner found template pairing tables = .ok (results, after)) :
    (∀ record ∈ tables.choice assigner template found pairing,
        Selection.named record = .ok record.id) ∧
      results = (tables.choice assigner template found pairing).map
        (·.takenBy assigner template) ∧
      ∀ id, after.at? id =
        if id ∈ (tables.choice assigner template found pairing).map (·.id) then
          (tables.at? id).map (·.takenBy assigner template)
        else tables.at? id := by
  obtain ⟨_, ids, selected, all⟩ := reserveWith_eq_ok.1 done
  obtain ⟨rfl, named⟩ := Selection.mapM_named_eq_ok.1 selected
  refine ⟨named, ?_, at?_of_reserveAll all⟩
  rw [results_of_reserveAll all, List.filterMap_map, ← List.filterMap_eq_map]
  refine List.filterMap_congr fun record member => ?_
  have candidate := Selection.isCandidate_of_chosen member
  rw [Function.comp_apply, (stored_of_isCandidate filed candidate).2]
  rfl

end Tables

end FibrePool
