import FibrePool.Pool.UsageChange
import FibrePool.Proofs.Lookup
import FibrePool.Proofs.RecordStep
import Mathlib.Data.List.Forall2

/-!
# Where chosen devices come from

A reservation chooses among the records that are stored for the devices of a template.  Every way of
choosing only picks records of its candidates, so what is reserved in the end is a device of one of
the paths of the template (`Selection.isCandidate_of_select`, `Tables.exists_of_isCandidate`).
-/

namespace FibrePool

set_option autoImplicit false

/-! ## Results of a step for each item -/

section Steps

variable {ε α β : Type}

/-- Steps that all succeed give one result for each item, in order. -/
theorem Outcome.mapM_eq_ok {items : List α} {step : α → Except ε β} {results : List β} :
    items.mapM step = .ok results ↔
      List.Forall₂ (fun item result => step item = .ok result) items results := by
  induction items generalizing results with
  | nil =>
    rw [List.mapM_nil, Outcome.pure_eq_ok, List.forall₂_nil_left_iff, eq_comm]
  | cons item rest ih =>
    simp only [List.mapM_cons, Outcome.bind_eq_ok, Outcome.pure_eq_ok, ih,
      List.forall₂_cons_left_iff]
    constructor
    · rintro ⟨result, first, others, later, rfl⟩
      exact ⟨result, others, first, later, rfl⟩
    · rintro ⟨result, others, first, later, rfl⟩
      exact ⟨result, first, others, later, rfl⟩

/-- Choices that all succeed give one result for each item, in order. -/
theorem mapM_eq_some {items : List α} {choice : α → Option β} {results : List β} :
    items.mapM choice = some results ↔
      List.Forall₂ (fun item result => choice item = some result) items results := by
  induction items generalizing results with
  | nil => simp [eq_comm]
  | cons item rest ih =>
    simp only [List.mapM_cons, Option.bind_eq_bind, Option.bind_eq_some_iff, Option.pure_def,
      Option.some.injEq, ih, List.forall₂_cons_left_iff]
    constructor
    · rintro ⟨result, first, others, later, rfl⟩
      exact ⟨result, others, first, later, rfl⟩
    · rintro ⟨result, others, first, later, rfl⟩
      exact ⟨result, first, others, later, rfl⟩

/-- Each result comes from an item. -/
theorem exists_mem_of_forall₂.{u, v} {α : Type u} {β : Type v} {related : α → β → Prop}
    {items : List α} {results : List β}
    (pairs : List.Forall₂ related items results) {result : β} (member : result ∈ results) :
    ∃ item ∈ items, related item result := by
  induction pairs with
  | nil => cases member
  | cons first _ ih =>
    rcases List.mem_cons.1 member with rfl | later
    · exact ⟨_, List.mem_cons_self, first⟩
    · obtain ⟨item, listed, found⟩ := ih later
      exact ⟨item, List.mem_cons_of_mem _ listed, found⟩

end Steps

/-! ## Choices -/

namespace Selection

variable {candidates : List Candidates} {assigner template : String} {policy : SelectionPolicy}
  {record : DeviceRecord}

/-- The record is one of the candidates. -/
def IsCandidate (candidates : List Candidates) (record : DeviceRecord) : Prop :=
  ∃ path ∈ candidates, record ∈ path.devices

theorem isCandidate_of_find? {condition : DeviceRecord → Bool}
    (member : record ∈ candidates.filterMap fun path => path.devices.find? condition) :
    IsCandidate candidates record := by
  obtain ⟨path, listed, found⟩ := List.mem_filterMap.1 member
  exact ⟨path, listed, List.mem_of_find?_eq_some found⟩

theorem isCandidate_of_freeAt? {place : Nat} {records : List DeviceRecord}
    (found : freeAt? candidates place = some records) (member : record ∈ records) :
    IsCandidate candidates record := by
  obtain ⟨path, listed, here⟩ := exists_mem_of_forall₂ (mapM_eq_some.1 found) member
  have placed := (Option.filter_eq_some_iff.1 here).1
  exact ⟨path, listed, List.mem_of_getElem? placed⟩

theorem isCandidate_of_picked (member : record ∈ picked candidates policy) :
    IsCandidate candidates record := by
  unfold picked at member
  split at member
  · cases paired : paired? candidates with
    | none =>
      rw [paired, Option.getD_none] at member
      exact isCandidate_of_find? member
    | some records =>
      rw [paired, Option.getD_some] at member
      obtain ⟨place, _, found⟩ := List.exists_of_findSome?_eq_some paired
      exact isCandidate_of_freeAt? found member
  · exact isCandidate_of_find? member

theorem isCandidate_of_chosen (member : record ∈ chosen candidates assigner template policy) :
    IsCandidate candidates record := by
  unfold chosen at member
  split at member
  · dsimp only at member
    split at member
    · cases member
    · exact isCandidate_of_picked member
  · exact isCandidate_of_find? member

theorem named_eq_ok {id : DeviceId} (done : named record = .ok id) : record.id = id := by
  unfold named at done
  split at done
  · cases done
  · split at done
    · cases done
    · exact Except.ok.inj done

/-- **Only candidates are chosen.** -/
theorem isCandidate_of_select {ids : List DeviceId} {id : DeviceId}
    (done : select candidates assigner template policy = .ok ids) (member : id ∈ ids) :
    ∃ record, IsCandidate candidates record ∧ record.id = id := by
  obtain ⟨record, listed, named⟩ := exists_mem_of_forall₂ (Outcome.mapM_eq_ok.1 done) member
  exact ⟨record, isCandidate_of_chosen listed, named_eq_ok named⟩

end Selection

/-! ## The devices of a template -/

namespace Tables

variable {tables : Tables} {template : String}

theorem mem_recordsOf {ids : List DeviceId} {record : DeviceRecord} :
    record ∈ tables.recordsOf ids ↔ ∃ id ∈ ids, tables.at? id = some record :=
  List.mem_filterMap

theorem mem_devicesOf {id : DeviceId} : id ∈ tables.devicesOf template ↔
    ∃ path ids, (tables.pathsOf template).get? path = some ids ∧ ids.contains id = true := by
  unfold devicesOf
  simp only [List.mem_flatMap, OrderedMap.mem_values_iff, OrderedMap.mem_keys_iff]
  constructor
  · rintro ⟨ids, ⟨path, filed⟩, member⟩
    exact ⟨path, ids, filed, member⟩
  · rintro ⟨path, ids, filed, member⟩
    exact ⟨ids, ⟨path, filed⟩, member⟩

/-- Looked for are the devices on the paths of the template that are in use under it. -/
theorem mem_devicesInUse {id : DeviceId} : id ∈ tables.devicesInUse template ↔
    ∃ key ∈ tables.devicesOf template, ∃ record, tables.at? key = some record ∧
      record.template = template ∧ record.isInUse = true ∧ record.id = id := by
  simp only [devicesInUse, List.mem_map, List.mem_filter, mem_recordsOf, Bool.and_eq_true,
    beq_iff_eq]
  constructor
  · rintro ⟨record, ⟨⟨key, listed, stored⟩, under, inUse⟩, own⟩
    exact ⟨key, listed, record, stored, under, inUse, own⟩
  · rintro ⟨key, listed, record, stored, under, inUse, own⟩
    exact ⟨record, ⟨⟨key, listed, stored⟩, under, inUse⟩, own⟩

theorem exists_of_isCandidate {record : DeviceRecord}
    (candidate : Selection.IsCandidate (tables.candidates template) record) :
    ∃ id ∈ tables.devicesOf template, tables.at? id = some record := by
  obtain ⟨path, listed, member⟩ := candidate
  obtain ⟨⟨number, ids⟩, filed, rfl⟩ := List.mem_map.1 listed
  obtain ⟨id, named, stored⟩ := mem_recordsOf.1 member
  refine ⟨id, mem_devicesOf.2 ⟨number, ids, ?_, ?_⟩, stored⟩
  · exact OrderedMap.mem_entries_iff.1 filed
  · exact OrderedMap.mem_keys_iff.1 named

theorem isCandidate_of_mem_devicesOf {id : DeviceId} {record : DeviceRecord}
    (listed : id ∈ tables.devicesOf template) (stored : tables.at? id = some record) :
    Selection.IsCandidate (tables.candidates template) record := by
  obtain ⟨number, ids, filed, member⟩ := mem_devicesOf.1 listed
  refine ⟨⟨number, tables.recordsOf ids.keys⟩, List.mem_map.2 ⟨(number, ids), ?_, rfl⟩, ?_⟩
  · exact OrderedMap.mem_entries_iff.2 filed
  · exact mem_recordsOf.2 ⟨id, OrderedMap.mem_keys_iff.2 member, stored⟩

end Tables

end FibrePool
