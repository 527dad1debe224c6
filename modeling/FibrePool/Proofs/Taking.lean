import FibrePool.Proofs.Choosing
import FibrePool.Proofs.Orders
import FibrePool.Proofs.Redundancy
import FibrePool.Proofs.TemplateTables

/-!
# What a reservation may change

The chosen devices are looked at once more while they are taken, one after the other, on tables that
change with each of them.  The second look never refuses anything: a device is only chosen when it
is stored, under its own number, and free or reserved for the assigner, and a device that has just
been taken for one path is held by the assigner when it comes up again for another one
(`Tables.exists_reserveAll`).

So the only thing that can be wrong with a reservation is a port name that a chosen device lacks,
and a reservation that is granted changes the devices that it answers with and nothing else
(`Scheduler.Reached.transact_reserveBy`).
-/

namespace FibrePool

set_option autoImplicit false

/-! ## Devices that can be taken -/

/-- The device can be taken by the assigner under the template. -/
def DeviceRecord.IsAvailable (assigner template : String) (record : DeviceRecord) : Prop :=
  record.isFree = true ∨ record.isHeldBy assigner template = true

namespace Selection

variable {candidates : List Candidates} {assigner template : String} {policy : SelectionPolicy}
  {records : List DeviceRecord} {record : DeviceRecord}

theorem FirstOfEach.satisfies {condition : DeviceRecord → Prop}
    (first : FirstOfEach condition candidates records) (member : record ∈ records) :
    condition record := by
  induction first with
  | nil => cases member
  | found first _ ih =>
    obtain ⟨_, _, _, here, _⟩ := first
    rcases List.mem_cons.1 member with rfl | later
    · exact here
    · exact ih later
  | lacking _ _ ih => exact ih member

theorem Picks.free {pairing : Bool} (picks : Picks candidates pairing records)
    (member : record ∈ records) : record.Free := by
  cases picks with
  | paired free _ =>
    obtain ⟨_, _, _, here⟩ := exists_mem_of_forall₂ free member
    exact here
  | unpaired _ first => exact first.satisfies member
  | separate first => exact first.satisfies member

/-- Chosen is what the assigner has reserved already or what is free. -/
theorem Chooses.available (chooses : Chooses candidates assigner template policy records)
    (member : record ∈ records) : record.IsAvailable assigner template := by
  cases chooses with
  | kept _ first =>
    have kept := DeviceRecord.keptBy_iff.1 (first.satisfies member)
    exact .inr ((Bool.and_eq_true _ _).mp kept).2
  | fresh _ picked _ _ => exact .inl (DeviceRecord.free_iff.1 (picked.free member))
  | dropped _ _ _ => cases member

theorem named_eq_error {failure : Failure} (lacks : named record = .error failure) :
    ∃ name ∈ ["NPIV WWPN", "physical WWPN"], failure = missingName record name := by
  unfold named at lacks
  split at lacks
  · cases lacks
    exact ⟨"NPIV WWPN", List.mem_cons_self, rfl⟩
  · split at lacks
    · cases lacks
      exact ⟨"physical WWPN", List.mem_cons_of_mem _ List.mem_cons_self, rfl⟩
    · cases lacks

end Selection

/-- Steps fail when one of them does. -/
theorem Outcome.exists_of_mapM_eq_error {ε α β : Type} {items : List α} {step : α → Except ε β}
    {failure : ε} (failed : items.mapM step = .error failure) :
    ∃ item ∈ items, step item = .error failure := by
  induction items with
  | nil => cases failed
  | cons item rest ih =>
    rw [List.mapM_cons] at failed
    cases first : step item with
    | error other =>
      rw [first] at failed
      cases failed
      exact ⟨item, List.mem_cons_self, first⟩
    | ok result =>
      rw [first] at failed
      cases others : rest.mapM step with
      | error other =>
        rw [others] at failed
        cases failed
        obtain ⟨later, listed, lacks⟩ := ih others
        exact ⟨later, List.mem_cons_of_mem _ listed, lacks⟩
      | ok results =>
        rw [others] at failed
        cases failed

namespace Tables

variable {tables after : Tables} {assigner template : String}

/-- Devices that are there and can be taken can be taken one after the other, some of them more than
once. -/
theorem exists_reserveAll {ids : List DeviceId}
    (ready : ∀ id ∈ ids, ∃ record, tables.at? id = some record ∧
      record.IsAvailable assigner template) :
    ∃ results after, reserveAll assigner template ids tables = .ok (results, after) := by
  induction ids generalizing tables with
  | nil => exact ⟨[], tables, rfl⟩
  | cons id rest ih =>
    obtain ⟨⟨record, stored, available⟩, others⟩ := List.forall_mem_cons.1 ready
    have one : reserveOne assigner template id tables =
        .ok (record.takenBy assigner template,
          tables.putRecord id (record.takenBy assigner template)) :=
      reserveOne_eq_ok.2 ⟨record, stored, available.symm, rfl, rfl⟩
    have still : ∀ other ∈ rest, ∃ now,
        (tables.putRecord id (record.takenBy assigner template)).at? other = some now ∧
          now.IsAvailable assigner template := by
      intro other listed
      by_cases same : other = id
      · -- It was taken a moment ago, so it is held by now.
        have held : (record.takenBy assigner template).isReservedBy assigner template = true :=
          DeviceRecord.isReservedBy_takenBy
        rw [same, putRecord_at?_self]
        exact ⟨_, rfl, .inr ((Bool.and_eq_true _ _).mp held).2⟩
      · rw [putRecord_at?_of_ne tables same]
        exact others other listed
    obtain ⟨results, after, all⟩ := ih still
    exact ⟨_, after, reserveAll_cons_eq_ok.2 ⟨_, _, results, one, all, rfl⟩⟩

/-! ## Granted reservations -/

/-- The tables after a reservation that gives the assigner records under a template: their devices
are of the template, were free or held by the assigner already, and are reserved now.  Nothing else
is another than before. -/
structure Grants (tables : Tables) (assigner template : String) (records : List DeviceRecord)
    (after : Tables) : Prop where
  given : ∀ record ∈ records, ∃ old, tables.at? record.id = some old ∧
    record.id ∈ tables.devicesOf template ∧ old.IsAvailable assigner template ∧
    record = { old with reserved := true, assigner, template } ∧
    after.at? record.id = some record
  others : ∀ id, (∀ record ∈ records, record.id ≠ id) → after.at? id = tables.at? id
  onlyDevices : ∃ devices, after = { tables with devices }
  nothing : records = [] → after = tables

/-- The failure of a device of the template that lacks a port name. -/
def Unnamed (tables : Tables) (template : String) (failure : Failure) : Prop :=
  ∃ id ∈ tables.devicesOf template, ∃ name ∈ ["NPIV WWPN", "physical WWPN"],
    failure = .operation "reserve_devices" s!"FCP device {id} has no {name}" [id.text] []

/-- Taking a choice. -/
def reserveBy (assigner template : String) (policy : SelectionPolicy) :
    Transaction (List DeviceRecord) :=
  reserveWith assigner template fun candidates =>
    Selection.select candidates assigner template policy

/-- What is wrong with a choice is wrong with one of its records. -/
theorem unnamed_of_select {failure : Failure} {policy : SelectionPolicy}
    (filed : tables.RecordsFiled)
    (failed : Selection.select (tables.candidates template) assigner template policy =
      .error failure) : tables.Unnamed template failure := by
  obtain ⟨record, listed, lacks⟩ := Outcome.exists_of_mapM_eq_error failed
  have candidate := Selection.isCandidate_of_chosen listed
  obtain ⟨name, one, rfl⟩ := Selection.named_eq_error lacks
  exact ⟨record.id, (stored_of_isCandidate filed candidate).1, name, one, rfl⟩

/-- What is taken is granted. -/
theorem grants_of_reserveAll {ids : List DeviceId} {results : List DeviceRecord}
    (filed : tables.RecordsFiled)
    (ready : ∀ id ∈ ids, id ∈ tables.devicesOf template ∧ ∃ record, tables.at? id = some record ∧
      record.IsAvailable assigner template)
    (done : reserveAll assigner template ids tables = .ok (results, after)) :
    tables.Grants assigner template results after := by
  have same := results_of_reserveAll done
  have now := at?_of_reserveAll done
  have results_iff (record : DeviceRecord) : record ∈ results ↔
      ∃ id ∈ ids, ∃ old, tables.at? id = some old ∧ old.takenBy assigner template = record := by
    rw [same, List.mem_filterMap]
    simp only [Option.map_eq_some_iff]
  refine ⟨?_, ?_, onlyDevices_reserveAll assigner template ids done, ?_⟩
  · intro record listed
    obtain ⟨id, chosen, old, stored, rfl⟩ := (results_iff record).1 listed
    obtain ⟨own, found, present, available⟩ := ready id chosen
    obtain rfl := Option.some.inj (stored.symm.trans present)
    have here : (old.takenBy assigner template).id = id := filed id old stored
    rw [here, now id, if_pos chosen, stored]
    exact ⟨old, rfl, own, available, rfl, rfl⟩
  · intro id untouched
    rw [now id]
    split
    · next chosen =>
      obtain ⟨_, record, stored, _⟩ := ready id chosen
      exact absurd (filed id record stored)
        (untouched (record.takenBy assigner template)
          ((results_iff _).2 ⟨id, chosen, record, stored, rfl⟩))
    · rfl
  · intro empty
    cases ids with
    | nil =>
      cases done
      rfl
    | cons id rest =>
      obtain ⟨_, record, stored, _⟩ := ready id List.mem_cons_self
      have listed := (results_iff _).2 ⟨id, List.mem_cons_self, record, stored, rfl⟩
      rw [empty] at listed
      cases listed

section Choice

variable {found : Template} {policy : SelectionPolicy} (filed : tables.RecordsFiled)
  (there : tables.template template = .ok found)

include filed there

/-- **Chosen devices with their port names are granted.** -/
theorem exists_reserveBy
    (named : ∀ record ∈ Selection.chosen (tables.candidates template) assigner template policy,
      Selection.named record = .ok record.id) :
    ∃ after, reserveBy assigner template policy tables =
        .ok ((Selection.chosen (tables.candidates template) assigner template policy).map
          (·.takenBy assigner template), after) ∧
      tables.Grants assigner template
        ((Selection.chosen (tables.candidates template) assigner template policy).map
          (·.takenBy assigner template)) after := by
  have chooses := Selection.chosen_eq_iff.1 (Eq.refl
    (Selection.chosen (tables.candidates template) assigner template policy))
  have selected : Selection.select (tables.candidates template) assigner template policy = .ok _ :=
    Selection.mapM_named_eq_ok.2 ⟨rfl, named⟩
  have stored (record : DeviceRecord)
      (listed : record ∈ Selection.chosen (tables.candidates template) assigner template policy) :=
    stored_of_isCandidate filed (Selection.isCandidate_of_chosen listed)
  generalize Selection.chosen (tables.candidates template) assigner template policy = records
    at chooses selected stored ⊢
  have ready : ∀ id ∈ records.map (·.id), id ∈ tables.devicesOf template ∧
      ∃ record, tables.at? id = some record ∧ record.IsAvailable assigner template := by
    intro id listed
    obtain ⟨record, chosen, rfl⟩ := List.mem_map.1 listed
    obtain ⟨own, present⟩ := stored record chosen
    exact ⟨own, record, present, chooses.available chosen⟩
  obtain ⟨results, after, all⟩ := exists_reserveAll fun id listed => (ready id listed).2
  have taken : results = records.map (·.takenBy assigner template) := by
    rw [results_of_reserveAll all, List.filterMap_map, ← List.filterMap_eq_map]
    refine List.filterMap_congr fun record listed => ?_
    rw [Function.comp_apply, (stored record listed).2]
    rfl
  subst taken
  exact ⟨after, reserveWith_eq_ok.2 ⟨⟨found, there⟩, _, selected, all⟩,
    grants_of_reserveAll filed ready all⟩

/-- **A reservation is granted unless a chosen device lacks a port name.** -/
theorem reserveBy_cases (assigner : String) (policy : SelectionPolicy) :
    (∃ failure, reserveBy assigner template policy tables = .error failure ∧
      tables.Unnamed template failure) ∨
    ∃ records after, reserveBy assigner template policy tables = .ok (records, after) ∧
      tables.Grants assigner template records after := by
  cases selected : Selection.select (tables.candidates template) assigner template policy with
  | error failure =>
    refine .inl ⟨failure, ?_, unnamed_of_select filed selected⟩
    rw [reserveBy, reserveWith, there, selected]
    rfl
  | ok ids =>
    have named := (Selection.mapM_named_eq_ok.1 selected).2
    exact .inr ⟨_, exists_reserveBy filed there named⟩

end Choice

end Tables

/-! ## Reservations on a store -/

/-- A save fails with an error of the operating system. -/
theorem FileSystem.exists_code_of_save_eq_error {files left : FileSystem} {fault : Option SaveFault}
    {path : FilePath} {content : String} {failure : Failure}
    (failed : files.save fault path content = (.error failure, left)) :
    ∃ code, failure = .system code := by
  unfold save at failed
  split at failed
  · cases failed
  · split at failed <;> (cases failed; exact ⟨_, rfl⟩)

/-- **A reservation on the store of a scheduler is granted, or it fails and leaves the store as it
was.**  It fails when a chosen device lacks a port name or when the store cannot be saved, and never
because a chosen device is not there or not free. -/
theorem Scheduler.Reached.transact_reserveBy {settings : OperatorSettings}
    {scheduler : Scheduler (Outcome Reply)} (reached : scheduler.Reached (Ordered settings))
    {template : String} {found : Template}
    (there : scheduler.store.tables.template template = .ok found) (assigner : String)
    (policy : SelectionPolicy) (files : FileSystem) (fault : Option SaveFault) :
    match scheduler.store.transact files fault
      (Tables.reserveBy assigner template policy) with
    | (.ok records, store, _) => store.snapshot = scheduler.store.snapshot ∧
        scheduler.store.tables.Grants assigner template records store.tables
    | (.error failure, store, _) => store = scheduler.store ∧
        (scheduler.store.tables.Unnamed template failure ∨
          scheduler.store.snapshot.isSome = true ∧ ∃ code, failure = .system code) ∧
        (∀ id : DeviceId, failure ≠ .internal s!"selected FCP device {id} is not free") ∧
        ∀ id : DeviceId, failure ≠ .deviceNotFound id.text := by
  unfold Store.transact
  rcases Tables.reserveBy_cases reached.recordsFiled there assigner policy with
    ⟨failure, failed, unnamed⟩ | ⟨records, after, done, grants⟩
  · rw [failed]
    obtain ⟨id, own, name, one, rfl⟩ := unnamed
    exact ⟨rfl, .inl ⟨id, own, name, one, rfl⟩, fun _ => nofun, fun _ => nofun⟩
  · rw [done]
    dsimp only
    cases backed : scheduler.store.snapshot with
    | none => exact ⟨rfl, grants⟩
    | some path =>
      dsimp only
      cases saved : files.save fault path (Store.snapshotText after) with
      | mk outcome left =>
        cases outcome with
        | ok _ => exact ⟨rfl, grants⟩
        | error failure =>
          obtain ⟨code, rfl⟩ := FileSystem.exists_code_of_save_eq_error saved
          exact ⟨rfl, .inr ⟨rfl, code, rfl⟩, fun _ => nofun, fun _ => nofun⟩

namespace Sample

/-- A pool with one free device, which is on both paths of its only template. -/
def twofold : Scheduler (Outcome Reply) :=
  serving settings (.ok (listingOf [("1A00", "Free")]))
    [.pool .sync, .pool (.createTemplate { devices := "1a00;1a00" })]

end Sample

/-- A device on two paths is given for both of them. -/
theorem reserveBy_gives_shared_device_twice :
    ∃ store left,
      Sample.twofold.store.transact {} none (Tables.reserveBy "A" "T" ⟨true, 2⟩) =
        (.ok [Sample.owned, Sample.owned], store, left) ∧
      Sample.twofold.store.tables.Grants "A" "T" [Sample.owned, Sample.owned] store.tables := by
  have reached : Sample.twofold.Reached (Ordered Sample.settings) := Sample.serving_reached _ _ _
  obtain ⟨there, given⟩ :
      Sample.twofold.store.tables.template "T" = .ok ⟨"T", "", "", false, none, default⟩ ∧
      (Sample.twofold.store.transact {} none (Tables.reserveBy "A" "T" ⟨true, 2⟩)).1 =
        .ok [Sample.owned, Sample.owned] := by decide +kernel
  generalize Sample.twofold = scheduler at reached there given ⊢
  have taken := reached.transact_reserveBy there "A" ⟨true, 2⟩ {} none
  cases ran : scheduler.store.transact {} none (Tables.reserveBy "A" "T" ⟨true, 2⟩) with
  | mk outcome rest =>
    rw [ran] at given taken
    obtain rfl : outcome = .ok [Sample.owned, Sample.owned] := given
    exact ⟨rest.1, rest.2, rfl, taken.2⟩

end FibrePool
