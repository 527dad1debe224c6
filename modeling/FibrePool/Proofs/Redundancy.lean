import FibrePool.Proofs.Exclusive
import FibrePool.Proofs.OnePerPath
import Mathlib.Data.List.Pairwise

/-!
# Redundant paths

A reservation is there to reach the storage on several paths, so it should hold as many devices as
it counts paths.  Its devices always come from different paths, and a new one covers as many of them
as its template asks for.  They are different devices when no device is on two paths of the template
(`Tables.PathsApart`); a template whose paths share a device may get that device for several of
them (`shared_device_counts_twice`).
-/

namespace FibrePool

set_option autoImplicit false

/-! ## Covered paths -/

namespace Tables

variable {tables : Tables} {template : String} {records : List DeviceRecord}

/-- No device is on two paths of the template. -/
def PathsApart (tables : Tables) (template : String) : Prop :=
  (tables.pathsOf template).entries.Pairwise fun first second =>
    ∀ id ∈ first.2.keys, second.2.contains id = false

instance (tables : Tables) (template : String) : Decidable (tables.PathsApart template) :=
  inferInstanceAs (Decidable (List.Pairwise _ _))

/-- The records are those of devices on different paths of the template, in the order of the
paths. -/
def AlongPaths (tables : Tables) (template : String) (records : List DeviceRecord) : Prop :=
  ∃ covered, covered.Sublist (tables.pathsOf template).entries ∧
    List.Forall₂ (fun path record => path.2.contains record.id = true) covered records

theorem alongPaths_of_onePerPath (filed : tables.RecordsFiled)
    (picked : Selection.OnePerPath (tables.candidates template) records) :
    tables.AlongPaths template records := by
  obtain ⟨paths, among, pairs⟩ := picked
  obtain ⟨covered, sublist, rfl⟩ := List.sublist_map_iff.1 among
  refine ⟨covered, sublist, (List.forall₂_map_left_iff.1 pairs).imp ?_⟩
  intro path record member
  obtain ⟨id, listed, stored⟩ := mem_recordsOf.1 member
  rw [filed id record stored]
  exact OrderedMap.mem_keys_iff.1 listed

/-- **Paths without a common device are covered by different devices.** -/
theorem AlongPaths.nodup (covers : tables.AlongPaths template records)
    (apart : tables.PathsApart template) : (records.map (·.id)).Nodup := by
  obtain ⟨covered, sublist, pairs⟩ := covers
  have disjoint := apart.sublist sublist
  clear sublist
  induction pairs with
  | nil => exact List.nodup_nil
  | @cons path record covered records own others ih =>
    obtain ⟨elsewhere, disjoint⟩ := List.pairwise_cons.1 disjoint
    refine List.nodup_cons.2 ⟨fun again => ?_, ih disjoint⟩
    obtain ⟨other, listed, same⟩ := List.mem_map.1 again
    obtain ⟨path', covering, held⟩ := exists_mem_of_forall₂ others listed
    have absent := elsewhere path' covering record.id (OrderedMap.mem_keys_iff.2 own)
    rw [show other.id = record.id from same, absent] at held
    cases held

end Tables

/-! ## Enough paths -/

namespace DeviceRecord

variable {record other : DeviceRecord} {assigner template : String}

theorem reserved_of_isReservedBy (held : record.isReservedBy assigner template = true) :
    record.reserved = true := (Bool.and_eq_true _ _ ▸ held).1

/-- Who has reserved a device is a matter of its usage. -/
theorem isReservedBy_congr (same : record.usage = other.usage) :
    record.isReservedBy assigner template = other.isReservedBy assigner template :=
  congrArg (fun usage : Usage => usage.reserved && (usage.assigner == assigner &&
    usage.template == template && (usage.reserved || decide (0 < usage.connections)))) same

end DeviceRecord

/-- Devices that the assigner did not have before are chosen only when they cover enough paths. -/
theorem Selection.leastPaths_le_length {candidates : List Candidates} {assigner template : String}
    {policy : SelectionPolicy} {record : DeviceRecord}
    (member : record ∈ chosen candidates assigner template policy)
    (new : record.isReservedBy assigner template = false) :
    policy.leastPaths ≤ (chosen candidates assigner template policy).length := by
  unfold chosen at member ⊢
  split at member
  · dsimp only at member ⊢
    split at member
    · cases member
    · next enough =>
      rw [if_neg enough]
      exact Nat.le_of_not_lt enough
  · rw [isReservedBy_of_mem member] at new
    cases new

namespace Tables

/-- What a reconciliation leaves of tables as far as a reservation looks at them: the paths, and
reservations that were there before. -/
structure Succeeds (before now : Tables) : Prop where
  sound : now.RecordsSound
  paths : now.paths = before.paths
  reserved : ∀ id record, now.at? id = some record → record.reserved = true →
    ∃ old, before.at? id = some old ∧ old.usage = record.usage

variable {before : Tables}

theorem succeeds_self (sound : before.RecordsSound) : before.Succeeds before where
  sound := sound
  paths := rfl
  reserved _ record stored _ := ⟨record, stored, rfl⟩

theorem reconcile_keeps_succeeds (devices : List LiveDevice) :
    (reconcile devices).Keeps before.Succeeds := by
  intro now outcome after succeeds done
  obtain ⟨records, same⟩ := onlyDevices_reconcile devices done
  constructor
  case paths =>
    rw [same]
    exact succeeds.paths
  case sound =>
    intro id
    refine (altered_reconcile done id).keeps
      (fun stored => ∀ record, stored = some record → record.SoundFor id) ?_ (succeeds.sound id)
    rintro touch _ _ (rfl | ⟨rfl, _⟩) step <;> exact step.soundFor trivial
  case reserved =>
    intro id
    refine (altered_reconcile done id).keeps (fun stored => ∀ record, stored = some record →
      record.reserved = true → ∃ old, before.at? id = some old ∧ old.usage = record.usage) ?_
      (succeeds.reserved id)
    rintro touch _ _ allowed step holds record rfl reserved
    cases step with
    | listed => cases reserved
    | refreshed =>
      obtain ⟨old, stored, usage⟩ := holds _ rfl reserved
      exact ⟨old, stored, usage⟩
    | _ => rcases allowed with same | ⟨same, _⟩ <;> cases same

end Tables

/-! ## Reservations -/

open Workflow in
/-- **A reservation covers as many paths as it counts.**  In every state, a reservation that comes
about gives devices of different paths of its template.  As soon as one of them is new to the
assigner, they are at least one and as many as the template asks for; and they are different devices
when no device is on two of its paths. -/
theorem reservation_covers_paths {settings : OperatorSettings}
    {scheduler : Scheduler (Outcome Output)}
    (reached : scheduler.Reached (Volume.Dispatched settings)) (around : Surroundings)
    (assigner : String) (template provider : Option String) :
    (Pool.reserve settings.pool assigner template provider).Ends around
      { tables := scheduler.store.tables }
      (fun reservation _ =>
        scheduler.store.tables.AlongPaths reservation.template reservation.devices ∧
        (∀ record ∈ reservation.devices,
          (∀ old, scheduler.store.tables.devices.get? record.id = some old →
            old.isReservedBy assigner reservation.template = false) →
          ∃ found, scheduler.store.tables.templates.get? reservation.template = some found ∧
            max 1 (found.leastPathsOf (scheduler.store.tables.pathsOf reservation.template).size) ≤
              reservation.devices.length) ∧
        (scheduler.store.tables.PathsApart reservation.template →
          (reservation.devices.map (·.id)).Nodup))
      fun _ _ => True := by
  have reconciles : Reconciles (fun _ => True) scheduler.store.tables.Succeeds :=
    fun _ _ devices _ _ => Tables.reconcile_keeps_succeeds devices
  refine (Pool.reserve_ends reconciles (Tables.succeeds_self reached.recordsSound) assigner
    template provider).mono ?_ fun _ _ _ => trivial
  rintro ⟨id, records⟩ after ⟨_, found, ready, there, succeeds, _, done⟩
  dsimp only at there done ⊢
  obtain ⟨_, rfl, _⟩ := Tables.reserve_eq_ok succeeds.sound.filed done
  have paths : ready.pathsOf id = scheduler.store.tables.pathsOf id := by
    rw [Tables.pathsOf, Tables.pathsOf, succeeds.paths]
  have covers : scheduler.store.tables.AlongPaths id
      ((ready.choice assigner id found settings.pool.sameIndexPairing).map
        (·.takenBy assigner id)) := by
    obtain ⟨covered, sublist, pairs⟩ :=
      Tables.alongPaths_of_onePerPath succeeds.sound.filed Selection.onePerPath_chosen
    rw [paths] at sublist
    exact ⟨covered, sublist, List.forall₂_map_right_iff.2 pairs⟩
  refine ⟨covers, fun record member new => ⟨found, there, ?_⟩, covers.nodup⟩
  obtain ⟨chosen, listed, rfl⟩ := List.mem_map.1 member
  -- A reservation that the reconciliation found was there before it.
  have unreserved : chosen.isReservedBy assigner id = false := by
    by_contra held
    rw [Bool.not_eq_false] at held
    obtain ⟨_, stored⟩ := Tables.stored_of_isCandidate succeeds.sound.filed
      (Selection.isCandidate_of_chosen listed)
    obtain ⟨old, before, same⟩ :=
      succeeds.reserved _ chosen stored (DeviceRecord.reserved_of_isReservedBy held)
    rw [DeviceRecord.isReservedBy_congr same.symm, new old before] at held
    cases held
  refine Nat.max_le.2 ⟨List.length_pos_of_mem member, ?_⟩
  have enough := Selection.leastPaths_le_length listed unreserved
  rw [List.length_map, ← paths, OrderedMap.size, ← List.length_map]
  exact enough

/-! ## A shared device -/

namespace Sample

/-- What the hypervisor prints about devices, given by their numbers and states. -/
def listingOf (devices : List (String × String)) : String :=
  "\n".intercalate (devices.map fun (number, status) =>
    "FCP device number:" ++ number ++ "\nStatus:" ++ status ++ "\nOwner:NONE\n" ++
      "Channel path ID:27\nNPIV world wide port number:1\nPhysical world wide port number:2")

/-- An operator that has taken over a listing and then made its only template. -/
def stocked (settings : OperatorSettings) (listed : List (String × String))
    (request : NewTemplate) : Scheduler (Outcome Output) :=
  let listening : Scheduler (Outcome Output) :=
    { idle with collaborators := { guests := ["A"], listing := .ok (listingOf listed) } }
  let synced := (listening.start (Volume.dispatch settings .sync).run).2.settle 20
  (synced.start (Volume.dispatch settings (.createTemplate request)).run).2.settle 20

theorem stocked_reached (settings : OperatorSettings) (listed : List (String × String))
    (request : NewTemplate) :
    (stocked settings listed request).Reached (Volume.Dispatched settings) :=
  .settle (.started (.settle (.started (.idle rfl rfl rfl) ⟨_, rfl⟩) 20) ⟨_, rfl⟩) 20

/-- What comes of a reservation for `A` under the only template, with the tables after it. -/
def reserving (settings : OperatorSettings) (tables : Tables) :
    Option (Outcome Reservation) × Scene :=
  (Pool.reserve settings.pool "A" (some "T") none).run.alone refusing { tables }

/-- A template with two paths, which is content with one of them. -/
def lenient : NewTemplate := { devices := "1a00;1b00", leastPaths := some 1 }

/-- The device is free, and the other path has no device that is. -/
def lopsided := stocked settings [("1A00", "Free")] lenient

/-- Two paths with the same free device. -/
def shared := stocked settings [("1A00", "Free")] { devices := "1a00;1a00" }

end Sample

/-- Of two paths the one with a free device is covered. -/
theorem reservation_covers_free_path :
    ∃ reservation after, Sample.reserving Sample.settings Sample.lopsided.store.tables =
        (some (.ok reservation), after) ∧
      reservation.devices = [Sample.owned] ∧
      Sample.lopsided.store.tables.AlongPaths "T" reservation.devices ∧
      (reservation.devices.map (·.id)).Nodup ∧
      ∃ found, Sample.lopsided.store.tables.templates.get? "T" = some found ∧
        max 1 (found.leastPathsOf (Sample.lopsided.store.tables.pathsOf "T").size) ≤ 1 := by
  obtain ⟨given, apart, unreserved⟩ :
      (Sample.reserving Sample.settings Sample.lopsided.store.tables).1 =
        some (.ok ⟨"T", [Sample.owned]⟩) ∧
      Sample.lopsided.store.tables.PathsApart "T" ∧
      ∀ old ∈ Sample.lopsided.store.tables.devices.get? Sample.device,
        old.isReservedBy "A" "T" = false := by decide +kernel
  obtain ⟨after, run⟩ := Sample.exists_run given
  have reached : Sample.lopsided.Reached (Volume.Dispatched Sample.settings) :=
    Sample.stocked_reached _ _ _
  obtain ⟨covers, enough, different⟩ :=
    (reservation_covers_paths reached Sample.refusing "A" (some "T") none).of_ok run
  refine ⟨_, after, run, rfl, covers, different apart, ?_⟩
  exact enough Sample.owned List.mem_cons_self fun old stored => unreserved old stored

/-- **A device on two paths is counted for both of them.**  The template asks for both of its paths,
and the reservation that covers them holds one device. -/
theorem shared_device_counts_twice :
    Sample.shared.Reached (Volume.Dispatched Sample.settings) ∧
    (∃ found, Sample.shared.store.tables.templates.get? "T" = some found ∧
      found.leastPathsOf (Sample.shared.store.tables.pathsOf "T").size = 2) ∧
    ∃ reservation after, Sample.reserving Sample.settings Sample.shared.store.tables =
        (some (.ok reservation), after) ∧
      reservation.devices.map (·.id) = [Sample.device, Sample.device] := by
  obtain ⟨given, asked⟩ :
      (Sample.reserving Sample.settings Sample.shared.store.tables).1 =
        some (.ok ⟨"T", [Sample.owned, Sample.owned]⟩) ∧
      (Sample.shared.store.tables.templates.get? "T").map (·.leastPathsOf
        (Sample.shared.store.tables.pathsOf "T").size) = some 2 := by decide +kernel
  obtain ⟨after, run⟩ := Sample.exists_run given
  exact ⟨Sample.stocked_reached _ _ _, Option.map_eq_some_iff.1 asked, _, after, run, rfl⟩

end FibrePool
