import FibrePool.Proofs.Redundancy

/-!
# Reserving again

Who has reserved devices under a template and asks again is given the same devices.  A new choice and
a look for what is held go by different rules, though: a device is chosen because it is the first free
one of its path, or because it is free at a place where every path has a free one, and it is found
again because it is the first of its path that the assigner has reserved.

The rules agree when the choice of each path is the first device of that path that was chosen for
any (`Selection.Refound`).  For first free devices that is always so.  For a common place it is so
when no device is on two paths, and not in general (`paired_choice_not_refound`).
-/

namespace FibrePool

set_option autoImplicit false

/-! ## Finding -/

section Finding

variable {α : Type} {items : List α} {first second : α → Bool}

/-- The only item that satisfies a condition is the first one. -/
theorem find?_eq_some_of_unique {item : α} (member : item ∈ items) (holds : first item = true)
    (unique : ∀ other ∈ items, first other = true → other = item) :
    items.find? first = some item := by
  cases found : items.find? first with
  | none => exact absurd holds (List.find?_eq_none.1 found item member)
  | some other =>
    rw [unique other (List.mem_of_find?_eq_some found) (List.find?_some found)]

/-- A stronger condition has the same first item when that item satisfies it. -/
theorem find?_eq_of_first (stronger : ∀ item ∈ items, second item = true → first item = true)
    (kept : ∀ item, items.find? first = some item → second item = true) :
    items.find? second = items.find? first := by
  induction items with
  | nil => rfl
  | cons item rest ih =>
    obtain ⟨own, others⟩ := List.forall_mem_cons.1 stronger
    by_cases holds : first item = true
    · have here : (item :: rest).find? first = some item := List.find?_cons_of_pos holds
      rw [here, List.find?_cons_of_pos (kept item here)]
    · rw [List.find?_cons_of_neg holds] at kept ⊢
      rw [List.find?_cons_of_neg fun held => holds (own held)]
      exact ih others kept

theorem filterMap_eq_of_forall₂ {β : Type} {choice : α → Option β} {results : List β}
    (pairs : List.Forall₂ (fun item result => choice item = some result) items results) :
    items.filterMap choice = results := by
  induction pairs with
  | nil => rfl
  | cons own _ ih => rw [List.filterMap_cons_some own, ih]

end Finding

/-! ## Choices that are found again -/

/-- The candidates of a path after some devices were taken. -/
def Candidates.taking (path : Candidates) (ids : List DeviceId) (assigner template : String) :
    Candidates :=
  { path with
    devices := path.devices.map fun record =>
      if record.id ∈ ids then record.takenBy assigner template else record }

/-- Taking devices that are reserved already changes nothing. -/
theorem Candidates.taking_eq_self {path : Candidates} {ids : List DeviceId}
    {assigner template : String} (reserved : ∀ record ∈ path.devices, record.id ∈ ids →
      record.isReservedBy assigner template = true) :
    path.taking ids assigner template = path := by
  have same : ∀ record ∈ path.devices,
      (if record.id ∈ ids then record.takenBy assigner template else record) = record := by
    intro record member
    split
    · next chosen =>
      exact DeviceRecord.takenBy_of_isReservedBy (reserved record member chosen)
    · rfl
  rw [taking, List.map_congr_left same, List.map_id']

namespace Selection

variable {candidates : List Candidates} {assigner template : String} {policy : SelectionPolicy}
  {records : List DeviceRecord} {pick? : Candidates → Option DeviceRecord}

/-- A device has one record, on however many paths it is. -/
def Consistent (candidates : List Candidates) : Prop :=
  ∀ ⦃first second : DeviceRecord⦄, IsCandidate candidates first → IsCandidate candidates second →
    first.id = second.id → first = second

/-- The pick of each path is its first device that was picked of any path. -/
def Refound (candidates : List Candidates) (pick? : Candidates → Option DeviceRecord) : Prop :=
  ∀ path ∈ candidates, path.devices.find?
    (fun record => record.id ∈ (candidates.filterMap pick?).map (·.id)) = pick? path

theorem refound_firstFree (consistent : Consistent candidates) :
    Refound candidates fun path => path.devices.find? (·.isFree) := by
  intro path listed
  apply find?_eq_of_first
  · intro record member chosen
    obtain ⟨other, picked, same⟩ := List.mem_map.1 (of_decide_eq_true chosen)
    obtain ⟨path', listed', found⟩ := List.mem_filterMap.1 picked
    have own : IsCandidate candidates other :=
      ⟨path', listed', List.mem_of_find?_eq_some found⟩
    rw [← consistent own ⟨path, listed, member⟩ same]
    exact List.find?_some found
  · intro record found
    exact decide_eq_true (List.mem_map_of_mem (List.mem_filterMap.2 ⟨path, listed, found⟩))

theorem refound_freeAt? (consistent : Consistent candidates)
    (apart : ∀ path ∈ candidates, ∀ path' ∈ candidates, ∀ record ∈ path.devices,
      ∀ record' ∈ path'.devices, record.id = record'.id → path = path') {place : Nat}
    (found : freeAt? candidates place = some records) :
    Refound candidates fun path => path.devices[place]?.filter (·.isFree) := by
  intro path listed
  have member {path : Candidates} {record : DeviceRecord}
      (here : path.devices[place]?.filter (·.isFree) = some record) : record ∈ path.devices :=
    List.mem_of_getElem? (Option.filter_eq_some_iff.1 here).1
  obtain ⟨record, _, here⟩ := exists_mem_of_forall₂ (mapM_eq_some.1 found).flip listed
  show _ = path.devices[place]?.filter (·.isFree)
  rw [here]
  apply find?_eq_some_of_unique (member here)
  · exact decide_eq_true (List.mem_map_of_mem (List.mem_filterMap.2 ⟨path, listed, here⟩))
  · intro other listed' chosen
    obtain ⟨record', picked, same⟩ := List.mem_map.1 (of_decide_eq_true chosen)
    obtain ⟨path', among, here'⟩ := List.mem_filterMap.1 picked
    obtain rfl := apart path listed path' among other listed' record' (member here') same.symm
    cases here.symm.trans here'
    exact consistent ⟨path, listed, listed'⟩ ⟨path, listed, member here⟩ same.symm

theorem isReservedBy_eq_false (fresh : reserved candidates assigner template = [])
    {record : DeviceRecord} (candidate : IsCandidate candidates record) :
    record.isReservedBy assigner template = false := by
  obtain ⟨path, listed, member⟩ := candidate
  have unfound := List.filterMap_eq_nil_iff.1 fresh path listed
  exact Bool.eq_false_iff.2 (List.find?_eq_none.1 unfound record member)

/-- **Devices by which each path is found again are what is reserved once they are taken.** -/
theorem reserved_taking {ids : List DeviceId} (fresh : reserved candidates assigner template = [])
    (refound : ∀ path ∈ candidates,
      path.devices.find? (fun record => record.id ∈ ids) = pick? path) :
    reserved (candidates.map fun path => path.taking ids assigner template) assigner template =
      (candidates.filterMap pick?).map (·.takenBy assigner template) := by
  rw [reserved, List.filterMap_map, List.map_filterMap]
  refine List.filterMap_congr fun path listed => ?_
  have taken : ∀ record ∈ path.devices,
      (if record.id ∈ ids then record.takenBy assigner template else record).isReservedBy
        assigner template = decide (record.id ∈ ids) := by
    intro record member
    split
    · next chosen => rw [DeviceRecord.isReservedBy_takenBy, decide_eq_true chosen]
    · next other =>
      rw [isReservedBy_eq_false fresh ⟨path, listed, member⟩, decide_eq_false other]
  rw [Function.comp_apply, Candidates.taking, List.find?_map, ← refound path listed]
  refine (congrArg _ (List.find?_congr taken)).trans ?_
  cases found : path.devices.find? fun record => record.id ∈ ids with
  | none => rfl
  | some record =>
    have chosen : record.id ∈ ids := by simpa using List.find?_some found
    rw [Option.map_some, Option.map_some, if_pos chosen]

/-- What is held is chosen again. -/
theorem chosen_of_reserved (held : reserved candidates assigner template = records)
    (filled : records ≠ []) : chosen candidates assigner template policy = records := by
  unfold chosen
  rw [held]
  cases records with
  | nil => exact absurd rfl filled
  | cons record rest => rfl

/-- A new choice can be found again, unless it was made at a common place of paths that share
devices. -/
theorem exists_refound_of_chosen (consistent : Consistent candidates)
    (fresh : reserved candidates assigner template = [])
    (filled : chosen candidates assigner template policy ≠ [])
    (apart : policy.sameIndexPairing = true → paired? candidates ≠ none →
      ∀ path ∈ candidates, ∀ path' ∈ candidates, ∀ record ∈ path.devices,
        ∀ record' ∈ path'.devices, record.id = record'.id → path = path') :
    ∃ pick?, Refound candidates pick? ∧
      chosen candidates assigner template policy = candidates.filterMap pick? := by
  have new : chosen candidates assigner template policy = picked candidates policy := by
    unfold chosen at filled ⊢
    rw [fresh] at filled ⊢
    dsimp only at filled ⊢
    split at filled
    · exact absurd rfl filled
    · next enough => exact if_neg enough
  rw [new]
  unfold picked
  split
  · next pairing =>
    cases paired : paired? candidates with
    | none => exact ⟨_, refound_firstFree consistent, rfl⟩
    | some records =>
      obtain ⟨place, _, found⟩ := List.exists_of_findSome?_eq_some paired
      have distinct := apart pairing (by rw [paired]; exact Option.some_ne_none _)
      refine ⟨_, refound_freeAt? consistent distinct found, ?_⟩
      exact (filterMap_eq_of_forall₂ (mapM_eq_some.1 found)).symm
  · exact ⟨_, refound_firstFree consistent, rfl⟩

end Selection

/-! ## Reserving twice -/

namespace Tables

variable {tables after : Tables} {assigner template : String} {found : Template} {pairing : Bool}
  {records : List DeviceRecord}

/-- The choice for an assigner is found again: there is something held already, or the choice is not
made at a common place, or it is made at a common place of paths that share no device. -/
def Recoverable (tables : Tables) (assigner template : String) : Prop :=
  Selection.reserved (tables.candidates template) assigner template ≠ [] ∨
    Selection.paired? (tables.candidates template) = none ∨ tables.PathsApart template

instance (tables : Tables) (assigner template : String) :
    Decidable (tables.Recoverable assigner template) :=
  inferInstanceAs (Decidable (_ ∨ _ ∨ _))

theorem consistent_candidates (sound : tables.RecordsSound) :
    Selection.Consistent (tables.candidates template) := by
  intro first second candidate candidate' same
  obtain ⟨_, stored⟩ := stored_of_isCandidate sound.filed candidate
  obtain ⟨_, stored'⟩ := stored_of_isCandidate sound.filed candidate'
  rw [same] at stored
  exact Option.some.inj (stored.symm.trans stored')

/-- Where no device is on two paths, a device tells its path. -/
theorem PathsApart.eq_of_mem (apart : tables.PathsApart template) {path path' : Nat × DeviceSet}
    (listed : path ∈ (tables.pathsOf template).entries)
    (listed' : path' ∈ (tables.pathsOf template).entries) {id : DeviceId}
    (own : id ∈ path.2.keys) (own' : id ∈ path'.2.keys) : path = path' := by
  have symmetric : Std.Symm fun first second : Nat × DeviceSet =>
      ∀ id ∈ first.2.keys, second.2.contains id = false := by
    refine ⟨fun first second disjoint id own => Bool.eq_false_iff.2 fun held => ?_⟩
    have absent := disjoint id (OrderedMap.mem_keys_iff.2 held)
    rw [OrderedMap.mem_keys_iff.1 own] at absent
    cases absent
  by_contra different
  have absent := apart.forall listed listed' different id own
  rw [OrderedMap.mem_keys_iff.1 own'] at absent
  cases absent

theorem PathsApart.candidates (apart : tables.PathsApart template) (sound : tables.RecordsSound) :
    ∀ path ∈ tables.candidates template, ∀ path' ∈ tables.candidates template,
      ∀ record ∈ path.devices, ∀ record' ∈ path'.devices, record.id = record'.id →
        path = path' := by
  have own_key {ids : DeviceSet} {record : DeviceRecord}
      (member : record ∈ tables.recordsOf ids.keys) : record.id ∈ ids.keys := by
    obtain ⟨id, listed, stored⟩ := mem_recordsOf.1 member
    rwa [(sound id record stored).own_id]
  intro path member path' member' record own record' own' same
  obtain ⟨entry, listed, rfl⟩ := List.mem_map.1 member
  obtain ⟨entry', listed', rfl⟩ := List.mem_map.1 member'
  have key := own_key own'
  rw [← same] at key
  rw [apart.eq_of_mem listed listed' (own_key own) key]

/-- The candidates of a template after devices were taken. -/
theorem candidates_of_taken {ids : List DeviceId} (sound : tables.RecordsSound)
    (paths : after.paths = tables.paths)
    (taken : ∀ id, after.at? id = if id ∈ ids then (tables.at? id).map (·.takenBy assigner template)
      else tables.at? id) :
    after.candidates template =
      (tables.candidates template).map fun path => path.taking ids assigner template := by
  have records (keys : List DeviceId) : after.recordsOf keys =
      (tables.recordsOf keys).map fun record =>
        if record.id ∈ ids then record.takenBy assigner template else record := by
    rw [recordsOf, recordsOf, List.map_filterMap]
    refine List.filterMap_congr fun id _ => (taken id).trans ?_
    show _ = (tables.at? id).map _
    cases stored : tables.at? id with
    | none => simp
    | some record =>
      rw [Option.map_some, Option.map_some, (sound id record stored).own_id]
      split <;> rfl
  rw [candidates, candidates, List.map_map, pathsOf, paths]
  exact List.map_congr_left fun path _ => congrArg (Candidates.mk path.1) (records path.2.keys)

/-- **What a reservation gives is what the assigner then holds**, in the same order. -/
theorem reserved_of_reserve (sound : tables.RecordsSound)
    (done : reserve assigner found template pairing tables = .ok (records, after))
    (filled : records ≠ []) (recoverable : pairing = true → tables.Recoverable assigner template) :
    Selection.reserved (after.candidates template) assigner template = records := by
  obtain ⟨_, given, taken⟩ := reserve_eq_ok sound.filed done
  have paths : after.paths = tables.paths := by
    obtain ⟨devices, rfl⟩ := onlyDevices_reserve assigner found template pairing done
    rfl
  have consistent : Selection.Consistent (tables.candidates template) :=
    consistent_candidates sound
  have choosing : tables.choice assigner template found pairing ≠ [] := by
    rintro none
    rw [given, none] at filled
    exact filled rfl
  rw [candidates_of_taken sound paths taken, given]
  by_cases fresh : Selection.reserved (tables.candidates template) assigner template = []
  · obtain ⟨pick?, refound, same⟩ :=
      Selection.exists_refound_of_chosen consistent fresh choosing fun pairing paired => by
        rcases recoverable pairing with held | unpaired | apart
        · exact absurd fresh held
        · exact absurd unpaired paired
        · exact apart.candidates sound
    have picked : tables.choice assigner template found pairing =
        (tables.candidates template).filterMap pick? := same
    rw [picked]
    exact Selection.reserved_taking fresh refound
  · have held : tables.choice assigner template found pairing =
        Selection.reserved (tables.candidates template) assigner template :=
      Selection.chosen_of_reserved rfl fresh
    have unchanged : ∀ path ∈ tables.candidates template,
        path.taking ((tables.choice assigner template found pairing).map (·.id)) assigner
          template = path := by
      intro path listed
      refine Candidates.taking_eq_self fun record member chosen => ?_
      obtain ⟨other, among, same⟩ := List.mem_map.1 chosen
      rw [← consistent (Selection.isCandidate_of_chosen among) ⟨path, listed, member⟩ same]
      exact Selection.isReservedBy_of_mem (held ▸ among)
    rw [List.map_congr_left unchanged, List.map_id', held]
    refine (List.map_id' _).symm.trans (List.map_congr_left fun record member => ?_)
    exact (DeviceRecord.takenBy_of_isReservedBy (Selection.isReservedBy_of_mem member)).symm

/-- Devices that the assigner has reserved already are reserved without any change. -/
theorem reserveAll_of_reserved (reserved : ∀ record ∈ records,
      tables.at? record.id = some record ∧ record.isReservedBy assigner template = true) :
    reserveAll assigner template (records.map (·.id)) tables = .ok (records, tables) := by
  induction records with
  | nil => rfl
  | cons record rest ih =>
    obtain ⟨⟨stored, held⟩, others⟩ := List.forall_mem_cons.1 reserved
    have same := DeviceRecord.takenBy_of_isReservedBy held
    refine reserveAll_cons_eq_ok.2 ⟨record, tables, rest, ?_, ih others, rfl⟩
    refine reserveOne_eq_ok.2 ⟨record, stored, .inl ?_, same.symm, ?_⟩
    · exact (Bool.and_eq_true _ _ ▸ held).2
    · rw [putRecord, OrderedMap.insert_of_get? stored]

/-- Who has reserved devices under a template is given just these, and nothing changes. -/
theorem reserve_of_reserved (there : ∃ filed, tables.template template = .ok filed)
    (held : Selection.reserved (tables.candidates template) assigner template = records)
    (filled : records ≠ []) (stored : ∀ record ∈ records, tables.at? record.id = some record)
    (named : ∀ record ∈ records, Selection.named record = .ok record.id) (found : Template)
    (pairing : Bool) :
    reserve assigner found template pairing tables = .ok (records, tables) := by
  refine reserveWith_eq_ok.2 ⟨there, records.map (·.id), ?_, reserveAll_of_reserved ?_⟩
  · dsimp only [Selection.select]
    rw [Selection.chosen_of_reserved held filled]
    exact Selection.mapM_named_eq_ok.2 ⟨rfl, named⟩
  · intro record listed
    exact ⟨stored record listed, Selection.isReservedBy_of_mem (held ▸ listed)⟩

/-- **A reservation that is made again gives the same and changes nothing.** -/
theorem reserve_again (sound : tables.RecordsSound)
    (done : reserve assigner found template pairing tables = .ok (records, after))
    (filled : records ≠ []) (recoverable : pairing = true → tables.Recoverable assigner template)
    (found' : Template) :
    reserve assigner found' template pairing after = .ok (records, after) := by
  have held := reserved_of_reserve sound done filled recoverable
  obtain ⟨named, given, taken⟩ := reserve_eq_ok sound.filed done
  have there : ∃ filed, after.template template = .ok filed := by
    obtain ⟨devices, rfl⟩ := onlyDevices_reserve assigner found template pairing done
    exact (reserveWith_eq_ok.1 done).1
  refine reserve_of_reserved there held filled ?_ ?_ found' pairing
  · rw [given]
    refine List.forall_mem_map.2 fun record member => ?_
    have candidate := Selection.isCandidate_of_chosen member
    rw [DeviceRecord.takenBy_id, taken, if_pos (List.mem_map_of_mem member),
      (stored_of_isCandidate sound.filed candidate).2]
    rfl
  · rw [given]
    exact List.forall_mem_map.2 named

end Tables

/-! ## Asking twice -/

open Workflow in
/-- **Asking again gives the same devices.**  Without reconciliations before reservations, in every
state: who has been given devices under a template and asks again is given the same in the same
order, nothing changes, and so does a look at what is held without reserving.  When devices are
paired by their place, that needs a choice which can be found again. -/
theorem reserving_again {settings : OperatorSettings} {scheduler : Scheduler (Outcome Output)}
    (reached : scheduler.Reached (Volume.Dispatched settings))
    (direct : settings.pool.syncBeforeReserve = false) (around : Surroundings) (assigner : String)
    (template provider : Option String) :
    (Pool.reserve settings.pool assigner template provider).Ends around
      { tables := scheduler.store.tables }
      (fun reservation after => reservation.devices ≠ [] →
        (settings.pool.sameIndexPairing = true →
          scheduler.store.tables.Recoverable assigner reservation.template) →
        (∀ around', (Pool.reserve settings.pool assigner template provider).Ends around'
          { tables := after.tables }
          (fun again last => again = reservation ∧ last.tables = after.tables) fun _ _ => False) ∧
        ∀ around' raw, Volume.requiredGuest raw = .ok assigner →
          (Volume.connector settings { assigner := raw, template, provider }).Ends around'
            { tables := after.tables }
            (fun connector last => last.tables = after.tables ∧
              connector = .ofRecords (settings.partition ++ "_" ++ assigner) reservation.template
                reservation.devices) fun _ _ => False)
      fun _ _ => True := by
  have anything : Reconciles (fun _ => True) fun _ => True := fun _ _ _ _ _ _ _ _ _ _ => trivial
  refine (Pool.reserve_ends anything trivial assigner template provider).mono ?_
    fun _ _ _ => trivial
  rintro ⟨id, records⟩ after ⟨meant, found, _, there, _, unsynced, done⟩ filled recoverable
  dsimp only at meant there done filled recoverable ⊢
  obtain rfl := unsynced direct
  have again := Tables.reserve_again reached.recordsSound done filled recoverable
  have held := Tables.reserved_of_reserve reached.recordsSound done filled recoverable
  -- The templates have stayed, so the same one is meant and found.
  obtain ⟨devices, same⟩ := Tables.onlyDevices_reserve _ _ _ _ done
  have meant' : after.tables.resolved template provider = .ok id := by
    rw [same]
    exact meant
  have there' : after.tables.templates.get? id = some found := by
    rw [same]
    exact there
  constructor
  · intro around'
    refine (Pool.reserve_ends anything trivial assigner template provider).mono ?_ ?_
    · rintro ⟨id', records'⟩ last ⟨meant'', found', _, _, _, unsynced', done'⟩
      dsimp only at meant'' done' ⊢
      cases meant'.symm.trans meant''
      obtain rfl := unsynced' direct
      obtain ⟨rfl, unchanged⟩ := Prod.mk.inj (Except.ok.inj ((again found').symm.trans done'))
      exact ⟨rfl, unchanged.symm⟩
    · intro failure last failed
      cases (again found).symm.trans ((failed.2 direct).2 id found meant' there')
  · intro around' raw checked
    unfold Volume.connector
    rw [ends_bind, checked, ends_ofOutcome]
    dsimp only
    rw [ends_holding, if_neg Bool.false_ne_true, ends_bind, ends_adapt, Pool.ends_resolve, meant']
    dsimp only
    rw [ends_bind, Pool.ends_held, Tables.template_eq_ok.2 there']
    refine (ends_pure _).2 ⟨rfl, ?_⟩
    rw [held]

/-! ## Paths that share a device -/

namespace Sample

/-- An operator that prefers devices at the same place of every path. -/
def pairing : OperatorSettings :=
  { settings with pool := { settings.pool with sameIndexPairing := true } }

/-- The device is free, and the other path has no device that is. -/
def unequal := stocked pairing [("1A00", "Free")] lenient

/-- The device `1a01`. -/
def near : DeviceId := ⟨⟨0x1a01, by decide⟩⟩

/-- The device `1a05`. -/
def far : DeviceId := ⟨⟨0x1a05, by decide⟩⟩

/-- Two paths with `1a01` on both of them, where only the second place is free on both. -/
def crossed := stocked pairing [("1A01", "Free"), ("1A05", "Free")]
  { devices := "1a01,1a05;1a00,1a01" }

end Sample

/-- What was reserved under a template with separate paths is reserved again. -/
theorem reserving_again_with_pairing :
    ∃ reservation after, Sample.reserving Sample.pairing Sample.unequal.store.tables =
        (some (.ok reservation), after) ∧
      reservation.devices = [Sample.owned] ∧
      (∀ around, (Pool.reserve Sample.pairing.pool "A" (some "T") none).Ends around
        { tables := after.tables }
        (fun again last => again = reservation ∧ last.tables = after.tables) fun _ _ => False) ∧
      ∀ around, (Volume.connector Sample.pairing { assigner := "a", template := some "T" }).Ends
        around { tables := after.tables }
        (fun connector last => last.tables = after.tables ∧
          connector = .ofRecords "LPAR_A" "T" reservation.devices) fun _ _ => False := by
  obtain ⟨given, apart⟩ :
      (Sample.reserving Sample.pairing Sample.unequal.store.tables).1 =
        some (.ok ⟨"T", [Sample.owned]⟩) ∧
      Sample.unequal.store.tables.PathsApart "T" := by decide +kernel
  obtain ⟨after, run⟩ := Sample.exists_run given
  have reached : Sample.unequal.Reached (Volume.Dispatched Sample.pairing) :=
    Sample.stocked_reached _ _ _
  obtain ⟨again, connected⟩ :=
    (reserving_again reached rfl Sample.refusing "A" (some "T") none).of_ok run
      (List.cons_ne_nil _ _) fun _ => .inr (.inr apart)
  exact ⟨_, after, run, rfl, again, fun around => connected around "a" (by decide +kernel)⟩

/-- **A paired choice on paths that share a device is not found again.**  `A` is given `1a05` and
`1a01`, and asking again it is given `1a01` twice. -/
theorem paired_choice_not_refound :
    Sample.crossed.Reached (Volume.Dispatched Sample.pairing) ∧
    ∃ first after second last,
      Sample.reserving Sample.pairing Sample.crossed.store.tables =
        (some (.ok first), after) ∧
      Sample.reserving Sample.pairing after.tables = (some (.ok second), last) ∧
      first.devices.map (·.id) = [Sample.far, Sample.near] ∧
      second.devices.map (·.id) = [Sample.near, Sample.near] := by
  obtain ⟨given, given'⟩ :
      (Sample.reserving Sample.pairing Sample.crossed.store.tables).1 = some (.ok
        ⟨"T", [{ Sample.owned with id := Sample.far },
          { Sample.owned with id := Sample.near }]⟩) ∧
      (Sample.reserving Sample.pairing
        (Sample.reserving Sample.pairing Sample.crossed.store.tables).2.tables).1 = some (.ok
        ⟨"T", [{ Sample.owned with id := Sample.near },
          { Sample.owned with id := Sample.near }]⟩) := by decide +kernel
  refine ⟨Sample.stocked_reached _ _ _, ?_⟩
  generalize Sample.reserving Sample.pairing Sample.crossed.store.tables = ran at given given' ⊢
  obtain ⟨_, after⟩ := ran
  obtain rfl := given
  obtain ⟨last, again⟩ := Sample.exists_run given'
  exact ⟨_, after, _, last, rfl, again, rfl, rfl⟩

end FibrePool
