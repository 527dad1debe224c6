import FibrePool.Proofs.Reacquisition
import FibrePool.Proofs.Taking

/-!
# Looking and reserving

What an assigner holds under a template is looked up in two places.  A look goes through the paths
one by one and reads the records of each (`Pool.held`); a reservation has all candidates before it
when it decides what to do (`Tables.reserve`).  Nothing but the rule that both apply makes them
agree, and they do, on every template, on paths with devices that have no record, and on holds that
leave paths out (`reserving_agrees_with_looking`).

So a hold decides a reservation: it is given as it is, or one of its devices lacks a port name.  And
only without a hold are there new devices, all of which were free.
-/

namespace FibrePool

set_option autoImplicit false

/-! ## With and without a hold -/

/-- Without a hold, what is chosen is free. -/
theorem Selection.free_of_chosen {candidates : List Candidates} {assigner template : String}
    {policy : SelectionPolicy} {record : DeviceRecord}
    (unheld : reserved candidates assigner template = [])
    (listed : record ∈ chosen candidates assigner template policy) : record.Free := by
  have chooses := chosen_eq_iff.1 (Eq.refl (chosen candidates assigner template policy))
  generalize chosen candidates assigner template policy = records at chooses listed
  cases chooses with
  | kept some _ =>
    obtain ⟨path, among, other, member, kept⟩ := some
    exact absurd kept (reserved_eq_nil_iff.1 unheld path among other member)
  | fresh _ picked _ _ => exact picked.free listed
  | dropped _ _ _ => cases listed

namespace Tables

variable {tables after : Tables} {assigner template : String} {found : Template}
  {held records : List DeviceRecord}

/-- A hold decides a reservation: its devices are looked at for their port names, and when they have
them they are given, without any change. -/
theorem reserve_of_hold (filed : tables.RecordsFiled)
    (there : tables.templates.get? template = some found)
    (reserved : Selection.reserved (tables.candidates template) assigner template = held)
    (filled : held ≠ []) (pairing : Bool) :
    match reserve assigner found template pairing tables with
    | .ok (records, after) => records = held ∧ after = tables
    | .error failure => Selection.Verdict held (.error failure) := by
  have stored := template_eq_ok.2 there
  cases checked : held.mapM Selection.named with
  | ok ids =>
    have named := (Selection.mapM_named_eq_ok.1 checked).2
    rw [reserve_of_reserved ⟨found, stored⟩ reserved filled ?_ named found pairing]
    · exact ⟨rfl, rfl⟩
    · intro record listed
      obtain ⟨path, among, first⟩ := List.mem_filterMap.1 (reserved ▸ listed)
      exact (stored_of_isCandidate filed ⟨path, among, List.mem_of_find?_eq_some first⟩).2
  | error failure =>
    rw [reserve, reserveWith, stored, Selection.select,
      Selection.chosen_of_reserved reserved filled, checked]
    exact Selection.mapM_named_eq_iff.1 checked

/-- Without a hold, what is reserved was free. -/
theorem free_of_reserve {pairing : Bool} (filed : tables.RecordsFiled)
    (unheld : Selection.reserved (tables.candidates template) assigner template = [])
    (done : reserve assigner found template pairing tables = .ok (records, after)) :
    ∀ record ∈ records, ∃ old, tables.at? record.id = some old ∧ old.Free := by
  obtain ⟨_, rfl, _⟩ := reserve_eq_ok filed done
  refine List.forall_mem_map.2 fun record listed => ⟨record, ?_, ?_⟩
  · exact (stored_of_isCandidate filed (Selection.isCandidate_of_chosen listed)).2
  · exact Selection.free_of_chosen unheld listed

/-- A template that is named by its id is the one that is meant. -/
theorem resolved_of_named (named : template ≠ "")
    (there : tables.templates.get? template = some found) (provider : Option String) :
    tables.resolved (some template) provider = .ok template := by
  have given : Pool.given (some template) = some template :=
    Option.filter_eq_some_iff.2 ⟨rfl, decide_eq_true named⟩
  rw [resolved, given]
  dsimp only
  rw [template_eq_ok.2 there]
  rfl

end Tables

/-! ## Both on the pool -/

open Workflow in
/-- **A reservation agrees with a look at what is held.**  In every state, for every template that
is there and every assigner, the look succeeds and leaves everything as it is.  When it finds
devices, a reservation under the template, which may be named or meant as a default, gives just
these in the same order, or fails on one of them that lacks a port name; and nothing changes.  When
it finds none, every device that a reservation gives was free. -/
theorem reserving_agrees_with_looking {settings : OperatorSettings}
    {scheduler : Scheduler (Outcome Reply)} (reached : scheduler.Reached (Ordered settings))
    {template : String} {found : Template}
    (there : scheduler.store.tables.templates.get? template = some found) (assigner : String)
    (around : Surroundings) :
    (Pool.held assigner template).Ends around { tables := scheduler.store.tables }
      (fun held looked => looked.tables = scheduler.store.tables ∧
        ∀ (pool : PoolSettings) (around' : Surroundings) (named provider : Option String),
          pool.syncBeforeReserve = false →
          scheduler.store.tables.resolved named provider = .ok template →
          (Pool.reserve pool assigner named provider).Ends around' { tables := looked.tables }
            (fun reservation after => reservation.template = template ∧
              (held ≠ [] → reservation.devices = held ∧ after.tables = looked.tables) ∧
              (held = [] → ∀ record ∈ reservation.devices, ∃ old,
                looked.tables.at? record.id = some old ∧ old.Free))
            fun failure after => after.tables = looked.tables ∧
              (held ≠ [] → Selection.Verdict held (.error failure)))
      fun _ _ => False := by
  have filed := reached.recordsFiled
  generalize scheduler.store.tables = tables at there filed ⊢
  rw [Pool.ends_held, Tables.template_eq_ok.2 there]
  refine ⟨rfl, fun pool around' named provider direct meant => ?_⟩
  generalize reserved : Selection.reserved (tables.candidates template) assigner template = held
  refine (Pool.reserve_ends_of_direct direct assigner named provider).mono ?_ ?_
  · rintro ⟨_, records⟩ after ⟨meant', found', there', done⟩
    dsimp only at meant' there' done ⊢
    cases meant.symm.trans meant'
    cases there.symm.trans there'
    refine ⟨rfl, fun filled => ?_, fun none => ?_⟩
    · have decided := Tables.reserve_of_hold filed there reserved filled pool.sameIndexPairing
      rwa [done] at decided
    · exact Tables.free_of_reserve filed (reserved.trans none) done
  · rintro failure after ⟨unchanged, failed⟩
    refine ⟨unchanged, fun filled => ?_⟩
    have decided := Tables.reserve_of_hold filed there reserved filled pool.sameIndexPairing
    rwa [failed template found meant there] at decided

namespace Sample

/-- `A` has reserved the only device there is, which is on one of the two paths of the template. -/
def halfHeld : Scheduler (Outcome Reply) :=
  serving settings (.ok (listingOf [("1A00", "Free")]))
    [.pool .sync, .pool (.createTemplate lenient), .pool (.reserve "A" (some "T") none)]

end Sample

/-- A hold on one of two paths is found, and it is all that a reservation gives. -/
theorem hold_of_one_path_reserved_again :
    ∃ looked, (Pool.held "A" "T").run.alone Sample.refusing
        { tables := Sample.halfHeld.store.tables } = (some (.ok [Sample.owned]), looked) ∧
      looked.tables = Sample.halfHeld.store.tables ∧
      ∀ around, (Pool.reserve Sample.pairing.pool "A" (some "T") none).Ends around
        { tables := looked.tables }
        (fun reservation after =>
          reservation = ⟨"T", [Sample.owned]⟩ ∧ after.tables = looked.tables)
        fun _ _ => False := by
  have reached : Sample.halfHeld.Reached (Ordered Sample.settings) := Sample.serving_reached _ _ _
  obtain ⟨there, found, checked⟩ :
      Sample.halfHeld.store.tables.templates.get? "T" =
        some ⟨"T", "", "", false, some 1, default⟩ ∧
      ((Pool.held "A" "T").run.alone Sample.refusing
        { tables := Sample.halfHeld.store.tables }).1 = some (.ok [Sample.owned]) ∧
      [Sample.owned].mapM Selection.named = .ok [Sample.device] := by decide +kernel
  obtain ⟨looked, run⟩ := Sample.exists_run found
  obtain ⟨same, reserving⟩ :=
    (reserving_agrees_with_looking reached there "A" Sample.refusing).of_ok run
  have meant := Tables.resolved_of_named (by decide) there none
  refine ⟨looked, run, same, fun around =>
    (reserving Sample.pairing.pool around (some "T") none rfl meant).mono ?_ ?_⟩
  · rintro ⟨_, records⟩ after ⟨rfl, given, _⟩
    obtain ⟨rfl, unchanged⟩ := given (List.cons_ne_nil _ _)
    exact ⟨rfl, unchanged⟩
  · rintro failure after ⟨_, refused⟩
    have lacks := Selection.mapM_named_eq_iff.2 (refused (List.cons_ne_nil _ _))
    cases checked.symm.trans lacks

end FibrePool
