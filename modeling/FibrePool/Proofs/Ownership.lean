import FibrePool.Proofs.RecordSound

/-!
# Ownership

A device that is reserved under a template is owned by the assigner who reserved it.  Every step of
its record looks at who holds the device, except the one that puts an earlier usage back: it only
looks whether the usage is still the one that it was told of.

That this is enough is the point of `UsageChange.Faithful`: a connection that was made under a
template was made by the assigner who had reserved the device under it, so the usage before it names
the same owner.  A late rollback of anybody else never finds the usage it was told of.
-/

namespace FibrePool

set_option autoImplicit false

/-! ## Owned records -/

/-- The record is reserved for the assigner under the template. -/
def Owned (assigner template : String) (stored : Option DeviceRecord) : Prop :=
  ∃ record, stored = some record ∧ record.reserved = true ∧ record.assigner = assigner ∧
    record.template = template

/-- Only reserved devices are held under a template. -/
def ReservedUnderTemplate (stored : Option DeviceRecord) : Prop :=
  ∀ record, stored = some record → record.template ≠ "" → record.reserved = true

/-- A connection changes neither the template nor, under a template, the owner. -/
structure UsageChange.Faithful (change : UsageChange) : Prop where
  template : change.previous.template = change.current.template
  reserved : change.previous.template ≠ "" → change.previous.reserved = true
  owner : change.previous.template ≠ "" → change.previous.assigner = change.current.assigner

/-- Nobody overwrites a usage, and only faithful changes are taken back. -/
def Touch.IsOrderly : Touch → Prop
  | .restoration change => change.Faithful
  | .overwriting _ => False
  | _ => True

section Steps

variable {id : DeviceId} {touch : Touch} {before after : Option DeviceRecord}
  {assigner template : String} {record changed : DeviceRecord}

/-- Who connects to a reserved device has reserved it. -/
theorem assigner_of_connected (reserved : record.reserved = true) (named : record.assigner ≠ "")
    (done : Tables.connected assigner record = .ok changed) : record.assigner = assigner := by
  obtain ⟨free, _⟩ := Tables.connected_eq_ok.1 done
  refine Decidable.byContradiction fun different => free ⟨named, different, ?_⟩
  rw [DeviceRecord.isInUse, reserved, Bool.true_or]

theorem RecordStep.reservedUnderTemplate (step : RecordStep id touch before after)
    (orderly : touch.IsOrderly) (holds : ReservedUnderTemplate before) :
    ReservedUnderTemplate after := by
  intro record stored under
  cases step with
  | listed =>
    cases stored
    exact absurd rfl under
  | refreshed =>
    cases stored
    have old := holds _ rfl
    exact old under
  | removed => cases stored
  | named =>
    cases stored
    exact absurd rfl under
  | reserved =>
    cases stored
    rfl
  | released =>
    cases stored
    exact absurd rfl under
  | connected done =>
    cases stored
    obtain ⟨_, rfl⟩ := Tables.connected_eq_ok.1 done
    rfl
  | restored done =>
    cases stored
    obtain ⟨_, rfl⟩ := Tables.restored_eq_ok.1 done
    exact orderly.reserved under
  | disconnected done =>
    cases stored
    obtain ⟨_, _, rfl⟩ := Tables.disconnected_eq_ok.1 done
    have old := holds _ rfl
    exact old under
  | overwritten => exact orderly.elim

/-- **A reserved device stays its owner's in every step** that is neither its removal nor its
release by the owner. -/
theorem RecordStep.owned (step : RecordStep id touch before after) (orderly : touch.IsOrderly)
    (kept : touch ≠ .removal) (unreleased : touch ≠ .release assigner template)
    (named : assigner ≠ "") (under : template ≠ "") (owned : Owned assigner template before) :
    Owned assigner template after := by
  obtain ⟨record, rfl, reserved, rfl, rfl⟩ := owned
  cases step with
  | refreshed => exact ⟨_, rfl, reserved, rfl, rfl⟩
  | removed => exact absurd rfl kept
  | reserved available =>
    rcases available with held | free
    · obtain ⟨own, under, _⟩ := DeviceRecord.isHeldBy_iff.1 held
      exact ⟨_, rfl, rfl, own.symm, under.symm⟩
    · rw [(DeviceRecord.isFree_iff.1 free).2.1] at reserved
      cases reserved
  | released releasable =>
    obtain ⟨_, _, rfl, rfl⟩ := Tables.isReleasable_iff.1 releasable
    exact absurd rfl unreleased
  | connected done =>
    have same := assigner_of_connected reserved named done
    obtain ⟨_, rfl⟩ := Tables.connected_eq_ok.1 done
    exact ⟨_, rfl, rfl, same.symm, rfl⟩
  | restored done =>
    obtain ⟨current, rfl⟩ := Tables.restored_eq_ok.1 done
    have template_eq : record.template = _ := congrArg Usage.template current
    have assigner_eq : record.assigner = _ := congrArg Usage.assigner current
    have same := orderly.template.trans template_eq.symm
    refine ⟨_, rfl, ?_, ?_, same⟩
    · exact orderly.reserved (same ▸ under)
    · exact (orderly.owner (same ▸ under)).trans assigner_eq.symm
  | disconnected done =>
    obtain ⟨_, _, rfl⟩ := Tables.disconnected_eq_ok.1 done
    exact ⟨_, rfl, reserved, rfl, rfl⟩
  | overwritten => exact orderly.elim

end Steps

/-- **Every connection is a faithful change.** -/
theorem faithful_of_addConnection {tables after : Tables} {id : DeviceId} {assigner : String}
    {change : UsageChange} (sound : tables.RecordsSound)
    (holds : ReservedUnderTemplate (tables.at? id))
    (done : Tables.addConnection id assigner tables = .ok (change, after)) : change.Faithful := by
  obtain ⟨record, changed, stored, made, _, rfl, rfl⟩ := Tables.addConnection_eq_ok.1 done
  have owner (under : record.template ≠ "") : record.assigner = assigner := by
    have reserved := holds record stored under
    have named := (sound id record stored).assigner_of_reserved reserved
    exact assigner_of_connected reserved named made
  obtain ⟨_, rfl⟩ := Tables.connected_eq_ok.1 made
  exact ⟨rfl, holds record stored, owner⟩

/-! ## Devices that are given and taken back -/

namespace Tables

variable {assigner template : String} {tables after : Tables}

/-- Every device that a reservation gives is reserved by it. -/
theorem owned_of_reserveAll {ids : List DeviceId} {results : List DeviceRecord}
    (named : assigner ≠ "") (sound : tables.RecordsSound)
    (done : reserveAll assigner template ids tables = .ok (results, after)) {record : DeviceRecord}
    (member : record ∈ results) : Owned assigner template (after.at? record.id) := by
  induction ids generalizing tables results with
  | nil =>
    cases done
    cases member
  | cons id rest ih =>
    obtain ⟨result, middle, others, one, all, rfl⟩ := reserveAll_cons_eq_ok.1 done
    rcases List.mem_cons.1 member with rfl | later
    · obtain ⟨old, stored, _, same, rfl⟩ := reserveOne_eq_ok.1 one
      have own : record.id = id := same ▸ (sound id old stored).own_id
      rw [own]
      -- Later reservations for the same assigner may only reserve the device once more.
      refine (altered_reserveAll all id).keeps (Owned assigner template) ?_ ?_
      · rintro touch before final ⟨_, rfl⟩ step _
        cases step
        exact ⟨_, rfl, rfl, rfl, rfl⟩
      · rw [putRecord_at?_self]
        exact ⟨record, rfl, same ▸ rfl, same ▸ rfl, same ▸ rfl⟩
    · refine ih ?_ all later
      intro other
      refine (altered_reserveOne one other).keeps
        (fun stored => ∀ record, stored = some record → record.SoundFor other) ?_ (sound other)
      rintro touch before final ⟨_, rfl⟩ step
      exact step.soundFor named

/-- What is released is given back, and the rest stays. -/
theorem at?_of_release {results : List DeviceRecord} {id : DeviceId} (sound : tables.RecordsSound)
    (done : release assigner template tables = .ok (results, after))
    (other : ∀ record ∈ results, record.id ≠ id) : after.at? id = tables.at? id := by
  rw [release_at? done id]
  obtain ⟨rfl, _⟩ := modifyWhere_eq_ok done
  cases stored : tables.at? id with
  | none => rfl
  | some record =>
    rw [Option.map_some, if_neg]
    intro releasable
    have listed : record ∈ tables.devices.values := OrderedMap.mem_values_iff.2 ⟨id, stored⟩
    refine other (released record) ?_ (sound id record stored).own_id
    exact List.mem_map.2 ⟨record, List.mem_filter.2 ⟨listed, releasable⟩, rfl⟩

end Tables

end FibrePool
