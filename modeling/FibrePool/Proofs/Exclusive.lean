import FibrePool.Proofs.Ownership
import FibrePool.Proofs.PoolHistory
import Mathlib.Control.Monad.Basic

/-!
# Exclusive use

Once a device has been reserved by an assigner it stays that assigner's, whatever anybody asks of
the pool, until the assigner releases it or a reconciliation drops it: nobody else reserves it under
any template, connects to it or disconnects from it.

The histories are those in which everybody who asks has a name, every new template has an id, nobody
overwrites the usage of the device, and only changes that were made before are taken back, at any
later time (`Deed.Regular`).  `Orderly` is what they keep about the tables and about the changes
that can still be taken back, and `Owned` is kept next to it from the reservation on.
-/

namespace FibrePool

set_option autoImplicit false

/-! ## Deeds -/

namespace Deed

/-- The deed reserves the device for the assigner. -/
def Reserves (assigner : String) (id : DeviceId) (deed : Deed PoolRequest PoolAnswer) : Prop :=
  ∃ template provider reservation, deed.asked = .reserve assigner template provider ∧
    deed.outcome = .ok (.reservation reservation) ∧ ∃ record ∈ reservation.devices, record.id = id

/-- The deed releases the device of the assigner. -/
def Releases (assigner : String) (id : DeviceId) (deed : Deed PoolRequest PoolAnswer) : Prop :=
  ∃ template records, deed.asked = .unreserve assigner template ∧
    deed.outcome = .ok (.released records) ∧ ∃ record ∈ records, record.id = id

/-- The deed adds a connection of the assigner to the device. -/
def Connects (assigner : String) (id : DeviceId) (deed : Deed PoolRequest PoolAnswer) : Prop :=
  deed.asked = .addUsage id assigner ∧ ∃ answer, deed.outcome = .ok answer

/-- The deed removes a connection of the assigner from the device. -/
def Disconnects (assigner : String) (id : DeviceId) (deed : Deed PoolRequest PoolAnswer) : Prop :=
  deed.asked = .decreaseUsage id assigner ∧ ∃ answer, deed.outcome = .ok answer

/-- The deed gives the device to the assigner, or connects or disconnects the assigner. -/
def Uses (assigner : String) (id : DeviceId) (deed : Deed PoolRequest PoolAnswer) : Prop :=
  deed.Reserves assigner id ∨ deed.Connects assigner id ∨ deed.Disconnects assigner id

/-- One of the deeds has made a change of the usage of the device. -/
def Made (deeds : List (Deed PoolRequest PoolAnswer)) (id : DeviceId) (change : UsageChange) :
    Prop :=
  ∃ deed ∈ deeds, (∃ assigner, deed.asked = .addUsage id assigner) ∧
    deed.outcome = .ok (.change change)

/-- What is known of every deed: assigners and new templates have names, nobody overwrites the usage
of the device, and only changes that were made before are taken back. -/
structure Regular (id : DeviceId) (past : List (Deed PoolRequest PoolAnswer))
    (deed : Deed PoolRequest PoolAnswer) : Prop where
  named : deed.asked.assigner ≠ some ""
  stamped : ∀ observation ∈ deed.seen, observation.StampsNamed
  untargeted : ∀ usage, deed.asked ≠ .setUsage id usage
  restored : ∀ change, deed.asked = .restoreUsage id change → Made past id change

/-- The same of all deeds of a list, each with those before it. -/
def AllRegular (id : DeviceId) (past deeds : List (Deed PoolRequest PoolAnswer)) : Prop :=
  ∀ earlier deed later, deeds = earlier ++ deed :: later → deed.Regular id (past ++ earlier)

/-- No deed both uses a device and releases it. -/
theorem Uses.not_releases {user assigner : String} {id : DeviceId}
    {deed : Deed PoolRequest PoolAnswer} (uses : deed.Uses user id) :
    ¬ deed.Releases assigner id := by
  rintro ⟨template, records, asked, _⟩
  rcases uses with ⟨_, _, _, same, _⟩ | ⟨same, _⟩ | ⟨same, _⟩ <;> cases asked.symm.trans same

theorem allRegular_nil (id : DeviceId) (past : List (Deed PoolRequest PoolAnswer)) :
    AllRegular id past [] :=
  throughout_nil

theorem allRegular_cons_iff {id : DeviceId} {past deeds : List (Deed PoolRequest PoolAnswer)}
    {deed : Deed PoolRequest PoolAnswer} :
    AllRegular id past (deed :: deeds) ↔
      deed.Regular id past ∧ AllRegular id (past ++ [deed]) deeds :=
  throughout_cons_iff

theorem AllRegular.append {id : DeviceId} {past first second : List (Deed PoolRequest PoolAnswer)}
    (regular : AllRegular id past (first ++ second)) :
    AllRegular id past first ∧ AllRegular id (past ++ first) second :=
  Throughout.append regular

end Deed

/-! ## What regular deeds keep -/

/-- What is true of the tables after regular deeds. -/
structure Orderly (id : DeviceId) (past : List (Deed PoolRequest PoolAnswer)) (tables : Tables) :
    Prop where
  sound : tables.RecordsSound
  unnamed : tables.templates.get? "" = none
  reserved : ReservedUnderTemplate (tables.at? id)
  faithful : ∀ change, Deed.Made past id change → change.Faithful

theorem orderly_empty (id : DeviceId) : Orderly id [] ∅ where
  sound := Tables.recordsSound_empty
  unnamed := rfl
  reserved _ stored := by cases stored
  faithful change made := by
    obtain ⟨deed, member, _⟩ := made
    cases member

/-- Regular requests do nothing to the record of the device that is not orderly. -/
theorem isOrderly_of_touches {id : DeviceId} {past : List (Deed PoolRequest PoolAnswer)}
    {tables : Tables} {deed : Deed PoolRequest PoolAnswer} {expected : Observation → Prop}
    (orderly : Orderly id past tables) (regular : deed.Regular id past) {touch : Touch}
    (touches : deed.asked.Touches expected id touch) : touch.IsOrderly := by
  obtain ⟨asked, outcome, seen⟩ := deed
  cases asked with
  | reserve assigner template provider =>
    rcases touches with (rfl | ⟨rfl, _⟩) | ⟨template, rfl⟩ <;> trivial
  | unreserve assigner template =>
    obtain rfl := touches
    trivial
  | addUsage device assigner =>
    obtain ⟨_, rfl⟩ := touches
    trivial
  | decreaseUsage device assigner =>
    obtain ⟨_, rfl⟩ := touches
    trivial
  | restoreUsage device change =>
    obtain ⟨rfl, rfl⟩ := touches
    exact orderly.faithful change (regular.restored change rfl)
  | setUsage device usage =>
    obtain ⟨rfl, rfl⟩ := touches
    exact absurd rfl (regular.untargeted usage)
  | createTemplate request =>
    obtain rfl := touches
    trivial
  | editTemplate template request =>
    obtain rfl := touches
    trivial
  | deleteTemplate template => exact touches.elim
  | sync => rcases touches with rfl | ⟨rfl, _⟩ <;> trivial

section OneDeed

variable {settings : PoolSettings} {id : DeviceId} {past : List (Deed PoolRequest PoolAnswer)}
  {deed : Deed PoolRequest PoolAnswer} {around : Surroundings} {tables : Tables} {scene : Scene}

/-- **A regular deed leaves orderly tables.** -/
theorem orderly_of_run (orderly : Orderly id past tables) (regular : deed.Regular id past)
    (run : (Pool.perform settings deed.asked).run.alone around { tables } =
      (some deed.outcome, scene)) (seen : scene.seen = deed.seen) :
    Orderly id (past ++ [deed]) scene.tables where
  sound := by
    have keeps : deed.asked.Keeps settings (fun _ => True) Tables.RecordsSound :=
      PoolRequest.keeps_of_upkeep (recordsSound_upkeep _) recordsSound_usageChanges regular.named
    exact keeps.preserves.alone run orderly.sound fun _ _ => trivial
  unnamed := by
    have keeps : deed.asked.Keeps settings Observation.StampsNamed
        fun tables => tables.templates.get? "" = none :=
      PoolRequest.keeps_of_upkeep unnamed_upkeep
        (usageChangesKeep_templates fun _ _ absent => absent) regular.named
    exact keeps.preserves.alone run orderly.unnamed (seen ▸ regular.stamped)
  reserved := by
    have altered : Altered (deed.asked.Touches (fun _ => True) id) id _ _ :=
      PoolRequest.altered_of_run run (fun _ _ => trivial) id
    refine altered.keeps ReservedUnderTemplate (fun touch before after touches step => ?_)
      orderly.reserved
    exact step.reservedUnderTemplate (isOrderly_of_touches orderly regular touches)
  faithful change made := by
    obtain ⟨other, member, ⟨assigner, asked⟩, answered⟩ := made
    rcases List.mem_append.1 member with earlier | last
    · exact orderly.faithful change ⟨other, earlier, ⟨assigner, asked⟩, answered⟩
    · obtain rfl := List.mem_singleton.1 last
      rw [asked, answered] at run
      obtain ⟨_, ⟨⟩, done⟩ := Pool.addConnection_of_run run
      exact faithful_of_addConnection orderly.sound orderly.reserved done

variable {owner template : String}

/-- A reservation hands its devices over to the assigner, under a template with an id. -/
theorem owned_of_reserves (orderly : Orderly id past tables) (regular : deed.Regular id past)
    (run : (Pool.perform settings deed.asked).run.alone around { tables } =
      (some deed.outcome, scene)) (taken : deed.Reserves owner id) :
    ∃ template, template ≠ "" ∧ Owned owner template (scene.tables.at? id) := by
  obtain ⟨asked, provider, reservation, same, answered, record, member, rfl⟩ := taken
  have named : owner ≠ "" := fun empty => regular.named (by rw [same, empty]; rfl)
  rw [same, answered] at run
  have reconciles : Reconciles (fun _ => True) fun tables =>
      tables.RecordsSound ∧ tables.templates.get? "" = none := by
    have sound : Reconciles (fun _ => True) Tables.RecordsSound :=
      (recordsSound_upkeep _).reconciles
    intro target text devices seen parsed before result after start done
    refine ⟨@sound target text devices seen parsed before result after start.1 done, ?_⟩
    obtain ⟨_, rfl⟩ := Tables.onlyDevices_reconcile devices done
    exact start.2
  obtain ⟨_, _, before, ⟨⟩, ⟨sound, absent⟩, done⟩ :=
    Pool.reserve_of_run reconciles ⟨orderly.sound, orderly.unnamed⟩ run
  obtain ⟨⟨found, stored⟩, chosen, _, all⟩ := Tables.reserveWith_eq_ok.1 done
  refine ⟨reservation.template, fun empty => ?_, Tables.owned_of_reserveAll named sound all member⟩
  rw [empty, Tables.template_eq_ok, absent] at stored
  cases stored

/-- **An owned device stays its owner's through every deed** that neither releases it for the owner
nor sees a listing without it. -/
theorem owned_of_run (owned : Owned owner template (tables.at? id)) (named : owner ≠ "")
    (under : template ≠ "") (orderly : Orderly id past tables) (regular : deed.Regular id past)
    (run : (Pool.perform settings deed.asked).run.alone around { tables } =
      (some deed.outcome, scene)) (seen : scene.seen = deed.seen)
    (unreleased : ¬ deed.Releases owner id)
    (listed : ∀ observation ∈ deed.seen, observation.Lists id) :
    Owned owner template (scene.tables.at? id) := by
  have altered : Altered (deed.asked.Touches (Observation.Lists id) id) id _ _ :=
    PoolRequest.altered_of_run run (seen ▸ listed) id
  by_cases own : deed.asked = .unreserve owner template
  · -- The owner's own release could end the ownership, but it has left the device out.
    rw [own] at run
    rcases Pool.release_of_run run with same | ⟨records, answered, done⟩
    · rw [same]
      exact owned
    · rw [Tables.at?_of_release orderly.sound done]
      · exact owned
      · intro record member same
        exact unreleased ⟨template, records, own, answered, record, member, same⟩
  · refine altered.keeps (Owned owner template) (fun touch before after touches step => ?_) owned
    refine step.owned (isOrderly_of_touches orderly regular touches) ?_ ?_ named under
    · rintro rfl
      exact not_listingLacks (PoolRequest.listingLacks_of_touches touches)
    · rintro rfl
      exact own (PoolRequest.eq_unreserve_of_touches touches)

/-- Who gets a device, connects to it or disconnects from it is its assigner afterwards. -/
theorem assigner_of_uses {other : String} (orderly : Orderly id past tables)
    (regular : deed.Regular id past)
    (run : (Pool.perform settings deed.asked).run.alone around { tables } =
      (some deed.outcome, scene)) (uses : deed.Uses other id) :
    ∃ record, scene.tables.at? id = some record ∧ record.assigner = other := by
  rcases uses with reserves | ⟨asked, answer, answered⟩ | ⟨asked, answer, answered⟩
  · obtain ⟨_, _, record, stored, _, own, _⟩ := owned_of_reserves orderly regular run reserves
    exact ⟨record, stored, own⟩
  · rw [asked, answered] at run
    obtain ⟨_, _, done⟩ := Pool.addConnection_of_run run
    obtain ⟨record, changed, _, made, _, _, same⟩ := Tables.addConnection_eq_ok.1 done
    obtain ⟨_, rfl⟩ := Tables.connected_eq_ok.1 made
    rw [same, Tables.putRecord_at?_self]
    exact ⟨_, rfl, rfl⟩
  · rw [asked, answered] at run
    obtain ⟨_, done⟩ := Pool.removeConnection_of_run run
    obtain ⟨record, _, made, _, same⟩ := Tables.modifyRecord_eq_ok.1 done
    obtain ⟨_, own, rfl⟩ := Tables.disconnected_eq_ok.1 made
    rw [same, Tables.putRecord_at?_self]
    exact ⟨_, rfl, own⟩

end OneDeed

/-! ## Histories -/

section Histories

variable {settings : PoolSettings} {id : DeviceId}
  {past deeds : List (Deed PoolRequest PoolAnswer)} {before after : Tables}

theorem orderly_of_history (orderly : Orderly id past before)
    (history : History (Pool.perform settings) before deeds after)
    (regular : Deed.AllRegular id past deeds) : Orderly id (past ++ deeds) after := by
  induction deeds generalizing past before with
  | nil =>
    obtain rfl := History.nil_iff.1 history
    rwa [List.append_nil]
  | cons deed rest ih =>
    obtain ⟨around, scene, run, seen, later⟩ := History.cons_iff.1 history
    obtain ⟨first, others⟩ := Deed.allRegular_cons_iff.1 regular
    have := ih (orderly_of_run orderly first run seen) later others
    rwa [List.append_assoc] at this

theorem owned_of_history {owner template : String} (owned : Owned owner template (before.at? id))
    (named : owner ≠ "") (under : template ≠ "") (orderly : Orderly id past before)
    (history : History (Pool.perform settings) before deeds after)
    (regular : Deed.AllRegular id past deeds)
    (unreleased : ∀ deed ∈ deeds, ¬ deed.Releases owner id)
    (listed : ∀ deed ∈ deeds, ∀ observation ∈ deed.seen, observation.Lists id) :
    Owned owner template (after.at? id) := by
  induction deeds generalizing past before with
  | nil =>
    obtain rfl := History.nil_iff.1 history
    exact owned
  | cons deed rest ih =>
    obtain ⟨around, scene, run, seen, later⟩ := History.cons_iff.1 history
    obtain ⟨first, others⟩ := Deed.allRegular_cons_iff.1 regular
    obtain ⟨unreleased, unreleased'⟩ := List.forall_mem_cons.1 unreleased
    obtain ⟨listed, listed'⟩ := List.forall_mem_cons.1 listed
    exact ih (owned_of_run owned named under orderly first run seen unreleased listed)
      (orderly_of_run orderly first run seen) later others unreleased' listed'

variable {earlier between : List (Deed PoolRequest PoolAnswer)}
  {taken : Deed PoolRequest PoolAnswer} {tables : Tables} {owner : String}

/-- **A device is still owned by who has reserved it**, as long as the owner does not release it and
every listing names it. -/
theorem owned_of_reserved
    (history : History (Pool.perform settings) ∅ (earlier ++ taken :: between) tables)
    (regular : Deed.AllRegular id [] (earlier ++ taken :: between))
    (reserved : taken.Reserves owner id) (unreleased : ∀ deed ∈ between, ¬ deed.Releases owner id)
    (listed : ∀ deed ∈ between, ∀ observation ∈ deed.seen, observation.Lists id) :
    owner ≠ "" ∧ ∃ template, template ≠ "" ∧ Owned owner template (tables.at? id) := by
  obtain ⟨start, first, history⟩ := History.append_iff.1 history
  obtain ⟨around, scene, run, seen, history⟩ := History.cons_iff.1 history
  obtain ⟨before, others⟩ := regular.append
  obtain ⟨reserving, after⟩ := Deed.allRegular_cons_iff.1 others
  have named : owner ≠ "" := by
    obtain ⟨_, _, _, asked, _⟩ := reserved
    intro empty
    exact reserving.named (by rw [asked, empty]; rfl)
  have orderly := orderly_of_history (orderly_empty id) first before
  obtain ⟨template, under, owned⟩ := owned_of_reserves orderly reserving run reserved
  have orderly' := orderly_of_run orderly reserving run seen
  exact ⟨named, template, under,
    owned_of_history owned named under orderly' history after unreleased listed⟩

end Histories

/-- **Nobody else gets a device that has been reserved, connects to it or disconnects from it**, as
long as its owner does not release it and every listing names it. -/
theorem reserved_device_stays_exclusive {settings : PoolSettings} {id : DeviceId}
    {earlier between : List (Deed PoolRequest PoolAnswer)}
    {taken last : Deed PoolRequest PoolAnswer} {tables : Tables}
    (history : History (Pool.perform settings) ∅ (earlier ++ taken :: (between ++ [last])) tables)
    (regular : Deed.AllRegular id [] (earlier ++ taken :: (between ++ [last])))
    {owner other : String} (reserved : taken.Reserves owner id)
    (unreleased : ∀ deed ∈ between, ¬ deed.Releases owner id)
    (listed : ∀ deed ∈ between ++ [last], ∀ observation ∈ deed.seen, observation.Lists id)
    (different : other ≠ owner) :
    ¬ last.Reserves other id ∧ ¬ last.Connects other id ∧ ¬ last.Disconnects other id := by
  have excluded : ¬ last.Uses other id := by
    intro uses
    have shape : earlier ++ taken :: (between ++ [last]) =
        (earlier ++ taken :: between) ++ [last] := by simp
    rw [shape] at history regular
    obtain ⟨before, history, final⟩ := History.append_iff.1 history
    obtain ⟨around, scene, run, seen, _⟩ := History.cons_iff.1 final
    obtain ⟨regular, ending⟩ := regular.append
    obtain ⟨regular', _⟩ := Deed.allRegular_cons_iff.1 ending
    obtain ⟨listed, listed'⟩ := List.forall_mem_append.1 listed
    have orderly := orderly_of_history (orderly_empty id) history regular
    obtain ⟨named, template, under, owned⟩ :=
      owned_of_reserved history regular reserved unreleased listed
    obtain ⟨record, stored, _, own, _⟩ := owned_of_run owned named under orderly regular' run seen
      uses.not_releases (List.forall_mem_singleton.1 listed')
    obtain ⟨record', stored', own'⟩ := assigner_of_uses orderly regular' run uses
    cases stored.symm.trans stored'
    exact different (own'.symm.trans own)
  exact ⟨fun uses => excluded (.inl uses), fun uses => excluded (.inr (.inl uses)),
    fun uses => excluded (.inr (.inr uses))⟩

/-! ## A late restoration -/

namespace Sample

/-- A hypervisor that lists the device as free. -/
def listing : Surroundings where
  stamp _ := { id := "T", createdAt := default }
  answer _
    | .listDevices _ => .ok ("FCP device number:1A00\nStatus:Free\nOwner:NONE\n" ++
        "Channel path ID:27\nNPIV world wide port number:1\nPhysical world wide port number:2")
    | _ => .error default

/-- A request after others, with the tables that it leaves. -/
def next (request : PoolRequest) (tables : Tables) : Deed PoolRequest PoolAnswer × Tables :=
  carryOut (Pool.perform settings.pool) listing request tables

/-- The only template is made, and the device listed. -/
def made := next (.createTemplate { devices := "1a00" }) ∅
def synced := next .sync made.2

/-- `A` reserves the device, connects to it, and takes the connection back. -/
def taken := next (.reserve "A" (some "T") none) synced.2
def joined := next (.addUsage device "A") taken.2
def undone := next (.restoreUsage device ⟨⟨"A", true, 0, "T"⟩, ⟨"A", true, 1, "T"⟩⟩) joined.2

/-- `B` asks for a device of the same template. -/
def rival := next (.reserve "B" (some "T") none) undone.2

/-- The record of the device in the hands of `A`. -/
def owned : DeviceRecord where
  id := device
  assigner := "A"
  connections := 0
  reserved := true
  npivName := "1"
  physicalName := "2"
  channelPath := "27"
  state := .free
  owner := "none"
  template := "T"

end Sample

/-- The device stays with its owner, who has taken a connection back, and the rival gets nothing. -/
theorem reserved_device_stays_exclusive_after_restoration :
    Sample.taken.1.Reserves "A" Sample.device ∧
      Sample.rival.1.outcome = .ok (.reservation ⟨"T", []⟩) ∧
      ¬ Sample.rival.1.Reserves "B" Sample.device ∧ ¬ Sample.rival.1.Connects "B" Sample.device ∧
      ¬ Sample.rival.1.Disconnects "B" Sample.device := by
  have history : History (Pool.perform Sample.settings.pool) ∅
      ([Sample.made.1, Sample.synced.1] ++
        Sample.taken.1 :: ([Sample.joined.1, Sample.undone.1] ++ [Sample.rival.1]))
      Sample.rival.2 := by
    have answered : ∀ ran ∈ [Sample.made, Sample.synced, Sample.taken, Sample.joined,
        Sample.undone, Sample.rival], ran.1.outcome.isOk = true := by decide +kernel
    simp only [List.forall_mem_cons] at answered
    obtain ⟨answered₁, answered₂, answered₃, answered₄, answered₅, answered₆, -⟩ := answered
    refine history_of_carryOut rfl (ended_of_isOk answered₁) ?_
    refine history_of_carryOut rfl (ended_of_isOk answered₂) ?_
    refine history_of_carryOut rfl (ended_of_isOk answered₃) ?_
    refine history_of_carryOut rfl (ended_of_isOk answered₄) ?_
    refine history_of_carryOut rfl (ended_of_isOk answered₅) ?_
    exact history_of_carryOut rfl (ended_of_isOk answered₆) (.rest _)
  have outcomes : Sample.taken.1.outcome = .ok (.reservation ⟨"T", [Sample.owned]⟩) ∧
      Sample.joined.1.outcome = .ok (.change ⟨⟨"A", true, 0, "T"⟩, ⟨"A", true, 1, "T"⟩⟩) ∧
      Sample.rival.1.outcome = .ok (.reservation ⟨"T", []⟩) := by decide +kernel
  obtain ⟨given, connected, nothing⟩ := outcomes
  have regular : Deed.AllRegular Sample.device [] ([Sample.made.1, Sample.synced.1] ++
      Sample.taken.1 :: ([Sample.joined.1, Sample.undone.1] ++ [Sample.rival.1])) := by
    have stamped : ∀ deed ∈ [Sample.made.1, Sample.synced.1, Sample.taken.1, Sample.joined.1,
        Sample.undone.1, Sample.rival.1], ∀ observation ∈ deed.seen, observation.StampsNamed := by
      decide +kernel
    simp only [List.forall_mem_cons] at stamped
    obtain ⟨stamped₁, stamped₂, stamped₃, stamped₄, stamped₅, stamped₆, -⟩ := stamped
    refine Deed.allRegular_cons_iff.2 ⟨⟨by decide, stamped₁, nofun, nofun⟩, ?_⟩
    refine Deed.allRegular_cons_iff.2 ⟨⟨by decide, stamped₂, nofun, nofun⟩, ?_⟩
    refine Deed.allRegular_cons_iff.2 ⟨⟨by decide, stamped₃, nofun, nofun⟩, ?_⟩
    refine Deed.allRegular_cons_iff.2 ⟨⟨by decide, stamped₄, nofun, nofun⟩, ?_⟩
    refine Deed.allRegular_cons_iff.2 ⟨⟨by decide, stamped₅, nofun, ?_⟩, ?_⟩
    · intro change same
      obtain rfl : _ = change := (PoolRequest.restoreUsage.inj same).2
      exact ⟨Sample.joined.1, by simp, ⟨"A", rfl⟩, connected⟩
    · refine Deed.allRegular_cons_iff.2 ⟨⟨by decide, stamped₆, nofun, nofun⟩, ?_⟩
      exact Deed.allRegular_nil _ _
  have reserved : Sample.taken.1.Reserves "A" Sample.device :=
    ⟨some "T", none, ⟨"T", [Sample.owned]⟩, rfl, given, Sample.owned, by simp, rfl⟩
  have unreleased : ∀ deed ∈ [Sample.joined.1, Sample.undone.1],
      ¬ deed.Releases "A" Sample.device := by
    have quiet : ∀ deed ∈ [Sample.joined.1, Sample.undone.1], ∀ assigner template,
        deed.asked ≠ .unreserve assigner template := by
      simp [Sample.joined, Sample.undone, Sample.next, carryOut]
    rintro deed member ⟨template, records, asked, _⟩
    exact quiet deed member "A" template asked
  have listed : ∀ deed ∈ [Sample.joined.1, Sample.undone.1] ++ [Sample.rival.1],
      ∀ observation ∈ deed.seen, observation.Lists Sample.device := by decide +kernel
  exact ⟨reserved, nothing,
    reserved_device_stays_exclusive history regular reserved unreleased listed (by decide)⟩

end FibrePool
