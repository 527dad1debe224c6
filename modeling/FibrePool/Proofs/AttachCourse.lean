import FibrePool.Proofs.Reversal

/-!
# The course of an attach

An attach asks the systems around it in one order: whether the guest is there, then to dedicate the
devices that were idle, then to configure the volume.  When a device cannot be dedicated it asks for
the dedicated ones back, the latest first; when the volume cannot be configured it asks for nothing
more.  Nothing is asked of anybody while a connection may still be refused.

`AttachCourse` says for every pattern of answers which calls are made and how the attach ends, and
`attach_follows_course` that this is what happens, from any tables an operator can have.  The list
of a request may name devices several times, and devices that are connected already: what is
dedicated are the idle ones, each at its first place in the list.

All counters must have room for the list.  A counter that runs over at one mention of a device makes
the next mention look like a first connection (`overflow_dedicates_connected_device`).
-/

namespace FibrePool

set_option autoImplicit false

open Workflow

/-! ## Idle devices of a list -/

namespace Tables

variable {assigner : String} {before after tables : Tables} {devices left : List DeviceId}
  {id : DeviceId}

/-- Devices that are connected are not idle any more, all others are as they were. -/
theorem isIdle_of_runs_addConnection (room : before.HasRoom (devices ++ left))
    (runs : Transaction.Runs (fun id => addConnection id assigner) devices before after) :
    after.HasRoom left ∧ (after.isIdle id = true ↔ before.isIdle id = true ∧ id ∉ devices) := by
  induction devices generalizing before with
  | nil =>
    obtain rfl : after = before := runs
    exact ⟨room, by simp⟩
  | cons device rest ih =>
    obtain ⟨change, middle, done, further⟩ := runs
    obtain ⟨later, idle⟩ := ih (room.addConnection done) further
    refine ⟨later, ?_⟩
    rw [idle, List.mem_cons, not_or]
    by_cases same : id = device
    · subst same
      simp [(isIdle_addConnection room done).2]
    · rw [isIdle_congr (at?_of_addConnection done id same)]
      simp [same]

/-- The idle devices of a list, each at its first place in it. -/
def idleOf (tables : Tables) (devices : List DeviceId) : List DeviceId :=
  (devices.filter tables.isIdle).eraseDups

theorem idleOf_snoc : tables.idleOf (devices ++ [id]) =
    tables.idleOf devices ++ if tables.isIdle id = true ∧ id ∉ devices then [id] else [] := by
  rw [idleOf, List.filter_append, List.eraseDups_append, ← idleOf]
  by_cases idle : tables.isIdle id = true
  · by_cases listed : id ∈ devices <;> simp [idle, listed, List.removeAll, List.eraseDups_cons]
  · simp [idle, List.removeAll]

end Tables

/-! ## How a failure is told -/

namespace Rollback

/-- Only what could not be taken from a guest makes a rollback incomplete. -/
theorem Told.incomplete_iff {operation : String} {devices : List DeviceId} {restored : List String}
    {cause failure : Failure} {refused : List (DeviceId × Failure)}
    (told : Told operation devices restored cause refused failure) :
    (∃ step reason errors, failure = .rollbackIncomplete step reason errors) ↔ refused ≠ [] := by
  cases told with
  | incomplete some => exact ⟨fun _ => some, fun _ => ⟨_, _, _, rfl⟩⟩
  | asItIs about =>
    refine ⟨?_, fun some => (some rfl).elim⟩
    rintro ⟨step, reason, errors, rfl⟩
    cases about
  | whole other =>
    refine ⟨?_, fun some => (some rfl).elim⟩
    rintro ⟨step, reason, errors, same⟩
    cases same

end Rollback

theorem mem_refusals {takings : List Taking} {id : DeviceId} {cause : Failure} :
    (id, cause) ∈ refusals takings ↔ (id, .error cause) ∈ takings := by
  rw [refusals, List.mem_filterMap]
  constructor
  · rintro ⟨⟨other, _ | failure⟩, listed, same⟩ <;> cases same
    exact listed
  · exact fun listed => ⟨_, listed, rfl⟩

theorem refusals_ne_nil_iff {takings : List Taking} :
    refusals takings ≠ [] ↔ ∃ id cause, (id, .error cause) ∈ takings := by
  constructor
  · intro some
    obtain ⟨⟨id, cause⟩, member⟩ := List.exists_mem_of_ne_nil _ some
    exact ⟨id, cause, mem_refusals.1 member⟩
  · rintro ⟨id, cause, listed⟩
    exact List.ne_nil_of_mem (mem_refusals.2 listed)

/-- A device that could not be taken is seen as a call that failed. -/
theorem mem_asked {takings : List Taking} {user : String} {id : DeviceId} {answer : Outcome Unit} :
    Observation.called (.undedicate id user) answer ∈ takings.map (Taking.asked user) ↔
      (id, answer) ∈ takings := by
  rw [List.mem_map]
  constructor
  · rintro ⟨⟨other, given⟩, listed, same⟩
    cases same
    exact listed
  · exact fun listed => ⟨_, listed, rfl⟩

/-! ## The course -/

namespace Volume

/-- A device was dedicated. -/
def granted (user : String) (id : DeviceId) : Observation := .called (.dedicate id user) (.ok ())

/-- What an attach asks for a guest that is there, from the tables `before` on, and how it ends. -/
inductive Serving (connection : VolumeConnection) (user : String) (before : Tables) :
    List Observation → Outcome Output → Prop where
  | /-- A device cannot be connected; nothing has been asked of anybody. -/
    refused {done rest : List DeviceId} {id : DeviceId} {middle : Tables} {cause failure : Failure}
    (place : connection.devices = done ++ id :: rest)
    (connected : Transaction.Runs (fun id => Tables.addConnection id user) done before middle)
    (refused : Tables.addConnection id user middle = .error cause)
    (told : Rollback.Told "attach" connection.devices (done.reverse.map DeviceId.text) cause []
      failure) :
    Serving connection user before [] (.error failure)
  | /-- Only the connections are counted. -/
    counted {after : Tables}
    (connected : Transaction.Runs (fun id => Tables.addConnection id user) connection.devices before
      after)
    (skips : connection.skipsSideEffects = true) : Serving connection user before [] (.ok .done)
  | /-- An idle device cannot be dedicated; those before it are asked back. -/
    notDedicated {after : Tables} {given rest : List DeviceId} {id : DeviceId} {cause : Failure}
    {takings : List Taking} {failure : Failure}
    (connected : Transaction.Runs (fun id => Tables.addConnection id user) connection.devices before
      after)
    (acts : connection.skipsSideEffects = false)
    (place : before.idleOf connection.devices = given ++ id :: rest)
    (asked : takings.map (·.1) = given.reverse)
    (told : Rollback.Told "attach" connection.devices
      (connection.devices.reverse.map DeviceId.text) cause (refusals takings) failure) :
    Serving connection user before (given.map (granted user) ++
      .called (.dedicate id user) (.error cause) :: takings.map (Taking.asked user))
      (.error failure)
  | /-- The guest does not configure the volume; it keeps the dedicated devices. -/
    notConfigured {after : Tables} {cause failure : Failure}
    (connected : Transaction.Runs (fun id => Tables.addConnection id user) connection.devices before
      after)
    (acts : connection.skipsSideEffects = false)
    (told : Rollback.Told "attach" connection.devices
      (connection.devices.reverse.map DeviceId.text) cause [] failure) :
    Serving connection user before ((before.idleOf connection.devices).map (granted user) ++
      [.called (.configureAttach (connection.inGuest user)) (.error cause)]) (.error failure)
  | /-- The guest has the volume. -/
    attached {after : Tables}
    (connected : Transaction.Runs (fun id => Tables.addConnection id user) connection.devices before
      after)
    (acts : connection.skipsSideEffects = false) :
    Serving connection user before ((before.idleOf connection.devices).map (granted user) ++
      [.called (.configureAttach (connection.inGuest user)) (.ok ())]) (.ok .done)

/-- What an attach asks, from the tables `before` on, and how it ends.  Nobody asks whether the
guest of a root volume is there. -/
inductive AttachCourse (connection : VolumeConnection) (user : String) (before : Tables) :
    List Observation → Outcome Output → Prop where
  | root {calls : List Observation} {outcome : Outcome Output}
    (root : connection.isRootVolume = true)
    (serving : Serving connection user before calls outcome) :
    AttachCourse connection user before calls outcome
  | unchecked {cause : Failure} (other : connection.isRootVolume = false) :
    AttachCourse connection user before [.called (.guestExists user) (.error cause)] (.error cause)
  | absent (other : connection.isRootVolume = false) :
    AttachCourse connection user before [.called (.guestExists user) (.ok false)]
      (.error (.guestNotFound user))
  | present {calls : List Observation} {outcome : Outcome Output}
    (other : connection.isRootVolume = false)
    (serving : Serving connection user before calls outcome) :
    AttachCourse connection user before (.called (.guestExists user) (.ok true) :: calls) outcome

/-- The failure of an attach is an incomplete rollback exactly when a device could not be taken. -/
theorem Serving.incomplete_iff {connection : VolumeConnection} {user : String} {before : Tables}
    {calls : List Observation} {outcome : Outcome Output}
    (serving : Serving connection user before calls outcome) :
    (∃ step reason errors, outcome = .error (.rollbackIncomplete step reason errors)) ↔
      ∃ id cause, .called (.undedicate id user) (.error cause) ∈ calls := by
  have given (ids : List DeviceId) (id : DeviceId) (answer : Outcome Unit) :
      .called (.undedicate id user) answer ∉ ids.map (granted user) := by
    rw [List.mem_map]
    rintro ⟨_, _, same⟩
    cases same
  cases serving with
  | refused _ _ _ told =>
    simpa using told.incomplete_iff
  | counted _ _ => simp
  | notDedicated _ _ _ _ told =>
    simpa [given, mem_asked, refusals_ne_nil_iff] using told.incomplete_iff
  | notConfigured _ _ told =>
    simpa [given] using told.incomplete_iff
  | attached _ _ => simp [given]

/-! ## The loops -/

variable {around : Surroundings} {scene : Scene} {assigner : String}

/-- Where an attach stands that has added connections to the devices `done`. -/
structure Adding (assigner : String) (first : Scene) (done : List DeviceId) (rollback : Rollback)
    (now : Scene) : Prop where
  attaching : Attaching assigner first rollback now
  runs : Transaction.Runs (fun id => Tables.addConnection id assigner) done first.tables now.tables
  calls : now.calls = first.calls
  dedicated : rollback.dedicated = []
  connected : rollback.connected.map (·.1) = done.reverse
  fresh : newlyConnected rollback = first.tables.idleOf done

theorem adding_nil (sound : scene.tables.RecordsSound) : Adding assigner scene [] {} scene where
  attaching := ⟨Rollback.leadsBack_nil scene.tables, rfl, sound, rfl⟩
  runs := rfl
  calls := rfl
  dedicated := rfl
  connected := rfl
  fresh := rfl

theorem Adding.connect {first now after : Scene} {done rest : List DeviceId}
    {rollback : Rollback} {id : DeviceId} {change : UsageChange}
    (adding : Adding assigner first done rollback now)
    (room : first.tables.HasRoom (done ++ id :: rest)) (present : assigner ≠ "")
    (added : Tables.addConnection id assigner now.tables = .ok (change, after.tables))
    (steps : now.StepsTo after.tables after) :
    Adding assigner first (done ++ [id])
      { rollback with connected := (id, change) :: rollback.connected } after where
  attaching := adding.attaching.connect present added steps
  runs := adding.runs.snoc added
  calls := steps.2.trans adding.calls
  dedicated := adding.dedicated
  connected := by
    rw [List.map_cons, adding.connected, List.reverse_append]
    rfl
  fresh := by
    have first : change.isFirstConnection = true ↔
        first.tables.isIdle id = true ∧ id ∉ done := by
      obtain ⟨later, idle⟩ := Tables.isIdle_of_runs_addConnection room adding.runs
      rw [(Tables.isIdle_addConnection later added).1, idle]
    rw [newlyConnected_cons, adding.fresh, Tables.idleOf_snoc]
    simp only [first]

/-- Nothing but connections is to be taken back. -/
theorem Adding.usageOnly {first now : Scene} {done : List DeviceId} {rollback : Rollback}
    (adding : Adding assigner first done rollback now) :
    { connected := rollback.connected } = rollback := by
  obtain ⟨dedicated, connected, disconnected⟩ := rollback
  obtain rfl : dedicated = [] := adding.dedicated
  obtain rfl : disconnected = [] := adding.attaching.nothing
  rfl

/-- What is put back when connections were added to the devices `done`. -/
theorem Adding.restored {first now : Scene} {done : List DeviceId} {rollback : Rollback}
    (adding : Adding assigner first done rollback now) :
    rollback.restored = done.reverse.map DeviceId.text := by
  rw [Rollback.restored, adding.attaching.nothing, List.map_nil, List.append_nil,
    ← adding.connected, List.map_map]
  rfl

/-- A failure that leaves the guest what was dedicated asks for nothing back. -/
theorem Adding.fails {α : Type} {first now : Scene} {done devices : List DeviceId}
    {rollback : Rollback} {cause : Failure} (adding : Adding assigner first done rollback now)
    (noted : Scene) (same : noted.tables = now.tables) :
    Ends around (Rollback.fail { connected := rollback.connected } "attach" assigner devices cause :
        Workflow α) noted (fun _ _ => False) fun failure last => last.calls = noted.calls ∧
      Rollback.Told "attach" devices (done.reverse.map DeviceId.text) cause [] failure := by
  have back : Rollback.LeadsBack { connected := rollback.connected } assigner noted.tables
      first.tables := by
    rw [adding.usageOnly, same]
    exact adding.attaching.back
  refine (Rollback.fail_tells back).mono (fun _ _ => False.elim) ?_
  rintro failure last ⟨_, takings, takes, told⟩
  obtain rfl : takings = [] := List.map_eq_nil_iff.1 takes.devices
  rw [adding.usageOnly, adding.restored] at told
  exact ⟨takes.calls.trans (List.append_nil _), told⟩

/-- **Connecting the devices of a request asks nobody.**  When one is refused, this is told. -/
theorem connectAll_course (present : assigner ≠ "") (sound : scene.tables.RecordsSound)
    {devices : List DeviceId} (room : scene.tables.HasRoom devices) :
    (eachDevice "attach" assigner devices (connect assigner) {} devices).Ends around scene
      (fun rollback now => Adding assigner scene devices rollback now)
      fun failure now => now.calls = scene.calls ∧ ∃ done id rest middle cause,
        devices = done ++ id :: rest ∧
        Transaction.Runs (fun id => Tables.addConnection id assigner) done scene.tables middle ∧
        Tables.addConnection id assigner middle = .error cause ∧
        Rollback.Told "attach" devices (done.reverse.map DeviceId.text) cause [] failure := by
  refine (eachDevice_ends_of (fun left rollback now => ∃ done, done ++ left = devices ∧
    Adding assigner scene done rollback now) ?_ ⟨[], rfl, adding_nil sound⟩).mono ?_ fun _ _ => id
  · rintro id rest rollback now ⟨done, whole, adding⟩
    unfold connect
    rw [ends_bind]
    refine (Pool.addUsage_ends id assigner).mono ?_ ?_
    · rintro change after ⟨added, steps⟩
      refine (ends_pure _).2 ⟨done ++ [id], ?_, adding.connect (whole ▸ room) present added steps⟩
      rw [List.append_assoc]
      exact whole
    · rintro cause _ ⟨refused, rfl⟩
      rw [← adding.usageOnly]
      refine (adding.fails _ rfl).mono (fun _ _ => False.elim) ?_
      rintro failure last ⟨calls, told⟩
      exact ⟨calls.trans adding.calls, done, id, rest, _, cause, whole.symm, adding.runs, refused,
        told⟩
  · rintro rollback now ⟨done, whole, adding⟩
    rw [List.append_nil] at whole
    exact whole ▸ adding

/-- **Dedicating devices stops at the first one that is refused**; then those before it are asked
back, the latest first. -/
theorem dedicateAll_course {first : Scene} {devices : List DeviceId} {rollback : Rollback}
    (adding : Adding assigner first devices rollback scene) (idle : List DeviceId) :
    (eachDevice "attach" assigner devices (dedicate assigner) rollback idle).Ends around scene
      (fun next now => next.connected = rollback.connected ∧ now.tables = scene.tables ∧
        now.calls = scene.calls ++ idle.map (granted assigner))
      fun failure now => ∃ given id rest cause takings, idle = given ++ id :: rest ∧
        takings.map (·.1) = given.reverse ∧
        now.calls = scene.calls ++ (given.map (granted assigner) ++
          .called (.dedicate id assigner) (.error cause) :: takings.map (Taking.asked assigner)) ∧
        Rollback.Told "attach" devices (devices.reverse.map DeviceId.text) cause
          (refusals takings) failure := by
  refine (eachDevice_ends_of (fun left next now => ∃ given, given ++ left = idle ∧
    next = { rollback with dedicated := given.reverse } ∧ now.tables = scene.tables ∧
    now.calls = scene.calls ++ given.map (granted assigner)) ?_ ?_).mono ?_ fun _ _ => id
  · rintro id rest _ now ⟨given, whole, rfl, same, calls⟩
    unfold dedicate
    rw [ends_bind, ends_call]
    split
    · refine (ends_pure _).2 ⟨given ++ [id], ?_, ?_, same, ?_⟩
      · rw [List.append_assoc]
        exact whole
      · rw [List.reverse_append]
        rfl
      · rw [Scene.note_calls, calls, List.map_append, List.append_assoc]
        rfl
    · next cause _ =>
      have back : Rollback.LeadsBack { rollback with dedicated := given.reverse } assigner
          (now.note (.called (.dedicate id assigner) (.error cause))).tables first.tables := by
        rw [Scene.note_tables, same]
        exact adding.attaching.back.dedicated _
      refine (Rollback.fail_tells back).mono (fun _ _ => False.elim) ?_
      rintro failure last ⟨_, takings, takes, told⟩
      refine ⟨given, id, rest, cause, takings, whole.symm, takes.devices, ?_, ?_⟩
      · rw [takes.calls, Scene.note_calls, calls]
        simp [Observation.isCall]
      · rw [← adding.restored]
        exact told
  · refine ⟨[], rfl, ?_, rfl, (List.append_nil _).symm⟩
    rw [List.reverse_nil, ← adding.dedicated]
  · rintro next now ⟨given, whole, rfl, same, calls⟩
    rw [List.append_nil] at whole
    exact ⟨rfl, same, whole ▸ calls⟩

/-! ## The whole attach -/

/-- Once the connections are added the guest is provided with its devices and the volume. -/
theorem provide_course {asked now : Scene} {connected : Rollback} {connection : VolumeConnection}
    (adding : Adding assigner asked connection.devices connected now)
    (acts : connection.skipsSideEffects = false) :
    Ends around (do
      let dedicated ← eachDevice "attach" assigner connection.devices (dedicate assigner) connected
        (newlyConnected connected)
      match ← Workflow.outcome (Workflow.call (.configureAttach (connection.inGuest assigner))) with
      | .ok _ => return
      | .error cause =>
        let usageOnly : Rollback := { connected := dedicated.connected }
        usageOnly.fail "attach" assigner connection.devices cause) now
      (fun _ last => ∃ calls, last.calls = asked.calls ++ calls ∧
        Serving connection assigner asked.tables calls (.ok .done))
      fun failure last => ∃ calls, last.calls = asked.calls ++ calls ∧
        Serving connection assigner asked.tables calls (.error failure) := by
  rw [ends_bind, adding.fresh]
  refine (dedicateAll_course adding _).mono ?_ ?_
  · rintro dedicated middle ⟨connections, unchanged, calls⟩
    rw [adding.calls] at calls
    rw [ends_bind, ends_outcome, ends_call]
    split
    · refine (ends_pure ()).2 ⟨_, ?_, .attached adding.runs acts⟩
      rw [Scene.note_calls, calls, List.append_assoc]
      rfl
    · next cause _ =>
      let refused := middle.note
        (.called (.configureAttach (connection.inGuest assigner)) (.error cause))
      simp only [connections]
      refine (adding.fails refused unchanged).mono (fun _ _ => False.elim) ?_
      rintro failure last ⟨made, told⟩
      refine ⟨_, ?_, .notConfigured adding.runs acts told⟩
      rw [made, Scene.note_calls, calls, List.append_assoc]
      rfl
  · rintro failure last ⟨given, id, rest, cause, takings, place, taken, calls, told⟩
    rw [adding.calls] at calls
    exact ⟨_, calls, .notDedicated adding.runs acts place taken told⟩

/-- **An attach serves a guest that is there**, asking for what is on its course and for nothing
else. -/
theorem attachAlone_course (present : assigner ≠ "") (sound : scene.tables.RecordsSound)
    {connection : VolumeConnection} (room : scene.tables.HasRoom connection.devices) :
    (attachAlone assigner connection).Ends around scene
      (fun _ now => ∃ calls, now.calls = scene.calls ++ calls ∧
        AttachCourse connection assigner scene.tables calls (.ok .done))
      fun failure now => ∃ calls, now.calls = scene.calls ++ calls ∧
        AttachCourse connection assigner scene.tables calls (.error failure) := by
  unfold attachAlone
  extract_lets attaching
  have serving (asked : Scene) (same : asked.tables = scene.tables) :
      (attaching ()).Ends around asked
        (fun _ now => ∃ calls, now.calls = asked.calls ++ calls ∧
          Serving connection assigner scene.tables calls (.ok .done))
        fun failure now => ∃ calls, now.calls = asked.calls ++ calls ∧
          Serving connection assigner scene.tables calls (.error failure) := by
    unfold attaching
    rw [ends_bind, ← same]
    refine (connectAll_course present (same ▸ sound) (same ▸ room)).mono ?_ ?_
    · intro connected now adding
      split
      · next skips =>
        exact (ends_pure ()).2 ⟨[], by rw [adding.calls, List.append_nil],
          .counted adding.runs skips⟩
      · next acts => exact provide_course adding (Bool.eq_false_iff.2 acts)
    · rintro failure now ⟨calls, done, id, rest, middle, cause, place, added, refused, told⟩
      exact ⟨[], by rw [calls, List.append_nil], .refused place added refused told⟩
  split
  · next other =>
    have other : connection.isRootVolume = false := Bool.not_eq_true' _ ▸ other
    rw [ends_bind, ends_call]
    split
    · next found _ =>
      cases found with
      | false =>
        refine (ends_bind _ _).2 ((ends_throw _).2 ⟨_, ?_, .absent other⟩)
        rw [Scene.note_calls]
        rfl
      | true =>
        let asked := scene.note (.called (.guestExists assigner) (.ok true))
        have behind (outcome : Outcome Output) (now : Scene) (served : ∃ calls,
            now.calls = asked.calls ++ calls ∧
              Serving connection assigner scene.tables calls outcome) : ∃ calls,
            now.calls = scene.calls ++ calls ∧
              AttachCourse connection assigner scene.tables calls outcome := by
          obtain ⟨calls, made, served⟩ := served
          refine ⟨_, ?_, .present other served⟩
          rw [made, Scene.note_calls, List.append_assoc]
          rfl
        exact (serving asked rfl).mono (fun _ => behind _) fun _ => behind _
    · refine ⟨_, ?_, .unchecked other⟩
      rw [Scene.note_calls]
      rfl
  · next root =>
    have root : connection.isRootVolume = true := by simpa using root
    exact (serving scene rfl).mono (fun _ _ => Exists.imp fun _ => And.imp_right (.root root))
      fun _ _ => Exists.imp fun _ => And.imp_right (.root root)

/-- The failure of an attach is an incomplete rollback exactly when a device could not be taken from
the guest, unless such a failure came with the answer whether the guest is there. -/
theorem AttachCourse.incomplete_iff {connection : VolumeConnection} {user : String}
    {before : Tables} {calls : List Observation} {outcome : Outcome Output}
    (course : AttachCourse connection user before calls outcome)
    (own : ∀ step reason errors,
      .called (.guestExists user) (.error (.rollbackIncomplete step reason errors)) ∉ calls) :
    (∃ step reason errors, outcome = .error (.rollbackIncomplete step reason errors)) ↔
      ∃ id cause, .called (.undedicate id user) (.error cause) ∈ calls := by
  cases course with
  | root _ serving => exact serving.incomplete_iff
  | unchecked _ =>
    constructor
    · rintro ⟨step, reason, errors, same⟩
      cases same
      exact (own step reason errors List.mem_cons_self).elim
    · simp
  | absent _ => simp
  | present _ serving => simpa using serving.incomplete_iff

/-- Counting an action asks nobody. -/
theorem calls_finished {scene : Scene} {name : String} {succeeded : Bool} :
    (scene.note (.measured (.finished name succeeded))).calls = scene.calls := by
  simp [Observation.isCall]

theorem requiredDevices_of_ne_nil {devices : List DeviceId} (named : devices ≠ []) :
    requiredDevices devices = .ok () :=
  if_neg (by simpa using named)

theorem attach_course {scene : Scene} {connection : VolumeConnection} {around : Surroundings}
    (present : guestName connection.assigner ≠ "") (named : connection.devices ≠ [])
    (sound : scene.tables.RecordsSound) (room : scene.tables.HasRoom connection.devices) :
    (attach connection).Ends around scene
      (fun _ now => ∃ calls, now.calls = scene.calls ++ calls ∧
        AttachCourse connection (guestName connection.assigner) scene.tables calls (.ok .done))
      fun failure now => ∃ calls, now.calls = scene.calls ++ calls ∧
        AttachCourse connection (guestName connection.assigner) scene.tables calls
          (.error failure) := by
  unfold attach
  rw [ends_bind, requiredGuest_eq_ok.2 ⟨present, rfl⟩, ends_ofOutcome]
  dsimp only
  rw [ends_bind, requiredDevices_of_ne_nil named, ends_ofOutcome]
  dsimp only
  rw [ends_holding]
  exact attachAlone_course present sound room

end Volume

/-- **An attach follows its course**, from any tables that an operator can have and whatever is
answered to its calls, as long as no counter runs over.  An incomplete rollback is told exactly when
a device could not be taken from the guest again, unless such a failure came with the answer whether
the guest is there. -/
theorem attach_follows_course {settings : OperatorSettings}
    {scheduler : Scheduler (Outcome Output)}
    (reached : scheduler.Reached (Volume.Dispatched settings)) {connection : VolumeConnection}
    (present : guestName connection.assigner ≠ "") (named : connection.devices ≠ [])
    (room : scheduler.store.tables.HasRoom connection.devices) (around : Surroundings) :
    ∃ outcome after, (Volume.dispatch settings (.attach connection)).run.alone around
        { tables := scheduler.store.tables } = (some outcome, after) ∧
      Volume.AttachCourse connection (guestName connection.assigner) scheduler.store.tables
        after.calls outcome ∧
      ((∀ step reason errors, .called (.guestExists (guestName connection.assigner))
          (.error (.rollbackIncomplete step reason errors)) ∉ after.calls) →
        ((∃ step reason errors, outcome = .error (.rollbackIncomplete step reason errors)) ↔
          ∃ id cause, .called (.undedicate id (guestName connection.assigner)) (.error cause) ∈
            after.calls)) := by
  obtain ⟨outcome, after, run, course⟩ : ∃ outcome after,
      (Volume.dispatch settings (.attach connection)).run.alone around
        { tables := scheduler.store.tables } = (some outcome, after) ∧
      Volume.AttachCourse connection (guestName connection.assigner) scheduler.store.tables
        after.calls outcome := by
    refine Ends.exists_run (fun outcome now => Volume.AttachCourse connection
      (guestName connection.assigner) scheduler.store.tables now.calls outcome) ?_
    refine Volume.ends_dispatch.2 ((ends_bind _ _).2
      ((Volume.attach_course present named reached.recordsSound room).mono ?_ ?_))
    · rintro _ now ⟨calls, made, course⟩
      refine (ends_pure _).2 ?_
      rw [Volume.calls_finished, made]
      exact course
    · rintro failure now ⟨calls, made, course⟩
      rw [Volume.calls_finished, made]
      exact course
  exact ⟨outcome, after, run, course, course.incomplete_iff⟩

/-- A volume that the guest `A` reaches through two devices, one of them named twice. -/
def Sample.broadVolume : VolumeConnection where
  assigner := "A"
  devices := [.ofNat 0x1a00, .ofNat 0x1a01, .ofNat 0x1a00]
  targetNames := []
  lun := ""

/-- The operator after a template with both devices was made. -/
def Sample.broad : Scheduler (Outcome Output) :=
  (idle.start (Volume.dispatch settings (.createTemplate { devices := "1a00-1a01" })).run).2.settle
    20

theorem Sample.broad_reached : Sample.broad.Reached (Volume.Dispatched Sample.settings) :=
  Scheduler.Reached.settle (.started (.idle rfl rfl rfl) ⟨_, rfl⟩) 20

/-- A directory that dedicates the first of the devices only, and takes nothing back. -/
def Sample.stingy : Surroundings where
  stamp _ := default
  answer _
    | .guestExists _ => .ok true
    | .dedicate device _ => if device = .ofNat 0x1a00 then .ok () else .error (.internal "refused")
    | _ => .error (.internal "refused")

/-- The guest is asked for, two devices are to be dedicated, and the first is asked back in vain. -/
theorem attach_follows_course_to_incomplete_rollback :
    ∃ failure after, (Volume.dispatch Sample.settings (.attach Sample.broadVolume)).run.alone
        Sample.stingy { tables := Sample.broad.store.tables } = (some (.error failure), after) ∧
      failure.code = "rollback_failed" ∧ after.calls.length = 4 ∧
      Volume.AttachCourse Sample.broadVolume (guestName Sample.broadVolume.assigner)
        Sample.broad.store.tables after.calls (.error failure) := by
  obtain ⟨outcome, after, run, course, _⟩ := attach_follows_course Sample.broad_reached
    (show guestName Sample.broadVolume.assigner ≠ "" by decide +kernel) (by decide)
    (show Sample.broad.store.tables.HasRoom Sample.broadVolume.devices by decide +kernel)
    Sample.stingy
  have seen : (fun ran : Option (Outcome Output) × Scene => (ran.1.map fun
      | .ok _ => ""
      | .error failure => failure.code, ran.2.calls.length))
      ((Volume.dispatch Sample.settings (.attach Sample.broadVolume)).run.alone Sample.stingy
        { tables := Sample.broad.store.tables }) = (some "rollback_failed", 4) := by
    decide +kernel
  rw [run] at seen
  obtain ⟨told, made⟩ := Prod.mk.inj seen
  cases outcome with
  | ok output => exact absurd (Option.some.inj told) (show "" ≠ "rollback_failed" by decide)
  | error failure => exact ⟨failure, after, run, Option.some.inj told, made, course⟩

/-- A usage of the guest with as many connections as can be counted. -/
def Sample.fullUsage : Usage where
  assigner := "A"
  reserved := true
  connections := 4294967295
  template := ""

/-- The operator after the device was given this usage. -/
def Sample.full : Scheduler (Outcome Output) :=
  (prepared.start (Volume.dispatch settings (.setUsage device fullUsage)).run).2.settle 20

/-- **A connected device is dedicated**, because its counter runs over between its two mentions. -/
theorem overflow_dedicates_connected_device :
    Sample.full.Reached (Volume.Dispatched Sample.settings) ∧
      (∃ record, Sample.full.store.tables.devices.get? Sample.device = some record ∧
        record.usage = Sample.fullUsage) ∧
      .called (.dedicate Sample.device "A") (.ok ()) ∈
        (Sample.ran (.attach Sample.volume) Sample.full.store.tables).2.calls := by
  have stored : Sample.full.store.tables.devices.get? Sample.device =
      some ((DeviceRecord.placeholder Sample.device).withUsage Sample.fullUsage) := by
    decide +kernel
  have dedicated : ∃ observation ∈
      (Sample.ran (.attach Sample.volume) Sample.full.store.tables).2.calls,
      (Sample.device, "A") ∈ Directory.note ∅ observation := by decide +kernel
  obtain ⟨observation, member, gained⟩ := dedicated
  refine ⟨Scheduler.Reached.settle (.started Sample.prepared_reached ⟨_, rfl⟩) 20,
    ⟨_, stored, rfl⟩, ?_⟩
  rw [← Directory.eq_dedicated_of_gained gained]
  exact member

end FibrePool
