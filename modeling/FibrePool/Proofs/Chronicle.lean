import FibrePool.Proofs.Interleaving
import FibrePool.Proofs.Narration
import FibrePool.Proofs.Redundancy

/-!
# The chronicle of the pool

Orders that are carried out one after the other leave a chronicle behind: the transactions that went
through, and the events that listeners were told.  It is true of a device when every transaction
that changes the holding of the device is followed by an event that says so, and every event about
the device follows a transaction that did what it says (`Truthful`).

Every order leaves a true chronicle, whether it succeeds or fails, since its program tells of what
it does (`Course.accounted`).  So whoever replays the events knows who holds a device and with how
many connections, unless a reconciliation has dropped it (`Rounds.replay_events`).
-/

namespace FibrePool

set_option autoImplicit false

/-! ## Marks -/

/-- What is left of a step: a transaction that went through, or an event. -/
inductive Mark where
  | changed (change : Change)
  | told (event : Event)

namespace Mark

/-- The event of a mark. -/
def event? : Mark → Option Event
  | changed _ => none
  | told event => some event

/-- The mark is not that of a reconciliation that drops the device. -/
def Keeps (id : DeviceId) : Mark → Prop
  | changed change => ¬ change.Drops id
  | told _ => True

end Mark

/-- The events among some marks. -/
def eventsOf (marks : List Mark) : List Event := marks.filterMap Mark.event?

/-- What is said about the device is what was done right before, and what was done to its holding is
said right afterwards.  The change before the first mark may be pending. -/
def Truthful (id : DeviceId) : Option Change → List Mark → Prop
  | pending, [] => Settled id pending
  | pending, .changed change :: marks => Settled id pending ∧ Truthful id (some change) marks
  | pending, .told event :: marks => event.Tells id pending ∧ Truthful id none marks

/-- The transactions lead from the tables before to the tables after. -/
def Linked : Tables → List Mark → Tables → Prop
  | now, [], last => now = last
  | now, .changed change :: marks, last => change.before = now ∧ Linked change.after marks last
  | now, .told _ :: marks, last => Linked now marks last

section

variable {id : DeviceId} {marks : List Mark} {now last : Tables}

theorem eventsOf_append (first second : List Mark) :
    eventsOf (first ++ second) = eventsOf first ++ eventsOf second :=
  List.filterMap_append

theorem replay_append (id : DeviceId) (first second : List Event) (holding : Holding) :
    replay id (first ++ second) holding = replay id second (replay id first holding) :=
  List.foldl_append

theorem linked_append {first second : List Mark} {middle : Tables}
    (earlier : Linked now first middle) (later : Linked middle second last) :
    Linked now (first ++ second) last := by
  induction first generalizing now with
  | nil =>
    obtain rfl : now = middle := earlier
    exact later
  | cons mark first ih =>
    cases mark with
    | changed change => exact ⟨earlier.1, ih earlier.2⟩
    | told event => exact ih earlier

/-- A chronicle that is true once a change has been told goes on: what the events say of the holding
that the listeners know is the holding in the end. -/
theorem replay_of_truthful {pending : Option Change} (truthful : Truthful id pending marks)
    (linked : Linked now marks last) (keeps : ∀ mark ∈ marks, mark.Keeps id)
    (known : ∀ change ∈ pending, change.after = now ∧ ¬ change.Drops id) :
    replay id (eventsOf marks) (((pending.map Change.before).getD now).holding id) =
      last.holding id := by
  -- What is settled is known already.
  have current {pending : Option Change} {now : Tables} (settled : Settled id pending)
      (known : ∀ change ∈ pending, change.after = now ∧ ¬ change.Drops id) :
      ((pending.map Change.before).getD now).holding id = now.holding id := by
    cases pending with
    | none => rfl
    | some change =>
      obtain ⟨rfl, kept⟩ := known change rfl
      exact (settled change rfl).resolve_right kept
  induction marks generalizing pending now with
  | nil =>
    obtain rfl : now = last := linked
    exact current truthful known
  | cons mark marks ih =>
    obtain ⟨kept, others⟩ := List.forall_mem_cons.1 keeps
    cases mark with
    | changed change =>
      obtain ⟨settled, truthful⟩ := truthful
      obtain ⟨rfl, linked⟩ := linked
      rw [current settled known]
      refine ih truthful linked others ?_
      rintro _ ⟨⟩
      exact ⟨rfl, kept⟩
    | told event =>
      obtain ⟨tells, truthful⟩ := truthful
      have said : event.applied id (((pending.map Change.before).getD now).holding id) =
          now.holding id := by
        by_cases concerns : event.Concerns id
        · obtain ⟨change, rfl, applied⟩ := tells.concerning concerns
          obtain ⟨rfl, _⟩ := known change rfl
          exact applied
        · rw [Event.applied_of_not_concerns concerns]
          exact current (tells.otherwise concerns) known
      have later := ih truthful linked others nofun
      rw [← later, Option.map_none, Option.getD_none, ← said]
      rfl

end

/-! ## What moves leave behind -/

namespace Move

variable {A : Type}

/-- The mark of a move, where it leaves one. -/
def marks (move : Move A) : List Mark :=
  match move.task.rest with
  | .commit change _ =>
    match (move.before.transact change).1 with
    | .ok _ => [.changed ⟨move.before.store.tables, move.after.store.tables⟩]
    | .error _ => []
  | .emit event _ => [.told event]
  | _ => []

end Move

/-- The marks of some moves. -/
def marksOf {A : Type} (moves : List (Move A)) : List Mark := moves.flatMap Move.marks

namespace Scheduler

variable {A : Type} {scheduler : Scheduler A} {id : DeviceId} {pending : Option Change}

/-- There is at most one task, and it tells of what it does. -/
inductive Narrates (id : DeviceId) (pending : Option Change) (scheduler : Scheduler A) : Prop where
  | idle (unused : scheduler.tasks = []) (settled : Settled id pending)
  | busy (task : Task A) (lone : scheduler.tasks = [task]) (origin : task.origin.Narrates id none)
    (rest : task.rest.Narrates id pending)

theorem Narrates.settled (narrates : scheduler.Narrates id pending)
    (unused : scheduler.tasks = []) : Settled id pending := by
  cases narrates with
  | idle _ settled => exact settled
  | busy task lone =>
    rw [unused] at lone
    cases lone

theorem Narrates.of_tasks {other : Scheduler A} (narrates : scheduler.Narrates id pending)
    (same : other.tasks = scheduler.tasks) : other.Narrates id pending := by
  cases narrates with
  | idle unused settled => exact .idle (same.trans unused) settled
  | busy task lone origin rest => exact .busy task (same.trans lone) origin rest

theorem narrates_start {program : Program A} (unused : scheduler.tasks = [])
    (narrates : program.Narrates id none) : (scheduler.start program).2.Narrates id none := by
  refine .busy ⟨scheduler.nextTicket, program, program⟩ ?_ narrates narrates
  simp [start, unused]

/-- The task goes on with what narrates in its turn. -/
theorem narrates_goOn {changed : Scheduler A} {task : Task A} {rest : Program A}
    (lone : changed.tasks = [task]) (origin : task.origin.Narrates id none)
    (narrates : rest.Narrates id pending) : (changed.goOn task rest).Narrates id pending := by
  refine .busy { task with rest } ?_ origin narrates
  simp [goOn, lone]

end Scheduler

namespace Move

variable {A : Type} {id : DeviceId} {pending : Option Change} {before : Scheduler A} {task : Task A}

/-- What a move does to the chronicle, and to what is pending in it. -/
structure Accounted (id : DeviceId) (pending : Option Change) (move : Move A)
    (pending' : Option Change) : Prop where
  narrates : move.after.Narrates id pending'
  truthful : ∀ marks, Truthful id pending' marks → Truthful id pending (move.marks ++ marks)
  linked : Linked move.before.store.tables move.marks move.after.store.tables
  events : move.after.events = move.before.events ++ eventsOf move.marks
  hooks : move.after.collaborators.hooks = move.before.collaborators.hooks

/-- A move that leaves no mark and lets its task go on. -/
theorem accounted_of_quiet (lone : before.tasks = [task]) (origin : task.origin.Narrates id none)
    (unmarked : marks ⟨before, task⟩ = []) (next : Program A) (further : next.Narrates id pending)
    (went : ∃ locks ready metrics calls, after ⟨before, task⟩ =
      { before.goOn task next with locks, ready, metrics, calls }) :
    Accounted id pending ⟨before, task⟩ pending := by
  obtain ⟨locks, ready, metrics, calls, went⟩ := went
  refine ⟨?_, fun marks truthful => ?_, ?_, ?_, ?_⟩
  · rw [went]
    exact (Scheduler.narrates_goOn lone origin further).of_tasks rfl
  · rwa [unmarked]
  · rw [unmarked, went]
    rfl
  · rw [unmarked, went]
    exact (List.append_nil _).symm
  · rw [went]
    rfl

/-- The tables that a transaction leaves are pending, or it left them as they were. -/
theorem exists_accounted_of_commit {β : Type} {change : Transaction β}
    {next : Outcome β → Program A} (commits : task.rest = .commit change next)
    (lone : before.tasks = [task]) (origin : task.origin.Narrates id none)
    (filed : before.store.tables.RecordsFiled) (narrates : task.rest.Narrates id pending) :
    ∃ pending', Accounted id pending ⟨before, task⟩ pending' := by
  rw [commits] at narrates
  obtain ⟨settled, onFailure, onResult⟩ := narrates
  obtain ⟨ready, went⟩ : ∃ ready, after ⟨before, task⟩ =
      { (before.transact change).2.goOn task (next (before.transact change).1) with ready } := by
    unfold after Scheduler.perform
    rw [commits]
    exact Scheduler.yield_eq _ task.ticket
  have marked : marks ⟨before, task⟩ = match (before.transact change).1 with
      | .ok _ => [.changed ⟨before.store.tables, (after ⟨before, task⟩).store.tables⟩]
      | .error _ => [] := by
    unfold marks
    rw [commits]
  have transacted {rest : Program A} {pending : Option Change}
      (further : rest.Narrates id pending) :
      ((before.transact change).2.goOn task rest).Narrates id pending :=
    Scheduler.narrates_goOn lone origin further
  rcases Scheduler.Upholds.transact_cases before change with
    ⟨failure, failed, same⟩ | ⟨result, tables, done, succeeded, stored⟩
  · rw [failed] at went marked
    refine ⟨pending, ?_, fun marks truthful => ?_, ?_, ?_, ?_⟩
    · rw [went]
      exact (transacted ((onFailure failure).of_settled settled)).of_tasks rfl
    · rwa [marked]
    · rw [marked, went]
      exact same.symm
    · rw [marked, went]
      exact (List.append_nil _).symm
    · rw [went]
      rfl
  · rw [succeeded] at went marked
    have now : (after ⟨before, task⟩).store.tables = tables := by
      rw [went]
      exact stored
    rw [now] at marked
    refine ⟨some ⟨before.store.tables, tables⟩, ?_, fun marks truthful => ?_, ?_, ?_, ?_⟩
    · rw [went]
      exact (transacted (onResult _ result tables filed done)).of_tasks rfl
    · rw [marked]
      exact ⟨settled, truthful⟩
    · rw [marked]
      exact ⟨rfl, now.symm⟩
    · rw [marked, went]
      exact (List.append_nil _).symm
    · rw [went]
      rfl

/-- **A move of a lone task keeps the chronicle true.** -/
theorem exists_accounted {move : Move A} (valid : move.Valid)
    (unhooked : move.before.collaborators.hooks = ∅) (filed : move.before.store.tables.RecordsFiled)
    (narrates : move.before.Narrates id pending) :
    ∃ pending', move.Accounted id pending pending' := by
  obtain ⟨lone, origin, rest⟩ : move.before.tasks = [move.task] ∧
      move.task.origin.Narrates id none ∧ move.task.rest.Narrates id pending := by
    have found := valid.found
    unfold Scheduler.task? at found
    cases narrates with
    | idle unused =>
      rw [unused] at found
      cases found
    | busy task lone origin rest =>
      rw [lone] at found
      obtain rfl := List.mem_singleton.1 (List.mem_of_find?_eq_some found)
      exact ⟨lone, origin, rest⟩
  obtain ⟨before, ⟨ticket, whole, left⟩⟩ := move
  cases left with
  | done value =>
    refine ⟨pending, .idle ?_ rest, fun _ truthful => truthful, rfl, (List.append_nil _).symm, rfl⟩
    show (before.tasks.filter fun task => task.ticket != ticket) = []
    rw [lone]
    simp
  | again =>
    exact ⟨_, accounted_of_quiet lone origin rfl _ (origin.of_settled rest) ⟨_, _, _, _, rfl⟩⟩
  | acquire key next =>
    refine ⟨_, accounted_of_quiet lone origin rfl next rest ?_⟩
    unfold after Scheduler.perform
    dsimp only
    split <;> exact ⟨_, _, _, _, rfl⟩
  | release key next =>
    obtain ⟨locks, ready, left⟩ :=
      (before.goOn ⟨ticket, whole, .release key next⟩ next).leave_eq key ticket
    exact ⟨_, accounted_of_quiet lone origin rfl next rest ⟨locks, ready, _, _, left⟩⟩
  | read next =>
    exact ⟨_, accounted_of_quiet lone origin rfl _ (rest before.store.tables) ⟨_, _, _, _, rfl⟩⟩
  | commit change next => exact exists_accounted_of_commit rfl lone origin filed rest
  | call request next =>
    have called : Scheduler.runHook { before with calls := before.calls ++ [request] } request =
        { before with calls := before.calls ++ [request] } := by
      unfold Scheduler.runHook
      rw [unhooked]
      rfl
    refine ⟨_, accounted_of_quiet lone origin rfl _ (rest (before.collaborators.answer request)) ?_⟩
    unfold after Scheduler.perform
    dsimp only
    rw [called]
    exact ⟨_, _, _, _, rfl⟩
  | emit event next =>
    exact ⟨none, Scheduler.narrates_goOn lone origin rest.2, fun _ truthful => ⟨rest.1, truthful⟩,
      rfl, rfl, rfl⟩
  | measure taken next =>
    obtain ⟨metrics, counted⟩ := before.count_eq taken
    refine ⟨_, accounted_of_quiet lone origin rfl next rest ?_⟩
    unfold after Scheduler.perform
    dsimp only
    rw [counted]
    exact ⟨_, _, _, _, rfl⟩
  | stamp next =>
    exact ⟨_, accounted_of_quiet lone origin rfl _ (rest (before.stamps before.created))
      ⟨_, _, _, _, rfl⟩⟩

end Move

/-! ## Orders one after the other -/

/-- The tasks there are go on, and nothing is started or broken off, while the systems around and
the files may change. -/
inductive Course {A : Type} : Scheduler A → List (Move A) → Scheduler A → Prop where
  | rest (scheduler : Scheduler A) : Course scheduler [] scheduler
  | moved {move : Move A} {last : Scheduler A} {moves : List (Move A)} (valid : move.Valid)
    (further : Course move.after moves last) : Course move.before (move :: moves) last
  | /-- A ticket whose task is gone is passed over. -/
    passed {scheduler last : Scheduler A} {moves : List (Move A)} {ticket : Ticket}
    {rest : List Ticket} (first : scheduler.ready = ticket :: rest)
    (gone : scheduler.task? ticket = none)
    (further : Course { scheduler with ready := rest } moves last) : Course scheduler moves last
  | surrounded {scheduler last : Scheduler A} {moves : List (Move A)}
    (collaborators : Collaborators) (files : FileSystem) (unhooked : collaborators.hooks = ∅)
    (further : Course { scheduler with collaborators, files } moves last) :
    Course scheduler moves last

namespace Course

variable {A : Type} {first last : Scheduler A} {moves : List (Move A)}

theorem reached {offered : Program A → Prop} (course : Course first moves last)
    (reached : first.Reached offered) : last.Reached offered := by
  induction course with
  | rest scheduler => exact reached
  | moved valid further ih => exact ih (reached.moved valid.ready valid.found)
  | passed waiting gone further ih => exact ih (reached.passed waiting gone)
  | surrounded collaborators files unhooked further ih =>
    exact ih (reached.surrounded collaborators files unhooked)

/-- **A lone task that tells of what it does leaves a true chronicle at its end.** -/
theorem accounted {settings : OperatorSettings} {first last : Scheduler (Outcome Reply)}
    {moves : List (Move (Outcome Reply))} {id : DeviceId} {pending : Option Change}
    (course : Course first moves last) (reached : first.Reached (Ordered settings))
    (unhooked : first.collaborators.hooks = ∅) (narrates : first.Narrates id pending)
    (ended : last.tasks = []) :
    Truthful id pending (marksOf moves) ∧
      Linked first.store.tables (marksOf moves) last.store.tables ∧
      last.events = first.events ++ eventsOf (marksOf moves) ∧
      last.collaborators.hooks = ∅ := by
  induction course generalizing pending with
  | rest scheduler =>
    exact ⟨narrates.settled ended, rfl, (List.append_nil _).symm, unhooked⟩
  | @moved move last moves valid further ih =>
    obtain ⟨pending', accounted⟩ :=
      Move.exists_accounted valid unhooked reached.recordsFiled narrates
    obtain ⟨truthful, linked, events, unhooked'⟩ := ih
      (reached.moved valid.ready valid.found) (accounted.hooks.trans unhooked) accounted.narrates
      ended
    refine ⟨accounted.truthful _ truthful, linked_append accounted.linked linked, ?_, unhooked'⟩
    rw [events, accounted.events, List.append_assoc, ← eventsOf_append]
    rfl
  | passed waiting gone further ih =>
    exact ih (reached.passed waiting gone) unhooked (narrates.of_tasks rfl) ended
  | surrounded collaborators files unhooked' further ih =>
    exact ih (reached.surrounded collaborators files unhooked') unhooked' (narrates.of_tasks rfl)
      ended

end Course

/-- An order that is carried out from its beginning to its end while no other one is under way. -/
structure Round where
  order : Order
  before : Scheduler (Outcome Reply)
  moves : List (Move (Outcome Reply))
  after : Scheduler (Outcome Reply)

namespace Round

/-- What the order leaves in the chronicle. -/
def marks (round : Round) : List Mark := marksOf round.moves

/-- What listeners were told meanwhile. -/
def events (round : Round) : List Event := eventsOf round.marks

/-- The order is given when no other one is under way, and its task comes to an end. -/
structure CarriedOut (settings : OperatorSettings) (round : Round) : Prop where
  unused : round.before.tasks = []
  course : Course (round.before.start (round.order.perform settings).run).2 round.moves round.after
  ended : round.after.tasks = []

end Round

/-- Orders that are carried out one after the other. -/
inductive Rounds (settings : OperatorSettings) :
    Scheduler (Outcome Reply) → List Round → Scheduler (Outcome Reply) → Prop where
  | rest (scheduler : Scheduler (Outcome Reply)) : Rounds settings scheduler [] scheduler
  | round {round : Round} {rounds : List Round} {last : Scheduler (Outcome Reply)}
    (carried : round.CarriedOut settings) (further : Rounds settings round.after rounds last) :
    Rounds settings round.before (round :: rounds) last

section

variable {settings : OperatorSettings}

/-- **An order leaves a true chronicle, however it ends.** -/
theorem Round.CarriedOut.accounted {round : Round} (carried : round.CarriedOut settings)
    (reached : round.before.Reached (Ordered settings))
    (unhooked : round.before.collaborators.hooks = ∅) (id : DeviceId) :
    Truthful id none round.marks ∧
      Linked round.before.store.tables round.marks round.after.store.tables ∧
      round.after.events = round.before.events ++ round.events ∧
      round.after.collaborators.hooks = ∅ := by
  have narrates := (round.order.narrates settings id).program
  exact carried.course.accounted (.started reached ⟨_, rfl⟩) unhooked
    (Scheduler.narrates_start carried.unused narrates) carried.ended

/-- What the listeners were told in some rounds brings them from the holding before to that
afterwards. -/
theorem Rounds.accounted {first last : Scheduler (Outcome Reply)} {rounds : List Round}
    (course : Rounds settings first rounds last) (reached : first.Reached (Ordered settings))
    (unhooked : first.collaborators.hooks = ∅) (id : DeviceId) :
    (∀ round ∈ rounds, Truthful id none round.marks) ∧
      last.events = first.events ++ rounds.flatMap Round.events ∧
      ((∀ round ∈ rounds, ∀ mark ∈ round.marks, mark.Keeps id) →
        replay id (rounds.flatMap Round.events) (first.store.tables.holding id) =
          last.store.tables.holding id) := by
  induction course with
  | rest scheduler =>
    exact ⟨List.forall_mem_nil _, (List.append_nil _).symm, fun _ => rfl⟩
  | @round round rounds last carried further ih =>
    obtain ⟨truthful, linked, events, unhooked'⟩ := carried.accounted reached unhooked id
    obtain ⟨others, later, replayed⟩ :=
      ih (carried.course.reached (.started reached ⟨_, rfl⟩)) unhooked'
    refine ⟨List.forall_mem_cons.2 ⟨truthful, others⟩, ?_, fun keeps => ?_⟩
    · rw [later, events, List.append_assoc]
      rfl
    · obtain ⟨kept, keeps⟩ := List.forall_mem_cons.1 keeps
      rw [List.flatMap_cons, replay_append, ← replayed keeps]
      exact congrArg _ (replay_of_truthful truthful linked kept nofun)

/-- **The events tell who holds a device.**  Orders may be carried out one after the other, from an
empty pool on; then what is said of a device is always what was done to it right before, also in an
order that fails, and unless a reconciliation drops the device, replaying all events gives its
assigner and its connections. -/
theorem Rounds.replay_events {first last : Scheduler (Outcome Reply)} {rounds : List Round}
    (course : Rounds settings first rounds last) (empty : first.store.tables = ∅)
    (unused : first.tasks = []) (unhooked : first.collaborators.hooks = ∅)
    (silent : first.events = []) (id : DeviceId) :
    (∀ round ∈ rounds, Truthful id none round.marks) ∧
      last.events = rounds.flatMap Round.events ∧
      ((∀ round ∈ rounds, ∀ mark ∈ round.marks, mark.Keeps id) →
        replay id last.events {} = last.store.tables.holding id) := by
  obtain ⟨truthful, events, replayed⟩ := course.accounted (.idle empty unused unhooked) unhooked id
  rw [silent, List.nil_append] at events
  rw [empty] at replayed
  rw [events]
  exact ⟨truthful, rfl, replayed⟩

end

/-! ## Rounds that are carried out -/

namespace Scheduler

variable {A : Type}

/-- The moves until nothing can move, always of the task that has been ready longest. -/
def moves (scheduler : Scheduler A) : Nat → List (Move A)
  | 0 => []
  | fuel + 1 =>
    match scheduler.ready with
    | [] => []
    | first :: rest =>
      match scheduler.task? ((scheduler.ready.find? scheduler.isPrompt).getD first) with
      | some task => ⟨scheduler, task⟩ :: (scheduler.perform task).moves fuel
      | none => moves { scheduler with ready := rest } fuel

theorem course_settle (scheduler : Scheduler A) (fuel : Nat) :
    Course scheduler (scheduler.moves fuel) (scheduler.settle fuel) := by
  induction fuel generalizing scheduler with
  | zero => exact .rest scheduler
  | succ fuel ih =>
    unfold moves settle step?
    cases waiting : scheduler.ready with
    | nil => exact .rest scheduler
    | cons first rest =>
      dsimp only
      obtain ⟨ready, passed⟩ := scheduler.turn_of_ready first rest
      cases found : scheduler.task? (((first :: rest).find? scheduler.isPrompt).getD first) with
      | none => exact .passed waiting (passed found ▸ found) (ih _)
      | some task =>
        rw [← ticket_of_task? found] at ready found
        have valid : Move.Valid ⟨scheduler, task⟩ := ⟨waiting ▸ ready, found⟩
        exact .moved valid (ih _)

end Scheduler

namespace Sample

variable {settings : OperatorSettings}

/-- Orders as they are carried out one after the other. -/
def rounds (settings : OperatorSettings) : Scheduler (Outcome Reply) → List Order → List Round
  | _, [] => []
  | scheduler, order :: orders =>
    { order
      before := scheduler
      moves := (scheduler.start (order.perform settings).run).2.moves 40
      after := serve settings scheduler order } ::
      rounds settings (serve settings scheduler order) orders

theorem rounds_serve {scheduler : Scheduler (Outcome Reply)} (unused : scheduler.tasks = [])
    (orders : List Order)
    (ended : ∀ round ∈ rounds settings scheduler orders, round.after.tasks = []) :
    Rounds settings scheduler (rounds settings scheduler orders)
      (orders.foldl (serve settings) scheduler) := by
  induction orders generalizing scheduler with
  | nil => exact .rest scheduler
  | cons order orders ih =>
    obtain ⟨first, others⟩ := List.forall_mem_cons.1 ended
    exact .round ⟨unused, Scheduler.course_settle _ 40, first⟩ (ih first others)

/-- A listed device is reserved for a guest, and an attach of it is taken back, since another device
of the attach is not there. -/
def takenBack : List Order :=
  [.pool .sync, .pool (.createTemplate { devices := "1a00" }),
    .operator (.reserve "A" (some "T") none),
    .operator (.attach { volume with devices := [device, .ofNat 0x1a01] })]

/-- No transaction takes the record of the device away. -/
def stays (id : DeviceId) : Mark → Bool
  | .changed change => (change.before.at? id).isNone || (change.after.at? id).isSome
  | .told _ => true

theorem keeps_of_stays {id : DeviceId} {mark : Mark} (staying : stays id mark = true) :
    mark.Keeps id := by
  cases mark with
  | told event => trivial
  | changed change =>
    rintro ⟨_, stored, gone⟩
    simp [stays, gone, stored] at staying

/-- A pool at rest, where one device is listed. -/
def oneListed : Scheduler (Outcome Reply) := resting (.ok (listingOf [("1A00", "Free")]))

/-- The pool after the attach was taken back. -/
def restored : Scheduler (Outcome Reply) := takenBack.foldl (serve Sample.settings) oneListed

end Sample

/-- A connection that an attach made and took back is told of both times, and the guest still has
the device reserved. -/
theorem replay_events_of_attach_taken_back :
    Sample.restored.events =
      [.reconciled 1 0 0, .templateCreated "T", .devicesReserved "A" "T" ["1a00"],
        .usageChanged "1a00" "A" 1, .usageChanged "1a00" "A" 0] ∧
    Sample.restored.store.tables.holding Sample.device = ⟨"A", 0⟩ ∧
    replay Sample.device Sample.restored.events {} =
      Sample.restored.store.tables.holding Sample.device := by
  have checked : (Sample.rounds Sample.settings Sample.oneListed Sample.takenBack).all (fun round =>
      round.after.tasks.isEmpty && round.marks.all (Sample.stays Sample.device)) = true := by
    decide +kernel
  have rounds := List.all_eq_true.1 checked
  simp only [Bool.and_eq_true, List.isEmpty_iff, List.all_eq_true] at rounds
  have course : Rounds Sample.settings Sample.oneListed _ Sample.restored :=
    Sample.rounds_serve rfl Sample.takenBack fun round listed => (rounds round listed).1
  obtain ⟨_, _, replayed⟩ := course.replay_events rfl rfl rfl rfl Sample.device
  exact ⟨by decide +kernel, by decide +kernel, replayed fun round listed mark among =>
    Sample.keeps_of_stays ((rounds round listed).2 mark among)⟩

end FibrePool
