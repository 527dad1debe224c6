import FibrePool.Proofs.Solo
import Mathlib.Data.List.Induction
import Mathlib.Logic.Relation

/-!
# Interleavings

An interleaving is one way in which a scheduler goes on, with the moves of its tasks in their order:
programs of the offered kind may be started at any time, any task that is ready may move next, tasks
may be broken off, and the systems around may change what they answer.

`Scheduler.Performs` lists what a move does to the tasks and to the locks, in one case for each kind
of step, so that what is true throughout an interleaving is proved by going through these cases
once.  Whatever others do, a task that does not move stays where it is in its program
(`Interleaving.task?_eq_or_fresh`).
-/

namespace FibrePool

set_option autoImplicit false

/-! ## Steps of programs -/

namespace Program

variable {α : Type}

/-- What may be left of a program after a step that takes no lock and gives none back. -/
inductive Proceeds : Program α → Program α → Prop where
  | read (next : Tables → Program α) (tables : Tables) : Proceeds (.read next) (next tables)
  | commit {β : Type} (change : Transaction β) (next : Outcome β → Program α)
    (outcome : Outcome β) : Proceeds (.commit change next) (next outcome)
  | call (request : Call) (next : Outcome request.Answer → Program α)
    (answer : Outcome request.Answer) : Proceeds (.call request next) (next answer)
  | emit (event : Event) (next : Program α) : Proceeds (.emit event next) next
  | measure (taken : Measure) (next : Program α) : Proceeds (.measure taken next) next
  | stamp (next : Stamp → Program α) (fresh : Stamp) : Proceeds (.stamp next) (next fresh)

/-- What may be left of a program after a step. -/
inductive Next : Program α → Program α → Prop where
  | acquire (key : String) (next : Program α) : Next (.acquire key next) next
  | release (key : String) (next : Program α) : Next (.release key next) next
  | proceeds {program rest : Program α} (step : program.Proceeds rest) : Next program rest

/-- What may be left of a program after any number of steps. -/
abbrev Reaches : Program α → Program α → Prop := Relation.ReflTransGen Next

end Program

namespace Scheduler

variable {A : Type} {scheduler : Scheduler A}

/-! ## What a move does to tasks and locks -/

/-- The scheduler after a move of a task. -/
inductive Performs (scheduler : Scheduler A) (task : Task A) : Scheduler A → Prop where
  | ended {value : A} (done : task.rest = .done value) (results : List (Ticket × A)) :
    Performs scheduler task { scheduler.drop task.ticket with results }
  | restarted (again : task.rest = .again) :
    Performs scheduler task (scheduler.goOn task task.origin)
  | granted {key : String} {next : Program A} (asks : task.rest = .acquire key next)
    (free : scheduler.locks.ownerOf key = none) :
    Performs scheduler task
      (goOn { scheduler with locks := scheduler.locks.register key task.ticket } task next)
  | queued {key : String} {next : Program A} (asks : task.rest = .acquire key next)
    (taken : scheduler.locks.ownerOf key ≠ none) :
    Performs scheduler task
      ((goOn { scheduler with locks := scheduler.locks.register key task.ticket } task next).pause
        task.ticket)
  | released {key : String} {next : Program A} (gives : task.rest = .release key next) :
    Performs scheduler task ((scheduler.goOn task next).leave key task.ticket)
  | /-- Everything but the tasks and the locks may have changed before the task goes on. -/
    proceeded {changed : Scheduler A} {rest : Program A} (step : task.rest.Proceeds rest)
    (tasks : changed.tasks = scheduler.tasks) (locks : changed.locks = scheduler.locks)
    (issued : changed.nextTicket = scheduler.nextTicket)
    (ready : ∀ ticket, ticket ∈ changed.ready ↔ ticket ∈ scheduler.ready) :
    Performs scheduler task (changed.goOn task rest)

theorem goOn_yield (scheduler : Scheduler A) (task : Task A) (rest : Program A) (ticket : Ticket) :
    (scheduler.goOn task rest).yield ticket = (scheduler.yield ticket).goOn task rest := by
  unfold Scheduler.yield goOn
  dsimp only
  split <;> rfl

theorem yield_eq (scheduler : Scheduler A) (ticket : Ticket) :
    ∃ ready, scheduler.yield ticket = { scheduler with ready } := by
  unfold Scheduler.yield
  split
  · exact ⟨_, rfl⟩
  · exact ⟨scheduler.ready, rfl⟩

theorem mem_ready_yield {ticket : Ticket} (ready : ticket ∈ scheduler.ready) (other : Ticket) :
    other ∈ (scheduler.yield ticket).ready ↔ other ∈ scheduler.ready := by
  unfold Scheduler.yield
  split
  · by_cases same : other = ticket
    · simp [same, ready]
    · simp [same]
  · rfl

theorem performs {task : Task A} (ready : task.ticket ∈ scheduler.ready) :
    scheduler.Performs task (scheduler.perform task) := by
  obtain ⟨ticket, origin, program⟩ := task
  unfold Scheduler.perform
  cases program with
  | done value => exact .ended rfl _
  | again => exact .restarted rfl
  | acquire key next =>
    dsimp only
    cases free : scheduler.locks.ownerOf key with
    | none => exact .granted rfl free
    | some owner => exact .queued rfl (by simp [free])
  | release key next => exact .released rfl
  | read next => exact .proceeded (.read next _) rfl rfl rfl fun _ => Iff.rfl
  | commit change next =>
    dsimp only
    rw [goOn_yield]
    obtain ⟨order, yielded⟩ := yield_eq (scheduler.transact change).2 ticket
    have waiting : ticket ∈ (scheduler.transact change).2.ready := ready
    refine .proceeded (.commit change next _) ?_ ?_ ?_ (mem_ready_yield waiting)
    · rw [yielded]
      rfl
    · rw [yielded]
      rfl
    · rw [yielded]
      rfl
  | call request next =>
    dsimp only
    have hooked (called : Scheduler A) : (called.runHook request).tasks = called.tasks ∧
        (called.runHook request).locks = called.locks ∧
        (called.runHook request).nextTicket = called.nextTicket ∧
        (called.runHook request).ready = called.ready := by
      unfold runHook
      split
      · exact ⟨rfl, rfl, rfl, rfl⟩
      · exact ⟨rfl, rfl, rfl, rfl⟩
    obtain ⟨tasks, locks, issued, same⟩ :=
      hooked { scheduler with calls := scheduler.calls ++ [request] }
    exact .proceeded (.call request next _) tasks locks issued fun _ => by rw [same]
  | emit event next => exact .proceeded (.emit event next) rfl rfl rfl fun _ => Iff.rfl
  | measure taken next =>
    obtain ⟨metrics, counted⟩ := count_eq scheduler taken
    dsimp only
    rw [counted]
    exact .proceeded (.measure taken next) rfl rfl rfl fun _ => Iff.rfl
  | stamp next => exact .proceeded (.stamp next _) rfl rfl rfl fun _ => Iff.rfl

/-! ## Tasks that do not move -/

theorem task?_goOn_of_ne {task : Task A} {ticket : Ticket} (different : ticket ≠ task.ticket)
    (rest : Program A) : (scheduler.goOn task rest).task? ticket = scheduler.task? ticket := by
  have unmoved (tasks : List (Task A)) :
      (tasks.map fun other =>
        if other.ticket = task.ticket then { task with rest } else other).find?
          (fun other => other.ticket == ticket) =
      tasks.find? fun other => other.ticket == ticket := by
    induction tasks with
    | nil => rfl
    | cons other tasks ih =>
      by_cases same : other.ticket = task.ticket
      · simp [same, different.symm, ih]
      · simp [same, List.find?_cons, ih]
  exact unmoved scheduler.tasks

theorem task?_drop_of_ne {ticket other : Ticket} (different : other ≠ ticket) :
    (scheduler.drop ticket).task? other = scheduler.task? other := by
  have kept (tasks : List (Task A)) : (tasks.filter fun task => task.ticket != ticket).find?
      (fun task => task.ticket == other) = tasks.find? fun task => task.ticket == other := by
    induction tasks with
    | nil => rfl
    | cons task tasks ih =>
      by_cases same : task.ticket = ticket
      · simp [same, different.symm, ih]
      · simp [same, List.find?_cons, ih]
  exact kept scheduler.tasks

theorem task?_drop_self (ticket : Ticket) : (scheduler.drop ticket).task? ticket = none := by
  refine List.find?_eq_none.2 fun task member => ?_
  simpa using (List.mem_filter.1 member).2

theorem task?_leave (key : String) (holder ticket : Ticket) :
    (scheduler.leave key holder).task? ticket = scheduler.task? ticket := by
  obtain ⟨locks, ready, left⟩ := leave_eq scheduler key holder
  rw [left]
  rfl

theorem task?_cancel (ticket other : Ticket) :
    (scheduler.cancel ticket).task? other = (scheduler.drop ticket).task? other := by
  obtain ⟨locks, ready, cancelled⟩ := cancel_eq scheduler ticket
  rw [cancelled]
  rfl

theorem task?_start_of_lt {ticket : Ticket} (earlier : ticket < scheduler.nextTicket)
    (program : Program A) : (scheduler.start program).2.task? ticket = scheduler.task? ticket := by
  have new : (scheduler.nextTicket == ticket) = false := by
    rw [beq_eq_false_iff_ne]
    exact Nat.ne_of_gt earlier
  simp [start, task?, List.find?_append, new]

/-- A move of another task leaves a task where it is. -/
theorem task?_perform_of_ne {task : Task A} {ticket : Ticket}
    (ready : task.ticket ∈ scheduler.ready) (different : ticket ≠ task.ticket) :
    (scheduler.perform task).task? ticket = scheduler.task? ticket := by
  have performs := performs ready
  generalize scheduler.perform task = after at performs
  cases performs with
  | ended done results => exact task?_drop_of_ne different
  | restarted again => exact task?_goOn_of_ne different _
  | granted asks free => exact task?_goOn_of_ne different _
  | queued asks taken => exact task?_goOn_of_ne different _
  | released gives => exact (task?_leave _ _ _).trans (task?_goOn_of_ne different _)
  | proceeded step tasks locks issued order =>
    refine (task?_goOn_of_ne different _).trans ?_
    unfold task?
    rw [tasks]

/-- A task that has moved is a step further in its program, unless it starts anew. -/
theorem next_of_perform {task other : Task A} (found : scheduler.task? task.ticket = some task)
    (ready : task.ticket ∈ scheduler.ready)
    (moved : (scheduler.perform task).task? task.ticket = some other) :
    other.origin = task.origin ∧
      (task.rest.Next other.rest ∨ task.rest = .again ∧ other.rest = task.origin) := by
  have went {changed : Scheduler A} {rest : Program A} (tasks : changed.tasks = scheduler.tasks)
      (moved : (changed.goOn task rest).task? task.ticket = some other) :
      other = { task with rest } := by
    have present : changed.task? task.ticket = some task := by
      unfold task?
      rw [tasks]
      exact found
    exact Option.some.inj (moved.symm.trans (task?_goOn present rest))
  have performs := performs ready
  generalize scheduler.perform task = after at performs moved
  cases performs with
  | ended done results =>
    have gone : Scheduler.task? { scheduler.drop task.ticket with results } task.ticket = none :=
      task?_drop_self task.ticket
    cases gone.symm.trans moved
  | restarted again =>
    obtain rfl := went rfl moved
    exact ⟨rfl, .inr ⟨again, rfl⟩⟩
  | granted asks free =>
    obtain rfl := went rfl moved
    exact ⟨rfl, .inl (asks ▸ .acquire _ _)⟩
  | queued asks taken =>
    obtain rfl := went rfl moved
    exact ⟨rfl, .inl (asks ▸ .acquire _ _)⟩
  | released gives =>
    rw [task?_leave] at moved
    obtain rfl := went rfl moved
    exact ⟨rfl, .inl (gives ▸ .release _ _)⟩
  | proceeded step tasks locks issued order =>
    obtain rfl := went tasks moved
    exact ⟨rfl, .inl (.proceeds step)⟩

theorem perform_read {task : Task A} {next : Tables → Program A} (reads : task.rest = .read next) :
    scheduler.perform task = scheduler.goOn task (next scheduler.store.tables) := by
  unfold perform
  rw [reads]

theorem issued_perform {task : Task A} (ready : task.ticket ∈ scheduler.ready) :
    (scheduler.perform task).nextTicket = scheduler.nextTicket := by
  have performs := performs ready
  generalize scheduler.perform task = after at performs
  cases performs with
  | released gives =>
    obtain ⟨locks, ready, left⟩ := leave_eq (scheduler.goOn task _) _ task.ticket
    rw [left]
    rfl
  | proceeded step tasks locks issued order => exact issued
  | _ => rfl

theorem issued_cancel (ticket : Ticket) :
    (scheduler.cancel ticket).nextTicket = scheduler.nextTicket := by
  obtain ⟨locks, ready, cancelled⟩ := cancel_eq scheduler ticket
  rw [cancelled]
  rfl

end Scheduler

/-! ## Interleavings -/

/-- The next step of a task, taken in a scheduler. -/
structure Move (A : Type) : Type 1 where
  before : Scheduler A
  task : Task A

namespace Move

variable {A : Type}

/-- The scheduler after the move. -/
def after (move : Move A) : Scheduler A := move.before.perform move.task

/-- It was the turn of the task, which was under way. -/
structure Valid (move : Move A) : Prop where
  ready : move.task.ticket ∈ move.before.ready
  found : move.before.task? move.task.ticket = some move.task

end Move

/-- One way in which a scheduler goes on, with programs of the offered kind, and the moves of its
tasks in their order. -/
inductive Interleaving {A : Type} (offered : Program A → Prop) :
    Scheduler A → List (Move A) → Scheduler A → Prop where
  | rest (scheduler : Scheduler A) : Interleaving offered scheduler [] scheduler
  | started {scheduler last : Scheduler A} {moves : List (Move A)} {program : Program A}
    (allowed : offered program)
    (further : Interleaving offered (scheduler.start program).2 moves last) :
    Interleaving offered scheduler moves last
  | moved {move : Move A} {last : Scheduler A} {moves : List (Move A)} (valid : move.Valid)
    (further : Interleaving offered move.after moves last) :
    Interleaving offered move.before (move :: moves) last
  | /-- A ticket whose task is gone is passed over. -/
    passed {scheduler last : Scheduler A} {moves : List (Move A)} {ticket : Ticket}
    {rest : List Ticket} (first : scheduler.ready = ticket :: rest)
    (gone : scheduler.task? ticket = none)
    (further : Interleaving offered { scheduler with ready := rest } moves last) :
    Interleaving offered scheduler moves last
  | cancelled {scheduler last : Scheduler A} {moves : List (Move A)} (ticket : Ticket)
    (further : Interleaving offered (scheduler.cancel ticket) moves last) :
    Interleaving offered scheduler moves last
  | /-- The systems around and the files change. -/
    surrounded {scheduler last : Scheduler A} {moves : List (Move A)}
    (collaborators : Collaborators) (files : FileSystem)
    (further : Interleaving offered { scheduler with collaborators, files } moves last) :
    Interleaving offered scheduler moves last

namespace Interleaving

variable {A : Type} {offered : Program A → Prop} {first last : Scheduler A}

/-- An interleaving can be cut at any of its moves. -/
theorem split {move : Move A} {earlier later : List (Move A)}
    (interleaving : Interleaving offered first (earlier ++ move :: later) last) :
    Interleaving offered first earlier move.before ∧ move.Valid ∧
      Interleaving offered move.after later last := by
  generalize whole : earlier ++ move :: later = moves at interleaving
  induction interleaving generalizing earlier with
  | rest scheduler => simp at whole
  | started allowed further ih =>
    obtain ⟨before, valid, after⟩ := ih whole
    exact ⟨.started allowed before, valid, after⟩
  | moved valid further ih =>
    cases earlier with
    | nil =>
      obtain ⟨rfl, rfl⟩ := List.cons.inj whole
      exact ⟨.rest _, valid, further⟩
    | cons head earlier =>
      obtain ⟨rfl, rest⟩ := List.cons.inj whole
      obtain ⟨before, valid', after⟩ := ih rest
      exact ⟨.moved valid before, valid', after⟩
  | passed waiting gone further ih =>
    obtain ⟨before, valid, after⟩ := ih whole
    exact ⟨.passed waiting gone before, valid, after⟩
  | cancelled ticket further ih =>
    obtain ⟨before, valid, after⟩ := ih whole
    exact ⟨.cancelled ticket before, valid, after⟩
  | surrounded collaborators files further ih =>
    obtain ⟨before, valid, after⟩ := ih whole
    exact ⟨.surrounded collaborators files before, valid, after⟩

theorem trans {middle : Scheduler A} {moves further : List (Move A)}
    (interleaving : Interleaving offered first moves middle)
    (afterwards : Interleaving offered middle further last) :
    Interleaving offered first (moves ++ further) last := by
  induction interleaving with
  | rest scheduler => exact afterwards
  | started allowed _ ih => exact .started allowed (ih afterwards)
  | moved valid _ ih => exact .moved valid (ih afterwards)
  | passed waiting gone _ ih => exact .passed waiting gone (ih afterwards)
  | cancelled ticket _ ih => exact .cancelled ticket (ih afterwards)
  | surrounded collaborators files _ ih => exact .surrounded collaborators files (ih afterwards)

end Interleaving

/-! ## Turns in a given order -/

namespace Scheduler

variable {A : Type} {scheduler : Scheduler A}

/-- The next step of a task, if it is ready. -/
def turn (scheduler : Scheduler A) (ticket : Ticket) : Scheduler A :=
  match scheduler.task? ticket with
  | some task => if ticket ∈ scheduler.ready then scheduler.perform task else scheduler
  | none => scheduler

/-- The next steps of tasks in the given order. -/
def turns (scheduler : Scheduler A) (order : List Ticket) : Scheduler A :=
  order.foldl turn scheduler

/-- A turn changes nothing, or it is the move of the task whose turn it is. -/
theorem turn_cases (scheduler : Scheduler A) (ticket : Ticket) :
    scheduler.turn ticket = scheduler ∨ ∃ move : Move A, move.before = scheduler ∧ move.Valid ∧
      move.task.ticket = ticket ∧ scheduler.turn ticket = move.after := by
  unfold turn
  cases found : scheduler.task? ticket with
  | none => exact .inl rfl
  | some task =>
    obtain rfl := ticket_of_task? found
    by_cases ready : task.ticket ∈ scheduler.ready
    · exact .inr ⟨⟨scheduler, task⟩, rfl, ⟨ready, found⟩, rfl, if_pos ready⟩
    · exact .inl (if_neg ready)

theorem turns_interleaving (offered : Program A → Prop) (scheduler : Scheduler A)
    (order : List Ticket) :
    ∃ moves, Interleaving offered scheduler moves (scheduler.turns order) := by
  induction order generalizing scheduler with
  | nil => exact ⟨[], .rest scheduler⟩
  | cons ticket order ih =>
    obtain ⟨moves, further⟩ := ih (scheduler.turn ticket)
    change Interleaving offered _ moves (scheduler.turns (ticket :: order)) at further
    rcases turn_cases scheduler ticket with same | ⟨move, rfl, valid, _, moved⟩
    · rw [same] at further
      exact ⟨moves, further⟩
    · rw [moved] at further
      exact ⟨move :: moves, .moved valid further⟩

theorem turns_append (scheduler : Scheduler A) (order further : List Ticket) :
    scheduler.turns (order ++ further) = (scheduler.turns order).turns further :=
  List.foldl_append

/-- The turn of a task that is ready is a move of it. -/
theorem exists_move {order : List Ticket} {ticket : Ticket}
    (ready : ticket ∈ (scheduler.turns order).ready)
    (present : ((scheduler.turns order).task? ticket).isSome = true) :
    ∃ move : Move A, move.before = scheduler.turns order ∧
      move.after = scheduler.turns (order ++ [ticket]) ∧ move.Valid ∧
      move.task.ticket = ticket := by
  obtain ⟨task, found⟩ := Option.isSome_iff_exists.1 present
  obtain rfl := ticket_of_task? found
  refine ⟨⟨scheduler.turns order, task⟩, rfl, ?_, ⟨ready, found⟩, rfl⟩
  rw [turns_append]
  show _ = (scheduler.turns order).turn task.ticket
  simp [turn, found, ready, Move.after]

/-- Turns do not change what the programs of the tasks are. -/
theorem origin_of_turns {order : List Ticket} {ticket : Ticket} {task started : Task A}
    (present : scheduler.task? ticket = some started)
    (found : (scheduler.turns order).task? ticket = some task) : task.origin = started.origin := by
  induction order using List.reverseRecOn generalizing task with
  | nil => exact congrArg Task.origin (Option.some.inj (found.symm.trans present))
  | append_singleton order other ih =>
    rw [turns, List.foldl_append] at found
    change ((scheduler.turns order).turn other).task? ticket = some task at found
    rcases turn_cases (scheduler.turns order) other with same | ⟨move, before, valid, rfl, moved⟩
    · exact ih (same ▸ found)
    · rw [moved] at found
      by_cases own : ticket = move.task.ticket
      · subst own
        have origin := (next_of_perform valid.found valid.ready found).1
        exact origin.trans (ih (before ▸ valid.found))
      · rw [Move.after, task?_perform_of_ne valid.ready own, before] at found
        exact ih found

end Scheduler

end FibrePool
