import FibrePool.Metrics
import FibrePool.Store.Snapshot
import FibrePool.Task.Collaborators
import FibrePool.Task.LockTable
import FibrePool.Task.Program

/-!
# Scheduling

A scheduler runs programs side by side on one store, with scripted collaborators.  `perform` is one
step of one task, and it is the meaning of the steps of a program; `settle` goes on until nothing
can move, always with the task that has been ready longest.  A task that waits for a lock is not
ready until the lock is handed over to it.

Transactions on a store with a snapshot take their time, since the file has to be written.  They are
written one after the other, in the order in which the tasks came to them, and while one of them is
written the other tasks go on and still see the tables from before it.
-/

namespace FibrePool

set_option autoImplicit false

/-- A program under way. -/
structure Task (A : Type) : Type 1 where
  ticket : Ticket
  /-- The whole program. -/
  origin : Program A
  /-- What is left of it. -/
  rest : Program A

/-- Programs under way, with everything that they touch. -/
structure Scheduler (A : Type) : Type 1 where
  store : Store := {}
  files : FileSystem := {}
  locks : LockTable := ∅
  metrics : Metrics := {}
  collaborators : Collaborators := {}
  /-- The identity of the next template, by the number of those before it. -/
  stamps : Nat → Stamp
  /-- How many templates were made. -/
  created : Nat := 0
  /-- What listeners were told. -/
  events : List Event := []
  /-- What the collaborators were asked. -/
  calls : List Call := []
  /-- The tasks that have not ended, in the order of their start. -/
  tasks : List (Task A) := []
  /-- The tasks that can move, the one that has waited longest first. -/
  ready : List Ticket := []
  /-- The tasks that have ended, with their results. -/
  results : List (Ticket × A) := []
  nextTicket : Ticket := 0

namespace Scheduler

variable {A : Type}

/-! ## Tasks -/

/-- Starts a task; gives its ticket. -/
def start (scheduler : Scheduler A) (program : Program A) : Ticket × Scheduler A :=
  let ticket := scheduler.nextTicket
  (ticket, { scheduler with
    tasks := scheduler.tasks ++ [⟨ticket, program, program⟩]
    ready := scheduler.ready ++ [ticket]
    nextTicket := ticket + 1 })

/-- The task with a ticket. -/
def task? (scheduler : Scheduler A) (ticket : Ticket) : Option (Task A) :=
  scheduler.tasks.find? fun task => task.ticket == ticket

/-- What is left of a task from now on. -/
def goOn (scheduler : Scheduler A) (task : Task A) (rest : Program A) : Scheduler A :=
  { scheduler with
    tasks := scheduler.tasks.map fun other =>
      if other.ticket = task.ticket then { task with rest } else other }

/-- Takes a task away. -/
def drop (scheduler : Scheduler A) (ticket : Ticket) : Scheduler A :=
  { scheduler with
    tasks := scheduler.tasks.filter fun task => task.ticket != ticket
    ready := scheduler.ready.filter (· != ticket) }

/-- Makes a task wait until it is woken. -/
def pause (scheduler : Scheduler A) (ticket : Ticket) : Scheduler A :=
  { scheduler with ready := scheduler.ready.filter (· != ticket) }

/-! ## Locks -/

/-- Makes whoever owns a lock ready, when the lock was `ticket`'s before. -/
def wakeAfter (scheduler : Scheduler A) (before : Option Ticket) (key : String)
    (ticket : Ticket) : Scheduler A :=
  if before = some ticket then
    match scheduler.locks.ownerOf key with
    | some next => { scheduler with ready := scheduler.ready ++ [next] }
    | none => scheduler
  else scheduler

/-- Gives up a lock, or the wait for it. -/
def leave (scheduler : Scheduler A) (key : String) (ticket : Ticket) : Scheduler A :=
  let before := scheduler.locks.ownerOf key
  let left := { scheduler with locks := scheduler.locks.leave key ticket }
  left.wakeAfter before key ticket

/-- Breaks a task off, wherever it is. -/
def cancel (scheduler : Scheduler A) (ticket : Ticket) : Scheduler A :=
  (scheduler.locks.keysOf ticket).foldl (fun scheduler key => scheduler.leave key ticket)
    (scheduler.drop ticket)

/-! ## Steps -/

/-- Runs a transaction on the store. -/
def transact {β : Type} (scheduler : Scheduler A) (change : Transaction β) :
    Outcome β × Scheduler A :=
  let (outcome, store, files) := scheduler.store.transact scheduler.files none change
  (outcome, { scheduler with store, files })

/-- Runs the hook of a call, whose outcome nobody looks at. -/
def runHook (scheduler : Scheduler A) (call : Call) : Scheduler A :=
  match scheduler.collaborators.hooks.get? call.key with
  | some hook => (scheduler.transact hook).2
  | none => scheduler

/-- Counts a measure.  How long things take is left out. -/
def count (scheduler : Scheduler A) (measure : Measure) : Scheduler A :=
  match measure with
  | .finished operation success =>
    { scheduler with metrics := scheduler.metrics.observe operation success 0 }
  | .rolledBack operation => { scheduler with metrics := scheduler.metrics.rollback operation }

/-- Tells the listeners of an event. -/
def tell (scheduler : Scheduler A) (event : Event) : Scheduler A :=
  let created := match event with
    | .templateCreated _ => scheduler.created + 1
    | _ => scheduler.created
  { scheduler with events := scheduler.events ++ [event], created }

/-- Lets the other tasks go first after a transaction that took its time. -/
def yield (scheduler : Scheduler A) (ticket : Ticket) : Scheduler A :=
  if scheduler.store.snapshot.isSome then
    { scheduler with ready := scheduler.ready.filter (· != ticket) ++ [ticket] }
  else scheduler

/-- The next step of a task. -/
def perform (scheduler : Scheduler A) (task : Task A) : Scheduler A :=
  match task.rest with
  | .done value =>
    let dropped := scheduler.drop task.ticket
    { dropped with results := dropped.results ++ [(task.ticket, value)] }
  | .again => scheduler.goOn task task.origin
  | .acquire key next =>
    let isFree := (scheduler.locks.ownerOf key).isNone
    let asked := { scheduler with locks := scheduler.locks.register key task.ticket }
    let moved := asked.goOn task next
    if isFree then moved else moved.pause task.ticket
  | .release key next => (scheduler.goOn task next).leave key task.ticket
  | .read next => scheduler.goOn task (next scheduler.store.tables)
  | .commit change next =>
    let (outcome, changed) := scheduler.transact change
    (changed.goOn task (next outcome)).yield task.ticket
  | .call request next =>
    let called := { scheduler with calls := scheduler.calls ++ [request] }
    let hooked := called.runHook request
    hooked.goOn task (next (hooked.collaborators.answer request))
  | .emit event next => (scheduler.tell event).goOn task next
  | .measure taken next => (scheduler.count taken).goOn task next
  | .stamp next => scheduler.goOn task (next (scheduler.stamps scheduler.created))

/-- Whether the next step of a task takes no time. -/
def isPrompt (scheduler : Scheduler A) (ticket : Ticket) : Bool :=
  (scheduler.task? ticket).any fun task =>
    match task.rest with
    | .commit _ _ => scheduler.store.snapshot.isNone
    | _ => true

/-- The next step of the first task that is ready, where those whose step takes time let the others
go first. -/
def step? (scheduler : Scheduler A) : Option (Scheduler A) :=
  match scheduler.ready with
  | [] => none
  | first :: rest =>
    match scheduler.task? ((scheduler.ready.find? scheduler.isPrompt).getD first) with
    | some task => some (scheduler.perform task)
    | none => some { scheduler with ready := rest }

/-- Goes on until nothing can move, for at most so many steps. -/
def settle (scheduler : Scheduler A) : Nat → Scheduler A
  | 0 => scheduler
  | fuel + 1 =>
    match scheduler.step? with
    | some next => next.settle fuel
    | none => scheduler

/-- The result of a task that has ended. -/
def result? (scheduler : Scheduler A) (ticket : Ticket) : Option A :=
  scheduler.results.lookup ticket

/-! ## Lock requests -/

/-- The program that takes a lock and keeps it after its end. -/
def keeping (key : String) (value : A) : Program A := .acquire key (.done value)

/-- Whether somebody has a lock. -/
def holds (scheduler : Scheduler A) (key : String) (ticket : Ticket) : Bool :=
  scheduler.locks.ownerOf key == some ticket

end Scheduler

end FibrePool
