import FibrePool.Task.Scheduler

/-!
# Rehearsals

A rehearsal drives a scheduler from outside, one act after the other: it runs tasks to their end,
asks for locks and gives them up, starts tasks and breaks them off, the lasting ones each under a
label.  After every act all tasks go on until nothing can move, so an act sees whatever the one
before it came to.
-/

namespace FibrePool

set_option autoImplicit false

/-- A lock that was asked for and not given up. -/
structure LockRequest where
  label : String
  key : String
  ticket : Ticket
  deriving DecidableEq, Repr

/-- A task that has not ended. -/
structure LabelledTask where
  label : String
  ticket : Ticket
  /-- Whether the task goes on when nobody waits for it any more. -/
  outlives : Bool
  deriving DecidableEq, Repr

/-- A scheduler with the locks and the tasks that somebody outside has asked for. -/
structure Rehearsal (A : Type) : Type 1 where
  scheduler : Scheduler A
  requests : List LockRequest := []
  tasks : List LabelledTask := []

namespace Rehearsal

variable {A : Type}

/-- So many steps are more than any task takes. -/
def enoughSteps : Nat := 1000000000

/-- Goes on with another scheduler. -/
def withScheduler (rehearsal : Rehearsal A) (scheduler : Scheduler A) : Rehearsal A :=
  { rehearsal with scheduler }

/-- Runs all tasks until nothing can move. -/
def settled (rehearsal : Rehearsal A) : Rehearsal A :=
  rehearsal.withScheduler (rehearsal.scheduler.settle enoughSteps)

/-- Changes what the collaborators do. -/
def script (rehearsal : Rehearsal A) (change : Collaborators → Collaborators) : Rehearsal A :=
  rehearsal.withScheduler
    { rehearsal.scheduler with collaborators := change rehearsal.scheduler.collaborators }

/-- Changes the files. -/
def withFiles (rehearsal : Rehearsal A) (files : FileSystem) : Rehearsal A :=
  rehearsal.withScheduler { rehearsal.scheduler with files }

/-- Begins to note down events and calls anew. -/
def quiet (rehearsal : Rehearsal A) : Rehearsal A :=
  rehearsal.withScheduler { rehearsal.scheduler with events := [], calls := [] }

/-! ## Tasks -/

/-- Runs a task; gives its result if it comes to an end. -/
def run (rehearsal : Rehearsal A) (program : Program A) : Option A × Rehearsal A :=
  let (ticket, started) := rehearsal.scheduler.start program
  let ended := (rehearsal.withScheduler started).settled
  (ended.scheduler.result? ticket, ended)

/-- Starts a task under a label. -/
def spawn (rehearsal : Rehearsal A) (label : String) (outlives : Bool) (program : Program A) :
    Rehearsal A :=
  let (ticket, started) := rehearsal.scheduler.start program
  settled { rehearsal with
    scheduler := started
    tasks := rehearsal.tasks ++ [⟨label, ticket, outlives⟩] }

/-- Waits no longer for a task, which is broken off unless it outlives that. -/
def cancel (rehearsal : Rehearsal A) (label : String) : Rehearsal A :=
  match rehearsal.tasks.find? fun task => task.label == label with
  | some task =>
    settled { rehearsal with
      scheduler :=
        if task.outlives then rehearsal.scheduler else rehearsal.scheduler.cancel task.ticket
      tasks := rehearsal.tasks.filter fun other => other.ticket != task.ticket }
  | none => rehearsal

/-- The tasks that have ended, with their results. -/
def finished (rehearsal : Rehearsal A) : List (String × A) :=
  rehearsal.tasks.filterMap fun task =>
    (rehearsal.scheduler.result? task.ticket).map fun result => (task.label, result)

/-- Forgets the tasks that have ended, with their results. -/
def cleared (rehearsal : Rehearsal A) : Rehearsal A :=
  { rehearsal with
    scheduler := { rehearsal.scheduler with results := [] }
    tasks := rehearsal.tasks.filter fun task =>
      (rehearsal.scheduler.result? task.ticket).isNone }

/-! ## Locks -/

/-- Asks for a lock under a label; `value` is the result of asking. -/
def lock (rehearsal : Rehearsal A) (label key : String) (value : A) : Rehearsal A :=
  let (ticket, started) := rehearsal.scheduler.start (Scheduler.keeping key value)
  settled { rehearsal with
    scheduler := started
    requests := rehearsal.requests ++ [⟨label, key, ticket⟩] }

/-- Gives a lock up, or the wait for it. -/
def unlock (rehearsal : Rehearsal A) (label : String) : Rehearsal A :=
  match rehearsal.requests.find? fun request => request.label == label with
  | some request =>
    settled { rehearsal with
      scheduler := rehearsal.scheduler.cancel request.ticket
      requests := rehearsal.requests.filter fun other => other.ticket != request.ticket }
  | none => rehearsal

/-- The labels of the locks that are held, and of those that are waited for. -/
def lockLabels (rehearsal : Rehearsal A) : List String × List String :=
  let (held, waiting) := rehearsal.requests.partition fun request =>
    rehearsal.scheduler.holds request.key request.ticket
  (held.map (·.label), waiting.map (·.label))

/-! ## Starting over -/

/-- Opens the store anew, with no lock, no task and no measure left.  When the store cannot be
opened everything stays as it was. -/
def restart (rehearsal : Rehearsal A) : Outcome Unit × Rehearsal A :=
  let store := match rehearsal.scheduler.store.snapshot with
    | some path => Store.ofSnapshot rehearsal.scheduler.files path
    | none => .ok {}
  match store with
  | .error failure => (.error failure, rehearsal)
  | .ok store =>
    (.ok (), { rehearsal with
      scheduler := { rehearsal.scheduler with
        store
        locks := ∅
        metrics := {}
        tasks := []
        ready := [] }
      requests := []
      tasks := [] })

end Rehearsal

/-! ## Changes of records -/

/-- The records that are new or other than before, and nothing for those that are gone. -/
def recordChanges (before after : OrderedMap DeviceId DeviceRecord) :
    OrderedMap DeviceId (Option DeviceRecord) :=
  let gone := (before.filter fun id _ => !after.contains id).mapValues fun _ _ => none
  let other := (after.filter fun id record => before.get? id != some record).mapValues
    fun _ record => some record
  gone.union other

end FibrePool
