import FibrePool.Pool.Event
import FibrePool.Store.Transaction
import FibrePool.Volume.Connection

/-!
# Programs

A program is a workflow of the pool cut at the places where something outside of it can happen: a
lock is asked for or given back, the tables are read or changed, another system is called,
listeners are told, a measure is taken.  Between two such steps nothing else can interfere, so the
ways in which programs can run side by side are exactly the ways in which their steps can be mixed.

A `Workflow` is a program that may fail.  Its failures are values, so locks are given back on every
way out.
-/

namespace FibrePool

set_option autoImplicit false

/-- Something that is counted. -/
inductive Measure where
  | finished (operation : String) (success : Bool)
  | rolledBack (operation : String)
  deriving DecidableEq, Repr

/-- The identity of a new template. -/
structure Stamp where
  id : String
  createdAt : Instant
  deriving DecidableEq, Repr, Inhabited

/-- A workflow as the tree of its steps. -/
inductive Program (α : Type) : Type 1 where
  | done (value : α)
  | /-- Gives this attempt up and starts the whole task anew. -/
    again
  | /-- Waits for a lock and takes it. -/
    acquire (key : String) (next : Program α)
  | /-- Gives a lock back. -/
    release (key : String) (next : Program α)
  | /-- Looks at the tables. -/
    read (next : Tables → Program α)
  | /-- Runs a transaction. -/
    commit {β : Type} (change : Transaction β) (next : Outcome β → Program α)
  | /-- Asks another system. -/
    call (request : Call) (next : Outcome request.Answer → Program α)
  | /-- Tells the listeners. -/
    emit (event : Event) (next : Program α)
  | measure (measure : Measure) (next : Program α)
  | /-- Takes a fresh template identity. -/
    stamp (next : Stamp → Program α)

namespace Program

/-- Goes on with `next` where a program ends. -/
def bind {α β : Type} (program : Program α) (next : α → Program β) : Program β :=
  match program with
  | done value => next value
  | again => again
  | acquire key rest => acquire key (rest.bind next)
  | release key rest => release key (rest.bind next)
  | read rest => read fun tables => (rest tables).bind next
  | commit change rest => commit change fun outcome => (rest outcome).bind next
  | call request rest => call request fun answer => (rest answer).bind next
  | emit event rest => emit event (rest.bind next)
  | measure taken rest => measure taken (rest.bind next)
  | stamp rest => stamp fun fresh => (rest fresh).bind next

instance : Monad Program where
  pure := done
  bind := bind

end Program

/-- A program that may fail. -/
abbrev Workflow (α : Type) := ExceptT Failure Program α

namespace Workflow

/-- A workflow made of a program that says itself whether it failed. -/
def ofProgram {α : Type} (program : Program (Outcome α)) : Workflow α := ExceptT.mk program

/-- The outcome of a workflow as a value. -/
def outcome {α : Type} (workflow : Workflow α) : Workflow (Outcome α) :=
  ofProgram (workflow.run.bind fun outcome => .done (.ok outcome))

/-- What an outcome says. -/
def ofOutcome {α : Type} (outcome : Outcome α) : Workflow α := ofProgram (.done outcome)

/-- The answer of the tables to a question. -/
def ask {α : Type} (question : Tables → α) : Workflow α :=
  ofProgram (.read fun tables => .done (.ok (question tables)))

/-- The answer of the tables to a question that may have none. -/
def askFor {α : Type} (question : Tables → Outcome α) : Workflow α :=
  ofProgram (.read fun tables => .done (question tables))

/-- The result of a transaction. -/
def commit {α : Type} (change : Transaction α) : Workflow α := ofProgram (.commit change .done)

/-- The answer of another system. -/
def call (request : Call) : Workflow request.Answer := ofProgram (.call request .done)

/-- Tells the listeners of an event. -/
def emit (event : Event) : Workflow Unit := ofProgram (.emit event (.done (.ok ())))

/-- Takes a measure. -/
def measure (taken : Measure) : Workflow Unit := ofProgram (.measure taken (.done (.ok ())))

/-- Takes a fresh template identity. -/
def stamp : Workflow Stamp := ofProgram (.stamp fun fresh => .done (.ok fresh))

/-- Runs a workflow while it holds a lock. -/
def holding {α : Type} (key : String) (workflow : Workflow α) : Workflow α :=
  ofProgram (.acquire key (workflow.run.bind fun outcome => .release key (.done outcome)))

/-- Runs a workflow while it holds several locks, taken in the given order and given back in the
same order. -/
def holdingAll {α : Type} (keys : List String) (workflow : Workflow α) : Workflow α :=
  let freed (outcome : Outcome α) : Program (Outcome α) :=
    keys.foldr .release (.done outcome)
  ofProgram (keys.foldr .acquire (workflow.run.bind freed))

end Workflow

end FibrePool
