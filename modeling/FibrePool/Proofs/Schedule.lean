import FibrePool.Proofs.Conduct
import FibrePool.Task.Scheduler

/-!
# Schedulers that have been at work

`Scheduler.Reached` describes every scheduler that can come out of an idle one with an empty store:
programs are started at any time, any task that is ready may be the next to take a step, tasks may
be broken off, and the systems around may change what they answer between any two steps.  So the
tables of a reached scheduler are those of every mixture of programs, also in the middle of each of
them.

A statement that every offered program keeps is true of all these tables (`Reached.tables`).  Hooks
are left out: a hook is a transaction of somebody else, and whoever else there is appears here as a
program.  The programs of the operator are those of dispatched actions.
-/

namespace FibrePool

set_option autoImplicit false

/-- The program keeps `inv`, whatever it is answered. -/
abbrev Program.Harmless {α : Type} (inv : Tables → Prop) (program : Program α) : Prop :=
  program.Keeps (fun _ => True) inv fun _ => True

namespace Scheduler

variable {A : Type}

/-- A scheduler that has come out of an idle one with an empty store, with programs of the offered
kind. -/
inductive Reached (offered : Program A → Prop) : Scheduler A → Prop where
  | idle {scheduler : Scheduler A} (empty : scheduler.store.tables = ∅)
    (unused : scheduler.tasks = []) (unhooked : scheduler.collaborators.hooks = ∅) :
    Reached offered scheduler
  | started {scheduler : Scheduler A} {program : Program A} (reached : Reached offered scheduler)
    (allowed : offered program) : Reached offered (scheduler.start program).2
  | moved {scheduler : Scheduler A} {ticket : Ticket} {task : Task A}
    (reached : Reached offered scheduler) (ready : ticket ∈ scheduler.ready)
    (found : scheduler.task? ticket = some task) : Reached offered (scheduler.perform task)
  | /-- A ticket whose task is gone is passed over. -/
    passed {scheduler : Scheduler A} {ticket : Ticket} {rest : List Ticket}
    (reached : Reached offered scheduler) (first : scheduler.ready = ticket :: rest)
    (gone : scheduler.task? ticket = none) : Reached offered { scheduler with ready := rest }
  | cancelled {scheduler : Scheduler A} (reached : Reached offered scheduler) (ticket : Ticket) :
    Reached offered (scheduler.cancel ticket)
  | /-- The systems around and the files change. -/
    surrounded {scheduler : Scheduler A} (reached : Reached offered scheduler)
    (collaborators : Collaborators) (files : FileSystem) (unhooked : collaborators.hooks = ∅) :
    Reached offered { scheduler with collaborators, files }

/-- The turn goes to a task that is ready, or to the first ticket when its task is gone. -/
theorem turn_of_ready (scheduler : Scheduler A) (first : Ticket) (rest : List Ticket) :
    ((first :: rest).find? scheduler.isPrompt).getD first ∈ first :: rest ∧
      (scheduler.task? (((first :: rest).find? scheduler.isPrompt).getD first) = none →
        ((first :: rest).find? scheduler.isPrompt).getD first = first) := by
  cases turn : (first :: rest).find? scheduler.isPrompt with
  | none => exact ⟨List.mem_cons_self, fun _ => rfl⟩
  | some ticket =>
    refine ⟨List.mem_of_find?_eq_some turn, fun gone => ?_⟩
    -- A ticket without a task is never prompt.
    have prompt : scheduler.isPrompt ticket = true := List.find?_some turn
    obtain ⟨task, found, _⟩ := (Option.any_eq_true _ _).1 prompt
    cases gone.symm.trans found

namespace Reached

variable {offered : Program A → Prop} {scheduler : Scheduler A}

/-- Going on with the task whose turn it is is one way to go on. -/
theorem settle (reached : Reached offered scheduler) (fuel : Nat) :
    Reached offered (scheduler.settle fuel) := by
  induction fuel generalizing scheduler with
  | zero => exact reached
  | succ fuel ih =>
    rw [Scheduler.settle, step?]
    cases waiting : scheduler.ready with
    | nil => exact reached
    | cons first rest =>
      dsimp only
      obtain ⟨ready, passed⟩ := scheduler.turn_of_ready first rest
      cases found : scheduler.task? (((first :: rest).find? scheduler.isPrompt).getD first) with
      | none => exact ih (reached.passed waiting (passed found ▸ found))
      | some task => exact ih (reached.moved (waiting ▸ ready) found)

end Reached

/-! ## What a scheduler upholds -/

/-- The statement is true of the tables, and every task keeps it, whether it goes on from where it
is or starts anew. -/
structure Upholds (inv : Tables → Prop) (scheduler : Scheduler A) : Prop where
  tables : inv scheduler.store.tables
  tasks : ∀ task ∈ scheduler.tasks, task.origin.Harmless inv ∧ task.rest.Harmless inv
  unhooked : scheduler.collaborators.hooks = ∅

namespace Upholds

variable {inv : Tables → Prop} {scheduler : Scheduler A}

/-- What is upheld depends on the tables, on the tasks and on the hooks only. -/
theorem of_eq {other : Scheduler A} (upholds : scheduler.Upholds inv)
    (tables : other.store.tables = scheduler.store.tables)
    (tasks : ∀ task ∈ other.tasks, task ∈ scheduler.tasks)
    (hooks : other.collaborators.hooks = scheduler.collaborators.hooks) : other.Upholds inv where
  tables := tables ▸ upholds.tables
  tasks task member := upholds.tasks task (tasks task member)
  unhooked := hooks.trans upholds.unhooked

theorem start {program : Program A} (upholds : scheduler.Upholds inv)
    (harmless : program.Harmless inv) :
    (scheduler.start program).2.Upholds inv where
  tables := upholds.tables
  unhooked := upholds.unhooked
  tasks task member := by
    rcases List.mem_append.1 member with old | new
    · exact upholds.tasks task old
    · obtain rfl := List.mem_singleton.1 new
      exact ⟨harmless, harmless⟩

theorem goOn {task : Task A} {rest : Program A} (upholds : scheduler.Upholds inv)
    (origin : task.origin.Harmless inv) (harmless : rest.Harmless inv) :
    (scheduler.goOn task rest).Upholds inv where
  tables := upholds.tables
  unhooked := upholds.unhooked
  tasks other member := by
    obtain ⟨old, listed, rfl⟩ := List.mem_map.1 member
    split
    · exact ⟨origin, harmless⟩
    · exact upholds.tasks old listed

theorem leave (upholds : scheduler.Upholds inv) (key : String) (ticket : Ticket) :
    (scheduler.leave key ticket).Upholds inv := by
  unfold Scheduler.leave Scheduler.wakeAfter
  dsimp only
  split
  · split
    · exact upholds.of_eq rfl (fun _ => id) rfl
    · exact upholds.of_eq rfl (fun _ => id) rfl
  · exact upholds.of_eq rfl (fun _ => id) rfl

theorem drop (upholds : scheduler.Upholds inv) (ticket : Ticket) :
    (scheduler.drop ticket).Upholds inv :=
  upholds.of_eq rfl (fun _ member => (List.mem_filter.1 member).1) rfl

theorem cancel (upholds : scheduler.Upholds inv) (ticket : Ticket) :
    (scheduler.cancel ticket).Upholds inv := by
  unfold Scheduler.cancel
  have dropped := upholds.drop ticket
  generalize scheduler.drop ticket = remaining at dropped
  induction scheduler.locks.keysOf ticket generalizing remaining with
  | nil => exact dropped
  | cons key keys ih => exact ih _ (dropped.leave key ticket)

theorem yield (upholds : scheduler.Upholds inv) (ticket : Ticket) :
    (scheduler.yield ticket).Upholds inv := by
  unfold Scheduler.yield
  split
  · exact upholds.of_eq rfl (fun _ => id) rfl
  · exact upholds

theorem runHook (upholds : scheduler.Upholds inv) (request : Call) :
    (scheduler.runHook request).Upholds inv := by
  unfold Scheduler.runHook
  rw [upholds.unhooked]
  exact upholds

theorem count (upholds : scheduler.Upholds inv) (taken : Measure) :
    (scheduler.count taken).Upholds inv := by
  cases taken <;> exact upholds.of_eq rfl (fun _ => id) rfl

/-- A transaction either fails and leaves the tables, or it succeeds and its tables are stored. -/
theorem transact_cases {β : Type} (scheduler : Scheduler A) (change : Transaction β) :
    (∃ failure, (scheduler.transact change).1 = .error failure ∧
      (scheduler.transact change).2.store.tables = scheduler.store.tables) ∨
    ∃ result tables, change scheduler.store.tables = .ok (result, tables) ∧
      (scheduler.transact change).1 = .ok result ∧
      (scheduler.transact change).2.store.tables = tables := by
  unfold Scheduler.transact Store.transact
  cases done : change scheduler.store.tables with
  | error failure => exact .inl ⟨failure, rfl, rfl⟩
  | ok changed =>
    obtain ⟨result, tables⟩ := changed
    dsimp only
    split
    · exact .inr ⟨result, tables, rfl, rfl, rfl⟩
    · split
      · exact .inr ⟨result, tables, rfl, rfl, rfl⟩
      · next failure saved => exact .inl ⟨_, rfl, rfl⟩

/-- **One step of one task upholds what all tasks keep.** -/
theorem perform {task : Task A} (upholds : scheduler.Upholds inv)
    (member : task ∈ scheduler.tasks) : (scheduler.perform task).Upholds inv := by
  obtain ⟨origin, harmless⟩ := upholds.tasks task member
  unfold Scheduler.perform
  generalize task.rest = left at harmless
  cases left with
  | done value => exact (upholds.drop task.ticket).of_eq rfl (fun _ => id) rfl
  | again => exact upholds.goOn origin origin
  | acquire key next =>
    have asked : Upholds inv { scheduler with locks := scheduler.locks.register key task.ticket } :=
      upholds.of_eq rfl (fun _ => id) rfl
    have further : next.Harmless inv := harmless
    have moved := asked.goOn origin further
    dsimp only
    split
    · exact moved
    · exact moved.of_eq rfl (fun _ => id) rfl
  | release key next =>
    have further : next.Harmless inv := harmless
    exact (upholds.goOn origin further).leave key task.ticket
  | read next => exact upholds.goOn origin (harmless _ upholds.tables)
  | commit change next =>
    obtain ⟨onResult, onFailure⟩ := harmless
    dsimp only
    rcases transact_cases scheduler change with
      ⟨failure, failed, same⟩ | ⟨result, tables, done, succeeded, stored⟩
    · rw [failed]
      exact ((upholds.of_eq same (fun _ => id) rfl).goOn origin (onFailure failure)).yield _
    · obtain ⟨holds, further⟩ := onResult _ result tables upholds.tables done
      have changed : (scheduler.transact change).2.Upholds inv :=
        ⟨stored ▸ holds, upholds.tasks, upholds.unhooked⟩
      rw [succeeded]
      exact (changed.goOn origin further).yield _
  | call request next =>
    have called : Upholds inv { scheduler with calls := scheduler.calls ++ [request] } :=
      upholds.of_eq rfl (fun _ => id) rfl
    exact (called.runHook request).goOn origin (harmless _ trivial)
  | emit event next =>
    have told : (scheduler.tell event).Upholds inv := upholds.of_eq rfl (fun _ => id) rfl
    have further : next.Harmless inv := harmless
    exact told.goOn origin further
  | measure taken next =>
    have further : next.Harmless inv := harmless
    exact (upholds.count taken).goOn origin further
  | stamp next => exact upholds.goOn origin (harmless _ trivial)

end Upholds

theorem Reached.upholds {offered : Program A → Prop} {inv : Tables → Prop}
    {scheduler : Scheduler A} (reached : Reached offered scheduler) (empty : inv ∅)
    (programs : ∀ program, offered program → program.Harmless inv) :
    scheduler.Upholds inv := by
  induction reached with
  | idle start unused unhooked =>
    refine ⟨start ▸ empty, fun task member => ?_, unhooked⟩
    rw [unused] at member
    cases member
  | started _ allowed ih => exact ih.start (programs _ allowed)
  | moved _ _ found ih => exact ih.perform (List.mem_of_find?_eq_some found)
  | passed _ _ _ ih => exact ih.of_eq rfl (fun _ => id) rfl
  | cancelled _ ticket ih => exact ih.cancel ticket
  | surrounded _ collaborators files unhooked ih => exact ⟨ih.tables, ih.tasks, unhooked⟩

/-- **What every offered program keeps is true in every state**, also between the transactions of
programs under way. -/
theorem Reached.tables {offered : Program A → Prop} {inv : Tables → Prop}
    {scheduler : Scheduler A} (reached : Reached offered scheduler) (empty : inv ∅)
    (programs : ∀ program, offered program → program.Harmless inv) :
    inv scheduler.store.tables :=
  (reached.upholds empty programs).tables

end Scheduler

/-! ## The programs of the operator -/

/-- The programs of dispatched actions. -/
def Volume.Dispatched (settings : OperatorSettings) (program : Program (Outcome Output)) : Prop :=
  ∃ action, program = (Volume.dispatch settings action).run

/-- What upkeep and changes of usage keep is true whenever the operator is at work. -/
theorem Scheduler.Reached.dispatched_tables {settings : OperatorSettings} {inv : Tables → Prop}
    {scheduler : Scheduler (Outcome Output)}
    (reached : scheduler.Reached (Volume.Dispatched settings)) (empty : inv ∅)
    (upkeep : UpkeepKeeps (fun _ => True) inv) (changes : UsageChangesKeep inv) :
    inv scheduler.store.tables := by
  refine reached.tables empty ?_
  rintro program ⟨action, rfl⟩
  exact (Volume.dispatch_preserves (Volume.run_preserves settings upkeep changes action)).keeps

/-! ## A small pool

Worked examples start from an operator with one guest, who may be given one device. -/

namespace Sample

/-- An operator that reserves without a reconciliation. -/
def settings : OperatorSettings where
  partition := "LPAR"
  pool := { queryTarget := "host", sameIndexPairing := false, syncBeforeReserve := false }

/-- The device `1a00`. -/
def device : DeviceId := ⟨⟨0x1a00, by decide⟩⟩

/-- A volume that the guest `A` reaches twice through the device. -/
def volume : VolumeConnection :=
  { assigner := "A", devices := [device, device], targetNames := [], lun := "" }

/-- An operator at rest, with an empty store. -/
def idle : Scheduler (Outcome Output) where
  collaborators := { guests := ["A"] }
  stamps _ := { id := "T", createdAt := default }

/-- The operator after a template with the device was made. -/
def prepared : Scheduler (Outcome Output) :=
  (idle.start (Volume.dispatch settings (.createTemplate { devices := "1a00" })).run).2.settle 20

/-- The operator so many steps into an attach. -/
def attaching (steps : Nat) : Scheduler (Outcome Output) :=
  (prepared.start (Volume.dispatch settings (.attach volume)).run).2.settle steps

theorem prepared_reached : prepared.Reached (Volume.Dispatched settings) :=
  Scheduler.Reached.settle (.started (.idle rfl rfl rfl) ⟨_, rfl⟩) 20

theorem attaching_reached (steps : Nat) :
    (attaching steps).Reached (Volume.Dispatched settings) :=
  Scheduler.Reached.settle (.started prepared_reached ⟨_, rfl⟩) steps

end Sample

end FibrePool
