import FibrePool.Proofs.Mutex

/-!
# Work under one lock

An attach or a detach takes the lock of its guest before it does anything else and gives it back
when nothing is left to do but to count how it went (`Volume.IsWorkflow.framed`).  So once such a
workflow has acted it has the lock until it is finished, whatever others do meanwhile
(`Interleaving.tenure`).
-/

namespace FibrePool

set_option autoImplicit false

open Workflow

/-! ## Programs under one lock -/

namespace Program

variable {α β : Type} {allowed : Prop} {key : String}

/-- Nothing is left to do but to count how it went. -/
def Finished : Program α → Prop
  | done _ => True
  | measure _ next => next.Finished
  | _ => False

/-- The program does not start anew, and when it gives back the lock the rest of it is as stated. -/
def Within (key : String) (afterwards : Program α → Prop) : Program α → Prop
  | done _ => True
  | again => False
  | acquire _ next => next.Within key afterwards
  | release given next =>
    if given = key then afterwards next else next.Within key afterwards
  | read next => ∀ tables, (next tables).Within key afterwards
  | commit _ next => ∀ outcome, (next outcome).Within key afterwards
  | call _ next => ∀ answer, (next answer).Within key afterwards
  | emit _ next => next.Within key afterwards
  | measure _ next => next.Within key afterwards
  | stamp next => ∀ fresh, (next fresh).Within key afterwards

/-- Everything is done under the lock, which may be taken only if this is allowed, or nothing is
done at all. -/
inductive Framed (allowed : Prop) (key : String) : Program α → Prop where
  | finished {program : Program α} (finished : program.Finished) : Framed allowed key program
  | acquire {program : Program α} (leave : allowed) (inside : program.Within key Finished) :
    Framed allowed key (.acquire key program)

theorem Finished.acts_eq_false {program : Program α} (finished : program.Finished) :
    program.acts = false := by
  cases program with
  | commit change next => exact finished.elim
  | call request next => exact finished.elim
  | _ => rfl

theorem Finished.of_next {program rest : Program α} (finished : program.Finished)
    (step : program.Next rest) : rest.Finished := by
  cases step with
  | acquire key next => exact finished.elim
  | release key next => exact finished.elim
  | proceeds step =>
    cases step with
    | measure taken next => exact finished
    | _ => exact finished.elim

theorem Finished.of_reaches {program rest : Program α} (finished : program.Finished)
    (reaches : program.Reaches rest) : rest.Finished := by
  induction reaches with
  | refl => exact finished
  | tail _ step ih => exact ih.of_next step

theorem Finished.within {program : Program α} (finished : program.Finished) :
    program.Within key Finished := by
  induction program with
  | done value => trivial
  | measure taken next ih => exact ih finished
  | _ => exact finished.elim

theorem finished_bind {program : Program β} {next : β → Program α} (finished : program.Finished)
    (rest : ∀ value, (next value).Finished) : (program.bind next).Finished := by
  induction program with
  | done value => exact rest value
  | measure taken next ih => exact ih finished
  | _ => exact finished.elim

/-- A step inside either stays inside or gives the lock back, and then the program is over. -/
theorem Within.of_next {program rest : Program α} (inside : program.Within key Finished)
    (step : program.Next rest) : rest.Within key Finished := by
  cases step with
  | acquire other next => exact inside
  | release other next =>
    unfold Within at inside
    split at inside
    · exact inside.within
    · exact inside
  | proceeds step =>
    cases step with
    | read next tables => exact inside tables
    | commit change next outcome => exact inside outcome
    | call request next answer => exact inside answer
    | emit event next => exact inside
    | measure taken next => exact inside
    | stamp next fresh => exact inside fresh

theorem within_bind {afterwards : Program α → Prop} {afterwards' : Program β → Prop}
    {program : Program β} {next : β → Program α} (first : program.Within key afterwards')
    (ends : ∀ rest, afterwards' rest → afterwards (rest.bind next))
    (later : ∀ value, (next value).Within key afterwards) :
    (program.bind next).Within key afterwards := by
  induction program with
  | done value => exact later value
  | again => exact first.elim
  | acquire other rest ih => exact ih first
  | release other rest ih =>
    unfold Within at first
    show if other = key then afterwards (rest.bind next) else (rest.bind next).Within key afterwards
    split
    · next same => exact ends rest (by rwa [if_pos same] at first)
    · next different => exact ih (by rwa [if_neg different] at first)
  | read rest ih => exact fun tables => ih tables (first tables)
  | commit change rest ih => exact fun outcome => ih outcome (first outcome)
  | call request rest ih => exact fun answer => ih answer (first answer)
  | emit event rest ih => exact ih first
  | measure taken rest ih => exact ih first
  | stamp rest ih => exact fun fresh => ih fresh (first fresh)

theorem Framed.bind {program : Program β} {next : β → Program α}
    (framed : program.Framed allowed key) (rest : ∀ value, (next value).Finished) :
    (program.bind next).Framed allowed key := by
  cases framed with
  | finished finished => exact .finished (finished_bind finished rest)
  | acquire leave inside =>
    exact .acquire leave (within_bind inside (fun _ finished => finished_bind finished rest)
      fun value => (rest value).within)

/-- Whatever is left of a program that does everything under the lock is all of it, or inside. -/
theorem Framed.of_reaches {program rest : Program α} (framed : program.Framed allowed key)
    (reaches : program.Reaches rest) : rest = program ∨ rest.Within key Finished := by
  induction reaches with
  | refl => exact .inl rfl
  | @tail middle rest _ step ih =>
    refine .inr ?_
    rcases ih with rfl | inside
    · cases framed with
      | finished finished => exact (finished.of_next step).within
      | acquire leave inside =>
        cases step with
        | acquire _ _ => exact inside
        | proceeds step => cases step
    · exact inside.of_next step

end Program

/-! ## Workflows -/

namespace Workflow

variable {α β : Type} {allowed : Prop} {key : String} {held : Finset String}

/-- The workflow never gives the lock back and does not start anew. -/
def Clings (key : String) (workflow : Workflow α) : Prop :=
  workflow.run.Within key fun _ => False

theorem Clings.bind {workflow : Workflow β} {next : β → Workflow α} (first : workflow.Clings key)
    (rest : ∀ value, (next value).Clings key) : (workflow >>= next).Clings key := by
  refine Program.within_bind first (fun _ => id) fun outcome => ?_
  cases outcome with
  | ok value => exact rest value
  | error failure => trivial

/-- Taking another lock and giving it back leaves the lock where it is. -/
theorem Clings.holding {workflow : Workflow α} {other : String} (different : other ≠ key)
    (clings : workflow.Clings key) : (holding other workflow).Clings key := by
  refine Program.within_bind clings (fun _ => id) fun outcome => ?_
  unfold Program.Within
  rw [if_neg different]
  trivial

theorem clings_call (key : String) (request : Call) : (call request).Clings key := fun _ => trivial

/-- **A workflow made of parts that keep the locks held around them keeps these locks.** -/
theorem clings_parts (key : String) :
    Compositional fun held {_} workflow => key ∈ held → workflow.Clings key where
  pure _ _ _ _ := trivial
  throw _ _ _ _ := trivial
  bind first rest among := (first among).bind fun value => rest value among
  outcome clings among := Program.within_bind (clings among) (fun _ => id) fun _ => trivial
  adapt clings _ among := Program.within_bind (clings among) (fun _ => id) fun _ => trivial
  holding below clings among :=
    (clings (Finset.mem_insert_of_mem among)).holding fun same =>
      Program.not_mem_of_below below (same ▸ among)
  ask _ _ _ _ := fun _ => trivial
  askFor _ _ _ _ := fun _ => trivial
  commit _ _ _ _ := fun _ => trivial
  look _ request _ _ := clings_call key request
  emit _ _ _ := trivial
  measure _ _ _ := trivial
  stamp _ _ := fun _ => trivial

/-- A workflow that is done under a lock keeps the lock to its end. -/
theorem Clings.framed {workflow : Workflow α} (clings : workflow.Clings key) (leave : allowed) :
    (Workflow.holding key workflow).run.Framed allowed key := by
  refine .acquire leave (Program.within_bind clings (fun _ => False.elim) fun outcome => ?_)
  unfold Program.Within
  rw [if_pos rfl]
  trivial

-- Followed from here on through the statements above only: a program is never run by unfolding.
attribute [irreducible] Clings

/-- A workflow that is done under a lock is followed by something that does nothing. -/
theorem framed_bind {workflow : Workflow β} {next : β → Workflow α}
    (framed : workflow.run.Framed allowed key) (rest : ∀ value, (next value).run.Finished) :
    (workflow >>= next).run.Framed allowed key := by
  refine Program.Framed.bind framed fun outcome => ?_
  cases outcome with
  | ok value => exact rest value
  | error failure => trivial

end Workflow

/-! ## Attaches and detaches -/

namespace Volume

/-- Everything is done under the lock of the guest, whose name must not be blank. -/
abbrev FramedFor {α : Type} (raw : String) (program : Program α) : Prop :=
  program.Framed (guestName raw ≠ "") (guestKey (guestName raw))

variable {raw : String} {settings : OperatorSettings}

/-- What is done for a guest under its lock, after the request was checked. -/
theorem framed_guarded {devices : List DeviceId} {workflow : String → Workflow Unit}
    (clings : (workflow (guestName raw)).Clings (guestKey (guestName raw))) :
    FramedFor raw (do
      let assigner ← ofOutcome (requiredGuest raw)
      ofOutcome (requiredDevices devices)
      holding (guestKey assigner) (workflow assigner) : Workflow Unit).run := by
  cases checked : requiredGuest raw with
  | error failure => exact .finished trivial
  | ok assigner =>
    obtain ⟨named, rfl⟩ := requiredGuest_eq_ok.1 checked
    cases requiredDevices devices with
    | error failure => exact .finished trivial
    | ok _ => exact clings.framed named

theorem framed_dispatch {action : Action} (framed : FramedFor raw (run settings action).run) :
    FramedFor raw (dispatch settings action).run := by
  have outcome : FramedFor raw (run settings action).outcome.run :=
    framed.bind fun _ => trivial
  exact framed_bind outcome fun _ => trivial

/-- Attaches and detaches do everything under the lock of their guest. -/
theorem IsWorkflow.framed {connection : VolumeConnection} {program : Program (Outcome Output)}
    (works : IsWorkflow settings connection program) : FramedFor connection.assigner program := by
  have clings := clings_parts (guestKey (guestName connection.assigner))
  have among := Finset.mem_singleton_self (guestKey (guestName connection.assigner))
  rcases works with works | works
  · rw [works]
    refine framed_dispatch (framed_bind (framed_guarded ?_) fun _ => trivial)
    exact clings.attachAlone (fun _ request _ => clings_call _ request) _ _ connection among
  · rw [works]
    refine framed_dispatch (framed_bind (framed_guarded ?_) fun _ => trivial)
    exact clings.detachAlone (fun _ request _ => clings_call _ request) _ _ connection among

end Volume

/-! ## Keeping a lock while others are at work -/

namespace LockTable

variable {table : LockTable} {key other : String} {holder ticket : Ticket}

theorem ownerOf_register (owned : table.ownerOf key = some holder) :
    (table.register other ticket).ownerOf key = some holder := by
  obtain ⟨lock, found, owns⟩ := Option.bind_eq_some_iff.1 owned
  unfold ownerOf register
  by_cases same : key = other
  · subst same
    rw [OrderedMap.get?_insert_self, found]
    simp [Lock.register, owns]
  · rw [OrderedMap.get?_insert_of_ne _ same, found]
    exact owns

/-- Others who leave a queue leave the lock to its owner. -/
theorem Sound.ownerOf_leave (sound : table.Sound) (queued : ticket ∈ table.queue other)
    (owned : table.ownerOf key = some holder) (apart : ticket = holder → key ≠ other) :
    (table.leave other ticket).ownerOf key = some holder := by
  rw [(sound.leave queued).ownerOf]
  rw [sound.ownerOf] at owned
  by_cases same : key = other
  · subst same
    rw [sound.queue_leave_self queued]
    cases order : table.queue key with
    | nil => simp [order] at owned
    | cons first rest =>
      obtain rfl : first = holder := by simpa [order] using owned
      have different : first ≠ ticket := fun same => apart same.symm rfl
      rw [List.erase_cons_tail (by simpa using different)]
      rfl
  · rwa [queue_leave_of_ne same]

/-- Who leaves all queues leaves the locks of others to their owners. -/
theorem Sound.ownerOf_leaveAll {keys : List String} (sound : table.Sound) (distinct : keys.Nodup)
    (queued : ∀ other ∈ keys, ticket ∈ table.queue other)
    (owned : table.ownerOf key = some holder) (different : ticket ≠ holder) :
    (keys.foldl (fun table other => table.leave other ticket) table).ownerOf key =
      some holder := by
  induction keys generalizing table with
  | nil => exact owned
  | cons first rest ih =>
    obtain ⟨now, later⟩ := List.forall_mem_cons.1 queued
    obtain ⟨absent, distinct⟩ := List.nodup_cons.1 distinct
    refine ih (sound.leave now) distinct (fun other member => ?_)
      (sound.ownerOf_leave now owned fun same => absurd same different)
    rw [queue_leave_of_ne (ne_of_mem_of_not_mem member absent)]
    exact later other member

end LockTable

namespace Scheduler

variable {A : Type} {scheduler : Scheduler A} {key : String} {ticket : Ticket}

theorem locks_cancel (scheduler : Scheduler A) (ticket : Ticket) :
    (scheduler.cancel ticket).locks = (scheduler.locks.keysOf ticket).foldl
      (fun table key => table.leave key ticket) scheduler.locks := by
  unfold cancel
  have same : (scheduler.drop ticket).locks = scheduler.locks := rfl
  rw [← same]
  generalize scheduler.drop ticket = remaining
  induction remaining.locks.keysOf ticket generalizing remaining with
  | nil => rfl
  | cons key keys ih =>
    rw [List.foldl_cons, List.foldl_cons, ih, locks_leave]

/-- A move leaves every lock to its owner, unless it is the owner that gives it back. -/
theorem Disciplined.ownerOf_perform (disciplined : scheduler.Disciplined none) {task : Task A}
    (member : task ∈ scheduler.tasks) (ready : task.ticket ∈ scheduler.ready)
    (owned : scheduler.locks.ownerOf key = some ticket) :
    (scheduler.perform task).locks.ownerOf key = some ticket ∨
      task.ticket = ticket ∧ ∃ next, task.rest = .release key next := by
  have performs := performs ready
  generalize scheduler.perform task = after at performs
  cases performs with
  | ended done results => exact .inl owned
  | restarted again => exact .inl owned
  | granted asks free => exact .inl (LockTable.ownerOf_register owned)
  | queued asks taken => exact .inl (LockTable.ownerOf_register owned)
  | @released other next gives =>
    have standing := disciplined.standing task member nofun
    have locks := standing.rest ∅ standing.origin
    rw [gives] at locks
    have queued := LockTable.mem_concerning.1 locks.1
    by_cases gone : task.ticket = ticket ∧ key = other
    · obtain ⟨own, rfl⟩ := gone
      exact .inr ⟨own, next, gives⟩
    · refine .inl ?_
      rw [locks_leave]
      exact disciplined.sound.ownerOf_leave queued owned fun own same => gone ⟨own, same⟩
  | @proceeded changed rest step tasks locks issued order =>
    refine .inl ?_
    show changed.locks.ownerOf key = some ticket
    rwa [locks]

/-- A task has a lock until it is over, if it is still under way. -/
structure Tenure (scheduler : Scheduler A) (key : String) (ticket : Ticket) : Prop where
  issued : ticket < scheduler.nextTicket
  holds : ∀ task, scheduler.task? ticket = some task → task.rest.Finished ∨
    task.rest.Within key Program.Finished ∧ scheduler.locks.ownerOf key = some ticket

namespace Tenure

theorem of_eq {changed : Scheduler A} (tenure : scheduler.Tenure key ticket)
    (tasks : changed.tasks = scheduler.tasks) (locks : changed.locks = scheduler.locks)
    (issued : changed.nextTicket = scheduler.nextTicket) : changed.Tenure key ticket where
  issued := issued ▸ tenure.issued
  holds task found := by
    unfold task? at found
    rw [tasks] at found
    rw [locks]
    exact tenure.holds task found

theorem start (tenure : scheduler.Tenure key ticket) (program : Program A) :
    (scheduler.start program).2.Tenure key ticket where
  issued := Nat.lt_succ_of_lt tenure.issued
  holds task found := by
    rw [task?_start_of_lt tenure.issued] at found
    exact tenure.holds task found

theorem perform (tenure : scheduler.Tenure key ticket) (disciplined : scheduler.Disciplined none)
    {task : Task A} (found : scheduler.task? task.ticket = some task)
    (ready : task.ticket ∈ scheduler.ready) : (scheduler.perform task).Tenure key ticket where
  issued := (issued_perform ready).symm ▸ tenure.issued
  holds moved present := by
    have member := List.mem_of_find?_eq_some found
    by_cases own : ticket = task.ticket
    · subst own
      obtain ⟨_, step | ⟨again, _⟩⟩ := next_of_perform found ready present
      · rcases tenure.holds task found with finished | ⟨inside, owned⟩
        · exact .inl (finished.of_next step)
        · rcases disciplined.ownerOf_perform member ready owned with kept | ⟨_, next, gives⟩
          · exact .inr ⟨inside.of_next step, kept⟩
          · -- With the lock the task has given back everything that was left to do.
            rw [gives] at inside step
            unfold Program.Within at inside
            rw [if_pos rfl] at inside
            cases step with
            | release _ _ => exact .inl inside
            | proceeds step => cases step
      · rcases tenure.holds task found with finished | ⟨inside, _⟩
        · exact (again ▸ finished).elim
        · exact (again ▸ inside).elim
    · rw [task?_perform_of_ne ready own] at present
      rcases tenure.holds moved present with finished | ⟨inside, owned⟩
      · exact .inl finished
      · refine .inr ⟨inside, ?_⟩
        rcases disciplined.ownerOf_perform member ready owned with kept | ⟨same, _⟩
        · exact kept
        · exact absurd same.symm own

theorem cancel (tenure : scheduler.Tenure key ticket) (disciplined : scheduler.Disciplined none)
    (broken : Ticket) : (scheduler.cancel broken).Tenure key ticket where
  issued := (issued_cancel broken).symm ▸ tenure.issued
  holds task found := by
    rw [task?_cancel] at found
    by_cases same : ticket = broken
    · subst same
      rw [task?_drop_self] at found
      cases found
    · rw [task?_drop_of_ne same] at found
      refine (tenure.holds task found).imp_right fun ⟨inside, owned⟩ => ⟨inside, ?_⟩
      rw [locks_cancel]
      exact disciplined.sound.ownerOf_leaveAll (LockTable.nodup_keysOf _ _)
        (fun other member => LockTable.mem_keysOf.1 member) owned (Ne.symm same)

end Tenure

end Scheduler

namespace Interleaving

variable {A : Type} {offered : Program A → Prop} {first last : Scheduler A}
  {moves : List (Move A)} {key : String} {ticket : Ticket}

/-- **A task that does its work under a lock keeps the lock until it is over**, whatever others
do. -/
theorem tenure (interleaving : Interleaving offered first moves last)
    (orderly : ∀ program, offered program → program.Locks ∅ ∅ ∅)
    (start : first.Disciplined none) (tenure : first.Tenure key ticket) :
    last.Tenure key ticket := by
  induction interleaving with
  | rest scheduler => exact tenure
  | started allowed further ih => exact ih (start.start (orderly _ allowed)) (tenure.start _)
  | moved valid further ih =>
    exact ih (start.perform (List.mem_of_find?_eq_some valid.found) valid.ready)
      (tenure.perform start valid.found valid.ready)
  | passed waiting gone further ih => exact ih (start.pass waiting gone) (tenure.of_eq rfl rfl rfl)
  | cancelled broken further ih => exact ih (start.cancel broken) (tenure.cancel start broken)
  | surrounded collaborators files further ih =>
    exact ih (start.of_eq rfl rfl rfl fun _ _ => Iff.rfl) (tenure.of_eq rfl rfl rfl)

end Interleaving

end FibrePool
