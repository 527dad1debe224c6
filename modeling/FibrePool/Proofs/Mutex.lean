import FibrePool.Proofs.Interleaving
import FibrePool.Proofs.LockOrder
import FibrePool.Proofs.Queues

/-!
# Mutual exclusion

In a disciplined scheduler the lock table tells the truth about the tasks: a task stands in the
queues of exactly those locks that the rest of its program gives back, it waits for at most one of
them, and it is ready when it has all of them.  Everything that a scheduler does keeps it
disciplined, provided that the programs take their locks in order (`Interleaving.disciplined`).

So whoever moves has every lock that it stands in the queue of, and a lock has one owner.
-/

namespace FibrePool

set_option autoImplicit false

/-! ## Standing in queues -/

namespace LockTable

/-- The keys of the locks that somebody has or waits for. -/
def concerning (table : LockTable) (ticket : Ticket) : Finset String :=
  (table.keysOf ticket).toFinset

/-- Somebody waits for a lock, behind the one that has it. -/
def Awaits (table : LockTable) (ticket : Ticket) (key : String) : Prop :=
  ticket ∈ (table.queue key).tail

variable {table : LockTable} {key probe : String} {ticket other : Ticket}

theorem mem_concerning : key ∈ table.concerning ticket ↔ ticket ∈ table.queue key := by
  rw [concerning, List.mem_toFinset, mem_keysOf]

theorem Awaits.queued (awaits : table.Awaits ticket key) : ticket ∈ table.queue key :=
  List.mem_of_mem_tail awaits

/-- Who stands in a queue and does not wait has the lock. -/
theorem Sound.owns_of_queued (sound : table.Sound) (queued : ticket ∈ table.queue key)
    (waits : ¬ table.Awaits ticket key) : table.ownerOf key = some ticket := by
  rw [sound.ownerOf]
  unfold Awaits at waits
  cases order : table.queue key with
  | nil => simp [order] at queued
  | cons first rest =>
    rw [order] at queued waits
    rcases List.mem_cons.1 queued with rfl | queued
    · rfl
    · exact absurd queued waits

theorem Sound.not_awaits_of_owns (sound : table.Sound) (owns : table.ownerOf key = some ticket) :
    ticket ∈ table.queue key ∧ ¬ table.Awaits ticket key := by
  rw [sound.ownerOf] at owns
  have distinct := sound.nodup_queue key
  unfold Awaits
  cases order : table.queue key with
  | nil => simp [order] at owns
  | cons first rest =>
    rw [order] at owns distinct
    obtain rfl : first = ticket := by simpa using owns
    exact ⟨List.mem_cons_self, (List.nodup_cons.1 distinct).1⟩

/-! ### Registering -/

theorem Sound.mem_queue_register (sound : table.Sound) (different : other ≠ ticket) :
    other ∈ (table.register key ticket).queue probe ↔ other ∈ table.queue probe := by
  by_cases same : probe = key
  · subst same
    rw [sound.queue_register_self]
    simp [different]
  · rw [queue_register_of_ne same]

theorem Sound.concerning_register (sound : table.Sound) (different : other ≠ ticket) :
    (table.register key ticket).concerning other = table.concerning other := by
  ext probe
  rw [mem_concerning, mem_concerning, sound.mem_queue_register different]

theorem Sound.concerning_register_self (sound : table.Sound) :
    (table.register key ticket).concerning ticket = insert key (table.concerning ticket) := by
  ext probe
  rw [mem_concerning, Finset.mem_insert, mem_concerning]
  by_cases same : probe = key
  · subst same
    rw [sound.queue_register_self]
    simp
  · rw [queue_register_of_ne same]
    simp [same]

theorem Sound.awaits_register (sound : table.Sound) (different : other ≠ ticket) :
    (table.register key ticket).Awaits other probe ↔ table.Awaits other probe := by
  unfold Awaits
  by_cases same : probe = key
  · subst same
    rw [sound.queue_register_self]
    cases table.queue probe with
    | nil => simp
    | cons first rest => simp [different]
  · rw [queue_register_of_ne same]

/-- Who waits for nothing and asks for a lock waits for it if somebody has it. -/
theorem Sound.awaits_register_self (sound : table.Sound) (absent : ticket ∉ table.queue key)
    (idle : ∀ probe, ¬ table.Awaits ticket probe) :
    (table.register key ticket).Awaits ticket probe ↔ probe = key ∧ table.ownerOf key ≠ none := by
  unfold Awaits at idle ⊢
  by_cases same : probe = key
  · subst same
    rw [sound.queue_register_self, sound.ownerOf]
    cases order : table.queue probe with
    | nil => simp
    | cons first rest => simp
  · rw [queue_register_of_ne same]
    simp [same, idle]

/-! ### Leaving -/

theorem Sound.mem_queue_leave (sound : table.Sound) (queued : ticket ∈ table.queue key)
    (different : other ≠ ticket) :
    other ∈ (table.leave key ticket).queue probe ↔ other ∈ table.queue probe := by
  by_cases same : probe = key
  · subst same
    rw [sound.queue_leave_self queued, List.mem_erase_of_ne different]
  · rw [queue_leave_of_ne same]

theorem Sound.concerning_leave (sound : table.Sound) (queued : ticket ∈ table.queue key)
    (different : other ≠ ticket) :
    (table.leave key ticket).concerning other = table.concerning other := by
  ext probe
  rw [mem_concerning, mem_concerning, sound.mem_queue_leave queued different]

theorem Sound.concerning_leave_self (sound : table.Sound) (queued : ticket ∈ table.queue key) :
    (table.leave key ticket).concerning ticket = (table.concerning ticket).erase key := by
  ext probe
  rw [mem_concerning, Finset.mem_erase, mem_concerning]
  by_cases same : probe = key
  · subst same
    rw [sound.queue_leave_self queued, (sound.nodup_queue probe).mem_erase_iff]
    simp
  · rw [queue_leave_of_ne same]
    simp [same]

theorem Sound.awaits_of_leave (sound : table.Sound) (queued : ticket ∈ table.queue key)
    (waits : (table.leave key ticket).Awaits other probe) : table.Awaits other probe := by
  unfold Awaits at waits ⊢
  by_cases same : probe = key
  · subst same
    rw [sound.queue_leave_self queued] at waits
    cases order : table.queue probe with
    | nil => simp [order] at queued
    | cons first rest =>
      rw [order, List.erase_cons] at waits
      split at waits
      · exact List.mem_of_mem_tail waits
      · exact List.mem_of_mem_erase waits
  · rwa [queue_leave_of_ne same] at waits

/-- Who waits for a lock goes on waiting when somebody else leaves the queue, except for the next
one when it is the owner that leaves. -/
theorem Sound.awaits_leave (sound : table.Sound) (queued : ticket ∈ table.queue key)
    (different : other ≠ ticket) (waits : table.Awaits other probe) :
    (table.leave key ticket).Awaits other probe ∨ probe = key ∧
      table.ownerOf key = some ticket ∧ (table.leave key ticket).ownerOf key = some other := by
  rw [(sound.leave queued).ownerOf, sound.ownerOf]
  unfold Awaits at waits ⊢
  by_cases same : probe = key
  · subst same
    rw [sound.queue_leave_self queued]
    cases order : table.queue probe with
    | nil => simp [order] at queued
    | cons first rest =>
      rw [order] at waits
      rw [List.erase_cons]
      split
      · next leaves =>
        cases rest with
        | nil => simp at waits
        | cons next rest =>
          rcases List.mem_cons.1 waits with rfl | further
          · exact .inr ⟨rfl, by simpa using leaves, rfl⟩
          · exact .inl further
      · exact .inl ((List.mem_erase_of_ne different).2 waits)
  · rw [queue_leave_of_ne same]
    exact .inl waits

/-- Who gets a lock from its owner has waited for it. -/
theorem Sound.awaits_of_handed (sound : table.Sound) (owned : table.ownerOf key = some ticket)
    (handed : (table.leave key ticket).ownerOf key = some other) : table.Awaits other key := by
  have queued := (sound.not_awaits_of_owns owned).1
  rw [(sound.leave queued).ownerOf, sound.queue_leave_self queued] at handed
  rw [sound.ownerOf] at owned
  unfold Awaits
  cases order : table.queue key with
  | nil => simp [order] at queued
  | cons first rest =>
    obtain rfl : first = ticket := by simpa [order] using owned
    rw [order, List.erase_cons_head] at handed
    exact List.mem_of_head? handed

end LockTable

/-! ## Disciplined schedulers -/

namespace Scheduler

variable {A : Type} {scheduler : Scheduler A}

/-- The lock table tells the truth about a task whose program takes its locks in order. -/
structure Standing (scheduler : Scheduler A) (task : Task A) : Prop where
  origin : task.origin.Locks ∅ ∅ ∅
  /-- The rest of the program holds the locks that the task has or waits for. -/
  rest : ∀ needed, task.origin.Locks needed ∅ ∅ →
    task.rest.Locks needed ∅ (scheduler.locks.concerning task.ticket)
  reaches : task.origin.Reaches task.rest
  ready : task.ticket ∈ scheduler.ready ↔ ∀ key, ¬ scheduler.locks.Awaits task.ticket key
  single : ∀ key other, scheduler.locks.Awaits task.ticket key →
    scheduler.locks.Awaits task.ticket other → key = other

/-- The lock table tells the truth about all tasks, except for one that is busy. -/
structure Disciplined (busy : Option Ticket) (scheduler : Scheduler A) : Prop where
  sound : scheduler.locks.Sound
  issued : ∀ task ∈ scheduler.tasks, task.ticket < scheduler.nextTicket
  queued : ∀ key, ∀ ticket ∈ scheduler.locks.queue key, ticket < scheduler.nextTicket
  standing : ∀ task ∈ scheduler.tasks, some task.ticket ≠ busy → scheduler.Standing task

/-- What is true of a task does not change with what does not concern it. -/
theorem Standing.carry {changed : Scheduler A} {task : Task A} (standing : scheduler.Standing task)
    (concerning : changed.locks.concerning task.ticket =
      scheduler.locks.concerning task.ticket)
    (awaits : ∀ key, changed.locks.Awaits task.ticket key →
      scheduler.locks.Awaits task.ticket key)
    (ready : task.ticket ∈ changed.ready ↔ ∀ key, ¬ changed.locks.Awaits task.ticket key) :
    changed.Standing task where
  origin := standing.origin
  rest := concerning ▸ standing.rest
  reaches := standing.reaches
  ready := ready
  single key other first second :=
    standing.single key other (awaits key first) (awaits other second)

/-! ### What keeps a scheduler disciplined -/

section

variable {busy : Option Ticket} {task : Task A} {key : String} {ticket : Ticket}

theorem disciplined_of_quiet (unused : scheduler.tasks = []) (unlocked : scheduler.locks = ∅) :
    scheduler.Disciplined none where
  sound := unlocked ▸ LockTable.sound_empty
  issued task member := by simp [unused] at member
  queued key ticket member := by simp [unlocked, LockTable.queue] at member
  standing task member := by simp [unused] at member

theorem Disciplined.of_eq {changed : Scheduler A} (disciplined : scheduler.Disciplined busy)
    (tasks : changed.tasks = scheduler.tasks) (locks : changed.locks = scheduler.locks)
    (issued : changed.nextTicket = scheduler.nextTicket)
    (ready : ∀ task ∈ scheduler.tasks, task.ticket ∈ changed.ready ↔
      task.ticket ∈ scheduler.ready) : changed.Disciplined busy where
  sound := locks ▸ disciplined.sound
  issued := by
    rw [tasks, issued]
    exact disciplined.issued
  queued := by
    rw [locks, issued]
    exact disciplined.queued
  standing task member apart := by
    rw [tasks] at member
    have standing := disciplined.standing task member apart
    refine standing.carry (by rw [locks]) (by rw [locks]; exact fun _ => id) ?_
    rw [ready task member, locks]
    exact standing.ready

/-- A task goes on with what fits what it holds. -/
theorem Disciplined.goOn {rest : Program A}
    (disciplined : scheduler.Disciplined (some task.ticket))
    (fits : scheduler.Standing { task with rest }) :
    (scheduler.goOn task rest).Disciplined none where
  sound := disciplined.sound
  queued := disciplined.queued
  issued other member := by
    obtain ⟨old, listed, rfl⟩ := List.mem_map.1 member
    have issued := disciplined.issued old listed
    split
    · next same => exact same ▸ issued
    · exact issued
  standing other member _ := by
    obtain ⟨old, listed, rfl⟩ := List.mem_map.1 member
    split
    · exact fits.carry rfl (fun _ => id) fits.ready
    · next different =>
      have standing := disciplined.standing old listed fun same =>
        different (Option.some.inj same)
      exact standing.carry rfl (fun _ => id) standing.ready

theorem Disciplined.apart (disciplined : scheduler.Disciplined none) (ticket : Ticket) :
    scheduler.Disciplined (some ticket) where
  sound := disciplined.sound
  issued := disciplined.issued
  queued := disciplined.queued
  standing task member _ := disciplined.standing task member nofun

/-- A task that is busy asks for a lock. -/
theorem Disciplined.register (disciplined : scheduler.Disciplined (some ticket))
    (absent : ticket ∉ scheduler.locks.queue key) (issued : ticket < scheduler.nextTicket) :
    Disciplined (some ticket) { scheduler with locks := scheduler.locks.register key ticket } where
  sound := disciplined.sound.register absent
  issued := disciplined.issued
  queued probe other member := by
    by_cases own : other = ticket
    · exact own ▸ issued
    · exact disciplined.queued probe other ((disciplined.sound.mem_queue_register own).1 member)
  standing task member apart := by
    have different : task.ticket ≠ ticket := fun same => apart (congrArg some same)
    have standing := disciplined.standing task member apart
    have awaits (probe : String) : (scheduler.locks.register key ticket).Awaits task.ticket probe ↔
        scheduler.locks.Awaits task.ticket probe := disciplined.sound.awaits_register different
    refine standing.carry (disciplined.sound.concerning_register different)
      (fun probe => (awaits probe).1) ?_
    refine standing.ready.trans (forall_congr' fun probe => not_congr (awaits probe).symm)

theorem Disciplined.pause (disciplined : scheduler.Disciplined (some ticket)) :
    (scheduler.pause ticket).Disciplined (some ticket) where
  sound := disciplined.sound
  issued := disciplined.issued
  queued := disciplined.queued
  standing task member apart := by
    have different : task.ticket ≠ ticket := fun same => apart (congrArg some same)
    have standing := disciplined.standing task member apart
    refine standing.carry rfl (fun _ => id) ?_
    rw [show task.ticket ∈ (scheduler.pause ticket).ready ↔ task.ticket ∈ scheduler.ready by
      simp [Scheduler.pause, different]]
    exact standing.ready

theorem mem_ready_leave {other : Ticket} : other ∈ (scheduler.leave key ticket).ready ↔
    other ∈ scheduler.ready ∨ scheduler.locks.ownerOf key = some ticket ∧
      (scheduler.locks.leave key ticket).ownerOf key = some other := by
  unfold leave wakeAfter
  dsimp only
  split
  · next owned =>
    split
    · next next handed => simp [owned, handed, eq_comm]
    · next free => simp [free]
  · next other => simp [other]

theorem locks_leave (scheduler : Scheduler A) (key : String) (ticket : Ticket) :
    (scheduler.leave key ticket).locks = scheduler.locks.leave key ticket := by
  unfold leave wakeAfter
  dsimp only
  split
  · split <;> rfl
  · rfl

theorem tasks_leave (scheduler : Scheduler A) (key : String) (ticket : Ticket) :
    (scheduler.leave key ticket).tasks = scheduler.tasks := by
  obtain ⟨locks, ready, left⟩ := leave_eq scheduler key ticket
  rw [left]

theorem issued_leave (scheduler : Scheduler A) (key : String) (ticket : Ticket) :
    (scheduler.leave key ticket).nextTicket = scheduler.nextTicket := by
  obtain ⟨locks, ready, left⟩ := leave_eq scheduler key ticket
  rw [left]

/-- A task that is busy leaves a queue; whoever gets its lock has all that it waited for. -/
theorem Disciplined.leave (disciplined : scheduler.Disciplined (some ticket))
    (queued : ticket ∈ scheduler.locks.queue key) :
    (scheduler.leave key ticket).Disciplined (some ticket) where
  sound := by
    rw [locks_leave]
    exact disciplined.sound.leave queued
  issued := by
    rw [tasks_leave, issued_leave]
    exact disciplined.issued
  queued probe other member := by
    rw [locks_leave] at member
    rw [issued_leave]
    by_cases own : other = ticket
    · exact own ▸ disciplined.queued key ticket queued
    · exact disciplined.queued probe other
        ((disciplined.sound.mem_queue_leave queued own).1 member)
  standing task member apart := by
    rw [tasks_leave] at member
    have different : task.ticket ≠ ticket := fun same => apart (congrArg some same)
    have standing := disciplined.standing task member apart
    have sound := disciplined.sound
    have fewer (probe : String) : (scheduler.leave key ticket).locks.Awaits task.ticket probe →
        scheduler.locks.Awaits task.ticket probe := by
      rw [locks_leave]
      exact sound.awaits_of_leave queued
    refine standing.carry (by rw [locks_leave, sound.concerning_leave queued different]) fewer ?_
    rw [mem_ready_leave]
    constructor
    · rintro (ready | ⟨owned, handed⟩) probe waits
      · exact standing.ready.1 ready probe (fewer probe waits)
      · -- The lock that is handed over is the only one the task waited for.
        obtain rfl := standing.single probe key (fewer probe waits)
          (sound.awaits_of_handed owned handed)
        rw [locks_leave] at waits
        exact ((sound.leave queued).not_awaits_of_owns handed).2 waits
    · intro free
      by_cases ready : task.ticket ∈ scheduler.ready
      · exact .inl ready
      · rw [standing.ready] at ready
        obtain ⟨probe, waits⟩ := not_forall_not.1 ready
        rcases sound.awaits_leave queued different waits with still | ⟨_, owned, handed⟩
        · exact absurd still (locks_leave scheduler key ticket ▸ free probe)
        · exact .inr ⟨owned, handed⟩

theorem Disciplined.drop (disciplined : scheduler.Disciplined (some ticket)) :
    (scheduler.drop ticket).Disciplined (some ticket) where
  sound := disciplined.sound
  issued task member := disciplined.issued task (List.mem_filter.1 member).1
  queued := disciplined.queued
  standing task member apart := by
    have different : task.ticket ≠ ticket := fun same => apart (congrArg some same)
    have standing := disciplined.standing task (List.mem_filter.1 member).1 apart
    refine standing.carry rfl (fun _ => id) ?_
    rw [show task.ticket ∈ (scheduler.drop ticket).ready ↔ task.ticket ∈ scheduler.ready by
      simp [Scheduler.drop, different]]
    exact standing.ready

/-- Who is no task any more is not busy either. -/
theorem Disciplined.settled (disciplined : scheduler.Disciplined (some ticket))
    (gone : ∀ task ∈ scheduler.tasks, task.ticket ≠ ticket) : scheduler.Disciplined none where
  sound := disciplined.sound
  issued := disciplined.issued
  queued := disciplined.queued
  standing task member _ :=
    disciplined.standing task member fun same => gone task member (Option.some.inj same)

theorem not_mem_drop (scheduler : Scheduler A) (ticket : Ticket) :
    ∀ task ∈ (scheduler.drop ticket).tasks, task.ticket ≠ ticket := by
  intro task member
  simpa using (List.mem_filter.1 member).2

theorem Disciplined.cancel (disciplined : scheduler.Disciplined none) (ticket : Ticket) :
    (scheduler.cancel ticket).Disciplined none := by
  unfold Scheduler.cancel
  have queued : ∀ key ∈ scheduler.locks.keysOf ticket, ticket ∈ scheduler.locks.queue key :=
    fun key member => LockTable.mem_keysOf.1 member
  have distinct := LockTable.nodup_keysOf scheduler.locks ticket
  have dropped := (disciplined.apart ticket).drop
  have gone := scheduler.not_mem_drop ticket
  have same : (scheduler.drop ticket).locks = scheduler.locks := rfl
  generalize scheduler.locks.keysOf ticket = keys at queued distinct
  rw [← same] at queued
  generalize scheduler.drop ticket = remaining at dropped gone queued
  induction keys generalizing remaining with
  | nil => exact dropped.settled gone
  | cons key keys ih =>
    obtain ⟨first, others⟩ := List.forall_mem_cons.1 queued
    obtain ⟨absent, distinct⟩ := List.nodup_cons.1 distinct
    refine ih distinct _ (dropped.leave first) ?_ ?_
    · rw [tasks_leave]
      exact gone
    · intro other member
      have different : other ≠ key := fun same => absent (same ▸ member)
      rw [locks_leave, LockTable.queue_leave_of_ne different]
      exact others other member

/-- A ticket whose task is gone may be passed over. -/
theorem Disciplined.pass {rest : List Ticket} (disciplined : scheduler.Disciplined none)
    (waiting : scheduler.ready = ticket :: rest) (gone : scheduler.task? ticket = none) :
    Disciplined none { scheduler with ready := rest } := by
  refine disciplined.of_eq rfl rfl rfl fun task member => ?_
  have different : task.ticket ≠ ticket := by
    simpa using List.find?_eq_none.1 gone task member
  simp [waiting, different]

theorem Disciplined.start {program : Program A} (disciplined : scheduler.Disciplined none)
    (locks : program.Locks ∅ ∅ ∅) : (scheduler.start program).2.Disciplined none where
  sound := disciplined.sound
  issued task member := by
    rcases List.mem_append.1 member with old | new
    · exact Nat.lt_succ_of_lt (disciplined.issued task old)
    · obtain rfl := List.mem_singleton.1 new
      exact Nat.lt_succ_self _
  queued key ticket member := Nat.lt_succ_of_lt (disciplined.queued key ticket member)
  standing task member _ := by
    rcases List.mem_append.1 member with old | new
    · have standing := disciplined.standing task old nofun
      have different : task.ticket ≠ scheduler.nextTicket :=
        Nat.ne_of_lt (disciplined.issued task old)
      refine standing.carry rfl (fun _ => id) ?_
      rw [show task.ticket ∈ (scheduler.start program).2.ready ↔ task.ticket ∈ scheduler.ready by
        simp [Scheduler.start, different]]
      exact standing.ready
    · obtain rfl := List.mem_singleton.1 new
      have absent (key : String) : scheduler.nextTicket ∉ scheduler.locks.queue key :=
        fun member => Nat.lt_irrefl _ (disciplined.queued key _ member)
      have empty : scheduler.locks.concerning scheduler.nextTicket = ∅ := by
        ext key
        simp [LockTable.mem_concerning, absent key]
      have idle (key : String) : ¬ scheduler.locks.Awaits scheduler.nextTicket key :=
        fun waits => absent key waits.queued
      refine ⟨locks, fun needed fits => ?_, .refl, ?_, fun key _ waits => absurd waits (idle key)⟩
      · rw [show (scheduler.start program).2.locks = scheduler.locks from rfl, empty]
        exact fits
      · exact ⟨fun _ => idle, fun _ => by simp [Scheduler.start]⟩

theorem goOn_leave (scheduler : Scheduler A) (task : Task A) (rest : Program A) (key : String)
    (ticket : Ticket) : (scheduler.goOn task rest).leave key ticket =
      (scheduler.leave key ticket).goOn task rest := by
  unfold Scheduler.leave wakeAfter Scheduler.goOn
  dsimp only
  split
  · split <;> rfl
  · rfl

theorem Proceeds.locks {program rest : Program A} {needed base held : Finset String}
    (step : program.Proceeds rest) (locks : program.Locks needed base held) :
    rest.Locks needed base held := by
  cases step with
  | read next tables => exact locks tables
  | commit change next outcome => exact locks.2 outcome
  | call request next answer => exact locks.2 answer
  | emit event next => exact locks
  | measure taken next => exact locks
  | stamp next fresh => exact locks fresh

/-- A task that asks for a lock stands in its queue, and waits if somebody has the lock. -/
theorem Disciplined.ask {next : Program A} (disciplined : scheduler.Disciplined none)
    (member : task ∈ scheduler.tasks) (ready : task.ticket ∈ scheduler.ready)
    (asks : task.rest = .acquire key next) :
    Disciplined (some task.ticket)
      { scheduler with locks := scheduler.locks.register key task.ticket } ∧
    (∀ needed, task.origin.Locks needed ∅ ∅ → next.Locks needed ∅
      ((scheduler.locks.register key task.ticket).concerning task.ticket)) ∧
    ∀ probe, (scheduler.locks.register key task.ticket).Awaits task.ticket probe ↔
      probe = key ∧ scheduler.locks.ownerOf key ≠ none := by
  have sound := disciplined.sound
  have standing := disciplined.standing task member nofun
  have locks := standing.rest
  rw [asks] at locks
  have absent : task.ticket ∉ scheduler.locks.queue key := fun queued =>
    Program.not_mem_of_below (locks ∅ standing.origin).1 (LockTable.mem_concerning.2 queued)
  refine ⟨(disciplined.apart task.ticket).register absent (disciplined.issued task member),
    fun needed fits => ?_, fun probe => ?_⟩
  · rw [sound.concerning_register_self]
    exact (locks needed fits).2
  · exact sound.awaits_register_self absent (standing.ready.1 ready)

/-- A task that gives a lock back leaves its queue, and waits for nothing afterwards. -/
theorem Disciplined.give {next : Program A} (disciplined : scheduler.Disciplined none)
    (member : task ∈ scheduler.tasks) (ready : task.ticket ∈ scheduler.ready)
    (gives : task.rest = .release key next) :
    (scheduler.leave key task.ticket).Disciplined (some task.ticket) ∧
    (∀ needed, task.origin.Locks needed ∅ ∅ → next.Locks needed ∅
      ((scheduler.leave key task.ticket).locks.concerning task.ticket)) ∧
    ∀ probe, ¬ (scheduler.leave key task.ticket).locks.Awaits task.ticket probe := by
  have sound := disciplined.sound
  have standing := disciplined.standing task member nofun
  have locks := standing.rest
  rw [gives] at locks
  have queued : task.ticket ∈ scheduler.locks.queue key :=
    LockTable.mem_concerning.1 (locks ∅ standing.origin).1
  refine ⟨(disciplined.apart task.ticket).leave queued, fun needed fits => ?_, fun probe => ?_⟩
  · rw [locks_leave, sound.concerning_leave_self queued]
    exact (locks needed fits).2
  · rw [locks_leave]
    exact fun waits => standing.ready.1 ready probe (sound.awaits_of_leave queued waits)

/-- **A move keeps a scheduler disciplined.** -/
theorem Disciplined.perform (disciplined : scheduler.Disciplined none)
    (member : task ∈ scheduler.tasks) (ready : task.ticket ∈ scheduler.ready) :
    (scheduler.perform task).Disciplined none := by
  have standing := disciplined.standing task member nofun
  have apart := disciplined.apart task.ticket
  have performs := performs ready
  generalize scheduler.perform task = after at performs
  cases performs with
  | ended done results =>
    have dropped := apart.drop.settled (scheduler.not_mem_drop task.ticket)
    exact dropped.of_eq rfl rfl rfl fun _ _ => Iff.rfl
  | restarted again =>
    have empty : scheduler.locks.concerning task.ticket = ∅ := by
      have locks := standing.rest ∅ standing.origin
      rwa [again] at locks
    refine apart.goOn ⟨standing.origin, fun needed fits => ?_, .refl, standing.ready,
      standing.single⟩
    rw [empty]
    exact fits
  | @granted key next asks free =>
    obtain ⟨asked, locks, waits⟩ := disciplined.ask member ready asks
    have idle (probe : String) :
        ¬ (scheduler.locks.register key task.ticket).Awaits task.ticket probe := by
      rw [waits]
      simp [free]
    exact asked.goOn ⟨standing.origin, locks, standing.reaches.tail (asks ▸ .acquire key next),
      ⟨fun _ => idle, fun _ => ready⟩, fun probe _ first => absurd first (idle probe)⟩
  | @queued key next asks taken =>
    obtain ⟨asked, locks, waits⟩ := disciplined.ask member ready asks
    refine asked.pause.goOn ⟨standing.origin, locks,
      standing.reaches.tail (asks ▸ .acquire key next), ⟨?_, fun free => ?_⟩, ?_⟩
    · simp [Scheduler.pause]
    · exact absurd ((waits key).2 ⟨rfl, taken⟩) (free key)
    · intro probe other first second
      exact ((waits probe).1 first).1.trans ((waits other).1 second).1.symm
  | @released key next gives =>
    obtain ⟨given, locks, idle⟩ := disciplined.give member ready gives
    rw [goOn_leave]
    exact given.goOn ⟨standing.origin, locks, standing.reaches.tail (gives ▸ .release key next),
      ⟨fun _ => idle, fun _ => mem_ready_leave.2 (.inl ready)⟩,
      fun probe _ first => absurd first (idle probe)⟩
  | @proceeded changed rest step tasks locks issued same =>
    have unchanged : changed.Disciplined (some task.ticket) :=
      apart.of_eq tasks locks issued fun other _ => same other.ticket
    refine unchanged.goOn ⟨standing.origin, fun needed fits => ?_, ?_, ?_, ?_⟩
    · rw [locks]
      exact Proceeds.locks step (standing.rest needed fits)
    · exact standing.reaches.tail (.proceeds step)
    · rw [same, locks]
      exact standing.ready
    · rw [locks]
      exact standing.single

end

end Scheduler

/-! ## Interleavings of programs that take their locks in order -/

namespace Interleaving

variable {A : Type} {offered : Program A → Prop} {first last : Scheduler A}
  {moves earlier later : List (Move A)} {move : Move A}

/-- **Whatever a scheduler does keeps it disciplined**, as long as all programs take their locks in
order. -/
theorem disciplined (interleaving : Interleaving offered first moves last)
    (orderly : ∀ program, offered program → program.Locks ∅ ∅ ∅)
    (start : first.Disciplined none) : last.Disciplined none := by
  induction interleaving with
  | rest scheduler => exact start
  | started allowed further ih => exact ih (start.start (orderly _ allowed))
  | moved valid further ih =>
    exact ih (start.perform (List.mem_of_find?_eq_some valid.found) valid.ready)
  | passed waiting gone further ih => exact ih (start.pass waiting gone)
  | cancelled ticket further ih => exact ih (start.cancel ticket)
  | surrounded collaborators files further ih =>
    exact ih (start.of_eq rfl rfl rfl fun _ _ => Iff.rfl)

/-- At every move the scheduler is disciplined, and it is the turn of the task that moves. -/
theorem disciplined_at (interleaving : Interleaving offered first (earlier ++ move :: later) last)
    (orderly : ∀ program, offered program → program.Locks ∅ ∅ ∅)
    (start : first.Disciplined none) : move.before.Disciplined none ∧ move.Valid := by
  obtain ⟨before, valid, _⟩ := interleaving.split
  exact ⟨before.disciplined orderly start, valid⟩

end Interleaving

namespace Scheduler

variable {A : Type} {scheduler : Scheduler A} {task : Task A}

/-- Who moves has every lock that it stands in the queue of. -/
theorem Disciplined.owns (disciplined : scheduler.Disciplined none)
    (member : task ∈ scheduler.tasks) (ready : task.ticket ∈ scheduler.ready) {key : String}
    (concerns : key ∈ scheduler.locks.concerning task.ticket) :
    scheduler.locks.ownerOf key = some task.ticket := by
  have standing := disciplined.standing task member nofun
  exact disciplined.sound.owns_of_queued (LockTable.mem_concerning.1 concerns)
    (standing.ready.1 ready key)

end Scheduler

end FibrePool
