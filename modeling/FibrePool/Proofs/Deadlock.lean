import FibrePool.Proofs.Override
import Mathlib.Data.Set.Finite.List

/-!
# No deadlock

A task waits for another one when it waits for a lock that the other one has.  Locks are asked for
in the order of their keys, so the lock that somebody waits for comes after all that it has, and
along a chain of tasks that wait for one another the keys ascend: no task waits for itself, not
even through others, and as a table has only so many keys every chain ends with somebody who waits
for nothing (`LockTable.Ascending.exists_unblocked`).

That one is always a task that can move, since nobody who has ended or was broken off stands in a
queue (`Scheduler.Attended`).  So as long as an action is under way some action can go on, whatever
actions there are and however they take turns (`Volume.actions_never_deadlock`).
-/

namespace FibrePool

set_option autoImplicit false

open Relation

/-! ## Waiting for one another -/

namespace LockTable

/-- Somebody waits for a lock that the other one has. -/
def WaitsFor (table : LockTable) (waiting owner : Ticket) : Prop :=
  ∃ key, table.Awaits waiting key ∧ table.ownerOf key = some owner

/-- The lock that somebody waits for comes after all others that it has asked for. -/
def Ascending (table : LockTable) : Prop :=
  ∀ ticket key, table.Awaits ticket key → ∀ other, ticket ∈ table.queue other → other ≤ key

variable {table : LockTable} {key other : String} {ticket owner : Ticket}

/-- What somebody waits for is somebody's. -/
theorem Sound.exists_owner (sound : table.Sound) (waits : table.Awaits ticket key) :
    ∃ owner, table.ownerOf key = some owner := by
  rw [sound.ownerOf]
  cases order : table.queue key with
  | nil => simp [Awaits, order] at waits
  | cons first rest => exact ⟨first, rfl⟩

theorem Ascending.lt_of_owner (ascending : table.Ascending) (sound : table.Sound)
    (owns : table.ownerOf key = some owner) (waits : table.Awaits owner other) : key < other := by
  obtain ⟨queued, free⟩ := sound.not_awaits_of_owns owns
  refine lt_of_le_of_ne (ascending owner other waits key queued) ?_
  rintro rfl
  exact free waits

/-- Along a chain of those who wait for one another the keys ascend. -/
theorem Ascending.lt_of_chain {last : Ticket} (ascending : table.Ascending) (sound : table.Sound)
    (chain : TransGen table.WaitsFor ticket last) (waits : table.Awaits last other) :
    ∃ key, table.Awaits ticket key ∧ key < other := by
  induction chain generalizing other with
  | single step =>
    obtain ⟨key, first, owns⟩ := step
    exact ⟨key, first, ascending.lt_of_owner sound owns waits⟩
  | tail _ step ih =>
    obtain ⟨between, further, owns⟩ := step
    obtain ⟨key, first, less⟩ := ih further
    exact ⟨key, first, less.trans (ascending.lt_of_owner sound owns waits)⟩

/-- **Nobody waits for itself**, not even through others. -/
theorem Ascending.acyclic (ascending : table.Ascending) (sound : table.Sound) (ticket : Ticket) :
    ¬ TransGen table.WaitsFor ticket ticket := by
  intro circle
  obtain ⟨next, ⟨key, waits, _⟩, _⟩ := TransGen.head'_iff.1 circle
  obtain ⟨earlier, first, less⟩ := ascending.lt_of_chain sound circle waits
  exact absurd (ascending ticket earlier first key waits.queued) (not_le_of_gt less)

theorem Awaits.mem_keys (waits : table.Awaits ticket key) : key ∈ table.keys := by
  have queued := waits.queued
  rw [OrderedMap.mem_keys_iff, OrderedMap.contains]
  unfold queue at queued
  cases found : table.get? key with
  | none => simp [found] at queued
  | some lock => rfl

/-- **Every chain of those who wait for one another ends** with somebody who waits for nothing. -/
theorem Ascending.exists_unblocked (ascending : table.Ascending) (sound : table.Sound)
    (ticket : Ticket) :
    ∃ last, ReflTransGen table.WaitsFor ticket last ∧ ∀ key, ¬ table.Awaits last key := by
  -- A table has finitely many keys, so there is an induction downwards from the last of them.
  have : Finite {key // key ∈ table.keys} := (List.finite_toSet table.keys).to_subtype
  have downwards : WellFoundedGT {key // key ∈ table.keys} := Finite.to_wellFoundedGT
  have chained (awaited : {key // key ∈ table.keys}) : ∀ ticket, table.Awaits ticket awaited.1 →
      ∃ last, ReflTransGen table.WaitsFor ticket last ∧ ∀ key, ¬ table.Awaits last key := by
    induction awaited using downwards.induction with
    | ind awaited ih =>
      intro ticket waits
      obtain ⟨owner, owns⟩ := sound.exists_owner waits
      have step : table.WaitsFor ticket owner := ⟨awaited.1, waits, owns⟩
      by_cases blocked : ∃ key, table.Awaits owner key
      · obtain ⟨key, further⟩ := blocked
        have less := ascending.lt_of_owner sound owns further
        obtain ⟨last, chain, free⟩ := ih ⟨key, further.mem_keys⟩ less owner further
        exact ⟨last, .head step chain, free⟩
      · exact ⟨owner, .single step, not_exists.1 blocked⟩
  by_cases blocked : ∃ key, table.Awaits ticket key
  · obtain ⟨key, waits⟩ := blocked
    exact chained ⟨key, waits.mem_keys⟩ ticket waits
  · exact ⟨ticket, .refl, not_exists.1 blocked⟩

/-! ### Asking in order -/

theorem ascending_empty : Ascending ∅ := fun _ _ waits => absurd waits.queued List.not_mem_nil

/-- Who waits for nothing may ask for a lock that comes after those that it has. -/
theorem Ascending.register (ascending : table.Ascending) (sound : table.Sound)
    (idle : ∀ probe, ¬ table.Awaits ticket probe) (below : Below (table.concerning ticket) key) :
    (table.register key ticket).Ascending := by
  have absent : ticket ∉ table.queue key := fun queued =>
    Program.not_mem_of_below below (mem_concerning.2 queued)
  intro standing awaited waits other queued
  by_cases own : standing = ticket
  · subst own
    obtain ⟨rfl, _⟩ := (sound.awaits_register_self absent idle).1 waits
    rw [← mem_concerning, sound.concerning_register_self] at queued
    rcases Finset.mem_insert.1 queued with rfl | earlier
    · exact le_rfl
    · exact (below other earlier).le
  · rw [sound.awaits_register own] at waits
    rw [sound.mem_queue_register own] at queued
    exact ascending standing awaited waits other queued

theorem Sound.mem_queue_of_leave {standing : Ticket} (sound : table.Sound)
    (queued : ticket ∈ table.queue key) (stays : standing ∈ (table.leave key ticket).queue other) :
    standing ∈ table.queue other := by
  by_cases same : other = key
  · subst same
    rw [sound.queue_leave_self queued] at stays
    exact List.mem_of_mem_erase stays
  · rwa [queue_leave_of_ne same] at stays

theorem Ascending.leave (ascending : table.Ascending) (sound : table.Sound)
    (queued : ticket ∈ table.queue key) : (table.leave key ticket).Ascending :=
  fun standing awaited waits other stays =>
    ascending standing awaited (sound.awaits_of_leave queued waits) other
      (sound.mem_queue_of_leave queued stays)

/-- Who leaves several queues stands in none of them, and the others stay where they are. -/
theorem Ascending.leaveAll {keys : List String} (ascending : table.Ascending)
    (sound : table.Sound) (distinct : keys.Nodup)
    (queued : ∀ key ∈ keys, ticket ∈ table.queue key) :
    (keys.foldl (fun table key => table.leave key ticket) table).Ascending ∧
      ∀ probe, ∀ standing ∈
          (keys.foldl (fun table key => table.leave key ticket) table).queue probe,
        standing ∈ table.queue probe ∧ (standing = ticket → probe ∉ keys) := by
  induction keys generalizing table with
  | nil => exact ⟨ascending, fun probe standing stays => ⟨stays, fun _ => List.not_mem_nil⟩⟩
  | cons first rest ih =>
    obtain ⟨now, later⟩ := List.forall_mem_cons.1 queued
    obtain ⟨absent, distinct⟩ := List.nodup_cons.1 distinct
    have remaining (key : String) (member : key ∈ rest) :
        ticket ∈ (table.leave first ticket).queue key := by
      rw [queue_leave_of_ne (ne_of_mem_of_not_mem member absent)]
      exact later key member
    obtain ⟨ascends, stay⟩ := ih (ascending.leave sound now) (sound.leave now) distinct remaining
    refine ⟨ascends, fun probe standing stays => ?_⟩
    obtain ⟨stood, gone⟩ := stay probe standing stays
    refine ⟨sound.mem_queue_of_leave now stood, ?_⟩
    rintro rfl member
    rcases List.mem_cons.1 member with rfl | among
    · rw [sound.queue_leave_self now] at stood
      exact (sound.nodup_queue probe).not_mem_erase stood
    · exact gone rfl among

end LockTable

/-! ## Queues of tasks under way -/

namespace Scheduler

variable {A : Type} {scheduler : Scheduler A} {task : Task A}

/-- The tickets of the tasks under way. -/
def tickets (scheduler : Scheduler A) : List Ticket := scheduler.tasks.map (·.ticket)

theorem tickets_goOn (scheduler : Scheduler A) (task : Task A) (rest : Program A) :
    (scheduler.goOn task rest).tickets = scheduler.tickets := by
  unfold tickets Scheduler.goOn
  rw [List.map_map]
  refine List.map_congr_left fun other _ => ?_
  by_cases same : other.ticket = task.ticket
  · simp [same]
  · simp [same]

theorem tickets_drop (scheduler : Scheduler A) (ticket : Ticket) :
    (scheduler.drop ticket).tickets = scheduler.tickets.filter (· != ticket) := by
  unfold tickets
  rw [List.filter_map]
  rfl

theorem tickets_leave (scheduler : Scheduler A) (key : String) (ticket : Ticket) :
    (scheduler.leave key ticket).tickets = scheduler.tickets := by
  unfold tickets
  rw [tasks_leave]

theorem tickets_cancel (scheduler : Scheduler A) (ticket : Ticket) :
    (scheduler.cancel ticket).tickets = scheduler.tickets.filter (· != ticket) := by
  obtain ⟨locks, ready, cancelled⟩ := cancel_eq scheduler ticket
  rw [cancelled]
  exact tickets_drop scheduler ticket

theorem mem_tickets_iff {ticket : Ticket} :
    ticket ∈ scheduler.tickets ↔ ∃ task, scheduler.task? ticket = some task := by
  rw [← Option.isSome_iff_exists, task?, List.find?_isSome, tickets, List.mem_map]
  simp

/-- Whoever stands in a queue is under way, and has asked for its locks in order. -/
structure Attended (scheduler : Scheduler A) : Prop where
  present : ∀ key, ∀ ticket ∈ scheduler.locks.queue key, ticket ∈ scheduler.tickets
  ascending : scheduler.locks.Ascending

namespace Attended

theorem of_quiet (unlocked : scheduler.locks = ∅) : scheduler.Attended where
  present key ticket queued := by
    rw [unlocked] at queued
    exact absurd queued List.not_mem_nil
  ascending := unlocked ▸ LockTable.ascending_empty

theorem of_eq {changed : Scheduler A} (attended : scheduler.Attended)
    (tickets : ∀ ticket ∈ scheduler.tickets, ticket ∈ changed.tickets)
    (locks : changed.locks = scheduler.locks) : changed.Attended where
  present key ticket queued := tickets ticket (attended.present key ticket (locks ▸ queued))
  ascending := locks ▸ attended.ascending

theorem start (attended : scheduler.Attended) (program : Program A) :
    (scheduler.start program).2.Attended :=
  attended.of_eq (fun ticket member => by simp_all [tickets, Scheduler.start]) rfl

theorem goOn (attended : scheduler.Attended) (task : Task A) (rest : Program A) :
    (scheduler.goOn task rest).Attended :=
  attended.of_eq (fun _ member => (tickets_goOn scheduler task rest).symm ▸ member) rfl

/-- A task that waits for nothing asks for a lock that comes after those that it has. -/
theorem register {key : String} (attended : scheduler.Attended)
    (disciplined : scheduler.Disciplined none) (member : task ∈ scheduler.tasks)
    (ready : task.ticket ∈ scheduler.ready) {next : Program A}
    (asks : task.rest = .acquire key next) :
    Attended { scheduler with locks := scheduler.locks.register key task.ticket } := by
  have standing := disciplined.standing task member nofun
  have locks := standing.rest ∅ standing.origin
  rw [asks] at locks
  refine ⟨fun probe ticket queued => ?_,
    attended.ascending.register disciplined.sound (standing.ready.1 ready) locks.1⟩
  by_cases own : ticket = task.ticket
  · rw [own]
    exact List.mem_map_of_mem member
  · exact attended.present probe ticket ((disciplined.sound.mem_queue_register own).1 queued)

theorem leave {key : String} {ticket : Ticket} (attended : scheduler.Attended)
    (sound : scheduler.locks.Sound) (queued : ticket ∈ scheduler.locks.queue key) :
    (scheduler.leave key ticket).Attended where
  present probe standing stays := by
    rw [locks_leave] at stays
    rw [tickets_leave]
    exact attended.present probe standing (sound.mem_queue_of_leave queued stays)
  ascending := by
    rw [locks_leave]
    exact attended.ascending.leave sound queued

/-- Who is broken off stands in no queue any more. -/
theorem cancel (attended : scheduler.Attended) (sound : scheduler.locks.Sound) (ticket : Ticket) :
    (scheduler.cancel ticket).Attended := by
  obtain ⟨ascends, stay⟩ := attended.ascending.leaveAll sound
    (LockTable.nodup_keysOf scheduler.locks ticket) fun key => LockTable.mem_keysOf.1
  rw [← locks_cancel] at ascends stay
  refine ⟨fun probe standing stays => ?_, ascends⟩
  obtain ⟨stood, gone⟩ := stay probe standing stays
  have different : standing ≠ ticket := by
    rintro rfl
    exact gone rfl (LockTable.mem_keysOf.2 stood)
  rw [tickets_cancel]
  simpa [different] using attended.present probe standing stood

/-- **A move of a task keeps the queues to tasks under way**, which have asked for their locks in
order. -/
theorem perform (attended : scheduler.Attended) (disciplined : scheduler.Disciplined none)
    (member : task ∈ scheduler.tasks) (ready : task.ticket ∈ scheduler.ready) :
    (scheduler.perform task).Attended := by
  have standing := disciplined.standing task member nofun
  have locks := standing.rest ∅ standing.origin
  have performs := performs ready
  generalize scheduler.perform task = after at performs
  cases performs with
  | ended done results =>
    -- A task that ends has given everything back.
    have empty : scheduler.locks.concerning task.ticket = ∅ := by rwa [done] at locks
    refine ⟨fun key ticket queued => ?_, attended.ascending⟩
    have different : ticket ≠ task.ticket := by
      rintro rfl
      exact Finset.notMem_empty key (empty ▸ LockTable.mem_concerning.2 queued)
    show ticket ∈ (scheduler.drop task.ticket).tickets
    rw [tickets_drop]
    simpa [different] using attended.present key ticket queued
  | restarted again => exact attended.goOn task task.origin
  | @granted key next asks free =>
    exact (attended.register disciplined member ready asks).goOn task next
  | @queued key next asks taken =>
    have asked := (attended.register disciplined member ready asks).goOn task next
    exact asked.of_eq (fun _ => id) rfl
  | @released key next gives =>
    rw [gives] at locks
    exact (attended.goOn task next).leave disciplined.sound (LockTable.mem_concerning.1 locks.1)
  | @proceeded changed rest step tasks unlocked issued same =>
    have unchanged : changed.Attended :=
      attended.of_eq (fun _ listed => by rwa [tickets, tasks]) unlocked
    exact unchanged.goOn task rest

/-- **As long as a task is under way some task can move**, and whoever waits does so, through others
perhaps, for one that can. -/
theorem exists_free (attended : scheduler.Attended) (disciplined : scheduler.Disciplined none)
    (member : task ∈ scheduler.tasks) :
    ∃ free, (Move.mk scheduler free).Valid ∧ (∀ key, ¬ scheduler.locks.Awaits free.ticket key) ∧
      ReflTransGen scheduler.locks.WaitsFor task.ticket free.ticket := by
  obtain ⟨last, chain, unblocked⟩ :=
    attended.ascending.exists_unblocked disciplined.sound task.ticket
  have under : last ∈ scheduler.tickets := by
    rcases ReflTransGen.cases_tail chain with rfl | ⟨before, _, key, _, owns⟩
    · exact List.mem_map_of_mem member
    · exact attended.present key last (disciplined.sound.not_awaits_of_owns owns).1
  obtain ⟨free, found⟩ := mem_tickets_iff.1 under
  obtain rfl := ticket_of_task? found
  have standing := disciplined.standing free (List.mem_of_find?_eq_some found) nofun
  exact ⟨free, ⟨standing.ready.2 unblocked, found⟩, unblocked, chain⟩

end Attended

end Scheduler

/-- **Whatever a scheduler does, whoever stands in a queue is under way**, as long as all programs
take their locks in order. -/
theorem Interleaving.attended {A : Type} {offered : Program A → Prop} {first last : Scheduler A}
    {moves : List (Move A)} (interleaving : Interleaving offered first moves last)
    (orderly : ∀ program, offered program → program.Locks ∅ ∅ ∅)
    (start : first.Disciplined none) (attended : first.Attended) : last.Attended := by
  induction interleaving with
  | rest scheduler => exact attended
  | started allowed further ih => exact ih (start.start (orderly _ allowed)) (attended.start _)
  | moved valid further ih =>
    have member := List.mem_of_find?_eq_some valid.found
    exact ih (start.perform member valid.ready) (attended.perform start member valid.ready)
  | passed waiting gone further ih =>
    exact ih (start.pass waiting gone) (attended.of_eq (fun _ => id) rfl)
  | cancelled ticket further ih =>
    exact ih (start.cancel ticket) (attended.cancel start.sound ticket)
  | surrounded collaborators files further ih =>
    exact ih (start.of_eq rfl rfl rfl fun _ _ => Iff.rfl) (attended.of_eq (fun _ => id) rfl)

/-! ## Actions -/

/-- **Actions never deadlock.**  However dispatched actions take turns, and whichever of them are
broken off: every action that is under way can move itself, or it waits, through others perhaps, for
one that can and that waits for no lock.  Nobody waits in a circle, and no action asks for a lock
that it has or waits for already. -/
theorem Volume.actions_never_deadlock {settings : OperatorSettings}
    {start last : Scheduler (Outcome Output)} {moves : List (Move (Outcome Output))}
    (interleaving : Interleaving (Dispatched settings) start moves last)
    (unused : start.tasks = []) (unlocked : start.locks = ∅) :
    (∀ task ∈ last.tasks, ∃ free, (Move.mk last free).Valid ∧
      (∀ key, ¬ last.locks.Awaits free.ticket key) ∧
        ReflTransGen last.locks.WaitsFor task.ticket free.ticket) ∧
    (∀ ticket, ¬ TransGen last.locks.WaitsFor ticket ticket) ∧
    ∀ task ∈ last.tasks, ∀ key next, task.rest = .acquire key next →
      task.ticket ∉ last.locks.queue key := by
  have orderly (program : Program (Outcome Output)) := @Dispatched.locks settings program
  have quiet := Scheduler.disciplined_of_quiet unused unlocked
  have disciplined := interleaving.disciplined orderly quiet
  have attended := interleaving.attended orderly quiet (.of_quiet unlocked)
  refine ⟨fun task member => attended.exists_free disciplined member,
    attended.ascending.acyclic disciplined.sound, fun task member key next asks queued => ?_⟩
  have standing := disciplined.standing task member nofun
  have locks := standing.rest ∅ standing.origin
  rw [asks] at locks
  exact Program.not_mem_of_below locks.1 (LockTable.mem_concerning.2 queued)

/-- An overwriting that waits for the lock of a guest waits for the attach that has it and can go
on. -/
theorem Volume.actions_never_deadlock_while_attaching :
    ∃ moves, Interleaving (Dispatched Sample.settings) Sample.prepared moves
        (Sample.contended Sample.corrected [1, 2, 2]) ∧
      (Sample.contended Sample.corrected [1, 2, 2]).tickets = [1, 2] ∧
      (Sample.contended Sample.corrected [1, 2, 2]).ready = [1] ∧
      ∀ task ∈ (Sample.contended Sample.corrected [1, 2, 2]).tasks, ∃ free,
        (Move.mk (Sample.contended Sample.corrected [1, 2, 2]) free).Valid ∧
        ReflTransGen (Sample.contended Sample.corrected [1, 2, 2]).locks.WaitsFor task.ticket
          free.ticket := by
  obtain ⟨moves, interleaving⟩ := Sample.contended_interleaving Sample.corrected [1, 2, 2]
  obtain ⟨unused, unlocked, _⟩ := Sample.prepared_quiet
  refine ⟨moves, interleaving, by decide +kernel, by decide +kernel, fun task member => ?_⟩
  obtain ⟨free, valid, _, chain⟩ :=
    (actions_never_deadlock interleaving unused unlocked).1 task member
  exact ⟨free, valid, chain⟩

end FibrePool
