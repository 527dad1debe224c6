import FibrePool.Proofs.Alone
import FibrePool.Task.Scheduler

/-!
# Tasks that are alone in a scheduler

`Program.alone` runs a program without a scheduler.  This module says that it is what a scheduler
does with a task while no other task takes a step: whatever the systems around answer from one step
to the next, the task ends with the value and the tables that `Program.alone` gives in surroundings
which answer the same (`Scheduler.Solo.alone`).  A statement about all surroundings is therefore one
about every way in which the task can go alone.
-/

namespace FibrePool

set_option autoImplicit false

/-! ## Surroundings that agree -/

namespace Surroundings

/-- Surroundings that answer a call in a given way once so much was seen. -/
def answering (around : Surroundings) (count : Nat) (request : Call)
    (answer : Outcome request.Answer) : Surroundings where
  stamp := around.stamp
  answer seen other :=
    if same : seen.length = count ∧ other = request then same.2 ▸ answer
    else around.answer seen other

/-- Surroundings that give out an identity once so much was seen. -/
def stamping (around : Surroundings) (count : Nat) (fresh : Stamp) : Surroundings where
  answer := around.answer
  stamp seen := if seen.length = count then fresh else around.stamp seen

/-- The surroundings do the same once so much was seen. -/
def AgreeFrom (around around' : Surroundings) (count : Nat) : Prop :=
  ∀ seen : List Observation, count ≤ seen.length →
    around.answer seen = around'.answer seen ∧ around.stamp seen = around'.stamp seen

theorem AgreeFrom.note {around around' : Surroundings} {scene : Scene}
    (agree : around.AgreeFrom around' scene.seen.length) (observation : Observation) :
    around.AgreeFrom around' (scene.note observation).seen.length := by
  intro seen more
  rw [Scene.note_seen, List.length_append] at more
  exact agree seen (Nat.le_of_add_right_le more)

theorem answering_agreeFrom (around : Surroundings) (scene : Scene) (request : Call)
    (answer : Outcome request.Answer) (observation : Observation) :
    (around.answering scene.seen.length request answer).AgreeFrom around
      (scene.note observation).seen.length := by
  intro seen more
  rw [Scene.note_seen, List.length_append, List.length_singleton] at more
  refine ⟨funext fun other => dif_neg ?_, rfl⟩
  rintro ⟨same, _⟩
  omega

theorem stamping_agreeFrom (around : Surroundings) (scene : Scene) (fresh : Stamp)
    (observation : Observation) :
    (around.stamping scene.seen.length fresh).AgreeFrom around
      (scene.note observation).seen.length := by
  intro seen more
  rw [Scene.note_seen, List.length_append, List.length_singleton] at more
  refine ⟨rfl, if_neg ?_⟩
  omega

end Surroundings

/-- A program that runs alone asks its surroundings only about what comes after what was seen. -/
theorem Program.alone_congr {α : Type} {around around' : Surroundings} (program : Program α)
    {scene : Scene} (agree : around.AgreeFrom around' scene.seen.length) :
    program.alone around scene = program.alone around' scene := by
  induction program generalizing scene with
  | done value => rfl
  | again => rfl
  | acquire key next ih => exact ih agree
  | release key next ih => exact ih agree
  | read next ih => exact ih _ agree
  | commit change next ih =>
    simp only [alone]
    cases change scene.tables with
    | ok changed => exact ih (.ok changed.1) agree
    | error failure => exact ih (.error failure) agree
  | call request next ih =>
    simp only [alone]
    rw [(agree scene.seen (Nat.le_refl _)).1]
    exact ih _ (agree.note _)
  | emit event next ih => exact ih (agree.note _)
  | measure taken next ih => exact ih (agree.note _)
  | stamp next ih =>
    simp only [alone]
    rw [(agree scene.seen (Nat.le_refl _)).2]
    exact ih _ (agree.note _)

/-! ## Steps of one task -/

namespace Scheduler

variable {A : Type}

/-- What is seen of the next step of a program. -/
def shown (scheduler : Scheduler A) : Program A → List Observation
  | .call request _ => [.called request (scheduler.collaborators.answer request)]
  | .emit event _ => [.told event]
  | .measure taken _ => [.measured taken]
  | .stamp _ => [.stamped (scheduler.stamps scheduler.created)]
  | _ => []

/-- Only the task with the ticket takes steps, while the systems around and the files may change
from one step to the next; the list is what is seen of the steps. -/
inductive Solo (ticket : Ticket) : Scheduler A → List Observation → Scheduler A → Prop where
  | rest (scheduler : Scheduler A) : Solo ticket scheduler [] scheduler
  | moved {scheduler last : Scheduler A} {task : Task A} {seen : List Observation}
    (ready : ticket ∈ scheduler.ready) (found : scheduler.task? ticket = some task)
    (further : Solo ticket (scheduler.perform task) seen last) :
    Solo ticket scheduler (scheduler.shown task.rest ++ seen) last
  | surrounded {scheduler last : Scheduler A} {seen : List Observation}
    (collaborators : Collaborators) (files : FileSystem) (unhooked : collaborators.hooks = ∅)
    (further : Solo ticket { scheduler with collaborators, files } seen last) :
    Solo ticket scheduler seen last

theorem ticket_of_task? {scheduler : Scheduler A} {ticket : Ticket} {task : Task A}
    (found : scheduler.task? ticket = some task) : task.ticket = ticket :=
  LawfulBEq.eq_of_beq (List.find?_some (p := fun other : Task A => other.ticket == ticket) found)

/-- A task that goes on is found again, with what is left of it. -/
theorem task?_goOn {scheduler : Scheduler A} {ticket : Ticket} {task : Task A}
    (found : scheduler.task? ticket = some task) (rest : Program A) :
    (scheduler.goOn task rest).task? ticket = some { task with rest } := by
  have own := ticket_of_task? found
  unfold task? goOn
  rw [List.find?_map]
  have kept : ((fun other : Task A => other.ticket == ticket) ∘ fun other : Task A =>
      if other.ticket = task.ticket then { task with rest } else other) =
        fun other => other.ticket == ticket := by
    funext other
    by_cases same : other.ticket = task.ticket
    · rw [Function.comp_apply, if_pos same, same]
    · rw [Function.comp_apply, if_neg same]
  rw [kept, show scheduler.tasks.find? (fun other => other.ticket == ticket) = some task from found,
    Option.map_some, if_pos rfl]

theorem leave_eq (scheduler : Scheduler A) (key : String) (holder : Ticket) :
    ∃ locks ready, scheduler.leave key holder = { scheduler with locks, ready } := by
  unfold leave wakeAfter
  dsimp only
  split
  · split
    · exact ⟨_, _, rfl⟩
    · exact ⟨_, _, rfl⟩
  · exact ⟨_, _, rfl⟩

theorem cancel_eq (scheduler : Scheduler A) (ticket : Ticket) :
    ∃ locks ready, scheduler.cancel ticket = { scheduler.drop ticket with locks, ready } := by
  unfold cancel
  generalize scheduler.drop ticket = remaining
  induction scheduler.locks.keysOf ticket generalizing remaining with
  | nil => exact ⟨_, _, rfl⟩
  | cons key keys ih =>
    obtain ⟨locks, ready, left⟩ := leave_eq remaining key ticket
    obtain ⟨locks', ready', further⟩ := ih (remaining.leave key ticket)
    refine ⟨locks', ready', further.trans ?_⟩
    rw [left]

theorem count_eq (scheduler : Scheduler A) (taken : Measure) :
    ∃ metrics, scheduler.count taken = { scheduler with metrics } := by
  cases taken <;> exact ⟨_, rfl⟩

/-- Without a snapshot a transaction does to the store what it does to the tables. -/
theorem transact_of_memory {β : Type} {scheduler : Scheduler A}
    (memory : scheduler.store.snapshot = none) (change : Transaction β) :
    scheduler.transact change = match change scheduler.store.tables with
      | .ok (result, tables) =>
        (.ok result, { scheduler with store := { tables } })
      | .error failure => (.error failure, scheduler) := by
  unfold transact Store.transact
  rw [memory]
  rcases change scheduler.store.tables with failure | ⟨result, tables⟩ <;> rfl

/-- Without a snapshot no transaction takes time. -/
theorem yield_of_memory {scheduler : Scheduler A} (memory : scheduler.store.snapshot = none)
    (ticket : Ticket) : scheduler.yield ticket = scheduler := by
  unfold yield
  rw [memory]
  rfl

/-- A scheduler in which a task is under way, in memory and without hooks. -/
structure UnderWay (scheduler : Scheduler A) (task : Task A) : Prop where
  found : scheduler.task? task.ticket = some task
  memory : scheduler.store.snapshot = none
  unhooked : scheduler.collaborators.hooks = ∅

/-- A step that is taken alone: the scheduler goes on with what is left of the task, and that is
what becomes of the program when it runs alone in surroundings that answer the same. -/
structure Onward (scheduler : Scheduler A) (task : Task A) (rest : Program A) : Prop where
  underWay : (scheduler.perform task).UnderWay { task with rest }
  results : (scheduler.perform task).results = scheduler.results
  same : ∀ around before, ∃ around',
    task.rest.alone around' ⟨scheduler.store.tables, before⟩ =
      rest.alone around ⟨(scheduler.perform task).store.tables,
        before ++ scheduler.shown task.rest⟩

/-- A step that changes the task by what is left of it only, after a change of other things. -/
theorem UnderWay.onward {scheduler changed : Scheduler A} {task : Task A} {rest : Program A}
    (underWay : scheduler.UnderWay task)
    (performs : scheduler.perform task = changed.goOn task rest)
    (tasks : changed.tasks = scheduler.tasks) (memory : changed.store.snapshot = none)
    (collaborators : changed.collaborators = scheduler.collaborators)
    (results : changed.results = scheduler.results)
    (same : ∀ around before, ∃ around',
      task.rest.alone around' ⟨scheduler.store.tables, before⟩ =
        rest.alone around ⟨changed.store.tables, before ++ scheduler.shown task.rest⟩) :
    scheduler.Onward task rest where
  results := performs ▸ results
  same := performs ▸ same
  underWay := by
    have found : changed.task? task.ticket = some task := by
      unfold task?
      rw [tasks]
      exact underWay.found
    rw [performs]
    exact ⟨task?_goOn found rest, memory,
      (congrArg Collaborators.hooks collaborators).trans underWay.unhooked⟩

/-- **One step of a task that has not ended** is a step of its program, unless it starts anew. -/
theorem UnderWay.perform {scheduler : Scheduler A} {task : Task A}
    (underWay : scheduler.UnderWay task) (unended : ∀ value, task.rest ≠ .done value)
    (first : task.rest ≠ .again) : ∃ rest, scheduler.Onward task rest := by
  have memory := underWay.memory
  obtain ⟨ticket, origin, program⟩ := task
  -- Steps that show nothing leave what was seen as it is.
  have silent (next : Program A) (tables : Tables) (around : Surroundings)
      (before : List Observation) : next.alone around ⟨tables, before⟩ =
        next.alone around ⟨tables, before ++ []⟩ :=
    congrArg (fun seen => next.alone around ⟨tables, seen⟩) (List.append_nil before).symm
  cases program with
  | done value => exact absurd rfl (unended value)
  | again => exact absurd rfl first
  | acquire key next =>
    obtain ⟨ready, performs⟩ : ∃ ready,
        scheduler.perform ⟨ticket, origin, .acquire key next⟩ =
          Scheduler.goOn { scheduler with locks := scheduler.locks.register key ticket, ready }
            ⟨ticket, origin, .acquire key next⟩ next := by
      unfold Scheduler.perform
      dsimp only
      split
      · exact ⟨scheduler.ready, rfl⟩
      · exact ⟨scheduler.ready.filter (· != ticket), rfl⟩
    exact ⟨next, underWay.onward performs rfl memory rfl rfl
      fun around before => ⟨around, silent next _ around before⟩⟩
  | release key next =>
    obtain ⟨locks, ready, performs⟩ :=
      leave_eq (scheduler.goOn ⟨ticket, origin, .release key next⟩ next) key ticket
    have performs : scheduler.perform ⟨ticket, origin, .release key next⟩ =
        Scheduler.goOn { scheduler with locks, ready } ⟨ticket, origin, .release key next⟩ next :=
      performs
    exact ⟨next, underWay.onward performs rfl memory rfl rfl
      fun around before => ⟨around, silent next _ around before⟩⟩
  | read next =>
    exact ⟨next scheduler.store.tables, underWay.onward rfl rfl memory rfl rfl
      fun around before => ⟨around, silent _ _ around before⟩⟩
  | commit change next =>
    have transacted := transact_of_memory memory change
    cases done : change scheduler.store.tables with
    | ok changed =>
      obtain ⟨result, tables⟩ := changed
      rw [done] at transacted
      have performs : scheduler.perform ⟨ticket, origin, .commit change next⟩ =
          Scheduler.goOn { scheduler with store := { tables } }
            ⟨ticket, origin, .commit change next⟩ (next (.ok result)) := by
        unfold Scheduler.perform
        dsimp only
        rw [transacted]
        exact yield_of_memory rfl _
      refine ⟨next (.ok result), underWay.onward performs rfl rfl rfl rfl
        fun around before => ⟨around, ?_⟩⟩
      simp only [Program.alone, done]
      exact silent _ _ around before
    | error failure =>
      rw [done] at transacted
      have performs : scheduler.perform ⟨ticket, origin, .commit change next⟩ =
          scheduler.goOn ⟨ticket, origin, .commit change next⟩ (next (.error failure)) := by
        unfold Scheduler.perform
        dsimp only
        rw [transacted]
        refine yield_of_memory ?_ _
        exact memory
      refine ⟨next (.error failure), underWay.onward performs rfl memory rfl rfl
        fun around before => ⟨around, ?_⟩⟩
      simp only [Program.alone, done]
      exact silent _ _ around before
  | call request next =>
    let answer := scheduler.collaborators.answer request
    have performs : scheduler.perform ⟨ticket, origin, .call request next⟩ =
        Scheduler.goOn { scheduler with calls := scheduler.calls ++ [request] }
          ⟨ticket, origin, .call request next⟩ (next answer) := by
      unfold Scheduler.perform runHook
      dsimp only
      rw [underWay.unhooked]
      rfl
    refine ⟨next answer, underWay.onward performs rfl memory rfl rfl
      fun around before => ⟨around.answering before.length request answer, ?_⟩⟩
    have answered : (around.answering before.length request answer).answer before request =
        answer := dif_pos ⟨rfl, rfl⟩
    simp only [Program.alone, answered]
    exact Program.alone_congr _ (around.answering_agreeFrom ⟨_, before⟩ request answer _)
  | emit event next =>
    exact ⟨next, underWay.onward rfl rfl memory rfl rfl fun around _ => ⟨around, rfl⟩⟩
  | measure taken next =>
    obtain ⟨metrics, counted⟩ := count_eq scheduler taken
    have performs : scheduler.perform ⟨ticket, origin, .measure taken next⟩ =
        Scheduler.goOn { scheduler with metrics } ⟨ticket, origin, .measure taken next⟩ next :=
      congrArg (goOn · ⟨ticket, origin, .measure taken next⟩ next) counted
    exact ⟨next, underWay.onward performs rfl memory rfl rfl fun around _ => ⟨around, rfl⟩⟩
  | stamp next =>
    let fresh := scheduler.stamps scheduler.created
    refine ⟨next fresh, underWay.onward rfl rfl memory rfl rfl
      fun around before => ⟨around.stamping before.length fresh, ?_⟩⟩
    have stamped : (around.stamping before.length fresh).stamp before = fresh := if_pos rfl
    simp only [Program.alone, stamped]
    exact Program.alone_congr _ (around.stamping_agreeFrom ⟨_, before⟩ fresh _)

/-! ## Runs of one task -/

/-- Nothing happens any more to a task that has ended. -/
theorem Solo.of_ended {ticket : Ticket} {scheduler last : Scheduler A} {seen : List Observation}
    (solo : Solo ticket scheduler seen last) (ended : scheduler.task? ticket = none) :
    seen = [] ∧ last.store = scheduler.store ∧ last.results = scheduler.results := by
  induction solo with
  | rest => exact ⟨rfl, rfl, rfl⟩
  | moved _ found => cases ended.symm.trans found
  | surrounded _ _ _ _ ih => exact ih ended

/-- The last step takes the task away and files its value. -/
theorem ended_of_done {scheduler : Scheduler A} {task : Task A} {value : A}
    (done : task.rest = .done value) : (scheduler.perform task).task? task.ticket = none ∧
      (scheduler.perform task).store = scheduler.store ∧
      (scheduler.perform task).results = scheduler.results ++ [(task.ticket, value)] := by
  unfold perform
  rw [done]
  refine ⟨List.find?_eq_none.2 fun other member => ?_, rfl, rfl⟩
  have kept := (List.mem_filter.1 member).2
  simpa using kept

/-- **A task that goes alone in a scheduler ends as its program does when it runs alone**, with the
same value, the same tables and the same things seen, unless it gave an attempt up. -/
theorem Solo.alone {ticket : Ticket} {scheduler last : Scheduler A} {seen : List Observation}
    (solo : Solo ticket scheduler seen last) {task : Task A} (underWay : scheduler.UnderWay task)
    (own : task.ticket = ticket) (ended : last.task? ticket = none)
    (before : List Observation) :
    ∃ around, (task.rest.alone around ⟨scheduler.store.tables, before⟩).1 = none ∨
      ∃ value, task.rest.alone around ⟨scheduler.store.tables, before⟩ =
          (some value, ⟨last.store.tables, before ++ seen⟩) ∧
        last.results = scheduler.results ++ [(ticket, value)] := by
  induction solo generalizing task before with
  | rest =>
    subst own
    cases ended.symm.trans underWay.found
  | surrounded collaborators files unhooked further ih =>
    exact ih ⟨underWay.found, underWay.memory, unhooked⟩ own ended before
  | @moved scheduler last other seen ready found further ih =>
    subst own
    obtain rfl : other = task := Option.some.inj (found.symm.trans underWay.found)
    have anyone : Surroundings := ⟨fun _ _ => .error (.internal ""), fun _ => default⟩
    by_cases first : other.rest = .again
    · exact ⟨anyone, .inl (by rw [first]; rfl)⟩
    · by_cases done : ∃ value, other.rest = .done value
      · obtain ⟨value, done⟩ := done
        obtain ⟨gone, store, results⟩ := ended_of_done done
        obtain ⟨unseen, unchanged, same⟩ := further.of_ended gone
        refine ⟨anyone, .inr ⟨value, ?_, same.trans results⟩⟩
        rw [done, unseen, unchanged, store]
        exact congrArg (fun seen => (some value, Scene.mk scheduler.store.tables seen))
          (List.append_nil before).symm
      · have unended (value : A) : other.rest ≠ .done value := fun same => done ⟨value, same⟩
        obtain ⟨rest, onward⟩ := underWay.perform unended first
        obtain ⟨around, runs⟩ := ih onward.underWay rfl ended (before ++ scheduler.shown other.rest)
        obtain ⟨around', same⟩ := onward.same around before
        refine ⟨around', ?_⟩
        rw [same, ← onward.results, ← List.append_assoc]
        exact runs

end Scheduler

end FibrePool
