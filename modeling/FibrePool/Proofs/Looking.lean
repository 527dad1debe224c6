import FibrePool.Proofs.Confined
import FibrePool.Proofs.Override

/-!
# Programs that only look

A program that only looks at the tables and takes measures waits for nothing and is done after so
many steps, whatever it sees.  What comes of it depends on the tables of the moments of its looks,
which others may change between any two of them.

`Program.Looks` says what the result is like as long as all these tables satisfy a condition.  In an
interleaving they are the tables before the moves of the task, so what is known of these moves gives
the result (`Interleaving.looking`), and the task can move at any time
(`Scheduler.Disciplined.valid_of_looks`).
-/

namespace FibrePool

set_option autoImplicit false

/-! ## Programs -/

namespace Program

variable {α β : Type} {inv : Tables → Prop} {post : α → Prop} {steps further : Nat}

/-- The program only looks at tables and takes measures, in at most so many steps, and its result
satisfies `post` as long as everything that it sees satisfies `inv`. -/
inductive Looks (inv : Tables → Prop) (post : α → Prop) : Nat → Program α → Prop where
  | done {value : α} {steps : Nat} (good : post value) : Looks inv post steps (.done value)
  | read {next : Tables → Program α} {steps : Nat}
    (looks : ∀ tables, inv tables → Looks inv post steps (next tables)) :
    Looks inv post (steps + 1) (.read next)
  | measure {taken : Measure} {next : Program α} {steps : Nat} (looks : Looks inv post steps next) :
    Looks inv post (steps + 1) (.measure taken next)

theorem Looks.mono {program : Program α} {post' : α → Prop} (looks : program.Looks inv post steps)
    (implies : ∀ value, post value → post' value) (enough : steps ≤ further) :
    program.Looks inv post' further := by
  induction looks generalizing further with
  | done good => exact .done (implies _ good)
  | read looks ih =>
    cases further with
    | zero => cases enough
    | succ further =>
      exact .read fun tables holds => ih tables holds (Nat.le_of_succ_le_succ enough)
  | measure looks ih =>
    cases further with
    | zero => cases enough
    | succ further => exact .measure (ih (Nat.le_of_succ_le_succ enough))

theorem Looks.bind {program : Program β} {next : β → Program α} {middle : β → Prop}
    (looks : program.Looks inv middle steps)
    (later : ∀ value, middle value → (next value).Looks inv post further) :
    (program.bind next).Looks inv post (further + steps) := by
  induction looks with
  | done good => exact (later _ good).mono (fun _ => id) (Nat.le_add_right _ _)
  | read looks ih => exact .read fun tables holds => ih tables holds
  | measure looks ih => exact .measure ih

/-- A program that only looks is confined, whatever is allowed. -/
theorem Looks.confined {program : Program α} {allowed : (β : Type) → Transaction β → Prop}
    (looks : program.Looks inv post steps) (always : ∀ tables, inv tables) :
    program.Confined allowed := by
  induction looks with
  | done good => exact .done _
  | read looks ih => exact .read fun tables => ih tables (always tables)
  | measure looks ih => exact .measure ih

/-- A program that only looks holds no other locks than at its end. -/
theorem Looks.held_eq {program : Program α} {needed base held : Finset String} {tables : Tables}
    (looks : program.Looks inv post steps) (sees : inv tables)
    (locks : program.Locks needed base held) : held = base := by
  induction looks with
  | done good => exact locks
  | read looks ih => exact ih tables sees (locks tables)
  | measure looks ih => exact ih locks

end Program

/-! ## Workflows -/

/-- A result is `good`, and a failure is `bad`. -/
def Outcome.Is {α : Type} (good : α → Prop) (bad : Failure → Prop) : Outcome α → Prop
  | .ok value => good value
  | .error failure => bad failure

namespace Workflow

variable {α β : Type} {inv : Tables → Prop} {good : α → Prop} {bad : Failure → Prop}
  {steps further : Nat}

/-- The workflow only looks at tables and takes measures, in at most so many steps, and as long as
everything that it sees satisfies `inv` its result is `good` and its failure is `bad`. -/
def Looks (inv : Tables → Prop) (good : α → Prop) (bad : Failure → Prop) (steps : Nat)
    (workflow : Workflow α) : Prop :=
  workflow.run.Looks inv (Outcome.Is good bad) steps

theorem looks_pure {value : α} (holds : good value) :
    (pure value : Workflow α).Looks inv good bad steps := .done holds

theorem Looks.bind {workflow : Workflow β} {next : β → Workflow α} {usable : β → Prop}
    (first : workflow.Looks inv usable bad steps)
    (later : ∀ value, usable value → (next value).Looks inv good bad further) :
    (workflow >>= next).Looks inv good bad (further + steps) := by
  refine Program.Looks.bind first fun outcome holds => ?_
  cases outcome with
  | ok value => exact later value holds
  | error failure => exact .done holds

theorem Looks.map {workflow : Workflow β} {usable : β → Prop} {change : β → α}
    (looks : workflow.Looks inv usable bad steps)
    (implies : ∀ value, usable value → good (change value)) :
    (change <$> workflow).Looks inv good bad steps := by
  rw [map_eq_pure_bind, ← Nat.zero_add steps]
  exact looks.bind fun value holds => looks_pure (implies value holds)

theorem looks_ask {question : Tables → α}
    (answers : ∀ tables, inv tables → good (question tables)) :
    (ask question).Looks inv good bad 1 :=
  .read fun tables holds => .done (answers tables holds)

theorem looks_askFor {question : Tables → Outcome α}
    (answers : ∀ tables, inv tables → (question tables).Is good bad) :
    (askFor question).Looks inv good bad 1 :=
  .read fun tables holds => .done (answers tables holds)

/-- A workflow for each item, one after the other: its results correspond to the items. -/
theorem looks_mapM {γ : Type} {items : List β} {step : β → Workflow α} {name : β → γ}
    {project : α → γ}
    (each : ∀ item ∈ items,
      (step item).Looks inv (fun value => project value = name item) bad steps) :
    (items.mapM step).Looks inv (fun values => values.map project = items.map name) bad
      (items.length * steps) := by
  induction items with
  | nil => exact looks_pure rfl
  | cons item rest ih =>
    obtain ⟨first, others⟩ := List.forall_mem_cons.1 each
    rw [List.mapM_cons, List.length_cons, Nat.succ_mul, ← Nat.zero_add (rest.length * steps)]
    refine first.bind fun value own => ?_
    exact Looks.bind (ih others) fun values same => looks_pure (congrArg₂ List.cons own same)

end Workflow

namespace Volume

open Workflow

variable {settings : OperatorSettings} {action : Action}

/-- What is done around an action: its outcome is counted, and answered. -/
def counted (action : Action) (workflow : Workflow Output) : Workflow Output := do
  let outcome ← workflow.outcome
  Workflow.measure (.finished action.name (succeeded outcome))
  Workflow.ofOutcome outcome

theorem looks_counted {workflow : Workflow Output} {inv : Tables → Prop} {good : Output → Prop}
    {bad : Failure → Prop} {steps : Nat} (looks : workflow.Looks inv good bad steps) :
    (counted action workflow).Looks inv good bad (steps + 1) := by
  have outcome : workflow.outcome.Looks inv (Outcome.Is good bad) bad (0 + steps) :=
    Program.Looks.bind looks fun _ holds => .done holds
  rw [Nat.zero_add] at outcome
  rw [Nat.add_comm]
  exact outcome.bind fun outcome holds => .measure (.done holds)

/-- An action that begins with a question goes on with the answer. -/
theorem dispatch_eq_read {α : Type} {question : Tables → α} {next : α → Workflow Output}
    (asks : run settings action = ask question >>= next) :
    (dispatch settings action).run =
      .read fun tables => (counted action (next (question tables))).run := by
  show (counted action (run settings action)).run = _
  rw [asks]
  rfl

end Volume

/-! ## Interleavings -/

namespace Scheduler

variable {A : Type} {scheduler : Scheduler A} {task : Task A} {inv : Tables → Prop}
  {post : A → Prop} {steps : Nat}

/-- **A task that only looks never waits.** -/
theorem Disciplined.valid_of_looks {tables : Tables} (disciplined : scheduler.Disciplined none)
    (found : scheduler.task? task.ticket = some task) (looks : task.rest.Looks inv post steps)
    (sees : inv tables) : (Move.mk scheduler task).Valid := by
  have standing := disciplined.standing task (List.mem_of_find?_eq_some found) nofun
  have empty := looks.held_eq sees (standing.rest ∅ standing.origin)
  refine ⟨standing.ready.2 fun key waits => ?_, found⟩
  exact Finset.notMem_empty key (empty ▸ LockTable.mem_concerning.2 waits.queued)

/-- A task that only looks is over after its move, or it has a step less to go. -/
theorem looks_perform (found : scheduler.task? task.ticket = some task)
    (looks : task.rest.Looks inv post steps) (sees : inv scheduler.store.tables) :
    (scheduler.perform task).task? task.ticket = none ∨
      ∃ left rest, steps = left + 1 ∧ rest.Looks inv post left ∧
        (scheduler.perform task).task? task.ticket = some { task with rest } := by
  unfold perform
  generalize task.rest = program at looks
  cases looks with
  | done good => exact .inl (task?_drop_self task.ticket)
  | read looks => exact .inr ⟨_, _, rfl, looks _ sees, task?_goOn found _⟩
  | @measure taken next left looks =>
    refine .inr ⟨left, next, rfl, looks, task?_goOn ?_ next⟩
    obtain ⟨metrics, counted⟩ := count_eq scheduler taken
    rw [counted]
    exact found

end Scheduler

namespace Move

variable {A : Type} {move : Move A} {moves : List (Move A)} {ticket : Ticket}

/-- How many of the moves are those of a task. -/
def turnsOf (moves : List (Move A)) (ticket : Ticket) : Nat :=
  moves.countP (·.task.ticket == ticket)

theorem turnsOf_cons_self (own : move.task.ticket = ticket) :
    turnsOf (move :: moves) ticket = turnsOf moves ticket + 1 :=
  List.countP_cons_of_pos (beq_iff_eq.2 own)

theorem turnsOf_cons_of_ne (other : move.task.ticket ≠ ticket) :
    turnsOf (move :: moves) ticket = turnsOf moves ticket :=
  List.countP_cons_of_neg fun same => other (beq_iff_eq.1 same)

theorem turnsOf_eq_zero (unmoved : ∀ move ∈ moves, move.task.ticket ≠ ticket) :
    turnsOf moves ticket = 0 :=
  List.countP_eq_zero.2 fun move member same => unmoved move member (beq_iff_eq.1 same)

/-- Where one of the moves is the end of the task, its result satisfies `post`. -/
def Ends (moves : List (Move A)) (ticket : Ticket) (post : A → Prop) : Prop :=
  ∀ move ∈ moves, move.task.ticket = ticket → ∀ result, move.task.rest = .done result → post result

theorem Ends.mono {post post' : A → Prop} (ends : Ends moves ticket post)
    (implies : ∀ result, post result → post' result) : Ends moves ticket post' :=
  fun move member own result ended => implies result (ends move member own result ended)

end Move

namespace Interleaving

variable {A : Type} {offered : Program A → Prop} {first last : Scheduler A}
  {moves : List (Move A)} {ticket : Ticket} {inv : Tables → Prop} {post : A → Prop} {steps : Nat}

/-- A task that is gone does not come back. -/
theorem gone (interleaving : Interleaving offered first moves last)
    (issued : ticket < first.nextTicket) (gone : first.task? ticket = none) :
    last.task? ticket = none ∧ ∀ move ∈ moves, move.task.ticket ≠ ticket := by
  induction interleaving with
  | rest scheduler => exact ⟨gone, List.forall_mem_nil _⟩
  | started allowed further ih =>
    exact ih (Nat.lt_succ_of_lt issued) ((Scheduler.task?_start_of_lt issued _).trans gone)
  | @moved move last moves valid further ih =>
    have other : move.task.ticket ≠ ticket := by
      rintro rfl
      cases gone.symm.trans valid.found
    have still := Scheduler.task?_perform_of_ne valid.ready other.symm
    obtain ⟨ended, unmoved⟩ :=
      ih ((Scheduler.issued_perform valid.ready).symm ▸ issued) (still.trans gone)
    exact ⟨ended, List.forall_mem_cons.2 ⟨other, unmoved⟩⟩
  | passed waiting absent further ih => exact ih issued gone
  | cancelled broken further ih =>
    refine ih ((Scheduler.issued_cancel broken).symm ▸ issued) ?_
    rw [Scheduler.task?_cancel]
    by_cases same : ticket = broken
    · subst same
      exact Scheduler.task?_drop_self ticket
    · exact (Scheduler.task?_drop_of_ne same).trans gone
  | surrounded collaborators files further ih => exact ih issued gone

/-- The task has at most so many of the moves, and before each of them and at the end it only looks,
as far as it is still under way. -/
structure Looking (inv : Tables → Prop) (post : A → Prop) (ticket : Ticket) (turns : Nat)
    (moves : List (Move A)) (last : Scheduler A) : Prop where
  bound : Move.turnsOf moves ticket ≤ turns
  moved : ∀ move ∈ moves, move.task.ticket = ticket → ∃ left, move.task.rest.Looks inv post left
  under : ∀ task, last.task? ticket = some task → ∃ left, task.rest.Looks inv post left

theorem Looking.ends {turns : Nat} (looking : Looking inv post ticket turns moves last) :
    Move.Ends moves ticket post := by
  intro move member own result ended
  obtain ⟨left, rest⟩ := looking.moved move member own
  rw [ended] at rest
  cases rest with
  | done good => exact good

/-- A task that is gone looks no more. -/
theorem looking_of_gone (interleaving : Interleaving offered first moves last)
    (issued : ticket < first.nextTicket) (absent : first.task? ticket = none) :
    Looking inv post ticket 0 moves last := by
  obtain ⟨ended, unmoved⟩ := interleaving.gone issued absent
  refine ⟨(Move.turnsOf_eq_zero unmoved).le, fun move member own => ?_, fun task present => ?_⟩
  · exact absurd own (unmoved move member)
  · cases ended.symm.trans present

theorem Looking.mono {turns further : Nat} (looking : Looking inv post ticket turns moves last)
    (enough : turns ≤ further) : Looking inv post ticket further moves last :=
  ⟨looking.bound.trans enough, looking.moved, looking.under⟩

theorem Looking.cons {move : Move A} {turns left : Nat}
    (looking : Looking inv post ticket turns moves last) (own : move.task.ticket = ticket)
    (looks : move.task.rest.Looks inv post left) :
    Looking inv post ticket (turns + 1) (move :: moves) last where
  bound := (Move.turnsOf_cons_self own).trans_le (Nat.succ_le_succ looking.bound)
  moved := List.forall_mem_cons.2 ⟨fun _ => ⟨left, looks⟩, looking.moved⟩
  under := looking.under

/-- **What becomes of a task that only looks.**  It is over after so many of its moves, and what
comes of it is as the tables before these moves make it. -/
theorem looking {task : Task A} (interleaving : Interleaving offered first moves last)
    (issued : ticket < first.nextTicket) (found : first.task? ticket = some task)
    (looks : task.rest.Looks inv post steps)
    (sees : ∀ move ∈ moves, move.task.ticket = ticket → inv move.before.store.tables) :
    Looking inv post ticket (steps + 1) moves last := by
  induction interleaving generalizing task steps with
  | rest scheduler =>
    refine ⟨Nat.zero_le _, List.forall_mem_nil _, fun now present => ?_⟩
    cases found.symm.trans present
    exact ⟨steps, looks⟩
  | started allowed further ih =>
    exact ih (Nat.lt_succ_of_lt issued) ((Scheduler.task?_start_of_lt issued _).trans found) looks
      sees
  | @moved move last moves valid further ih =>
    obtain ⟨now, later⟩ := List.forall_mem_cons.1 sees
    have issued' : ticket < move.after.nextTicket :=
      (Scheduler.issued_perform valid.ready).symm ▸ issued
    by_cases own : move.task.ticket = ticket
    · subst own
      obtain rfl : task = move.task := Option.some.inj (found.symm.trans valid.found)
      rcases Scheduler.looks_perform found looks (now rfl) with gone | ⟨left, rest, rfl, less, went⟩
      · have ended : Looking inv post _ 0 moves last := further.looking_of_gone issued' gone
        exact (ended.mono (Nat.zero_le _)).cons rfl looks
      · exact (ih issued' went less later).cons rfl looks
    · have still := Scheduler.task?_perform_of_ne valid.ready (Ne.symm own)
      have others := ih issued' (still.trans found) looks later
      exact ⟨(Move.turnsOf_cons_of_ne own).trans_le others.bound,
        List.forall_mem_cons.2 ⟨fun same => absurd same own, others.moved⟩, others.under⟩
  | passed waiting absent further ih => exact ih issued found looks sees
  | cancelled broken further ih =>
    have issued' := (Scheduler.issued_cancel broken).symm ▸ issued
    by_cases same : ticket = broken
    · subst same
      refine (further.looking_of_gone issued' ?_).mono (Nat.zero_le _)
      rw [Scheduler.task?_cancel, Scheduler.task?_drop_self]
    · refine ih issued' ?_ looks sees
      rw [Scheduler.task?_cancel, Scheduler.task?_drop_of_ne same, found]
  | surrounded collaborators files further ih => exact ih issued found looks sees

end Interleaving

end FibrePool
