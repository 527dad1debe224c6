import FibrePool.Proofs.Interleaving
import FibrePool.Proofs.LockOrder
import FibrePool.Proofs.Schedule

/-!
# Confined programs

A confined program calls no other system, and all its transactions are of an allowed kind.  What a
program keeps (`Program.Keeps`) depends on what it sees while it runs; that it is confined does not,
so it is true of whatever is left of it at any time (`Program.Confined.of_reaches`).

With no transaction allowed, a program leaves everything alone.  With those allowed that keep a
statement about the tables, the statement outlasts every move of the program, whoever else is at
work (`Scheduler.holds_perform`).
-/

namespace FibrePool

set_option autoImplicit false

/-! ## Programs -/

namespace Program

variable {α β : Type} {allowed : (β : Type) → Transaction β → Prop}

/-- No step of the program calls another system, and every transaction of it is allowed. -/
inductive Confined (allowed : (β : Type) → Transaction β → Prop) : Program α → Prop where
  | done (value : α) : Confined allowed (.done value)
  | again : Confined allowed .again
  | acquire {key : String} {next : Program α} (rest : Confined allowed next) :
    Confined allowed (.acquire key next)
  | release {key : String} {next : Program α} (rest : Confined allowed next) :
    Confined allowed (.release key next)
  | read {next : Tables → Program α} (rest : ∀ tables, Confined allowed (next tables)) :
    Confined allowed (.read next)
  | commit {β : Type} {change : Transaction β} {next : Outcome β → Program α}
    (permitted : allowed β change) (rest : ∀ outcome, Confined allowed (next outcome)) :
    Confined allowed (.commit change next)
  | emit {event : Event} {next : Program α} (rest : Confined allowed next) :
    Confined allowed (.emit event next)
  | measure {taken : Measure} {next : Program α} (rest : Confined allowed next) :
    Confined allowed (.measure taken next)
  | stamp {next : Stamp → Program α} (rest : ∀ fresh, Confined allowed (next fresh)) :
    Confined allowed (.stamp next)

theorem Confined.of_next {program rest : Program α} (confined : program.Confined allowed)
    (step : program.Next rest) : rest.Confined allowed := by
  cases step with
  | acquire key next =>
    cases confined with
    | acquire rest => exact rest
  | release key next =>
    cases confined with
    | release rest => exact rest
  | proceeds step =>
    cases step with
    | read next tables =>
      cases confined with
      | read rest => exact rest tables
    | commit change next outcome =>
      cases confined with
      | commit permitted rest => exact rest outcome
    | call request next answer => cases confined
    | emit event next =>
      cases confined with
      | emit rest => exact rest
    | measure taken next =>
      cases confined with
      | measure rest => exact rest
    | stamp next fresh =>
      cases confined with
      | stamp rest => exact rest fresh

/-- What is left of a confined program is confined, whatever it has met on the way. -/
theorem Confined.of_reaches {program rest : Program α} (confined : program.Confined allowed)
    (reaches : program.Reaches rest) : rest.Confined allowed := by
  induction reaches with
  | refl => exact confined
  | tail _ step ih => exact ih.of_next step

/-- Where no transaction is allowed, nothing acts. -/
theorem Confined.acts_eq_false {program : Program α}
    (confined : program.Confined fun _ _ => False) : program.acts = false := by
  cases confined with
  | commit permitted rest => exact permitted.elim
  | _ => rfl

theorem Confined.bind {program : Program β} {next : β → Program α}
    (confined : program.Confined allowed) (later : ∀ value, (next value).Confined allowed) :
    (program.bind next).Confined allowed := by
  induction confined with
  | done value => exact later value
  | again => exact .again
  | acquire rest ih => exact .acquire ih
  | release rest ih => exact .release ih
  | read rest ih => exact .read ih
  | commit permitted rest ih => exact .commit permitted ih
  | emit rest ih => exact .emit ih
  | measure rest ih => exact .measure ih
  | stamp rest ih => exact .stamp ih

end Program

/-! ## Workflows -/

namespace Workflow

variable {α β : Type} {allowed : (β : Type) → Transaction β → Prop}

/-- The workflow calls no other system, and every transaction of it is allowed. -/
def Confined (allowed : (β : Type) → Transaction β → Prop) (workflow : Workflow α) : Prop :=
  workflow.run.Confined allowed

theorem confined_pure (value : α) : (pure value : Workflow α).Confined allowed := .done _

theorem confined_ofOutcome (outcome : Outcome α) : (ofOutcome outcome).Confined allowed :=
  .done outcome

theorem confined_ask (question : Tables → α) : (ask question).Confined allowed :=
  .read fun _ => .done _

theorem confined_askFor (question : Tables → Outcome α) : (askFor question).Confined allowed :=
  .read fun _ => .done _

theorem confined_commit {change : Transaction α} (permitted : allowed α change) :
    (commit change).Confined allowed :=
  .commit permitted .done

theorem confined_emit (event : Event) : (emit event).Confined allowed := .emit (.done _)

theorem confined_measure (taken : Measure) : (measure taken).Confined allowed := .measure (.done _)

theorem confined_stamp : stamp.Confined allowed := .stamp fun _ => .done _

theorem Confined.bind {workflow : Workflow β} {next : β → Workflow α}
    (first : workflow.Confined allowed) (later : ∀ value, (next value).Confined allowed) :
    (workflow >>= next).Confined allowed := by
  refine Program.Confined.bind first fun outcome => ?_
  cases outcome with
  | ok value => exact later value
  | error failure => exact .done _

theorem Confined.map {workflow : Workflow β} (confined : workflow.Confined allowed)
    (change : β → α) : (change <$> workflow).Confined allowed := by
  rw [map_eq_pure_bind]
  exact confined.bind fun value => confined_pure (change value)

theorem confined_mapM {items : List β} {step : β → Workflow α}
    (each : ∀ item, (step item).Confined allowed) : (items.mapM step).Confined allowed := by
  induction items with
  | nil => exact confined_pure []
  | cons item rest ih =>
    rw [List.mapM_cons]
    refine (each item).bind fun value => Confined.bind ih fun values => ?_
    exact confined_pure (value :: values)

theorem Confined.outcome {workflow : Workflow α} (confined : workflow.Confined allowed) :
    workflow.outcome.Confined allowed :=
  Program.Confined.bind confined fun _ => .done _

theorem Confined.adapt {workflow : Workflow α} (confined : workflow.Confined allowed)
    (change : Failure → Failure) : Confined allowed (workflow.adapt change : Workflow α) := by
  have adapted : (workflow.run.bind fun outcome => .done (outcome.mapError change)).Confined
      allowed := Program.Confined.bind confined fun _ => .done _
  exact adapted

theorem Confined.holding {workflow : Workflow α} (confined : workflow.Confined allowed)
    (key : String) : (holding key workflow).Confined allowed :=
  .acquire (Program.Confined.bind confined fun _ => .release (.done _))

end Workflow

theorem Volume.confined_dispatch {settings : OperatorSettings} {action : Action}
    {allowed : (β : Type) → Transaction β → Prop}
    (confined : (run settings action).Confined allowed) :
    (dispatch settings action).Confined allowed :=
  confined.outcome.bind fun outcome =>
    (Workflow.confined_measure _).bind fun _ => Workflow.confined_ofOutcome outcome

/-! ## Moves -/

/-- **A statement outlasts the moves of programs whose transactions keep it.** -/
theorem Scheduler.holds_perform {A : Type} {scheduler : Scheduler A} {task : Task A}
    {inv : Tables → Prop}
    (confined : task.rest.Confined fun _ (change : Transaction _) => change.Keeps inv)
    (holds : inv scheduler.store.tables) : inv (scheduler.perform task).store.tables := by
  unfold perform
  generalize task.rest = program at confined
  cases confined with
  | done value => exact holds
  | again => exact holds
  | acquire rest =>
    dsimp only
    split <;> exact holds
  | @release key next rest =>
    obtain ⟨locks, ready, left⟩ := leave_eq (scheduler.goOn task next) key task.ticket
    dsimp only
    rw [left]
    exact holds
  | read rest => exact holds
  | @commit β change next permitted rest =>
    obtain ⟨order, yielded⟩ :=
      yield_eq ((scheduler.transact change).2.goOn task (next (scheduler.transact change).1))
        task.ticket
    dsimp only
    rw [yielded]
    show inv (scheduler.transact change).2.store.tables
    rcases Upholds.transact_cases scheduler change with
      ⟨failure, _, same⟩ | ⟨result, tables, done, _, stored⟩
    · rw [same]
      exact holds
    · rw [stored]
      exact permitted holds done
  | emit rest => exact holds
  | measure rest =>
    obtain ⟨metrics, counted⟩ := count_eq scheduler _
    dsimp only
    rw [counted]
    exact holds
  | stamp rest => exact holds

/-- What holds at first and outlasts every move holds before every move. -/
theorem Interleaving.holds_before {A : Type} {offered : Program A → Prop}
    {first last : Scheduler A} {moves : List (Move A)}
    (interleaving : Interleaving offered first moves last) (inv : Tables → Prop)
    (holds : inv first.store.tables)
    (outlasts : ∀ move ∈ moves, inv move.before.store.tables → inv move.after.store.tables) :
    ∀ move ∈ moves, inv move.before.store.tables := by
  induction interleaving with
  | rest scheduler => exact List.forall_mem_nil _
  | started allowed further ih => exact ih holds outlasts
  | moved valid further ih =>
    obtain ⟨now, later⟩ := List.forall_mem_cons.1 outlasts
    exact List.forall_mem_cons.2 ⟨holds, ih (now holds) later⟩
  | passed waiting gone further ih => exact ih holds outlasts
  | @cancelled scheduler last moves ticket further ih =>
    refine ih ?_ outlasts
    obtain ⟨locks, ready, broken⟩ := Scheduler.cancel_eq scheduler ticket
    rw [broken]
    exact holds
  | surrounded collaborators files further ih => exact ih holds outlasts

end FibrePool
