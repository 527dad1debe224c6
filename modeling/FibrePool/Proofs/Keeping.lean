import FibrePool.Proofs.Alone

/-!
# Statements that programs keep

A statement about the tables is kept by a program when every transaction of the program leads from
tables of which it is true to tables of which it is true again, whatever happens between two steps:
the tables a step meets are only known to satisfy the statement, and a transaction may fail for
reasons of its own or because it could not be saved.  So what a program keeps is kept when it runs
alone (`Program.Keeps.alone`) and also when its steps are mixed with those of others.

The answers of other systems and the identities given out may be restricted to expected ones; where
nothing is said about them everything is expected.
-/

namespace FibrePool

set_option autoImplicit false

/-- The transaction leads from tables with `inv` to tables with `inv`. -/
def Transaction.Keeps {α : Type} (change : Transaction α) (inv : Tables → Prop) : Prop :=
  ∀ ⦃tables : Tables⦄ ⦃result : α⦄ ⦃after : Tables⦄,
    inv tables → change tables = .ok (result, after) → inv after

theorem Transaction.keeps_forall {α ι : Type} {change : Transaction α} {inv : ι → Tables → Prop}
    (each : ∀ index, change.Keeps (inv index)) :
    change.Keeps fun tables => ∀ index, inv index tables :=
  fun _ _ _ holds changed index => each index (holds index) changed

namespace Program

variable {α β : Type} {expected : Observation → Prop} {inv : Tables → Prop} {post : α → Prop}

/-- As long as what it gets from outside is expected, every transaction of the program keeps `inv`,
and what the program ends with satisfies `post`. -/
def Keeps (expected : Observation → Prop) (inv : Tables → Prop) :
    Program α → (α → Prop) → Prop
  | done value, post => post value
  | again, _ => True
  | acquire _ next, post => next.Keeps expected inv post
  | release _ next, post => next.Keeps expected inv post
  | read next, post => ∀ tables, inv tables → (next tables).Keeps expected inv post
  | commit change next, post =>
    (∀ tables result after, inv tables → change tables = .ok (result, after) →
      inv after ∧ (next (.ok result)).Keeps expected inv post) ∧
    ∀ failure, (next (.error failure)).Keeps expected inv post
  | call request next, post => ∀ answer, expected (.called request answer) →
    (next answer).Keeps expected inv post
  | emit _ next, post => next.Keeps expected inv post
  | measure _ next, post => next.Keeps expected inv post
  | stamp next, post => ∀ fresh, expected (.stamped fresh) → (next fresh).Keeps expected inv post

theorem keeps_bind {program : Program β} {next : β → Program α} :
    (program.bind next).Keeps expected inv post ↔
      program.Keeps expected inv fun value => (next value).Keeps expected inv post := by
  induction program with
  | done value => exact Iff.rfl
  | again => exact Iff.rfl
  | acquire key rest ih => exact ih
  | release key rest ih => exact ih
  | read rest ih => exact forall₂_congr fun tables _ => ih tables
  | commit change rest ih =>
    refine and_congr ?_ (forall_congr' fun failure => ih (.error failure))
    refine forall₃_congr fun tables result after => forall₂_congr fun _ _ => ?_
    exact and_congr Iff.rfl (ih (.ok result))
  | call request rest ih => exact forall₂_congr fun answer _ => ih answer
  | emit event rest ih => exact ih
  | measure taken rest ih => exact ih
  | stamp rest ih => exact forall₂_congr fun fresh _ => ih fresh

theorem Keeps.mono {program : Program α} {post' : α → Prop}
    (keeps : program.Keeps expected inv post) (implies : ∀ value, post value → post' value) :
    program.Keeps expected inv post' := by
  induction program with
  | done value => exact implies value keeps
  | again => exact keeps
  | acquire key rest ih => exact ih keeps
  | release key rest ih => exact ih keeps
  | read rest ih => exact fun tables holds => ih tables (keeps tables holds)
  | commit change rest ih =>
    obtain ⟨onResult, onFailure⟩ := keeps
    refine ⟨fun tables result after holds changed => ?_, fun failure => ?_⟩
    · exact (onResult tables result after holds changed).imp_right (ih (.ok result))
    · exact ih (.error failure) (onFailure failure)
  | call request rest ih => exact fun answer sound => ih answer (keeps answer sound)
  | emit event rest ih => exact ih keeps
  | measure taken rest ih => exact ih keeps
  | stamp rest ih => exact fun fresh sound => ih fresh (keeps fresh sound)

/-- **What a program keeps is true of the tables it leaves when it runs alone**, provided that
everything it got from outside was expected. -/
theorem Keeps.alone {program : Program α} (keeps : program.Keeps expected inv post)
    (around : Surroundings) {scene : Scene} (holds : inv scene.tables)
    (sound : ∀ observation ∈ (program.alone around scene).2.seen, expected observation) :
    inv (program.alone around scene).2.tables ∧
      ∀ value, (program.alone around scene).1 = some value → post value := by
  induction program generalizing scene with
  | done value =>
    refine ⟨holds, fun other same => ?_⟩
    cases same
    exact keeps
  | again => exact ⟨holds, fun value same => by cases same⟩
  | acquire key rest ih => exact ih keeps holds sound
  | release key rest ih => exact ih keeps holds sound
  | read rest ih => exact ih _ (keeps scene.tables holds) holds sound
  | commit change rest ih =>
    obtain ⟨onResult, onFailure⟩ := keeps
    simp only [Program.alone] at sound ⊢
    split at sound
    · next result tables changed =>
      obtain ⟨kept, further⟩ := onResult _ result tables holds changed
      exact ih _ further kept sound
    · next failure failed => exact ih _ (onFailure failure) holds sound
  | call request rest ih =>
    have noted : expected (.called request (around.answer scene.seen request)) := by
      refine sound _ ((seen_prefix_alone around (rest _) (scene.note _)).subset ?_)
      exact List.mem_append_right _ List.mem_cons_self
    exact ih _ (keeps _ noted) holds sound
  | emit event rest ih => exact ih keeps holds sound
  | measure taken rest ih => exact ih keeps holds sound
  | stamp rest ih =>
    have noted : expected (.stamped (around.stamp scene.seen)) := by
      refine sound _ ((seen_prefix_alone around (rest _) (scene.note _)).subset ?_)
      exact List.mem_append_right _ List.mem_cons_self
    exact ih _ (keeps _ noted) holds sound

end Program

/-! ## Workflows that keep a statement -/

namespace Workflow

variable {α β : Type} {expected : Observation → Prop} {inv : Tables → Prop}

/-- The workflow keeps `inv`, however it ends. -/
def Preserves (expected : Observation → Prop) (inv : Tables → Prop) (workflow : Workflow α) :
    Prop :=
  workflow.run.Keeps expected inv fun _ => True

theorem Preserves.keeps {workflow : Workflow α} (preserves : workflow.Preserves expected inv) :
    workflow.run.Keeps expected inv fun _ => True := preserves

/-- **What a workflow preserves is true of the tables it leaves when it runs alone.** -/
theorem Preserves.alone {workflow : Workflow α} (preserves : workflow.Preserves expected inv)
    {around : Surroundings} {scene after : Scene} {outcome : Option (Outcome α)}
    (run : workflow.run.alone around scene = (outcome, after)) (holds : inv scene.tables)
    (sound : ∀ observation ∈ after.seen, expected observation) : inv after.tables := by
  have kept := Program.Keeps.alone preserves around holds
  rw [run] at kept
  exact (kept sound).1

/-- A workflow that ends in a certain way leaves in addition what it preserves. -/
theorem Preserves.ends {workflow : Workflow α} (preserves : workflow.Preserves (fun _ => True) inv)
    {around : Surroundings} {scene : Scene} (holds : inv scene.tables)
    {good : α → Scene → Prop} {bad : Failure → Scene → Prop}
    (ends : workflow.Ends around scene good bad) :
    workflow.Ends around scene (fun value after => inv after.tables ∧ good value after)
      fun failure after => inv after.tables ∧ bad failure after := by
  obtain ⟨outcome, after, run⟩ := ends.exists_outcome
  have kept : inv after.tables := preserves.alone run holds fun _ _ => trivial
  refine ends_of_run run ?_ ?_
  · rintro value rfl
    exact ⟨kept, ends.of_ok run⟩
  · rintro failure rfl
    exact ⟨kept, ends.of_error run⟩

theorem preserves_pure (value : α) : (pure value : Workflow α).Preserves expected inv := trivial

theorem preserves_throw (failure : Failure) :
    (throw failure : Workflow α).Preserves expected inv := trivial

theorem Preserves.bind {workflow : Workflow β} {next : β → Workflow α}
    (first : workflow.Preserves expected inv)
    (rest : ∀ value, (next value).Preserves expected inv) :
    (workflow >>= next).Preserves expected inv := by
  refine Program.keeps_bind.2 (Program.Keeps.mono first fun outcome _ => ?_)
  cases outcome with
  | ok value => exact rest value
  | error failure => trivial

theorem Preserves.map {workflow : Workflow β} (preserves : workflow.Preserves expected inv)
    (change : β → α) : (change <$> workflow).Preserves expected inv := by
  rw [map_eq_pure_bind]
  exact preserves.bind fun value => preserves_pure (change value)

theorem preserves_ofOutcome (outcome : Outcome α) : (ofOutcome outcome).Preserves expected inv :=
  trivial

/-- What follows a check may rely on its result. -/
theorem preserves_ofOutcome_bind {outcome : Outcome β} {next : β → Workflow α}
    (rest : ∀ value, outcome = .ok value → (next value).Preserves expected inv) :
    (ofOutcome outcome >>= next).Preserves expected inv := by
  cases outcome with
  | ok value => exact rest value rfl
  | error failure => trivial

theorem preserves_ask (question : Tables → α) : (ask question).Preserves expected inv :=
  fun _ _ => trivial

theorem preserves_askFor (question : Tables → Outcome α) :
    (askFor question).Preserves expected inv := fun _ _ => trivial

theorem preserves_commit {change : Transaction α} (keeps : change.Keeps inv) :
    (commit change).Preserves expected inv :=
  ⟨fun _ _ _ holds changed => ⟨keeps holds changed, trivial⟩, fun _ => trivial⟩

theorem preserves_call (request : Call) : (call request).Preserves expected inv :=
  fun _ _ => trivial

/-- What follows a call may rely on its answer being expected. -/
theorem preserves_call_bind {request : Call} {next : request.Answer → Workflow α}
    (rest : ∀ value, expected (.called request (.ok value)) →
      (next value).Preserves expected inv) :
    (call request >>= next).Preserves expected inv := by
  intro answer sound
  cases answer with
  | ok value => exact rest value sound
  | error failure => trivial

theorem preserves_emit (event : Event) : (emit event).Preserves expected inv := trivial

theorem preserves_measure (taken : Measure) : (measure taken).Preserves expected inv := trivial

/-- What follows a fresh identity may rely on its being expected. -/
theorem preserves_stamp_bind {next : Stamp → Workflow α}
    (rest : ∀ fresh, expected (.stamped fresh) → (next fresh).Preserves expected inv) :
    (stamp >>= next).Preserves expected inv := rest

theorem Preserves.outcome {workflow : Workflow α} (preserves : workflow.Preserves expected inv) :
    workflow.outcome.Preserves expected inv :=
  Program.keeps_bind.2 (Program.Keeps.mono preserves fun _ _ => trivial)

theorem Preserves.adapt {workflow : Workflow α} (preserves : workflow.Preserves expected inv)
    (change : Failure → Failure) : Preserves expected inv (workflow.adapt change) := by
  have kept : (workflow.run.bind fun outcome => .done (outcome.mapError change)).Keeps expected
      inv fun _ => True :=
    Program.keeps_bind.2 (Program.Keeps.mono preserves fun _ _ => trivial)
  exact kept

theorem Preserves.holding {workflow : Workflow α} (preserves : workflow.Preserves expected inv)
    (key : String) : (holding key workflow).Preserves expected inv :=
  Program.keeps_bind.2 (Program.Keeps.mono preserves fun _ _ => trivial)

theorem Preserves.holdingAll {workflow : Workflow α} (preserves : workflow.Preserves expected inv)
    (keys : List String) : (holdingAll keys workflow).Preserves expected inv := by
  have freed (outcome : Outcome α) : (keys.foldr Program.release (.done outcome)).Keeps expected
      inv fun _ => True := by
    induction keys with
    | nil => trivial
    | cons key keys ih => exact ih
  have taken (program : Program (Outcome α)) (keeps : program.Keeps expected inv fun _ => True) :
      (keys.foldr Program.acquire program).Keeps expected inv fun _ => True := by
    clear freed
    induction keys with
    | nil => exact keeps
    | cons key keys ih => exact ih
  exact taken _ (Program.keeps_bind.2 (Program.Keeps.mono preserves fun outcome _ => freed outcome))

theorem preserves_mapM {items : List β} {step : β → Workflow α}
    (each : ∀ item ∈ items, (step item).Preserves expected inv) :
    (items.mapM step).Preserves expected inv := by
  induction items with
  | nil => exact preserves_pure []
  | cons item items ih =>
    rw [List.mapM_cons]
    refine (each item List.mem_cons_self).bind fun value => ?_
    refine (ih fun other member => each other (List.mem_cons_of_mem _ member)).bind fun values => ?_
    exact preserves_pure (value :: values)

theorem preserves_again : (ofProgram .again : Workflow α).Preserves expected inv := trivial

/-! ## Results that can be relied on -/

/-- The workflow keeps `inv`, and a result that comes of it is `good`. -/
def Delivers (expected : Observation → Prop) (inv : Tables → Prop) (workflow : Workflow α)
    (good : α → Prop) : Prop :=
  workflow.run.Keeps expected inv fun outcome => ∀ value, outcome = .ok value → good value

section Delivering

variable {good : α → Prop} {usable : β → Prop}

theorem Delivers.preserves {workflow : Workflow α}
    (delivers : workflow.Delivers expected inv good) : workflow.Preserves expected inv :=
  Program.Keeps.mono delivers fun _ _ => trivial

theorem Preserves.delivers {workflow : Workflow α} (preserves : workflow.Preserves expected inv) :
    workflow.Delivers expected inv fun _ => True :=
  Program.Keeps.mono preserves fun _ _ _ _ => trivial

theorem delivers_pure {value : α} (holds : good value) :
    (pure value : Workflow α).Delivers expected inv good := by
  rintro _ ⟨⟩
  exact holds

theorem delivers_throw (failure : Failure) :
    (throw failure : Workflow α).Delivers expected inv good := by
  rintro _ ⟨⟩

theorem delivers_commit {change : Transaction α} (keeps : change.Keeps inv)
    (results : ∀ tables result after, inv tables → change tables = .ok (result, after) →
      good result) : (commit change).Delivers expected inv good := by
  refine ⟨fun tables result after holds changed => ⟨keeps holds changed, ?_⟩, fun failure => ?_⟩
  · rintro _ ⟨⟩
    exact results tables result after holds changed
  · rintro _ ⟨⟩

/-- What follows may rely on a result that was delivered. -/
theorem Delivers.bind {workflow : Workflow β} {next : β → Workflow α}
    (first : workflow.Delivers expected inv usable)
    (rest : ∀ value, usable value → (next value).Delivers expected inv good) :
    (workflow >>= next).Delivers expected inv good := by
  refine Program.keeps_bind.2 (Program.Keeps.mono first fun outcome found => ?_)
  cases outcome with
  | ok value => exact rest value (found value rfl)
  | error failure => rintro _ ⟨⟩

theorem Delivers.bind_preserves {workflow : Workflow β} {next : β → Workflow α}
    (first : workflow.Delivers expected inv usable)
    (rest : ∀ value, usable value → (next value).Preserves expected inv) :
    (workflow >>= next).Preserves expected inv :=
  (first.bind fun value found => (rest value found).delivers).preserves

theorem Delivers.outcome {workflow : Workflow α}
    (delivers : workflow.Delivers expected inv good) :
    workflow.outcome.Delivers expected inv fun outcome => ∀ value, outcome = .ok value →
      good value := by
  refine Program.keeps_bind.2 (Program.Keeps.mono delivers fun outcome found => ?_)
  rintro _ ⟨⟩
  exact found

end Delivering

-- Followed from here on through the statements above only: a program is never run by unfolding.
attribute [irreducible] Preserves Delivers

end Workflow

end FibrePool
