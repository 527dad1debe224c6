import FibrePool.Task.Program

/-!
# Programs that run alone

A program that nobody interferes with runs from its first step to its last on tables that only it
changes.  What it gets from outside are the answers to its calls and the identities of new
templates; its surroundings choose them freely and may look at everything seen so far, so a
statement about all surroundings is one about every pattern of answers.

What is seen of a program from outside is the list of its calls with their answers, of what
listeners were told, of the measures taken and of the identities given out.  Locks are always free
for a program that runs alone, so taking one and giving it back is not seen.

`Workflow.Ends` says of a workflow that it comes to an end and in which way.  It is computed from
the parts of the workflow by the equivalences of this module, so that a statement about a long
workflow becomes one about the answers it may get.
-/

namespace FibrePool

set_option autoImplicit false

/-! ## What is seen of a program -/

/-- Something that is seen of a program from outside. -/
inductive Observation where
  | called (request : Call) (answer : Outcome request.Answer)
  | told (event : Event)
  | measured (measure : Measure)
  | stamped (stamp : Stamp)

/-- Whether this is the answer of a guest that it has removed a volume. -/
def Observation.isRemoval : Observation → Bool
  | .called (.configureDetach _) (.ok _) => true
  | _ => false

/-- Whether something is asked of another system. -/
def Observation.isCall : Observation → Bool
  | .called _ _ => true
  | _ => false

/-- What surrounds a program: it answers calls and gives out identities, knowing what was seen. -/
structure Surroundings where
  answer : List Observation → (request : Call) → Outcome request.Answer
  stamp : List Observation → Stamp

/-- The tables a program runs on, with what was seen of it so far. -/
structure Scene where
  tables : Tables
  seen : List Observation := []

namespace Scene

/-- The scene after one more observation. -/
def note (scene : Scene) (observation : Observation) : Scene :=
  { scene with seen := scene.seen ++ [observation] }

@[simp] theorem note_tables (scene : Scene) (observation : Observation) :
    (scene.note observation).tables = scene.tables := rfl

@[simp] theorem note_seen (scene : Scene) (observation : Observation) :
    (scene.note observation).seen = scene.seen ++ [observation] := rfl

/-- Whether a guest has removed a volume. -/
def guestRemoved (scene : Scene) : Bool := scene.seen.any Observation.isRemoval

@[simp] theorem note_guestRemoved (scene : Scene) (observation : Observation) :
    (scene.note observation).guestRemoved = (scene.guestRemoved || observation.isRemoval) := by
  rw [guestRemoved, guestRemoved, note_seen, List.any_append, List.any_cons, List.any_nil,
    Bool.or_false]

/-- The calls that were made, with their answers. -/
def calls (scene : Scene) : List Observation := scene.seen.filter Observation.isCall

@[simp] theorem note_calls (scene : Scene) (observation : Observation) :
    (scene.note observation).calls =
      scene.calls ++ if observation.isCall then [observation] else [] := by
  rw [calls, calls, note_seen, List.filter_append, List.filter_cons, List.filter_nil]

theorem guestRemoved_eq_any_calls (scene : Scene) :
    scene.guestRemoved = scene.calls.any Observation.isRemoval := by
  rw [guestRemoved, calls, List.any_filter]
  congr 1
  funext observation
  cases observation <;> rfl

/-- The tables are now `tables`, and no guest has removed a volume since the scene before. -/
def LeadsTo (before : Scene) (tables : Tables) (after : Scene) : Prop :=
  after.tables = tables ∧ after.guestRemoved = before.guestRemoved

theorem leadsTo_self (scene : Scene) : scene.LeadsTo scene.tables scene := ⟨rfl, rfl⟩

/-- Anything else may be seen in between. -/
theorem LeadsTo.note {before after : Scene} {tables : Tables} (leads : before.LeadsTo tables after)
    {observation : Observation} (other : observation.isRemoval = false) :
    before.LeadsTo tables (after.note observation) := by
  refine ⟨leads.1, ?_⟩
  rw [note_guestRemoved, other, Bool.or_false]
  exact leads.2

/-- The tables are now `tables`, and nothing has been asked of another system since the scene
before. -/
def StepsTo (before : Scene) (tables : Tables) (after : Scene) : Prop :=
  after.tables = tables ∧ after.calls = before.calls

theorem stepsTo_self (scene : Scene) : scene.StepsTo scene.tables scene := ⟨rfl, rfl⟩

theorem StepsTo.trans {first middle last : Scene} {tables tables' : Tables}
    (earlier : first.StepsTo tables middle) (later : middle.StepsTo tables' last) :
    first.StepsTo tables' last := ⟨later.1, later.2.trans earlier.2⟩

theorem StepsTo.leadsTo {before after : Scene} {tables : Tables}
    (steps : before.StepsTo tables after) : before.LeadsTo tables after := by
  refine ⟨steps.1, ?_⟩
  rw [guestRemoved_eq_any_calls, guestRemoved_eq_any_calls, steps.2]

end Scene

/-! ## Running a program alone -/

namespace Program

variable {α β : Type}

/-- Runs a program to its end, or to the point where it gives its attempt up. -/
def alone (around : Surroundings) : Program α → Scene → Option α × Scene
  | done value, scene => (some value, scene)
  | again, scene => (none, scene)
  | acquire _ next, scene => next.alone around scene
  | release _ next, scene => next.alone around scene
  | read next, scene => (next scene.tables).alone around scene
  | commit change next, scene =>
    match change scene.tables with
    | .ok (result, tables) => (next (.ok result)).alone around { scene with tables }
    | .error failure => (next (.error failure)).alone around scene
  | call request next, scene =>
    let answer := around.answer scene.seen request
    (next answer).alone around (scene.note (.called request answer))
  | emit event next, scene => next.alone around (scene.note (.told event))
  | measure taken next, scene => next.alone around (scene.note (.measured taken))
  | stamp next, scene =>
    let fresh := around.stamp scene.seen
    (next fresh).alone around (scene.note (.stamped fresh))

theorem bind_done (program : Program α) : program.bind done = program := by
  induction program with
  | done value => rfl
  | again => rfl
  | acquire key next ih => rw [bind, ih]
  | release key next ih => rw [bind, ih]
  | read next ih => rw [bind, funext ih]
  | commit change next ih => rw [bind, funext ih]
  | call request next ih => rw [bind, funext ih]
  | emit event next ih => rw [bind, ih]
  | measure taken next ih => rw [bind, ih]
  | stamp next ih => rw [bind, funext ih]

theorem bind_bind {γ : Type} (program : Program α) (first : α → Program β)
    (second : β → Program γ) :
    (program.bind first).bind second = program.bind fun value => (first value).bind second := by
  induction program with
  | done value => rfl
  | again => rfl
  | acquire key next ih => rw [bind, bind, ih, bind]
  | release key next ih => rw [bind, bind, ih, bind]
  | read next ih => rw [bind, bind, funext ih, bind]
  | commit change next ih => rw [bind, bind, funext ih, bind]
  | call request next ih => rw [bind, bind, funext ih, bind]
  | emit event next ih => rw [bind, bind, ih, bind]
  | measure taken next ih => rw [bind, bind, ih, bind]
  | stamp next ih => rw [bind, bind, funext ih, bind]

instance : LawfulMonad Program :=
  LawfulMonad.mk' Program bind_done (fun _ _ => rfl) bind_bind

theorem alone_bind (around : Surroundings) (program : Program α) (next : α → Program β)
    (scene : Scene) :
    (program.bind next).alone around scene =
      match program.alone around scene with
      | (some value, after) => (next value).alone around after
      | (none, after) => (none, after) := by
  induction program generalizing scene with
  | done value => rfl
  | again => rfl
  | acquire key rest ih => exact ih scene
  | release key rest ih => exact ih scene
  | read rest ih => exact ih scene.tables scene
  | commit change rest ih =>
    simp only [bind, alone]
    cases change scene.tables with
    | ok changed => exact ih (.ok changed.1) _
    | error failure => exact ih (.error failure) scene
  | call request rest ih => exact ih _ _
  | emit event rest ih => exact ih _
  | measure taken rest ih => exact ih _
  | stamp rest ih => exact ih _ _

/-- What was seen stays seen. -/
theorem seen_prefix_alone (around : Surroundings) (program : Program α) (scene : Scene) :
    scene.seen <+: (program.alone around scene).2.seen := by
  induction program generalizing scene with
  | done value => exact List.prefix_refl _
  | again => exact List.prefix_refl _
  | acquire key rest ih => exact ih scene
  | release key rest ih => exact ih scene
  | read rest ih => exact ih scene.tables scene
  | commit change rest ih =>
    simp only [alone]
    cases change scene.tables with
    | ok changed => exact ih (.ok changed.1) { scene with tables := changed.2 }
    | error failure => exact ih (.error failure) scene
  | call request rest ih =>
    exact List.IsPrefix.trans (List.prefix_append _ _)
      (ih _ (scene.note (.called request (around.answer scene.seen request))))
  | emit event rest ih =>
    exact List.IsPrefix.trans (List.prefix_append _ _) (ih (scene.note (.told event)))
  | measure taken rest ih =>
    exact List.IsPrefix.trans (List.prefix_append _ _) (ih (scene.note (.measured taken)))
  | stamp rest ih =>
    exact List.IsPrefix.trans (List.prefix_append _ _)
      (ih _ (scene.note (.stamped (around.stamp scene.seen))))

end Program

/-! ## How a workflow ends -/

namespace Workflow

variable {α β : Type} {around : Surroundings} {scene : Scene}
  {good : α → Scene → Prop} {bad : Failure → Scene → Prop}

/-- Run alone, the workflow comes to an end: its result and the scene it leaves are `good`, or its
failure and that scene are `bad`. -/
def Ends (around : Surroundings) (workflow : Workflow α) (scene : Scene)
    (good : α → Scene → Prop) (bad : Failure → Scene → Prop) : Prop :=
  match workflow.run.alone around scene with
  | (some (.ok value), after) => good value after
  | (some (.error failure), after) => bad failure after
  | (none, _) => False

theorem Ends.exists_outcome {workflow : Workflow α} (ends : workflow.Ends around scene good bad) :
    ∃ outcome after, workflow.run.alone around scene = (some outcome, after) := by
  unfold Ends at ends
  split at ends
  · next value after run => exact ⟨.ok value, after, run⟩
  · next failure after run => exact ⟨.error failure, after, run⟩
  · exact ends.elim

theorem Ends.of_ok {workflow : Workflow α} (ends : workflow.Ends around scene good bad)
    {value : α} {after : Scene}
    (run : workflow.run.alone around scene = (some (.ok value), after)) : good value after := by
  rw [Ends, run] at ends
  exact ends

theorem Ends.of_error {workflow : Workflow α} (ends : workflow.Ends around scene good bad)
    {failure : Failure} {after : Scene}
    (run : workflow.run.alone around scene = (some (.error failure), after)) :
    bad failure after := by
  rw [Ends, run] at ends
  exact ends

/-- What is true of every end of a workflow is true of the one that it comes to. -/
theorem Ends.exists_run {workflow : Workflow α} (post : Outcome α → Scene → Prop)
    (ends : workflow.Ends around scene (fun value after => post (.ok value) after)
      fun failure after => post (.error failure) after) :
    ∃ outcome after, workflow.run.alone around scene = (some outcome, after) ∧
      post outcome after := by
  obtain ⟨outcome, after, run⟩ := ends.exists_outcome
  refine ⟨outcome, after, run, ?_⟩
  cases outcome with
  | ok value => exact ends.of_ok run
  | error failure => exact ends.of_error run

/-- A workflow ends in a certain way when that is what becomes of its run. -/
theorem ends_of_run {workflow : Workflow α} {outcome : Outcome α} {after : Scene}
    (run : workflow.run.alone around scene = (some outcome, after))
    (onResult : ∀ value, outcome = .ok value → good value after)
    (onFailure : ∀ failure, outcome = .error failure → bad failure after) :
    workflow.Ends around scene good bad := by
  rw [Ends, run]
  cases outcome with
  | ok value => exact onResult value rfl
  | error failure => exact onFailure failure rfl

theorem Ends.mono {workflow : Workflow α} (ends : workflow.Ends around scene good bad)
    {good' : α → Scene → Prop} {bad' : Failure → Scene → Prop}
    (onResult : ∀ value after, good value after → good' value after)
    (onFailure : ∀ failure after, bad failure after → bad' failure after) :
    workflow.Ends around scene good' bad' := by
  unfold Ends at ends ⊢
  split at ends
  · exact onResult _ _ ends
  · exact onFailure _ _ ends
  · exact ends

/-- What two statements say about the end of a workflow is true of it at once. -/
theorem Ends.and {workflow : Workflow α} (first : workflow.Ends around scene good bad)
    {good' : α → Scene → Prop} {bad' : Failure → Scene → Prop}
    (second : workflow.Ends around scene good' bad') :
    workflow.Ends around scene (fun value after => good value after ∧ good' value after)
      fun failure after => bad failure after ∧ bad' failure after := by
  obtain ⟨outcome, after, run⟩ := first.exists_outcome
  refine ends_of_run run ?_ ?_
  · rintro value rfl
    exact ⟨first.of_ok run, second.of_ok run⟩
  · rintro failure rfl
    exact ⟨first.of_error run, second.of_error run⟩

@[simp] theorem ends_pure (value : α) :
    Ends around (pure value : Workflow α) scene good bad ↔ good value scene := Iff.rfl

@[simp] theorem ends_throw (failure : Failure) :
    Ends around (throw failure : Workflow α) scene good bad ↔ bad failure scene := Iff.rfl

/-- **A sequence of two workflows ends as the second does after the first.** -/
@[simp] theorem ends_bind (workflow : Workflow β) (next : β → Workflow α) :
    Ends around (workflow >>= next) scene good bad ↔
      workflow.Ends around scene (fun value after => (next value).Ends around after good bad)
        bad := by
  have sequence : (workflow >>= next).run.alone around scene =
      match workflow.run.alone around scene with
      | (some (.ok value), after) => (next value).run.alone around after
      | (some (.error failure), after) => (some (.error failure), after)
      | (none, after) => (none, after) := by
    refine (Program.alone_bind around workflow.run (ExceptT.bindCont next) scene).trans ?_
    rcases workflow.run.alone around scene with ⟨_ | _ | _, after⟩ <;> rfl
  rw [Ends, sequence, Ends]
  rcases workflow.run.alone around scene with ⟨_ | _ | _, after⟩ <;> rfl

@[simp] theorem ends_map (change : β → α) (workflow : Workflow β) :
    Ends around (change <$> workflow) scene good bad ↔
      workflow.Ends around scene (fun value after => good (change value) after) bad := by
  rw [map_eq_pure_bind, ends_bind]
  rfl

@[simp] theorem ends_outcome (workflow : Workflow β) {good : Outcome β → Scene → Prop} :
    Ends around workflow.outcome scene good bad ↔
      workflow.Ends around scene (fun value after => good (.ok value) after)
        (fun failure after => good (.error failure) after) := by
  have kept : workflow.outcome.run.alone around scene =
      (workflow.run.bind fun outcome => .done (Except.ok outcome)).alone around scene := rfl
  rw [Ends, kept, Program.alone_bind, Ends]
  rcases workflow.run.alone around scene with ⟨_ | _ | _, after⟩ <;> rfl

@[simp] theorem ends_ofOutcome (outcome : Outcome α) :
    Ends around (ofOutcome outcome) scene good bad ↔
      match outcome with
      | .ok value => good value scene
      | .error failure => bad failure scene := by
  cases outcome <;> rfl

@[simp] theorem ends_ask (question : Tables → α) :
    Ends around (ask question) scene good bad ↔ good (question scene.tables) scene := Iff.rfl

@[simp] theorem ends_askFor (question : Tables → Outcome α) :
    Ends around (askFor question) scene good bad ↔
      match question scene.tables with
      | .ok value => good value scene
      | .error failure => bad failure scene := by
  unfold Ends askFor
  simp only [ofProgram, ExceptT.run, ExceptT.mk, Program.alone]
  cases question scene.tables <;> rfl

@[simp] theorem ends_commit (change : Transaction α) :
    Ends around (commit change) scene good bad ↔
      match change scene.tables with
      | .ok (result, tables) => good result { scene with tables }
      | .error failure => bad failure scene := by
  unfold Ends commit
  simp only [ofProgram, ExceptT.run, ExceptT.mk, Program.alone]
  cases change scene.tables <;> rfl

@[simp] theorem ends_call (request : Call) {good : request.Answer → Scene → Prop} :
    Ends around (call request) scene good bad ↔
      match around.answer scene.seen request with
      | .ok value => good value (scene.note (.called request (.ok value)))
      | .error failure => bad failure (scene.note (.called request (.error failure))) := by
  unfold Ends call
  simp only [ofProgram, ExceptT.run, ExceptT.mk, Program.alone]
  cases around.answer scene.seen request <;> rfl

@[simp] theorem ends_emit (event : Event) {good : Unit → Scene → Prop} :
    Ends around (emit event) scene good bad ↔ good () (scene.note (.told event)) := Iff.rfl

@[simp] theorem ends_measure (taken : Measure) {good : Unit → Scene → Prop} :
    Ends around (measure taken) scene good bad ↔ good () (scene.note (.measured taken)) := Iff.rfl

@[simp] theorem ends_stamp {good : Stamp → Scene → Prop} :
    Ends around stamp scene good bad ↔
      good (around.stamp scene.seen) (scene.note (.stamped (around.stamp scene.seen))) := Iff.rfl

@[simp] theorem ends_holding (key : String) (workflow : Workflow α) :
    Ends around (holding key workflow) scene good bad ↔ workflow.Ends around scene good bad := by
  have taken : (holding key workflow).run.alone around scene =
      (workflow.run.bind fun outcome => .release key (.done outcome)).alone around scene := rfl
  rw [Ends, taken, Program.alone_bind, Ends]
  rcases workflow.run.alone around scene with ⟨_ | _ | _, after⟩ <;> rfl

@[simp] theorem ends_holdingAll (keys : List String) (workflow : Workflow α) :
    Ends around (holdingAll keys workflow) scene good bad ↔
      workflow.Ends around scene good bad := by
  have taken (program : Program (Outcome α)) (before : Scene) :
      (keys.foldr .acquire program).alone around before = program.alone around before := by
    induction keys with
    | nil => rfl
    | cons key keys ih => exact ih
  have freed (program : Program (Outcome α)) (before : Scene) :
      (keys.foldr .release program).alone around before = program.alone around before := by
    clear taken
    induction keys with
    | nil => rfl
    | cons key keys ih => exact ih
  have whole : (holdingAll keys workflow).run.alone around scene =
      (workflow.run.bind fun outcome => keys.foldr .release (.done outcome)).alone around scene :=
    taken _ scene
  rw [Ends, whole, Program.alone_bind, Ends]
  rcases workflow.run.alone around scene with ⟨_ | outcome, after⟩
  · rfl
  · simp only [freed]
    cases outcome <;> rfl

@[simp] theorem ends_adapt (change : Failure → Failure) (workflow : Workflow α) :
    Ends around (workflow.adapt change) scene good bad ↔
      workflow.Ends around scene good (fun failure after => bad (change failure) after) := by
  rw [Ends, Ends]
  rw [show (workflow.adapt change).run.alone around scene = _ from
    Program.alone_bind around workflow.run _ scene]
  rcases workflow.run.alone around scene with ⟨_ | _ | _, after⟩ <;> rfl

/-- A workflow over a list ends well when each of its steps leads from what is true with an item
still to come to what is true without it, where the results so far may be spoken of. -/
theorem ends_mapM_results {ι : Type} {step : ι → Workflow α}
    (inv : List ι → List α → Scene → Prop)
    (steps : ∀ item rest values scene, inv (item :: rest) values scene →
      (step item).Ends around scene (fun value after => inv rest (values ++ [value]) after) bad)
    {items : List ι} (start : inv items [] scene) :
    (items.mapM step).Ends around scene (fun values after => inv [] values after) bad := by
  suffices onward : ∀ earlier, inv items earlier scene → (items.mapM step).Ends around scene
      (fun values after => inv [] (earlier ++ values) after) bad from onward [] start
  clear start
  intro earlier start
  induction items generalizing scene earlier with
  | nil =>
    rw [List.mapM_nil, ends_pure, List.append_nil]
    exact start
  | cons item rest ih =>
    rw [List.mapM_cons, ends_bind]
    refine (steps item rest earlier scene start).mono (fun value after left => ?_) fun _ _ => id
    rw [ends_bind]
    refine (ih _ left).mono (fun values final ended => ?_) fun _ _ => id
    rw [List.append_assoc] at ended
    exact (ends_pure _).2 ended

/-- Each step may say something about its result. -/
theorem ends_mapM_all {ι : Type} {step : ι → Workflow α} (inv : List ι → Scene → Prop)
    (valid : α → Prop) (steps : ∀ item rest scene, inv (item :: rest) scene →
      (step item).Ends around scene (fun value after => inv rest after ∧ valid value) bad)
    {items : List ι} (start : inv items scene) :
    (items.mapM step).Ends around scene
      (fun values after => inv [] after ∧ ∀ value ∈ values, valid value) bad := by
  refine ends_mapM_results (fun left values now => inv left now ∧ ∀ value ∈ values, valid value)
    (fun item rest values now holds => ?_) ⟨start, fun value member => by cases member⟩
  refine (steps item rest now holds.1).mono (fun value after left => ⟨left.1, ?_⟩) fun _ _ => id
  exact List.forall_mem_append.2 ⟨holds.2, List.forall_mem_singleton.2 left.2⟩

theorem ends_mapM {ι : Type} {step : ι → Workflow α} (inv : List ι → Scene → Prop)
    (steps : ∀ item rest scene, inv (item :: rest) scene →
      (step item).Ends around scene (fun _ after => inv rest after) bad)
    {items : List ι} (start : inv items scene) :
    (items.mapM step).Ends around scene (fun _ after => inv [] after) bad := by
  refine (ends_mapM_all inv (fun _ => True) (fun item rest before holds => ?_) start).mono
    (fun _ _ ended => ended.1) fun _ _ => id
  exact (steps item rest before holds).mono (fun _ _ left => ⟨left, trivial⟩) fun _ _ => id

-- Computed from here on by the equivalences above only.
attribute [irreducible] Ends

end Workflow

end FibrePool
