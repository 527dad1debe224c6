import FibrePool.Proofs.Composition

/-!
# What is done outside of the pool

Some calls only look: a listing, and the question whether a guest exists.  The others have the
called system do something, and of all actions only attaches and detaches make such calls.

A passive workflow comes to an end and makes no call of the second kind on the way.  A workflow made
of passive ones is passive (`Workflow.passive_parts`), so the operations of the pool are.
-/

namespace FibrePool

set_option autoImplicit false

open Workflow

/-! ## Passive observations -/

/-- Whether nothing is done by another system. -/
def Observation.isPassive : Observation → Bool
  | .called request _ => !request.acts
  | _ => true

namespace Scene

/-- No other system has done anything between the scenes. -/
def Unmoved (before after : Scene) : Prop :=
  ∃ added, after.seen = before.seen ++ added ∧
    ∀ observation ∈ added, observation.isPassive = true

theorem unmoved_of_seen {before after : Scene} (same : after.seen = before.seen) :
    before.Unmoved after :=
  ⟨[], by rw [same, List.append_nil], fun _ member => by cases member⟩

theorem Unmoved.trans {first middle last : Scene} (earlier : first.Unmoved middle)
    (later : middle.Unmoved last) : first.Unmoved last := by
  obtain ⟨added, same, passive⟩ := earlier
  obtain ⟨added', same', passive'⟩ := later
  refine ⟨added ++ added', ?_, List.forall_mem_append.2 ⟨passive, passive'⟩⟩
  rw [same', same, List.append_assoc]

theorem unmoved_note (scene : Scene) {observation : Observation}
    (passive : observation.isPassive = true) : scene.Unmoved (scene.note observation) :=
  ⟨[observation], rfl, List.forall_mem_singleton.2 passive⟩

end Scene

/-! ## Passive workflows -/

namespace Workflow

variable {α β : Type}

/-- The workflow comes to an end, and no other system does anything on the way. -/
def Passive (workflow : Workflow α) : Prop :=
  ∀ around scene, workflow.Ends around scene (fun _ after => scene.Unmoved after)
    fun _ after => scene.Unmoved after

theorem passive_pure (value : α) : (pure value : Workflow α).Passive := by
  intro around scene
  exact (ends_pure value).2 (Scene.unmoved_of_seen rfl)

theorem passive_throw (failure : Failure) : (throw failure : Workflow α).Passive := by
  intro around scene
  exact (ends_throw failure).2 (Scene.unmoved_of_seen rfl)

theorem Passive.bind {workflow : Workflow β} {next : β → Workflow α} (first : workflow.Passive)
    (rest : ∀ value, (next value).Passive) : (workflow >>= next).Passive := by
  intro around scene
  rw [ends_bind]
  refine (first around scene).mono (fun value middle earlier => ?_) fun _ _ => id
  exact (rest value around middle).mono (fun _ _ later => earlier.trans later)
    fun _ _ later => earlier.trans later

theorem passive_ask (question : Tables → α) : (ask question).Passive := by
  intro around scene
  exact (ends_ask question).2 (Scene.unmoved_of_seen rfl)

theorem passive_askFor (question : Tables → Outcome α) : (askFor question).Passive := by
  intro around scene
  rw [ends_askFor]
  split <;> exact Scene.unmoved_of_seen rfl

theorem passive_commit (change : Transaction α) : (commit change).Passive := by
  intro around scene
  rw [ends_commit]
  split <;> exact Scene.unmoved_of_seen rfl

theorem passive_call {request : Call} (looks : request.acts = false) : (call request).Passive := by
  intro around scene
  have passive (answer : Outcome request.Answer) :
      scene.Unmoved (scene.note (.called request answer)) := by
    refine scene.unmoved_note ?_
    rw [Observation.isPassive, looks, Bool.not_false]
  rw [ends_call]
  split <;> exact passive _

theorem passive_emit (event : Event) : (emit event).Passive := by
  intro around scene
  exact (ends_emit event).2 (scene.unmoved_note rfl)

theorem passive_measure (taken : Measure) : (measure taken).Passive := by
  intro around scene
  exact (ends_measure taken).2 (scene.unmoved_note rfl)

theorem passive_stamp : stamp.Passive := by
  intro around scene
  exact ends_stamp.2 (scene.unmoved_note rfl)

theorem Passive.outcome {workflow : Workflow α} (passive : workflow.Passive) :
    workflow.outcome.Passive := by
  intro around scene
  exact (ends_outcome workflow).2 (passive around scene)

theorem Passive.adapt {workflow : Workflow α} (passive : workflow.Passive)
    (change : Failure → Failure) : Passive (workflow.adapt change) := by
  intro around scene
  exact (ends_adapt change workflow).2 (passive around scene)

theorem Passive.holding {workflow : Workflow α} (passive : workflow.Passive) (key : String) :
    (holding key workflow).Passive := by
  intro around scene
  exact (ends_holding key workflow).2 (passive around scene)

/-- **A workflow made of passive ones is passive**, whatever locks are held. -/
theorem passive_parts : Compositional fun _ {_} workflow => workflow.Passive where
  pure _ _ value := passive_pure value
  throw _ _ failure := passive_throw failure
  bind first rest := first.bind rest
  outcome passive := passive.outcome
  adapt passive change := passive.adapt change
  holding _ passive := passive.holding _
  ask _ _ question := passive_ask question
  askFor _ _ question := passive_askFor question
  commit _ _ change := passive_commit change
  look _ _ looks := passive_call looks
  emit _ event := passive_emit event
  measure _ taken := passive_measure taken
  stamp _ := passive_stamp

end Workflow

end FibrePool
