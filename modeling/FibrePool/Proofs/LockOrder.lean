import FibrePool.Proofs.Composition
import Mathlib.Data.Finset.Lattice.Lemmas

/-!
# The order of locks

Every action takes its locks in the order of their keys: a lock is only asked for when its key comes
after those of all locks that are held, so no action ever waits for a lock that it holds itself, and
actions that wait for one another cannot do so in a circle.  Every action gives back what it took,
and nothing else, before it ends or starts anew (`Volume.dispatch_locks`).

Attaches and detaches also respect the purpose of the lock of their guest: they change the tables
and call other systems only while they hold it (`Volume.IsWorkflow.locks`).
-/

namespace FibrePool

set_option autoImplicit false

open Workflow

/-! ## Programs that take locks in order -/

namespace Program

variable {α β : Type}

/-- Whether the next step changes the tables or calls another system. -/
def acts : Program α → Bool
  | commit _ _ => true
  | call _ _ => true
  | _ => false

/-- A program that holds the locks `held` takes further ones in order, gives back only what it
holds, and ends with the locks `base`, or starts anew without any.  It acts only while it holds the
locks `needed`. -/
def Locks (needed base : Finset String) : Finset String → Program α → Prop
  | held, done _ => held = base
  | held, again => held = ∅
  | held, acquire key next => Below held key ∧ next.Locks needed base (insert key held)
  | held, release key next => key ∈ held ∧ next.Locks needed base (held.erase key)
  | held, read next => ∀ tables, (next tables).Locks needed base held
  | held, commit _ next => needed ⊆ held ∧ ∀ outcome, (next outcome).Locks needed base held
  | held, call _ next => needed ⊆ held ∧ ∀ answer, (next answer).Locks needed base held
  | held, emit _ next => next.Locks needed base held
  | held, measure _ next => next.Locks needed base held
  | held, stamp next => ∀ fresh, (next fresh).Locks needed base held

variable {needed base held : Finset String}

theorem not_mem_of_below {key : String} (below : Below held key) : key ∉ held :=
  fun member => lt_irrefl key (below key member)

theorem locks_bind {program : Program β} {next : β → Program α} {middle : Finset String}
    (first : program.Locks needed middle held)
    (rest : ∀ value, (next value).Locks needed base middle) :
    (program.bind next).Locks needed base held := by
  induction program generalizing held with
  | done value =>
    obtain rfl : held = middle := first
    exact rest value
  | again => exact first
  | acquire key further ih => exact ⟨first.1, ih first.2⟩
  | release key further ih => exact ⟨first.1, ih first.2⟩
  | read further ih => exact fun tables => ih tables (first tables)
  | commit change further ih => exact ⟨first.1, fun outcome => ih outcome (first.2 outcome)⟩
  | call request further ih => exact ⟨first.1, fun answer => ih answer (first.2 answer)⟩
  | emit event further ih => exact ih first
  | measure taken further ih => exact ih first
  | stamp further ih => exact fun fresh => ih fresh (first fresh)

/-- The locks that a program holds can be read off it: they are those that it gives back without
having taken them. -/
theorem Locks.unique {needed' held' : Finset String} {program : Program α}
    (locks : program.Locks needed base held) (locks' : program.Locks needed' base held') :
    held = held' := by
  induction program generalizing held held' with
  | done value => exact locks.trans locks'.symm
  | again => exact locks.trans locks'.symm
  | acquire key next ih =>
    have same := ih locks.2 locks'.2
    rw [← Finset.erase_insert (not_mem_of_below locks.1), same,
      Finset.erase_insert (not_mem_of_below locks'.1)]
  | release key next ih =>
    have same := ih locks.2 locks'.2
    rw [← Finset.insert_erase locks.1, same, Finset.insert_erase locks'.1]
  | read next ih => exact ih ∅ (locks ∅) (locks' ∅)
  | commit change next ih =>
    exact ih (.error (.internal "")) (locks.2 _) (locks'.2 _)
  | call request next ih =>
    exact ih (.error (.internal "")) (locks.2 _) (locks'.2 _)
  | emit event next ih => exact ih locks locks'
  | measure taken next ih => exact ih locks locks'
  | stamp next ih => exact ih default (locks default) (locks' default)

/-- Several locks are taken in order when their keys ascend. -/
theorem locks_foldr_acquire {program : Program α} {keys : List String}
    (ascending : keys.Pairwise (· < ·)) (below : ∀ key ∈ keys, Below held key)
    (locks : program.Locks needed base (held ∪ keys.toFinset)) :
    (keys.foldr acquire program).Locks needed base held := by
  induction keys generalizing held with
  | nil => simpa using locks
  | cons key keys ih =>
    obtain ⟨first, rest⟩ := List.pairwise_cons.1 ascending
    refine ⟨below key List.mem_cons_self, ih rest ?_ ?_⟩
    · intro later member other among
      rcases Finset.mem_insert.1 among with rfl | among
      · exact first later member
      · exact below later (List.mem_cons_of_mem _ member) other among
    · simpa [Finset.insert_union] using locks

/-- Whoever gives several locks back holds what it held before it took them. -/
theorem locks_foldr_release {program : Program α} {keys : List String}
    (distinct : keys.Nodup) (absent : ∀ key ∈ keys, key ∉ held)
    (locks : program.Locks needed base held) :
    (keys.foldr release program).Locks needed base (held ∪ keys.toFinset) := by
  induction keys with
  | nil => simpa using locks
  | cons key keys ih =>
    obtain ⟨first, rest⟩ := List.nodup_cons.1 distinct
    obtain ⟨lacking, absent⟩ := List.forall_mem_cons.1 absent
    have left : (held ∪ (key :: keys).toFinset).erase key = held ∪ keys.toFinset := by
      rw [List.toFinset_cons, Finset.union_insert, Finset.erase_insert]
      simp [lacking, first]
    refine ⟨by simp, ?_⟩
    rw [left]
    exact ih rest absent

end Program

/-! ## Workflows -/

namespace Workflow

variable {α β : Type} {needed held : Finset String}

/-- A workflow that holds the locks `held` takes further ones in order and has given them back at
its end. -/
def Locks (needed held : Finset String) (workflow : Workflow α) : Prop :=
  workflow.run.Locks needed held held

theorem Locks.bind {workflow : Workflow β} {next : β → Workflow α}
    (first : workflow.Locks needed held) (rest : ∀ value, (next value).Locks needed held) :
    (workflow >>= next).Locks needed held := by
  refine Program.locks_bind first fun outcome => ?_
  cases outcome with
  | ok value => exact rest value
  | error failure => rfl

theorem locks_pure (value : α) : (pure value : Workflow α).Locks needed held := rfl

theorem locks_ofOutcome (outcome : Outcome α) : (ofOutcome outcome).Locks needed held := rfl

theorem locks_measure (taken : Measure) : (Workflow.measure taken).Locks needed held := rfl

theorem locks_again : (ofProgram .again : Workflow α).Locks needed ∅ := rfl

/-- What follows a check may rely on its result. -/
theorem locks_ofOutcome_bind {outcome : Outcome β} {next : β → Workflow α}
    (rest : ∀ value, outcome = .ok value → (next value).Locks needed held) :
    (ofOutcome outcome >>= next).Locks needed held := by
  cases outcome with
  | ok value => exact rest value rfl
  | error failure => rfl

theorem Locks.holding {workflow : Workflow α} {key : String} (below : Below held key)
    (locks : workflow.Locks needed (insert key held)) :
    (holding key workflow).Locks needed held := by
  refine ⟨below, Program.locks_bind locks fun outcome => ?_⟩
  exact ⟨Finset.mem_insert_self key held, Finset.erase_insert (Program.not_mem_of_below below)⟩

theorem Locks.holdingAll {workflow : Workflow α} {keys : List String}
    (ascending : keys.Pairwise (· < ·)) (below : ∀ key ∈ keys, Below held key)
    (locks : workflow.Locks needed (held ∪ keys.toFinset)) :
    (holdingAll keys workflow).Locks needed held := by
  refine Program.locks_foldr_acquire ascending below (Program.locks_bind locks fun outcome => ?_)
  refine Program.locks_foldr_release ?_ (fun key member => ?_) rfl
  · exact ascending.imp fun less => ne_of_lt less
  · exact Program.not_mem_of_below (below key member)

theorem Locks.outcome {workflow : Workflow α} (locks : workflow.Locks needed held) :
    workflow.outcome.Locks needed held :=
  Program.locks_bind locks fun _ => rfl

theorem Locks.adapt {workflow : Workflow α} (locks : workflow.Locks needed held)
    (change : Failure → Failure) : Locks needed held (workflow.adapt change : Workflow α) := by
  have adapted : (workflow.run.bind fun outcome => .done (outcome.mapError change)).Locks needed
      held held := Program.locks_bind locks fun _ => rfl
  exact adapted

theorem locks_call (enough : needed ⊆ held) (request : Call) :
    (call request).Locks needed held := ⟨enough, fun _ => rfl⟩

/-- **A workflow made of parts that take their locks in order takes its locks in order**, where it
holds what is needed. -/
theorem locks_parts (needed : Finset String) :
    Compositional fun held {_} workflow => needed ⊆ held → workflow.Locks needed held where
  pure _ _ _ _ := rfl
  throw _ _ _ _ := rfl
  bind first rest enough := (first enough).bind fun value => rest value enough
  outcome locks enough := (locks enough).outcome
  adapt locks change enough := (locks enough).adapt change
  holding below locks enough :=
    (locks (enough.trans (Finset.subset_insert _ _))).holding below
  ask _ _ _ _ := fun _ => rfl
  askFor _ _ _ _ := fun _ => rfl
  commit _ _ _ enough := ⟨enough, fun _ => rfl⟩
  look _ _ _ enough := locks_call enough _
  emit _ _ _ := rfl
  measure _ taken _ := locks_measure taken
  stamp _ _ := fun _ => rfl

/-- The program stands apart, so that nobody runs the one of a long workflow to look at it. -/
theorem Locks.program {workflow : Workflow α} {program : Program (Outcome α)}
    (locks : workflow.Locks needed held) (same : program = workflow.run) :
    program.Locks needed held held := by
  rw [same]
  exact locks

-- Followed from here on through the statements above only: a program is never run by unfolding.
attribute [irreducible] Locks

end Workflow

/-! ## Actions -/

namespace Volume

theorem ascending_overwriteKeys (owner assigner : String) :
    (overwriteKeys owner assigner).Pairwise (· < ·) := by
  unfold overwriteKeys
  have short : (([owner, assigner].filter (· ≠ "")).map guestKey).length ≤ 2 := by
    rw [List.length_map]
    exact List.length_filter_le _ _
  split
  · next first second both =>
    split
    · next less => simpa using compare_lt_iff_lt.1 less
    · simp
    · next greater => simpa using compare_gt_iff_gt.1 greater
  · next other =>
    generalize ([owner, assigner].filter (· ≠ "")).map guestKey = keys at short other
    rcases keys with _ | ⟨first, _ | ⟨second, _ | ⟨third, rest⟩⟩⟩
    · exact List.Pairwise.nil
    · exact List.pairwise_singleton _ first
    · exact absurd rfl (other first second)
    · simp at short

theorem overwriteUsage_locks (device : DeviceId) (usage : Usage) :
    (overwriteUsage device usage).Locks ∅ ∅ := by
  have parts := locks_parts ∅
  refine Locks.bind (parts.usageOf _ device (Finset.Subset.refl ∅)) fun before => ?_
  refine Locks.bind (Locks.holdingAll (ascending_overwriteKeys _ _) ?_ ?_) fun finished => ?_
  · exact fun key _ => Compositional.below_of_empty key
  · refine Locks.bind (parts.usageOf _ device (Finset.empty_subset _)) fun now => ?_
    split
    · exact Locks.bind (parts.setUsage _ device usage (Finset.empty_subset _)) fun _ => locks_pure _
    · exact locks_pure _
  · split
    · exact locks_pure _
    · exact locks_again

section

variable {needed : Finset String}

/-- What is done for a guest under its lock, after the request was checked. -/
theorem locks_guarded {raw : String} {devices : List DeviceId}
    {workflow : String → Workflow Unit}
    (locks : (workflow (guestName raw)).Locks needed {guestKey (guestName raw)}) :
    Locks needed ∅ (do
      let assigner ← ofOutcome (requiredGuest raw)
      ofOutcome (requiredDevices devices)
      holding (guestKey assigner) (workflow assigner)) := by
  refine locks_ofOutcome_bind fun assigner checked => ?_
  obtain rfl := (requiredGuest_eq_ok.1 checked).2
  refine (locks_ofOutcome _).bind fun _ => ?_
  exact Locks.holding (Compositional.below_of_empty _) locks

/-- An attach acts only while it holds the lock of its guest. -/
theorem attach_locks (connection : VolumeConnection)
    (enough : needed ⊆ {guestKey (guestName connection.assigner)}) :
    (attach connection).Locks needed ∅ :=
  locks_guarded ((locks_parts needed).attachAlone
    (fun _ request enough => locks_call enough request) _ _ connection enough)

/-- A detach acts only while it holds the lock of its guest. -/
theorem detach_locks (connection : VolumeConnection)
    (enough : needed ⊆ {guestKey (guestName connection.assigner)}) :
    (detach connection).Locks needed ∅ :=
  locks_guarded ((locks_parts needed).detachAlone
    (fun _ request enough => locks_call enough request) _ _ connection enough)

theorem locks_dispatch {settings : OperatorSettings} {action : Action}
    (locks : (run settings action).Locks needed ∅) :
    (dispatch settings action).Locks needed ∅ := by
  refine locks.outcome.bind fun outcome => ?_
  exact (locks_measure _).bind fun _ => locks_ofOutcome outcome

/-- The program attaches the volume or detaches it. -/
def IsWorkflow (settings : OperatorSettings) (connection : VolumeConnection)
    (program : Program (Outcome Output)) : Prop :=
  program = (dispatch settings (.attach connection)).run ∨
    program = (dispatch settings (.detach connection)).run

/-- Attaches and detaches act only while they hold the lock of their guest. -/
theorem IsWorkflow.locks {settings : OperatorSettings} {connection : VolumeConnection}
    {program : Program (Outcome Output)} (works : IsWorkflow settings connection program) :
    program.Locks {guestKey (guestName connection.assigner)} ∅ ∅ := by
  have enough := Finset.Subset.refl {guestKey (guestName connection.assigner)}
  rcases works with works | works
  · refine Workflow.Locks.program (locks_dispatch ?_) works
    exact (attach_locks connection enough).bind fun _ => locks_pure _
  · refine Workflow.Locks.program (locks_dispatch ?_) works
    exact (detach_locks connection enough).bind fun _ => locks_pure _

end

/-- **Every action takes its locks in order and gives all of them back.** -/
theorem dispatch_locks (settings : OperatorSettings) (action : Action) :
    (dispatch settings action).Locks ∅ ∅ := by
  refine locks_dispatch ?_
  cases quiet : action.changesUsage with
  | false => exact (locks_parts ∅).run settings quiet (Finset.Subset.refl ∅)
  | true =>
    cases action with
    | attach connection =>
      exact (attach_locks connection (Finset.empty_subset _)).bind fun _ => locks_pure _
    | detach connection =>
      exact (detach_locks connection (Finset.empty_subset _)).bind fun _ => locks_pure _
    | setUsage device usage => exact (overwriteUsage_locks device _).bind fun _ => locks_pure _
    | _ => cases quiet

end Volume

end FibrePool
