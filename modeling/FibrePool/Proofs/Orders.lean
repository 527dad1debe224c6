import FibrePool.Proofs.PoolHistory
import FibrePool.Proofs.RecordSound

/-!
# Everything that may be asked for

The pool may be asked directly, by anybody and in anybody's name, and it may be asked by way of the
operator, who runs whole actions on it.  An order is either of the two, and a scheduler that has
been given any number of orders (`Scheduler.Reached (Ordered settings)`) is in a state that the pool
can be in.

In all of them every record is filed under its own device (`Scheduler.Reached.recordsFiled`).  The
pool itself does not ask for the name of an assigner, so not much more can be said.
-/

namespace FibrePool

set_option autoImplicit false

/-! ## Orders -/

/-- A request to the pool or an action of the operator. -/
inductive Order where
  | pool (request : PoolRequest)
  | operator (action : Action)

/-- What comes of an order. -/
inductive Reply where
  | pool (answer : PoolAnswer)
  | operator (output : Output)

/-- Carries an order out. -/
def Order.perform (settings : OperatorSettings) : Order → Workflow Reply
  | .pool request => .pool <$> Pool.perform settings.pool request
  | .operator action => .operator <$> Volume.dispatch settings action

/-- The programs of orders. -/
def Ordered (settings : OperatorSettings) (program : Program (Outcome Reply)) : Prop :=
  ∃ order : Order, program = (order.perform settings).run

/-! ## Records keep their places -/

/-- A transaction that changes records in steps leaves them filed. -/
theorem Transaction.keeps_recordsFiled {α : Type} {change : Transaction α}
    {touches : DeviceId → Touch → Prop}
    (altered : ∀ ⦃tables : Tables⦄ ⦃result : α⦄ ⦃after : Tables⦄,
      change tables = .ok (result, after) →
        ∀ id, Altered (touches id) id (tables.at? id) (after.at? id)) :
    change.Keeps Tables.RecordsFiled := by
  intro tables _ after filed done id
  exact (altered done id).keeps (fun stored => ∀ record, stored = some record → record.id = id)
    (fun _ _ _ _ step => step.own_id) (filed id)

theorem recordsFiled_upkeep (expected : Observation → Prop) :
    UpkeepKeeps expected Tables.RecordsFiled :=
  UpkeepKeeps.forall fun _ => upkeepKeeps_of_steps _ fun _ _ _ _ step => step.own_id

theorem recordsFiled_usageChanges : UsageChangesKeep Tables.RecordsFiled :=
  UsageChangesKeep.forall fun _ => usageChangesKeep_of_steps _ fun _ _ _ _ step => step.own_id

namespace PoolRequest

variable {expected : Observation → Prop} {settings : PoolSettings}

/-- No request moves a record, in whosever name it is made. -/
theorem keeps_recordsFiled (request : PoolRequest) :
    request.Keeps settings expected Tables.RecordsFiled := by
  have upkeep := recordsFiled_upkeep expected
  cases request with
  | reserve assigner template provider =>
    exact ⟨fun _ => upkeep.reconciles, fun found id =>
      Transaction.keeps_recordsFiled fun _ _ _ => Tables.altered_reserve⟩
  | unreserve assigner template => exact upkeep.releases assigner template
  | addUsage device assigner =>
    exact Transaction.keeps_recordsFiled fun _ _ _ => Tables.altered_addConnection
  | decreaseUsage device assigner => exact recordsFiled_usageChanges.disconnects device assigner
  | restoreUsage device change => exact recordsFiled_usageChanges.restores device change
  | setUsage device usage => exact recordsFiled_usageChanges.overwrites device usage
  | createTemplate request => exact upkeep.creates
  | editTemplate template request => exact upkeep.edits template
  | deleteTemplate template => exact upkeep.deletes template
  | sync => exact upkeep.reconciles

end PoolRequest

/-- No order moves a record. -/
theorem Order.preserves_recordsFiled (settings : OperatorSettings) (order : Order) :
    (order.perform settings).Preserves (fun _ => True) Tables.RecordsFiled := by
  cases order with
  | pool request => exact request.keeps_recordsFiled.preserves.map _
  | operator action =>
    exact (Volume.dispatch_preserves (Volume.run_preserves settings (recordsFiled_upkeep _)
      recordsFiled_usageChanges action)).map _

/-- **Whatever has been ordered and is under way, every record is filed under its own device.** -/
theorem Scheduler.Reached.recordsFiled {settings : OperatorSettings}
    {scheduler : Scheduler (Outcome Reply)} (reached : scheduler.Reached (Ordered settings)) :
    scheduler.store.tables.RecordsFiled := by
  refine reached.tables (fun id record stored => by cases stored) ?_
  rintro program ⟨order, rfl⟩
  exact (order.preserves_recordsFiled settings).keeps

/-! ## Orders one after the other

Worked examples carry out a few orders, each of them to its end. -/

namespace Sample

/-- A scheduler at rest with an empty store, a guest and what the hypervisor lists. -/
def resting (listing : Outcome String) : Scheduler (Outcome Reply) where
  collaborators := { guests := ["A"], listing }
  stamps _ := { id := "T", createdAt := default }

/-- The scheduler after one more order. -/
def serve (settings : OperatorSettings) (scheduler : Scheduler (Outcome Reply)) (order : Order) :
    Scheduler (Outcome Reply) :=
  (scheduler.start (order.perform settings).run).2.settle 40

/-- The scheduler after some orders. -/
def serving (settings : OperatorSettings) (listing : Outcome String) (orders : List Order) :
    Scheduler (Outcome Reply) :=
  orders.foldl (serve settings) (resting listing)

theorem serve_reached {settings : OperatorSettings} {scheduler : Scheduler (Outcome Reply)}
    (reached : scheduler.Reached (Ordered settings)) (order : Order) :
    (serve settings scheduler order).Reached (Ordered settings) :=
  Scheduler.Reached.settle (.started reached ⟨order, rfl⟩) 40

theorem serving_reached (settings : OperatorSettings) (listing : Outcome String)
    (orders : List Order) : (serving settings listing orders).Reached (Ordered settings) := by
  unfold serving
  have start : (resting listing).Reached (Ordered settings) := .idle rfl rfl rfl
  generalize resting listing = scheduler at start
  induction orders generalizing scheduler with
  | nil => exact start
  | cons order rest ih => exact ih _ (serve_reached start order)

end Sample

end FibrePool
