import FibrePool.Http.Service
import FibrePool.Task.Scheduler
import FibrePool.Volume.Dispatch

/-!
# Answering requests

The plan of a request becomes a program with the response as its result.  What an action does is
done by `Volume.dispatch`, so a request over the web is counted like every other; what is reported
about the operator is what held when the request came in.
-/

namespace FibrePool

set_option autoImplicit false

/-- The program of a plan, with what is known about the operator when it begins. -/
def Plan.program (settings : OperatorSettings) (status : OperatorStatus) (metrics : Metrics) :
    Plan → Program Response
  | respond response => .done response
  | act action reply =>
    (Volume.dispatch settings action).run.bind fun outcome => .done (reply outcome)
  | report reply => .done (reply status metrics)

namespace Scheduler

/-- The status of an operator whose tasks are these. -/
def status {A : Type} (scheduler : Scheduler A) (settings : OperatorSettings) : OperatorStatus where
  partition := settings.partition
  active := scheduler.locks.activeKeys

/-- The program that answers a request now. -/
def answering {A : Type} (scheduler : Scheduler A) (settings : OperatorSettings)
    (request : Request) : Program Response :=
  (Plan.ofRequest request).program settings (scheduler.status settings) scheduler.metrics

end Scheduler

end FibrePool
