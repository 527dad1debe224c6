import FibrePool.Data.OrderedMap
import FibrePool.Store.Transaction
import FibrePool.Volume.Connection

/-!
# Collaborators

The systems around the pool, scripted: what the hypervisor lists, which guests exist, and which
calls fail.  A call may also have a hook, a transaction of somebody else that comes in between
while the call is under way; this is how the tables change under a workflow that waits for an
answer.
-/

namespace FibrePool

set_option autoImplicit false

/-- The name under which a failure or a hook of a call is filed. -/
def Call.key : Call → String
  | .listDevices _ => "query"
  | .guestExists user => s!"guest_exists {user}"
  | .dedicate device _ => s!"dedicate {device}"
  | .undedicate device _ => s!"undedicate {device}"
  | .configureAttach _ => "configure_attach"
  | .configureDetach _ => "configure_detach"

/-- What the systems around the pool do. -/
structure Collaborators where
  /-- What the hypervisor lists. -/
  listing : Outcome String := .ok ""
  guests : List String := []
  /-- The failure of everything that is asked about guests. -/
  outage : Option Failure := none
  failures : OrderedMap String Failure := ∅
  hooks : OrderedMap String (Transaction Unit) := ∅

namespace Collaborators

/-- An answer about guests. -/
def aboutGuests {α : Type} (collaborators : Collaborators) (value : α) : Outcome α :=
  match collaborators.outage with
  | some failure => .error failure
  | none => .ok value

/-- The answer to a call that has no failure of its own. -/
def answerOf (collaborators : Collaborators) : (call : Call) → Outcome call.Answer
  | .listDevices _ => collaborators.listing
  | .guestExists user => collaborators.aboutGuests (collaborators.guests.contains user)
  | .dedicate _ _ => collaborators.aboutGuests ()
  | .undedicate _ _ => collaborators.aboutGuests ()
  | .configureAttach _ => collaborators.aboutGuests ()
  | .configureDetach _ => collaborators.aboutGuests ()

/-- The answer to a call, or the failure filed for it. -/
def answer (collaborators : Collaborators) (call : Call) : Outcome call.Answer :=
  match collaborators.failures.get? call.key with
  | some failure => .error failure
  | none => collaborators.answerOf call

/-- Files the failure of a call, or takes it back. -/
def setFailure (collaborators : Collaborators) (key : String) (failure : Option Failure) :
    Collaborators :=
  { collaborators with
    failures := match failure with
      | some failure => collaborators.failures.insert key failure
      | none => collaborators.failures.erase key }

/-- Files the hook of a call, or takes it back. -/
def setHook (collaborators : Collaborators) (key : String) (hook : Option (Transaction Unit)) :
    Collaborators :=
  { collaborators with
    hooks := match hook with
      | some hook => collaborators.hooks.insert key hook
      | none => collaborators.hooks.erase key }

end Collaborators

end FibrePool
