/-!
# Events

The pool tells its listeners of every change it made: reservations and releases, changes of usage,
reconciliations and the life of templates.
-/

namespace FibrePool

set_option autoImplicit false

/-- A change that the pool made. -/
inductive Event where
  | devicesReserved (assigner template : String) (devices : List String)
  | devicesReleased (assigner template : String) (devices : List String)
  | usageChanged (device assigner : String) (connections : UInt32)
  | reconciled (inserted updated deleted : Nat)
  | templateCreated (template : String)
  | templateEdited (template : String)
  | templateDeleted (template : String)
  deriving DecidableEq, Repr, Inhabited

namespace Event

/-- The template that the event is about. -/
def template? : Event → Option String
  | devicesReserved _ template _ => some template
  | devicesReleased _ template _ => some template
  | templateCreated template => some template
  | templateEdited template => some template
  | templateDeleted template => some template
  | usageChanged _ _ _ => none
  | reconciled _ _ _ => none

/-- The guest that the event is about. -/
def assigner? : Event → Option String
  | devicesReserved assigner _ _ => some assigner
  | devicesReleased assigner _ _ => some assigner
  | usageChanged _ assigner _ => some assigner
  | _ => none

/-- Whether the event is about the life of a template. -/
def isTemplateEvent : Event → Bool
  | templateCreated _ => true
  | templateEdited _ => true
  | templateDeleted _ => true
  | _ => false

end Event

end FibrePool
