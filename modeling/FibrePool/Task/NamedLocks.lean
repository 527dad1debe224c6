import FibrePool.Task.LockTable

/-!
# Registrations for named locks

A lock table keeps the lock of a key in the entry of the key.  Below it, the lock stands apart: the
entry only says which lock belongs to the key at present and how many are counted on it, and whoever
registers takes that lock along.  To register, to get the lock, to give it back or to stop waiting,
and to be counted no more are then separate moments, and anything that others do may come between
them: an entry may go, and another one with another lock may come, while somebody still holds on to
the first.

The count is an integer here, so that counting down too often would show.
-/

namespace FibrePool

set_option autoImplicit false

/-- What is filed under a key. -/
structure LockEntry where
  /-- The lock of the key, by its number. -/
  lock : Nat
  /-- How many are counted on the key. -/
  holders : Int
  deriving DecidableEq, Repr

/-- How far somebody has come who asked for a lock. -/
inductive Stage where
  | waiting
  | holding
  /-- Gave the lock back, or stopped waiting for it, and is still counted. -/
  | leaving
  deriving DecidableEq, Repr

/-- One request for a lock, from the moment in which it is counted to that in which it no longer
is. -/
structure Registration where
  ticket : Ticket
  key : String
  /-- The lock that the key had when the request came. -/
  lock : Nat
  stage : Stage
  deriving DecidableEq, Repr

namespace Registration

/-- Whether it is on a key and in a stage. -/
def isAt (registration : Registration) (key : String) (stage : Stage) : Bool :=
  registration.key == key && registration.stage == stage

/-- Whether it has a certain lock. -/
def has (registration : Registration) (lock : Nat) : Bool :=
  registration.lock == lock && registration.stage == .holding

end Registration

/-- Everybody who asked for a lock, and the locks. -/
structure NamedLocks where
  entries : OrderedMap String LockEntry := ∅
  /-- The requests that are counted, in the order of asking. -/
  registrations : List Registration := []
  /-- The locks that somebody has. -/
  taken : List Nat := []
  /-- How many requests there have been; a lock made for one of them has its number. -/
  asked : Nat := 0
  deriving DecidableEq

namespace NamedLocks

/-- The entry that a request for a key finds or makes. -/
def entryFor (locks : NamedLocks) (key : String) : LockEntry :=
  (locks.entries.get? key).getD ⟨locks.asked, 0⟩

/-- Counts a request, which takes the lock of the key along. -/
def register (locks : NamedLocks) (key : String) (ticket : Ticket) : NamedLocks :=
  let entry := locks.entryFor key
  { locks with
    entries := locks.entries.insert key { entry with holders := entry.holders + 1 }
    registrations := locks.registrations ++ [⟨ticket, key, entry.lock, .waiting⟩]
    asked := locks.asked + 1 }

/-- Counts a request no more; the entry goes when its count comes down to nothing. -/
def uncount (entries : OrderedMap String LockEntry) (key : String) : OrderedMap String LockEntry :=
  match entries.get? key with
  | some entry =>
    if entry.holders - 1 = 0 then entries.erase key
    else entries.insert key { entry with holders := entry.holders - 1 }
  | none => entries

/-- How many are counted on a key. -/
def holders (locks : NamedLocks) (key : String) : Int :=
  ((locks.entries.get? key).map (·.holders)).getD 0

/-- The requests for a key. -/
def requestsOn (locks : NamedLocks) (key : String) : List Registration :=
  locks.registrations.filter (·.key == key)

/-- The requests for a key in one stage. -/
def inStage (locks : NamedLocks) (key : String) (stage : Stage) : List Registration :=
  locks.registrations.filter (·.isAt key stage)

/-- Who has asked for a key and is in one stage, in the order of asking. -/
def ticketsIn (locks : NamedLocks) (key : String) (stage : Stage) : List Ticket :=
  (locks.inStage key stage).map (·.ticket)

/-- The lock table that these registrations amount to: who has the lock of a key, who waits for it
in the order of asking, and how many are counted. -/
def table (locks : NamedLocks) : LockTable :=
  locks.entries.mapValues fun key entry =>
    { owner := (locks.ticketsIn key .holding).head?
      waiting := locks.ticketsIn key .waiting
      registered := entry.holders.toNat }

/-! ## Moves -/

/-- What one of those who ask does, in any order with what the others do.  Only the grant looks at
the lock itself, which goes to one at a time. -/
inductive Move : NamedLocks → NamedLocks → Prop where
  | register (locks : NamedLocks) (key : String) (ticket : Ticket) :
    Move locks (locks.register key ticket)
  | grant {locks : NamedLocks} {before after : List Registration} {registration : Registration}
    (present : locks.registrations = before ++ registration :: after)
    (waits : registration.stage = .waiting) (isFree : registration.lock ∉ locks.taken) :
    Move locks { locks with
      registrations := before ++ { registration with stage := .holding } :: after
      taken := registration.lock :: locks.taken }
  | cancel {locks : NamedLocks} {before after : List Registration} {registration : Registration}
    (present : locks.registrations = before ++ registration :: after)
    (waits : registration.stage = .waiting) :
    Move locks { locks with
      registrations := before ++ { registration with stage := .leaving } :: after }
  | release {locks : NamedLocks} {before after : List Registration} {registration : Registration}
    (present : locks.registrations = before ++ registration :: after)
    (holds : registration.stage = .holding) :
    Move locks { locks with
      registrations := before ++ { registration with stage := .leaving } :: after
      taken := locks.taken.erase registration.lock }
  | deregister {locks : NamedLocks} {before after : List Registration}
    {registration : Registration}
    (present : locks.registrations = before ++ registration :: after)
    (leaves : registration.stage = .leaving) :
    Move locks { locks with
      entries := uncount locks.entries registration.key
      registrations := before ++ after }

/-- What any number of requests can come to, beginning with none. -/
inductive Reached : NamedLocks → Prop where
  | none : Reached {}
  | move {locks changed : NamedLocks} (reached : Reached locks) (moved : Move locks changed) :
    Reached changed

end NamedLocks

namespace LockTable

/-- What a lock table goes through: somebody new registers, somebody in a queue gives up, and one of
those who gave up is registered no more. -/
inductive Visited : LockTable → Prop where
  | empty : Visited ∅
  | register {table : LockTable} {key : String} {ticket : Ticket} (visited : Visited table)
    (absent : ¬ (table.get? key).any (·.concerns ticket)) : Visited (table.register key ticket)
  | giveUp {table : LockTable} {key : String} {ticket : Ticket} (visited : Visited table)
    (concerned : (table.get? key).any (·.concerns ticket)) : Visited (table.giveUp key ticket)
  | deregister {table : LockTable} {key : String} {lock : Lock} (visited : Visited table)
    (found : table.get? key = some lock)
    (outstanding : lock.owner.toList.length + lock.waiting.length < lock.registered) :
    Visited (table.deregister key)

end LockTable

end FibrePool
