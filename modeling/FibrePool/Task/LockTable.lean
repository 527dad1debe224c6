import FibrePool.Data.OrderedMap

/-!
# Named locks

Whoever asks for a lock is registered under its key.  The lock goes to one of those registered at a
time, in the order of asking; it is first given back, which hands it to the next one, and then the
registration ends.  A key is in the table exactly while somebody is registered under it.
-/

namespace FibrePool

set_option autoImplicit false

/-- Whoever asks for locks is known by a number. -/
abbrev Ticket := Nat

/-- One named lock. -/
structure Lock where
  /-- Who has the lock. -/
  owner : Option Ticket
  /-- Who waits for it, in the order of asking. -/
  waiting : List Ticket
  /-- How many have it, wait for it, or gave it back and are still registered. -/
  registered : Nat
  deriving DecidableEq, Repr, Inhabited

namespace Lock

/-- The lock that nobody has asked for. -/
def fresh : Lock := ⟨none, [], 0⟩

/-- Registers one more, who has the lock at once when nobody else has or awaits it. -/
def register (lock : Lock) (ticket : Ticket) : Lock :=
  match lock.owner with
  | none => { lock with owner := some ticket, registered := lock.registered + 1 }
  | some _ =>
    { lock with waiting := lock.waiting ++ [ticket], registered := lock.registered + 1 }

/-- Takes the lock from its owner and hands it to the first who waits. -/
def handOver (lock : Lock) : Lock :=
  match lock.waiting with
  | next :: rest => { lock with owner := some next, waiting := rest }
  | [] => { lock with owner := none }

/-- Ends the interest of one: the owner gives the lock back, and who waits does so no more. -/
def giveUp (lock : Lock) (ticket : Ticket) : Lock :=
  if lock.owner = some ticket then lock.handOver
  else { lock with waiting := lock.waiting.filter (· != ticket) }

/-- Whether somebody has the lock or waits for it. -/
def concerns (lock : Lock) (ticket : Ticket) : Bool :=
  lock.owner == some ticket || lock.waiting.contains ticket

end Lock

/-- The locks that somebody is registered under. -/
abbrev LockTable := OrderedMap String Lock

namespace LockTable

/-- Registers somebody under a key. -/
def register (table : LockTable) (key : String) (ticket : Ticket) : LockTable :=
  table.insert key (((table.get? key).getD .fresh).register ticket)

/-- Somebody gives up a lock, or the wait for it. -/
def giveUp (table : LockTable) (key : String) (ticket : Ticket) : LockTable :=
  match table.get? key with
  | some lock => table.insert key (lock.giveUp ticket)
  | none => table

/-- Ends one registration; the last one takes the key out of the table. -/
def deregister (table : LockTable) (key : String) : LockTable :=
  match table.get? key with
  | some lock =>
    if lock.registered ≤ 1 then table.erase key
    else table.insert key { lock with registered := lock.registered - 1 }
  | none => table

/-- Who has a lock. -/
def ownerOf (table : LockTable) (key : String) : Option Ticket :=
  (table.get? key).bind (·.owner)

/-- Somebody gives up a lock and is no longer registered under it. -/
def leave (table : LockTable) (key : String) (ticket : Ticket) : LockTable :=
  (table.giveUp key ticket).deregister key

/-- The keys of the locks that somebody has or waits for. -/
def keysOf (table : LockTable) (ticket : Ticket) : List String :=
  (table.filter fun _ lock => lock.concerns ticket).keys

/-- How many are registered under a key. -/
def registeredOn (table : LockTable) (key : String) : Nat :=
  ((table.get? key).map (·.registered)).getD 0

/-- How many keys somebody is registered under. -/
def activeKeys (table : LockTable) : Nat := table.size

/-- The table as it is shown to developers. -/
def describe (table : LockTable) : String :=
  "NamedLockManager \x7b active_keys: " ++ toString table.activeKeys ++ " \x7d"

end LockTable

end FibrePool
