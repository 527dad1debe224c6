import FibrePool.Proofs.Lookup
import FibrePool.Task.LockTable
import Mathlib.Data.List.Nodup

/-!
# Lock tables as queues

A lock table keeps, for every key that somebody has asked for, who has the lock and who waits for
it.  Put one behind the other these are a queue: the first of it has the lock, whoever asks for the
lock joins at the end, and whoever gives it up, or the wait for it, leaves the queue
(`queue_register_self`, `queue_leave_self`).

A table is sound when every lock in it belongs to somebody, nobody stands twice in the same queue,
and as many are registered as stand in the queue.  Then a key is in the table exactly while its
queue is not empty, and no lock is forgotten while it is waited for.
-/

namespace FibrePool

set_option autoImplicit false

/-! ## One lock -/

namespace Lock

/-- Who has the lock, and behind it who waits for it. -/
def queue (lock : Lock) : List Ticket := lock.owner.toList ++ lock.waiting

/-- Somebody has the lock, and everybody who has it or waits for it is registered once. -/
structure Sound (lock : Lock) : Prop where
  owned : lock.owner.isSome = true
  distinct : lock.queue.Nodup
  registered : lock.registered = lock.queue.length

variable {lock : Lock} {ticket : Ticket}

theorem Sound.exists_owner (sound : lock.Sound) : ∃ owner, lock.owner = some owner ∧
    lock.queue = owner :: lock.waiting := by
  obtain ⟨owner, owns⟩ := Option.isSome_iff_exists.1 sound.owned
  refine ⟨owner, owns, ?_⟩
  simp [queue, owns]

theorem queue_fresh_register (ticket : Ticket) : (fresh.register ticket).queue = [ticket] := rfl

theorem sound_fresh_register (ticket : Ticket) : (fresh.register ticket).Sound where
  owned := rfl
  distinct := List.nodup_singleton ticket
  registered := rfl

theorem Sound.queue_register (sound : lock.Sound) (ticket : Ticket) :
    (lock.register ticket).queue = lock.queue ++ [ticket] := by
  obtain ⟨owner, owns, _⟩ := sound.exists_owner
  simp [register, queue, owns]

theorem Sound.register (sound : lock.Sound) (absent : ticket ∉ lock.queue) :
    (lock.register ticket).Sound := by
  have queued := sound.queue_register ticket
  obtain ⟨owner, owns, _⟩ := sound.exists_owner
  refine ⟨by simp [Lock.register, owns], ?_, ?_⟩
  · rw [queued]
    have apart (other : Ticket) (member : other ∈ lock.queue) : other ≠ ticket :=
      fun same => absent (same ▸ member)
    simpa [List.nodup_append] using ⟨sound.distinct, apart⟩
  · rw [queued, List.length_append, ← sound.registered]
    simp [Lock.register, owns]

/-- Whoever gives the lock up, or the wait for it, leaves the queue. -/
theorem Sound.queue_giveUp (sound : lock.Sound) (ticket : Ticket) :
    (lock.giveUp ticket).queue = lock.queue.erase ticket := by
  obtain ⟨owner, owns, queued⟩ := sound.exists_owner
  rw [queued, giveUp, owns]
  by_cases first : owner = ticket
  · subst first
    rw [if_pos rfl, List.erase_cons_head, handOver]
    split
    · next next rest waiting => simp [queue, waiting]
    · next waiting => simp [queue, waiting]
  · have distinct : lock.waiting.Nodup := (List.nodup_cons.1 (queued ▸ sound.distinct)).2
    rw [if_neg fun same => first (Option.some.inj same),
      List.erase_cons_tail (by simpa using first), distinct.erase_eq_filter]
    simp [queue]

theorem registered_giveUp (lock : Lock) (ticket : Ticket) :
    (lock.giveUp ticket).registered = lock.registered := by
  unfold giveUp handOver
  split
  · split <;> rfl
  · rfl

/-- A lock that is given up belongs to the next in the queue. -/
theorem Sound.isSome_giveUp (sound : lock.Sound)
    (further : (lock.giveUp ticket).queue ≠ []) : (lock.giveUp ticket).owner.isSome = true := by
  unfold giveUp handOver at further ⊢
  split
  · split
    · rfl
    · next waiting => simp_all [queue]
  · exact sound.owned

end Lock

/-! ## Tables -/

namespace LockTable

/-- Who has the lock of a key, and behind it who waits for it. -/
def queue (table : LockTable) (key : String) : List Ticket :=
  match table.get? key with
  | some lock => lock.queue
  | none => []

/-- Every lock in the table is sound. -/
def Sound (table : LockTable) : Prop := ∀ key lock, table.get? key = some lock → lock.Sound

theorem sound_empty : Sound ∅ := fun _ _ found => by cases found

section

variable {table : LockTable} {key other : String} {ticket : Ticket}

theorem queue_of_get? {lock : Lock} (found : table.get? key = some lock) :
    table.queue key = lock.queue := by
  rw [queue, found]

theorem Sound.nodup_queue (sound : table.Sound) (key : String) : (table.queue key).Nodup := by
  unfold queue
  split
  · next lock found => exact (sound key lock found).distinct
  · exact List.nodup_nil

/-- The first of the queue has the lock. -/
theorem Sound.ownerOf (sound : table.Sound) (key : String) :
    table.ownerOf key = (table.queue key).head? := by
  unfold LockTable.ownerOf queue
  cases found : table.get? key with
  | none => rfl
  | some lock =>
    obtain ⟨owner, owns, queued⟩ := (sound key lock found).exists_owner
    simp [owns, queued]

/-! ### Registering -/

theorem Sound.queue_register_self (sound : table.Sound) (key : String) (ticket : Ticket) :
    (table.register key ticket).queue key = table.queue key ++ [ticket] := by
  rw [register, queue_of_get? (OrderedMap.get?_insert_self _ _ _)]
  cases found : table.get? key with
  | none => simp [queue, found, Lock.queue_fresh_register]
  | some lock =>
    rw [queue_of_get? found, Option.getD_some, (sound key lock found).queue_register]

theorem queue_register_of_ne (different : other ≠ key) :
    (table.register key ticket).queue other = table.queue other := by
  unfold queue register
  rw [OrderedMap.get?_insert_of_ne _ different]

theorem Sound.register (sound : table.Sound) (absent : ticket ∉ table.queue key) :
    (table.register key ticket).Sound := by
  intro probe lock found
  by_cases same : probe = key
  · subst same
    rw [LockTable.register, OrderedMap.get?_insert_self] at found
    cases found
    cases before : table.get? probe with
    | none => exact Lock.sound_fresh_register ticket
    | some lock =>
      rw [queue_of_get? before] at absent
      exact (sound probe lock before).register absent
  · rw [LockTable.register, OrderedMap.get?_insert_of_ne _ same] at found
    exact sound probe lock found

/-! ### Leaving -/

/-- What somebody leaves who has the lock or waits for it: the lock of the others, if there are
any. -/
theorem Sound.get?_leave_self (sound : table.Sound) (queued : ticket ∈ table.queue key) :
    ((table.queue key).erase ticket = [] ∧ (table.leave key ticket).get? key = none) ∨
      ∃ lock, (table.leave key ticket).get? key = some lock ∧ lock.Sound ∧
        lock.queue = (table.queue key).erase ticket := by
  unfold queue at queued ⊢
  cases found : table.get? key with
  | none => simp [found] at queued
  | some lock =>
    rw [found] at queued
    dsimp only at queued ⊢
    have fine := sound key lock found
    have left := fine.queue_giveUp ticket
    have count : (lock.giveUp ticket).registered = (lock.queue.erase ticket).length + 1 := by
      have positive := List.length_pos_of_mem queued
      rw [Lock.registered_giveUp, fine.registered, List.length_erase_of_mem queued]
      omega
    unfold leave deregister giveUp
    rw [found]
    dsimp only
    rw [OrderedMap.get?_insert_self]
    dsimp only
    by_cases last : lock.queue.erase ticket = []
    · rw [if_pos (by simp [count, last]), OrderedMap.get?_erase_self]
      exact .inl ⟨last, rfl⟩
    · have more : ¬ (lock.giveUp ticket).registered ≤ 1 := by
        have := List.length_pos_of_ne_nil last
        omega
      rw [if_neg more, OrderedMap.get?_insert_self]
      refine .inr ⟨_, rfl, ⟨fine.isSome_giveUp (left ▸ last), ?_, ?_⟩, left⟩
      · exact left ▸ fine.distinct.erase ticket
      · exact (congrArg (· - 1) count).trans (congrArg List.length left).symm

theorem get?_leave_of_ne (different : other ≠ key) :
    (table.leave key ticket).get? other = table.get? other := by
  have given : (table.giveUp key ticket).get? other = table.get? other := by
    unfold giveUp
    split
    · exact OrderedMap.get?_insert_of_ne _ different _
    · rfl
  rw [← given]
  unfold leave deregister
  split
  · split
    · exact OrderedMap.get?_erase_of_ne _ different
    · exact OrderedMap.get?_insert_of_ne _ different _
  · rfl

theorem Sound.queue_leave_self (sound : table.Sound) (queued : ticket ∈ table.queue key) :
    (table.leave key ticket).queue key = (table.queue key).erase ticket := by
  rcases sound.get?_leave_self queued with ⟨last, gone⟩ | ⟨lock, found, _, same⟩
  · rw [last]
    simp [queue, gone]
  · rw [queue_of_get? found, same]

theorem queue_leave_of_ne (different : other ≠ key) :
    (table.leave key ticket).queue other = table.queue other := by
  unfold queue
  rw [get?_leave_of_ne different]

theorem Sound.leave (sound : table.Sound) (queued : ticket ∈ table.queue key) :
    (table.leave key ticket).Sound := by
  intro probe lock found
  by_cases same : probe = key
  · subst same
    rcases sound.get?_leave_self queued with ⟨_, gone⟩ | ⟨_, found', fine, _⟩
    · cases gone.symm.trans found
    · cases found'.symm.trans found
      exact fine
  · rw [get?_leave_of_ne same] at found
    exact sound probe lock found

/-! ### Everything somebody has or waits for -/

theorem mem_keysOf : key ∈ table.keysOf ticket ↔ ticket ∈ table.queue key := by
  rw [keysOf, OrderedMap.mem_keys_iff, OrderedMap.contains, OrderedMap.get?_filter, queue]
  cases table.get? key with
  | none => simp
  | some lock => simp [Lock.concerns, Lock.queue, Option.filter]

theorem nodup_keysOf (table : LockTable) (ticket : Ticket) : (table.keysOf ticket).Nodup :=
  OrderedMap.nodup_keys _

end

end LockTable

end FibrePool
