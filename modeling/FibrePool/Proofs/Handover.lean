import FibrePool.Proofs.Registrations
import FibrePool.Proofs.Tenure

/-!
# Lock tables and registrations

The lock table of the scheduler gives a free lock at once to whoever registers for it, and a lock
that is given back at once to the first who waits.  That is one of the orders in which requests can
move: registering is counting a request and perhaps a grant, giving up is a release or a cancelled
wait and perhaps a grant to the next, and deregistering takes one of those away who gave up.

So whatever the lock table goes through is the table of some registrations
(`Visited.exists_reached`), what is known of all registrations is known of it, and a scheduler of
programs that take their locks in order never leaves that course (`Interleaving.visited`).
-/

namespace FibrePool

set_option autoImplicit false

namespace NamedLocks

variable {locks changed : NamedLocks} {key probe : String} {ticket : Ticket}
  {before after : List Registration} {request : Registration} {stage other : Stage}

/-! ## Who is in a stage -/

/-- The tickets of the requests on a key and in a stage. -/
def ticketsOf (requests : List Registration) (key : String) (stage : Stage) : List Ticket :=
  (requests.filter (·.isAt key stage)).map (·.ticket)

theorem ticketsOf_append (first second : List Registration) :
    ticketsOf (first ++ second) key stage = ticketsOf first key stage ++ ticketsOf second key stage := by
  simp [ticketsOf]

theorem ticketsOf_cons (first : Registration) (rest : List Registration) :
    ticketsOf (first :: rest) key stage =
      (if first.key = key ∧ first.stage = stage then [first.ticket] else []) ++
        ticketsOf rest key stage := by
  by_cases here : first.key = key ∧ first.stage = stage
  · simp [ticketsOf, Registration.isAt, here]
  · have away : first.isAt key stage = false := by
      simpa [Registration.isAt] using here
    simp [ticketsOf, here, away]

theorem ticketsIn_eq : locks.ticketsIn key stage = ticketsOf locks.registrations key stage := rfl

/-- Where somebody in a stage stands among the requests. -/
theorem exists_of_ticketsIn {first rest : List Ticket}
    (listed : locks.ticketsIn key stage = first ++ ticket :: rest) :
    ∃ before request after, locks.registrations = before ++ request :: after ∧
      request.key = key ∧ request.stage = stage ∧ request.ticket = ticket ∧
      ticketsOf before key stage = first ∧ ticketsOf after key stage = rest := by
  obtain ⟨passed, left, split, rfl, left_eq⟩ := List.map_eq_append_iff.1 listed
  obtain ⟨request, further, rfl, rfl, rfl⟩ := List.map_eq_cons_iff.1 left_eq
  obtain ⟨before, others, present, rfl, others_eq⟩ := List.filter_eq_append_iff.1 split
  obtain ⟨skipped, after, rfl, none, here, rfl⟩ := List.filter_eq_cons_iff.1 others_eq
  have empty : ticketsOf skipped key stage = [] := by
    simpa [ticketsOf] using none
  refine ⟨before ++ skipped, request, after, by simp [present], ?_⟩
  simp only [Registration.isAt, Bool.and_eq_true, beq_iff_eq] at here
  exact ⟨here.1, here.2, rfl, by rw [ticketsOf_append, empty, List.append_nil]; rfl, rfl⟩

/-- A key without an entry has nobody in any stage. -/
theorem Sound.ticketsIn_of_get?_none (sound : locks.Sound)
    (absent : locks.entries.get? key = none) (stage : Stage) : locks.ticketsIn key stage = [] := by
  rw [ticketsIn, List.map_eq_nil_iff, List.eq_nil_iff_forall_not_mem]
  intro request member
  obtain ⟨listed, same, _⟩ := mem_inStage.1 member
  have requests := sound.requestsOn_of_get?_none absent
  exact List.not_mem_nil (requests ▸ mem_requestsOn.2 ⟨listed, same⟩)

/-- Nobody else has the lock of a key without a guard. -/
theorem Sound.not_mem_taken (sound : locks.Sound) (listed : request ∈ locks.registrations)
    (unguarded : locks.ticketsIn request.key .holding = []) : request.lock ∉ locks.taken := by
  have none := sound.length_inStage_holding listed
  rw [ticketsIn, List.map_eq_nil_iff] at unguarded
  rw [unguarded] at none
  exact List.count_eq_zero.1 none.symm

/-! ## Tables of registrations -/

/-- The lock of a key as the registrations have it. -/
def lockOn (locks : NamedLocks) (key : String) : Lock where
  owner := (locks.ticketsIn key .holding).head?
  waiting := locks.ticketsIn key .waiting
  registered := (locks.holders key).toNat

theorem get?_table : locks.table.get? key =
    if locks.entries.contains key then some (locks.lockOn key) else none := by
  rw [table, OrderedMap.get?_mapValues, OrderedMap.contains]
  cases found : locks.entries.get? key with
  | none => rfl
  | some entry => simp [lockOn, holders, found]

theorem Sound.getD_get?_table (sound : locks.Sound) :
    (locks.table.get? key).getD .fresh = locks.lockOn key := by
  rw [get?_table, OrderedMap.contains]
  cases found : locks.entries.get? key with
  | none =>
    simp [lockOn, Lock.fresh, holders, found, sound.ticketsIn_of_get?_none found]
  | some entry => rfl

/-- A table of registrations is a lock table with one lock filed anew, when they agree on it and
elsewhere. -/
theorem table_eq_insert {table : LockTable} {lock : Lock}
    (filed : locks.entries.contains key = true) (here : locks.lockOn key = lock)
    (elsewhere : ∀ probe ≠ key, locks.table.get? probe = table.get? probe) :
    locks.table = table.insert key lock := by
  refine OrderedMap.ext_get? fun probe => ?_
  by_cases same : probe = key
  · subst same
    rw [OrderedMap.get?_insert_self, get?_table, if_pos filed, here]
  · rw [OrderedMap.get?_insert_of_ne _ same, elsewhere probe same]

theorem get?_table_congr (entry : changed.entries.get? probe = locks.entries.get? probe)
    (tickets : ∀ stage, changed.ticketsIn probe stage = locks.ticketsIn probe stage) :
    changed.table.get? probe = locks.table.get? probe := by
  rw [get?_table, get?_table, OrderedMap.contains, OrderedMap.contains, lockOn, lockOn, holders,
    holders, entry, tickets, tickets]

/-! ## Requests that go on to another stage -/

/-- The registrations after one of them goes on to another stage. -/
def restaged (locks : NamedLocks) (before : List Registration) (request : Registration)
    (after : List Registration) (stage : Stage) (taken : List Nat) : NamedLocks :=
  { locks with registrations := before ++ { request with stage } :: after, taken }

theorem ticketsIn_restaged (taken : List Nat) :
    (locks.restaged before request after stage taken).ticketsIn request.key other =
      ticketsOf before request.key other ++
        ((if stage = other then [request.ticket] else []) ++ ticketsOf after request.key other) := by
  rw [ticketsIn_eq, restaged, ticketsOf_append, ticketsOf_cons]
  simp

theorem ticketsIn_of_present (present : locks.registrations = before ++ request :: after) :
    locks.ticketsIn request.key other =
      ticketsOf before request.key other ++
        ((if request.stage = other then [request.ticket] else []) ++
          ticketsOf after request.key other) := by
  rw [ticketsIn_eq, present, ticketsOf_append, ticketsOf_cons]
  simp

theorem get?_table_restaged (present : locks.registrations = before ++ request :: after)
    (taken : List Nat) (different : probe ≠ request.key) :
    (locks.restaged before request after stage taken).table.get? probe =
      locks.table.get? probe := by
  refine get?_table_congr rfl fun other => ?_
  rw [ticketsIn_eq, ticketsIn_eq, present, restaged, ticketsOf_append, ticketsOf_append,
    ticketsOf_cons, ticketsOf_cons]
  simp [Ne.symm different]

/-- When somebody goes on to another stage, the lock of that key is all that the table shows. -/
theorem Sound.table_restaged (sound : locks.Sound) {lock : Lock} {taken : List Nat}
    (present : locks.registrations = before ++ request :: after)
    (here : (locks.restaged before request after stage taken).lockOn request.key = lock) :
    (locks.restaged before request after stage taken).table =
      locks.table.insert request.key lock := by
  obtain ⟨entry, found, _⟩ := sound.shared request (by simp [present])
  exact table_eq_insert (Option.isSome_iff_exists.2 ⟨entry, found⟩) here
    fun probe different => get?_table_restaged present taken different

/-- Somebody who waits for a lock without a guard gets it. -/
theorem exists_granted (reached : locks.Reached) {first rest : List Ticket}
    (unguarded : locks.ticketsIn key .holding = [])
    (waits : locks.ticketsIn key .waiting = first ++ ticket :: rest) :
    ∃ changed : NamedLocks, changed.Reached ∧
      changed.table = locks.table.insert key
        { locks.lockOn key with owner := some ticket, waiting := first ++ rest } := by
  obtain ⟨before, request, after, present, rfl, stage, rfl, earlier, later⟩ :=
    exists_of_ticketsIn waits
  have isFree := reached.sound.not_mem_taken (by simp [present]) unguarded
  refine ⟨locks.restaged before request after .holding (request.lock :: locks.taken),
    reached.move (.grant present stage isFree), reached.sound.table_restaged present ?_⟩
  rw [ticketsIn_of_present present, stage] at unguarded
  have guards : ticketsOf before request.key .holding = [] ∧
      ticketsOf after request.key .holding = [] := by
    simpa using unguarded
  rw [lockOn, ticketsIn_restaged, ticketsIn_restaged, guards.1, guards.2, earlier, later]
  rfl

/-! ## Registering -/

theorem ticketsIn_register : (locks.register key ticket).ticketsIn probe stage =
    locks.ticketsIn probe stage ++ if key = probe ∧ .waiting = stage then [ticket] else [] := by
  rw [ticketsIn_eq, register, ticketsOf_append, ticketsOf_cons, ← ticketsIn_eq]
  simp [ticketsOf]

theorem Sound.lockOn_register (sound : locks.Sound) (key : String) (ticket : Ticket) :
    (locks.register key ticket).lockOn key = { locks.lockOn key with
      waiting := (locks.lockOn key).waiting ++ [ticket]
      registered := (locks.lockOn key).registered + 1 } := by
  have count : (locks.register key ticket).holders key = locks.holders key + 1 := by
    rw [(sound.register key ticket).holders_eq, sound.holders_eq, requestsOn_register]
    simp
  have positive : 0 ≤ locks.holders key := by
    rw [sound.holders_eq]
    exact Int.natCast_nonneg _
  simp only [lockOn, ticketsIn_register, count, reduceCtorEq, and_false, if_false, List.append_nil,
    and_self, if_true, Lock.mk.injEq, true_and]
  omega

theorem get?_table_register (locks : NamedLocks) (ticket : Ticket) (different : probe ≠ key) :
    (locks.register key ticket).table.get? probe = locks.table.get? probe := by
  refine get?_table_congr ?_ fun stage => ?_
  · rw [get?_entries_register, if_neg different]
  · rw [ticketsIn_register, if_neg fun both => different both.1.symm, List.append_nil]

/-- **To register in a lock table is to register, and to get the lock when it is free.** -/
theorem exists_register (reached : locks.Reached) (key : String) (ticket : Ticket) :
    ∃ changed : NamedLocks, changed.Reached ∧ changed.table = locks.table.register key ticket := by
  have sound := reached.sound
  have asked := reached.move (.register locks key ticket)
  have lock := sound.lockOn_register key ticket
  have elsewhere (probe : String) (different : probe ≠ key) :=
    get?_table_register locks ticket different
  have filed : (locks.register key ticket).entries.contains key = true := by
    rw [OrderedMap.contains, get?_entries_register, if_pos rfl, Option.isSome_some]
  rw [LockTable.register, sound.getD_get?_table]
  cases guards : locks.ticketsIn key .holding with
  | cons guard others =>
    have owned : (locks.lockOn key).owner = some guard := by rw [lockOn, guards]; rfl
    refine ⟨_, asked, ?_⟩
    rw [Lock.register, owned]
    dsimp only
    rw [← owned]
    exact table_eq_insert filed lock elsewhere
  | nil =>
    have free : (locks.lockOn key).owner = none := by rw [lockOn, guards]; rfl
    have unguarded : (locks.register key ticket).ticketsIn key .holding = [] := by
      simp [ticketsIn_register, guards]
    have waits : (locks.register key ticket).ticketsIn key .waiting =
        locks.ticketsIn key .waiting ++ ticket :: [] := by
      rw [ticketsIn_register, if_pos ⟨rfl, rfl⟩]
    obtain ⟨changed, reached, same⟩ := exists_granted asked unguarded waits
    refine ⟨changed, reached, ?_⟩
    rw [same, table_eq_insert filed lock elsewhere, OrderedMap.insert_insert, lock, Lock.register,
      free, List.append_nil]
    rfl

/-! ## Giving up -/

/-- Whoever has the lock of a key gives it back. -/
theorem exists_released (reached : locks.Reached)
    (owned : (locks.lockOn key).owner = some ticket) :
    ∃ changed : NamedLocks, changed.Reached ∧ changed.ticketsIn key .holding = [] ∧
      changed.ticketsIn key .waiting = locks.ticketsIn key .waiting ∧
      changed.table = locks.table.insert key { locks.lockOn key with owner := none } := by
  obtain ⟨others, guards⟩ : ∃ others, locks.ticketsIn key .holding = ticket :: others := by
    rw [lockOn] at owned
    exact ⟨_, (List.cons_head?_tail owned).symm⟩
  have alone : others = [] := by
    have one := reached.sound.one_guard key
    have count : (locks.ticketsIn key .holding).length = (locks.inStage key .holding).length :=
      List.length_map _
    rw [guards, List.length_cons] at count
    exact List.length_eq_zero_iff.1 (by omega)
  subst alone
  obtain ⟨before, request, after, present, rfl, stage, rfl, earlier, later⟩ :=
    exists_of_ticketsIn (show _ = [] ++ ticket :: [] from guards)
  have none : (locks.restaged before request after .leaving
      (locks.taken.erase request.lock)).ticketsIn request.key .holding = [] := by
    rw [ticketsIn_restaged, earlier, later]
    rfl
  have same : (locks.restaged before request after .leaving
      (locks.taken.erase request.lock)).ticketsIn request.key .waiting =
      locks.ticketsIn request.key .waiting := by
    rw [ticketsIn_restaged, ticketsIn_of_present present, stage]
    rfl
  refine ⟨_, reached.move (.release present stage), none, same, ?_⟩
  exact reached.sound.table_restaged present
    (congrArg₂ (Lock.mk · · _) (congrArg List.head? none) same)

/-- Whoever waits for the lock of a key waits for it no more. -/
theorem exists_cancelled (reached : locks.Reached) {first rest : List Ticket}
    (waits : locks.ticketsIn key .waiting = first ++ ticket :: rest) :
    ∃ changed : NamedLocks, changed.Reached ∧
      changed.table = locks.table.insert key { locks.lockOn key with waiting := first ++ rest } := by
  obtain ⟨before, request, after, present, rfl, stage, rfl, earlier, later⟩ :=
    exists_of_ticketsIn waits
  refine ⟨locks.restaged before request after .leaving locks.taken,
    reached.move (.cancel present stage), reached.sound.table_restaged present ?_⟩
  rw [lockOn, lockOn, ticketsIn_restaged, ticketsIn_restaged, earlier, later,
    ticketsIn_of_present present, stage]
  rfl

theorem exists_of_get?_table {lock : Lock} (found : locks.table.get? key = some lock) :
    locks.entries.contains key = true ∧ locks.lockOn key = lock := by
  rw [get?_table] at found
  split at found
  · next filed => exact ⟨filed, Option.some.inj found⟩
  · cases found

/-- **To give up in a lock table is to give the lock back, which the first who waits then gets, or
to wait no more.** -/
theorem exists_giveUp (reached : locks.Reached) {lock : Lock}
    (found : locks.table.get? key = some lock) (distinct : lock.queue.Nodup)
    (queued : ticket ∈ lock.queue) :
    ∃ changed : NamedLocks, changed.Reached ∧ changed.table = locks.table.giveUp key ticket := by
  obtain ⟨filed, rfl⟩ := exists_of_get?_table found
  rw [LockTable.giveUp, found]
  dsimp only
  rw [Lock.giveUp]
  split
  · next owned =>
    obtain ⟨changed, reached, unguarded, waits, same⟩ := exists_released reached owned
    rw [Lock.handOver]
    split
    · next next rest order =>
      have order' : changed.ticketsIn key .waiting = [] ++ next :: rest := waits.trans order
      obtain ⟨granted, reached', same'⟩ := exists_granted reached unguarded order'
      refine ⟨granted, reached', ?_⟩
      have lock : changed.lockOn key = { locks.lockOn key with owner := none } := by
        have := congrArg (OrderedMap.get? · key) same
        dsimp only at this
        rw [OrderedMap.get?_insert_self] at this
        exact (exists_of_get?_table this).2
      rw [same', same, OrderedMap.insert_insert, lock]
      rfl
    · exact ⟨changed, reached, same⟩
  · next away =>
    have waits : ticket ∈ locks.ticketsIn key .waiting := by
      rcases List.mem_append.1 queued with first | waits
      · exact absurd (Option.mem_toList.1 first) away
      · exact waits
    obtain ⟨first, rest, order⟩ := List.append_of_mem waits
    obtain ⟨changed, reached, same⟩ := exists_cancelled reached order
    refine ⟨changed, reached, ?_⟩
    rw [same]
    have once : (first ++ ticket :: rest).Nodup := by
      rw [← order]
      exact (List.nodup_append.1 distinct).2.1
    have left : (locks.lockOn key).waiting.filter (· != ticket) = first ++ rest := by
      have waiting : (locks.lockOn key).waiting = first ++ ticket :: rest := order
      rw [waiting, ← once.erase_eq_filter, List.erase_append_right _ ?_, List.erase_cons_head]
      intro member
      exact (List.nodup_append.1 once).2.2 ticket member ticket List.mem_cons_self rfl
    rw [left]

/-! ## Deregistering -/

/-- The requests for a key are those in its three stages. -/
theorem length_requestsOn_eq (locks : NamedLocks) (key : String) :
    (locks.requestsOn key).length =
    (locks.ticketsIn key .holding).length + (locks.ticketsIn key .waiting).length +
      (locks.ticketsIn key .leaving).length := by
  simp only [requestsOn, ticketsIn_eq]
  induction locks.registrations with
  | nil => rfl
  | cons first rest ih =>
    rw [ticketsOf_cons, ticketsOf_cons, ticketsOf_cons]
    by_cases same : first.key = key
    · rw [List.filter_cons_of_pos (by simpa using same)]
      cases first.stage <;> simp [same, ih] <;> omega
    · rw [List.filter_cons_of_neg (by simpa using same)]
      simp [same, ih]

/-- **To deregister from a lock table is to take one of those away who gave up.** -/
theorem exists_deregister (reached : locks.Reached) {lock : Lock}
    (found : locks.table.get? key = some lock)
    (outstanding : lock.queue.length < lock.registered) :
    ∃ changed : NamedLocks, changed.Reached ∧ changed.table = locks.table.deregister key := by
  obtain ⟨filed, rfl⟩ := exists_of_get?_table found
  have sound := reached.sound
  have requests := length_requestsOn_eq locks key
  have count := sound.holders_eq key
  have guards : (locks.ticketsIn key .holding).length ≤ 1 := by
    rw [ticketsIn, List.length_map]
    exact sound.one_guard key
  -- somebody who is counted neither has the lock nor waits for it
  have leaving : 0 < (locks.ticketsIn key .leaving).length := by
    have queue : (locks.lockOn key).queue.length =
        (locks.ticketsIn key .holding).length + (locks.ticketsIn key .waiting).length := by
      rw [Lock.queue, List.length_append, lockOn]
      cases order : locks.ticketsIn key .holding with
      | nil => rfl
      | cons first rest =>
        rw [order, List.length_cons] at guards
        simp only [List.head?_cons, Option.toList_some, List.length_cons, List.length_nil]
        omega
    have registered : (locks.lockOn key).registered = (locks.holders key).toNat := rfl
    omega
  obtain ⟨ticket, rest, order⟩ := List.exists_cons_of_length_pos leaving
  obtain ⟨before, request, after, present, rfl, stage, rfl, earlier, later⟩ :=
    exists_of_ticketsIn (show _ = [] ++ ticket :: rest from order)
  obtain ⟨entry, entered⟩ := Option.isSome_iff_exists.1 filed
  have tickets (other : Stage) (different : other ≠ .leaving) (probe : String) :
      ticketsOf (before ++ after) probe other = locks.ticketsIn probe other := by
    rw [ticketsIn_eq, present, ticketsOf_append, ticketsOf_append, ticketsOf_cons, stage]
    simp [Ne.symm different]
  refine ⟨_, reached.move (.deregister present stage), ?_⟩
  rw [LockTable.deregister, found]
  dsimp only
  have held : locks.holders request.key = entry.holders := by rw [holders, entered]; rfl
  have registered : (locks.lockOn request.key).registered = entry.holders.toNat := by
    rw [lockOn, held]
  have positive := (sound.counted _ entry entered).2
  have elsewhere (probe : String) (different : probe ≠ request.key) :
      ({ locks with
        entries := uncount locks.entries request.key
        registrations := before ++ after } : NamedLocks).table.get? probe =
        locks.table.get? probe := by
    rw [get?_table, get?_table, OrderedMap.contains, OrderedMap.contains, lockOn, lockOn, holders,
      holders, get?_uncount_of_ne different, ticketsIn_eq, ticketsIn_eq]
    rw [tickets _ (by decide), tickets _ (by decide)]
  have entered' := get?_uncount_self entered
  split
  · next last =>
    rw [if_pos (by omega)] at entered'
    refine OrderedMap.ext_get? fun probe => ?_
    by_cases here : probe = request.key
    · subst here
      rw [OrderedMap.get?_erase_self, get?_table, OrderedMap.contains, entered']
      rfl
    · rw [OrderedMap.get?_erase_of_ne _ here, elsewhere probe here]
  · next more =>
    rw [if_neg (by omega)] at entered'
    refine table_eq_insert (Option.isSome_iff_exists.2 ⟨_, entered'⟩) ?_ elsewhere
    rw [lockOn, lockOn, ticketsIn_eq, ticketsIn_eq, tickets _ (by decide), tickets _ (by decide),
      holders, entered']
    simp only [Option.map_some, Option.getD_some, Lock.mk.injEq, true_and]
    omega

end NamedLocks

/-! ## What a lock table goes through -/

namespace Lock

variable {lock : Lock} {ticket : Ticket}

theorem concerns_iff : lock.concerns ticket = true ↔ ticket ∈ lock.queue := by
  simp [concerns, queue]

theorem nodup_queue_register (distinct : lock.queue.Nodup) (new : ticket ∉ lock.queue) :
    (lock.register ticket).queue.Nodup := by
  rw [register]
  split
  · next free =>
    rw [queue, free] at distinct new
    exact List.nodup_cons.2 ⟨new, distinct⟩
  · have apart : ∀ other ∈ lock.queue, other ≠ ticket :=
      fun other listed same => new (same ▸ listed)
    have joined : (lock.queue ++ [ticket]).Nodup := by
      simpa [List.nodup_append] using ⟨distinct, apart⟩
    simpa [queue] using joined

theorem sublist_queue_giveUp : (lock.giveUp ticket).queue.Sublist lock.queue := by
  rw [giveUp]
  split
  · next owned =>
    rw [handOver]
    split
    · next next rest order => simp [queue, owned, order]
    · next order => simp [queue, order]
  · exact List.filter_sublist.append_left _

end Lock

namespace LockTable

variable {table : LockTable} {key : String} {ticket : Ticket}

/-- Nobody stands twice in the queue of a key. -/
theorem Visited.nodup_queue (visited : table.Visited) :
    ∀ key lock, table.get? key = some lock → lock.queue.Nodup := by
  induction visited with
  | empty =>
    intro key lock found
    cases found
  | @register table key ticket _ absent ih =>
    intro probe lock found
    rw [LockTable.register] at found
    by_cases here : probe = key
    · subst here
      rw [OrderedMap.get?_insert_self] at found
      cases found
      cases earlier : table.get? probe with
      | none => exact List.nodup_singleton ticket
      | some lock =>
        rw [earlier, Option.any_some, Lock.concerns_iff] at absent
        exact Lock.nodup_queue_register (ih probe lock earlier) absent
    · rw [OrderedMap.get?_insert_of_ne _ here] at found
      exact ih probe lock found
  | @giveUp table key ticket _ concerned ih =>
    intro probe lock found
    rw [LockTable.giveUp] at found
    split at found
    · next earlier filed =>
      by_cases here : probe = key
      · subst here
        rw [OrderedMap.get?_insert_self] at found
        cases found
        exact Lock.sublist_queue_giveUp.nodup (ih probe earlier filed)
      · rw [OrderedMap.get?_insert_of_ne _ here] at found
        exact ih probe lock found
    · exact ih probe lock found
  | @deregister table key lock _ filed outstanding ih =>
    intro probe lock' found
    rw [LockTable.deregister, filed] at found
    dsimp only at found
    split at found
    · by_cases here : probe = key
      · subst here
        rw [OrderedMap.get?_erase_self] at found
        cases found
      · rw [OrderedMap.get?_erase_of_ne _ here] at found
        exact ih probe lock' found
    · by_cases here : probe = key
      · subst here
        rw [OrderedMap.get?_insert_self] at found
        cases found
        exact ih probe lock filed
      · rw [OrderedMap.get?_insert_of_ne _ here] at found
        exact ih probe lock' found

/-- **Whatever a lock table goes through is the table of some registrations.** -/
theorem Visited.exists_reached (visited : table.Visited) :
    ∃ locks : NamedLocks, locks.Reached ∧ locks.table = table := by
  induction visited with
  | empty => exact ⟨{}, .none, rfl⟩
  | register _ _ ih =>
    obtain ⟨locks, reached, rfl⟩ := ih
    exact NamedLocks.exists_register reached _ _
  | giveUp visited concerned ih =>
    obtain ⟨locks, reached, rfl⟩ := ih
    rw [Option.any_eq_true] at concerned
    obtain ⟨lock, found, queued⟩ := concerned
    exact NamedLocks.exists_giveUp reached found (visited.nodup_queue _ _ found)
      (Lock.concerns_iff.1 queued)
  | deregister _ found outstanding ih =>
    obtain ⟨locks, reached, rfl⟩ := ih
    refine NamedLocks.exists_deregister reached found ?_
    rwa [Lock.queue, List.length_append]

/-- Whoever leaves a queue gives up and is registered no more. -/
theorem Visited.leave (visited : table.Visited) (sound : table.Sound)
    (queued : ticket ∈ table.queue key) : (table.leave key ticket).Visited := by
  unfold queue at queued
  split at queued
  · next lock found =>
    have fine := sound key lock found
    have given := visited.giveUp (by rwa [found, Option.any_some, Lock.concerns_iff])
    have left : (table.giveUp key ticket).get? key = some (lock.giveUp ticket) := by
      rw [LockTable.giveUp, found]
      exact OrderedMap.get?_insert_self _ _ _
    refine given.deregister left ?_
    have shorter : (lock.giveUp ticket).queue.length < lock.queue.length := by
      rw [fine.queue_giveUp, List.length_erase_of_mem queued]
      have := List.length_pos_of_mem queued
      omega
    rwa [Lock.registered_giveUp, fine.registered, ← List.length_append]
  · cases queued

theorem Visited.leaveAll {keys : List String} (visited : table.Visited) (sound : table.Sound)
    (distinct : keys.Nodup) (queued : ∀ key ∈ keys, ticket ∈ table.queue key) :
    (keys.foldl (fun table key => table.leave key ticket) table).Visited := by
  induction keys generalizing table with
  | nil => exact visited
  | cons first rest ih =>
    obtain ⟨now, later⟩ := List.forall_mem_cons.1 queued
    obtain ⟨absent, distinct⟩ := List.nodup_cons.1 distinct
    refine ih (visited.leave sound now) (sound.leave now) distinct fun key member => ?_
    rw [queue_leave_of_ne (ne_of_mem_of_not_mem member absent)]
    exact later key member

theorem Visited.register_of_queue (visited : table.Visited) (absent : ticket ∉ table.queue key) :
    (table.register key ticket).Visited := by
  refine visited.register fun concerned => absent ?_
  obtain ⟨lock, found, concerns⟩ := (Option.any_eq_true _ _).1 concerned
  rw [queue_of_get? found]
  exact Lock.concerns_iff.1 concerns

end LockTable

/-! ## Schedulers -/

/-- A move of a task keeps the lock table on its course. -/
theorem Scheduler.Disciplined.visited_perform {A : Type} {scheduler : Scheduler A} {task : Task A}
    (disciplined : scheduler.Disciplined none) (member : task ∈ scheduler.tasks)
    (ready : task.ticket ∈ scheduler.ready) (visited : scheduler.locks.Visited) :
    (scheduler.perform task).locks.Visited := by
  have locks := (disciplined.standing task member nofun)
  have ordered := locks.rest ∅ locks.origin
  have performs := performs ready
  have asked {key : String} {next : Program A} (asks : task.rest = .acquire key next) :
      (scheduler.locks.register key task.ticket).Visited := by
    rw [asks] at ordered
    exact visited.register_of_queue fun queued =>
      Program.not_mem_of_below ordered.1 (LockTable.mem_concerning.2 queued)
  generalize scheduler.perform task = after at performs
  cases performs with
  | ended done results => exact visited
  | restarted again => exact visited
  | granted asks free => exact asked asks
  | queued asks taken => exact asked asks
  | released gives =>
    rw [gives] at ordered
    rw [locks_leave]
    exact visited.leave disciplined.sound (LockTable.mem_concerning.1 ordered.1)
  | @proceeded changed rest step tasks locks issued order =>
    show changed.locks.Visited
    rwa [locks]

/-- **The lock table of a scheduler stays on its course** while programs that take their locks in
order are at work, are broken off and are started anew. -/
theorem Interleaving.visited {A : Type} {offered : Program A → Prop} {first last : Scheduler A}
    {moves : List (Move A)} (interleaving : Interleaving offered first moves last)
    (orderly : ∀ program, offered program → program.Locks ∅ ∅ ∅)
    (start : first.Disciplined none) (visited : first.locks.Visited) : last.locks.Visited := by
  induction interleaving with
  | rest scheduler => exact visited
  | started allowed further ih => exact ih (start.start (orderly _ allowed)) visited
  | moved valid further ih =>
    have member := List.mem_of_find?_eq_some valid.found
    exact ih (start.perform member valid.ready) (start.visited_perform member valid.ready visited)
  | passed waiting gone further ih => exact ih (start.pass waiting gone) visited
  | @cancelled scheduler _ _ broken further ih =>
    refine ih (start.cancel broken) ?_
    rw [Scheduler.locks_cancel]
    exact visited.leaveAll start.sound (LockTable.nodup_keysOf _ _)
      fun key member => LockTable.mem_keysOf.1 member
  | surrounded collaborators files further ih =>
    exact ih (start.of_eq rfl rfl rfl fun _ _ => Iff.rfl) visited

/-! ## Accounts of named locks -/

/-- **Named locks are accounted for, in whatever order requests register, get the lock, stop
waiting, give it back and deregister.**  A key has at most one guard; its count is the number of
its requests, which all have one lock; its entry is there exactly while the count is positive; the
count of whoever deregisters is positive, and nothing is left when everybody has left.  Whatever
the lock table of the scheduler goes through is the table of such requests. -/
theorem named_locks_accounted :
    (∀ locks : NamedLocks, locks.Reached → locks.Accounted) ∧
      ∀ table : LockTable, table.Visited →
        ∃ locks : NamedLocks, locks.Reached ∧ locks.table = table :=
  ⟨fun _ reached => reached.sound.accounted, fun _ visited => visited.exists_reached⟩

/-- One request waits, one is cancelled and still counted, and one has the lock that it got from a
fourth, which is gone. -/
def Sample.crowded : NamedLocks where
  entries := .ofList [("key", ⟨0, 3⟩)]
  registrations := [⟨1, "key", 0, .leaving⟩, ⟨2, "key", 0, .holding⟩, ⟨3, "key", 0, .waiting⟩]
  taken := [0]
  asked := 4

theorem Sample.crowded_reached : crowded.Reached := by
  have asked := NamedLocks.Reached.none.move (.register _ "key" 0)
  have asked := asked.move (.register _ "key" 1)
  have granted := asked.move
    (.grant (show _ = [] ++ ⟨0, "key", 0, .waiting⟩ :: [⟨1, "key", 0, .waiting⟩] from rfl) rfl
      (by decide))
  have cancelled := granted.move
    (.cancel (show _ = [⟨0, "key", 0, .holding⟩] ++ ⟨1, "key", 0, .waiting⟩ :: [] from rfl) rfl)
  have released := cancelled.move
    (.release (show _ = [] ++ ⟨0, "key", 0, .holding⟩ :: [⟨1, "key", 0, .leaving⟩] from rfl) rfl)
  have asked := (released.move (.register _ "key" 2)).move (.register _ "key" 3)
  have granted := asked.move
    (.grant (show _ = [⟨0, "key", 0, .leaving⟩, ⟨1, "key", 0, .leaving⟩] ++
      ⟨2, "key", 0, .waiting⟩ :: [⟨3, "key", 0, .waiting⟩] from rfl) rfl (by decide))
  exact granted.move
    (.deregister (show _ = [] ++ ⟨0, "key", 0, .leaving⟩ :: [⟨1, "key", 0, .leaving⟩,
      ⟨2, "key", 0, .holding⟩, ⟨3, "key", 0, .waiting⟩] from rfl) rfl)

/-- Where three are counted, two of whom have or await the lock, the accounts are right. -/
theorem named_locks_accounted_crowded : Sample.crowded.Reached ∧ Sample.crowded.Accounted ∧
    Sample.crowded.holders "key" = 3 ∧
    Sample.crowded.table = .ofList [("key", ⟨some 2, [3], 3⟩)] :=
  ⟨Sample.crowded_reached, named_locks_accounted.1 _ Sample.crowded_reached, by decide, by decide⟩

end FibrePool
