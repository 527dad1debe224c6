import FibrePool.Proofs.Lookup
import FibrePool.Task.NamedLocks
import Mathlib.Data.List.Nodup
import Mathlib.Data.List.Count

/-!
# Named locks are accounted for

Requests for named locks come and go in any order.  What keeps the locks together is that an entry
stays for as long as a request is counted on it (`Sound.shared`): no entry is made anew while
somebody holds on to the lock of an earlier one, so all requests for a key have the same lock, and
since a lock goes to one at a time there is one guard of a key.

Every move keeps the registrations sound (`Sound.move`), and a sound state is accounted for
(`Sound.accounted`).  The lock table of the scheduler, which keeps a lock in the entry of its key
and hands it over at once, is one way to go about it: whatever it goes through is the table of some
registrations (`LockTable.Visited.exists_reached`).
-/

namespace FibrePool

set_option autoImplicit false

namespace NamedLocks

/-- The count of a key is that of its requests, its entry is there as long as there are any, and
they have one lock, which one of them at a time holds. -/
structure Accounted (locks : NamedLocks) : Prop where
  one_guard : ∀ key, (locks.inStage key .holding).length ≤ 1
  counted : ∀ key, locks.holders key = (locks.requestsOn key).length
  filed : ∀ key, locks.entries.contains key = true ↔ 0 < locks.holders key
  one_lock : ∀ key, ∃ lock, ∀ request ∈ locks.requestsOn key, request.lock = lock
  apart : ∀ first ∈ locks.registrations, ∀ second ∈ locks.registrations,
    first.lock = second.lock → first.key = second.key
  /-- Whoever is going to be counted no more is counted now. -/
  positive : ∀ request ∈ locks.registrations, 1 ≤ locks.holders request.key
  emptied : locks.registrations = [] → locks.entries = ∅
  /-- The table that the registrations amount to counts the same. -/
  shown : ∀ key, (locks.table.registeredOn key : Int) = locks.holders key

/-- What holds of the registrations after every move. -/
structure Sound (locks : NamedLocks) : Prop where
  counted : ∀ key entry, locks.entries.get? key = some entry →
    entry.holders = (locks.requestsOn key).length ∧ 0 < entry.holders
  /-- A counted request has the lock that is filed under its key now. -/
  shared : ∀ request ∈ locks.registrations, ∃ entry,
    locks.entries.get? request.key = some entry ∧ entry.lock = request.lock
  distinct : locks.taken.Nodup
  taken : ∀ lock, (locks.registrations.countP (·.has lock)) = locks.taken.count lock
  apart : ∀ key other entry entry', locks.entries.get? key = some entry →
    locks.entries.get? other = some entry' → entry.lock = entry'.lock → key = other
  made : ∀ key entry, locks.entries.get? key = some entry → entry.lock < locks.asked

variable {locks changed : NamedLocks} {key probe : String} {ticket : Ticket}
  {before after : List Registration} {request : Registration}

/-! ## Requests for a key -/

theorem mem_requestsOn :
    request ∈ locks.requestsOn key ↔ request ∈ locks.registrations ∧ request.key = key := by
  simp [requestsOn]

theorem mem_inStage {stage : Stage} : request ∈ locks.inStage key stage ↔
    request ∈ locks.registrations ∧ request.key = key ∧ request.stage = stage := by
  simp [inStage, Registration.isAt]

theorem requestsOn_eq_nil (unlisted : ∀ request ∈ locks.registrations, request.key ≠ key) :
    locks.requestsOn key = [] := by
  simpa [requestsOn] using unlisted

/-- A key without an entry has no requests. -/
theorem Sound.requestsOn_of_get?_none (sound : locks.Sound)
    (absent : locks.entries.get? key = none) : locks.requestsOn key = [] := by
  refine requestsOn_eq_nil fun request listed same => ?_
  obtain ⟨entry, found, _⟩ := sound.shared request listed
  rw [same, absent] at found
  cases found

/-! ## What soundness says -/

theorem Sound.holders_eq (sound : locks.Sound) (key : String) :
    locks.holders key = (locks.requestsOn key).length := by
  unfold holders
  cases found : locks.entries.get? key with
  | none => simp [sound.requestsOn_of_get?_none found]
  | some entry => exact (sound.counted key entry found).1

/-- Two requests for a key have the same lock. -/
theorem Sound.same_lock (sound : locks.Sound) {first second : Registration}
    (listed : first ∈ locks.registrations) (listed' : second ∈ locks.registrations)
    (same : first.key = second.key) : first.lock = second.lock := by
  obtain ⟨entry, found, has⟩ := sound.shared first listed
  obtain ⟨entry', found', has'⟩ := sound.shared second listed'
  rw [same, found'] at found
  cases found
  exact has.symm.trans has'

/-- Requests for different keys have different locks. -/
theorem Sound.same_key (sound : locks.Sound) {first second : Registration}
    (listed : first ∈ locks.registrations) (listed' : second ∈ locks.registrations)
    (same : first.lock = second.lock) : first.key = second.key := by
  obtain ⟨entry, found, has⟩ := sound.shared first listed
  obtain ⟨entry', found', has'⟩ := sound.shared second listed'
  exact sound.apart _ _ entry entry' found found' (has.trans (same.trans has'.symm))

/-- The guards of a key are the requests that have its lock. -/
theorem Sound.inStage_holding (sound : locks.Sound) (listed : request ∈ locks.registrations) :
    locks.inStage request.key .holding = locks.registrations.filter (·.has request.lock) := by
  refine List.filter_congr fun other listed' => ?_
  have related : other.key = request.key ↔ other.lock = request.lock :=
    ⟨sound.same_lock listed' listed, sound.same_key listed' listed⟩
  have match_iff : (other.key == request.key) = (other.lock == request.lock) := by
    rw [Bool.eq_iff_iff, beq_iff_eq, beq_iff_eq, related]
  rw [Registration.isAt, Registration.has, match_iff]

theorem Sound.length_inStage_holding (sound : locks.Sound)
    (listed : request ∈ locks.registrations) :
    (locks.inStage request.key .holding).length = locks.taken.count request.lock := by
  rw [sound.inStage_holding listed, ← List.countP_eq_length_filter, sound.taken]

theorem Sound.one_guard (sound : locks.Sound) (key : String) :
    (locks.inStage key .holding).length ≤ 1 := by
  cases guards : locks.inStage key .holding with
  | nil => exact Nat.zero_le 1
  | cons first rest =>
    have member : first ∈ locks.inStage key .holding := by simp [guards]
    obtain ⟨listed, same, _⟩ := mem_inStage.1 member
    rw [← guards, ← same, sound.length_inStage_holding listed]
    exact List.nodup_iff_count_le_one.1 sound.distinct _

theorem Sound.registeredOn_table (sound : locks.Sound) (key : String) :
    (locks.table.registeredOn key : Int) = locks.holders key := by
  unfold LockTable.registeredOn table holders
  rw [OrderedMap.get?_mapValues]
  cases found : locks.entries.get? key with
  | none => rfl
  | some entry => exact Int.toNat_of_nonneg (Int.le_of_lt (sound.counted key entry found).2)

/-- **Sound registrations are accounted for.** -/
theorem Sound.accounted (sound : locks.Sound) : locks.Accounted where
  one_guard := sound.one_guard
  counted := sound.holders_eq
  filed key := by
    unfold OrderedMap.contains holders
    cases found : locks.entries.get? key with
    | none => simp
    | some entry => simpa using (sound.counted key entry found).2
  one_lock key := by
    cases requests : locks.requestsOn key with
    | nil => exact ⟨0, by simp⟩
    | cons first rest =>
      refine ⟨first.lock, fun request listed => ?_⟩
      rw [← requests] at listed
      have head : first ∈ locks.requestsOn key := by simp [requests]
      obtain ⟨listed, on⟩ := mem_requestsOn.1 listed
      obtain ⟨listed', on'⟩ := mem_requestsOn.1 head
      exact sound.same_lock listed listed' (on.trans on'.symm)
  apart first listed second listed' same := sound.same_key listed listed' same
  positive request listed := by
    obtain ⟨entry, found, _⟩ := sound.shared request listed
    rw [holders, found]
    exact (sound.counted _ entry found).2
  emptied gone := by
    refine OrderedMap.ext_get? fun key => ?_
    cases found : locks.entries.get? key with
    | none => rfl
    | some entry =>
      have ⟨count, positive⟩ := sound.counted key entry found
      simp [requestsOn, gone] at count
      omega
  shown := sound.registeredOn_table

/-! ## Moves -/

theorem sound_none : ({} : NamedLocks).Sound where
  counted _ _ found := by cases found
  shared _ listed := by cases listed
  distinct := List.nodup_nil
  taken _ := rfl
  apart _ _ _ _ found := by cases found
  made _ _ found := by cases found

theorem Sound.entryFor_lt (sound : locks.Sound) (key : String) :
    (locks.entryFor key).lock < locks.asked + 1 := by
  unfold entryFor
  cases found : locks.entries.get? key with
  | none => exact Nat.lt_succ_self locks.asked
  | some entry => exact Nat.lt_succ_of_lt (sound.made key entry found)

theorem Sound.entryFor_holders (sound : locks.Sound) (key : String) :
    (locks.entryFor key).holders = (locks.requestsOn key).length := by
  rw [← sound.holders_eq, entryFor, holders]
  cases locks.entries.get? key <;> rfl

/-- The entry that a request gets is not that of another key. -/
theorem Sound.entryFor_apart (sound : locks.Sound) {entry : LockEntry}
    (found : locks.entries.get? probe = some entry) (same : entry.lock = (locks.entryFor key).lock) :
    probe = key := by
  unfold entryFor at same
  cases found' : locks.entries.get? key with
  | none =>
    rw [found'] at same
    exact absurd same (Nat.ne_of_lt (sound.made probe entry found))
  | some entry' =>
    rw [found'] at same
    exact sound.apart probe key entry entry' found found' same

theorem requestsOn_register : (locks.register key ticket).requestsOn probe =
    locks.requestsOn probe ++
      if probe = key then [⟨ticket, key, (locks.entryFor key).lock, .waiting⟩] else [] := by
  by_cases same : probe = key
  · simp [requestsOn, register, same]
  · simp [requestsOn, register, same, Ne.symm same]

theorem get?_entries_register : (locks.register key ticket).entries.get? probe =
    if probe = key then
      some { locks.entryFor key with holders := (locks.entryFor key).holders + 1 }
    else locks.entries.get? probe := by
  by_cases same : probe = key
  · subst same
    rw [if_pos rfl]
    exact OrderedMap.get?_insert_self _ _ _
  · rw [if_neg same]
    exact OrderedMap.get?_insert_of_ne _ same _

theorem Sound.register (sound : locks.Sound) (key : String) (ticket : Ticket) :
    (locks.register key ticket).Sound where
  counted probe entry found := by
    rw [get?_entries_register] at found
    rw [requestsOn_register]
    split at found
    · next same =>
      cases found
      simp only [same, if_pos, List.length_append, List.length_singleton, sound.entryFor_holders]
      omega
    · next different =>
      simpa [different] using sound.counted probe entry found
  shared request listed := by
    rw [get?_entries_register]
    rcases List.mem_append.1 listed with listed | new
    · obtain ⟨entry, found, has⟩ := sound.shared request listed
      split
      · next same =>
        rw [same] at found
        refine ⟨_, rfl, ?_⟩
        rw [← has, entryFor, found, Option.getD_some]
      · exact ⟨entry, found, has⟩
    · rw [List.mem_singleton.1 new, if_pos rfl]
      exact ⟨_, rfl, rfl⟩
  distinct := sound.distinct
  taken lock := by
    simpa [NamedLocks.register, Registration.has] using sound.taken lock
  apart probe other entry entry' found found' same := by
    rw [get?_entries_register] at found found'
    split at found <;> split at found'
    · next here there => exact here.trans there.symm
    · next here there =>
      cases found
      exact here.trans (sound.entryFor_apart found' same.symm).symm
    · next here there =>
      cases found'
      exact (sound.entryFor_apart found same).trans there.symm
    · exact sound.apart probe other entry entry' found found' same
  made probe entry found := by
    rw [get?_entries_register] at found
    split at found
    · cases found
      exact sound.entryFor_lt key
    · exact Nat.lt_succ_of_lt (sound.made probe entry found)

/-- A request that goes on to another stage stays where it is, and only who has the locks may
change. -/
theorem Sound.stage (sound : locks.Sound)
    (present : locks.registrations = before ++ request :: after) (stage : Stage) (taken : List Nat)
    (distinct : taken.Nodup)
    (changes : ∀ lock, (before ++ { request with stage } :: after).countP (·.has lock) =
      taken.count lock) :
    ({ locks with registrations := before ++ { request with stage } :: after, taken } :
      NamedLocks).Sound where
  counted key entry found := by
    have ⟨count, positive⟩ := sound.counted key entry found
    refine ⟨?_, positive⟩
    rw [count]
    simp only [requestsOn, present, ← List.countP_eq_length_filter, List.countP_append,
      List.countP_cons]
  shared other listed := by
    rcases List.mem_append.1 listed with first | next
    · exact sound.shared other (by simp [present, first])
    · rcases List.mem_cons.1 next with rfl | next
      · exact sound.shared request (by simp [present])
      · exact sound.shared other (by simp [present, next])
  distinct
  taken := changes
  apart := sound.apart
  made := sound.made

theorem Sound.count_taken (sound : locks.Sound)
    (present : locks.registrations = before ++ request :: after) (lock : Nat) :
    locks.taken.count lock = before.countP (·.has lock) + after.countP (·.has lock) +
      if request.has lock then 1 else 0 := by
  rw [← sound.taken, present, List.countP_append, List.countP_cons, Nat.add_assoc]

theorem get?_uncount_of_ne {entries : OrderedMap String LockEntry} (different : probe ≠ key) :
    (uncount entries key).get? probe = entries.get? probe := by
  unfold uncount
  split
  · split
    · exact OrderedMap.get?_erase_of_ne _ different
    · exact OrderedMap.get?_insert_of_ne _ different _
  · rfl

theorem get?_uncount_self {entries : OrderedMap String LockEntry} {entry : LockEntry}
    (found : entries.get? key = some entry) : (uncount entries key).get? key =
      if entry.holders - 1 = 0 then none else some { entry with holders := entry.holders - 1 } := by
  rw [uncount, found]
  dsimp only
  split
  · exact OrderedMap.get?_erase_self _ _
  · exact OrderedMap.get?_insert_self _ _ _

/-- What is left under a key was there before, with the same lock. -/
theorem exists_of_get?_uncount {entries : OrderedMap String LockEntry} {entry : LockEntry}
    (found : (uncount entries key).get? probe = some entry) :
    ∃ earlier, entries.get? probe = some earlier ∧ earlier.lock = entry.lock := by
  by_cases same : probe = key
  · subst same
    cases earlier : entries.get? probe with
    | none =>
      rw [uncount, earlier] at found
      cases earlier.symm.trans found
    | some filed =>
      rw [get?_uncount_self earlier] at found
      split at found
      · cases found
      · cases found
        exact ⟨filed, rfl, rfl⟩
  · rw [get?_uncount_of_ne same] at found
    exact ⟨entry, found, rfl⟩

theorem length_requestsOn (present : locks.registrations = before ++ request :: after)
    (probe : String) : (locks.requestsOn probe).length =
      ((before ++ after).filter (·.key == probe)).length + if request.key = probe then 1 else 0 := by
  by_cases same : request.key = probe
  · simp [requestsOn, present, same]
    omega
  · simp [requestsOn, present, same]

theorem Sound.deregister (sound : locks.Sound)
    (present : locks.registrations = before ++ request :: after)
    (leaves : request.stage = .leaving) :
    ({ locks with
      entries := uncount locks.entries request.key
      registrations := before ++ after } : NamedLocks).Sound where
  counted key entry found := by
    have length := length_requestsOn present key
    by_cases same : key = request.key
    · subst same
      obtain ⟨earlier, filed, _⟩ := exists_of_get?_uncount found
      have ⟨count, positive⟩ := sound.counted _ earlier filed
      rw [if_pos rfl] at length
      rw [get?_uncount_self filed] at found
      split at found
      · cases found
      · next more =>
        cases found
        simp only [requestsOn]
        omega
    · rw [get?_uncount_of_ne same] at found
      have ⟨count, positive⟩ := sound.counted key entry found
      rw [if_neg (Ne.symm same)] at length
      simp only [requestsOn]
      omega
  shared other listed := by
    have earlier : other ∈ locks.registrations := by
      rw [present]
      rcases List.mem_append.1 listed with listed | listed <;> simp [listed]
    obtain ⟨entry, found, has⟩ := sound.shared other earlier
    by_cases same : other.key = request.key
    · -- the other one is still counted, so that the entry stays
      have ⟨count, _⟩ := sound.counted _ entry found
      have length := length_requestsOn present other.key
      rw [if_pos same.symm] at length
      have more : 0 < ((before ++ after).filter (·.key == other.key)).length :=
        List.length_pos_of_mem (List.mem_filter.2 ⟨listed, by simp⟩)
      rw [same] at found ⊢
      refine ⟨{ entry with holders := entry.holders - 1 }, ?_, has⟩
      rw [get?_uncount_self found, if_neg]
      omega
    · rw [get?_uncount_of_ne same]
      exact ⟨entry, found, has⟩
  distinct := sound.distinct
  taken lock := by
    have count := sound.count_taken present lock
    have idle : request.has lock = false := by simp [Registration.has, leaves]
    rw [idle] at count
    rw [List.countP_append, count, if_neg Bool.false_ne_true, Nat.add_zero]
  apart key other entry entry' found found' same := by
    obtain ⟨earlier, filed, has⟩ := exists_of_get?_uncount found
    obtain ⟨earlier', filed', has'⟩ := exists_of_get?_uncount found'
    exact sound.apart key other earlier earlier' filed filed' (by rw [has, has', same])
  made key entry found := by
    obtain ⟨earlier, filed, has⟩ := exists_of_get?_uncount found
    exact has ▸ sound.made key earlier filed

/-- **Every move keeps the registrations sound.** -/
theorem Sound.move (sound : locks.Sound) (moved : Move locks changed) : changed.Sound := by
  cases moved with
  | register key ticket => exact sound.register key ticket
  | @grant before after request present waits isFree =>
    refine sound.stage present .holding _ (List.nodup_cons.2 ⟨isFree, sound.distinct⟩) fun lock => ?_
    have count := sound.count_taken present lock
    rw [List.countP_append, List.countP_cons, List.count_cons, count]
    simp [Registration.has, waits]
    omega
  | @cancel before after request present waits =>
    refine sound.stage present .leaving _ sound.distinct fun lock => ?_
    have count := sound.count_taken present lock
    rw [List.countP_append, List.countP_cons, count]
    simp [Registration.has, waits]
  | @release before after request present holds =>
    refine sound.stage present .leaving _ (sound.distinct.erase _) fun lock => ?_
    have count := sound.count_taken present lock
    rw [List.countP_append, List.countP_cons, List.count_erase, count]
    simp [Registration.has, holds]
  | deregister present leaves => exact sound.deregister present leaves

/-- **Whatever any number of requests come to is sound.** -/
theorem Reached.sound (reached : locks.Reached) : locks.Sound := by
  induction reached with
  | none => exact sound_none
  | move _ moved sound => exact sound.move moved

end NamedLocks

end FibrePool
