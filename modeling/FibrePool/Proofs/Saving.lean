import FibrePool.Proofs.Lookup
import FibrePool.Store.Snapshot
import Mathlib.Data.List.Basic

/-!
# Failed saves

A save writes to a temporary file beside its target and renames that over the target when all is
written.  So what can go wrong happens to the temporary file, and what stands elsewhere stays: a
save that fails touches nothing but the place of the temporary file (`FileSystem.save_eq_error`), and
one that succeeds leaves the whole text at the target (`FileSystem.read_of_save_ok`).

The temporary file has the name of the target with another extension.  When the target has that
extension itself, both are the same file, and a save that fails takes the target away with what it
held (`failed_save_takes_snapshot`).  With any other target nothing is lost
(`failed_save_loses_nothing`).
-/

namespace FibrePool

set_option autoImplicit false

/-! ## The texts of paths -/

namespace FilePath

/-- What the text of everything in a directory begins with. -/
def inside (directory : List String) : String :=
  if directory = [] then "/" else text { names := directory } ++ "/"

theorem text_append_singleton (directory : List String) (name : String) :
    text { names := directory ++ [name] } = inside directory ++ name := by
  unfold inside text
  split
  · next root => simp [root]
  · next below => simp [String.intercalate_append_of_ne_nil below, String.append_assoc]

theorem length_text_le (directory further : List String) :
    (text { names := directory }).length ≤ (inside (directory ++ further)).length := by
  by_cases root : directory = []
  · subst root
    rw [List.nil_append, inside]
    split <;> simp [text]
  · rw [inside, if_neg (by simp [root]), text, text]
    by_cases last : further = []
    · simp [last]
    · rw [String.intercalate_append_of_ne_nil root last]
      simp only [String.length_append]
      omega

/-- A path with a proper last name has another text than every place on the way to it. -/
theorem text_append_ne_text {directory further : List String} {name : String}
    (proper : name ≠ "") :
    text { names := directory ++ further ++ [name] } ≠ text { names := directory } := by
  intro same
  have short := length_text_le directory further
  rw [← same, text_append_singleton, String.length_append] at short
  have some : name.length ≠ 0 := fun empty => proper (String.length_eq_zero_iff.1 empty)
  omega

theorem text_append_inj {directory : List String} {name other : String}
    (same : text { names := directory ++ [name] } = text { names := directory ++ [other] }) :
    name = other := by
  rw [text_append_singleton, text_append_singleton] at same
  have lists := congrArg String.toList same
  rw [String.toList_append, String.toList_append] at lists
  exact String.toList_inj.1 (List.append_cancel_left lists)

theorem temporaryName_ne_empty (name : String) : temporaryName name ≠ "" := by
  unfold temporaryName
  split
  · split <;> simp
  · simp

end FilePath

/-! ## The temporary file -/

namespace FilePath

/-- The temporary file of a place is another file than the place itself. -/
def HasOwnTemporary (path : FilePath) : Prop :=
  ∀ name, path.names.getLast? = some name → temporaryName name ≠ name

/-- A place whose temporary file can be written has a proper name. -/
theorem exists_of_temporary {target : FilePath} {last : String}
    (named : target.temporary.names.getLast? = some last) (proper : last ≠ "") :
    ∃ directory name, name ≠ "" ∧ target.names = directory ++ [name] ∧
      target.temporary = { names := directory ++ [temporaryName name] } := by
  unfold temporary at named ⊢
  split at named
  · next none => cases named.symm.trans none
  · next empty =>
    cases named.symm.trans empty
    exact absurd rfl proper
  · next name other found =>
    refine ⟨target.names.dropLast, name, other, ?_, rfl⟩
    exact (List.dropLast_append_getLast? name found).symm

end FilePath

/-! ## Looking at changed files -/

namespace FileSystem

open FilePath

variable {files changed saved left : FileSystem} {path target : FilePath}
  {names directory : List String} {name content : String}

theorem entry?_congr (same : changed.entries.get? path.text = files.entries.get? path.text) :
    changed.entry? path = files.entry? path := by
  unfold entry?
  rw [same]

theorem entry?_append_singleton (proper : name ≠ "") :
    files.entry? { names := directory ++ [name] } =
      files.entries.get? (text { names := directory ++ [name] }) := by
  unfold entry?
  split
  · next none => simp at none
  · next empty => exact absurd (by simpa using empty) proper
  · rfl

/-- Every place on the way into a directory is a directory. -/
def Leads (files : FileSystem) (names : List String) : Prop :=
  ∀ first further, names = first ++ further →
    files.entry? { names := first } = some .directory

theorem walk_congr (names : List String) {rest : List String}
    (same : ∀ first further, rest = first ++ further → further ≠ [] →
      changed.entry? { names := names ++ first } = files.entry? { names := names ++ first }) :
    changed.walk { names } rest = files.walk { names } rest := by
  induction rest generalizing names with
  | nil => rfl
  | cons name rest ih =>
    have here := same [] (name :: rest) rfl (List.cons_ne_nil _ _)
    rw [List.append_nil] at here
    have further := ih (names ++ [name]) fun first further split more => by
      simpa using same (name :: first) further (by simp [split]) more
    rw [walk, walk, here, further]

theorem walk_eq_ok {rest : List String} {place : FilePath} :
    files.walk { names } rest = .ok place ↔ place = { names := names ++ rest } ∧
      ∀ first further, rest = first ++ further → further ≠ [] →
        files.entry? { names := names ++ first } = some .directory := by
  induction rest generalizing names with
  | nil =>
    constructor
    · intro walked
      refine ⟨by simpa [walk] using walked.symm, fun first further split more => ?_⟩
      exact absurd (List.append_eq_nil_iff.1 split.symm).2 more
    · rintro ⟨rfl, _⟩
      simp [walk]
  | cons name rest ih =>
    rw [walk]
    constructor
    · intro walked
      split at walked
      · next stands =>
        obtain ⟨rfl, along⟩ := ih.1 walked
        refine ⟨by simp, fun first further parts more => ?_⟩
        cases first with
        | nil => simpa using stands
        | cons head first =>
          obtain ⟨rfl, later⟩ := List.cons.inj parts
          simpa using along first further later more
      · cases walked
      · cases walked
    · rintro ⟨rfl, along⟩
      have here := along [] (name :: rest) rfl (List.cons_ne_nil _ _)
      rw [List.append_nil] at here
      rw [here]
      refine ih.2 ⟨by simp, fun first further split more => ?_⟩
      simpa using along (name :: first) further (by simp [split]) more

theorem look_eq (path : FilePath) : files.look path =
    (files.walk { names := [] } path.names).bind fun place =>
      match files.entry? place with
      | some .directory => .ok .directory
      | some (.file content) =>
        if path.asDirectory then .error FileEntry.errorOfNoDirectory else .ok (.file content)
      | none => .error FileEntry.errorOfMissing := by
  unfold look
  cases files.walk { names := [] } path.names with
  | error code => rfl
  | ok place =>
    simp only [bind, Except.bind]
    cases files.entry? place with
    | none => rfl
    | some entry =>
      cases entry with
      | directory => rfl
      | file content =>
        dsimp only
        split <;> rfl

/-- A directory is what one finds where all is directories on the way. -/
theorem leads_of_look (found : files.look { names } = .ok .directory) : files.Leads names := by
  rw [look_eq] at found
  cases walked : files.walk { names := [] } names with
  | error code => simp [walked, Except.bind] at found
  | ok place =>
    obtain ⟨rfl, along⟩ := walk_eq_ok.1 walked
    simp only [walked, Except.bind, List.nil_append, Bool.false_eq_true, if_false] at found
    intro first further split
    cases further with
    | nil =>
      rw [split, List.append_nil] at found
      split at found
      · next stands => exact stands
      · cases found
      · cases found
    | cons next further =>
      simpa using along first (next :: further) split (List.cons_ne_nil _ _)

theorem read_of_leads (leads : files.Leads directory)
    (stands : files.entry? { names := directory ++ [name] } = some (.file content))
    (names : path.names = directory ++ [name]) (plain : path.asDirectory = false) :
    files.read path = .ok content := by
  have walked : files.walk { names := [] } path.names = .ok { names := directory ++ [name] } := by
    rw [names]
    refine walk_eq_ok.2 ⟨rfl, fun first further split more => ?_⟩
    obtain ⟨most, last, rfl⟩ := (List.eq_nil_or_concat' further).resolve_left more
    rw [← List.append_assoc] at split
    exact leads first most (List.append_inj_left' split rfl)
  rw [read, look_eq, walked]
  simp [Except.bind, bind, stands, plain]
  rfl

theorem read_congr
    (same : ∀ first further, path.names = first ++ further →
      changed.entry? { names := first } = files.entry? { names := first }) :
    changed.read path = files.read path := by
  have walked : changed.walk { names := [] } path.names = files.walk { names := [] } path.names :=
    walk_congr [] fun first further split _ => by simpa using same first further split
  rw [read, read, look_eq, look_eq, walked]
  cases reached : files.walk { names := [] } path.names with
  | error code => rfl
  | ok place =>
    obtain ⟨rfl, _⟩ := walk_eq_ok.1 reached
    have here := same path.names [] (List.append_nil _).symm
    simp only [Except.bind, List.nil_append, here]

/-! ## The steps of a save -/

/-- The files agree at every place but that of one text. -/
def AgreesOff (files changed : FileSystem) (text : String) : Prop :=
  ∀ key ≠ text, changed.entries.get? key = files.entries.get? key

theorem agreesOff_put (files : FileSystem) (path : FilePath) (entry : FileEntry) :
    files.AgreesOff (files.put path entry) path.text :=
  fun _ different => OrderedMap.get?_insert_of_ne _ different entry

theorem agreesOff_remove (files : FileSystem) (path : FilePath) :
    files.AgreesOff (files.remove path) path.text :=
  fun _ different => OrderedMap.get?_erase_of_ne _ different

theorem AgreesOff.trans {further : FileSystem} {text : String}
    (first : files.AgreesOff changed text) (second : changed.AgreesOff further text) :
    files.AgreesOff further text :=
  fun key different => (second key different).trans (first key different)

theorem write_eq_ok (written : files.write path content = .ok changed) :
    changed = files.put path (.file content) ∧
      files.look path.parent = .ok .directory ∧
        ∃ last, path.names.getLast? = some last ∧ last ≠ "" := by
  unfold write at written
  cases named : path.names.getLast? with
  | none => simp [named, bind, Except.bind, throw, throwThe, MonadExceptOf.throw] at written
  | some last =>
    by_cases empty : last = ""
    · subst empty
      simp [named, bind, Except.bind, throw, throwThe, MonadExceptOf.throw] at written
    · cases parent : files.look path.parent with
      | error code => simp [named, parent, bind, Except.bind] at written
      | ok entry =>
        cases entry with
        | file text =>
          simp [named, parent, bind, Except.bind, throw, throwThe, MonadExceptOf.throw] at written
        | directory =>
          refine ⟨?_, rfl, last, rfl, empty⟩
          simp only [named, parent, bind, Except.bind, pure, Except.pure, throw, throwThe,
            MonadExceptOf.throw] at written
          split at written
          · cases written
          · split at written
            · cases written
            · exact (Except.ok.inj written).symm

theorem rename_eq_ok (renamed : files.rename path target = .ok changed) :
    ∃ content, files.read path = .ok content ∧ target.asDirectory = false ∧
      changed = (files.remove path).put target (.file content) := by
  unfold rename at renamed
  cases held : files.read path with
  | error code => simp [held, bind, Except.bind] at renamed
  | ok content =>
    simp only [held, bind, Except.bind, pure, Except.pure, throw, throwThe,
      MonadExceptOf.throw] at renamed
    split at renamed
    · cases renamed
    · next plain =>
      split at renamed
      · cases renamed
      · exact ⟨content, rfl, by simpa using plain, (Except.ok.inj renamed).symm⟩

/-- With a fault, a save stops at its step at the latest. -/
theorem saveSteps_of_fault (fault : SaveFault) :
    files.saveSteps (some fault) target content =
      match fault.step, files.write target.temporary "" with
      | .create, _ => .error (fault.code, files)
      | _, .error code => .error (code, files)
      | .write, .ok created =>
        .error (fault.code, created.put target.temporary (.file fault.written))
      | _, .ok created => .error (fault.code, created.put target.temporary (.file content)) := by
  obtain ⟨step, code, written⟩ := fault
  dsimp only [saveSteps]
  cases step <;> cases files.write target.temporary "" <;> rfl

theorem saveSteps_of_none : files.saveSteps none target content =
    match files.write target.temporary "" with
    | .error code => .error (code, files)
    | .ok created =>
      match (created.put target.temporary (.file content)).rename target.temporary target with
      | .error code => .error (code, created.put target.temporary (.file content))
      | .ok saved => .ok saved := by
  dsimp only [saveSteps]
  cases files.write target.temporary "" with
  | error code => rfl
  | ok created =>
    show unchanged (created.put target.temporary (.file content))
      ((created.put target.temporary (.file content)).rename target.temporary target) = _
    dsimp only
    cases (created.put target.temporary (.file content)).rename target.temporary target <;> rfl

/-- **A save succeeds only without a fault**, and then the temporary file has been written and
renamed. -/
theorem saveSteps_eq_ok {fault : Option SaveFault}
    (steps : files.saveSteps fault target content = .ok saved) :
    fault = none ∧ ∃ created, files.write target.temporary "" = .ok created ∧
      (created.put target.temporary (.file content)).rename target.temporary target = .ok saved := by
  cases fault with
  | some fault =>
    rw [saveSteps_of_fault] at steps
    split at steps <;> cases steps
  | none =>
    rw [saveSteps_of_none] at steps
    split at steps
    · cases steps
    · next created done =>
      split at steps
      · cases steps
      · next renamed =>
        cases steps
        exact ⟨rfl, created, done, renamed⟩

/-- A save that fails has not touched anything, or has written something to the temporary file. -/
theorem saveSteps_eq_error {fault : Option SaveFault} {code : Int}
    (steps : files.saveSteps fault target content = .error (code, left)) :
    left = files ∨ ∃ created text, files.write target.temporary "" = .ok created ∧
      left = created.put target.temporary (.file text) := by
  cases fault with
  | some fault =>
    rw [saveSteps_of_fault] at steps
    split at steps
    · cases steps
      exact .inl rfl
    · cases steps
      exact .inl rfl
    · next created done =>
      cases steps
      exact .inr ⟨_, _, done, rfl⟩
    · next created done _ _ =>
      cases steps
      exact .inr ⟨_, _, done, rfl⟩
  | none =>
    rw [saveSteps_of_none] at steps
    split at steps
    · cases steps
      exact .inl rfl
    · next created done =>
      split at steps
      · cases steps
        exact .inr ⟨_, _, done, rfl⟩
      · cases steps

/-! ## What a save leaves -/

theorem exists_of_entry?_file (stands : files.entry? path = some (.file content)) :
    ∃ last, path.names.getLast? = some last ∧ last ≠ "" := by
  unfold entry? at stands
  split at stands
  · cases stands
  · cases stands
  · next last other named => exact ⟨last, named, other⟩

/-- **A save that fails leaves everything as it was, but for the temporary file** of a target with a
proper name. -/
theorem save_eq_error {fault : Option SaveFault} {failure : Failure}
    (failed : files.save fault target content = (.error failure, left)) :
    left = files ∨ ∃ directory name, name ≠ "" ∧ target.names = directory ++ [name] ∧
      files.AgreesOff left (text { names := directory ++ [temporaryName name] }) := by
  -- where something is written or taken away, the temporary file has a name of its own
  have touched (last : String) (named : target.temporary.names.getLast? = some last)
      (proper : last ≠ "") (agree : files.AgreesOff left target.temporary.text) :
      ∃ directory name, name ≠ "" ∧ target.names = directory ++ [name] ∧
        files.AgreesOff left (text { names := directory ++ [temporaryName name] }) := by
    obtain ⟨directory, name, other, names, same⟩ := exists_of_temporary named proper
    exact ⟨directory, name, other, names, same ▸ agree⟩
  unfold save at failed
  split at failed
  · cases failed
  · next code after steps =>
    have agree : files.AgreesOff after target.temporary.text := by
      rcases saveSteps_eq_error steps with rfl | ⟨created, text, done, rfl⟩
      · exact fun _ _ => rfl
      · rw [(write_eq_ok done).1]
        exact (agreesOff_put _ _ _).trans (agreesOff_put _ _ _)
    split at failed
    · next text stands =>
      cases failed
      obtain ⟨last, named, proper⟩ := exists_of_entry?_file stands
      exact .inr (touched last named proper (agree.trans (agreesOff_remove _ _)))
    · cases failed
      rcases saveSteps_eq_error steps with rfl | ⟨created, text, done, rfl⟩
      · exact .inl rfl
      · obtain ⟨_, _, last, named, proper⟩ := write_eq_ok done
        exact .inr (touched last named proper agree)

/-- What is read at a target does not depend on its temporary file, if that is another file. -/
theorem read_of_agreesOff {name : String} (names : path.names = directory ++ [name])
    (own : temporaryName name ≠ name)
    (agree : files.AgreesOff changed (text { names := directory ++ [temporaryName name] })) :
    changed.read path = files.read path := by
  refine read_congr fun first further parts => entry?_congr (agree _ ?_)
  rw [names] at parts
  rcases List.eq_nil_or_concat' further with rfl | ⟨most, last, rfl⟩
  · rw [List.append_nil] at parts
    rw [← parts]
    exact fun same => own (text_append_inj same).symm
  · rw [← List.append_assoc] at parts
    have way : directory = first ++ most := List.append_inj_left' parts rfl
    rw [way]
    exact (text_append_ne_text (temporaryName_ne_empty name)).symm

theorem read_of_save_error {fault : Option SaveFault} {failure : Failure}
    (own : target.HasOwnTemporary)
    (failed : files.save fault target content = (.error failure, left)) :
    left.read target = files.read target := by
  rcases save_eq_error failed with rfl | ⟨directory, name, _, names, agree⟩
  · rfl
  · exact read_of_agreesOff names (own name (by simp [names])) agree

/-- The way into a directory is not touched by what happens to a file in it. -/
theorem Leads.of_agreesOff (leads : files.Leads directory) (proper : name ≠ "")
    (agree : files.AgreesOff changed (text { names := directory ++ [name] })) :
    changed.Leads directory := by
  intro first further parts
  rw [← leads first further parts]
  refine entry?_congr (agree _ ?_)
  rw [parts]
  exact (text_append_ne_text proper).symm

theorem Leads.read_put (leads : files.Leads directory) (proper : name ≠ "") (content : String) :
    (files.put { names := directory ++ [name] } (.file content)).read
      { names := directory ++ [name] } = .ok content := by
  have still := leads.of_agreesOff proper (agreesOff_put files _ (.file content))
  refine read_of_leads still ?_ rfl rfl
  rw [entry?_append_singleton proper]
  exact OrderedMap.get?_insert_self _ _ _

/-- **A save that succeeds leaves the whole text at the target.** -/
theorem read_of_save_ok {fault : Option SaveFault}
    (done : files.save fault target content = (.ok (), saved)) :
    fault = none ∧ saved.read target = .ok content := by
  unfold save at done
  split at done
  · next after steps =>
    cases done
    obtain ⟨unfaulty, created, written, renamed⟩ := saveSteps_eq_ok steps
    refine ⟨unfaulty, ?_⟩
    obtain ⟨rfl, parent, last, named, proper⟩ := write_eq_ok written
    obtain ⟨directory, name, other, names, same⟩ := exists_of_temporary named proper
    obtain ⟨held, read, plain, rfl⟩ := rename_eq_ok renamed
    obtain rfl : target = { names := directory ++ [name] } := by
      cases target
      simp_all
    rw [same] at parent read ⊢
    rw [FilePath.parent, List.dropLast_concat] at parent
    have leads := leads_of_look parent
    have ending := temporaryName_ne_empty name
    have created := leads.of_agreesOff ending (agreesOff_put files _ (.file ""))
    have filled := created.of_agreesOff ending (agreesOff_put _ _ (.file content))
    have removed := filled.of_agreesOff ending (agreesOff_remove _ _)
    rw [created.read_put ending content] at read
    cases read
    exact removed.read_put other content
  · split at done <;> cases done

end FileSystem

/-! ## Stores that are saved -/

namespace Store

/-- What a store with a snapshot goes through: it is opened, transactions succeed or fail, their
saves with or without a fault, and others may change files in a way that leaves the snapshot as it
reads.  Known besides are the files and what the snapshot read after the last save that succeeded,
or when the store was opened. -/
inductive Course (path : FilePath) : Store → FileSystem → Except Int String → Prop where
  | opened {store : Store} {files : FileSystem}
    (opens : ofSnapshot files path = .ok store) : Course path store files (files.read path)
  | elsewhere {store : Store} {files changed : FileSystem} {last : Except Int String}
    (course : Course path store files last) (same : changed.read path = files.read path) :
    Course path store changed last
  | committed {α : Type} {store after : Store} {files saved : FileSystem}
    {last : Except Int String} {change : Transaction α} {fault : Option SaveFault} {result : α}
    (course : Course path store files last)
    (done : store.transact files fault change = (.ok result, after, saved)) :
    Course path after saved (.ok (snapshotText after.tables))
  | refused {α : Type} {store after : Store} {files left : FileSystem}
    {last : Except Int String} {change : Transaction α} {fault : Option SaveFault}
    {failure : Failure} (course : Course path store files last)
    (failed : store.transact files fault change = (.error failure, after, left)) :
    Course path after left last

variable {α : Type} {path : FilePath} {store after : Store} {files left saved : FileSystem}
  {last : Except Int String} {change : Transaction α} {fault : Option SaveFault}

/-- A transaction that fails leaves the store as it was, and the files as they were or as a save
that failed has left them. -/
theorem transact_eq_error {failure : Failure} (backed : store.snapshot = some path)
    (failed : store.transact files fault change = (.error failure, after, left)) :
    after = store ∧ (left = files ∨ ∃ content,
      files.save fault path content = (.error failure, left)) := by
  unfold transact at failed
  rw [backed] at failed
  split at failed
  · cases failed
    exact ⟨rfl, .inl rfl⟩
  · dsimp only at failed
    split at failed
    · cases failed
    · next stopped =>
      cases failed
      exact ⟨rfl, .inr ⟨_, stopped⟩⟩

/-- A transaction that succeeds has saved the tables that the store has then. -/
theorem transact_eq_ok {result : α} (backed : store.snapshot = some path)
    (done : store.transact files fault change = (.ok result, after, saved)) :
    after.snapshot = some path ∧
      files.save fault path (snapshotText after.tables) = (.ok (), saved) := by
  unfold transact at done
  rw [backed] at done
  split at done
  · cases done
  · dsimp only at done
    split at done
    · next saves =>
      cases done
      exact ⟨rfl, saves⟩
    · cases done

theorem snapshot_of_ofSnapshot (opens : ofSnapshot files path = .ok store) :
    store.snapshot = some path := by
  unfold ofSnapshot at opens
  split at opens
  · split at opens
    · next text read =>
      cases tables : tablesOf text with
      | error failure => simp [tables, bind, Except.bind] at opens
      | ok held =>
        simp only [tables, bind, Except.bind, pure, Except.pure] at opens
        cases opens
        rfl
    · cases opens
  · cases opens
    rfl

/-- The snapshot of a store reads as it did after the last save that succeeded. -/
theorem Course.read_eq (course : Course path store files last) (own : path.HasOwnTemporary) :
    store.snapshot = some path ∧ files.read path = last := by
  induction course with
  | opened opens => exact ⟨snapshot_of_ofSnapshot opens, rfl⟩
  | elsewhere _ same ih => exact ⟨ih.1, same.trans ih.2⟩
  | committed _ done ih =>
    obtain ⟨backed, saves⟩ := transact_eq_ok ih.1 done
    exact ⟨backed, (FileSystem.read_of_save_ok saves).2⟩
  | refused _ failed ih =>
    obtain ⟨rfl, rfl | ⟨content, stopped⟩⟩ := transact_eq_error ih.1 failed
    · exact ih
    · exact ⟨ih.1, (FileSystem.read_of_save_error own stopped).trans ih.2⟩

/-- **A save that fails loses nothing, unless it uses the snapshot itself as the temporary file.**
Whatever a store has been through, and at whatever step the save of its next transaction fails: the
transaction fails, and after a transaction that fails the store holds the tables that it held and
the snapshot reads as after the last save that succeeded. -/
theorem failed_save_loses_nothing (course : Course path store files last)
    (own : path.HasOwnTemporary) (change : Transaction α) (fault : Option SaveFault) :
    (fault.isSome = true → ∃ failure after left,
      store.transact files fault change = (.error failure, after, left)) ∧
    ∀ failure after left, store.transact files fault change = (.error failure, after, left) →
      after = store ∧ left.read path = last := by
  obtain ⟨backed, reads⟩ := course.read_eq own
  constructor
  · intro faulty
    rcases outcome : store.transact files fault change with ⟨failure | result, after, saved⟩
    · exact ⟨failure, after, saved, rfl⟩
    · obtain ⟨_, saves⟩ := transact_eq_ok backed outcome
      rw [(FileSystem.read_of_save_ok saves).1] at faulty
      cases faulty
  · intro failure after left failed
    obtain ⟨rfl, rfl | ⟨content, stopped⟩⟩ := transact_eq_error backed failed
    · exact ⟨rfl, reads⟩
    · exact ⟨rfl, (FileSystem.read_of_save_error own stopped).trans reads⟩

/-- A snapshot in the directory `state`. -/
def Sample.snapshot (name : String) : FilePath := { names := ["state", name] }

/-- Files with nothing but the directory `state`. -/
def Sample.vacant : FileSystem := ({} : FileSystem).makeDirectory { names := ["state"] }

/-- The fault of a disk that is full when half of the text is written. -/
def Sample.fullDisk : SaveFault := ⟨.write, 28, "\x7b"⟩

/-- What comes of the first transaction on a store with a snapshot that is not there yet. -/
def Sample.first (name : String) : Outcome Unit × Store × FileSystem :=
  transact { snapshot := some (snapshot name) } vacant none (Tables.deleteDevices [])

theorem Sample.course (name : String) (absent : vacant.isThere (snapshot name) = false)
    (done : (first name).1 = .ok ()) :
    Course (snapshot name) (first name).2.1 (first name).2.2
      (.ok (snapshotText (first name).2.1.tables)) := by
  have opens : ofSnapshot vacant (snapshot name) = .ok { snapshot := some (snapshot name) } := by
    rw [ofSnapshot, absent]
    rfl
  exact .committed (.opened opens) (Prod.ext done rfl)

/-- After a first transaction the disk is full, and nothing is lost. -/
theorem failed_save_loses_nothing_on_full_disk :
    (Sample.snapshot "fcp.json").HasOwnTemporary ∧
      ∃ failure after left, (Sample.first "fcp.json").2.1.transact (Sample.first "fcp.json").2.2
          (some Sample.fullDisk) (Tables.deleteDevices []) = (.error failure, after, left) ∧
        after = (Sample.first "fcp.json").2.1 ∧
        left.read (Sample.snapshot "fcp.json") = .ok (snapshotText ∅) := by
  have own : (Sample.snapshot "fcp.json").HasOwnTemporary := by
    intro name named
    cases named
    decide
  have course := Sample.course "fcp.json" (by decide) (by decide)
  have ⟨fails, keeps⟩ :=
    failed_save_loses_nothing course own (Tables.deleteDevices []) (some Sample.fullDisk)
  obtain ⟨failure, after, left, failed⟩ := fails rfl
  exact ⟨own, failure, after, left, failed, keeps failure after left failed⟩

/-- **A snapshot that is its own temporary file is lost** when the disk is full: the save has taken
its content away before anything was written, and then the file itself. -/
theorem failed_save_takes_snapshot :
    ∃ (path : FilePath) (store : Store) (files : FileSystem) (last : String),
      Course path store files (.ok last) ∧ files.read path = .ok last ∧
        ∃ failure left, store.transact files (some Sample.fullDisk) (Tables.deleteDevices []) =
          (.error failure, store, left) ∧ left.read path = .error FileEntry.errorOfMissing := by
  refine ⟨Sample.snapshot "fcp.tmp", (Sample.first "fcp.tmp").2.1, (Sample.first "fcp.tmp").2.2,
    _, Sample.course "fcp.tmp" (by decide) (by decide), by decide, .system 28, ?_⟩
  refine ⟨((Sample.first "fcp.tmp").2.1.transact (Sample.first "fcp.tmp").2.2
    (some Sample.fullDisk) (Tables.deleteDevices [])).2.2, ?_, by decide⟩
  exact Prod.ext (by decide) (Prod.ext (by decide) rfl)

end Store

end FibrePool
