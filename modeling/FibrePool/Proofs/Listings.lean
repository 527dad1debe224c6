import FibrePool.Proofs.AllOrNothing
import FibrePool.Proofs.Confined
import FibrePool.Proofs.Looking

/-!
# Listings of templates

A listing looks which templates there are, and then it looks at each of them once more, and twice
for details.  It never waits, and it tells of exactly the templates that it found at its first look
as long as these are there at its later looks.  No other listing and no creation or edit of a
template can change that, only a deletion of one that was found (`Volume.listing_gives_found`).

A template that has been deleted meanwhile is not left out, though: the look at it fails, and with
it the whole listing (`Volume.listing_fails_amid_deletion`).
-/

namespace FibrePool

set_option autoImplicit false

open Workflow

/-! ## Looks at the templates that were found -/

/-- The templates with these ids are there. -/
def Tables.Has (tables : Tables) (kept : String → Prop) : Prop :=
  ∀ id, kept id → ∃ stored, tables.templates.get? id = some stored

/-- One of the templates was not found any more, which was not among those that are kept. -/
def Failure.Misses (found : List Template) (kept : String → Prop) (failure : Failure) : Prop :=
  ∃ template ∈ found, ¬ kept template.id ∧ failure = .templateNotFound template.id

namespace Tables

variable {kept : String → Prop}

theorem createTemplate_keeps_has (template : Template) (paths : PathMap)
    (providers : List String) : (createTemplate template paths providers).Keeps (·.Has kept) := by
  intro tables result after has done id keeps
  obtain ⟨stored, there⟩ := has id keeps
  rw [get?_file (createTemplate_eq_ok done).2.2.1, there]
  split
  · exact ⟨template, rfl⟩
  · exact ⟨_, rfl⟩

theorem editTemplate_keeps_has (edited : String) (changes : TemplateChanges) :
    (editTemplate edited changes).Keeps (·.Has kept) := by
  intro tables result after has done id keeps
  obtain ⟨stored, there⟩ := has id keeps
  obtain ⟨_, _, _, _, same⟩ := editTemplate_eq_ok done
  rw [get?_file same, there]
  split
  · exact ⟨result, rfl⟩
  · exact ⟨_, rfl⟩

theorem deleteTemplate_keeps_has {deleted : String} (other : ¬ kept deleted) :
    (deleteTemplate deleted).Keeps (·.Has kept) := by
  intro tables result after has done id keeps
  have different : id ≠ deleted := by
    rintro rfl
    exact other keeps
  rw [(deleteTemplate_eq_ok done).2.2.1, OrderedMap.get?_erase_of_ne _ different]
  exact has id keeps

end Tables

namespace Pool

variable {kept : String → Prop} {template : Template} {found : List Template}

/-- The paths of a template that is kept are found. -/
theorem pathMapping_is {tables : Tables} (has : tables.Has kept) (listed : template ∈ found) :
    (tables.pathMapping template.id).Is (fun _ => True) (Failure.Misses found kept) := by
  cases stored : tables.templates.get? template.id with
  | some found =>
    rw [Tables.pathMapping, Tables.template_eq_ok.2 stored]
    trivial
  | none =>
    have absent : ¬ kept template.id := fun keeps => by
      obtain ⟨_, there⟩ := has template.id keeps
      cases stored.symm.trans there
    rw [Tables.pathMapping, Tables.template, stored]
    exact ⟨template, listed, absent, rfl⟩

theorem summarize_looks (listed : template ∈ found) :
    (summarize template).Looks (·.Has kept) (fun summary => summary.template = template)
      (Failure.Misses found kept) 2 := by
  have bindings : (ask (·.bindingsOf template.id)).Looks (·.Has kept) (fun _ => True)
      (Failure.Misses found kept) 1 := looks_ask fun _ _ => trivial
  refine (looks_askFor fun tables has => pathMapping_is has listed).bind fun paths _ => ?_
  exact bindings.bind fun providers _ => looks_pure rfl

/-- The summaries are those of the templates that were found. -/
theorem summaries_look (found : List Template) :
    (found.mapM summarize).Looks (·.Has kept) (fun summaries => summaries.map (·.template) = found)
      (Failure.Misses found kept) (found.length * 2) := by
  have each (template : Template) (listed : template ∈ found) :
      (summarize template).Looks (·.Has kept) (fun summary => summary.template = id template)
        (Failure.Misses found kept) 2 := summarize_looks listed
  have all := looks_mapM each
  rwa [List.map_id] at all

/-- The details of one template, of which the records are known. -/
def detailsOf (known : OrderedMap DeviceId DeviceRecord) (records statistics : Bool)
    (summary : TemplateSummary) : Workflow TemplateDetails := do
  let paths ← askFor (·.pathMapping summary.template.id)
  let lists := paths.mapValues fun _ ids => ids.keys.filterMap known.get?
  return {
    summary
    records := if records then some lists else none
    statistics := if statistics then some (Statistics.ofPaths paths known) else none }

/-- The details are those of the templates that were found. -/
theorem allDetails_look {summaries : List TemplateSummary}
    (listed : summaries.map (·.template) = found) (known : OrderedMap DeviceId DeviceRecord)
    (records statistics : Bool) :
    (summaries.mapM (detailsOf known records statistics)).Looks (·.Has kept)
      (fun details => details.map (·.summary.template) = found) (Failure.Misses found kept)
      found.length := by
  have each (summary : TemplateSummary) (member : summary ∈ summaries) :
      (detailsOf known records statistics summary).Looks (·.Has kept)
        (fun details => details.summary.template = summary.template)
        (Failure.Misses found kept) 1 := by
    have own : summary.template ∈ found := listed ▸ List.mem_map_of_mem member
    rw [← Nat.zero_add 1]
    refine (looks_askFor fun tables has => pathMapping_is has own).bind fun paths _ => ?_
    exact looks_pure rfl
  have all := looks_mapM each
  rwa [listed, Nat.mul_one, ← List.length_map (·.template), listed] at all

/-- What is looked at for details once it is known which templates there are. -/
def detailsOfAll (records statistics : Bool) (found : List Template) :
    Workflow (List TemplateDetails) := do
  let summaries ← found.mapM summarize
  let known ← if records || statistics then ask recordsById else pure ∅
  summaries.mapM (detailsOf known records statistics)

/-- The filter of a request for details. -/
def idsFilter : Option (List String) → TemplateFilter
  | some ids => .ids ids
  | none => .all

theorem details_eq (settings : PoolSettings) (ids : Option (List String))
    (records statistics : Bool) :
    details settings ids records statistics false =
      ask (·.templatesBy (idsFilter ids)) >>= detailsOfAll records statistics := by
  simp only [details, templates, Bool.false_eq_true, if_false, bind_assoc]
  rfl

theorem detailsOfAll_look (records statistics : Bool) (found : List Template) :
    (detailsOfAll records statistics found).Looks (·.Has kept)
      (fun details => details.map (·.summary.template) = found) (Failure.Misses found kept)
      (found.length + 1 + found.length * 2) := by
  refine (summaries_look found).bind fun summaries listed => ?_
  have following (known : OrderedMap DeviceId DeviceRecord) :
      (summaries.mapM (detailsOf known records statistics)).Looks (·.Has kept)
        (fun details => details.map (·.summary.template) = found) (Failure.Misses found kept)
        found.length := allDetails_look listed known records statistics
  have lookup : (ask recordsById).Looks (·.Has kept) (fun _ => True)
      (Failure.Misses found kept) 1 := looks_ask fun _ _ => trivial
  dsimp only
  split
  · exact lookup.bind fun known _ => following known
  · exact Program.Looks.mono (following ∅) (fun _ => id) (Nat.le_succ _)

/-! ### Other work on templates -/

variable {allowed : (β : Type) → Transaction β → Prop}

theorem summarize_confined (template : Template) : (summarize template).Confined allowed := by
  refine (confined_askFor _).bind fun paths => ?_
  exact (confined_ask _).bind fun providers => confined_pure _

theorem createTemplate_confined (request : NewTemplate)
    (permitted : ∀ template paths,
      allowed Unit (Tables.createTemplate template paths request.providers)) :
    (createTemplate request).Confined allowed := by
  refine (confined_ofOutcome _).bind fun paths => (confined_ofOutcome _).bind fun _ => ?_
  refine confined_stamp.bind fun stamp => (confined_commit (permitted _ paths)).bind fun _ => ?_
  exact (confined_emit _).bind fun _ => summarize_confined _

theorem editTemplate_confined (id : String) (request : TemplateEdit)
    (permitted : ∀ changes, allowed Template (Tables.editTemplate id changes)) :
    (editTemplate id request).Confined allowed := by
  have following (paths : Option PathMap) : Confined allowed (do
      let template ← commit (Tables.editTemplate id
        { name := request.name
          description := request.description
          paths
          hostDefault := request.hostDefault
          providers := request.providers
          leastPaths := request.leastPaths })
      emit (.templateEdited id)
      summarize template) := by
    refine (confined_commit (permitted _)).bind fun template => ?_
    exact (confined_emit _).bind fun _ => summarize_confined template
  unfold editTemplate
  dsimp only
  split
  · exact ((confined_ofOutcome _).map _).bind following
  · exact (confined_pure _).bind following

theorem deleteTemplate_confined (id : String)
    (permitted : allowed Unit (Tables.deleteTemplate id)) :
    (deleteTemplate id).Confined allowed :=
  (confined_commit permitted).bind fun _ => confined_emit _

end Pool

/-! ## Listings -/

/-- The templates that a listing tells of. -/
def Output.listed : Output → List Template
  | .templates summaries => summaries.map (·.template)
  | .details all => all.map (·.summary.template)
  | _ => []

namespace Volume

/-- A listing of the templates that a filter asks for, without a reconciliation before it. -/
inductive Listing (settings : OperatorSettings) : TemplateFilter → Program (Outcome Output) → Prop
  | templates (query : TemplateQuery) :
    Listing settings query.filter (dispatch settings (.templates query)).run
  | details (ids : Option (List String)) (records statistics : Bool) :
    Listing settings (Pool.idsFilter ids)
      (dispatch settings (.details ids records statistics false)).run

/-- A listing looks at the tables, and goes on with looks at the templates that it found there. -/
theorem Listing.exists_read {settings : OperatorSettings} {filter : TemplateFilter}
    {program : Program (Outcome Output)} (listing : Listing settings filter program) :
    ∃ next, program = .read next ∧ ∀ tables kept, (next tables).Looks (·.Has kept)
      (Outcome.Is (·.listed = tables.templatesBy filter)
        (Failure.Misses (tables.templatesBy filter) kept))
      (3 * (tables.templatesBy filter).length + 2) := by
  cases listing with
  | templates query =>
    have asks : run settings (.templates query) = ask (·.templatesBy query.filter) >>=
        fun found => .templates <$> found.mapM Pool.summarize := by
      simp [run, Pool.templates]
    refine ⟨_, dispatch_eq_read asks, fun tables kept => ?_⟩
    generalize tables.templatesBy query.filter = found
    have answer : (Output.templates <$> found.mapM Pool.summarize).Looks (·.Has kept)
        (·.listed = found) (Failure.Misses found kept) (found.length * 2) :=
      (Pool.summaries_look found).map fun _ => id
    exact (looks_counted answer).mono (fun _ => id) (by omega)
  | details ids records statistics =>
    have asks : run settings (.details ids records statistics false) =
        ask (·.templatesBy (Pool.idsFilter ids)) >>=
          fun found => .details <$> Pool.detailsOfAll records statistics found := by
      simp [run, Pool.details_eq]
    refine ⟨_, dispatch_eq_read asks, fun tables kept => ?_⟩
    generalize tables.templatesBy (Pool.idsFilter ids) = found
    have answer : (Output.details <$> Pool.detailsOfAll records statistics found).Looks
        (·.Has kept) (·.listed = found) (Failure.Misses found kept)
        (found.length + 1 + found.length * 2) :=
      (Pool.detailsOfAll_look records statistics found).map fun _ => id
    exact (looks_counted answer).mono (fun _ => id) (by omega)

/-! ### Listings among other work on templates -/

/-- A listing, or a creation or an edit of a template, or the deletion of one that is not kept. -/
inductive Sparing (settings : OperatorSettings) (kept : String → Prop) :
    Program (Outcome Output) → Prop
  | listing {filter : TemplateFilter} {program : Program (Outcome Output)}
    (listing : Listing settings filter program) : Sparing settings kept program
  | creation (request : NewTemplate) :
    Sparing settings kept (dispatch settings (.createTemplate request)).run
  | edit (template : String) (request : TemplateEdit) :
    Sparing settings kept (dispatch settings (.editTemplate template request)).run
  | deletion {template : String} (other : ¬ kept template) :
    Sparing settings kept (dispatch settings (.deleteTemplate template)).run

variable {settings : OperatorSettings} {kept : String → Prop}

/-- Work on templates that spares those that are kept does nothing that would drop them. -/
theorem Sparing.confined {program : Program (Outcome Output)}
    (sparing : Sparing settings kept program) :
    program.Confined fun _ (change : Transaction _) => change.Keeps (·.Has kept) := by
  cases sparing with
  | listing listing =>
    obtain ⟨next, rfl, looks⟩ := listing.exists_read
    exact .read fun tables => (looks tables fun _ => False).confined fun _ _ => False.elim
  | creation request =>
    have whole : (run settings (.createTemplate request)).Confined
        fun _ (change : Transaction _) => change.Keeps (·.Has kept) :=
      (Pool.createTemplate_confined request
        fun _ _ => Tables.createTemplate_keeps_has _ _ _).map _
    exact confined_dispatch whole
  | edit template request =>
    have whole : (run settings (.editTemplate template request)).Confined
        fun _ (change : Transaction _) => change.Keeps (·.Has kept) :=
      ((Pool.editTemplate_confined template request
        fun _ => Tables.editTemplate_keeps_has _ _).holding _).map _
    exact confined_dispatch whole
  | @deletion template other =>
    have whole : (run settings (.deleteTemplate template)).Confined
        fun _ (change : Transaction _) => change.Keeps (·.Has kept) :=
      ((Pool.deleteTemplate_confined template
        (Tables.deleteTemplate_keeps_has other)).holding _).bind fun _ => confined_pure _
    exact confined_dispatch whole

/-- Templates outlast work that spares them. -/
theorem has_throughout {first last : Scheduler (Outcome Output)}
    {moves : List (Move (Outcome Output))}
    (interleaving : Interleaving (Dispatched settings) first moves last)
    (disciplined : first.Disciplined none)
    (sparing : ∀ move ∈ moves, Sparing settings kept move.task.origin)
    (has : first.store.tables.Has kept) : ∀ move ∈ moves, move.before.store.tables.Has kept := by
  refine interleaving.holds_before (·.Has kept) has fun move member now => ?_
  have confined := (sparing move member).confined
  obtain ⟨earlier, later, rfl⟩ := List.append_of_mem member
  obtain ⟨orderly, valid⟩ := interleaving.disciplined_at (fun _ => Dispatched.locks) disciplined
  have standing := orderly.standing move.task (List.mem_of_find?_eq_some valid.found) nofun
  exact Scheduler.holds_perform (confined.of_reaches standing.reaches) now

/-- **A listing tells of the templates that it found.**  From its first look on it can move at any
time, and it is over after so many moves.  If all templates of its first look are there at its later
moves it answers with exactly these; it fails only as one of them was not there any more.  Among
work on templates that deletes none of these it answers with them in any case. -/
theorem listing_gives_found {filter : TemplateFilter} {start last : Scheduler (Outcome Output)}
    {earlier later : List (Move (Outcome Output))} {look : Move (Outcome Output)}
    (interleaving : Interleaving (Dispatched settings) start (earlier ++ look :: later) last)
    (unused : start.tasks = []) (unlocked : start.locks = ∅)
    (listing : Listing settings filter look.task.origin)
    (first : look.task.rest = look.task.origin) :
    Move.turnsOf later look.task.ticket ≤
      3 * (look.before.store.tables.templatesBy filter).length + 3 ∧
    (∀ task, last.task? look.task.ticket = some task → (Move.mk last task).Valid) ∧
    Move.Ends later look.task.ticket (Outcome.Is
      (·.listed = look.before.store.tables.templatesBy filter) fun failure =>
        ∃ template ∈ look.before.store.tables.templatesBy filter,
          failure = .templateNotFound template.id ∧
          ∃ glance ∈ later, glance.task.ticket = look.task.ticket ∧
            glance.before.store.tables.templates.get? template.id = none) ∧
    (look.before.store.tables.TemplatesFiled →
      (∀ move ∈ later, Sparing settings
        (fun id => ∃ template ∈ look.before.store.tables.templatesBy filter, template.id = id)
        move.task.origin) →
      Move.Ends later look.task.ticket fun outcome => ∃ output, outcome = .ok output ∧
        output.listed = look.before.store.tables.templatesBy filter) := by
  have orderly (program : Program (Outcome Output)) := @Dispatched.locks settings program
  have quiet := Scheduler.disciplined_of_quiet unused unlocked
  obtain ⟨disciplined, valid⟩ := interleaving.disciplined_at orderly quiet
  have member := List.mem_of_find?_eq_some valid.found
  obtain ⟨_, _, afterwards⟩ := interleaving.split
  obtain ⟨next, reads, looks⟩ := listing.exists_read
  have issued : look.task.ticket < look.after.nextTicket :=
    (Scheduler.issued_perform valid.ready).symm ▸ disciplined.issued look.task member
  have looked : look.after = look.before.goOn look.task (next look.before.store.tables) :=
    Scheduler.perform_read (first.trans reads)
  have went : look.after.task? look.task.ticket =
      some { look.task with rest := next look.before.store.tables } := by
    rw [looked]
    exact Scheduler.task?_goOn valid.found _
  -- Whatever the listing sees, it only looks.
  have anyway := afterwards.looking issued went (looks _ fun _ => False)
    fun _ _ _ _ impossible => impossible.elim
  refine ⟨anyway.bound, fun task present => ?_, ?_, fun filed sparing => ?_⟩
  · obtain ⟨left, rest⟩ := anyway.under task present
    have own := Scheduler.ticket_of_task? present
    have nothing : (∅ : Tables).Has fun _ => False := fun _ impossible => impossible.elim
    exact (interleaving.disciplined orderly quiet).valid_of_looks (own ▸ present) rest nothing
  · -- What the listing sees decides how it ends.
    have seeing := afterwards.looking issued went
      (looks _ fun id => ∀ glance ∈ later, glance.task.ticket = look.task.ticket →
        ∃ stored, glance.before.store.tables.templates.get? id = some stored)
      fun move member own id kept => kept move member own
    refine seeing.ends.mono fun outcome ended => ?_
    cases outcome with
    | ok output => exact ended
    | error failure =>
      obtain ⟨template, listed, absent, rfl⟩ := ended
      push Not at absent
      obtain ⟨glance, among, own, gone⟩ := absent
      exact ⟨template, listed, rfl, glance, among, own,
        Option.eq_none_iff_forall_ne_some.2 gone⟩
  · have has : look.after.store.tables.Has fun id =>
        ∃ template ∈ look.before.store.tables.templatesBy filter, template.id = id := by
      rw [looked]
      rintro _ ⟨template, listed, rfl⟩
      exact ⟨template, Pool.stored_of_mem_templatesBy filed listed⟩
    have seen := has_throughout afterwards (disciplined.perform member valid.ready) sparing has
    have seeing := afterwards.looking issued went (looks _ _) fun move among _ => seen move among
    refine seeing.ends.mono fun outcome ended => ?_
    cases outcome with
    | ok output => exact ⟨output, rfl, ended⟩
    | error failure =>
      obtain ⟨template, listed, absent, _⟩ := ended
      exact absurd ⟨template, listed, rfl⟩ absent

end Volume

/-! ## A listing and a deletion -/

namespace Sample

open Volume

/-- The operator with a listing of all templates, whose ticket is 1, and a deletion of the template,
whose ticket is 2, after turns of theirs. -/
def listed (order : List Ticket) : Scheduler (Outcome Output) :=
  ((prepared.start (dispatch settings (.templates {})).run).2.start
    (dispatch settings (.deleteTemplate "T")).run).2.turns order

/-- Whether a task is about to end with a result. -/
def concludes (scheduler : Scheduler (Outcome Output)) (ticket : Ticket) : Bool :=
  match scheduler.task? ticket with
  | some ⟨_, _, .done outcome⟩ => succeeded outcome
  | _ => false

theorem listed_interleaving (order : List Ticket) :
    ∃ moves, Interleaving (Dispatched settings) prepared moves (listed order) := by
  obtain ⟨moves, turns⟩ := Scheduler.turns_interleaving (Dispatched settings) (listed []) order
  exact ⟨moves, .started ⟨_, rfl⟩ (.started ⟨_, rfl⟩ turns)⟩

/-- The listing is the first task that was started. -/
theorem listed_start : (listed []).task? 1 = some ⟨1, (dispatch settings (.templates {})).run,
    (dispatch settings (.templates {})).run⟩ := by
  obtain ⟨unused, _, issued⟩ := prepared_quiet
  simp [listed, Scheduler.turns, Scheduler.start, Scheduler.task?, unused, issued]

theorem exists_listed_move (order : List Ticket)
    (enabled : 1 ∈ (listed order).ready ∧ ((listed order).task? 1).isSome = true) :
    ∃ move : Move (Outcome Output), move.before = listed order ∧
      move.after = listed (order ++ [1]) ∧ move.Valid ∧ move.task.ticket = 1 :=
  Scheduler.exists_move enabled.1 enabled.2

/-- What a task is about to end with. -/
theorem exists_output {scheduler : Scheduler (Outcome Output)} {task : Task (Outcome Output)}
    (found : scheduler.task? task.ticket = some task)
    (concludes : concludes scheduler task.ticket = true) :
    ∃ output, task.rest = .done (.ok output) := by
  unfold Sample.concludes at concludes
  rw [found] at concludes
  obtain ⟨ticket, origin, rest⟩ := task
  cases rest with
  | done outcome =>
    cases outcome with
    | ok output => exact ⟨output, rfl⟩
    | error failure => cases concludes
  | _ => cases concludes

end Sample

/-- A listing tells of a template that is deleted after it has looked at its paths. -/
theorem Volume.listing_gives_found_while_deleting :
    ∃ (earlier between : List (Move (Outcome Output))) (look answer : Move (Outcome Output)),
      Interleaving (Dispatched Sample.settings) Sample.prepared
        (earlier ++ look :: (between ++ [answer])) answer.after ∧
      (look.before.store.tables.templatesBy .all).map (·.id) = ["T"] ∧
      answer.before.store.tables.templates.keys = [] ∧
      ∃ output, answer.task.rest = .done (.ok output) ∧
        output.listed = look.before.store.tables.templatesBy .all := by
  obtain ⟨look, looksAt, looked, looking, own⟩ :=
    Sample.exists_listed_move [] (by decide +kernel)
  obtain ⟨answer, answersAt, answered, answering, same⟩ :=
    Sample.exists_listed_move ([] ++ [1] ++ [2, 1, 2, 2, 2, 2, 2, 1, 1]) (by decide +kernel)
  obtain ⟨earlier, before⟩ := Sample.listed_interleaving []
  obtain ⟨between, meanwhile⟩ := Scheduler.turns_interleaving (Dispatched Sample.settings)
    (Sample.listed ([] ++ [1])) [2, 1, 2, 2, 2, 2, 2, 1, 1]
  change Interleaving _ _ _ (Sample.listed ([] ++ [1] ++ [2, 1, 2, 2, 2, 2, 2, 1, 1])) at meanwhile
  rw [← looked, ← answersAt] at meanwhile
  rw [← looksAt] at before
  have whole := before.trans (.moved looking (meanwhile.trans (.moved answering (.rest _))))
  have begins : look.task = ⟨1, (dispatch Sample.settings (.templates {})).run,
      (dispatch Sample.settings (.templates {})).run⟩ := by
    refine Option.some.inj (looking.found.symm.trans ?_)
    rw [own, looksAt, Sample.listed_start]
  have listing : Listing Sample.settings .all look.task.origin := by
    rw [begins]
    exact .templates {}
  obtain ⟨unused, unlocked, _⟩ := Sample.prepared_quiet
  obtain ⟨_, _, ends, _⟩ := listing_gives_found whole unused unlocked listing (by rw [begins])
  obtain ⟨output, ended⟩ := Sample.exists_output answering.found
    (by rw [answersAt, same]; decide +kernel)
  refine ⟨earlier, between, look, answer, whole, ?_, ?_, output, ended, ?_⟩
  · rw [looksAt]
    decide +kernel
  · rw [answersAt]
    decide +kernel
  · exact ends answer (by simp) (same.trans own.symm) _ ended

/-- **A deletion may turn a whole listing into a failure**: the template that was found is not there
any more when the listing looks at its paths. -/
theorem Volume.listing_fails_amid_deletion :
    ∃ moves, Interleaving (Dispatched Sample.settings) Sample.prepared moves
        (Sample.listed [1, 2, 2, 2, 2, 2, 2, 1, 1, 1]) ∧
      Sample.refusal (Sample.listed [1, 2, 2, 2, 2, 2, 2, 1, 1, 1]) 1 =
        some (.templateNotFound "T") ∧
      ((Sample.listed [1, 2, 2, 2, 2, 2, 2, 1, 1, 1]).result? 2).map succeeded = some true := by
  obtain ⟨moves, interleaving⟩ := Sample.listed_interleaving [1, 2, 2, 2, 2, 2, 2, 1, 1, 1]
  exact ⟨moves, interleaving, by decide +kernel⟩

end FibrePool
