import FibrePool.Proofs.Keeping

/-!
# Histories

A history is a sequence of workflows of one kind, each of which runs alone to its end on the tables
that the one before it left.  The surroundings may be others for each of them, so nothing is said
about what they answer; what was seen is part of each deed, and statements that only hold for some
answers are statements about the deeds.
-/

namespace FibrePool

set_option autoImplicit false

/-- A workflow that has run alone: what was asked for, how it ended, and what was seen of it. -/
structure Deed (Request Answer : Type) where
  asked : Request
  outcome : Outcome Answer
  seen : List Observation

variable {Request Answer : Type}

/-- The deeds lead from the tables before to the tables after. -/
inductive History (perform : Request → Workflow Answer) :
    Tables → List (Deed Request Answer) → Tables → Prop where
  | rest (tables : Tables) : History perform tables [] tables
  | deed {before after : Tables} {asked : Request} {outcome : Outcome Answer} {scene : Scene}
    {deeds : List (Deed Request Answer)} (around : Surroundings)
    (run : (perform asked).run.alone around { tables := before } = (some outcome, scene))
    (later : History perform scene.tables deeds after) :
    History perform before (⟨asked, outcome, scene.seen⟩ :: deeds) after

namespace History

variable {perform : Request → Workflow Answer} {before after : Tables}
  {deeds : List (Deed Request Answer)}

theorem nil_iff : History perform before [] after ↔ after = before := by
  constructor
  · intro history
    cases history
    rfl
  · intro same
    subst same
    exact .rest after

/-- The first deed runs alone, and the others follow on the tables that it leaves. -/
theorem cons_iff {deed : Deed Request Answer} :
    History perform before (deed :: deeds) after ↔ ∃ around scene,
      (perform deed.asked).run.alone around { tables := before } = (some deed.outcome, scene) ∧
        scene.seen = deed.seen ∧ History perform scene.tables deeds after := by
  constructor
  · intro history
    cases history with
    | deed around run later => exact ⟨around, _, run, rfl, later⟩
  · rintro ⟨around, scene, run, seen, later⟩
    obtain ⟨asked, outcome, _⟩ := deed
    cases seen
    exact .deed around run later

theorem append_iff {earlier later : List (Deed Request Answer)} :
    History perform before (earlier ++ later) after ↔
      ∃ middle, History perform before earlier middle ∧ History perform middle later after := by
  induction earlier generalizing before with
  | nil => simp [nil_iff]
  | cons deed rest ih =>
    rw [List.cons_append, cons_iff]
    constructor
    · rintro ⟨around, scene, run, seen, further⟩
      obtain ⟨middle, first, second⟩ := ih.1 further
      exact ⟨middle, cons_iff.2 ⟨around, scene, run, seen, first⟩, second⟩
    · rintro ⟨middle, first, second⟩
      obtain ⟨around, scene, run, seen, further⟩ := cons_iff.1 first
      exact ⟨around, scene, run, seen, ih.2 ⟨middle, further, second⟩⟩

end History

/-! ## Conditions on every deed -/

/-- Every deed of a list satisfies a condition that may also look at the deeds before it. -/
def Throughout (condition : List (Deed Request Answer) → Deed Request Answer → Prop)
    (past deeds : List (Deed Request Answer)) : Prop :=
  ∀ earlier deed later, deeds = earlier ++ deed :: later → condition (past ++ earlier) deed

section Throughout

variable {condition : List (Deed Request Answer) → Deed Request Answer → Prop}
  {past deeds first second : List (Deed Request Answer)} {deed : Deed Request Answer}

theorem throughout_nil : Throughout condition past [] := by
  intro earlier deed later same
  cases List.append_ne_nil_of_right_ne_nil earlier (List.cons_ne_nil deed later) same.symm

theorem throughout_cons_iff : Throughout condition past (deed :: deeds) ↔
    condition past deed ∧ Throughout condition (past ++ [deed]) deeds := by
  constructor
  · intro holds
    constructor
    · have first := holds [] deed deeds rfl
      rwa [List.append_nil] at first
    · rintro earlier next later rfl
      have others := holds (deed :: earlier) next later rfl
      rwa [List.append_assoc]
  · rintro ⟨first, others⟩ earlier next later same
    rcases List.cons_eq_append_iff.1 same with ⟨rfl, same⟩ | ⟨rest, rfl, rfl⟩
    · cases same
      rwa [List.append_nil]
    · have := others rest next later rfl
      rwa [List.append_assoc] at this

theorem Throughout.append (holds : Throughout condition past (first ++ second)) :
    Throughout condition past first ∧ Throughout condition (past ++ first) second := by
  constructor
  · rintro earlier deed later rfl
    refine holds earlier deed (later ++ second) ?_
    rw [List.append_assoc, List.cons_append]
  · rintro earlier deed later rfl
    have := holds (first ++ earlier) deed later (List.append_assoc ..).symm
    rwa [← List.append_assoc] at this

end Throughout

/-! ## Histories that are carried out -/

/-- What comes of a request that runs alone: the deed, and the tables that it leaves. -/
def carryOut (perform : Request → Workflow Answer) (around : Surroundings) (asked : Request)
    (tables : Tables) : Deed Request Answer × Tables :=
  let ran := (perform asked).run.alone around { tables }
  (⟨asked, ran.1.getD (.error default), ran.2.seen⟩, ran.2.tables)

/-- What has come to an outcome of its own has run to its end. -/
theorem ended_of_ne_default {perform : Request → Workflow Answer} {around : Surroundings}
    {asked : Request} {tables : Tables}
    (own : (carryOut perform around asked tables).1.outcome ≠ .error default) :
    ((perform asked).run.alone around { tables }).1.isSome = true := by
  dsimp only [carryOut] at own
  cases ended : ((perform asked).run.alone around { tables }).1 with
  | none =>
    rw [ended] at own
    exact absurd rfl own
  | some outcome => rfl

theorem ended_of_isOk {perform : Request → Workflow Answer} {around : Surroundings}
    {asked : Request} {tables : Tables}
    (answered : (carryOut perform around asked tables).1.outcome.isOk = true) :
    ((perform asked).run.alone around { tables }).1.isSome = true := by
  refine ended_of_ne_default fun same => ?_
  rw [same] at answered
  cases answered

/-- A request that runs to its end is the first deed of a history. -/
theorem history_of_carryOut {perform : Request → Workflow Answer} {around : Surroundings}
    {asked : Request} {before after : Tables} {deeds : List (Deed Request Answer)}
    {first : Deed Request Answer × Tables} (carried : carryOut perform around asked before = first)
    (ended : ((perform asked).run.alone around { tables := before }).1.isSome = true)
    (later : History perform first.2 deeds after) :
    History perform before (first.1 :: deeds) after := by
  obtain ⟨outcome, finished⟩ := Option.isSome_iff_exists.1 ended
  have run : (perform asked).run.alone around { tables := before } =
      (some outcome, ((perform asked).run.alone around { tables := before }).2) :=
    Prod.ext finished rfl
  subst carried
  dsimp only [carryOut]
  rw [finished]
  exact .deed around run later

end FibrePool
