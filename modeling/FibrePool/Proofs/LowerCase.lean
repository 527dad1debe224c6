import FibrePool.Proofs.Trimming
import FibrePool.Text.Case

/-!
# Lower case is lower case already

Writing a text in lower case a second time changes nothing (`lower_lower`), and a text without blanks
at its ends has none there in lower case either (`noBlankEnds_lower`).

Both are facts about the table of case mappings.  A run of the table is moved as a whole, so it is
enough to compare the interval that a run is moved to with the other runs, with the blanks and with
the few characters that have a rule of their own.  Runs of every second code point may lie between
each other; there the parity of the first code points decides (`misses`).
-/

namespace FibrePool.Text

set_option autoImplicit false

/-! ## Runs of the table -/

/-- A run of code points with the step between them and what is added to them. -/
abbrev CaseRun := Nat × Nat × Nat × Int

namespace CaseRun

/-- The run holds a code point. -/
def holds (run : CaseRun) (code : Nat) : Bool :=
  run.1 ≤ code && code ≤ run.2.1 && (code - run.1) % run.2.2.1 == 0

/-- Where the first code point of a run is moved to. -/
def lowest (run : CaseRun) : Nat := (run.1 + run.2.2.2).toNat

/-- Where the last code point of a run is moved to. -/
def highest (run : CaseRun) : Nat := (run.2.1 + run.2.2.2).toNat

/-- All code points of the run have the same parity. -/
def isAlternating (run : CaseRun) : Bool := Nat.beq run.1 run.2.1 || Nat.beq run.2.2.1 2

/-- No code point of a run is moved into another one. -/
def misses (run other : CaseRun) : Bool :=
  Nat.blt run.highest other.1 || Nat.blt other.2.1 run.lowest ||
    (run.isAlternating && Nat.beq other.2.2.1 2 && Nat.beq ((run.lowest + other.1) % 2) 1)

/-- A code point may be what a run is moved to. -/
structure Reaches (run : CaseRun) (code : Nat) : Prop where
  above : run.lowest ≤ code
  below : code ≤ run.highest
  parity : run.isAlternating = true → code % 2 = run.lowest % 2

/-- The run is moved to code points, not below them. -/
def isUpright (run : CaseRun) : Bool := decide (0 ≤ run.1 + run.2.2.2)

variable {run other : CaseRun} {code : Nat}

theorem reaches_of_holds (upright : run.isUpright = true) (held : run.holds code = true) :
    run.Reaches (code + run.2.2.2).toNat := by
  simp only [isUpright, decide_eq_true_eq] at upright
  simp only [holds, Bool.and_eq_true, decide_eq_true_eq, beq_iff_eq] at held
  obtain ⟨⟨above, below⟩, stepped⟩ := held
  constructor
  · simp only [lowest]
    omega
  · simp only [highest]
    omega
  · intro alternating
    simp only [isAlternating, Bool.or_eq_true, Nat.beq_eq] at alternating
    simp only [lowest]
    rcases alternating with single | second
    · omega
    · rw [second] at stepped
      omega

theorem not_holds_of_misses (missed : run.misses other = true) (reached : run.Reaches code) :
    other.holds code = false := by
  obtain ⟨above, below, parity⟩ := reached
  simp only [misses, Bool.or_eq_true, Bool.and_eq_true, Nat.beq_eq, Nat.blt_eq] at missed
  rw [← Bool.not_eq_true, holds]
  simp only [Bool.and_eq_true, decide_eq_true_eq, beq_iff_eq]
  rintro ⟨⟨first, last⟩, stepped⟩
  rcases missed with (before | after) | ⟨⟨alternating, second⟩, odd⟩
  · omega
  · omega
  · have same := parity alternating
    rw [second] at stepped
    omega

end CaseRun

/-! ## The table -/

theorem upright_lowerRuns : ∀ run ∈ lowerRuns, CaseRun.isUpright run = true := by
  decide +kernel

/-- **No run is moved into a run.** -/
theorem misses_lowerRuns :
    (lowerRuns.all fun run => lowerRuns.all (CaseRun.misses run)) = true := by
  decide +kernel

/-- The ranges of the blanks. -/
def blankRanges : List (Nat × Nat) :=
  [(9, 13), (0x20, 0x20), (0x85, 0x85), (0xa0, 0xa0), (0x1680, 0x1680), (0x2000, 0x200a),
    (0x2028, 0x2029), (0x202f, 0x202f), (0x205f, 0x205f), (0x3000, 0x3000)]

/-- No run is moved to the control characters and capitals of ASCII, to the capital I with a dot, to
what is no character, or to a blank. -/
theorem image_lowerRuns : ∀ run ∈ lowerRuns,
    'Z'.toNat < CaseRun.lowest run ∧ CaseRun.misses run ('İ'.toNat, 'İ'.toNat, 1, 0) = true ∧
    (CaseRun.highest run < 0xd800 ∨ 0xdfff < CaseRun.lowest run ∧ CaseRun.highest run < 0x110000) ∧
    ∀ range ∈ blankRanges, CaseRun.highest run < range.1 ∨ range.2 < CaseRun.lowest run := by
  decide +kernel

theorem shifted_eq (runs : List CaseRun) (code : Nat) :
    shifted runs code =
      match runs.find? fun run => run.holds code with
      | some run => (code + run.2.2.2).toNat
      | none => code := rfl

/-- A code point is left as it is, or it is moved to what its run reaches. -/
theorem shifted_cases (code : Nat) :
    shifted lowerRuns code = code ∨
      ∃ run ∈ lowerRuns, CaseRun.Reaches run (shifted lowerRuns code) := by
  rw [shifted_eq]
  split
  · next run found =>
    have member := List.mem_of_find?_eq_some found
    have held : CaseRun.holds run code = true :=
      List.find?_some (p := fun run : CaseRun => run.holds code) found
    exact .inr ⟨run, member, CaseRun.reaches_of_holds (upright_lowerRuns run member) held⟩
  · exact .inl rfl

/-- What a run reaches is in no run. -/
theorem shifted_of_reaches {run : CaseRun} (member : run ∈ lowerRuns) {code : Nat}
    (reached : run.Reaches code) : shifted lowerRuns code = code := by
  have apart : ∀ other ∈ lowerRuns, ¬ CaseRun.holds other code = true := by
    intro other listed
    have missed := List.all_eq_true.1 (List.all_eq_true.1 misses_lowerRuns run member) other listed
    rw [Bool.not_eq_true]
    exact CaseRun.not_holds_of_misses missed reached
  rw [shifted_eq, List.find?_eq_none.2 apart]

/-! ## Characters -/

/-- The character is its own lower case wherever it stands. -/
def IsLowered (c : Char) : Prop := lowerOf c = [c] ∧ c ≠ 'Σ'

instance (c : Char) : Decidable (IsLowered c) := inferInstanceAs (Decidable (_ ∧ _))

theorem isLowered_of_shifted {c : Char} (large : ¬ c.toNat < 0x80) (other : c ≠ 'İ')
    (same : shifted lowerRuns c.toNat = c.toNat) : IsLowered c := by
  constructor
  · rw [lowerOf, if_neg large, if_neg other, same, Char.ofNat_toNat]
  · rintro rfl
    revert same
    decide +kernel

theorem toNat_ofNat_of_reaches {run : CaseRun} (member : run ∈ lowerRuns) {code : Nat}
    (reached : run.Reaches code) : (Char.ofNat code).toNat = code := by
  obtain ⟨_, _, valid, _⟩ := image_lowerRuns run member
  have := reached.above
  have := reached.below
  have character : code.isValidChar := by
    unfold Nat.isValidChar
    omega
  rw [Char.ofNat, dif_pos character]
  rfl

theorem isLowered_ascii : ∀ code < 0x80,
    IsLowered (Char.ofNat code).toLower ∧ ('Z'.toNat < code → IsLowered (Char.ofNat code)) := by
  decide +kernel

theorem isLowered_of_reaches {run : CaseRun} (member : run ∈ lowerRuns) {code : Nat}
    (reached : run.Reaches code) : IsLowered (Char.ofNat code) := by
  have number := toNat_ofNat_of_reaches member reached
  obtain ⟨noCapital, noDot, _, _⟩ := image_lowerRuns run member
  by_cases small : code < 0x80
  · exact (isLowered_ascii code small).2 (Nat.lt_of_lt_of_le noCapital reached.above)
  · apply isLowered_of_shifted
    · rwa [number]
    · intro dotted
      have apart := CaseRun.not_holds_of_misses noDot reached
      rw [← number, dotted] at apart
      exact absurd apart (by decide)
    · rw [number]
      exact shifted_of_reaches member reached

/-- The lower case of a character is in lower case. -/
theorem isLowered_of_mem_lowerOf {c d : Char} (member : d ∈ lowerOf c) : IsLowered d := by
  unfold lowerOf at member
  split at member
  · next small =>
    rw [List.mem_singleton.1 member, ← Char.ofNat_toNat c]
    exact (isLowered_ascii c.toNat small).1
  · next large =>
    split at member
    · rcases List.mem_cons.1 member with rfl | dot
      · decide +kernel
      · rw [List.mem_singleton.1 dot]
        decide +kernel
    · next other =>
      rw [List.mem_singleton.1 member]
      rcases shifted_cases c.toNat with same | ⟨run, listed, reached⟩
      · rw [same, Char.ofNat_toNat]
        exact isLowered_of_shifted large other same
      · exact isLowered_of_reaches listed reached

theorem mem_blankRanges_of_isBlank {c : Char} (blank : isBlank c = true) :
    ∃ range ∈ blankRanges, range.1 ≤ c.toNat ∧ c.toNat ≤ range.2 := by
  simp only [isBlank, Bool.or_eq_true, Bool.and_eq_true, decide_eq_true_eq, beq_iff_eq] at blank
  simp only [blankRanges, List.mem_cons, List.not_mem_nil, or_false, exists_eq_or_imp,
    exists_eq_left]
  omega

/-- The lower case of a character that is no blank has none. -/
theorem isBlank_of_mem_lowerOf {c d : Char} (plain : isBlank c = false) (member : d ∈ lowerOf c) :
    isBlank d = false := by
  unfold lowerOf at member
  split at member
  · next small =>
    have all : ∀ code < 0x80, isBlank (Char.ofNat code) = false →
        isBlank (Char.ofNat code).toLower = false := by
      decide +kernel
    have kept := all c.toNat small
    rw [Char.ofNat_toNat] at kept
    rw [List.mem_singleton.1 member]
    exact kept plain
  · split at member
    · rcases List.mem_cons.1 member with rfl | dot
      · decide
      · rw [List.mem_singleton.1 dot]
        decide
    · rw [List.mem_singleton.1 member]
      rcases shifted_cases c.toNat with same | ⟨run, listed, reached⟩
      · rwa [same, Char.ofNat_toNat]
      · rw [← Bool.not_eq_true]
        intro blank
        obtain ⟨range, there, first, last⟩ := mem_blankRanges_of_isBlank blank
        rw [toNat_ofNat_of_reaches listed reached] at first last
        have := reached.above
        have := reached.below
        have := (image_lowerRuns run listed).2.2.2 range there
        omega

/-! ## Texts -/

/-- The lower case of a character between others. -/
def lowerAt (before : List Char) (c : Char) (rest : List Char) : List Char :=
  if c = 'Σ' then [if meetsCased before && !meetsCased rest then 'ς' else 'σ'] else lowerOf c

theorem lowerFrom_cons (before : List Char) (c : Char) (rest : List Char) :
    lowerFrom before (c :: rest) = lowerAt before c rest ++ lowerFrom (c :: before) rest := rfl

theorem lowerAt_ne_nil (before : List Char) (c : Char) (rest : List Char) :
    lowerAt before c rest ≠ [] := by
  unfold lowerAt lowerOf
  split
  · exact List.cons_ne_nil _ _
  · split
    · exact List.cons_ne_nil _ _
    · split <;> exact List.cons_ne_nil _ _

theorem mem_lowerAt {before rest : List Char} {c d : Char} (member : d ∈ lowerAt before c rest) :
    d = 'ς' ∨ d = 'σ' ∨ d ∈ lowerOf c := by
  unfold lowerAt at member
  split at member
  · rw [List.mem_singleton] at member
    split at member
    · exact .inl member
    · exact .inr (.inl member)
  · exact .inr (.inr member)

theorem isLowered_of_mem_lowerFrom {before chars : List Char} :
    ∀ d ∈ lowerFrom before chars, IsLowered d := by
  induction chars generalizing before with
  | nil =>
    intro d member
    cases member
  | cons c rest ih =>
    intro d member
    rw [lowerFrom_cons, List.mem_append] at member
    rcases member with here | later
    · rcases mem_lowerAt here with rfl | rfl | mapped
      · decide +kernel
      · decide +kernel
      · exact isLowered_of_mem_lowerOf mapped
    · exact ih d later

theorem lowerFrom_eq_self {before chars : List Char} (lowered : ∀ c ∈ chars, IsLowered c) :
    lowerFrom before chars = chars := by
  induction chars generalizing before with
  | nil => rfl
  | cons c rest ih =>
    obtain ⟨same, other⟩ := lowered c List.mem_cons_self
    rw [lowerFrom_cons, lowerAt, if_neg other, same,
      ih fun d member => lowered d (List.mem_cons_of_mem _ member)]
    rfl

/-- **Lower case is lower case already.** -/
theorem lower_lower (text : String) : lower (lower text) = lower text := by
  rw [lower, lower, String.toList_ofList, lowerFrom_eq_self isLowered_of_mem_lowerFrom]

theorem isBlank_of_mem_lowerAt {before rest : List Char} {c d : Char} (plain : isBlank c = false)
    (member : d ∈ lowerAt before c rest) : isBlank d = false := by
  rcases mem_lowerAt member with rfl | rfl | mapped
  · decide
  · decide
  · exact isBlank_of_mem_lowerOf plain mapped

theorem lowerFrom_ne_nil (before : List Char) {chars : List Char} (filled : chars ≠ []) :
    lowerFrom before chars ≠ [] := by
  obtain ⟨c, rest, rfl⟩ := List.exists_cons_of_ne_nil filled
  rw [lowerFrom_cons]
  exact List.append_ne_nil_of_left_ne_nil (lowerAt_ne_nil before c rest) _

theorem isBlank_last_lowerFrom (before : List Char) {chars : List Char}
    (last : ∀ c ∈ chars.getLast?, isBlank c = false) :
    ∀ d ∈ (lowerFrom before chars).getLast?, isBlank d = false := by
  induction chars generalizing before with
  | nil =>
    intro d member
    cases member
  | cons c rest ih =>
    intro d member
    rw [lowerFrom_cons, List.getLast?_append] at member
    cases rest with
    | nil => exact isBlank_of_mem_lowerAt (last c rfl) (List.mem_of_getLast? member)
    | cons next more =>
      have later := ih (c :: before) fun other found =>
        last other (by rwa [List.getLast?_cons_cons])
      have filled := lowerFrom_ne_nil (c :: before) (List.cons_ne_nil next more)
      rw [List.getLast?_eq_some_getLast filled, Option.some_or] at member
      exact later d (by rwa [List.getLast?_eq_some_getLast filled])

/-- **A text without blanks at its ends has none there in lower case.** -/
theorem noBlankEnds_lower {text : String} (ends : NoBlankEnds text.toList) :
    NoBlankEnds (lower text).toList := by
  rw [lower, String.toList_ofList]
  refine ⟨?_, isBlank_last_lowerFrom [] ends.last⟩
  intro d first
  cases chars : text.toList with
  | nil =>
    rw [chars] at first
    cases first
  | cons c rest =>
    obtain ⟨other, more, mapped⟩ := List.exists_cons_of_ne_nil (lowerAt_ne_nil [] c rest)
    rw [chars, lowerFrom_cons, mapped] at first
    have plain : isBlank c = false := ends.first c (by rw [chars]; rfl)
    have member : other ∈ lowerAt [] c rest := by
      rw [mapped]
      exact List.mem_cons_self
    cases first
    exact isBlank_of_mem_lowerAt plain member

end FibrePool.Text
