import FibrePool.Proofs.Pieces
import Mathlib.Data.List.TakeWhile

/-!
# Blanks around a text

Trimming takes the blanks from both ends of a text and nothing else.  A text that stands between
blanks (`Surrounds`) is trimmed like the text alone (`trim_append_append`), and one without blanks
is found between them (`trim_eq_of_surrounds`).

A text that has been trimmed starts and ends with no blank (`NoBlankEnds`), and this is all that is
needed to be trimmed to itself (`trim_eq_self_of_ends`).
-/

namespace FibrePool.Text

set_option autoImplicit false

/-- A text of blanks, which may be empty. -/
def IsBlankText (chars : List Char) : Prop := ∀ c ∈ chars, isBlank c = true

/-- A text is another one with blanks around it. -/
def Surrounds (text core : List Char) : Prop :=
  ∃ before after, IsBlankText before ∧ IsBlankText after ∧ text = before ++ core ++ after

/-- A text that starts and ends with no blank. -/
structure NoBlankEnds (chars : List Char) : Prop where
  first : ∀ c ∈ chars.head?, isBlank c = false
  last : ∀ c ∈ chars.getLast?, isBlank c = false

variable {before after chars text core : List Char}

/-! ## Blanks are dropped -/

theorem IsBlankText.not_mem (blank : IsBlankText chars) {c : Char} (plain : isBlank c = false) :
    c ∉ chars := by
  intro member
  rw [blank c member] at plain
  cases plain

theorem IsBlankText.dropWhile (blank : IsBlankText chars) : chars.dropWhile isBlank = [] :=
  List.dropWhile_eq_nil_iff.2 blank

theorem IsBlankText.reverse (blank : IsBlankText chars) : IsBlankText chars.reverse :=
  fun c member => blank c (List.mem_reverse.1 member)

theorem trimEnd_append (blank : IsBlankText after) (text : List Char) :
    trimEnd (text ++ after) = trimEnd text := by
  rw [trimEnd, List.reverse_append, List.dropWhile_append_of_pos blank.reverse, trimEnd]

/-- Blanks in front of a text are not there after trimming. -/
theorem trim_append_left (blank : IsBlankText before) (text : List Char) :
    trim (before ++ text) = trim text := by
  rw [trim, trimStart, List.dropWhile_append_of_pos blank, trim, trimStart]

/-- Blanks behind a text are not there after trimming. -/
theorem trim_append_right (blank : IsBlankText after) (text : List Char) :
    trim (text ++ after) = trim text := by
  rw [trim, trimStart, List.dropWhile_append, trim, trimStart]
  split
  · next none =>
    rw [blank.dropWhile, List.isEmpty_iff.1 none]
  · exact trimEnd_append blank _

theorem trim_append_append (left : IsBlankText before) (right : IsBlankText after)
    (text : List Char) : trim (before ++ text ++ after) = trim text := by
  rw [trim_append_right right, trim_append_left left]

/-! ## What is left -/

theorem dropWhile_eq_self_of_head (first : ∀ c ∈ chars.head?, isBlank c = false) :
    chars.dropWhile isBlank = chars := by
  cases chars with
  | nil => rfl
  | cons c rest => rw [List.dropWhile_cons_of_neg (by simp [first c rfl])]

/-- A text that starts and ends with no blank is trimmed to itself. -/
theorem trim_eq_self_of_ends (ends : NoBlankEnds chars) : trim chars = chars := by
  have backwards : ∀ c ∈ chars.reverse.head?, isBlank c = false := by
    rw [List.head?_reverse]
    exact ends.last
  rw [trim, trimStart, dropWhile_eq_self_of_head ends.first, trimEnd,
    dropWhile_eq_self_of_head backwards, List.reverse_reverse]

theorem head?_dropWhile (chars : List Char) :
    ∀ c ∈ (chars.dropWhile isBlank).head?, isBlank c = false := by
  intro c first
  have := List.head?_dropWhile_not isBlank chars
  rw [first] at this
  simpa using this

/-- Behind a trimmed text there were blanks. -/
theorem trimStart_eq_trim_append (text : List Char) :
    ∃ after, IsBlankText after ∧ trimStart text = trim text ++ after := by
  refine ⟨((trimStart text).reverse.takeWhile isBlank).reverse, ?_, ?_⟩
  · exact IsBlankText.reverse fun c member => List.mem_takeWhile_imp member
  · rw [trim, trimEnd, ← List.reverse_append, List.takeWhile_append_dropWhile,
      List.reverse_reverse]

/-- A text that was trimmed starts and ends with no blank. -/
theorem noBlankEnds_trim (text : List Char) : NoBlankEnds (trim text) := by
  constructor
  · -- the first character is that of the text without the blanks in front
    intro c first
    obtain ⟨after, _, parted⟩ := trimStart_eq_trim_append text
    apply head?_dropWhile text c
    show c ∈ (trimStart text).head?
    rw [parted, List.head?_append, first]
    rfl
  · rw [trim, trimEnd, List.getLast?_reverse]
    exact head?_dropWhile _

/-- Trimming takes blanks from both ends. -/
theorem surrounds_trim (text : List Char) : Surrounds text (trim text) := by
  obtain ⟨after, blank, parted⟩ := trimStart_eq_trim_append text
  refine ⟨text.takeWhile isBlank, after, fun c member => List.mem_takeWhile_imp member, blank, ?_⟩
  rw [List.append_assoc, ← parted, trimStart, List.takeWhile_append_dropWhile]

/-- **Trimming finds the text that stands between the blanks.** -/
theorem trim_eq_of_surrounds (surrounds : Surrounds text core) (ends : NoBlankEnds core) :
    trim text = core := by
  obtain ⟨before, after, left, right, rfl⟩ := surrounds
  rw [trim_append_append left right, trim_eq_self_of_ends ends]

theorem trim_eq_nil_iff : trim text = [] ↔ IsBlankText text := by
  constructor
  · intro empty
    obtain ⟨before, after, left, right, parted⟩ := surrounds_trim text
    rw [empty, List.append_nil] at parted
    rw [parted]
    exact fun c member => (List.mem_append.1 member).elim (left c) (right c)
  · intro blank
    rw [← List.append_nil text, trim_append_left blank]
    rfl

/-! ## Texts without blanks -/

theorem noBlankEnds_of_plain (plain : ∀ c ∈ chars, isBlank c = false) : NoBlankEnds chars :=
  ⟨fun c first => plain c (List.mem_of_mem_head? first),
    fun c last => plain c (List.mem_of_getLast? last)⟩

/-- A text without blanks is trimmed to itself. -/
theorem trim_eq_self (plain : ∀ c ∈ chars, isBlank c = false) : trim chars = chars :=
  trim_eq_self_of_ends (noBlankEnds_of_plain plain)

end FibrePool.Text
