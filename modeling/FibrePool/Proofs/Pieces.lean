import FibrePool.Text.Blank
import FibrePool.Text.Numeral

/-!
# Texts put together and taken apart

What is written by joining pieces is read by cutting at the separator.  The cut gives the pieces
back as long as no piece contains the separator (`splitAt_intercalate`), and a number comes back
from its four hexadecimal digits of either case (`hexNumber?_upperWord`).
-/

namespace FibrePool.Text

set_option autoImplicit false

/-! ## Pieces -/

/-- Cutting at a separator is the cut of the list library. -/
theorem splitAt_eq_splitOn (separator : Char) (chars : List Char) :
    splitAt separator chars = chars.splitOn separator := by
  induction chars with
  | nil => rfl
  | cons c rest ih =>
    rw [splitAt, ih]
    simp only [List.splitOn_eq_splitOnP, List.splitOnP_cons_eq_if_modifyHead, beq_iff_eq]
    split
    · rfl
    · obtain ⟨piece, pieces, cut⟩ := List.exists_cons_of_ne_nil
        (List.splitOnP_ne_nil (fun other => other == separator) rest)
      rw [cut, List.modifyHead_cons]

/-- **Cutting gives back the pieces that were joined.** -/
theorem splitAt_intercalate {separator : Char} {pieces : List (List Char)}
    (free : ∀ piece ∈ pieces, separator ∉ piece) (some : pieces ≠ []) :
    splitAt separator ([separator].intercalate pieces) = pieces := by
  rw [splitAt_eq_splitOn]
  exact List.splitOn_intercalate separator free some

/-- Joining gives back the text that was cut. -/
theorem intercalate_splitAt (separator : Char) (chars : List Char) :
    [separator].intercalate (splitAt separator chars) = chars := by
  rw [splitAt_eq_splitOn, List.intercalate_splitOn]

/-- A text without separators is the only piece. -/
theorem splitAt_eq_singleton {separator : Char} {chars : List Char} (free : separator ∉ chars) :
    splitAt separator chars = [chars] := by
  have cut : splitAt separator ([separator].intercalate [chars]) = [chars] :=
    splitAt_intercalate (by simpa using free) (List.cons_ne_nil _ _)
  rwa [List.intercalate_singleton] at cut

/-- The pieces of two texts with a separator between them are those of the one and of the other. -/
theorem splitAt_append_cons (separator : Char) (first second : List Char) :
    splitAt separator (first ++ separator :: second) =
      splitAt separator first ++ splitAt separator second := by
  induction first with
  | nil => simp [splitAt]
  | cons c rest ih =>
    rw [List.cons_append, splitAt, splitAt, ih]
    split
    · rfl
    · obtain ⟨piece, pieces, cut⟩ := List.exists_cons_of_ne_nil (splitAt_ne_nil separator rest)
      rw [cut]
      rfl

theorem intercalate_ne_nil {separator : Char} {pieces : List (List Char)}
    (free : ∀ piece ∈ pieces, separator ∉ piece) (some : pieces ≠ []) (filled : [] ∉ pieces) :
    [separator].intercalate pieces ≠ [] := by
  intro empty
  have cut := splitAt_intercalate free some
  rw [empty, splitAt] at cut
  exact filled (cut ▸ List.mem_singleton_self [])

/-- A character of joined pieces is the separator or stands in a piece. -/
theorem mem_of_mem_intercalate {c separator : Char} {pieces : List (List Char)}
    (member : c ∈ [separator].intercalate pieces) : c = separator ∨ ∃ piece ∈ pieces, c ∈ piece := by
  induction pieces with
  | nil => cases member
  | cons piece rest ih =>
    cases rest with
    | nil => exact Or.inr ⟨piece, List.mem_cons_self, by simpa using member⟩
    | cons next more =>
      rw [List.intercalate_cons_cons, List.append_assoc, List.mem_append, List.singleton_append,
        List.mem_cons] at member
      rcases member with here | same | later
      · exact Or.inr ⟨piece, List.mem_cons_self, here⟩
      · exact Or.inl same
      · rcases ih later with same | ⟨other, listed, there⟩
        · exact Or.inl same
        · exact Or.inr ⟨other, List.mem_cons_of_mem _ listed, there⟩

theorem splitOnce?_eq_none {separator : Char} {chars : List Char} (free : separator ∉ chars) :
    splitOnce? separator chars = none := by
  induction chars with
  | nil => rfl
  | cons c rest ih =>
    have later := ih (List.not_mem_of_not_mem_cons free)
    rw [splitOnce?, if_neg (List.ne_of_not_mem_cons free).symm, later, Option.map_none]

/-- The first separator is the one that follows a text without separators. -/
theorem splitOnce?_append {separator : Char} {left : List Char} (free : separator ∉ left)
    (right : List Char) : splitOnce? separator (left ++ separator :: right) = some (left, right) := by
  induction left with
  | nil => simp [splitOnce?]
  | cons c rest ih =>
    have later := ih (List.not_mem_of_not_mem_cons free)
    rw [List.cons_append, splitOnce?, if_neg (List.ne_of_not_mem_cons free).symm, later,
      Option.map_some]

/-- A text has no separator, or it can be cut at the first one. -/
theorem splitOnce?_cases (separator : Char) (chars : List Char) :
    (separator ∉ chars ∧ splitOnce? separator chars = none) ∨
      ∃ left right, separator ∉ left ∧ chars = left ++ separator :: right ∧
        splitOnce? separator chars = some (left, right) := by
  by_cases member : separator ∈ chars
  · obtain ⟨left, right, rfl, free⟩ := List.eq_append_cons_of_mem member
    exact .inr ⟨left, right, free, rfl, splitOnce?_append free right⟩
  · exact .inl ⟨member, splitOnce?_eq_none member⟩

/-! ## Hexadecimal words -/

/-- The upper-case hexadecimal digits. -/
def upperDigits : List Char := (List.range 16).map fun value => (hexDigit value).toUpper

theorem hexValue?_upperDigit : ∀ value < 16, hexValue? (hexDigit value).toUpper = some value := by
  decide

theorem hexValue?_hexDigit : ∀ value < 16, hexValue? (hexDigit value) = some value := by
  decide

theorem mem_upperDigits_of_mem_word {n : Nat} {c : Char}
    (member : c ∈ (hexWord n).map Char.toUpper) : c ∈ upperDigits := by
  have digit (m : Nat) : (hexDigit (m % 16)).toUpper ∈ upperDigits :=
    List.mem_map.2 ⟨m % 16, List.mem_range.2 (Nat.mod_lt m (by decide)), rfl⟩
  simp only [hexWord, List.map_cons, List.map_nil, List.mem_cons, List.not_mem_nil,
    or_false] at member
  rcases member with rfl | rfl | rfl | rfl <;> exact digit _

/-- **A number below 65536 is read back from its four upper-case digits.** -/
theorem hexNumber?_upperWord {n : Nat} (below : n < 65536) :
    hexNumber? ((hexWord n).map Char.toUpper) = some n := by
  have digit (m : Nat) : hexValue? (hexDigit (m % 16)).toUpper = some (m % 16) :=
    hexValue?_upperDigit _ (Nat.mod_lt m (by decide))
  simp only [hexNumber?, hexWord, List.map_cons, List.map_nil, List.isEmpty_cons, numberFrom?, digit,
    Option.bind_some, Bool.false_eq_true, if_false, Option.some.injEq]
  omega

/-- **A number below 65536 is read back from its four lower-case digits.** -/
theorem hexNumber?_word {n : Nat} (below : n < 65536) : hexNumber? (hexWord n) = some n := by
  have digit (m : Nat) : hexValue? (hexDigit (m % 16)) = some (m % 16) :=
    hexValue?_hexDigit _ (Nat.mod_lt m (by decide))
  simp only [hexNumber?, hexWord, List.isEmpty_cons, numberFrom?, digit, Option.bind_some,
    Bool.false_eq_true, if_false, Option.some.injEq]
  omega

end FibrePool.Text
