import FibrePool.Proofs.Pieces
import Mathlib.Data.List.Infix

/-!
# Phrases in a text, and lines

Looking for a phrase finds what follows it where it is met first (`after?_append_self`), and nothing
in a text that does not contain it (`after?_eq_none`).  A phrase cannot lie across a character that
it does not contain, so a text with such a character may be searched part by part
(`after?_append_cons`).

A text is cut into lines at every line feed.  The lines differ from these pieces in two things only,
a carriage return at the end of a piece and an empty piece at the end of the text; what does not
depend on them may be read from the pieces (`filterMap_lines`).
-/

namespace FibrePool.Text

set_option autoImplicit false

variable {phrase front rest text : List Char} {c : Char}

/-! ## Phrases -/

theorem after?_nil (filled : phrase ≠ []) : after? phrase [] = none := by
  rw [after?, if_neg (mt List.isEmpty_iff.1 filled)]

theorem after?_of_starts (starts : phrase <+: c :: rest) :
    after? phrase (c :: rest) = some ((c :: rest).drop phrase.length) := by
  rw [after?, if_pos (List.isPrefixOf_iff_prefix.2 starts)]

theorem after?_of_not_starts (starts : ¬ phrase <+: c :: rest) :
    after? phrase (c :: rest) = after? phrase rest := by
  rw [after?, if_neg (mt List.isPrefixOf_iff_prefix.1 starts)]

/-- A phrase is found at the start of a text. -/
theorem after?_append_self (filled : phrase ≠ []) (rest : List Char) :
    after? phrase (phrase ++ rest) = some rest := by
  obtain ⟨c, more, rfl⟩ := List.exists_cons_of_ne_nil filled
  have starts : c :: more <+: c :: (more ++ rest) := List.prefix_append (c :: more) rest
  rw [List.cons_append, after?_of_starts starts, ← List.cons_append, List.drop_left]

/-- A text that does not contain a phrase has nothing after it. -/
theorem after?_eq_none (absent : ¬ phrase <:+: text) : after? phrase text = none := by
  induction text with
  | nil =>
    apply after?_nil
    rintro rfl
    exact absent List.nil_infix
  | cons c rest ih =>
    rw [after?_of_not_starts fun starts => absent starts.isInfix]
    exact ih fun inside => absent (List.infix_cons inside)

/-- Characters with which a phrase does not start are passed over. -/
theorem after?_replicate_append (other : phrase.head? ≠ some c) (filled : phrase ≠ []) (count : Nat)
    (rest : List Char) : after? phrase (List.replicate count c ++ rest) = after? phrase rest := by
  induction count with
  | zero => rfl
  | succ count ih =>
    obtain ⟨d, more, rfl⟩ := List.exists_cons_of_ne_nil filled
    rw [List.replicate_succ, List.cons_append, after?_of_not_starts, ih]
    intro starts
    exact other (congrArg some (List.cons_prefix_cons.1 starts).1)

/-- **A phrase does not lie across a character that it lacks.** -/
theorem after?_append_cons (filled : phrase ≠ []) (free : c ∉ phrase)
    (absent : ¬ phrase <:+: front) (rest : List Char) :
    after? phrase (front ++ c :: rest) = after? phrase rest := by
  have within (text : List Char) (starts : phrase <+: text ++ c :: rest) : phrase <+: text := by
    rcases List.prefix_or_prefix_of_prefix starts (List.prefix_append text (c :: rest)) with
      short | long
    · exact short
    · obtain ⟨more, rfl⟩ := long
      rw [List.prefix_append_right_inj] at starts
      cases more with
      | nil => rw [List.append_nil]
      | cons d more =>
        rw [(List.cons_prefix_cons.1 starts).1] at free
        exact absurd (List.mem_append_right _ List.mem_cons_self) free
  induction front with
  | nil =>
    rw [List.nil_append, after?_of_not_starts]
    intro starts
    exact filled (List.prefix_nil.1 (within [] starts))
  | cons d front ih =>
    rw [List.cons_append, after?_of_not_starts]
    · exact ih fun inside => absent (List.infix_cons inside)
    · intro starts
      exact absent (within (d :: front) starts).isInfix

/-- A character behind a text is behind what follows a phrase without it. -/
theorem after?_concat (filled : phrase ≠ []) (free : c ∉ phrase) (text : List Char) :
    after? phrase (text ++ [c]) = (after? phrase text).map (· ++ [c]) := by
  have within (text : List Char) : phrase <+: text ++ [c] ↔ phrase <+: text := by
    rw [List.prefix_concat_iff]
    constructor
    · rintro (rfl | starts)
      · exact absurd (List.mem_append_right _ List.mem_cons_self) free
      · exact starts
    · exact .inr
  induction text with
  | nil =>
    rw [List.nil_append, after?_of_not_starts, after?_nil filled]
    · rfl
    · exact fun starts => filled (List.prefix_nil.1 ((within []).1 starts))
  | cons d rest ih =>
    have same : phrase <+: d :: (rest ++ [c]) ↔ phrase <+: d :: rest := within (d :: rest)
    by_cases starts : phrase <+: d :: rest
    · rw [after?_of_starts starts, List.cons_append, after?_of_starts (same.2 starts),
        ← List.cons_append, List.drop_append_of_le_length starts.length_le]
      rfl
    · rw [after?_of_not_starts starts, List.cons_append,
        after?_of_not_starts (mt same.1 starts), ih]

/-! ## Lines -/

/-- A line ends with a carriage return that is dropped, or it is left as it is. -/
theorem dropReturn_cases (line : List Char) :
    dropReturn line = line ∨ line = dropReturn line ++ ['\r'] := by
  unfold dropReturn
  split
  · next rest reversed =>
    right
    rw [← List.reverse_cons, ← reversed, List.reverse_reverse]
  · exact .inl rfl

/-- **What is found in the lines is found in the pieces between the line feeds**, unless it depends
on carriage returns or on an empty line. -/
theorem filterMap_lines {α : Type} {find : List Char → Option α} (empty : find [] = none)
    (returns : ∀ line, find (dropReturn line) = find line) (chars : List Char) :
    (lines chars).filterMap find = (splitAt '\n' chars).filterMap find := by
  obtain ⟨front, last, cut⟩ :=
    (List.eq_nil_or_concat (splitAt '\n' chars)).resolve_left (splitAt_ne_nil '\n' chars)
  have ended : (front.map dropReturn).filterMap find = front.filterMap find := by
    rw [List.filterMap_map]
    exact List.filterMap_congr fun line _ => returns line
  simp only [lines, cut, List.concat_eq_append, List.dropLast_concat, List.getLast?_concat,
    List.filterMap_append]
  cases last with
  | nil =>
    rw [ended]
    simp [empty]
  | cons c rest => rw [List.filterMap_append, ended]

end FibrePool.Text
