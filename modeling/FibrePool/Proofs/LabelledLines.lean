import FibrePool.Device.Listing
import FibrePool.Proofs.LowerCase
import FibrePool.Proofs.Phrases

/-!
# Labelled lines

The value of a labelled line is tidy: it has been trimmed and is in lower case, and doing so once
more changes nothing (`Text.IsTidy`).

How a text is cut into lines matters only at line feeds.  No label is found in an empty line, and
blanks at the end of a line are no part of a value, so the labelled lines may be read between the
line feeds (`Listing.labelledLines_eq`), and those of two texts with a line feed between them are
those of the one and then those of the other (`Listing.labelledLines_append`).
-/

namespace FibrePool

set_option autoImplicit false

/-! ## Tidy values -/

/-- A text in lower case without blanks at its ends. -/
structure Text.IsTidy (text : String) : Prop where
  ends : NoBlankEnds text.toList
  lowered : lower text = text

theorem Text.isTidy_lower_trim (chars : List Char) :
    IsTidy (lower (String.ofList (trim chars))) := by
  refine ⟨noBlankEnds_lower ?_, lower_lower _⟩
  rw [String.toList_ofList]
  exact noBlankEnds_trim chars

namespace Listing

variable {label : ListingLabel} {value : String}

/-! ## Labelled lines -/

/-- What stands after a phrase is a value if it is behind a colon. -/
def afterColon? (rest : List Char) : Option String :=
  match Text.trimStart rest with
  | ':' :: value => some (Text.lower (String.ofList (Text.trim value)))
  | _ => none

theorem valueIn?_eq (label : ListingLabel) (line : List Char) :
    label.valueIn? line = (Text.after? label.phrase.toList line).bind afterColon? := by
  rw [ListingLabel.valueIn?]
  cases Text.after? label.phrase.toList line with
  | none => rfl
  | some rest =>
    rw [Option.map_some, Option.bind_some, afterColon?]
    cases Text.trimStart rest with
    | nil => rfl
    | cons c value =>
      by_cases colon : c = ':'
      · subst colon
        rfl
      · simp [colon]

theorem afterColon?_colon (value : List Char) :
    afterColon? (':' :: value) = some (Text.lower (String.ofList (Text.trim value))) := rfl

theorem isTidy_of_afterColon? {rest : List Char} (found : afterColon? rest = some value) :
    Text.IsTidy value := by
  unfold afterColon? at found
  split at found
  · cases found
    exact Text.isTidy_lower_trim _
  · cases found

/-- Blanks at the end of a line are not part of a value. -/
theorem afterColon?_append {blanks : List Char} (blank : Text.IsBlankText blanks)
    (rest : List Char) : afterColon? (rest ++ blanks) = afterColon? rest := by
  unfold afterColon?
  rw [Text.trimStart, List.dropWhile_append, Text.trimStart]
  cases rest.dropWhile Text.isBlank with
  | nil => rw [blank.dropWhile]; rfl
  | cons c value =>
    by_cases colon : c = ':'
    · subst colon
      simp only [List.isEmpty_cons, Bool.false_eq_true, if_false, List.cons_append,
        Text.trim_append_right blank]
    · simp [colon]

theorem isTidy_of_labelled? {chars : List Char} (found : labelled? chars = some (label, value)) :
    Text.IsTidy value := by
  obtain ⟨other, _, found⟩ := List.exists_of_findSome?_eq_some found
  obtain ⟨word, read, same⟩ := Option.map_eq_some_iff.1 found
  cases same
  rw [valueIn?_eq] at read
  obtain ⟨rest, _, read⟩ := Option.bind_eq_some_iff.1 read
  exact isTidy_of_afterColon? read

theorem isTidy_of_mem_labelledLines (text : String) :
    ∀ line ∈ labelledLines text, Text.IsTidy line.2 := by
  intro line member
  obtain ⟨chars, _, found⟩ := List.mem_filterMap.1 member
  exact isTidy_of_labelled? found

/-- A phrase is a text in one line without a colon, and it does not start with a space. -/
structure IsPhrase (phrase : List Char) : Prop where
  filled : phrase ≠ []
  oneLine : '\n' ∉ phrase
  noReturn : '\r' ∉ phrase
  noColon : ':' ∉ phrase
  first : phrase.head? ≠ some ' '

theorem isPhrase (label : ListingLabel) : IsPhrase label.phrase.toList := by
  cases label <;> exact ⟨by decide, by decide, by decide, by decide, by decide⟩

/-- An empty line has no label. -/
theorem labelled?_nil : labelled? [] = none := by
  rw [labelled?, List.findSome?_eq_none_iff]
  intro label _
  rw [valueIn?_eq, Text.after?_nil (isPhrase label).filled]
  rfl

/-- A carriage return at the end of a line does not matter. -/
theorem labelled?_dropReturn (line : List Char) :
    labelled? (Text.dropReturn line) = labelled? line := by
  rcases Text.dropReturn_cases line with same | ended
  · rw [same]
  · have each (label : ListingLabel) :
        label.valueIn? line = label.valueIn? (Text.dropReturn line) := by
      rw [ended, valueIn?_eq, Text.after?_concat (isPhrase label).filled (isPhrase label).noReturn,
        ← ended, valueIn?_eq]
      cases Text.after? label.phrase.toList (Text.dropReturn line) with
      | none => rfl
      | some rest =>
        exact afterColon?_append (fun c member => by rw [List.mem_singleton.1 member]; decide) rest
    simp only [labelled?, each]

/-- The labelled lines stand between the line feeds. -/
theorem labelledLines_eq (text : String) :
    labelledLines text = (Text.splitAt '\n' text.toList).filterMap labelled? :=
  Text.filterMap_lines labelled?_nil labelled?_dropReturn text.toList

/-- The labelled lines of two texts are those of the one and then those of the other. -/
theorem labelledLines_append (first second : String) :
    labelledLines (first ++ "\n" ++ second) = labelledLines first ++ labelledLines second := by
  have joined : (first ++ "\n" ++ second).toList = first.toList ++ '\n' :: second.toList := by
    simp
  simp only [labelledLines_eq, joined, Text.splitAt_append_cons, List.filterMap_append]

end Listing

end FibrePool
