import FibrePool.Proofs.ListingBlocks

/-!
# Printed listings

A device is printed with one line for each label, the one of its number first (`Listing.Printing`).
The order of the others is free, and so is what stands around a label and its value: a node name,
spaces and the case of letters.  Such a listing is read as the devices that were printed, in order
(`Listing.parse_printed`).

Labels are searched for anywhere in a line, one after another.  What makes this safe is that a
phrase has no colon: it does not lie across the one behind the node name or the one behind the
label, so it can only be found within a part of the line, and within the label itself there is no
other (`Listing.Printing.labelled?_line`).
-/

namespace FibrePool

set_option autoImplicit false

/-- What a device has for a label. -/
def LiveDevice.field (device : LiveDevice) : ListingLabel → String
  | .device => device.id.text
  | .status => device.status.word
  | .npivName => device.npivName
  | .channelPath => device.channelPath
  | .physicalName => device.physicalName
  | .owner => device.owner

/-- The port names and the owner of a device are there, if only as the word for an absent one. -/
structure LiveDevice.IsNamed (device : LiveDevice) : Prop where
  npivName : device.npivName ≠ ""
  physicalName : device.physicalName ≠ ""
  owner : device.owner ≠ ""

namespace Listing

/-! ## Printing a device -/

/-- The labels that may be without a value. -/
def optional : List ListingLabel := [.npivName, .physicalName, .owner]

/-- A text in one line without the phrase of a label. -/
structure IsPlain (text : String) : Prop where
  oneLine : '\n' ∉ text.toList
  noPhrase : ∀ label : ListingLabel, ¬ label.phrase.toList <:+: text.toList

theorem isPlain_iff {text : String} : IsPlain text ↔ '\n' ∉ text.toList ∧
    ∀ label ∈ ListingLabel.device :: others, ¬ label.phrase.toList <:+: text.toList := by
  constructor
  · rintro ⟨oneLine, noPhrase⟩
    exact ⟨oneLine, fun label _ => noPhrase label⟩
  · rintro ⟨oneLine, noPhrase⟩
    refine ⟨oneLine, fun label => noPhrase label ?_⟩
    cases label <;> decide

instance (text : String) : Decidable (IsPlain text) := decidable_of_iff _ isPlain_iff.symm

/-- A text of spaces. -/
def spaces (count : Nat) : String := String.ofList (List.replicate count ' ')

/-- How a device is printed: the order of the lines after its number, and for each label the node
name and the spaces in front of it, and the spaces and the value behind its colon. -/
structure Printing where
  order : List ListingLabel
  complete : order.Perm others
  node : ListingLabel → Option String
  indent : ListingLabel → Nat
  gap : ListingLabel → Nat
  value : ListingLabel → String
  plainNode : ∀ label, ∀ name ∈ node label, IsPlain name
  plainValue : ∀ label, IsPlain (value label)

namespace Printing

/-- What stands in front of the label in a line. -/
def lead (printing : Printing) (label : ListingLabel) : String :=
  ((printing.node label).elim "" fun name => name ++ ":") ++ spaces (printing.indent label)

/-- The line of a label. -/
def line (printing : Printing) (label : ListingLabel) : String :=
  printing.lead label ++ label.phrase ++ ":" ++ spaces (printing.gap label) ++ printing.value label

/-- The six lines of a device. -/
def lines (printing : Printing) : List String := (.device :: printing.order).map printing.line

/-- The value of a label as it is read: without blanks at its ends, in lower case. -/
def word (printing : Printing) (label : ListingLabel) : String :=
  Text.lower (Text.trimmed (printing.value label))

theorem isTidy_word (printing : Printing) (label : ListingLabel) :
    Text.IsTidy (printing.word label) :=
  Text.isTidy_lower_trim (printing.value label).toList

/-- The values are those of a device.  Where it has no port name or owner, there may be no value. -/
def Shows (printing : Printing) (device : LiveDevice) : Prop :=
  ∀ label, printing.word label = device.field label ∨
    label ∈ optional ∧ device.field label = noneWord ∧ printing.word label = ""

variable {printing : Printing} {device : LiveDevice}

/-! ## Finding the label of a line -/

theorem after?_lead (printing : Printing) (label other : ListingLabel) (rest : List Char) :
    Text.after? other.phrase.toList ((printing.lead label).toList ++ rest) =
      Text.after? other.phrase.toList rest := by
  have phrase := isPhrase other
  have indented := Text.after?_replicate_append phrase.first phrase.filled
    (printing.indent label) rest
  cases named : printing.node label with
  | none => simpa [lead, spaces, named] using indented
  | some name =>
    have plain := printing.plainNode label name named
    simpa [lead, spaces, named] using (Text.after?_append_cons phrase.filled phrase.noColon
      (plain.noPhrase other) _).trans indented

/-- No phrase of a label stands within that of another one. -/
theorem not_phrase_within {label other : ListingLabel} (different : other ≠ label) :
    ¬ other.phrase.toList <:+: label.phrase.toList := by
  revert different
  cases label <;> cases other <;> decide

theorem toList_line (printing : Printing) (label : ListingLabel) :
    (printing.line label).toList = (printing.lead label).toList ++ (label.phrase.toList ++
      ':' :: (List.replicate (printing.gap label) ' ' ++ (printing.value label).toList)) := by
  simp [line, spaces]

theorem isBlankText_spaces (count : Nat) : Text.IsBlankText (List.replicate count ' ') := by
  intro c member
  rw [List.eq_of_mem_replicate member]
  decide

theorem valueIn?_line (printing : Printing) (label : ListingLabel) :
    label.valueIn? (printing.line label).toList = some (printing.word label) := by
  rw [valueIn?_eq, toList_line, after?_lead, Text.after?_append_self (isPhrase label).filled,
    Option.bind_some, afterColon?_colon, Text.trim_append_left (isBlankText_spaces _)]
  rfl

theorem valueIn?_line_of_ne (printing : Printing) {label other : ListingLabel}
    (different : other ≠ label) : other.valueIn? (printing.line label).toList = none := by
  have phrase := isPhrase other
  rw [valueIn?_eq, toList_line, after?_lead,
    Text.after?_append_cons phrase.filled phrase.noColon (not_phrase_within different),
    Text.after?_replicate_append phrase.first phrase.filled,
    Text.after?_eq_none ((printing.plainValue label).noPhrase other)]
  rfl

/-- **A printed line is read as its label and its value.** -/
theorem labelled?_line (printing : Printing) (label : ListingLabel) :
    labelled? (printing.line label).toList = some (label, printing.word label) := by
  have only (other : ListingLabel) :
      (other.valueIn? (printing.line label).toList).map (fun value => (other, value)) =
        if other = label then some (label, printing.word label) else none := by
    split
    · next same => rw [same, valueIn?_line, Option.map_some]
    · next different => rw [valueIn?_line_of_ne printing different, Option.map_none]
  simp only [labelled?, only]
  cases label <;> rfl

/-! ## Lines of a listing -/

theorem newline_not_mem_line (printing : Printing) (label : ListingLabel) :
    '\n' ∉ (printing.line label).toList := by
  have named : '\n' ∉ ((printing.node label).elim "" fun name => name ++ ":").toList := by
    cases node : printing.node label with
    | none => decide
    | some name => simpa using (printing.plainNode label name node).oneLine
  have phrase := (isPhrase label).oneLine
  have value := (printing.plainValue label).oneLine
  rw [toList_line, lead, String.toList_append]
  simp [named, phrase, value, spaces]

end Printing

theorem labelledLines_join {lines : List String} (oneLine : ∀ line ∈ lines, '\n' ∉ line.toList) :
    labelledLines (Text.join "\n" lines) = lines.filterMap fun line => labelled? line.toList := by
  cases lines with
  | nil => rfl
  | cons first rest =>
    have pieces : ∀ piece ∈ (first :: rest).map String.toList, '\n' ∉ piece := by
      simpa using oneLine
    have newline : "\n".toList = ['\n'] := rfl
    rw [labelledLines_eq, Text.join, String.toList_intercalate, newline,
      Text.splitAt_intercalate pieces (by simp), List.filterMap_map]
    rfl

theorem labelledLines_empty : labelledLines "" = [] := rfl

/-- A line feed at the end of a listing does not matter. -/
theorem labelledLines_ended (text : String) {ending : String}
    (ended : ending = "" ∨ ending = "\n") :
    labelledLines (text ++ ending) = labelledLines text := by
  rcases ended with rfl | rfl
  · rw [String.append_empty]
  · have last := labelledLines_append text ""
    rwa [String.append_empty, labelledLines_empty, List.append_nil] at last

namespace Printing

variable {printing : Printing} {device : LiveDevice}

/-- The labelled lines of a printed device. -/
def block (printing : Printing) : List (ListingLabel × String) :=
  (.device :: printing.order).map fun label => (label, printing.word label)

theorem filterMap_lines (printing : Printing) :
    (printing.lines.filterMap fun line => labelled? line.toList) = printing.block := by
  simp only [lines, block, List.filterMap_map, Function.comp_def, labelled?_line,
    List.filterMap_eq_map']

theorem labelledLines_printed (printings : List Printing) :
    labelledLines (Text.join "\n" (printings.flatMap lines)) = (printings.map block).flatten := by
  rw [labelledLines_join, List.filterMap_flatMap]
  · simp only [filterMap_lines, List.flatMap_def]
  · intro line listed
    obtain ⟨printing, _, member⟩ := List.mem_flatMap.1 listed
    obtain ⟨label, _, rfl⟩ := List.mem_map.1 member
    exact newline_not_mem_line printing label

/-- An optional value is read as the name that it stands for. -/
theorem Shows.orNone_eq (shown : printing.Shows device) (label : ListingLabel)
    (filled : device.field label ≠ "") :
    device.field label = Block.orNone (printing.word label) := by
  rcases shown label with same | ⟨_, absent, empty⟩
  · rw [same, Block.orNone, if_neg filled]
  · rw [empty, absent, Block.orNone, if_pos rfl]

/-- **The lines of a printed device are its block.** -/
theorem Shows.describes (shown : printing.Shows device) (named : device.IsNamed) :
    Describes printing.block device := by
  have whole (label : ListingLabel) (needed : label ∉ optional) :
      printing.word label = device.field label :=
    (shown label).resolve_right fun absent => needed absent.1
  have number : printing.word .device = device.id.text := whole .device (by decide)
  have ends := (isTidy_word printing .device).ends
  have written : DeviceId.IsWritten (printing.word .device).toList device.id := by
    rw [← DeviceId.ofChars?_of_trim (Text.trim_eq_self_of_ends ends), number]
    exact DeviceId.ofChars?_text device.id
  refine ⟨printing.word, ⟨_, rfl, printing.complete.map _⟩, ?_⟩
  exact {
    id := written
    status := whole .status (by decide)
    npivName := shown.orNone_eq .npivName named.npivName
    channelPath := (whole .channelPath (by decide)).symm
    physicalName := shown.orNone_eq .physicalName named.physicalName
    owner := shown.orNone_eq .owner named.owner }

theorem forall₂_describes {printings : List Printing} {devices : List LiveDevice}
    (shown : List.Forall₂ Shows printings devices) (named : ∀ device ∈ devices, device.IsNamed) :
    List.Forall₂ Describes (printings.map block) devices := by
  induction shown with
  | nil => exact .nil
  | cons shown _ ih =>
    rw [List.forall_mem_cons] at named
    exact .cons (shown.describes named.1) (ih named.2)

end Printing

/-- **Reading gives back the devices that were printed**, whatever the order of their lines, the
node names and the spaces. -/
theorem parse_printed {printings : List Printing} {devices : List LiveDevice} {ending : String}
    (shown : List.Forall₂ Printing.Shows printings devices)
    (named : ∀ device ∈ devices, device.IsNamed) (ended : ending = "" ∨ ending = "\n") :
    parse (Text.join "\n" (printings.flatMap Printing.lines) ++ ending) = .ok devices := by
  refine parse_eq_ok_iff.2 ⟨printings.map Printing.block, ?_, ?_⟩
  · rw [labelledLines_ended _ ended, Printing.labelledLines_printed]
  · exact Printing.forall₂_describes shown named

/-- A device as it is printed most often. -/
def Sample.free : Printing where
  order := others
  complete := .refl others
  node _ := some "opnstk1"
  indent
    | .device => 1
    | _ => 3
  gap _ := 1
  value
    | .device => "1A00"
    | .status => "Free"
    | .npivName => "C05076A1"
    | .channelPath => "27"
    | .physicalName => "C05076B1"
    | .owner => "NONE"
  plainNode := by
    intro label name listed
    cases listed
    decide
  plainValue label := by cases label <;> decide

/-- A device whose lines are in another order, mostly without a node name and one without a value. -/
def Sample.used : Printing where
  order := [.owner, .physicalName, .npivName, .channelPath, .status]
  complete := by decide
  node
    | .owner => some "Port: 7"
    | _ => none
  indent _ := 0
  gap
    | .owner => 0
    | _ => 1
  value
    | .device => "01b0\t"
    | .status => " ACTIVE"
    | .npivName => ""
    | .channelPath => "2A"
    | .physicalName => "C05076B2"
    | .owner => "Vm1 "
  plainNode := by
    intro label name listed
    cases label <;> cases listed
    decide
  plainValue label := by cases label <;> decide

theorem Sample.parse_free_and_used :
    List.Forall₂ Printing.Shows [free, used] [freeDevice, usedDevice] ∧
      (∀ device ∈ [freeDevice, usedDevice], device.IsNamed) ∧
      parse (Text.join "\n" ([free, used].flatMap Printing.lines) ++ "\n") =
        .ok [freeDevice, usedDevice] := by
  have pairs : List.Forall₂ Printing.Shows [free, used] [freeDevice, usedDevice] := by
    refine .cons ?_ (.cons ?_ .nil)
    · intro label
      cases label <;> decide +kernel
    · intro label
      cases label <;> decide +kernel
  have named : ∀ device ∈ [freeDevice, usedDevice], device.IsNamed := by
    intro device listed
    simp only [List.mem_cons, List.not_mem_nil, or_false] at listed
    rcases listed with rfl | rfl <;> exact ⟨by decide, by decide, by decide⟩
  exact ⟨pairs, named, parse_printed pairs named (.inr rfl)⟩

end Listing

end FibrePool
