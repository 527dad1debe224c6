import FibrePool.Proofs.RangeCodec

/-!
# The grammar of range expressions

An expression is a list of paths between semicolons, a path is a list of items between commas, and an
item is a device number or two of them with a dash between, the first not above the second.  Blanks
may stand around every number.  `Ranges.IsExpression` is this grammar, said without the reader.

Expanding accepts exactly the blank texts and the expressions, and it gives an expression its
meaning: one path for each list of items, numbered from zero, with the devices that its items cover
(`Ranges.expand_follows_grammar`).

The grammar is read from the inside out.  Each level adds a separator that no text of the level below
contains, so cutting at the separator finds the parts that were joined (`Text.forall₂_splitAt_iff`).
-/

namespace FibrePool

set_option autoImplicit false

/-! ## The grammar -/

/-- Texts with a separator between them, each of which stands for a value. -/
def Text.Joined {α : Type} (separator : Char) (stands : List Char → α → Prop) (text : List Char)
    (values : List α) : Prop :=
  ∃ pieces, text = [separator].intercalate pieces ∧ List.Forall₂ stands pieces values

/-- A device number with blanks around it. -/
def DeviceId.IsToken (text : List Char) (id : DeviceId) : Prop :=
  ∃ digits, Text.Surrounds text digits ∧ IsWritten digits id

namespace RangeItem

/-- The text of an item: a device number, or two in order with a dash between them. -/
inductive IsText : List Char → RangeItem → Prop
  | single {text : List Char} {id : DeviceId} (token : id.IsToken text) : IsText text (.single id)
  | span {left right : List Char} {first last : DeviceId} (start : first.IsToken left)
      (stop : last.IsToken right) (ordered : first.toNat ≤ last.toNat) :
      IsText (left ++ '-' :: right) (.span first last)

/-- An item stands for its device, or for all devices from one number to another. -/
def Covers : RangeItem → DeviceId → Prop
  | single other, id => id = other
  | span first last, id => first.toNat ≤ id.toNat ∧ id.toNat ≤ last.toNat

end RangeItem

namespace Ranges

/-- The text of a path: items with commas between them. -/
def IsPath (text : List Char) (items : List RangeItem) : Prop :=
  items ≠ [] ∧ Text.Joined ',' RangeItem.IsText text items

/-- The text of an expression: paths with semicolons between them. -/
def IsExpression (text : List Char) (written : List (List RangeItem)) : Prop :=
  written ≠ [] ∧ Text.Joined ';' IsPath text written

end Ranges

/-- The map has a path for each list of items, numbered from zero, and the devices of a path are
those that its items cover. -/
def PathMap.Lists (paths : PathMap) (written : List (List RangeItem)) : Prop :=
  ∀ path ids, paths.get? path = some ids ↔ ∃ items, written[path]? = some items ∧
    ∀ id, ids.contains id = true ↔ ∃ item ∈ items, item.Covers id

/-! ## Pieces -/

/-- **Cutting finds the texts that were joined**, when none of them contains the separator. -/
theorem Text.forall₂_splitAt_iff {α : Type} {separator : Char} {stands : List Char → α → Prop}
    (free : ∀ piece value, stands piece value → separator ∉ piece) {text : List Char}
    {values : List α} :
    List.Forall₂ stands (splitAt separator text) values ↔
      values ≠ [] ∧ Joined separator stands text values := by
  constructor
  · intro pairs
    refine ⟨?_, _, (intercalate_splitAt separator text).symm, pairs⟩
    rintro rfl
    exact splitAt_ne_nil separator text (List.forall₂_nil_right_iff.1 pairs)
  · rintro ⟨some, pieces, rfl, pairs⟩
    rwa [splitAt_intercalate]
    · intro piece member
      obtain ⟨value, _, stands⟩ := exists_mem_of_forall₂ pairs.flip member
      exact free piece value stands
    · rintro rfl
      exact some (List.forall₂_nil_left_iff.1 pairs)

/-! ## Items -/

namespace RangeItem

variable {text : List Char} {item : RangeItem} {id : DeviceId}

theorem readId_eq_ok : readId text = .ok id ↔ id.IsToken text := by
  rw [DeviceId.IsToken, ← DeviceId.ofChars?_eq_some_iff, readId]
  cases DeviceId.ofChars? text with
  | none => simp
  | some other => simp

theorem readId_eq_of_trim {other : List Char} (same : Text.trim text = Text.trim other) :
    readId text = readId other := by
  simp only [readId, DeviceId.ofChars?, same]

theorem dash_not_mem_blanks {blanks : List Char} (blank : Text.IsBlankText blanks) :
    '-' ∉ blanks :=
  blank.not_mem (by decide)

/-- Blanks around an item are blanks around its numbers. -/
theorem read_append_append {before after : List Char} (left : Text.IsBlankText before)
    (right : Text.IsBlankText after) (text : List Char) :
    read (before ++ text ++ after) = read text := by
  rcases Text.splitOnce?_cases '-' text with ⟨free, cut⟩ | ⟨first, last, free, rfl, cut⟩
  · have outside : '-' ∉ before ++ text ++ after := by
      simp [free, dash_not_mem_blanks left, dash_not_mem_blanks right]
    rw [read, read, cut, Text.splitOnce?_eq_none outside]
    simp only [readId_eq_of_trim (Text.trim_append_append left right text)]
  · have outside : '-' ∉ before ++ first := by
      simp [free, dash_not_mem_blanks left]
    have again := Text.splitOnce?_append outside (last ++ after)
    rw [read, read, cut, List.append_assoc, List.append_assoc, List.cons_append,
      ← List.append_assoc, again]
    simp only [readId_eq_of_trim (Text.trim_append_left left first),
      readId_eq_of_trim (Text.trim_append_right right last)]

theorem read_trim (text : List Char) : read (Text.trim text) = read text := by
  obtain ⟨before, after, left, right, parted⟩ := Text.surrounds_trim text
  calc read (Text.trim text)
      = read (before ++ Text.trim text ++ after) := (read_append_append left right _).symm
    _ = read text := by rw [← parted]

/-! ### Their characters -/

/-- The characters of numbers and dashes, and the blanks. -/
def isItemChar (c : Char) : Bool := Text.isBlank c || (Text.hexValue? c).isSome || c == '-'

theorem isItemChar_of_token (token : id.IsToken text) :
    ∀ c ∈ text, Text.isBlank c = true ∨ (Text.hexValue? c).isSome = true := by
  obtain ⟨digits, ⟨before, after, left, right, rfl⟩, written⟩ := token
  obtain ⟨values, pairs, _⟩ := written.value
  intro c member
  rcases List.mem_append.1 member with front | back
  · rcases List.mem_append.1 front with blank | digit
    · exact .inl (left c blank)
    · obtain ⟨value, _, stands⟩ := exists_mem_of_forall₂ pairs.flip digit
      rw [Text.hexValue?_eq_some_iff.2 stands]
      exact .inr rfl
  · exact .inl (right c back)

theorem dash_not_mem_token (token : id.IsToken text) : '-' ∉ text := by
  intro member
  exact absurd (isItemChar_of_token token _ member) (by decide)

theorem IsText.isItemChar (written : IsText text item) :
    ∀ c ∈ text, RangeItem.isItemChar c = true := by
  have inToken {token : List Char} {id : DeviceId} (given : id.IsToken token) :
      ∀ c ∈ token, RangeItem.isItemChar c = true := by
    intro c member
    rcases isItemChar_of_token given c member with blank | digit
    · simp [RangeItem.isItemChar, blank]
    · simp [RangeItem.isItemChar, digit]
  cases written with
  | single token => exact inToken token
  | span start stop _ =>
    intro c member
    rcases List.mem_append.1 member with left | right
    · exact inToken start c left
    · rcases List.mem_cons.1 right with rfl | right
      · rfl
      · exact inToken stop c right

/-- **Exactly the texts of items are read as items.** -/
theorem read_eq_ok_iff : read text = .ok item ↔ IsText text item := by
  constructor
  · intro done
    unfold read at done
    rcases Text.splitOnce?_cases '-' text with ⟨_, cut⟩ | ⟨left, right, _, rfl, cut⟩
    · rw [cut, map_eq_pure_bind, Outcome.bind_eq_ok] at done
      obtain ⟨id, given, same⟩ := done
      cases same
      exact .single (readId_eq_ok.1 given)
    · rw [cut] at done
      obtain ⟨first, start, done⟩ := Outcome.bind_eq_ok.1 done
      obtain ⟨last, stop, done⟩ := Outcome.bind_eq_ok.1 done
      split at done
      · cases done
      · next ordered =>
        cases done
        exact .span (readId_eq_ok.1 start) (readId_eq_ok.1 stop) (Nat.le_of_not_lt ordered)
  · intro written
    cases written with
    | single token =>
      rw [read, Text.splitOnce?_eq_none (dash_not_mem_token token)]
      simp only [readId_eq_ok.2 token]
      rfl
    | span start stop ordered =>
      rw [read, Text.splitOnce?_append (dash_not_mem_token start)]
      simp only [readId_eq_ok.2 start, readId_eq_ok.2 stop]
      exact if_neg (Nat.not_lt.2 ordered)

theorem covers_iff : item.Covers id ↔ item.devices.contains id = true := by
  cases item with
  | single other => exact contains_single.symm
  | span first last => exact contains_devicesBetween.symm

end RangeItem

namespace Ranges

variable {text : List Char} {items : List RangeItem} {written : List (List RangeItem)}

/-! ## Paths -/

theorem comma_not_mem_item {piece : List Char} {item : RangeItem} (stands : item.IsText piece) :
    ',' ∉ piece := by
  intro comma
  exact absurd (stands.isItemChar _ comma) (by decide)

theorem semicolon_not_mem_path (path : IsPath text items) : ';' ∉ text := by
  intro semicolon
  obtain ⟨_, pieces, rfl, pairs⟩ := path
  rcases Text.mem_of_mem_intercalate semicolon with same | ⟨piece, listed, inside⟩
  · exact absurd same (by decide)
  · obtain ⟨item, _, stands⟩ := exists_mem_of_forall₂ pairs.flip listed
    exact absurd (stands.isItemChar _ inside) (by decide)

/-- **Exactly the texts of paths are read as paths.** -/
theorem readPath_eq_ok_iff {path : Nat} : readPath path text = .ok items ↔ IsPath text items := by
  have step (piece : List Char) (item : RangeItem) :
      (if (Text.trim piece).isEmpty then .error s!"empty item in path {path}"
        else RangeItem.read (Text.trim piece)) = .ok item ↔ item.IsText piece := by
    rw [← RangeItem.read_eq_ok_iff, ← RangeItem.read_trim piece]
    split
    · next empty =>
      rw [List.isEmpty_iff.1 empty]
      constructor <;> rintro ⟨⟩
    · rfl
  rw [readPath, Outcome.mapM_eq_ok]
  simp only [step]
  exact Text.forall₂_splitAt_iff fun _ _ => comma_not_mem_item

/-! ## Expressions -/

/-- The paths of groups of items have the numbers of their places. -/
theorem readPath_zipIdx_eq_ok {groups : List (List Char)} {start : Nat}
    {paths : List (Nat × List RangeItem)} :
    (groups.zipIdx start).mapM (fun (group, path) => do return (path, ← readPath path group)) =
        .ok paths ↔
      ∃ written, List.Forall₂ IsPath groups written ∧
        paths = (written.zipIdx start).map Prod.swap := by
  induction groups generalizing start paths with
  | nil =>
    rw [List.zipIdx_nil, List.mapM_nil, Outcome.pure_eq_ok]
    simp [eq_comm]
  | cons group rest ih =>
    simp only [List.zipIdx_cons, List.mapM_cons, Outcome.bind_eq_ok, Outcome.pure_eq_ok, ih,
      readPath_eq_ok_iff, List.forall₂_cons_left_iff]
    constructor
    · rintro ⟨_, ⟨items, first, rfl⟩, _, ⟨others, later, rfl⟩, rfl⟩
      exact ⟨items :: others, ⟨items, others, first, later, rfl⟩, rfl⟩
    · rintro ⟨_, ⟨items, others, first, later, rfl⟩, rfl⟩
      exact ⟨_, ⟨items, first, rfl⟩, _, ⟨others, later, rfl⟩, rfl⟩

/-- A blank text is no expression: it would have to be an item. -/
theorem not_blank_of_isExpression (expression : IsExpression text written) :
    ¬ Text.IsBlankText text := by
  intro blank
  have paths := (Text.forall₂_splitAt_iff fun _ _ => semicolon_not_mem_path).2 expression
  rw [Text.splitAt_eq_singleton (blank.not_mem (by decide))] at paths
  obtain ⟨items, _, path, _⟩ := List.forall₂_cons_left_iff.1 paths
  have pieces := (Text.forall₂_splitAt_iff fun _ _ => comma_not_mem_item).2 path
  rw [Text.splitAt_eq_singleton (blank.not_mem (by decide))] at pieces
  obtain ⟨item, _, stands, _⟩ := List.forall₂_cons_left_iff.1 pieces
  have read := RangeItem.read_eq_ok_iff.2 stands
  rw [← RangeItem.read_trim, Text.trim_eq_nil_iff.2 blank] at read
  cases read

/-- **Exactly the blank texts and the expressions are read.** -/
theorem readPaths_eq_ok_iff {paths : List (Nat × List RangeItem)} :
    readPaths text = .ok paths ↔ (Text.IsBlankText text ∧ paths = []) ∨
      ∃ written, IsExpression text written ∧ paths = written.zipIdx.map Prod.swap := by
  unfold readPaths
  split
  · next empty =>
    have blank := Text.trim_eq_nil_iff.1 (List.isEmpty_iff.1 empty)
    constructor
    · intro done
      cases done
      exact .inl ⟨blank, rfl⟩
    · rintro (⟨_, rfl⟩ | ⟨written, expression, _⟩)
      · rfl
      · exact absurd blank (not_blank_of_isExpression expression)
  · next filled =>
    rw [readPath_zipIdx_eq_ok]
    simp only [Text.forall₂_splitAt_iff fun _ _ => semicolon_not_mem_path]
    constructor
    · exact .inr
    · rintro (⟨blank, _⟩ | done)
      · exact absurd (List.isEmpty_iff.2 (Text.trim_eq_nil_iff.2 blank)) filled
      · exact done

/-! ## Meanings -/

/-- The map of the paths that were read. -/
def pathMapOf (written : List (List RangeItem)) : PathMap :=
  .ofList (written.zipIdx.map fun place => (place.2, devicesOf place.1))

theorem get?_pathMapOf {path : Nat} :
    (pathMapOf written).get? path = written[path]?.map devicesOf := by
  have keys : (written.zipIdx.map fun place => (place.2, devicesOf place.1)).map (·.1) =
      List.range (written.zipIdx.map fun place => (place.2, devicesOf place.1)).length := by
    rw [List.map_map, List.length_map, List.length_zipIdx, List.range_eq_range']
    exact List.zipIdx_map_snd 0 written
  apply Option.ext
  intro ids
  rw [← OrderedMap.mem_entries_iff, pathMapOf, OrderedMap.entries_ofList (ascending_of_keys keys),
    List.mem_map, Option.map_eq_some_iff]
  constructor
  · rintro ⟨⟨items, place⟩, listed, same⟩
    cases same
    exact ⟨items, List.mem_zipIdx_iff_getElem?.1 listed, rfl⟩
  · rintro ⟨items, listed, rfl⟩
    exact ⟨(items, path), List.mem_zipIdx_iff_getElem?.2 listed, rfl⟩

/-- A set is that of a list of items when it has the devices that they cover. -/
theorem devicesOf_eq_iff {ids : DeviceSet} :
    devicesOf items = ids ↔ ∀ id, ids.contains id = true ↔ ∃ item ∈ items, item.Covers id := by
  simp only [RangeItem.covers_iff, ← contains_devicesOf]
  constructor
  · rintro rfl id
    rfl
  · intro same
    exact OrderedMap.ext_contains fun id => (same id).symm

theorem lists_iff {paths : PathMap} : paths.Lists written ↔ paths = pathMapOf written := by
  have meaning (path : Nat) (ids : DeviceSet) : (pathMapOf written).get? path = some ids ↔
      ∃ items, written[path]? = some items ∧
        ∀ id, ids.contains id = true ↔ ∃ item ∈ items, item.Covers id := by
    rw [get?_pathMapOf, Option.map_eq_some_iff]
    exact exists_congr fun items => and_congr_right fun _ => devicesOf_eq_iff
  constructor
  · intro lists
    apply OrderedMap.ext_get?
    intro path
    apply Option.ext
    intro ids
    rw [lists, meaning]
  · rintro rfl
    exact meaning

/-- **An expression has the meaning that it is expanded to.** -/
theorem expand_eq_ok_iff {spec : String} {paths : PathMap} :
    expand spec = .ok paths ↔ (Text.IsBlankText spec.toList ∧ paths = ∅) ∨
      ∃ written, IsExpression spec.toList written ∧ paths.Lists written := by
  have read : expand spec = .ok paths ↔ ∃ entries, readPaths spec.toList = .ok entries ∧
      OrderedMap.ofList (entries.map fun entry => (entry.1, devicesOf entry.2)) = paths := by
    rw [expand]
    cases readPaths spec.toList with
    | ok entries => simp
    | error reason => simp
  simp only [read, readPaths_eq_ok_iff, lists_iff]
  constructor
  · rintro ⟨_, ⟨blank, rfl⟩ | ⟨written, expression, rfl⟩, rfl⟩
    · exact .inl ⟨blank, rfl⟩
    · refine .inr ⟨written, expression, ?_⟩
      rw [List.map_map]
      rfl
  · rintro (⟨blank, rfl⟩ | ⟨written, expression, rfl⟩)
    · exact ⟨_, .inl ⟨blank, rfl⟩, rfl⟩
    · refine ⟨_, .inr ⟨written, expression, rfl⟩, ?_⟩
      rw [List.map_map]
      rfl

/-- A text that is not accepted is reported with the text itself. -/
theorem expand_cases (spec : String) :
    (∃ paths, expand spec = .ok paths) ∨
      ∃ reason, expand spec = .error (.invalidFormat spec reason) := by
  rw [expand]
  cases readPaths spec.toList with
  | ok entries => exact .inl ⟨_, rfl⟩
  | error reason => exact .inr ⟨reason, rfl⟩

/-- A text is blank or an expression. -/
def IsAccepted (text : List Char) : Prop :=
  Text.IsBlankText text ∨ ∃ written, IsExpression text written

theorem exists_expand_iff {spec : String} :
    (∃ paths, expand spec = .ok paths) ↔ IsAccepted spec.toList := by
  simp only [expand_eq_ok_iff, lists_iff]
  constructor
  · rintro ⟨_, ⟨blank, _⟩ | ⟨written, expression, _⟩⟩
    · exact .inl blank
    · exact .inr ⟨written, expression⟩
  · rintro (blank | ⟨written, expression⟩)
    · exact ⟨∅, .inl ⟨blank, rfl⟩⟩
    · exact ⟨_, .inr ⟨written, expression, rfl⟩⟩

/-- **Expanding follows the grammar.**  It accepts the blank texts and the expressions, reports every
other text as one of a wrong format, and gives an expression one path for each of its groups, with
the devices that the items of the group cover; a blank text has no path. -/
theorem expand_follows_grammar (spec : String) :
    ((∃ paths, expand spec = .ok paths) ↔ IsAccepted spec.toList) ∧
    ((∃ reason, expand spec = .error (.invalidFormat spec reason)) ↔ ¬ IsAccepted spec.toList) ∧
    ∀ paths, expand spec = .ok paths ↔ (Text.IsBlankText spec.toList ∧ paths = ∅) ∨
      ∃ written, IsExpression spec.toList written ∧ paths.Lists written := by
  refine ⟨exists_expand_iff, ?_, fun paths => expand_eq_ok_iff⟩
  rw [← exists_expand_iff]
  constructor
  · rintro ⟨reason, failed⟩ ⟨paths, done⟩
    cases failed.symm.trans done
  · intro refused
    exact (expand_cases spec).resolve_left refused

end Ranges

end FibrePool
