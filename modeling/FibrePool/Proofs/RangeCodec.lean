import FibrePool.Device.Ranges
import FibrePool.Proofs.DeviceNumbers

/-!
# Range expressions are read back

Collapsing writes a set of devices as its maximal runs, and expanding reads an expression as one set
for each path.  The two fit together: the expression of a path map is read back to that map
(`Ranges.collapsed_paths_read_back`), provided that the paths are numbered from zero without gaps
and that each has a device.  Every map that is read from an expression is of this kind
(`Ranges.numbered_of_expand`), so expanding, collapsing and expanding again loses nothing.

The proof goes through the three levels of an expression in turn: an item is read back to the run it
was written for, the items of a path to devices between the ends of a run, and the paths to the
entries of the map.  At each level the texts that were joined do not contain the separator, because
they consist of upper-case hexadecimal digits and of the separators of the levels below.
-/

namespace FibrePool

set_option autoImplicit false

/-- The paths are numbered from zero without gaps, and each of them has a device. -/
structure PathMap.Numbered (paths : PathMap) : Prop where
  keys_eq : paths.keys = List.range paths.size
  filled : ∀ path ids, paths.get? path = some ids → ids ≠ ∅

/-! ## Items -/

namespace RangeItem

theorem contains_foldr_insert {numbers : List Nat} (small : ∀ n ∈ numbers, n < 65536)
    {id : DeviceId} :
    (numbers.foldr (fun number (set : DeviceSet) => set.insert (DeviceId.ofNat number) ())
      ∅).contains id = true ↔ id.toNat ∈ numbers := by
  induction numbers with
  | nil => simp [OrderedMap.contains_empty]
  | cons number rest ih =>
    rw [List.foldr_cons, OrderedMap.contains_insert, List.mem_cons,
      ih fun n member => small n (List.mem_cons_of_mem _ member),
      DeviceId.eq_ofNat_iff (small number List.mem_cons_self)]

/-- The devices from one number to another are those whose numbers lie between the two. -/
theorem contains_devicesBetween {first last id : DeviceId} :
    (devicesBetween first last).contains id = true ↔
      first.toNat ≤ id.toNat ∧ id.toNat ≤ last.toNat := by
  have bound := last.toNat_lt
  rw [devicesBetween, contains_foldr_insert, List.mem_range'_1]
  · omega
  · intro n member
    rw [List.mem_range'_1] at member
    omega

theorem contains_single {other id : DeviceId} :
    (single other).devices.contains id = true ↔ id = other := by
  simp [devices, OrderedMap.contains_insert, OrderedMap.contains_empty]

/-- Every item that is read has a device: a range does not end before it starts. -/
theorem devices_ne_empty_of_read {text : List Char} {item : RangeItem}
    (done : read text = .ok item) : item.devices ≠ ∅ := by
  apply OrderedMap.exists_contains_iff.1
  unfold read at done
  split at done
  · rw [map_eq_pure_bind, Outcome.bind_eq_ok] at done
    obtain ⟨id, _, same⟩ := done
    cases same
    exact ⟨id, contains_single.2 rfl⟩
  · obtain ⟨first, _, done⟩ := Outcome.bind_eq_ok.1 done
    obtain ⟨last, _, done⟩ := Outcome.bind_eq_ok.1 done
    split at done
    · cases done
    · cases done
      exact ⟨first, contains_devicesBetween.2 (by omega)⟩

end RangeItem

namespace Ranges

/-! ## Runs -/

/-- A run does not end before it starts, and it ends at one of the numbers. -/
theorem ends_of_mem_runs (numbers : List Nat) :
    ∀ run ∈ runs numbers, run.1 ≤ run.2 ∧ run.2 ∈ numbers := by
  fun_induction runs numbers with
  | case1 => simp
  | case2 number rest last more found ih =>
    rw [found] at ih
    intro run member
    rcases List.mem_cons.1 member with rfl | later
    · obtain ⟨ordered, listed⟩ := ih (number + 1, last) List.mem_cons_self
      exact ⟨Nat.le_of_succ_le ordered, List.mem_cons_of_mem _ listed⟩
    · obtain ⟨ordered, listed⟩ := ih run (List.mem_cons_of_mem _ later)
      exact ⟨ordered, List.mem_cons_of_mem _ listed⟩
  | case3 number rest first last more found apart ih =>
    rw [found] at ih
    intro run member
    rcases List.mem_cons.1 member with rfl | later
    · exact ⟨Nat.le_refl number, List.mem_cons_self⟩
    · obtain ⟨ordered, listed⟩ := ih run later
      exact ⟨ordered, List.mem_cons_of_mem _ listed⟩
  | case4 number rest found ih => simp

/-- **The runs cover exactly the numbers that they were made of.** -/
theorem exists_run_iff (numbers : List Nat) (n : Nat) :
    (∃ run ∈ runs numbers, run.1 ≤ n ∧ n ≤ run.2) ↔ n ∈ numbers := by
  fun_induction runs numbers with
  | case1 => simp
  | case2 number rest last more found ih =>
    -- the run that starts just above `number` now starts at `number`
    have ordered := (ends_of_mem_runs rest (number + 1, last) (found ▸ List.mem_cons_self)).1
    rw [List.mem_cons, ← ih, found]
    simp only [List.exists_mem_cons_iff]
    rw [← or_assoc]
    exact or_congr_left (by omega)
  | case3 number rest first last more found apart ih =>
    rw [List.mem_cons, ← ih, found, List.exists_mem_cons_iff]
    exact or_congr_left (by omega)
  | case4 number rest found ih =>
    rw [List.mem_cons, ← ih, found, List.exists_mem_cons_iff]
    exact or_congr_left (by omega)

/-- The item that stands for a run. -/
def itemOf (run : Nat × Nat) : RangeItem :=
  if run.1 = run.2 then .single (.ofNat run.1) else .span (.ofNat run.1) (.ofNat run.2)

theorem contains_itemOf {run : Nat × Nat} (ordered : run.1 ≤ run.2) (below : run.2 < 65536)
    {id : DeviceId} :
    (itemOf run).devices.contains id = true ↔ run.1 ≤ id.toNat ∧ id.toNat ≤ run.2 := by
  unfold itemOf
  split
  · rw [RangeItem.contains_single, DeviceId.eq_ofNat_iff (by omega)]
    omega
  · rw [RangeItem.devices, RangeItem.contains_devicesBetween, DeviceId.toNat_ofNat (by omega),
      DeviceId.toNat_ofNat below]

theorem contains_devicesOf {items : List RangeItem} {id : DeviceId} :
    (devicesOf items).contains id = true ↔ ∃ item ∈ items, item.devices.contains id = true := by
  have joined (set : DeviceSet) :
      (items.foldl (fun set item => set.union item.devices) set).contains id = true ↔
        set.contains id = true ∨ ∃ item ∈ items, item.devices.contains id = true := by
    induction items generalizing set with
    | nil => simp
    | cons item rest ih =>
      rw [List.foldl_cons, ih, OrderedMap.contains_union, List.exists_mem_cons_iff, or_assoc]
  rw [devicesOf, joined, OrderedMap.contains_empty]
  simp

/-- The items that a set of devices is written with. -/
def itemsOf (ids : DeviceSet) : List RangeItem :=
  (runs (ids.keys.map DeviceId.toNat)).map itemOf

theorem mem_numbers_iff {ids : DeviceSet} {id : DeviceId} :
    id.toNat ∈ ids.keys.map DeviceId.toNat ↔ ids.contains id = true := by
  rw [← OrderedMap.mem_keys_iff, List.mem_map]
  constructor
  · rintro ⟨other, listed, same⟩
    rwa [← DeviceId.ofNat_toNat id, ← same, DeviceId.ofNat_toNat]
  · intro listed
    exact ⟨id, listed, rfl⟩

theorem lt_of_mem_numbers {ids : DeviceSet} {n : Nat} (member : n ∈ ids.keys.map DeviceId.toNat) :
    n < 65536 := by
  obtain ⟨id, _, rfl⟩ := List.mem_map.1 member
  exact id.toNat_lt

/-- The items of a set stand for the devices of the set. -/
theorem devicesOf_itemsOf (ids : DeviceSet) : devicesOf (itemsOf ids) = ids := by
  apply OrderedMap.ext_contains
  intro id
  rw [contains_devicesOf, ← mem_numbers_iff, ← exists_run_iff]
  have covered {run : Nat × Nat} (member : run ∈ runs (ids.keys.map DeviceId.toNat)) :
      (itemOf run).devices.contains id = true ↔ run.1 ≤ id.toNat ∧ id.toNat ≤ run.2 := by
    obtain ⟨ordered, listed⟩ := ends_of_mem_runs _ run member
    exact contains_itemOf ordered (lt_of_mem_numbers listed)
  constructor
  · rintro ⟨_, listed, inside⟩
    obtain ⟨run, member, rfl⟩ := List.mem_map.1 listed
    exact ⟨run, member, (covered member).1 inside⟩
  · rintro ⟨run, member, inside⟩
    exact ⟨itemOf run, List.mem_map_of_mem member, (covered member).2 inside⟩

/-! ## Texts of items and paths -/

/-- The characters of an item. -/
def itemChars : List Char := '-' :: Text.upperDigits

/-- The characters of a path. -/
def pathChars : List Char := ',' :: itemChars

/-- The characters of an expression. -/
def expressionChars : List Char := ';' :: pathChars

theorem isBlank_expressionChars : ∀ c ∈ expressionChars, Text.isBlank c = false := by
  intro c member
  have nowhere : expressionChars.all (fun c => !Text.isBlank c) = true := by decide
  rw [← Bool.not_eq_true']
  exact List.all_eq_true.1 nowhere c member

theorem toList_upperWord (number : Nat) :
    (upperWord number).toList = (Text.hexWord number).map Char.toUpper :=
  String.toList_ofList

theorem mem_upperWord {number : Nat} {c : Char} (member : c ∈ (upperWord number).toList) :
    c ∈ Text.upperDigits := by
  rw [toList_upperWord] at member
  exact Text.mem_upperDigits_of_mem_word member

theorem dash_not_mem_upperWord (number : Nat) : '-' ∉ (upperWord number).toList :=
  fun member => absurd (mem_upperWord member) (by decide)

theorem mem_showRun {run : Nat × Nat} {c : Char} (member : c ∈ (showRun run).toList) :
    c ∈ itemChars := by
  unfold showRun at member
  split at member
  · exact List.mem_cons_of_mem _ (mem_upperWord member)
  · rw [String.toList_append, String.toList_append, List.append_assoc, List.mem_append,
      List.mem_append] at member
    rcases member with first | dash | last
    · exact List.mem_cons_of_mem _ (mem_upperWord first)
    · exact List.mem_cons.2 (Or.inl (by simpa using dash))
    · exact List.mem_cons_of_mem _ (mem_upperWord last)

theorem showRun_ne_nil (run : Nat × Nat) : (showRun run).toList ≠ [] := by
  unfold showRun
  split <;> simp [toList_upperWord, Text.hexWord]

/-- The texts of the items that a set of devices is written with. -/
def textsOf (ids : DeviceSet) : List (List Char) :=
  (runs (ids.keys.map DeviceId.toNat)).map fun run => (showRun run).toList

theorem textsOf_ne_nil {ids : DeviceSet} (filled : ids ≠ ∅) : textsOf ids ≠ [] := by
  obtain ⟨id, listed⟩ := OrderedMap.exists_contains_iff.2 filled
  obtain ⟨run, member, _⟩ := (exists_run_iff _ _).2 (mem_numbers_iff.2 listed)
  exact List.ne_nil_of_mem (List.mem_map_of_mem member)

theorem toList_collapse (ids : DeviceSet) :
    (collapse ids).toList = [','].intercalate (textsOf ids) := by
  rw [collapse, String.toList_intercalate, List.map_map]
  rfl

theorem mem_collapse {ids : DeviceSet} {c : Char} (member : c ∈ (collapse ids).toList) :
    c ∈ pathChars := by
  rw [toList_collapse] at member
  rcases Text.mem_of_mem_intercalate member with comma | ⟨text, listed, inside⟩
  · exact List.mem_cons.2 (Or.inl comma)
  · obtain ⟨run, _, rfl⟩ := List.mem_map.1 listed
    exact List.mem_cons_of_mem _ (mem_showRun inside)

theorem comma_not_mem_textsOf {ids : DeviceSet} : ∀ text ∈ textsOf ids, ',' ∉ text := by
  intro text listed comma
  obtain ⟨run, _, rfl⟩ := List.mem_map.1 listed
  exact absurd (mem_showRun comma) (by decide)

theorem collapse_ne_nil {ids : DeviceSet} (filled : ids ≠ ∅) : (collapse ids).toList ≠ [] := by
  rw [toList_collapse]
  apply Text.intercalate_ne_nil comma_not_mem_textsOf (textsOf_ne_nil filled)
  intro empty
  obtain ⟨run, _, same⟩ := List.mem_map.1 empty
  exact showRun_ne_nil run same

theorem toList_collapsePaths (paths : PathMap) :
    (collapsePaths paths).toList =
      [';'].intercalate (paths.values.map fun ids => (collapse ids).toList) := by
  rw [collapsePaths, String.toList_intercalate, List.map_map]
  rfl

theorem mem_collapsePaths {paths : PathMap} {c : Char} (member : c ∈ (collapsePaths paths).toList) :
    c ∈ expressionChars := by
  rw [toList_collapsePaths] at member
  rcases Text.mem_of_mem_intercalate member with semicolon | ⟨text, listed, inside⟩
  · exact List.mem_cons.2 (Or.inl semicolon)
  · obtain ⟨ids, _, rfl⟩ := List.mem_map.1 listed
    exact List.mem_cons_of_mem _ (mem_collapse inside)

/-! ## Reading back -/

theorem readId_upperWord {number : Nat} (below : number < 65536) :
    RangeItem.readId (upperWord number).toList = .ok (.ofNat number) := by
  have plain : ∀ c ∈ (upperWord number).toList, Text.isBlank c = false := by
    intro c member
    apply isBlank_expressionChars
    exact List.mem_cons_of_mem _ (List.mem_cons_of_mem _ (List.mem_cons_of_mem _
      (mem_upperWord member)))
  have short : (upperWord number).toList.length ≤ 4 := by
    simp [toList_upperWord, Text.hexWord]
  have named : DeviceId.ofChars? (upperWord number).toList = some (.ofNat number) := by
    rw [DeviceId.ofChars?, Text.trim_eq_self plain, if_pos short, toList_upperWord,
      Text.hexNumber?_upperWord below, Option.map_some]
  rw [RangeItem.readId, named]

/-- **An item is read back to the run that it was written for.** -/
theorem read_showRun {run : Nat × Nat} (ordered : run.1 ≤ run.2) (below : run.2 < 65536) :
    RangeItem.read (showRun run).toList = .ok (itemOf run) := by
  unfold showRun itemOf
  split
  · rw [RangeItem.read, Text.splitOnce?_eq_none (dash_not_mem_upperWord run.1)]
    simp only [readId_upperWord (Nat.lt_of_le_of_lt ordered below)]
    rfl
  · have cut : Text.splitOnce? '-' (upperWord run.1 ++ "-" ++ upperWord run.2).toList =
        some ((upperWord run.1).toList, (upperWord run.2).toList) := by
      rw [String.toList_append, String.toList_append, List.append_assoc]
      exact Text.splitOnce?_append (dash_not_mem_upperWord run.1) _
    have upright : ¬ (DeviceId.ofNat run.2).toNat < (DeviceId.ofNat run.1).toNat := by
      rw [DeviceId.toNat_ofNat below, DeviceId.toNat_ofNat (by omega)]
      omega
    rw [RangeItem.read, cut]
    simp only [readId_upperWord below, readId_upperWord (Nat.lt_of_le_of_lt ordered below)]
    exact if_neg upright

/-- **A path is read back to the items that it was written with.** -/
theorem readPath_collapse (path : Nat) {ids : DeviceSet} (filled : ids ≠ ∅) :
    readPath path (collapse ids).toList = .ok (itemsOf ids) := by
  have cut : Text.splitAt ',' (collapse ids).toList = textsOf ids := by
    rw [toList_collapse]
    exact Text.splitAt_intercalate comma_not_mem_textsOf (textsOf_ne_nil filled)
  rw [readPath, cut, Outcome.mapM_eq_ok, textsOf, itemsOf, List.forall₂_map_left_iff,
    List.forall₂_map_right_iff, List.forall₂_same]
  intro run member
  have plain : Text.trim (showRun run).toList = (showRun run).toList := by
    apply Text.trim_eq_self
    intro c inside
    apply isBlank_expressionChars
    exact List.mem_cons_of_mem _ (List.mem_cons_of_mem _ (mem_showRun inside))
  obtain ⟨ordered, listed⟩ := ends_of_mem_runs _ run member
  rw [plain]
  exact (if_neg (by simpa using showRun_ne_nil run)).trans
    (read_showRun ordered (lt_of_mem_numbers listed))

end Ranges

namespace PathMap

/-- The values of a numbered map stand at the places of their keys. -/
theorem Numbered.zipIdx_values {paths : PathMap} (numbered : paths.Numbered) :
    paths.values.zipIdx = paths.entries.map Prod.swap := by
  have places : List.range' 0 paths.values.length = paths.keys := by
    rw [numbered.keys_eq, List.range_eq_range', OrderedMap.values, List.length_map, OrderedMap.size]
  rw [List.zipIdx_eq_zip_range', places, OrderedMap.values, OrderedMap.keys, List.zip_map']
  rfl

end PathMap

namespace Ranges

theorem semicolon_not_mem_texts {paths : PathMap} :
    ∀ text ∈ paths.values.map fun ids => (collapse ids).toList, ';' ∉ text := by
  intro text listed semicolon
  obtain ⟨ids, _, rfl⟩ := List.mem_map.1 listed
  exact absurd (mem_collapse semicolon) (by decide)

/-- **The paths are read back to the items that they were written with.** -/
theorem readPaths_collapsePaths {paths : PathMap} (numbered : paths.Numbered) :
    readPaths (collapsePaths paths).toList =
      .ok (paths.entries.map fun entry => (entry.1, itemsOf entry.2)) := by
  have filled : ∀ ids ∈ paths.values, ids ≠ ∅ := by
    intro ids listed
    obtain ⟨path, filed⟩ := OrderedMap.mem_values_iff.1 listed
    exact numbered.filled path ids filed
  have plain : Text.trim (collapsePaths paths).toList = (collapsePaths paths).toList :=
    Text.trim_eq_self fun c member => isBlank_expressionChars c (mem_collapsePaths member)
  rw [readPaths, plain, toList_collapsePaths]
  -- without paths the expression is the blank text, with paths it has a character
  by_cases none : paths.entries = []
  · rw [OrderedMap.values, none]
    rfl
  · have some : paths.values.map (fun ids => (collapse ids).toList) ≠ [] := by
      simpa [OrderedMap.values] using none
    have written : [';'].intercalate (paths.values.map fun ids => (collapse ids).toList) ≠ [] := by
      apply Text.intercalate_ne_nil semicolon_not_mem_texts some
      intro empty
      obtain ⟨ids, listed, same⟩ := List.mem_map.1 empty
      exact collapse_ne_nil (filled ids listed) same
    rw [if_neg (by simpa using written), Text.splitAt_intercalate semicolon_not_mem_texts some,
      List.zipIdx_map, numbered.zipIdx_values, List.map_map, Outcome.mapM_eq_ok,
      List.forall₂_map_left_iff, List.forall₂_map_right_iff, List.forall₂_same]
    rintro ⟨path, ids⟩ listed
    have read := readPath_collapse path (filled ids (List.mem_map_of_mem listed))
    simp only [Function.comp_apply, Prod.swap_prod_mk, Prod.map_apply, id, read]
    rfl

theorem expand_collapsePaths {paths : PathMap} (numbered : paths.Numbered) :
    expand (collapsePaths paths) = .ok paths := by
  have entries : (paths.entries.map fun entry => (entry.1, itemsOf entry.2)).map
      (fun entry => (entry.1, devicesOf entry.2)) = paths.entries := by
    rw [List.map_map]
    exact (List.map_congr_left fun entry _ =>
      congrArg (Prod.mk entry.1) (devicesOf_itemsOf entry.2)).trans (List.map_id _)
  rw [expand, readPaths_collapsePaths numbered]
  show Except.ok (OrderedMap.ofList ((paths.entries.map fun entry =>
    (entry.1, itemsOf entry.2)).map fun entry => (entry.1, devicesOf entry.2))) = .ok paths
  rw [entries, OrderedMap.ofList_entries]

/-! ## Maps that are read from an expression -/

/-- A path that is read has a device. -/
theorem devicesOf_ne_empty_of_readPath {path : Nat} {group : List Char} {items : List RangeItem}
    (done : readPath path group = .ok items) : devicesOf items ≠ ∅ := by
  have pairs := Outcome.mapM_eq_ok.1 done
  obtain ⟨piece, pieces, cut⟩ := List.exists_cons_of_ne_nil (Text.splitAt_ne_nil ',' group)
  rw [cut] at pairs
  obtain ⟨item, rest, read, _, rfl⟩ := List.forall₂_cons_left_iff.1 pairs
  dsimp only at read
  split at read
  · cases read
  · obtain ⟨id, inside⟩ :=
      OrderedMap.exists_contains_iff.2 (RangeItem.devices_ne_empty_of_read read)
    exact OrderedMap.exists_contains_iff.1
      ⟨id, contains_devicesOf.2 ⟨item, List.mem_cons_self, inside⟩⟩

/-- Every path that is read has the number of its place. -/
theorem readPaths_eq_ok {text : List Char} {paths : List (Nat × List RangeItem)}
    (done : readPaths text = .ok paths) :
    ∃ groups : List (List Char), List.Forall₂
      (fun place entry => place.2 = entry.1 ∧ readPath place.2 place.1 = .ok entry.2)
      groups.zipIdx paths := by
  unfold readPaths at done
  split at done
  · cases done
    exact ⟨[], .nil⟩
  · refine ⟨_, (Outcome.mapM_eq_ok.1 done).imp fun place entry step => ?_⟩
    obtain ⟨items, read, same⟩ := Outcome.bind_eq_ok.1 step
    cases same
    exact ⟨rfl, read⟩

theorem keys_of_readPaths {text : List Char} {paths : List (Nat × List RangeItem)}
    (done : readPaths text = .ok paths) : paths.map (·.1) = List.range paths.length := by
  obtain ⟨groups, pairs⟩ := readPaths_eq_ok done
  have same : groups.zipIdx.map (·.2) = paths.map (·.1) := by
    rw [← List.forall₂_eq_eq_eq, List.forall₂_map_left_iff, List.forall₂_map_right_iff]
    exact pairs.imp fun _ _ place => place.1
  rw [← same, List.zipIdx_map_snd, ← pairs.length_eq, List.length_zipIdx, List.range_eq_range']

theorem filled_of_readPaths {text : List Char} {paths : List (Nat × List RangeItem)}
    (done : readPaths text = .ok paths) : ∀ entry ∈ paths, devicesOf entry.2 ≠ ∅ := by
  intro entry member
  obtain ⟨groups, pairs⟩ := readPaths_eq_ok done
  obtain ⟨_, _, _, read⟩ := exists_mem_of_forall₂ pairs member
  exact devicesOf_ne_empty_of_readPath read

theorem ascending_of_keys {entries : List (Nat × DeviceSet)}
    (keys : entries.map (·.1) = List.range entries.length) : Ascending entries := by
  have sorted : (entries.map (·.1)).Pairwise (· < ·) := keys ▸ List.pairwise_lt_range
  exact (List.pairwise_map.1 sorted).imp fun less => Nat.compare_eq_lt.2 less

/-- **The paths of an expression are numbered, and each has a device.** -/
theorem numbered_of_expand {spec : String} {paths : PathMap} (done : expand spec = .ok paths) :
    paths.Numbered := by
  unfold expand at done
  split at done
  · next read found =>
    cases done
    show PathMap.Numbered (OrderedMap.ofList (read.map fun entry => (entry.1, devicesOf entry.2)))
    have keys : (read.map fun entry => (entry.1, devicesOf entry.2)).map (·.1) =
        List.range (read.map fun entry => (entry.1, devicesOf entry.2)).length := by
      rw [List.map_map, List.length_map]
      exact keys_of_readPaths found
    have entries := OrderedMap.entries_ofList (ascending_of_keys keys)
    constructor
    · rw [OrderedMap.keys, OrderedMap.size, entries, keys]
    · intro path ids filed
      rw [← OrderedMap.mem_entries_iff, entries] at filed
      obtain ⟨entry, member, same⟩ := List.mem_map.1 filed
      cases same
      exact filled_of_readPaths found entry member
  · cases done

theorem numbered_single {ids : DeviceSet} (filled : ids ≠ ∅) :
    PathMap.Numbered (OrderedMap.insert ∅ 0 ids) := by
  constructor
  · rfl
  · intro path other filed
    by_cases same : path = 0
    · subst same
      rw [OrderedMap.get?_insert_self] at filed
      cases filed
      exact filled
    · rw [OrderedMap.get?_insert_of_ne _ same, OrderedMap.get?_empty] at filed
      cases filed

theorem collapsePaths_single (ids : DeviceSet) :
    collapsePaths (OrderedMap.insert ∅ 0 ids) = collapse ids :=
  String.intercalate_singleton

/-- **Range expressions are read back.**  The expression of a map whose paths are numbered from zero
and have devices gives that map again.  In particular the expression of a set of devices gives one
path with this set, and an expression that was read may be replaced by the collapsed one. -/
theorem collapsed_paths_read_back :
    (∀ paths : PathMap, paths.Numbered → expand (collapsePaths paths) = .ok paths) ∧
    (∀ ids : DeviceSet, ids ≠ ∅ → expand (collapse ids) = .ok (OrderedMap.insert ∅ 0 ids)) ∧
    ∀ (spec : String) (paths : PathMap), expand spec = .ok paths →
      expand (collapsePaths paths) = .ok paths := by
  refine ⟨fun paths numbered => expand_collapsePaths numbered, fun ids filled => ?_,
    fun spec paths done => expand_collapsePaths (numbered_of_expand done)⟩
  rw [← collapsePaths_single]
  exact expand_collapsePaths (numbered_single filled)

/-- No path, one path up to the last device number, and an expression with blanks, lower-case digits
and items out of order. -/
theorem sample_paths_read_back :
    expand (collapsePaths ∅) = .ok ∅ ∧
    expand (collapse (RangeItem.devicesBetween ⟨0xfffd⟩ ⟨0xffff⟩)) =
      .ok (OrderedMap.insert ∅ 0 (RangeItem.devicesBetween ⟨0xfffd⟩ ⟨0xffff⟩)) ∧
    ∃ paths : PathMap, expand " 1b0 , 1a00-1a02,1A03 ; FFFF " = .ok paths ∧ paths.size = 2 ∧
      expand (collapsePaths paths) = .ok paths := by
  obtain ⟨numbered, filled, read⟩ := collapsed_paths_read_back
  have done : expand " 1b0 , 1a00-1a02,1A03 ; FFFF " = .ok (OrderedMap.ofList
      [(0, (RangeItem.devicesBetween ⟨0x1a00⟩ ⟨0x1a03⟩).insert ⟨0x1b0⟩ ()),
        (1, OrderedMap.insert ∅ ⟨0xffff⟩ ())]) := by
    decide +kernel
  refine ⟨numbered ∅ ⟨rfl, ?_⟩, filled _ (by decide), _, done, by decide, read _ _ done⟩
  intro path ids filed
  rw [OrderedMap.get?_empty] at filed
  cases filed

end Ranges

end FibrePool
