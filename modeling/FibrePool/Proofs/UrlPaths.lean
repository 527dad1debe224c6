import FibrePool.Net.Url
import FibrePool.Proofs.Escapes
import Mathlib.Data.List.Basic
import Mathlib.Data.List.TakeWhile

/-!
# Addresses with names appended

The path that a server sees is what is left of the path of an address when dots have been carried
out and characters escaped.  What is written with escapes means nothing to either
(`Percent.isMeek_of_mem_encode`, `Percent.isName_encode`), so escaped names that are appended to an
address come through as they were written, behind whatever the path of the address comes to
(`Url.segmentsOf_append`), and the host is the one of the address (`Url.parse_append`).
-/

namespace FibrePool

set_option autoImplicit false

/-! ## Paths of addresses -/

namespace Text

theorem splitAt_replicate (separator : Char) (count : Nat) :
    splitAt separator (List.replicate count separator) = List.replicate (count + 1) [] := by
  induction count with
  | zero => rfl
  | succ count ih => rw [List.replicate_succ, splitAt, if_pos rfl, ih, ← List.replicate_succ]

end Text

namespace Url

/-- The text of a path. -/
def pathText (segments : List (List Char)) : List Char :=
  segments.flatMap fun segment => '/' :: segment

theorem pathText_cons (segment : List Char) (segments : List (List Char)) :
    pathText (segment :: segments) = '/' :: ['/'].intercalate (segment :: segments) := by
  induction segments generalizing segment with
  | nil => simp [pathText]
  | cons next segments ih =>
    rw [List.intercalate_cons_cons, pathText, List.flatMap_cons]
    have rest := ih next
    rw [pathText] at rest
    rw [rest]
    simp

/-- The segments of a path text are the only ones without slashes. -/
theorem pathText_injective {segments others : List (List Char)}
    (free : ∀ segment ∈ segments, '/' ∉ segment) (free' : ∀ segment ∈ others, '/' ∉ segment)
    (same : pathText segments = pathText others) : segments = others := by
  cases segments with
  | nil =>
    cases others with
    | nil => rfl
    | cons other others => simp [pathText] at same
  | cons segment segments =>
    cases others with
    | nil => simp [pathText] at same
    | cons other others =>
      rw [pathText_cons, pathText_cons] at same
      have cut := congrArg (Text.splitAt '/') (List.cons.inj same).2
      rwa [Text.splitAt_intercalate free (List.cons_ne_nil _ _),
        Text.splitAt_intercalate free' (List.cons_ne_nil _ _)] at cut

/-! ### Dots -/

/-- Where a segment leads that is not the last one. -/
def enter (above : List (List Char)) (segment : List Char) : List (List Char) :=
  if isUp segment then above.drop 1 else if isHere segment then above else segment :: above

/-- A segment without dots that mean something. -/
def IsName (segment : List Char) : Prop := isUp segment = false ∧ isHere segment = false

theorem resolve_append {segments rest : List (List Char)} (more : rest ≠ [])
    (above : List (List Char)) :
    resolve above (segments ++ rest) = resolve (segments.foldl enter above) rest := by
  induction segments generalizing above with
  | nil => rfl
  | cons segment segments ih =>
    obtain ⟨next, later, parts⟩ :=
      List.exists_cons_of_ne_nil (List.append_ne_nil_of_right_ne_nil segments more)
    have onward := ih (enter above segment)
    rw [List.cons_append, List.foldl_cons, ← onward, parts, resolve, enter]
    · split
      · rfl
      · split <;> rfl
    · exact fun same => List.cons_ne_nil _ _ same

theorem resolve_names {names : List (List Char)} (proper : ∀ name ∈ names, IsName name)
    (above : List (List Char)) : resolve above names = above.reverse ++ names := by
  induction names generalizing above with
  | nil => simp [resolve]
  | cons name names ih =>
    obtain ⟨⟨notUp, notHere⟩, later⟩ := List.forall_mem_cons.1 proper
    cases names with
    | nil => simp [resolve, notUp, notHere]
    | cons next names =>
      rw [resolve, notUp, notHere]
      · simpa using ih later (name :: above)
      · exact fun same => List.cons_ne_nil _ _ same

/-- Nothing is no dots. -/
theorem isName_of_mem_replicate (count : Nat) :
    ∀ name ∈ List.replicate count ([] : List Char), IsName name := by
  intro name member
  rw [List.eq_of_mem_replicate member]
  exact ⟨by decide, by decide⟩

/-- The last segment leaves an empty one behind when it is dots. -/
theorem resolve_eq {segments : List (List Char)} (some : segments ≠ [])
    (above : List (List Char)) : ∃ count,
      resolve above segments = (segments.foldl enter above).reverse ++ List.replicate count [] := by
  obtain ⟨most, last, rfl⟩ := (List.eq_nil_or_concat' segments).resolve_left some
  rw [resolve_append (List.cons_ne_nil last []), List.foldl_append, List.foldl_cons, List.foldl_nil,
    resolve, enter]
  split
  · exact ⟨1, by simp⟩
  · split
    · exact ⟨1, by simp⟩
    · exact ⟨0, by simp⟩

/-! ### Segments -/

/-- The pieces of the text behind a host, which begins with a slash if it is not empty. -/
def pieces : List Char → List (List Char)
  | [] => []
  | _ :: chars => Text.splitAt '/' chars

/-- The segments of a path as they are above whatever is appended to its text. -/
def ground (chars : List Char) : List (List Char) :=
  ((pieces chars).foldl enter []).reverse.map (escape isEscapedInPath)

/-- The text behind a host is empty or begins with a slash. -/
def IsRooted (chars : List Char) : Prop := ∀ c, chars.head? = some c → c = '/'

theorem segmentsOf_slash (chars : List Char) : segmentsOf ('/' :: chars) =
    (resolve [] (Text.splitAt '/' chars)).map (escape isEscapedInPath) := rfl

theorem segmentsOf_append {chars : List Char} (rooted : IsRooted chars)
    {names : List (List Char)} (some : names ≠ []) (free : ∀ name ∈ names, '/' ∉ name)
    (proper : ∀ name ∈ names, IsName name) :
    segmentsOf (chars ++ pathText names) = ground chars ++ names.map (escape isEscapedInPath) := by
  obtain ⟨name, more, rfl⟩ := List.exists_cons_of_ne_nil some
  have cut := Text.splitAt_intercalate free some
  have resolved : resolve [] (pieces chars ++ name :: more) =
      ((pieces chars).foldl enter []).reverse ++ name :: more := by
    rw [resolve_append (List.cons_ne_nil _ _), resolve_names proper]
  rw [pathText_cons, ground, ← List.map_append, ← resolved]
  cases chars with
  | nil =>
    rw [List.nil_append, segmentsOf_slash, cut]
    rfl
  | cons c chars =>
    obtain rfl := rooted c rfl
    rw [List.cons_append, segmentsOf_slash, Text.splitAt_append_cons, cut]
    rfl

/-- Slashes at the end of a path leave empty segments. -/
theorem segmentsOf_slashes {chars : List Char} (rooted : IsRooted chars) (count : Nat) :
    ∃ empty, segmentsOf (chars ++ List.replicate count '/') =
      ground chars ++ List.replicate empty [] := by
  cases chars with
  | nil =>
    refine ⟨max count 1, ?_⟩
    cases count with
    | zero => decide
    | succ count =>
      rw [List.nil_append, List.replicate_succ, segmentsOf_slash, Text.splitAt_replicate,
        resolve_names (isName_of_mem_replicate _)]
      simp [ground, pieces, escape]
  | cons c chars =>
    obtain rfl := rooted c rfl
    rw [List.cons_append, segmentsOf_slash]
    cases count with
    | zero =>
      obtain ⟨empty, resolved⟩ := resolve_eq (Text.splitAt_ne_nil '/' chars) []
      refine ⟨empty, ?_⟩
      rw [List.replicate_zero, List.append_nil, resolved]
      simp [ground, pieces, escape]
    | succ count =>
      refine ⟨count + 1, ?_⟩
      rw [List.replicate_succ, Text.splitAt_append_cons, Text.splitAt_replicate,
        resolve_append (by simp), resolve_names (isName_of_mem_replicate _)]
      simp [ground, pieces, escape]

end Url

/-! ## Escaped names as segments -/

namespace Percent

/-- A letter is its own small form, or one of the capital ones. -/
theorem toLower_cases (c : Char) : c.toLower = c ∨ ∃ place < 26, c = Char.ofNat (65 + place) := by
  by_cases capital : 65 ≤ c.toNat ∧ c.toNat ≤ 90
  · refine .inr ⟨c.toNat - 65, by omega, ?_⟩
    rw [Nat.add_sub_cancel' capital.1, Char.ofNat_toNat]
  · refine .inl ?_
    unfold Char.toLower
    rw [dif_neg]
    exact fun range => capital ⟨range.1, range.2⟩

theorem eq_of_toLower_eq {c mark : Char} (small : c.toLower = mark)
    (other : ∀ place < 26, (Char.ofNat (65 + place)).toLower ≠ mark) : c = mark := by
  rcases toLower_cases c with same | ⟨place, below, rfl⟩
  · rw [← same, small]
  · exact absurd small (other place below)

theorem eq_of_toLower_eq_e {c : Char} (small : c.toLower = 'e') : c = 'e' ∨ c = 'E' := by
  rcases toLower_cases c with same | ⟨place, below, rfl⟩
  · exact .inl (by rw [← same, small])
  · have only : ∀ place < 26, (Char.ofNat (65 + place)).toLower = 'e' →
        Char.ofNat (65 + place) = 'E' := by decide
    exact .inr (only place below small)

/-- What is a point after its escapes are read, in whichever case they are written. -/
theorem decode_of_point {first second third : Char} (small : first.toLower = '%')
    (small' : second.toLower = '2') (small'' : third.toLower = 'e') (rest : List Char) :
    decode (first :: second :: third :: rest) = 0x2e :: decode rest := by
  obtain rfl := eq_of_toLower_eq small (by decide)
  obtain rfl := eq_of_toLower_eq small' (by decide)
  have value : Text.hexValue? third = some 14 := by
    rcases eq_of_toLower_eq_e small'' with rfl | rfl <;> rfl
  rw [decode, value]
  rfl

theorem decode_point {c : Char} (small : c.toLower = '.') (rest : List Char) :
    decode (c :: rest) = 0x2e :: decode rest := by
  obtain rfl := eq_of_toLower_eq small (by decide)
  rw [decode_plain (by decide)]
  rfl

/-- What a segment is read as that begins like a point in lower case. -/
theorem decode_of_points {segment : List Char} {count : Nat} (spellings : List (List Char))
    (points : ∀ spelling ∈ spellings, spelling = ['.'] ∨ spelling = ['%', '2', 'e'])
    (length : spellings.length = count) (small : segment.map Char.toLower = spellings.flatten) :
    decode segment = List.replicate count 0x2e := by
  induction spellings generalizing segment count with
  | nil =>
    subst length
    rw [List.map_eq_nil_iff.1 small, decode]
    rfl
  | cons spelling spellings ih =>
    subst length
    obtain ⟨here, later⟩ := List.forall_mem_cons.1 points
    rw [List.length_cons, List.replicate_succ]
    rcases here with rfl | rfl
    · obtain ⟨c, rest, rfl, point, more⟩ := List.map_eq_cons_iff.1 small
      rw [decode_point point, ih later rfl more]
    · obtain ⟨first, rest, rfl, percent, more⟩ := List.map_eq_cons_iff.1 small
      obtain ⟨second, rest, rfl, two, more⟩ := List.map_eq_cons_iff.1 more
      obtain ⟨third, rest, rfl, letter, more⟩ := List.map_eq_cons_iff.1 more
      rw [decode_of_point percent two letter, ih later rfl more]

/-- **A name is a segment without dots that mean something**, unless it is one or two points. -/
theorem isName_encode {name : String} (one : name ≠ ".") (two : name ≠ "..") :
    Url.IsName (encode name.toList) := by
  have apart (points : String) (other : name ≠ points) :
      decode (encode name.toList) ≠ Text.Utf8.encode points.toList := by
    intro same
    rw [decode_encode] at same
    exact other (String.toList_inj.1 (Text.Utf8.encode_injective same))
  constructor
  · refine Bool.eq_false_iff.2 fun up => apart ".." two ?_
    simp only [Url.isUp, List.contains_cons, List.contains_nil, Bool.or_false, Bool.or_eq_true,
      beq_iff_eq, ← String.toList_inj, String.toList_ofList] at up
    rcases up with small | small | small | small
    · exact decode_of_points [['.'], ['.']] (by decide) rfl small
    · exact decode_of_points [['.'], ['%', '2', 'e']] (by decide) rfl small
    · exact decode_of_points [['%', '2', 'e'], ['.']] (by decide) rfl small
    · exact decode_of_points [['%', '2', 'e'], ['%', '2', 'e']] (by decide) rfl small
  · refine Bool.eq_false_iff.2 fun here => apart "." one ?_
    simp only [Url.isHere, List.contains_cons, List.contains_nil, Bool.or_false, Bool.or_eq_true,
      beq_iff_eq, ← String.toList_inj, String.toList_ofList] at here
    rcases here with small | small
    · exact decode_of_points [['.']] (by decide) rfl small
    · exact decode_of_points [['%', '2', 'e']] (by decide) rfl small

/-- A character that has no meaning of its own in an address and is sent as it is. -/
structure IsMeek (c : Char) : Prop where
  sent : Url.isEscapedInPath c = false
  shown : 0x20 < c.toNat
  mark : c ∉ "/?#\\".toList

theorem toNat_lt_of_isPlain {c : Char} (plain : isPlain c = true) : c.toNat < 128 := by
  have below {least greatest : Char} (range : c.val ≥ least.val ∧ c.val ≤ greatest.val)
      (small : greatest.toNat < 128) : c.toNat < 128 :=
    Nat.lt_of_le_of_lt (UInt32.le_iff_toNat_le.1 range.2) small
  unfold isPlain Char.isAlphanum Char.isAlpha Char.isUpper Char.isLower Char.isDigit at plain
  simp only [Bool.or_eq_true, Bool.and_eq_true, decide_eq_true_eq, beq_iff_eq] at plain
  rcases plain with ((((((upper | lower) | digit) | rfl) | rfl) | rfl) | rfl)
  · exact below upper (by decide)
  · exact below lower (by decide)
  · exact below digit (by decide)
  all_goals decide

/-- **What is written with escapes has no meaning of its own in an address.** -/
theorem isMeek_of_mem_encode {c : Char} {chars : List Char} (member : c ∈ encode chars) :
    IsMeek c := by
  have written := mem_encode member
  have small : c.toNat < 128 := by
    rcases written with plain | rfl
    · exact toNat_lt_of_isPlain plain
    · decide
  have table : ∀ code < 128, isPlain (Char.ofNat code) = true ∨ Char.ofNat code = '%' →
      Url.isEscapedInPath (Char.ofNat code) = false ∧ 0x20 < (Char.ofNat code).toNat ∧
        Char.ofNat code ∉ "/?#\\".toList := by decide
  have row := table c.toNat small
  rw [Char.ofNat_toNat] at row
  obtain ⟨sent, shown, mark⟩ := row written
  exact ⟨sent, shown, mark⟩

theorem escape_encode (chars : List Char) :
    Url.escape Url.isEscapedInPath (encode chars) = encode chars := by
  have sent : ∀ c ∈ encode chars, Url.isEscapedInPath c = false :=
    fun c member => (isMeek_of_mem_encode member).sent
  generalize encode chars = written at sent
  induction written with
  | nil => rfl
  | cons c rest ih =>
    obtain ⟨here, later⟩ := List.forall_mem_cons.1 sent
    rw [Url.escape, List.flatMap_cons, here]
    exact congrArg (c :: ·) (ih later)

end Percent

/-! ## Addresses with a path appended -/

namespace Text

theorem eq_append_of_splitOnce? {separator : Char} {chars left right : List Char}
    (cut : splitOnce? separator chars = some (left, right)) :
    chars = left ++ separator :: right ∧ separator ∉ left := by
  induction chars generalizing left with
  | nil => cases cut
  | cons c rest ih =>
    rw [splitOnce?] at cut
    split at cut
    · next same =>
      cases cut
      exact ⟨by rw [same]; rfl, List.not_mem_nil⟩
    · next other =>
      obtain ⟨⟨before, after⟩, later, parts⟩ := Option.map_eq_some_iff.1 cut
      cases parts
      obtain ⟨rfl, free⟩ := ih later
      exact ⟨rfl, List.not_mem_cons_of_ne_of_not_mem (Ne.symm other) free⟩

end Text

namespace Url

/-- Whether a character is cut off at the ends of an address. -/
def isEdge (c : Char) : Bool := c.toNat ≤ 0x20

/-- Characters without those at the front that are cut off and without those that are dropped
everywhere. -/
def fronted (chars : List Char) : List Char := (chars.dropWhile isEdge).filter fun c => !isDropped c

theorem isDropped_of_shown {c : Char} (shown : isEdge c = false) : isDropped c = false := by
  have : ∀ code ≤ 0x20, isEdge (Char.ofNat code) = true := by decide
  by_contra dropped
  simp only [isDropped, Bool.not_eq_false, Bool.or_eq_true, beq_iff_eq] at dropped
  rcases dropped with (rfl | rfl) | rfl <;> cases shown

/-- All that counts in a text are its characters without those at the front, up to what is cut off
at its end. -/
theorem fronted_eq (text : String) : ∃ edge, fronted text.toList = significant text ++ edge ∧
    ((∀ c, text.toList.getLast? = some c → isEdge c = false) → edge = []) := by
  refine ⟨((text.toList.dropWhile isEdge).reverse.takeWhile isEdge).reverse.filter
    fun c => !isDropped c, ?_, fun shown => ?_⟩
  · have parts : text.toList.dropWhile isEdge =
        ((text.toList.dropWhile isEdge).reverse.dropWhile isEdge).reverse ++
          ((text.toList.dropWhile isEdge).reverse.takeWhile isEdge).reverse := by
      rw [← List.reverse_append, List.takeWhile_append_dropWhile, List.reverse_reverse]
    conv_lhs => rw [fronted, parts, List.filter_append]
    rfl
  · cases ends : (text.toList.dropWhile isEdge).reverse with
    | nil => rfl
    | cons last rest =>
      have listed : (text.toList.dropWhile isEdge).getLast? = some last := by
        rw [List.getLast?_eq_head?_reverse, ends]
        rfl
      have whole : text.toList.getLast? = some last := by
        rw [← List.takeWhile_append_dropWhile (p := isEdge) (l := text.toList), List.getLast?_append,
          listed]
        rfl
      rw [List.takeWhile_cons_of_neg (by simp [shown last whole])]
      rfl

theorem fronted_append (front : List Char) {tail : List Char}
    (shown : ∀ c ∈ tail, isEdge c = false) : fronted (front ++ tail) = fronted front ++ tail := by
  have kept : tail.filter (fun c => !isDropped c) = tail :=
    List.filter_eq_self.2 fun c member => by simp [isDropped_of_shown (shown c member)]
  have here : tail.dropWhile isEdge = tail := by
    cases tail with
    | nil => rfl
    | cons c rest => rw [List.dropWhile_cons_of_neg (by simp [shown c List.mem_cons_self])]
  unfold fronted
  rw [List.dropWhile_append]
  split
  · next empty =>
    rw [List.isEmpty_iff.1 empty, here, kept]
    rfl
  · rw [List.filter_append, kept]

theorem mem_fronted {chars : List Char} {c : Char} (member : c ∈ fronted chars) : c ∈ chars :=
  (List.dropWhile_sublist _).mem (List.mem_filter.1 member).1

/-! ### Schemes -/

/-- The scheme of an address does not depend on what follows its colon. -/
theorem exists_of_readScheme {chars rest : List Char} {scheme : String}
    (read : readScheme chars = some (scheme, rest)) :
    ∃ word, chars = word ++ ':' :: rest ∧
      ∀ other, readScheme (word ++ ':' :: other) = some (scheme, other) := by
  unfold readScheme at read
  obtain ⟨⟨word, after⟩, cut, checked⟩ := Option.bind_eq_some_iff.1 read
  obtain ⟨rfl, free⟩ := Text.eq_append_of_splitOnce? cut
  dsimp only at checked
  split at checked
  · cases checked
  · next valid =>
    cases checked
    refine ⟨word, rfl, fun other => ?_⟩
    rw [readScheme, Text.splitOnce?_append free]
    dsimp only [bind, Option.bind]
    rw [if_neg valid]
    rfl

/-! ### Hosts and paths -/

/-- Whether a character belongs to what stands in front of a path. -/
def inAuthority (c : Char) : Bool := c != '/' && c != '?' && c != '#'

/-- The host and the port that stand in front of a path. -/
def placeOf (scheme : String) (authority : List Char) :
    Except UrlFault (Option String × Option Nat) := do
  let (hasUser, place) := afterUser authority
  let (name, digits) := splitPort place
  if name.isEmpty then
    if isSpecial scheme || hasUser then throw .emptyHost
    return (some "", none)
  let host ← readHost name
  let port ← readPort scheme (digits.getD [])
  return (some host, port)

theorem withAuthority_eq (scheme : String) (chars : List Char) : withAuthority scheme chars =
    match placeOf scheme (chars.takeWhile inAuthority) with
    | .error fault => .error fault
    | .ok (host, port) =>
      .ok (withPath scheme host port (chars.drop (chars.takeWhile inAuthority).length)) := by
  have same : (fun c : Char => c != '/' && c != '?' && c != '#') = inAuthority := rfl
  rw [withAuthority, placeOf, same]
  rcases afterUser (chars.takeWhile inAuthority) with ⟨hasUser, place⟩
  dsimp only
  rcases splitPort place with ⟨name, digits⟩
  dsimp only
  split
  · split <;> rfl
  · cases readHost name with
    | error fault => rfl
    | ok host =>
      cases readPort scheme (digits.getD []) with
      | error fault => rfl
      | ok port => rfl

/-- Without a host there is no special address. -/
theorem placeOf_nil {scheme : String} (special : isSpecial scheme = true) :
    placeOf scheme [] = .error .emptyHost := by
  simp [placeOf, afterUser, Text.splitAt, splitPort, special]
  rfl

/-- Slashes for backslashes. -/
def straighten (chars : List Char) : List Char := chars.map fun c => if c = '\\' then '/' else c

/-- What can be appended to an address as a part of its path. -/
structure IsTail (tail : List Char) : Prop where
  rooted : IsRooted tail
  marks : ∀ c ∈ tail, c ≠ '?' ∧ c ≠ '#' ∧ c ≠ '\\'

theorem straighten_append {tail : List Char} (fits : IsTail tail) (chars : List Char) :
    straighten (chars ++ tail) = straighten chars ++ tail := by
  have same : straighten tail = tail := by
    refine (List.map_congr_left fun c member => ?_).trans (List.map_id tail)
    exact if_neg (fits.marks c member).2.2
  rw [straighten, List.map_append]
  exact congrArg (straighten chars ++ ·) same

/-- What stands behind the slashes in front of a host. -/
def behind (chars : List Char) : List Char := (straighten chars).dropWhile (· == '/')

theorem behind_append {chars tail : List Char} (some : behind chars ≠ []) (fits : IsTail tail) :
    behind (chars ++ tail) = behind chars ++ tail := by
  unfold behind at some ⊢
  rw [straighten_append fits, List.dropWhile_append, if_neg]
  simpa using some

theorem behind_eq_nil {chars : List Char} :
    behind chars = [] ↔ ∀ c ∈ chars, c = '/' ∨ c = '\\' := by
  simp only [behind, straighten, List.dropWhile_eq_nil_iff, List.mem_map, forall_exists_index,
    and_imp, forall_apply_eq_imp_iff₂, beq_iff_eq]
  refine forall₂_congr fun c _ => ?_
  split
  · next back => simp [back]
  · next other => simp [other]

theorem mem_behind {chars : List Char} {c : Char} (member : c ∈ behind chars) :
    c = '/' ∨ c ∈ chars := by
  obtain ⟨origin, listed, same⟩ := List.mem_map.1 ((List.dropWhile_sublist _).mem member)
  split at same
  · exact .inl same.symm
  · exact .inr (same ▸ listed)

/-- The host of an address is the same with whatever path appended. -/
theorem takeWhile_append_tail (chars : List Char) {tail : List Char} (fits : IsTail tail) :
    (chars ++ tail).takeWhile inAuthority = chars.takeWhile inAuthority := by
  cases tail with
  | nil => rw [List.append_nil]
  | cons c tail =>
    obtain rfl := fits.rooted c rfl
    rw [List.takeWhile_append]
    split
    · next whole =>
      rw [List.takeWhile_cons_of_neg (by decide), List.append_nil]
      exact ((List.takeWhile_prefix _).eq_of_length whole).symm
    · rfl

/-- The path of an address, as it was written, after its host. -/
def behindHost (chars : List Char) : List Char := chars.dropWhile inAuthority

theorem drop_length_takeWhile (chars : List Char) :
    chars.drop (chars.takeWhile inAuthority).length = behindHost chars := by
  conv_lhs =>
    enter [2]
    rw [← List.takeWhile_append_dropWhile (p := inAuthority) (l := chars)]
  exact List.drop_left

theorem behindHost_append (chars : List Char) {tail : List Char} (fits : IsTail tail) :
    behindHost (chars ++ tail) = behindHost chars ++ tail := by
  rw [← drop_length_takeWhile, ← drop_length_takeWhile, takeWhile_append_tail chars fits,
    List.drop_append_of_le_length (List.takeWhile_prefix _).length_le]

theorem isRooted_behindHost {chars : List Char} (plain : ∀ c ∈ chars, c ≠ '?' ∧ c ≠ '#') :
    IsRooted (behindHost chars) := by
  intro c first
  have stops := List.head?_dropWhile_not inAuthority chars
  rw [← behindHost, first] at stops
  have listed : c ∈ chars := (List.dropWhile_sublist _).mem (List.mem_of_head? first)
  obtain ⟨noQuery, noFragment⟩ := plain c listed
  simpa [inAuthority, noQuery, noFragment] using stops

/-- Behind a host there is no query and no fragment without the signs for them. -/
theorem withPath_eq (scheme : String) (host : Option String) (port : Option Nat)
    {chars : List Char} (plain : ∀ c ∈ chars, c ≠ '?' ∧ c ≠ '#') :
    withPath scheme host port chars =
      { scheme, host, port, path := segmentsOf chars, query := none } := by
  have whole : chars.takeWhile (· != '#') = chars :=
    List.takeWhile_eq_self_iff.2 fun c member => by simpa using (plain c member).2
  have uncut : Text.splitOnce? '?' chars = none :=
    Text.splitOnce?_eq_none fun member => (plain '?' member).1 rfl
  rw [withPath, whole, uncut]

/-- **An address with a path appended** has the host of the address, and the path appended to the
path as it was written. -/
theorem parse_append {text scheme : String} {word chars tail : List Char}
    (counts : significant text = word ++ ':' :: (chars ++ tail))
    (named : ∀ other, readScheme (word ++ ':' :: other) = some (scheme, other))
    (special : isSpecial scheme = true) (some : behind chars ≠ [])
    (plain : ∀ c ∈ behind chars, c ≠ '?' ∧ c ≠ '#') (fits : IsTail tail) :
    parse text = (placeOf scheme ((behind chars).takeWhile inAuthority)).map fun place =>
      { scheme, host := place.1, port := place.2, query := none,
        path := segmentsOf (behindHost (behind chars) ++ tail) } := by
  have joined : ((chars ++ tail).map fun c => if c = '\\' then '/' else c).dropWhile (· == '/') =
      behind chars ++ tail := behind_append some fits
  have marks : ∀ c ∈ behindHost (behind chars) ++ tail, c ≠ '?' ∧ c ≠ '#' := by
    intro c member
    rcases List.mem_append.1 member with member | member
    · exact plain c ((List.dropWhile_sublist _).mem member)
    · exact ⟨(fits.marks c member).1, (fits.marks c member).2.1⟩
  rw [parse, counts, named]
  dsimp only
  rw [if_pos special, joined, withAuthority_eq, drop_length_takeWhile, takeWhile_append_tail _ fits,
    behindHost_append _ fits]
  cases placeOf scheme ((behind chars).takeWhile inAuthority) with
  | error fault => rfl
  | ok place => exact congrArg Except.ok (withPath_eq scheme place.1 place.2 marks)

theorem scheme_of_withAuthority {scheme : String} {chars : List Char} {url : Url}
    (done : withAuthority scheme chars = .ok url) : url.scheme = scheme := by
  rw [withAuthority_eq] at done
  split at done
  · cases done
  · cases done
    rfl

theorem scheme_of_parse {text scheme : String} {rest : List Char} {url : Url}
    (read : readScheme (significant text) = some (scheme, rest))
    (parsed : parse text = .ok url) : url.scheme = scheme := by
  rw [parse, read] at parsed
  dsimp only at parsed
  split at parsed
  · exact scheme_of_withAuthority parsed
  · split at parsed
    · split at parsed
      · cases parsed
        rfl
      · exact scheme_of_withAuthority parsed
    · cases parsed
      rfl

theorem isSpecial_of_isHttp {url : Url} (http : url.isHttp = true) :
    isSpecial url.scheme = true := by
  simp only [isHttp, Bool.or_eq_true, beq_iff_eq] at http
  rcases http with same | same <;> rw [same] <;> decide

/-- What an address of HTTP begins with: its scheme, and behind the slashes its host. -/
theorem exists_of_parse {text : String} {url : Url} (parsed : parse text = .ok url)
    (http : url.isHttp = true) : ∃ word rest, significant text = word ++ ':' :: rest ∧
      (∀ other, readScheme (word ++ ':' :: other) = some (url.scheme, other)) ∧
      behind rest ≠ [] := by
  have special := isSpecial_of_isHttp http
  cases read : readScheme (significant text) with
  | none => simp [parse, read] at parsed
  | some parts =>
    obtain ⟨scheme, rest⟩ := parts
    obtain ⟨word, counts, named⟩ := exists_of_readScheme read
    obtain rfl := scheme_of_parse read parsed
    refine ⟨word, rest, counts, named, fun empty => ?_⟩
    have nothing : (rest.map fun c => if c = '\\' then '/' else c).dropWhile (· == '/') = [] :=
      empty
    rw [parse, read] at parsed
    dsimp only at parsed
    rw [if_pos special, nothing, withAuthority_eq, List.takeWhile_nil, placeOf_nil special] at parsed
    cases parsed

/-! ### Slashes at the end -/

theorem isTail_replicate (count : Nat) : IsTail (List.replicate count '/') where
  rooted c first := List.eq_of_mem_replicate (List.mem_of_head? first)
  marks c member := by
    rw [List.eq_of_mem_replicate member]
    decide

/-- What begins with a scheme and is followed by slashes begins with it before them. -/
theorem exists_front {front word rest edge : List Char} {count : Nat}
    (parts : front ++ List.replicate count '/' = word ++ ':' :: rest ++ edge)
    (ends : count = 0 ∨ edge = []) :
    ∃ chars, front = word ++ ':' :: chars ∧ chars ++ List.replicate count '/' = rest ++ edge := by
  rcases ends with rfl | rfl
  · refine ⟨rest ++ edge, ?_, by simp⟩
    simpa using parts
  · rw [List.append_nil] at parts ⊢
    rcases List.append_eq_append_iff.1 parts with ⟨more, left, right⟩ | ⟨more, left, right⟩
    · have colon : ':' ∈ List.replicate count '/' := by
        rw [right]
        simp
      exact absurd (List.eq_of_mem_replicate colon) (by decide)
    · cases more with
      | nil =>
        cases count with
        | zero => cases right
        | succ count => cases (List.cons.inj right).1
      | cons c chars =>
        obtain ⟨rfl, rfl⟩ := List.cons.inj right
        exact ⟨chars, left, rfl⟩

end Url

end FibrePool
