import FibrePool.Json.Reader
import FibrePool.Proofs.JsonTokens

/-!
# Written JSON read back

A value that is made of arrays, objects, texts, truth values, numbers without sign and `null` comes
back from its written text (`ofText?_pretty`).  The way there and back meets at the tokens: the
written text is cut into the tokens of the value (`scans_pretty`), and from these the value is read
into whatever array or object is open (`readValue_tokens`).
-/

namespace FibrePool.Json

set_option autoImplicit false

open Token

/-- Whether a leaf is written so that it can be read back. -/
def isPlain : Json → Bool
  | null | bool _ | natural _ | text _ => true
  | _ => false

/-! ## The tokens of a value -/

mutual

/-- The tokens that the text of a value consists of. -/
def tokens : Json → List Token
  | array [] => [.openBracket, .closeBracket]
  | array (item :: items) =>
    .openBracket :: (item.tokens ++ (afterCommas (tokensOfItems items) ++ [.closeBracket]))
  | object [] => [.openBrace, .closeBrace]
  | object ((name, value) :: members) =>
    .openBrace :: .text name :: .colon ::
      (value.tokens ++ (afterCommas (tokensOfMembers members) ++ [.closeBrace]))
  | null => [.null]
  | bool value => [.bool value]
  | natural value => [.natural value]
  | text value => [.text value]
  | _ => [.bad]

/-- The tokens of each item. -/
def tokensOfItems : List Json → List (List Token)
  | [] => []
  | item :: rest => item.tokens :: tokensOfItems rest

/-- The tokens of each member. -/
def tokensOfMembers : List (String × Json) → List (List Token)
  | [] => []
  | (name, value) :: rest => (.text name :: .colon :: value.tokens) :: tokensOfMembers rest

end

/-! ## Reading tokens -/

/-- The tokens of a value do not begin with the end of an array. -/
theorem readValue_openBracket (value : Json) (stack : List Frame) (rest : List Token) :
    readValue stack (.openBracket :: (value.tokens ++ rest)) =
      readValue (.array [] :: stack) (value.tokens ++ rest) := by
  obtain ⟨token, more, begins, other⟩ :
      ∃ token more, value.tokens = token :: more ∧ token ≠ .closeBracket := by
    unfold tokens
    split <;> exact ⟨_, _, rfl, by simp⟩
  rw [begins, List.cons_append, readValue]
  intro rest same
  exact other (List.cons.inj same).1

mutual

/-- **A value is read from its tokens, and then the reading goes on behind it.** -/
theorem readValue_tokens (value : Json) (plain : value.everyLeaf isPlain = true)
    (stack : List Frame) (rest : List Token) :
    readValue stack (value.tokens ++ rest) = readOn stack value rest := by
  match value with
  | null => simp [tokens, readValue]
  | bool _ => simp [tokens, readValue]
  | natural _ => simp [tokens, readValue]
  | text _ => simp [tokens, readValue]
  | number _ => cases plain
  | illFormed => cases plain
  | cut => cases plain
  | array [] => simp [tokens, readValue]
  | array (item :: items) =>
    obtain ⟨here, there⟩ := Bool.and_eq_true_iff.1 plain
    rw [tokens, List.cons_append, List.append_assoc, List.append_assoc, readValue_openBracket,
      readValue_tokens item here, List.singleton_append, readOn_items items there]
    rfl
  | object [] => simp [tokens, readValue]
  | object ((name, value) :: members) =>
    obtain ⟨here, there⟩ := Bool.and_eq_true_iff.1 plain
    rw [tokens, List.cons_append, List.cons_append, List.cons_append, List.append_assoc,
      List.append_assoc, readValue, readValue_tokens value here, List.singleton_append,
      readOn_members members there]
    rfl

theorem readOn_items (items : List Json) (plain : everyLeafOfAll isPlain items = true)
    (done : List Json) (value : Json) (stack : List Frame) (rest : List Token) :
    readOn (.array done :: stack) value
        (afterCommas (tokensOfItems items) ++ .closeBracket :: rest) =
      readOn stack (.array (done.reverse ++ value :: items)) rest := by
  match items with
  | [] => rw [tokensOfItems, afterCommas_nil, List.nil_append, readOn, List.reverse_cons]
  | item :: items =>
    obtain ⟨here, there⟩ := Bool.and_eq_true_iff.1 plain
    rw [tokensOfItems, afterCommas_cons, List.cons_append, List.append_assoc, readOn,
      readValue_tokens item here, readOn_items items there, List.reverse_cons,
      List.append_assoc, List.singleton_append]

theorem readOn_members (members : List (String × Json))
    (plain : everyLeafOfMembers isPlain members = true) (done : List (String × Json))
    (name : String) (value : Json) (stack : List Frame) (rest : List Token) :
    readOn (.object done name :: stack) value
        (afterCommas (tokensOfMembers members) ++ .closeBrace :: rest) =
      readOn stack (.object (done.reverse ++ (name, value) :: members)) rest := by
  match members with
  | [] =>
    rw [tokensOfMembers, afterCommas_nil, List.nil_append, readOn, List.reverse_cons]
  | (next, following) :: members =>
    obtain ⟨here, there⟩ := Bool.and_eq_true_iff.1 plain
    rw [tokensOfMembers, afterCommas_cons, List.cons_append, List.append_assoc, List.cons_append,
      List.cons_append, readOn, readValue_tokens following here, readOn_members members there,
      List.reverse_cons, List.append_assoc, List.singleton_append]

end

/-! ## The layout with one part on each line -/

theorem isSpace_newLine (level : Nat) : ∀ c ∈ (newLine level).toList, isSpace c = true := by
  intro c member
  simp only [newLine, String.toList_append, String.toList_ofList, List.mem_append] at member
  rcases member with feed | blank
  · cases List.mem_singleton.1 feed
    rfl
  · rw [List.eq_of_mem_replicate blank]
    rfl

theorem endsNumeral_newLine (level : Nat) (rest : List Char) :
    EndsNumeral ((newLine level).toList ++ rest) := by
  rw [newLine, String.toList_append]
  exact endsNumeral_cons _ (by decide)

/-- The parts of an array or object on lines of their own, with the closing mark on the last. -/
theorem scans_lines {first : String} {others : List String} {closing : List Char}
    {piece : List Token} {pieces : List (List Token)} {token : Token} (level : Nat)
    (scans : Scans EndsNumeral first.toList piece)
    (more : List.Forall₂ (Scans EndsNumeral) (others.map String.toList) pieces)
    (closes : Scans Anything closing [token]) :
    Scans Anything
      ((newLine (level + 1)).toList ++
        ((("," ++ newLine (level + 1)).intercalate (first :: others)).toList ++
          ((newLine level).toList ++ closing)))
      (piece ++ (afterCommas pieces ++ [token])) := by
  have parts := (scans_space (isSpace_newLine (level + 1))).then
    (scans.intercalate (isSpace_newLine (level + 1)) more)
  have last := (scans_space (isSpace_newLine level)).then closes
  have whole := parts.append last fun rest _ => by
    rw [List.append_assoc]
    exact endsNumeral_newLine level _
  simpa [String.toList_intercalate, List.append_assoc] using whole

theorem scans_member {value : String} {tokens : List Token} (name : String)
    (scans : Scans EndsNumeral value.toList tokens) :
    Scans EndsNumeral (quotedText name ++ ": " ++ value).toList
      (.text name :: .colon :: tokens) := by
  have space : Scans Anything [' '] [] := scans_space (by
    intro c blank
    cases List.mem_singleton.1 blank
    rfl)
  have mark := (scans_quoted name).then scans_colon
  simpa using (mark.then space).then scans

mutual

/-- **A value is written as its tokens.** -/
theorem scans_pretty (value : Json) (plain : value.everyLeaf isPlain = true) (level : Nat) :
    Scans EndsNumeral (value.prettyAt level).toList value.tokens := by
  match value with
  | null => exact scans_null.mono fun _ _ => trivial
  | bool true => exact scans_true.mono fun _ _ => trivial
  | bool false => exact scans_false.mono fun _ _ => trivial
  | natural value => exact scans_natural value
  | text value => exact (scans_quoted value).mono fun _ _ => trivial
  | number _ => cases plain
  | illFormed => cases plain
  | cut => cases plain
  | array [] =>
    rw [prettyAt, tokens]
    exact (scans_openBracket.then scans_closeBracket).mono fun _ _ => trivial
  | array (item :: items) =>
    obtain ⟨here, there⟩ := Bool.and_eq_true_iff.1 plain
    have lines := scans_lines level (scans_pretty item here (level + 1))
      (scans_prettyItems items there (level + 1)) scans_closeBracket
    simpa [prettyAt, prettyItems, tokens] using
      (scans_openBracket.then lines).mono fun _ _ => trivial
  | object [] =>
    rw [prettyAt, tokens]
    exact (scans_openBrace.then scans_closeBrace).mono fun _ _ => trivial
  | object ((name, value) :: members) =>
    obtain ⟨here, there⟩ := Bool.and_eq_true_iff.1 plain
    have lines := scans_lines level (scans_member name (scans_pretty value here (level + 1)))
      (scans_prettyMembers members there (level + 1)) scans_closeBrace
    simpa [prettyAt, prettyMembers, tokens] using
      (scans_openBrace.then lines).mono fun _ _ => trivial

theorem scans_prettyItems (items : List Json) (plain : everyLeafOfAll isPlain items = true)
    (level : Nat) :
    List.Forall₂ (Scans EndsNumeral) ((prettyItems level items).map String.toList)
      (tokensOfItems items) := by
  match items with
  | [] => exact .nil
  | item :: items =>
    obtain ⟨here, there⟩ := Bool.and_eq_true_iff.1 plain
    exact .cons (scans_pretty item here level) (scans_prettyItems items there level)

theorem scans_prettyMembers (members : List (String × Json))
    (plain : everyLeafOfMembers isPlain members = true) (level : Nat) :
    List.Forall₂ (Scans EndsNumeral) ((prettyMembers level members).map String.toList)
      (tokensOfMembers members) := by
  match members with
  | [] => exact .nil
  | (name, value) :: members =>
    obtain ⟨here, there⟩ := Bool.and_eq_true_iff.1 plain
    exact .cons (scans_member name (scans_pretty value here level))
      (scans_prettyMembers members there level)

end

/-! ## There and back -/

variable {condition other : Json → Bool}

theorem everyLeafOfAll_iff {items : List Json} : everyLeafOfAll condition items = true ↔
    ∀ item ∈ items, item.everyLeaf condition = true := by
  induction items with
  | nil => simp [everyLeafOfAll]
  | cons item items ih => simp [everyLeafOfAll, ih]

theorem everyLeafOfMembers_iff {members : List (String × Json)} :
    everyLeafOfMembers condition members = true ↔
      ∀ member ∈ members, member.2.everyLeaf condition = true := by
  induction members with
  | nil => simp [everyLeafOfMembers]
  | cons member members ih => simp [everyLeafOfMembers, ih]

mutual

/-- What is true of every leaf for one reason is true of it for any that follows from it. -/
theorem everyLeaf_mono (value : Json)
    (weaker : ∀ leaf, condition leaf = true → other leaf = true)
    (holds : value.everyLeaf condition = true) : value.everyLeaf other = true := by
  match value with
  | array items => exact everyLeafOfAll_mono items weaker holds
  | object members => exact everyLeafOfMembers_mono members weaker holds
  | null => exact weaker _ holds
  | bool _ => exact weaker _ holds
  | natural _ => exact weaker _ holds
  | text _ => exact weaker _ holds
  | number _ => exact weaker _ holds
  | illFormed => exact weaker _ holds
  | cut => exact weaker _ holds

theorem everyLeafOfAll_mono (items : List Json)
    (weaker : ∀ leaf, condition leaf = true → other leaf = true)
    (holds : everyLeafOfAll condition items = true) : everyLeafOfAll other items = true := by
  match items with
  | [] => rfl
  | item :: items =>
    obtain ⟨here, there⟩ := Bool.and_eq_true_iff.1 holds
    exact Bool.and_eq_true_iff.2
      ⟨everyLeaf_mono item weaker here, everyLeafOfAll_mono items weaker there⟩

theorem everyLeafOfMembers_mono (members : List (String × Json))
    (weaker : ∀ leaf, condition leaf = true → other leaf = true)
    (holds : everyLeafOfMembers condition members = true) :
    everyLeafOfMembers other members = true := by
  match members with
  | [] => rfl
  | (_, value) :: members =>
    obtain ⟨here, there⟩ := Bool.and_eq_true_iff.1 holds
    exact Bool.and_eq_true_iff.2
      ⟨everyLeaf_mono value weaker here, everyLeafOfMembers_mono members weaker there⟩

end

/-- Nothing plain is cut off. -/
theorem isRead_of_isPlain (leaf : Json) (plain : leaf.isPlain = true) : leaf.isRead = true := by
  cases leaf <;> first | rfl | cases plain

/-- A value of plain leaves comes back from every text that is cut into its tokens. -/
theorem ofText?_of_scans {value : Json} {source : String}
    (plain : value.everyLeaf isPlain = true)
    (scans : Scans EndsNumeral source.toList value.tokens) : ofText? source = some value := by
  have read := readValue_tokens value plain [] []
  rw [List.append_nil, readOn] at read
  rw [ofText?, scans.scan_eq endsNumeral_nil, read]
  exact if_pos (everyLeaf_mono value isRead_of_isPlain plain)

/-- **A value of plain leaves comes back from its written text.** -/
theorem ofText?_pretty {value : Json} (plain : value.everyLeaf isPlain = true) :
    ofText? value.pretty = some value :=
  ofText?_of_scans plain (scans_pretty value plain 0)

end FibrePool.Json
