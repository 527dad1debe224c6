import FibrePool.Proofs.JsonText

/-!
# JSON on one line read back

Answers and requests are written on one line without blanks.  Like the layout with one part on each
line, this one is cut into the tokens of the value (`scans_compact`), so a value of plain leaves
comes back from it too (`ofText?_compact`).
-/

namespace FibrePool.Json

set_option autoImplicit false

open Token

/-- The parts of an array or object behind each other, with the closing mark behind the last. -/
theorem scans_closed {first : String} {others : List String} {mark : Char} {piece : List Token}
    {pieces : List (List Token)} {token : Token} (scans : Scans EndsNumeral first.toList piece)
    (more : List.Forall₂ (Scans EndsNumeral) (others.map String.toList) pieces)
    (closes : Scans Anything [mark] [token])
    (other : mark.isDigit = false ∧ mark ≠ '.' ∧ mark ≠ 'e' ∧ mark ≠ 'E') :
    Scans Anything ((",".intercalate (first :: others)).toList ++ [mark])
      (piece ++ (afterCommas pieces ++ [token])) := by
  have noBlank : ∀ c ∈ ([] : List Char), isSpace c = true := fun _ member => by cases member
  have parts := (scans.intercalate noBlank more).append closes fun rest _ =>
    endsNumeral_cons rest other
  simpa [String.toList_intercalate, List.append_assoc] using parts

theorem scans_compactMember {value : String} {tokens : List Token} (name : String)
    (scans : Scans EndsNumeral value.toList tokens) :
    Scans EndsNumeral (quotedText name ++ ":" ++ value).toList
      (.text name :: .colon :: tokens) := by
  simpa using ((scans_quoted name).then scans_colon).then scans

mutual

/-- **A value on one line is written as its tokens.** -/
theorem scans_compact (value : Json) (plain : value.everyLeaf isPlain = true) :
    Scans EndsNumeral value.compact.toList value.tokens := by
  match value with
  | null => exact scans_null.mono fun _ _ => trivial
  | bool true => exact scans_true.mono fun _ _ => trivial
  | bool false => exact scans_false.mono fun _ _ => trivial
  | natural value => exact scans_natural value
  | text value => exact (scans_quoted value).mono fun _ _ => trivial
  | number _ => cases plain
  | illFormed => cases plain
  | cut => cases plain
  | array [] => exact (scans_openBracket.then scans_closeBracket).mono fun _ _ => trivial
  | array (item :: items) =>
    obtain ⟨here, there⟩ := Bool.and_eq_true_iff.1 plain
    have parts := scans_closed (scans_compact item here) (scans_compactItems items there)
      scans_closeBracket (by decide)
    simpa [compact, compactItems, tokens] using
      (scans_openBracket.then parts).mono fun _ _ => trivial
  | object [] => exact (scans_openBrace.then scans_closeBrace).mono fun _ _ => trivial
  | object ((name, value) :: members) =>
    obtain ⟨here, there⟩ := Bool.and_eq_true_iff.1 plain
    have parts := scans_closed (scans_compactMember name (scans_compact value here))
      (scans_compactMembers members there) scans_closeBrace (by decide)
    simpa [compact, compactMembers, tokens] using
      (scans_openBrace.then parts).mono fun _ _ => trivial

theorem scans_compactItems (items : List Json) (plain : everyLeafOfAll isPlain items = true) :
    List.Forall₂ (Scans EndsNumeral) ((compactItems items).map String.toList)
      (tokensOfItems items) := by
  match items with
  | [] => exact .nil
  | item :: items =>
    obtain ⟨here, there⟩ := Bool.and_eq_true_iff.1 plain
    exact .cons (scans_compact item here) (scans_compactItems items there)

theorem scans_compactMembers (members : List (String × Json))
    (plain : everyLeafOfMembers isPlain members = true) :
    List.Forall₂ (Scans EndsNumeral) ((compactMembers members).map String.toList)
      (tokensOfMembers members) := by
  match members with
  | [] => exact .nil
  | (name, value) :: members =>
    obtain ⟨here, there⟩ := Bool.and_eq_true_iff.1 plain
    exact .cons (scans_compactMember name (scans_compact value here))
      (scans_compactMembers members there)

end

/-- **A value of plain leaves comes back from its text on one line.** -/
theorem ofText?_compact {value : Json} (plain : value.everyLeaf isPlain = true) :
    ofText? value.compact = some value :=
  ofText?_of_scans plain (scans_compact value plain)

end FibrePool.Json
