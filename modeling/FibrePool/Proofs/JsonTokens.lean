import FibrePool.Json.Printer
import FibrePool.Json.Token
import FibrePool.Proofs.Digits
import FibrePool.Proofs.Pieces
import Mathlib.Data.List.TakeDrop

/-!
# Written JSON cut into tokens

A part of a written text is cut into the same tokens whatever follows it, except that a number only
ends where no more of it follows (`EndsNumeral`).  `Scans` says this of a part, with the bound on
the number of its tokens that makes the length of a text enough for all of them.

Such parts can be put one behind the other (`Scans.append`) and joined by commas
(`Scans.intercalate`), so a layout is scanned by looking at its parts: quoted texts
(`scans_quoted`), numbers (`scans_natural`), words, marks and white space.
-/

namespace FibrePool.Json

set_option autoImplicit false

namespace Token

/-! ## Texts -/

theorem stringCodes_plain {c : Char} (quote : c ≠ '"') (escape : c ≠ '\\') (shown : ¬c.toNat < 0x20)
    (read : List Nat) (rest : List Char) :
    stringCodes read (c :: rest) = stringCodes (c.toNat :: read) rest := by
  rw [stringCodes.eq_def]
  split
  · next empty => cases empty
  · next same => exact absurd (List.cons.inj same).1 quote
  · next same => exact absurd (List.cons.inj same).1 escape
  · next same => exact absurd (List.cons.inj same).1 escape
  · next same =>
    obtain ⟨rfl, rfl⟩ := List.cons.inj same
    exact if_neg shown

/-- A written character is read as its code. -/
theorem stringCodes_escapedChar (c : Char) (read : List Nat) (rest : List Char) :
    stringCodes read (escapedChar c ++ rest) = stringCodes (c.toNat :: read) rest := by
  unfold escapedChar
  split
  iterate 7 rfl
  next quote escape _ _ _ _ _ =>
    split
    · next control =>
      have code := Text.hexNumber?_word (n := c.toNat) (by omega)
      rw [Text.hexWord] at code
      simp only [Text.hexWord, List.cons_append, List.nil_append, stringCodes, code]
    · next shown => exact stringCodes_plain quote escape shown read rest

/-- A written text is read as its codes, up to the closing quote. -/
theorem stringCodes_escaped (chars : List Char) (read : List Nat) (rest : List Char) :
    stringCodes read (chars.flatMap escapedChar ++ '"' :: rest) =
      some (read.reverse ++ chars.map Char.toNat, rest) := by
  induction chars generalizing read with
  | nil => simp [stringCodes]
  | cons c chars ih =>
    rw [List.flatMap_cons, List.append_assoc, stringCodes_escapedChar, ih, List.reverse_cons,
      List.append_assoc, List.singleton_append, List.map_cons]

/-- No character has the code of half a surrogate pair. -/
theorem isLead_toNat (c : Char) : isLead c.toNat = false ∧ isTrail c.toNat = false := by
  have valid := c.valid
  unfold UInt32.isValidChar Nat.isValidChar at valid
  have code : c.toNat = c.val.toNat := rfl
  simp only [isLead, isTrail, Bool.and_eq_false_iff, decide_eq_false_iff_not]
  omega

theorem charactersOf_toNat (chars : List Char) :
    charactersOf (chars.map Char.toNat) = some chars := by
  induction chars with
  | nil => rfl
  | cons c chars ih =>
    obtain ⟨lead, trail⟩ := isLead_toNat c
    cases chars with
    | nil => simp [charactersOf, lead, trail]
    | cons next chars =>
      rw [List.map_cons] at ih
      simp [charactersOf, lead, trail, ih]

/-! ## Parts of a text -/

/-- What follows does not go on with a number. -/
def EndsNumeral (rest : List Char) : Prop :=
  ∀ c ∈ rest.head?, c.isDigit = false ∧ c ≠ '.' ∧ c ≠ 'e' ∧ c ≠ 'E'

/-- No matter what follows. -/
def Anything (_ : List Char) : Prop := True

theorem endsNumeral_nil : EndsNumeral [] := by
  intro c member
  cases member

theorem endsNumeral_cons {c : Char} (rest : List Char)
    (other : c.isDigit = false ∧ c ≠ '.' ∧ c ≠ 'e' ∧ c ≠ 'E') : EndsNumeral (c :: rest) := by
  intro found member
  cases member
  exact other

/-- A part of a text is cut into these tokens, and then the scan goes on behind it, when what follows
satisfies a condition. -/
structure Scans (follow : List Char → Prop) (chars : List Char) (tokens : List Token) : Prop where
  short : tokens.length ≤ chars.length
  goesOn : ∀ (read : List Token) (limit : Nat) {rest : List Char}, follow rest →
    scanFrom read (tokens.length + limit) (chars ++ rest) =
      scanFrom (tokens.reverse ++ read) limit rest

variable {follow further : List Char → Prop} {first second chars : List Char}
  {tokens others : List Token} {token : Token}

theorem scanFrom_nil (read : List Token) (limit : Nat) : scanFrom read limit [] = read.reverse := by
  cases limit <;> rfl

/-- **A text that is one such part has its tokens.** -/
theorem Scans.scan_eq (scans : Scans follow chars tokens) (clear : follow []) :
    scan chars = tokens := by
  obtain ⟨limit, enough⟩ := Nat.exists_eq_add_of_le scans.short
  have cut := scans.goesOn [] limit clear
  rw [List.append_nil] at cut
  rw [scan, enough, cut, scanFrom_nil, List.append_nil, List.reverse_reverse]

theorem Scans.mono (scans : Scans follow chars tokens) (clear : ∀ rest, further rest → follow rest) :
    Scans further chars tokens where
  short := scans.short
  goesOn read limit _ after := scans.goesOn read limit (clear _ after)

theorem Scans.append (begins : Scans follow first tokens) (continues : Scans further second others)
    (clear : ∀ rest, further rest → follow (second ++ rest)) :
    Scans further (first ++ second) (tokens ++ others) where
  short := by
    have short := begins.short
    have short' := continues.short
    rw [List.length_append, List.length_append]
    omega
  goesOn read limit rest after := by
    rw [List.length_append, List.append_assoc, Nat.add_assoc, begins.goesOn _ _ (clear rest after),
      continues.goesOn _ _ after, List.reverse_append, List.append_assoc]

/-- Behind a part that ends by itself there may be any other. -/
theorem Scans.then (begins : Scans Anything first tokens) (continues : Scans further second others) :
    Scans further (first ++ second) (tokens ++ others) :=
  begins.append continues fun _ _ => trivial

theorem scans_space {blanks : List Char} (blank : ∀ c ∈ blanks, isSpace c = true) :
    Scans Anything blanks [] where
  short := Nat.zero_le _
  goesOn read limit rest _ := by
    rw [List.length_nil, Nat.zero_add, List.reverse_nil, List.nil_append]
    cases limit with
    | zero => rfl
    | succ limit => rw [scanFrom, scanFrom, List.dropWhile_append_of_pos blank]

/-- A part that is read as one token. -/
theorem scans_token {c : Char} (shown : isSpace c = false)
    (found : ∀ rest, follow rest → next? (c :: (chars ++ rest)) = some (token, rest)) :
    Scans follow (c :: chars) [token] where
  short := Nat.succ_le_succ (Nat.zero_le _)
  goesOn read limit rest clear := by
    rw [List.length_singleton, Nat.add_comm, List.cons_append, scanFrom,
      List.dropWhile_cons_of_neg (by simp [shown])]
    dsimp only
    rw [found rest clear, List.reverse_singleton, List.singleton_append]

/-! ## Marks, words and texts -/

theorem scans_openBracket : Scans Anything ['['] [openBracket] :=
  scans_token (by decide) fun _ _ => rfl

theorem scans_closeBracket : Scans Anything [']'] [closeBracket] :=
  scans_token (by decide) fun _ _ => rfl

theorem scans_openBrace : Scans Anything ['\x7b'] [openBrace] :=
  scans_token (by decide) fun _ _ => rfl

theorem scans_closeBrace : Scans Anything ['\x7d'] [closeBrace] :=
  scans_token (by decide) fun _ _ => rfl

theorem scans_comma : Scans Anything [','] [comma] := scans_token (by decide) fun _ _ => rfl

theorem scans_colon : Scans Anything [':'] [colon] := scans_token (by decide) fun _ _ => rfl

theorem scans_null : Scans Anything "null".toList [null] :=
  scans_token (by decide) fun _ _ => rfl

theorem scans_true : Scans Anything "true".toList [bool true] :=
  scans_token (by decide) fun _ _ => rfl

theorem scans_false : Scans Anything "false".toList [bool false] :=
  scans_token (by decide) fun _ _ => rfl

theorem toList_quotedText (value : String) :
    (quotedText value).toList = '"' :: (value.toList.flatMap escapedChar ++ ['"']) := by
  rw [quotedText, String.toList_ofList, List.cons_append]

/-- **A written text is read back.** -/
theorem scans_quoted (value : String) :
    Scans Anything (quotedText value).toList [text value] := by
  rw [toList_quotedText]
  refine scans_token (by decide) fun rest _ => ?_
  rw [next?, List.append_assoc, List.singleton_append, stringCodes_escaped, List.reverse_nil,
    List.nil_append]
  dsimp only
  rw [charactersOf_toNat]
  dsimp only
  rw [String.ofList_toList]

/-! ## Numbers -/

variable {rest : List Char}

theorem EndsNumeral.endsDigits (ends : EndsNumeral rest) : Text.EndsDigits rest :=
  fun c first => (ends c first).1

theorem EndsNumeral.fractionPart? (ends : EndsNumeral rest) :
    fractionPart? rest = some ([], rest) := by
  unfold Token.fractionPart?
  split
  · exact absurd rfl (ends '.' rfl).2.1
  · rfl

theorem EndsNumeral.exponentPart? (ends : EndsNumeral rest) :
    exponentPart? rest = some (none, rest) := by
  unfold Token.exponentPart?
  split
  · next c rest =>
    have other := ends c rfl
    refine if_neg ?_
    rintro (small | large)
    · exact other.2.2.1 small
    · exact other.2.2.2 large
  · rfl

theorem spanDigits_toString (n : Nat) (ends : Text.EndsDigits rest) :
    spanDigits ((toString n).toList ++ rest) = ((toString n).toList, rest) := by
  have digit : ∀ c ∈ (toString n).toList, c.isDigit = true :=
    fun c => Text.isDigit_of_mem_toString
  rw [spanDigits, List.span_eq_takeWhile_dropWhile, Text.takeWhile_digits digit ends,
    Text.dropWhile_digits digit ends]

theorem digitsValue_toString (n : Nat) : digitsValue (toString n).toList = n := by
  rw [digitsValue, Text.toList_toString, Text.numberFrom?_toDigits, Option.getD_some]

theorem numeral?_toString (n : Nat) (ends : EndsNumeral rest) :
    numeral? false ((toString n).toList ++ rest) = some (natural n, rest) := by
  rw [numeral?, spanDigits_toString n ends.endsDigits]
  split
  · next empty => exact absurd (Prod.mk.inj empty).1 (Text.toString_ne_nil n)
  · next leading => cases Text.eq_nil_of_toString_eq_cons (Prod.mk.inj leading).1
  · next same =>
    obtain ⟨rfl, rfl⟩ := Prod.mk.inj same
    rw [ends.fractionPart?]
    dsimp only
    rw [ends.exponentPart?, digitsValue_toString]
    rfl

theorem next?_of_isDigit {c : Char} (digit : c.isDigit = true) (rest : List Char) :
    next? (c :: rest) = numeral? false (c :: rest) := by
  rw [next?.eq_def]
  split
  all_goals first
    | rfl
    | next same =>
      rw [(List.cons.inj same).1] at digit
      exact absurd digit (by decide)

/-- **A written number is read back.** -/
theorem scans_natural (n : Nat) : Scans EndsNumeral (toString n).toList [natural n] := by
  obtain ⟨c, digits, written⟩ := List.exists_cons_of_ne_nil (Text.toString_ne_nil n)
  have digit : c.isDigit = true :=
    Text.isDigit_of_mem_toString (n := n) (written ▸ List.mem_cons_self)
  have shown : isSpace c = false := by
    by_contra space
    simp only [isSpace, Bool.not_eq_false, Bool.or_eq_true, beq_iff_eq] at space
    rcases space with ((rfl | rfl) | rfl) | rfl <;> exact absurd digit (by decide)
  rw [written]
  refine scans_token shown fun rest ends => ?_
  rw [next?_of_isDigit digit, ← List.cons_append, ← written, numeral?_toString n ends]

/-! ## Parts joined by commas -/

/-- The tokens of parts that stand behind a comma each. -/
def afterCommas (pieces : List (List Token)) : List Token := pieces.flatMap (comma :: ·)

@[simp] theorem afterCommas_nil : afterCommas [] = [] := rfl

@[simp] theorem afterCommas_cons (piece : List Token) (pieces : List (List Token)) :
    afterCommas (piece :: pieces) = comma :: (piece ++ afterCommas pieces) := rfl

/-- **Parts that are joined by commas, with white space behind each, are read one by one.** -/
theorem Scans.intercalate {blanks : List Char} (blank : ∀ c ∈ blanks, isSpace c = true)
    {part : List Char} {parts : List (List Char)} {piece : List Token} {pieces : List (List Token)}
    (scans : Scans EndsNumeral part piece) (more : List.Forall₂ (Scans EndsNumeral) parts pieces) :
    Scans EndsNumeral ((',' :: blanks).intercalate (part :: parts))
      (piece ++ afterCommas pieces) := by
  induction more generalizing part piece with
  | nil =>
    rw [List.intercalate_singleton, afterCommas_nil, List.append_nil]
    exact scans
  | cons next _ ih =>
    have behind := (scans_comma.then (scans_space blank)).then (ih next)
    rw [List.intercalate_cons_cons, List.append_assoc]
    exact scans.append behind fun rest _ => endsNumeral_cons _ (by decide)

end Token

end FibrePool.Json
