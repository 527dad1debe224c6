import FibrePool.Proofs.Digits
import FibrePool.Proofs.Pieces
import FibrePool.Time.Instant

/-!
# Written points in time read back

Every point in time comes back from its written form (`Instant.parse?_text`), with any year and in a
leap second too.  The form is read part by part: no part begins with a blank, and what follows the
digits of a number is never a digit.
-/

namespace FibrePool

set_option autoImplicit false

theorem Calendar.daysIn_le (year : Int) (month : Nat) : daysIn year month ≤ 31 := by
  unfold daysIn
  repeat' split
  all_goals decide

namespace Instant

open Text (EndsDigits endsDigits_cons number? paddedNumber)

variable {digits rest : List Char}

/-! ## Numbers -/

theorem isBlank_of_isDigit {c : Char} (digit : c.isDigit = true) : Text.isBlank c = false := by
  have code : 48 ≤ c.toNat ∧ c.toNat ≤ 57 := by
    simpa [Char.isDigit, UInt32.le_iff_toNat_le] using digit
  simp [Text.isBlank]
  omega

theorem trimStart_digits (some : digits ≠ []) (digit : ∀ c ∈ digits, c.isDigit = true)
    (rest : List Char) : Text.trimStart (digits ++ rest) = digits ++ rest := by
  obtain ⟨c, more, rfl⟩ := List.exists_cons_of_ne_nil some
  have shown := isBlank_of_isDigit (digit c List.mem_cons_self)
  rw [List.cons_append, Text.trimStart, List.dropWhile_cons_of_neg (by simp [shown])]

theorem readNumber?_digits {most n : Nat} (digit : ∀ c ∈ digits, c.isDigit = true)
    (ends : EndsDigits rest) (short : digits.length ≤ most) (value : number? digits = some n) :
    readNumber? most (digits ++ rest) = some (n, rest) := by
  rw [readNumber?, Text.takeWhile_digits digit ends, List.take_of_length_le short, value]
  simp

theorem readNumber?_padded {width most n : Nat} (ends : EndsDigits rest)
    (short : (paddedNumber width n).toList.length ≤ most) :
    readNumber? most ((paddedNumber width n).toList ++ rest) = some (n, rest) :=
  readNumber?_digits (fun _ => Text.isDigit_of_mem_paddedNumber) ends short
    (Text.number?_paddedNumber width n)

theorem paddedNumber_ne_nil {width : Nat} (some : 0 < width) (n : Nat) :
    (paddedNumber width n).toList ≠ [] := by
  have long := Text.le_length_paddedNumber width n
  intro empty
  rw [empty, List.length_nil] at long
  omega

theorem readField?_padded {n : Nat} (below : n < 100) (ends : EndsDigits rest) :
    readField? ((paddedNumber 2 n).toList ++ rest) = some (n, rest) := by
  have width : (paddedNumber 2 n).toList.length = 2 :=
    Text.length_paddedNumber (by decide) below
  rw [readField?, trimStart_digits (paddedNumber_ne_nil (by decide) n)
    fun _ => Text.isDigit_of_mem_paddedNumber, readNumber?_padded ends (Nat.le_of_eq width)]

/-! ## Years, fractions and marks -/

theorem readYear?_digits (some : digits ≠ []) (digit : ∀ c ∈ digits, c.isDigit = true)
    (rest : List Char) : readYear? (digits ++ rest) =
      (readNumber? 4 (digits ++ rest)).map fun (year, rest) => ((year : Int), rest) := by
  obtain ⟨c, more, rfl⟩ := List.exists_cons_of_ne_nil some
  have here := digit c List.mem_cons_self
  rw [readYear?, trimStart_digits some digit]
  split
  · next sign =>
    cases (List.cons.inj sign).1
    cases here
  · next sign =>
    cases (List.cons.inj sign).1
    cases here
  · rfl

theorem readYear?_minus (rest : List Char) : readYear? ('-' :: rest) =
    (readNumber? rest.length rest).map fun (year, rest) => (-(year : Int), rest) := rfl

theorem readYear?_plus (rest : List Char) : readYear? ('+' :: rest) =
    (readNumber? rest.length rest).map fun (year, rest) => ((year : Int), rest) := rfl

theorem readYear?_text (year : Int) (ends : EndsDigits rest) :
    readYear? ((yearText year).toList ++ rest) = some (year, rest) := by
  unfold yearText
  split
  · next plain =>
    have below : year.toNat < 10000 := by omega
    have width : (paddedNumber 4 year.toNat).toList.length = 4 :=
      Text.length_paddedNumber (by decide) below
    have same : (year.toNat : Int) = year := by omega
    rw [readYear?_digits (paddedNumber_ne_nil (by decide) _)
      fun _ => Text.isDigit_of_mem_paddedNumber, readNumber?_padded ends (Nat.le_of_eq width)]
    simp only [Option.map_some, same]
  · next signed =>
    have room : (paddedNumber 4 year.natAbs).toList.length ≤
        ((paddedNumber 4 year.natAbs).toList ++ rest).length := by simp
    have number := readNumber?_padded ends room
    by_cases early : year < 0
    · have same : -(year.natAbs : Int) = year := by omega
      have sign : "-".toList = ['-'] := rfl
      rw [if_pos early, String.toList_append, List.append_assoc, sign, List.singleton_append,
        readYear?_minus, number]
      simp only [Option.map_some, same]
    · have same : (year.natAbs : Int) = year := by omega
      have sign : "+".toList = ['+'] := rfl
      rw [if_neg early, String.toList_append, List.append_assoc, sign, List.singleton_append,
        readYear?_plus, number]
      simp only [Option.map_some, same]

theorem readFraction?_padded {width n : Nat} (filled : 0 < width) (short : width ≤ 9)
    (below : n < Nat.pow 10 width) (ends : EndsDigits rest) :
    readFraction? (("." ++ paddedNumber width n).toList ++ rest) =
      some (n * Nat.pow 10 (9 - width), rest) := by
  have length := Text.length_paddedNumber filled below
  have digit : ∀ c ∈ (paddedNumber width n).toList, c.isDigit = true :=
    fun _ => Text.isDigit_of_mem_paddedNumber
  have digits := Text.takeWhile_digits digit ends
  have kept : (paddedNumber width n).toList.take 9 = (paddedNumber width n).toList :=
    List.take_of_length_le (by omega)
  have number := Text.number?_paddedNumber width n
  have point : ".".toList = ['.'] := rfl
  rw [String.toList_append, List.append_assoc, point, List.singleton_append, readFraction?, digits,
    kept, number, Option.map_some, length, List.drop_left' length]

theorem readFraction?_text {nanos : Nat} (below : nanos < 1000000000) (rest : List Char) :
    readFraction? ((fractionText nanos).toList ++ 'Z' :: rest) = some (nanos, 'Z' :: rest) := by
  have ends : EndsDigits ('Z' :: rest) := endsDigits_cons (by decide) rest
  unfold fractionText
  split
  · next none => rw [none]; rfl
  · split
    · next milli =>
      have short : nanos / 1000000 < 1000 := by omega
      have whole : nanos / 1000000 * 1000000 = nanos := by omega
      rw [readFraction?_padded (by decide) (by decide) short ends]
      exact congrArg (fun nanos => some (nanos, 'Z' :: rest)) whole
    · split
      · next micro =>
        have short : nanos / 1000 < 1000000 := by omega
        have whole : nanos / 1000 * 1000 = nanos := by omega
        rw [readFraction?_padded (by decide) (by decide) short ends]
        exact congrArg (fun nanos => some (nanos, 'Z' :: rest)) whole
      · rw [readFraction?_padded (by decide) (by decide) below ends]
        exact congrArg (fun nanos => some (nanos, 'Z' :: rest)) (Nat.mul_one nanos)

theorem skipMark?_cons {mark : Char} (shown : Text.isBlank mark = false) (rest : List Char) :
    skipMark? mark (mark :: rest) = some rest := by
  rw [skipMark?, Text.trimStart, List.dropWhile_cons_of_neg (by simp [shown])]
  exact if_pos rfl

theorem skipSeparator?_mark (rest : List Char) : skipSeparator? ('T' :: rest) = some rest := rfl

/-! ## Fields -/

theorem Fields.behind_zero {fields : Fields} (hour : fields.hour < 24)
    (minute : fields.minute < 60) : fields.behind 0 = fields := by
  obtain ⟨year, month, day, hours, minutes, second, nanos⟩ := fields
  simp only [Fields.behind] at hour minute ⊢
  rw [if_neg (by omega), if_neg (by omega)]
  simp only [Fields.mk.injEq, true_and, and_true]
  omega

theorem ofFields?_zero (instant : Instant) : ofFields? instant.fields 0 = some instant := by
  obtain ⟨fields, valid⟩ := instant
  have same : fields.behind 0 = fields := by
    unfold Fields.Valid at valid
    exact Fields.behind_zero (by omega) (by omega)
  rw [ofFields?, if_pos valid]
  simp [same, valid]

theorem endsDigits_fraction (nanos : Nat) (rest : List Char) :
    EndsDigits ((fractionText nanos).toList ++ 'Z' :: rest) := by
  unfold fractionText
  repeat' split
  · exact endsDigits_cons (by decide) _
  all_goals
    rw [String.toList_append, List.append_assoc]
    exact endsDigits_cons (by decide) _

theorem some_bind {α β : Type} (a : α) (f : α → Option β) : (some a >>= f) = f a := rfl

/-- The written form of a point in time is read part by part. -/
theorem parse?_parts (year : Int) {month day hour minute second nanos : Nat} (months : month < 100)
    (days : day < 100) (hours : hour < 100) (minutes : minute < 100) (seconds : second < 100)
    (below : nanos < 1000000000) :
    parse? (yearText year ++ "-" ++ paddedNumber 2 month ++ "-" ++ paddedNumber 2 day ++ "T" ++
      paddedNumber 2 hour ++ ":" ++ paddedNumber 2 minute ++ ":" ++ paddedNumber 2 second ++
      fractionText nanos ++ "Z") =
    if second = 60 then
      ofFields? { year, month, day, hour, minute, second := 59, nanos := nanos + 1000000000 } 0
    else ofFields? { year, month, day, hour, minute, second, nanos } 0 := by
  have dash : "-".toList = ['-'] := rfl
  have mark : "T".toList = ['T'] := rfl
  have colon : ":".toList = [':'] := rfl
  have zone : "Z".toList = ['Z'] := rfl
  unfold parse?
  simp only [String.toList_append, List.append_assoc, dash, mark, colon, zone, List.cons_append,
    List.nil_append]
  -- no part begins with a blank, and no number is followed by a digit
  rw [readYear?_text year (endsDigits_cons (by decide) _), some_bind]
  dsimp only
  rw [skipMark?_cons (by decide), some_bind,
    readField?_padded months (endsDigits_cons (by decide) _), some_bind]
  dsimp only
  rw [skipMark?_cons (by decide), some_bind,
    readField?_padded days (endsDigits_cons (by decide) _), some_bind]
  dsimp only
  rw [skipSeparator?_mark, some_bind, readField?_padded hours (endsDigits_cons (by decide) _), some_bind]
  dsimp only
  rw [skipMark?_cons (by decide), some_bind,
    readField?_padded minutes (endsDigits_cons (by decide) _), some_bind]
  dsimp only
  rw [skipMark?_cons (by decide), some_bind,
    readField?_padded seconds (endsDigits_fraction nanos []), some_bind]
  dsimp only
  rw [readFraction?_text below, some_bind]
  rfl

/-- **A point in time comes back from its written form.** -/
theorem parse?_text (instant : Instant) : parse? instant.text = some instant := by
  have whole := ofFields?_zero instant
  obtain ⟨⟨year, month, day, hour, minute, second, nanos⟩, valid⟩ := instant
  have bound := Calendar.daysIn_le year month
  have fits := valid
  unfold Fields.Valid at fits
  dsimp only at fits whole
  unfold text
  dsimp only
  split
  · next leap =>
    obtain rfl : second = 59 := by omega
    rw [parse?_parts year (by omega) (by omega) (by omega) (by omega) (by omega)
      (by omega), if_pos rfl, Nat.sub_add_cancel leap]
    exact whole
  · next plain =>
    rw [parse?_parts year (by omega) (by omega) (by omega) (by omega) (by omega)
      (by omega), if_neg (by omega)]
    exact whole

end Instant

end FibrePool
