import FibrePool.Text.Numeral
import Mathlib.Data.List.TakeWhile

/-!
# Decimal numbers read back

A number is read back from its decimal digits (`number?_toString`), also when zeros fill them up to
a width (`number?_paddedNumber`), and its digits begin with no zero but that of the number zero
(`eq_nil_of_toString_eq_cons`).

The digits at the front of a text are found by the first character that is none, so a number comes
back out of a text when none follows it (`EndsDigits`).
-/

namespace FibrePool.Text

set_option autoImplicit false

/-! ## Digits -/

theorem numberFrom?_append {base start n : Nat} {value? : Char → Option Nat} {first : List Char}
    (read : numberFrom? base value? start first = some n) (rest : List Char) :
    numberFrom? base value? start (first ++ rest) = numberFrom? base value? n rest := by
  induction first generalizing start with
  | nil =>
    cases read
    rfl
  | cons c first ih =>
    rw [numberFrom?] at read
    rw [List.cons_append, numberFrom?]
    cases digit : value? c with
    | none => simp [digit] at read
    | some value =>
      rw [digit, Option.bind_some] at read
      exact ih read

theorem digitValue?_digitChar : ∀ value < 10, digitValue? value.digitChar = some value := by
  decide

theorem toList_toString (n : Nat) : (toString n).toList = Nat.toDigits 10 n := by
  rw [Nat.toString_eq_ofList_toDigits, String.toList_ofList]

theorem toString_ne_nil (n : Nat) : (toString n).toList ≠ [] := by
  rw [toList_toString]
  exact Nat.toDigits_ne_nil

theorem isDigit_of_mem_toString {n : Nat} {c : Char} (member : c ∈ (toString n).toList) :
    c.isDigit = true := by
  rw [toList_toString] at member
  exact Nat.isDigit_of_mem_toDigits (by decide) (by decide) member

theorem numberFrom?_toDigits (n : Nat) :
    numberFrom? 10 digitValue? 0 (Nat.toDigits 10 n) = some n := by
  induction n using Nat.strongRecOn with
  | ind n ih =>
    by_cases one : n < 10
    · rw [Nat.toDigits_of_lt_base one, numberFrom?, digitValue?_digitChar n one, Option.bind_some,
        numberFrom?, Nat.zero_mul, Nat.zero_add]
    · have shorter := ih (n / 10) (by omega)
      have last := digitValue?_digitChar (n % 10) (by omega)
      rw [Nat.toDigits_of_base_le (by decide) (Nat.le_of_not_lt one), numberFrom?_append shorter,
        numberFrom?, last, Option.bind_some, numberFrom?, Nat.div_add_mod']

/-- **A number is read back from its digits.** -/
theorem number?_toString (n : Nat) : number? (toString n).toList = some n := by
  have some := toString_ne_nil n
  rw [number?, if_neg (mt List.isEmpty_iff.1 some), toList_toString, numberFrom?_toDigits]

/-- Only the number zero begins with a zero. -/
theorem eq_nil_of_toString_eq_cons {n : Nat} {rest : List Char}
    (begins : (toString n).toList = '0' :: rest) : rest = [] := by
  rw [toList_toString] at begins
  induction n using Nat.strongRecOn generalizing rest with
  | ind n ih =>
    by_cases one : n < 10
    · rw [Nat.toDigits_of_lt_base one] at begins
      exact (List.cons.inj begins).2.symm
    · -- the leading digits are those of the quotient, which would be zero
      rw [Nat.toDigits_of_base_le (by decide) (Nat.le_of_not_lt one)] at begins
      obtain ⟨c, leading, digits⟩ :=
        List.exists_cons_of_ne_nil (Nat.toDigits_ne_nil (n := n / 10) (b := 10))
      rw [digits, List.cons_append] at begins
      obtain ⟨rfl, -⟩ := List.cons.inj begins
      have none := ih (n / 10) (by omega) digits
      have value := numberFrom?_toDigits (n / 10)
      rw [digits, none] at value
      have zero : some 0 = some (n / 10) := value
      have : 0 = n / 10 := Option.some.inj zero
      omega

/-! ## Zeros in front -/

theorem toList_paddedNumber (width n : Nat) : (paddedNumber width n).toList =
    List.replicate (width - (toString n).length) '0' ++ (toString n).toList := by
  rw [paddedNumber, padded, String.toList_append, String.toList_ofList]

theorem isDigit_of_mem_paddedNumber {width n : Nat} {c : Char}
    (member : c ∈ (paddedNumber width n).toList) : c.isDigit = true := by
  rw [toList_paddedNumber, List.mem_append] at member
  rcases member with zero | digit
  · rw [List.eq_of_mem_replicate zero]
    rfl
  · exact isDigit_of_mem_toString digit

/-- **A number is read back from its digits with zeros in front.** -/
theorem number?_paddedNumber (width n : Nat) :
    number? (paddedNumber width n).toList = some n := by
  have zeros (count : Nat) :
      numberFrom? 10 digitValue? 0 (List.replicate count '0') = some 0 := by
    induction count with
    | zero => rfl
    | succ count ih => exact ih
  rw [number?, if_neg (by simp [toList_paddedNumber]), toList_paddedNumber,
    numberFrom?_append (zeros _), toList_toString, numberFrom?_toDigits]

theorem length_paddedNumber {width n : Nat} (some : 0 < width) (below : n < Nat.pow 10 width) :
    (paddedNumber width n).toList.length = width := by
  have short := (Nat.length_toDigits_le_iff (b := 10) (n := n) (by decide) some).2 below
  rw [← toList_toString, String.length_toList] at short
  rw [toList_paddedNumber, List.length_append, List.length_replicate, String.length_toList]
  omega

theorem le_length_paddedNumber (width n : Nat) : width ≤ (paddedNumber width n).toList.length := by
  rw [toList_paddedNumber, List.length_append, List.length_replicate, String.length_toList]
  omega

/-! ## Digits at the front -/

/-- No digit follows. -/
def EndsDigits (rest : List Char) : Prop := ∀ c ∈ rest.head?, c.isDigit = false

theorem endsDigits_cons {c : Char} (other : c.isDigit = false) (rest : List Char) :
    EndsDigits (c :: rest) := by
  intro found member
  cases member
  exact other

variable {digits rest : List Char}

theorem takeWhile_digits (digit : ∀ c ∈ digits, c.isDigit = true) (ends : EndsDigits rest) :
    (digits ++ rest).takeWhile Char.isDigit = digits := by
  rw [List.takeWhile_append_of_pos digit]
  cases rest with
  | nil => rw [List.takeWhile_nil, List.append_nil]
  | cons c rest => rw [List.takeWhile_cons_of_neg (by simp [ends c rfl]), List.append_nil]

theorem dropWhile_digits (digit : ∀ c ∈ digits, c.isDigit = true) (ends : EndsDigits rest) :
    (digits ++ rest).dropWhile Char.isDigit = rest := by
  rw [List.dropWhile_append_of_pos digit]
  cases rest with
  | nil => rfl
  | cons c rest => rw [List.dropWhile_cons_of_neg (by simp [ends c rfl])]

end FibrePool.Text
