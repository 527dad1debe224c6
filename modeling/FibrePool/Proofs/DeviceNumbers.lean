import FibrePool.Device.Id
import FibrePool.Proofs.Candidates
import FibrePool.Proofs.Trimming
import Mathlib.Data.List.Forall2
import Mathlib.Data.Nat.Digits.Defs
import Mathlib.Data.String.Basic

/-!
# How device numbers are written

A device number is written with one to four hexadecimal digits of either case
(`DeviceId.IsWritten`).  Exactly these texts are read, and they are read as the number that the
digits stand for in base sixteen, whatever blanks stand around them
(`DeviceId.ofChars?_eq_some_iff`).  It is shown with four digits of one case, so devices that are
ordered by their texts are ordered as here, by their numbers (`DeviceId.compare_eq_lt_iff`).
-/

namespace FibrePool

set_option autoImplicit false

namespace Text

/-- The character is the hexadecimal digit of a value, of either case. -/
def IsHexDigit (c : Char) (value : Nat) : Prop :=
  "0123456789abcdef".toList[value]? = some c ∨ "0123456789ABCDEF".toList[value]? = some c

instance (c : Char) (value : Nat) : Decidable (IsHexDigit c value) :=
  inferInstanceAs (Decidable (_ ∨ _))

/-- The digits stand for a number in base sixteen, the highest digit first. -/
def Hexadecimal (digits : List Char) (number : Nat) : Prop :=
  ∃ values, List.Forall₂ IsHexDigit digits values ∧ number = Nat.ofDigits 16 values.reverse

/-! ## Digits -/

theorem IsHexDigit.lt {c : Char} {value : Nat} (digit : IsHexDigit c value) : value < 16 := by
  rcases digit with lower | upper
  · exact (List.getElem?_eq_some_iff.1 lower).1
  · exact (List.getElem?_eq_some_iff.1 upper).1

theorem isHexDigit_of_range {c : Char} (low high : Nat) {shift : Nat}
    (all : ∀ n < high + 1, low ≤ n → IsHexDigit (Char.ofNat n) (n - shift))
    (above : low ≤ c.toNat) (below : c.toNat ≤ high) : IsHexDigit c (c.toNat - shift) := by
  have digit := all c.toNat (Nat.lt_succ_of_le below) above
  rwa [Char.ofNat_toNat] at digit

/-- The values of the digits are those that are read. -/
theorem hexValue?_eq_some_iff {c : Char} {value : Nat} :
    hexValue? c = some value ↔ IsHexDigit c value := by
  constructor
  · intro read
    unfold hexValue? at read
    split at read
    · next range =>
      cases read
      exact isHexDigit_of_range 48 57 (by decide) range.1 range.2
    · split at read
      · next range =>
        cases read
        exact isHexDigit_of_range 97 102 (by decide) range.1 range.2
      · split at read
        · next range =>
          cases read
          exact isHexDigit_of_range 65 70 (by decide) range.1 range.2
        · cases read
  · intro digit
    have read : ∀ value < 16, ∀ c, "0123456789abcdef".toList[value]? = some c ∨
        "0123456789ABCDEF".toList[value]? = some c → hexValue? c = some value := by
      intro value below c digit
      have both : ∀ value < 16,
          "0123456789abcdef".toList[value]?.all (fun c => hexValue? c == some value) = true ∧
          "0123456789ABCDEF".toList[value]?.all (fun c => hexValue? c == some value) = true := by
        decide
      obtain ⟨lower, upper⟩ := both value below
      rcases digit with found | found
      · rw [found] at lower
        simpa using lower
      · rw [found] at upper
        simpa using upper
    exact read value digit.lt c digit

theorem IsHexDigit.isBlank {c : Char} {value : Nat} (digit : IsHexDigit c value) :
    isBlank c = false := by
  have nowhere : ("0123456789abcdef".toList ++ "0123456789ABCDEF".toList).all
      (fun c => !Text.isBlank c) = true := by
    decide
  rw [← Bool.not_eq_true']
  apply List.all_eq_true.1 nowhere
  rcases digit with lower | upper
  · exact List.mem_append_left _ (List.mem_of_getElem? lower)
  · exact List.mem_append_right _ (List.mem_of_getElem? upper)

/-! ## Numbers -/

variable {digits : List Char} {number : Nat}

/-- Reading goes on from a number: the digits after it count below its multiple of a power. -/
theorem numberFrom?_eq_some_iff {start : Nat} :
    numberFrom? 16 hexValue? start digits = some number ↔ ∃ values,
      List.Forall₂ IsHexDigit digits values ∧
      number = start * 16 ^ values.length + Nat.ofDigits 16 values.reverse := by
  induction digits generalizing start with
  | nil => simp [numberFrom?, Nat.ofDigits_nil, eq_comm]
  | cons c rest ih =>
    simp only [numberFrom?, Option.bind_eq_some_iff, hexValue?_eq_some_iff, ih,
      List.forall₂_cons_left_iff]
    have next (value : Nat) (values : List Nat) :
        (start * 16 + value) * 16 ^ values.length + Nat.ofDigits 16 values.reverse =
          start * 16 ^ (value :: values).length + Nat.ofDigits 16 (value :: values).reverse := by
      rw [List.reverse_cons, Nat.ofDigits_append, Nat.ofDigits_singleton, List.length_reverse,
        List.length_cons, Nat.pow_succ', ← Nat.mul_assoc, Nat.add_mul, Nat.mul_comm value]
      omega
    constructor
    · rintro ⟨value, digit, values, digits, rfl⟩
      exact ⟨_, ⟨value, values, digit, digits, rfl⟩, next value values⟩
    · rintro ⟨_, ⟨value, values, digit, digits, rfl⟩, rfl⟩
      exact ⟨value, digit, values, digits, (next value values).symm⟩

theorem hexNumber?_eq_some_iff :
    hexNumber? digits = some number ↔ digits ≠ [] ∧ Hexadecimal digits number := by
  unfold hexNumber?
  split
  · next none => simp [List.isEmpty_iff.1 none]
  · next some =>
    rw [numberFrom?_eq_some_iff]
    simp only [Nat.zero_mul, Nat.zero_add]
    exact (and_iff_right (mt List.isEmpty_iff.2 some)).symm

/-- A number of few digits is small. -/
theorem Hexadecimal.lt (written : Hexadecimal digits number) : number < 16 ^ digits.length := by
  obtain ⟨values, pairs, rfl⟩ := written
  rw [pairs.length_eq, ← List.length_reverse]
  apply Nat.ofDigits_lt_base_pow_length (by decide)
  intro value member
  obtain ⟨_, _, digit⟩ := exists_mem_of_forall₂ pairs (List.mem_reverse.1 member)
  exact digit.lt

theorem Hexadecimal.isBlank (written : Hexadecimal digits number) :
    ∀ c ∈ digits, isBlank c = false := by
  intro c member
  obtain ⟨values, pairs, _⟩ := written
  obtain ⟨_, _, digit⟩ := exists_mem_of_forall₂ pairs.flip member
  exact IsHexDigit.isBlank digit

end Text

namespace DeviceId

theorem toNat_lt (id : DeviceId) : id.toNat < 65536 := id.number.isLt

theorem ofNat_toNat (id : DeviceId) : ofNat id.toNat = id := by
  cases id with
  | mk number => exact congrArg mk (Fin.ofNat_val_eq_self number)

theorem toNat_ofNat {n : Nat} (below : n < 65536) : (ofNat n).toNat = n :=
  Nat.mod_eq_of_lt below

theorem eq_ofNat_iff {id : DeviceId} {n : Nat} (below : n < 65536) :
    id = ofNat n ↔ id.toNat = n := by
  constructor
  · rintro rfl
    exact toNat_ofNat below
  · rintro rfl
    exact (ofNat_toNat id).symm

theorem isBlank_hexDigit : ∀ value < 16, Text.isBlank (Text.hexDigit value) = false := by
  decide

theorem ofChars?_text (id : DeviceId) : ofChars? id.text.toList = some id := by
  have plain : ∀ c ∈ Text.hexWord id.toNat, Text.isBlank c = false := by
    have digit (n : Nat) : Text.isBlank (Text.hexDigit (n % 16)) = false :=
      isBlank_hexDigit _ (Nat.mod_lt n (by decide))
    simp [Text.hexWord, digit]
  have number := Text.hexNumber?_word id.toNat_lt
  rw [text, String.toList_ofList, ofChars?, Text.trim_eq_self plain, if_pos (by simp [Text.hexWord]),
    number, Option.map_some, ofNat_toNat]

/-! ## Their order -/

theorem hexDigit_lt_iff : ∀ first < 16, ∀ second < 16,
    Text.hexDigit first < Text.hexDigit second ↔ first < second := by
  decide

theorem hexDigit_inj : ∀ first < 16, ∀ second < 16,
    Text.hexDigit first = Text.hexDigit second → first = second := by
  decide

/-- A number below 65536 is made of its four hexadecimal digits. -/
theorem eq_digits {n : Nat} (below : n < 65536) :
    n = 4096 * (n / 4096 % 16) + 256 * (n / 256 % 16) + 16 * (n / 16 % 16) + n % 16 := by
  omega

/-- The first digit in which two numbers differ decides which of them is less. -/
theorem digits_lt_iff {a b c d a' b' c' d' : Nat} (b_lt : b < 16) (c_lt : c < 16) (d_lt : d < 16)
    (b_lt' : b' < 16) (c_lt' : c' < 16) (d_lt' : d' < 16) :
    (a < a' ∨ a = a' ∧ (b < b' ∨ b = b' ∧ (c < c' ∨ c = c' ∧ d < d'))) ↔
      4096 * a + 256 * b + 16 * c + d < 4096 * a' + 256 * b' + 16 * c' + d' := by
  omega

/-- **The texts of devices are ordered as their numbers are.** -/
theorem text_lt_iff {first second : DeviceId} :
    first.text < second.text ↔ first.toNat < second.toNat := by
  have digit (n : Nat) : n % 16 < 16 := Nat.mod_lt n (by decide)
  have less (m n : Nat) : Text.hexDigit (m % 16) < Text.hexDigit (n % 16) ↔ m % 16 < n % 16 :=
    hexDigit_lt_iff _ (digit m) _ (digit n)
  have same (m n : Nat) : Text.hexDigit (m % 16) = Text.hexDigit (n % 16) ↔ m % 16 = n % 16 :=
    ⟨hexDigit_inj _ (digit m) _ (digit n), fun same => by rw [same]⟩
  rw [String.lt_iff_toList_lt, text, text, String.toList_ofList, String.toList_ofList]
  simp only [Text.hexWord, List.cons_lt_cons_iff, less, same, List.lt_irrefl, and_false, or_false]
  rw [digits_lt_iff (digit _) (digit _) (digit _) (digit _) (digit _) (digit _),
    ← eq_digits first.toNat_lt, ← eq_digits second.toNat_lt]

theorem compare_eq_lt_iff {first second : DeviceId} :
    compare first second = .lt ↔ first.text < second.text := by
  rw [text_lt_iff]
  exact Nat.compare_eq_lt

/-! ## Texts that are read -/

/-- The text is a device number: one to four hexadecimal digits. -/
structure IsWritten (digits : List Char) (id : DeviceId) : Prop where
  some : digits ≠ []
  short : digits.length ≤ 4
  value : Text.Hexadecimal digits id.toNat

variable {chars digits : List Char} {id : DeviceId}

theorem IsWritten.isBlank (written : IsWritten digits id) : ∀ c ∈ digits, Text.isBlank c = false :=
  written.value.isBlank

theorem ofNat_eq_of_hexadecimal {number : Nat} (short : digits.length ≤ 4)
    (value : Text.Hexadecimal digits number) : (ofNat number).toNat = number :=
  Nat.mod_eq_of_lt (Nat.lt_of_lt_of_le value.lt (Nat.pow_le_pow_right (by decide) short))

/-- A device is read from its number without blanks around it. -/
theorem ofChars?_of_trim (trimmed : Text.trim chars = digits) :
    ofChars? chars = some id ↔ IsWritten digits id := by
  rw [ofChars?, trimmed]
  split
  · next short =>
    rw [Option.map_eq_some_iff]
    constructor
    · rintro ⟨number, read, rfl⟩
      obtain ⟨filled, value⟩ := Text.hexNumber?_eq_some_iff.1 read
      refine ⟨filled, short, ?_⟩
      rwa [ofNat_eq_of_hexadecimal short value]
    · rintro ⟨filled, _, value⟩
      exact ⟨id.toNat, Text.hexNumber?_eq_some_iff.2 ⟨filled, value⟩, ofNat_toNat id⟩
  · next long =>
    constructor
    · intro read
      cases read
    · intro written
      exact absurd written.short long

/-- **Exactly the texts of one to four digits, with blanks around them, are read.** -/
theorem ofChars?_eq_some_iff :
    ofChars? chars = some id ↔ ∃ digits, Text.Surrounds chars digits ∧ IsWritten digits id := by
  constructor
  · intro read
    exact ⟨_, Text.surrounds_trim chars, (ofChars?_of_trim rfl).1 read⟩
  · rintro ⟨digits, surrounds, written⟩
    have ends := Text.noBlankEnds_of_plain written.isBlank
    exact (ofChars?_of_trim (Text.trim_eq_of_surrounds surrounds ends)).2 written

/-- A text without blanks at its ends is read if it is a device number. -/
theorem parse_eq_ok_iff {text : String} (ends : Text.NoBlankEnds text.toList) :
    parse text = .ok id ↔ IsWritten text.toList id := by
  rw [← ofChars?_of_trim (Text.trim_eq_self_of_ends ends), parse]
  cases ofChars? text.toList with
  | none => simp
  | some other => simp

end DeviceId

end FibrePool
