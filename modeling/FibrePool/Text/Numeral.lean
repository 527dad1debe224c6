/-!
# Numerals

Digits of a base with their values, the number that a run of digits stands for, and numbers written
with a least count of digits.
-/

namespace FibrePool.Text

set_option autoImplicit false

/-- The value of a hexadecimal digit, of either case. -/
def hexValue? (c : Char) : Option Nat :=
  if '0' ≤ c ∧ c ≤ '9' then some (c.toNat - 48)
  else if 'a' ≤ c ∧ c ≤ 'f' then some (c.toNat - 87)
  else if 'A' ≤ c ∧ c ≤ 'F' then some (c.toNat - 55)
  else none

/-- The value of a decimal digit. -/
def digitValue? (c : Char) : Option Nat :=
  if '0' ≤ c ∧ c ≤ '9' then some (c.toNat - 48) else none

/-- The number that digits of a base stand for, after `start`. -/
def numberFrom? (base : Nat) (value? : Char → Option Nat) : Nat → List Char → Option Nat
  | start, [] => some start
  | start, c :: rest =>
    (value? c).bind fun digit => numberFrom? base value? (start * base + digit) rest

/-- The number that one or more hexadecimal digits stand for. -/
def hexNumber? (digits : List Char) : Option Nat :=
  if digits.isEmpty then none else numberFrom? 16 hexValue? 0 digits

/-- The number that one or more decimal digits stand for. -/
def number? (digits : List Char) : Option Nat :=
  if digits.isEmpty then none else numberFrom? 10 digitValue? 0 digits

/-- The lower-case hexadecimal digit of a value below sixteen. -/
def hexDigit (value : Nat) : Char := Char.ofNat (if value < 10 then 48 + value else 87 + value)

/-- Four lower-case hexadecimal digits of a number below 65536. -/
def hexWord (n : Nat) : List Char :=
  [hexDigit (n / 4096 % 16), hexDigit (n / 256 % 16), hexDigit (n / 16 % 16), hexDigit (n % 16)]

/-- Digits with zeros in front up to a width. -/
def padded (width : Nat) (digits : String) : String :=
  String.ofList (List.replicate (width - digits.length) '0') ++ digits

/-- A number in decimal with at least `width` digits. -/
def paddedNumber (width n : Nat) : String := padded width (toString n)

end FibrePool.Text
