import FibrePool.Data.OrderedMap
import FibrePool.Failure
import FibrePool.Text.Blank
import FibrePool.Text.Numeral

/-!
# Device numbers

A device of a host is named by a number of sixteen bits.  People write it with one to four
hexadecimal digits of either case; it is always shown with four lower-case digits, so the order of
the texts is the order of the numbers.
-/

namespace FibrePool

set_option autoImplicit false

/-- The number of a device. -/
structure DeviceId where
  number : Fin 65536
  deriving DecidableEq, Repr, Inhabited

namespace DeviceId

instance : Ord DeviceId := ⟨compareOn DeviceId.number⟩

instance : Std.TransOrd DeviceId := inferInstanceAs (Std.TransCmp (compareOn DeviceId.number))

instance : Std.LawfulEqOrd DeviceId where
  compare_self := by
    intro a
    exact @Std.ReflCmp.compare_self _ (compareOn DeviceId.number) _ a
  eq_of_compare := by
    intro a b same
    have : a.number = b.number := Std.LawfulEqOrd.eq_of_compare same
    cases a
    cases b
    cases this
    rfl

/-- The device with a number, taken modulo 65536. -/
def ofNat (n : Nat) : DeviceId := ⟨Fin.ofNat 65536 n⟩

/-- The number. -/
def toNat (id : DeviceId) : Nat := id.number.val

/-- Four lower-case hexadecimal digits. -/
def text (id : DeviceId) : String := String.ofList (Text.hexWord id.toNat)

instance : ToString DeviceId := ⟨DeviceId.text⟩

/-- The device that one to four hexadecimal digits name, blanks around them ignored. -/
def ofChars? (chars : List Char) : Option DeviceId :=
  let digits := Text.trim chars
  if digits.length ≤ 4 then (Text.hexNumber? digits).map ofNat else none

/-- The device that a text names. -/
def parse (raw : String) : Outcome DeviceId :=
  match ofChars? raw.toList with
  | some id => .ok id
  | none => .error (.invalidFormat raw "FCP device number must be 1-4 hex digits")

end DeviceId

/-- A set of devices, in ascending order. -/
abbrev DeviceSet := OrderedMap DeviceId Unit

/-- The devices of each path, by path number. -/
abbrev PathMap := OrderedMap Nat DeviceSet

/-- The device numbers of a list, joined by commas. -/
def DeviceId.joined (ids : List DeviceId) : String := ",".intercalate (ids.map DeviceId.text)

end FibrePool
