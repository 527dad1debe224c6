import FibrePool.Text.Blank
import FibrePool.Text.Numeral

/-!
# Points in time

The creation time of a template is a point in universal time, kept by its calendar fields.  In a
leap second the second is 59 and the nanoseconds run on past a whole second.

Times are written as `2024-02-29T12:30:00Z`, with a fraction of three, six or nine digits where the
shorter one would not be exact.  They are read in a more liberal form: the numbers may be short, a
blank may stand for the `T`, blanks may stand between the parts, and any offset may be given.
-/

namespace FibrePool

set_option autoImplicit false

namespace Calendar

/-- Whether a year has a leap day. -/
def isLeap (year : Int) : Bool := year % 4 == 0 && (year % 100 != 0 || year % 400 == 0)

/-- The number of days of a month. -/
def daysIn (year : Int) (month : Nat) : Nat :=
  match month with
  | 2 => if isLeap year then 29 else 28
  | 4 | 6 | 9 | 11 => 30
  | _ => 31

/-- The day after a date. -/
def next (year : Int) (month day : Nat) : Int × Nat × Nat :=
  if day < daysIn year month then (year, month, day + 1)
  else if month < 12 then (year, month + 1, 1)
  else (year + 1, 1, 1)

/-- The day before a date. -/
def previous (year : Int) (month day : Nat) : Int × Nat × Nat :=
  if 1 < day then (year, month, day - 1)
  else if 1 < month then (year, month - 1, daysIn year (month - 1))
  else (year - 1, 12, 31)

/-- The date so many days after a date. -/
def after : Nat → Int × Nat × Nat → Int × Nat × Nat
  | 0, date => date
  | days + 1, (year, month, day) => after days (next year month day)

end Calendar

/-- Calendar fields of a point in time. -/
structure Instant.Fields where
  year : Int
  month : Nat
  day : Nat
  hour : Nat
  minute : Nat
  second : Nat
  nanos : Nat
  deriving DecidableEq, Repr, Inhabited, Ord

namespace Instant.Fields

/-- The fields name a point in time. -/
def Valid (fields : Fields) : Prop :=
  -262143 ≤ fields.year ∧ fields.year ≤ 262142 ∧ 1 ≤ fields.month ∧ fields.month ≤ 12 ∧
    1 ≤ fields.day ∧ fields.day ≤ Calendar.daysIn fields.year fields.month ∧ fields.hour < 24 ∧
    fields.minute < 60 ∧ fields.second < 60 ∧
    (fields.nanos < 1000000000 ∨ fields.second = 59 ∧ fields.nanos < 2000000000)

instance (fields : Fields) : Decidable fields.Valid := by
  unfold Valid
  infer_instance

/-- The fields in universal time of fields in a zone that is `offset` minutes ahead of it, by less
than a day. -/
def behind (fields : Fields) (offset : Int) : Fields :=
  let minutes : Int := (fields.hour * 60 + fields.minute : Nat) - offset
  let (year, month, day) :=
    if minutes < 0 then Calendar.previous fields.year fields.month fields.day
    else if 1440 ≤ minutes then Calendar.next fields.year fields.month fields.day
    else (fields.year, fields.month, fields.day)
  let inDay := (minutes % 1440).toNat
  { fields with year, month, day, hour := inDay / 60, minute := inDay % 60 }

end Instant.Fields

/-- A point in universal time. -/
structure Instant where
  fields : Instant.Fields
  valid : fields.Valid
  deriving DecidableEq, Repr

namespace Instant

instance : Inhabited Instant := ⟨⟨1970, 1, 1, 0, 0, 0, 0⟩, by decide⟩

/-- The order of time. -/
def order (first second : Instant) : Ordering := compare first.fields second.fields

/-! ## Writing -/

/-- A year with four digits, and with a sign outside of them. -/
def yearText (year : Int) : String :=
  if 0 ≤ year ∧ year ≤ 9999 then Text.paddedNumber 4 year.toNat
  else (if year < 0 then "-" else "+") ++ Text.paddedNumber 4 year.natAbs

/-- A fraction of a second with as many groups of three digits as it needs. -/
def fractionText (nanos : Nat) : String :=
  if nanos = 0 then ""
  else if nanos % 1000000 = 0 then "." ++ Text.paddedNumber 3 (nanos / 1000000)
  else if nanos % 1000 = 0 then "." ++ Text.paddedNumber 6 (nanos / 1000)
  else "." ++ Text.paddedNumber 9 nanos

/-- The written form of a point in time. -/
def text (instant : Instant) : String :=
  let fields := instant.fields
  let leap := 1000000000 ≤ fields.nanos
  let second := if leap then fields.second + 1 else fields.second
  let nanos := if leap then fields.nanos - 1000000000 else fields.nanos
  yearText fields.year ++ "-" ++ Text.paddedNumber 2 fields.month ++ "-" ++
    Text.paddedNumber 2 fields.day ++ "T" ++ Text.paddedNumber 2 fields.hour ++ ":" ++
    Text.paddedNumber 2 fields.minute ++ ":" ++ Text.paddedNumber 2 second ++
    fractionText nanos ++ "Z"

/-! ## Reading -/

/-- The number that the first digits stand for, at most `most` of them, and what follows. -/
def readNumber? (most : Nat) (chars : List Char) : Option (Nat × List Char) :=
  let digits := (chars.takeWhile Char.isDigit).take most
  (Text.number? digits).map fun value => (value, chars.drop digits.length)

/-- A field of at most two digits, blanks before it ignored. -/
def readField? (chars : List Char) : Option (Nat × List Char) :=
  readNumber? 2 (Text.trimStart chars)

/-- A year of at most four digits, or with a sign of any number of digits. -/
def readYear? (chars : List Char) : Option (Int × List Char) :=
  match Text.trimStart chars with
  | '-' :: rest =>
    (readNumber? rest.length rest).map fun (year, rest) => (-(year : Int), rest)
  | '+' :: rest => (readNumber? rest.length rest).map fun (year, rest) => ((year : Int), rest)
  | chars => (readNumber? 4 chars).map fun (year, rest) => ((year : Int), rest)

/-- What follows a mark, blanks before it ignored. -/
def skipMark? (mark : Char) (chars : List Char) : Option (List Char) :=
  match Text.trimStart chars with
  | c :: rest => if c = mark then some rest else none
  | [] => none

/-- The nanoseconds of a fraction, if there is one; digits after the ninth are dropped. -/
def readFraction? (chars : List Char) : Option (Nat × List Char) :=
  match chars with
  | '.' :: rest =>
    let digits := rest.takeWhile Char.isDigit
    let kept := digits.take 9
    (Text.number? kept).map fun value =>
      (value * Nat.pow 10 (9 - kept.length), rest.drop digits.length)
  | _ => some (0, chars)

/-- The minutes of an offset after its sign. -/
def readOffsetSize? (chars : List Char) : Option (Nat × List Char) :=
  match chars with
  | h1 :: h2 :: rest =>
    match Text.number? [h1, h2] with
    | some hours =>
      match rest.dropWhile fun c => c == ':' || Text.isBlank c with
      | m1 :: m2 :: rest =>
        match Text.number? [m1, m2] with
        | some minutes =>
          if minutes < 60 ∧ hours * 60 + minutes < 1440 then some (hours * 60 + minutes, rest)
          else none
        | none => none
      | _ => none
    | none => none
  | _ => none

/-- The offset from universal time in minutes. -/
def readOffset? (chars : List Char) : Option (Int × List Char) :=
  match chars with
  | 'Z' :: rest => some (0, rest)
  | 'z' :: rest => some (0, rest)
  | '+' :: rest => (readOffsetSize? rest).map fun (size, rest) => ((size : Int), rest)
  | '-' :: rest => (readOffsetSize? rest).map fun (size, rest) => (-(size : Int), rest)
  | '−' :: rest => (readOffsetSize? rest).map fun (size, rest) => (-(size : Int), rest)
  | u :: t :: c :: rest =>
    if [u, t, c].map Char.toUpper = ['U', 'T', 'C'] then some (0, rest) else none
  | _ => none

/-- What follows the mark between date and time. -/
def skipSeparator? : List Char → Option (List Char)
  | 'T' :: rest => some rest
  | 't' :: rest => some rest
  | ' ' :: rest => some rest
  | _ => none

/-- The point in time that valid fields name in a zone. -/
def ofFields? (fields : Fields) (offset : Int) : Option Instant :=
  if fields.Valid then
    let shifted := fields.behind offset
    if valid : shifted.Valid then some ⟨shifted, valid⟩ else none
  else none

/-- The point in time so many nanoseconds after the beginning of 1970. -/
def ofClock? (nanos : Nat) : Option Instant :=
  let seconds := nanos / 1000000000
  let (year, month, day) := Calendar.after (seconds / 86400) (1970, 1, 1)
  let hour := seconds / 3600 % 24
  let minute := seconds / 60 % 60
  let second := seconds % 60
  ofFields? { year, month, day, hour, minute, second, nanos := nanos % 1000000000 } 0

/-- The point in time that a text names. -/
def parse? (source : String) : Option Instant := do
  let (year, rest) ← readYear? source.toList
  let (month, rest) ← readField? (← skipMark? '-' rest)
  let (day, rest) ← readField? (← skipMark? '-' rest)
  let (hour, rest) ← readField? (← skipSeparator? rest)
  let (minute, rest) ← readField? (← skipMark? ':' rest)
  let (second, rest) ← readField? (← skipMark? ':' rest)
  let (nanos, rest) ← readFraction? rest
  let (offset, rest) ← readOffset? (Text.trimStart rest)
  if !(Text.trimStart rest).isEmpty then failure
  if second = 60 then
    ofFields? { year, month, day, hour, minute, second := 59, nanos := nanos + 1000000000 } offset
  else ofFields? { year, month, day, hour, minute, second, nanos } offset

end Instant

end FibrePool
