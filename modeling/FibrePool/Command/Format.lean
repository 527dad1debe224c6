import FibrePool.Text.Numeral
import FibrePool.Text.Utf8

/-!
# Printing by format

The format of the program `printf`: plain characters, escapes, and conversions that each take an
argument.  The format is used again as long as arguments are left and it takes any.
-/

namespace FibrePool.Format

set_option autoImplicit false

/-- A part of a format. -/
inductive Piece where
  | bytes (bytes : List Nat)
  | conversion (flags : List Char) (width precision : Option Nat) (letter : Char)
  deriving Repr

/-- The value of an octal digit. -/
def octalValue? (c : Char) : Option Nat := (Text.digitValue? c).filter (· < 8)

/-- The byte that a letter stands for behind a backslash. -/
def escape? : Char → Option Nat
  | 'a' => some 7
  | 'b' => some 8
  | 'e' => some 27
  | 'f' => some 12
  | 'n' => some 10
  | 'r' => some 13
  | 't' => some 9
  | 'v' => some 11
  | '\\' => some 0x5c
  | '"' => some 0x22
  | _ => none

/-- The byte of an escape behind its backslash, and what follows it. -/
def readEscape (chars : List Char) : Option (List Nat × List Char) :=
  let octal := (chars.take 3).takeWhile fun c => (octalValue? c).isSome
  if !octal.isEmpty then
    (Text.numberFrom? 8 octalValue? 0 octal).map fun value =>
      ([value % 256], chars.drop octal.length)
  else
    match chars with
    | 'x' :: rest =>
      let digits := (rest.take 2).takeWhile fun c => (Text.hexValue? c).isSome
      (Text.hexNumber? digits).map fun value => ([value], rest.drop digits.length)
    | c :: rest => (escape? c).map fun byte => ([byte], rest)
    | [] => none

/-- A conversion behind its percent sign, and what follows it. -/
def readConversion (chars : List Char) : Option (Piece × List Char) :=
  let flags := chars.takeWhile fun c => "-+ 0#".toList.contains c
  let behind := chars.drop flags.length
  let width := behind.takeWhile Char.isDigit
  let behind := behind.drop width.length
  let (precision, behind) := match behind with
    | '.' :: rest =>
      let digits := rest.takeWhile Char.isDigit
      (some ((Text.number? digits).getD 0), rest.drop digits.length)
    | rest => (none, rest)
  match behind with
  | letter :: rest => some (.conversion flags (Text.number? width) precision letter, rest)
  | [] => none

/-- The parts of a format, at most `limit` of them. -/
def readWithin : Nat → List Char → List Piece
  | 0, _ => []
  | _ + 1, [] => []
  | limit + 1, '%' :: '%' :: rest => .bytes [0x25] :: readWithin limit rest
  | limit + 1, '%' :: rest =>
    match readConversion rest with
    | some (piece, rest) => piece :: readWithin limit rest
    | none => .bytes [0x25] :: readWithin limit rest
  | limit + 1, '\\' :: rest =>
    match readEscape rest with
    | some (bytes, rest) => .bytes bytes :: readWithin limit rest
    | none => .bytes [0x5c] :: readWithin limit rest
  | limit + 1, c :: rest => .bytes (Text.Utf8.encodeChar c) :: readWithin limit rest

/-- The parts of a format. -/
def read (format : String) : List Piece := readWithin format.length format.toList

/-- Whether a format takes arguments. -/
def takesArguments (pieces : List Piece) : Bool :=
  pieces.any fun
    | .bytes _ => false
    | .conversion _ _ _ _ => true

/-- Bytes with blanks up to a width. -/
def pad (flags : List Char) (width : Option Nat) (bytes : List Nat) : List Nat :=
  let blanks := List.replicate (width.getD 0 - bytes.length) 0x20
  if flags.contains '-' then bytes ++ blanks else blanks ++ bytes

/-- A number with its sign, and zeros up to a width where they are asked for. -/
def padNumber (flags : List Char) (width : Option Nat) (negative : Bool) (digits : String) :
    List Nat :=
  let sign := if negative then "-" else if flags.contains '+' then "+"
    else if flags.contains ' ' then " " else ""
  let zeros :=
    if flags.contains '0' && !flags.contains '-' then
      String.ofList (List.replicate (width.getD 0 - sign.length - digits.length) '0')
    else ""
  pad flags width (Text.Utf8.encode (sign ++ zeros ++ digits).toList)

/-- The whole number that an argument is, if it is one; an empty argument is zero. -/
def wholeNumber? (argument : String) : Option Int :=
  let (negative, digits) := match argument.toList with
    | '-' :: digits => (true, digits)
    | '+' :: digits => (false, digits)
    | digits => (false, digits)
  let size := match digits with
    | '0' :: 'x' :: rest => Text.hexNumber? rest
    | '0' :: rest => Text.numberFrom? 8 octalValue? 0 rest
    | digits => Text.number? digits
  if argument = "" then some 0
  else size.map fun size => if negative then -(size : Int) else size

/-- The argument of a conversion as bytes, and whether it is what the conversion takes. -/
def convert (flags : List Char) (width precision : Option Nat) (letter : Char)
    (argument : String) : List Nat × Bool :=
  let inBase (base : Nat) (value : Int) : String :=
    let size := if value < 0 then 18446744073709551616 - value.natAbs else value.natAbs
    String.ofList (Nat.toDigits base size)
  match letter with
  | 's' =>
    let bytes := Text.Utf8.encode argument.toList
    (pad flags width (bytes.take (precision.getD bytes.length)), true)
  | 'c' => (pad flags width ((Text.Utf8.encode argument.toList).take 1), true)
  | 'b' =>
    let bytes := (read (argument.replace "%" "%%")).flatMap fun
      | .bytes bytes => bytes
      | .conversion _ _ _ _ => []
    (pad flags width bytes, true)
  | letter =>
    let value := wholeNumber? argument
    let number := value.getD 0
    let digits := match letter with
      | 'x' => inBase 16 number
      | 'X' => String.ofList ((inBase 16 number).toList.map Char.toUpper)
      | 'o' => inBase 8 number
      | 'u' => inBase 10 number
      | _ => toString number.natAbs
    let isSigned := letter == 'd' || letter == 'i'
    (padNumber flags width (isSigned && number < 0) digits, value.isSome)

/-- What printing came to: the bytes, the arguments that are left, and those that are not what their
conversion takes. -/
structure Printed where
  bytes : List Nat := []
  left : List String := []
  unfit : List String := []
  deriving Repr

/-- Prints the parts of a format once. -/
def printOnce (pieces : List Piece) (arguments : List String) : Printed :=
  pieces.foldl (fun printed piece =>
    match piece with
    | .bytes bytes => { printed with bytes := printed.bytes ++ bytes }
    | .conversion flags width precision letter =>
      let argument := printed.left.head?.getD ""
      let (bytes, isFit) := convert flags width precision letter argument
      { bytes := printed.bytes ++ bytes
        left := printed.left.drop 1
        unfit := if isFit then printed.unfit else printed.unfit ++ [argument] })
    { left := arguments }

/-- Prints a format, at most `limit` times more. -/
def printWithin (pieces : List Piece) (printed : Printed) : Nat → Printed
  | 0 => printed
  | limit + 1 =>
    if printed.left.isEmpty then printed
    else
      let more := printOnce pieces printed.left
      printWithin pieces
        { bytes := printed.bytes ++ more.bytes
          left := more.left
          unfit := printed.unfit ++ more.unfit } limit

/-- Prints a format with its arguments. -/
def print (format : String) (arguments : List String) : Printed :=
  let pieces := read format
  let first := printOnce pieces arguments
  if takesArguments pieces then printWithin pieces first arguments.length else first

end FibrePool.Format
