import FibrePool.Text.Utf8

/-!
# Percent escapes

In the parts of an address every byte may be written as a percent sign with two hexadecimal digits.
Writing escapes all bytes but those of letters, digits and four marks; reading leaves a percent sign
without two digits as it is.
-/

namespace FibrePool.Percent

set_option autoImplicit false

/-- Whether a character is written as itself. -/
def isPlain (c : Char) : Bool :=
  c.isAlphanum || c == '-' || c == '_' || c == '.' || c == '~'

/-- The upper-case hexadecimal digit of a value below sixteen. -/
def upperDigit (value : Nat) : Char := (Text.hexDigit value).toUpper

/-- The escape of a byte. -/
def escapeByte (byte : Nat) : List Char := ['%', upperDigit (byte / 16), upperDigit (byte % 16)]

/-- The bytes of a character, escaped. -/
def escapeChar (c : Char) : List Char := (Text.Utf8.encodeChar c).flatMap escapeByte

/-- A text with all but the plain characters escaped. -/
def encode (chars : List Char) : List Char :=
  chars.flatMap fun c => if isPlain c then [c] else escapeChar c

/-- The bytes of a text with escapes. -/
def decode : List Char → List Nat
  | '%' :: high :: low :: rest =>
    match Text.hexValue? high, Text.hexValue? low with
    | some first, some second => (first * 16 + second) :: decode rest
    | _, _ => 0x25 :: decode (high :: low :: rest)
  | c :: rest => Text.Utf8.encodeChar c ++ decode rest
  | [] => []
termination_by chars => chars.length

end FibrePool.Percent
