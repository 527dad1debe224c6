import FibrePool.Json.Basic
import FibrePool.Text.Numeral

/-!
# JSON tokens

The lexical part of JSON: a text is cut into tokens from left to right, white space between them is
dropped, and the first character that can begin no token ends the list with `bad`.
-/

namespace FibrePool.Json

set_option autoImplicit false

/-- A lexical unit. -/
inductive Token where
  | openBrace
  | closeBrace
  | openBracket
  | closeBracket
  | comma
  | colon
  | null
  | bool (value : Bool)
  | natural (value : Nat)
  | number (value : Numeral)
  | text (value : String)
  | /-- A string with half of a surrogate pair, or with bytes that are no character. -/
    illFormed
  | /-- Something that is no token; nothing is read after it. -/
    bad
  deriving DecidableEq, Repr, Inhabited

namespace Token

/-- The white space of JSON. -/
def isSpace (c : Char) : Bool := c == ' ' || c == '\t' || c == '\n' || c == '\r'

/-- The code that a one-letter escape stands for. -/
def escapeCode? : Char → Option Nat
  | '"' => some 0x22
  | '\\' => some 0x5c
  | '/' => some 0x2f
  | 'b' => some 8
  | 'f' => some 12
  | 'n' => some 10
  | 'r' => some 13
  | 't' => some 9
  | _ => none

/-- The codes of a string up to its closing quote, after those of `read`, and what follows.  The
codes are code points, or halves of surrogate pairs where they were escaped. -/
def stringCodes (read : List Nat) : List Char → Option (List Nat × List Char)
  | [] => none
  | '"' :: rest => some (read.reverse, rest)
  | '\\' :: 'u' :: a :: b :: c :: d :: rest =>
    match Text.hexNumber? [a, b, c, d] with
    | some code => stringCodes (code :: read) rest
    | none => none
  | '\\' :: c :: rest =>
    match escapeCode? c with
    | some code => stringCodes (code :: read) rest
    | none => none
  | c :: rest => if c.toNat < 0x20 then none else stringCodes (c.toNat :: read) rest

/-- Whether a code is the first half of a surrogate pair. -/
def isLead (code : Nat) : Bool := 0xd800 ≤ code && code ≤ 0xdbff

/-- Whether a code is the second half of a surrogate pair. -/
def isTrail (code : Nat) : Bool := 0xdc00 ≤ code && code ≤ 0xdfff

/-- The characters of a list of codes, or nothing when half of a surrogate pair stands alone. -/
def charactersOf : List Nat → Option (List Char)
  | [] => some []
  | lead :: trail :: rest =>
    if isLead lead then
      if isTrail trail then
        (charactersOf rest).map fun chars =>
          Char.ofNat (0x10000 + (lead - 0xd800) * 0x400 + (trail - 0xdc00)) :: chars
      else none
    else if isTrail lead then none
    else (charactersOf (trail :: rest)).map (Char.ofNat lead :: ·)
  | [code] => if isLead code || isTrail code then none else some [Char.ofNat code]

/-- The leading decimal digits and what follows them. -/
def spanDigits (chars : List Char) : List Char × List Char := chars.span Char.isDigit

/-- The number that decimal digits stand for. -/
def digitsValue (digits : List Char) : Nat := (Text.numberFrom? 10 Text.digitValue? 0 digits).getD 0

/-- The exponent part of a number, if there is one. -/
def exponentPart? (chars : List Char) : Option (Option Int × List Char) :=
  match chars with
  | c :: rest =>
    if c = 'e' ∨ c = 'E' then
      let (negative, digits) := match rest with
        | '-' :: digits => (true, digits)
        | '+' :: digits => (false, digits)
        | digits => (false, digits)
      match spanDigits digits with
      | ([], _) => none
      | (digits, rest) =>
        let size : Int := digitsValue digits
        some (some (if negative then -size else size), rest)
    else some (none, chars)
  | [] => some (none, [])

/-- The fraction part of a number, if there is one. -/
def fractionPart? (chars : List Char) : Option (List Char × List Char) :=
  match chars with
  | '.' :: rest =>
    match spanDigits rest with
    | ([], _) => none
    | parts => some parts
  | _ => some ([], chars)

/-- The number token at the front of a text, its sign already read. -/
def numeral? (negative : Bool) (chars : List Char) : Option (Token × List Char) :=
  match spanDigits chars with
  | ([], _) => none
  | ('0' :: _ :: _, _) => none
  | (whole, rest) =>
    match fractionPart? rest with
    | none => none
    | some (fraction, rest) =>
      match exponentPart? rest with
      | none => none
      | some (exponent, rest) =>
        if !negative && fraction.isEmpty && exponent.isNone then
          some (natural (digitsValue whole), rest)
        else
          let digits := digitsValue (whole ++ fraction)
          some (number ⟨negative, digits, exponent.getD 0 - fraction.length⟩, rest)

/-- The token at the front of a text that does not begin with white space. -/
def next? : List Char → Option (Token × List Char)
  | '\x7b' :: rest => some (openBrace, rest)
  | '\x7d' :: rest => some (closeBrace, rest)
  | '[' :: rest => some (openBracket, rest)
  | ']' :: rest => some (closeBracket, rest)
  | ',' :: rest => some (comma, rest)
  | ':' :: rest => some (colon, rest)
  | 'n' :: 'u' :: 'l' :: 'l' :: rest => some (null, rest)
  | 't' :: 'r' :: 'u' :: 'e' :: rest => some (bool true, rest)
  | 'f' :: 'a' :: 'l' :: 's' :: 'e' :: rest => some (bool false, rest)
  | '"' :: rest =>
    match stringCodes [] rest with
    | some (codes, rest) =>
      match charactersOf codes with
      | some chars => some (text (String.ofList chars), rest)
      | none => some (illFormed, rest)
    | none => none
  | '-' :: rest => numeral? true rest
  | chars => numeral? false chars

/-- The tokens of a text, at most `limit` of them, after those of `read`. -/
def scanFrom (read : List Token) : Nat → List Char → List Token
  | 0, _ => read.reverse
  | limit + 1, chars =>
    match chars.dropWhile isSpace with
    | [] => read.reverse
    | chars =>
      match next? chars with
      | some (token, rest) => scanFrom (token :: read) limit rest
      | none => (bad :: read).reverse

/-- The tokens of a text.  Each takes at least one character. -/
def scan (chars : List Char) : List Token := scanFrom [] chars.length chars

end Token

end FibrePool.Json
