import FibrePool.Text.Numeral

/-!
# Socket addresses

An address to listen on: an address of version four with a port, or one of version six between
brackets with a port.  The written form of version six leaves out the longest run of zero groups.
-/

namespace FibrePool

set_option autoImplicit false

/-- An address of a host. -/
inductive IpAddress where
  | four (octets : List Nat)
  | six (groups : List Nat) (scope : Nat)
  deriving DecidableEq, Repr, Inhabited

/-- An address of a host with a port. -/
structure SocketAddress where
  host : IpAddress
  port : Nat
  deriving DecidableEq, Repr, Inhabited

namespace IpAddress

/-! ## Reading -/

/-- A number at the front of a text, and what follows it.  It has one digit at least and at most
`width`, and is below `bound`. -/
def readNumber (base : Nat) (value? : Char → Option Nat) (width bound : Nat) (chars : List Char) :
    Option (Nat × List Char) :=
  let (digits, rest) := chars.span fun c => (value? c).isSome
  if digits.isEmpty || width < digits.length then none
  else
    match Text.numberFrom? base value? 0 digits with
    | some number => if number < bound then some (number, rest) else none
    | none => none

/-- What follows a character. -/
def expect (c : Char) : List Char → Option (List Char)
  | [] => none
  | first :: rest => if first = c then some rest else none

/-- An octet, which has no zero in front. -/
def readOctet (chars : List Char) : Option (Nat × List Char) :=
  match chars with
  | '0' :: c :: _ =>
    if (Text.digitValue? c).isSome then none else readNumber 10 Text.digitValue? 3 256 chars
  | _ => readNumber 10 Text.digitValue? 3 256 chars

/-- The four octets of an address. -/
def readOctets (chars : List Char) : Option (List Nat × List Char) := do
  let (a, rest) ← readOctet chars
  let (b, rest) ← readOctet (← expect '.' rest)
  let (c, rest) ← readOctet (← expect '.' rest)
  let (d, rest) ← readOctet (← expect '.' rest)
  return ([a, b, c, d], rest)

/-- What follows the separator of a group, which the first group does not have. -/
def afterSeparator (isFirst : Bool) (chars : List Char) : Option (List Char) :=
  if isFirst then some chars else expect ':' chars

/-- The two groups that four octets make. -/
def pairOctets : List Nat → List Nat
  | [a, b, c, d] => [a * 256 + b, c * 256 + d]
  | octets => octets

/-- Reads at most `limit` groups; the last two may be written as four octets.  Says whether they
were. -/
def readGroups (isFirst : Bool) : Nat → List Char → List Nat × Bool × List Char
  | 0, chars => ([], false, chars)
  | limit + 1, chars =>
    let octets :=
      if limit = 0 then none else (afterSeparator isFirst chars).bind readOctets
    match octets with
    | some (octets, rest) => (pairOctets octets, true, rest)
    | none =>
      match (afterSeparator isFirst chars).bind (readNumber 16 Text.hexValue? 4 65536) with
      | some (group, rest) =>
        let (groups, mixed, rest) := readGroups false limit rest
        (group :: groups, mixed, rest)
      | none => ([], false, chars)

/-- The eight groups of an address, where two colons stand for one zero group or more. -/
def readSix (chars : List Char) : Option (List Nat × List Char) := do
  let (front, mixed, rest) := readGroups true 8 chars
  if front.length = 8 then return (front, rest)
  if mixed then failure
  let rest ← expect ':' (← expect ':' rest)
  let (back, _, rest) := readGroups true (7 - front.length) rest
  let zeros := List.replicate (8 - front.length - back.length) 0
  return (front ++ zeros ++ back, rest)

/-! ## Writing -/

/-- The end of the longest run of zeros, with its length; of equally long ones the first. -/
def longestZeros (groups : List Nat) : Nat × Nat :=
  let runs := (List.range groups.length).map fun start =>
    (start, ((groups.drop start).takeWhile (· = 0)).length)
  runs.foldl (fun best run => if best.2 < run.2 then run else best) (0, 0)

/-- Groups between colons. -/
def joinGroups (groups : List Nat) : String :=
  ":".intercalate (groups.map fun group => String.ofList (Nat.toDigits 16 group))

/-- Four octets between points. -/
def joinOctets (octets : List Nat) : String := ".".intercalate (octets.map toString)

/-- The text of eight groups. -/
def groupsText (groups : List Nat) : String :=
  match groups with
  | [0, 0, 0, 0, 0, 0xffff, high, low] =>
    "::ffff:" ++ joinOctets [high / 256, high % 256, low / 256, low % 256]
  | groups =>
    let (start, length) := longestZeros groups
    if length ≤ 1 then joinGroups groups
    else joinGroups (groups.take start) ++ "::" ++ joinGroups (groups.drop (start + length))

end IpAddress

namespace SocketAddress

open IpAddress

/-- A port behind its colon, at the end of a text. -/
def readPort (chars : List Char) : Option Nat := do
  let digits ← expect ':' chars
  match readNumber 10 Text.digitValue? digits.length 65536 digits with
  | some (port, []) => return port
  | _ => failure

/-- The scope behind an address, zero when there is none. -/
def readScope (chars : List Char) : Nat × List Char :=
  match chars with
  | '%' :: digits =>
    (readNumber 10 Text.digitValue? digits.length 4294967296 digits).getD (0, chars)
  | chars => (0, chars)

/-- The address that a text is. -/
def parse? (text : String) : Option SocketAddress :=
  match text.toList with
  | '[' :: chars => do
    let (groups, rest) ← readSix chars
    let (scope, rest) := readScope rest
    let port ← readPort (← expect ']' rest)
    return ⟨.six groups scope, port⟩
  | chars => do
    let (octets, rest) ← readOctets chars
    return ⟨.four octets, ← readPort rest⟩

/-- The text of an address. -/
def text (address : SocketAddress) : String :=
  match address.host with
  | .four octets => s!"{joinOctets octets}:{address.port}"
  | .six groups 0 => s!"[{groupsText groups}]:{address.port}"
  | .six groups scope => s!"[{groupsText groups}%{scope}]:{address.port}"

instance : ToString SocketAddress := ⟨SocketAddress.text⟩

end SocketAddress

end FibrePool
