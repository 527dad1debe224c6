import FibrePool.Http.Percent
import FibrePool.Net.SocketAddress
import FibrePool.Text.Blank

/-!
# Addresses of servers

Reading the text of an address, and the form in which its path is sent.  The path is a list of
segments: dots for "here" and "up" are carried out, also where they are written with escapes, and
characters that cannot be sent are escaped.  What cannot be an address is refused with its fault.
-/

namespace FibrePool

set_option autoImplicit false

/-- Why a text is no address. -/
inductive UrlFault where
  | relative
  | emptyHost
  | domain
  | ipv4
  | ipv6
  | port
  deriving DecidableEq, Repr, Inhabited

/-- What people are told. -/
def UrlFault.message : UrlFault → String
  | relative => "relative URL without a base"
  | emptyHost => "empty host"
  | domain => "invalid international domain name"
  | ipv4 => "invalid IPv4 address"
  | ipv6 => "invalid IPv6 address"
  | port => "invalid port number"

/-- An address. -/
structure Url where
  scheme : String
  /-- The host as it was written, in lower case; none where there is no host at all. -/
  host : Option String
  port : Option Nat
  path : List (List Char)
  query : Option (List Char)
  deriving DecidableEq, Repr

namespace Url

/-! ## Characters -/

/-- Whether a character is a control character. -/
def isControl (c : Char) : Bool := c.toNat < 0x20 || c.toNat == 0x7f

/-- Whether a character of a path is sent with escapes. -/
def isEscapedInPath (c : Char) : Bool :=
  isControl c || 0x7f < c.toNat || " \"#<>?\x60\x7b\x7d".toList.contains c

/-- Whether a character of a query is sent with escapes. -/
def isEscapedInQuery (c : Char) : Bool :=
  isControl c || 0x7f < c.toNat || " \"#<>'".toList.contains c

/-- Characters with some of them escaped. -/
def escape (isEscaped : Char → Bool) (chars : List Char) : List Char :=
  chars.flatMap fun c => if isEscaped c then Percent.escapeChar c else [c]

/-! ## Paths -/

/-- Whether a segment is a dot, in one of its spellings. -/
def isHere (segment : List Char) : Bool :=
  [".", "%2e"].contains (String.ofList (segment.map Char.toLower))

/-- Whether a segment is two dots, in one of their spellings. -/
def isUp (segment : List Char) : Bool :=
  ["..", ".%2e", "%2e.", "%2e%2e"].contains (String.ofList (segment.map Char.toLower))

/-- Carries out the dots of a path, where `above` are the segments so far, the last one first.  Dots
at the end leave an empty segment. -/
def resolve (above : List (List Char)) : List (List Char) → List (List Char)
  | [] => above.reverse
  | [last] =>
    if isUp last then ([] :: above.drop 1).reverse
    else if isHere last then ([] :: above).reverse
    else (last :: above).reverse
  | segment :: rest =>
    if isUp segment then resolve (above.drop 1) rest
    else if isHere segment then resolve above rest
    else resolve (segment :: above) rest

/-- The segments of the text behind the host, which begins with a slash if it is not empty. -/
def segmentsOf (chars : List Char) : List (List Char) :=
  let behind := match chars with
    | '/' :: rest => rest
    | rest => rest
  (resolve [] (Text.splitAt '/' behind)).map (escape isEscapedInPath)

/-- The path and the query as they are sent. -/
def target (url : Url) : List Char :=
  let path := url.path.flatMap fun segment => '/' :: segment
  match url.query with
  | some query => path ++ '?' :: query
  | none => path

/-- Whether the address is one of HTTP. -/
def isHttp (url : Url) : Bool := url.scheme == "http" || url.scheme == "https"

/-! ## Hosts -/

/-- Whether a character may not stand in the name of a host. -/
def isForbidden (c : Char) : Bool :=
  isControl c || " #%/:<>?@[\\]^\x60\x7b|\x7d\ufffd".toList.contains c

/-- The number that a part of an address of version four is written as. -/
def ipv4Number? (part : List Char) : Option Nat :=
  let octal (c : Char) : Option Nat := (Text.digitValue? c).filter (· < 8)
  match part with
  | '0' :: 'x' :: digits => Text.numberFrom? 16 Text.hexValue? 0 digits
  | '0' :: digits => Text.numberFrom? 8 octal 0 digits
  | digits => Text.number? digits

/-- The parts of a host between its points, without an empty one at the end. -/
def hostParts (host : List Char) : List (List Char) :=
  let parts := Text.splitAt '.' host
  if 1 < parts.length && parts.getLast? == some [] then parts.dropLast else parts

/-- Whether a host is to be an address of version four: its last part is a number. -/
def endsInNumber (host : List Char) : Bool :=
  match (hostParts host).getLast? with
  | some part => !part.isEmpty && (part.all Char.isDigit || (ipv4Number? part).isSome)
  | none => false

/-- Whether a host is an address of version four. -/
def isIpv4 (host : List Char) : Bool :=
  match (hostParts host).mapM fun part => if part.isEmpty then none else ipv4Number? part with
  | some numbers =>
    numbers.length ≤ 4 && numbers.dropLast.all (· < 256) &&
      numbers.getLast?.any (· < Nat.pow 256 (5 - numbers.length))
  | none => false

/-- The host that a text names. -/
def readHost (chars : List Char) : Except UrlFault String :=
  match chars with
  | '[' :: rest =>
    match rest.reverse with
    | ']' :: inside =>
      match IpAddress.readSix inside.reverse with
      | some (groups, []) => .ok ("[" ++ IpAddress.groupsText groups ++ "]")
      | _ => .error .ipv6
    | _ => .error .ipv6
  | chars =>
    let name := (Text.Utf8.decodeLossy (Percent.decode chars)).toList.map Char.toLower
    if name.isEmpty then .error .emptyHost
    else if name.any isForbidden then .error .domain
    else if endsInNumber name && !isIpv4 name then .error .ipv4
    else .ok (String.ofList name)

/-- The host and what follows it; a colon between brackets does not end it. -/
def splitPort (chars : List Char) : List Char × Option (List Char) :=
  match chars with
  | '[' :: _ =>
    let inside := chars.takeWhile (· != ']')
    match chars.drop inside.length with
    | ']' :: rest =>
      let more := rest.takeWhile (· != ':')
      (inside ++ ']' :: more, (rest.drop more.length).tail?)
    | _ => (chars, none)
  | chars =>
    let host := chars.takeWhile (· != ':')
    (host, (chars.drop host.length).tail?)

/-- The port of an address, left out where it is the usual one of the scheme. -/
def readPort (scheme : String) (digits : List Char) : Except UrlFault (Option Nat) :=
  if digits.isEmpty then .ok none
  else
    match Text.number? digits with
    | some number =>
      if 65535 < number then .error .port
      else if (scheme, number) = ("http", 80) ∨ (scheme, number) = ("https", 443) then .ok none
      else .ok (some number)
    | none => .error .port

/-- What follows the last sign of a user in front of a host; says whether there is one. -/
def afterUser (authority : List Char) : Bool × List Char :=
  match (Text.splitAt '@' authority).reverse with
  | host :: _ :: _ => (true, host)
  | [host] => (false, host)
  | [] => (false, [])

/-! ## Reading -/

/-- The scheme in front of the first colon, in lower case, and what follows it. -/
def readScheme (chars : List Char) : Option (String × List Char) := do
  let (scheme, rest) ← Text.splitOnce? ':' chars
  let isWordChar (c : Char) : Bool := c.isAlphanum || c == '+' || c == '-' || c == '.'
  if !scheme.head?.any Char.isAlpha || !scheme.all isWordChar then failure
  return (String.ofList (scheme.map Char.toLower), rest)

/-- Whether addresses of the scheme always have a host and a path. -/
def isSpecial (scheme : String) : Bool := ["http", "https", "ws", "wss", "ftp"].contains scheme

/-- The address of what stands behind the host. -/
def withPath (scheme : String) (host : Option String) (port : Option Nat) (chars : List Char) :
    Url :=
  let chars := chars.takeWhile (· != '#')
  let (path, query) := match Text.splitOnce? '?' chars with
    | some (path, query) => (path, some (escape isEscapedInQuery query))
    | none => (chars, none)
  { scheme, host, port, query, path := segmentsOf path }

/-- The address of what stands behind the slashes in front of a host. -/
def withAuthority (scheme : String) (chars : List Char) : Except UrlFault Url := do
  let authority := chars.takeWhile fun c => c != '/' && c != '?' && c != '#'
  let rest := chars.drop authority.length
  let (hasUser, place) := afterUser authority
  let (name, digits) := splitPort place
  if name.isEmpty then
    if isSpecial scheme || hasUser then throw .emptyHost
    return withPath scheme (some "") none rest
  let host ← readHost name
  let port ← readPort scheme (digits.getD [])
  return withPath scheme (some host) port rest

/-- Whether a character is dropped wherever it stands in an address. -/
def isDropped (c : Char) : Bool := c == '\t' || c == '\n' || c == '\r'

/-- The characters of an address that count: none at its ends that are blank, and no line breaks. -/
def significant (text : String) : List Char :=
  let isEdge (c : Char) : Bool := c.toNat ≤ 0x20
  let inner := ((text.toList.dropWhile isEdge).reverse.dropWhile isEdge).reverse
  inner.filter fun c => !isDropped c

/-- The address that a text is. -/
def parse (text : String) : Except UrlFault Url :=
  match readScheme (significant text) with
  | none => .error .relative
  | some (scheme, rest) =>
    if isSpecial scheme then
      let straight := rest.map fun c => if c = '\\' then '/' else c
      withAuthority scheme (straight.dropWhile (· == '/'))
    else
      match rest with
      | '/' :: '/' :: rest => if scheme = "file" then .ok (withPath scheme (some "") none rest)
          else withAuthority scheme rest
      | rest => .ok (withPath scheme none none rest)

end Url

end FibrePool
