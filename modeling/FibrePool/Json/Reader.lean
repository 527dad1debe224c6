import FibrePool.Json.Token
import FibrePool.Text.Utf8

/-!
# Reading JSON

A value is read off a list of tokens with a stack of the arrays and objects that are still open, so
one pass over the tokens is enough.  Where the tokens cannot go on to be JSON the value gets a `cut`
and every open array and object is closed behind it.
-/

namespace FibrePool.Json

set_option autoImplicit false

/-- An array or object that is still open, with what it holds so far in reverse. -/
inductive Frame where
  | array (items : List Json)
  | /-- An object whose member `name` waits for its value. -/
    object (members : List (String × Json)) (name : String)

/-- Closes every open array and object around a value that cannot be read further. -/
def abandon (value : Json) : List Frame → Json
  | [] => value
  | .array items :: outer => abandon (.array (value :: items).reverse) outer
  | .object members name :: outer => abandon (.object ((name, value) :: members).reverse) outer

/-- Closes an object that breaks off between its members, and everything around it. -/
def abandonMembers (members : List (String × Json)) (stack : List Frame) : Json :=
  abandon (.object (("", cut) :: members).reverse) stack

mutual

/-- Reads a value into the innermost open array or object. -/
def readValue (stack : List Frame) (tokens : List Token) : Json × List Token :=
  match tokens with
  | .openBracket :: .closeBracket :: rest => readOn stack (.array []) rest
  | .openBracket :: rest => readValue (.array [] :: stack) rest
  | .openBrace :: .closeBrace :: rest => readOn stack (.object []) rest
  | .openBrace :: .text name :: .colon :: rest => readValue (.object [] name :: stack) rest
  | .openBrace :: .text name :: rest => (abandon cut (.object [] name :: stack), rest)
  | .openBrace :: rest => (abandonMembers [] stack, rest)
  | .null :: rest => readOn stack null rest
  | .bool value :: rest => readOn stack (.bool value) rest
  | .natural value :: rest => readOn stack (.natural value) rest
  | .number value :: rest => readOn stack (.number value) rest
  | .text value :: rest => readOn stack (.text value) rest
  | .illFormed :: rest => readOn stack illFormed rest
  | rest => (abandon cut stack, rest)

/-- Goes on after a whole value. -/
def readOn (stack : List Frame) (value : Json) (tokens : List Token) : Json × List Token :=
  match stack, tokens with
  | [], rest => (value, rest)
  | .array items :: outer, .comma :: rest => readValue (.array (value :: items) :: outer) rest
  | .array items :: outer, .closeBracket :: rest =>
    readOn outer (.array (value :: items).reverse) rest
  | .array items :: outer, rest => (abandon (.array (cut :: value :: items).reverse) outer, rest)
  | .object members name :: outer, .comma :: .text next :: .colon :: rest =>
    readValue (.object ((name, value) :: members) next :: outer) rest
  | .object members name :: outer, .comma :: .text next :: rest =>
    (abandon cut (.object ((name, value) :: members) next :: outer), rest)
  | .object members name :: outer, .closeBrace :: rest =>
    readOn outer (.object ((name, value) :: members).reverse) rest
  | .object members name :: outer, rest => (abandonMembers ((name, value) :: members) outer, rest)

end

/-- The tokens of a sequence of bytes.  No token but a string can hold what is no character, and a
string that does is read differently with different marks. -/
def Token.scanBytes (bytes : List Nat) : List Token :=
  List.zipWith (fun token other => if token = other then token else .illFormed)
    (scan (Text.Utf8.decodeMarked '\ufffd' bytes)) (scan (Text.Utf8.decodeMarked '\ufffe' bytes))

/-- The value at the front of a sequence of bytes; what follows it is not looked at. -/
def ofFront (bytes : List Nat) : Json := (readValue [] (Token.scanBytes bytes)).1

/-- The value that a whole text is, with nothing but white space around it. -/
def ofText? (source : String) : Option Json :=
  match readValue [] (Token.scan source.toList) with
  | (value, []) => if value.isWhole then some value else none
  | (_, _ :: _) => none

end FibrePool.Json
