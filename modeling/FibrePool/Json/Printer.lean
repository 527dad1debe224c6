import FibrePool.Json.Basic
import FibrePool.Text.Numeral

/-!
# Writing JSON

Two layouts: on one line without blanks, and with one item or member on each line, indented by two
blanks for each level, where empty arrays and objects stay on their line.
-/

namespace FibrePool.Json

set_option autoImplicit false

/-- One character inside a string. -/
def escapedChar (c : Char) : List Char :=
  match c with
  | '"' => ['\\', '"']
  | '\\' => ['\\', '\\']
  | '\n' => ['\\', 'n']
  | '\r' => ['\\', 'r']
  | '\t' => ['\\', 't']
  | '\x08' => ['\\', 'b']
  | '\x0c' => ['\\', 'f']
  | c => if c.toNat < 0x20 then ['\\', 'u'] ++ Text.hexWord c.toNat else [c]

/-- A string between its quotes. -/
def quotedText (value : String) : String :=
  String.ofList ('"' :: value.toList.flatMap escapedChar ++ ['"'])

/-- A number with sign and exponent. -/
def Numeral.text (n : Numeral) : String :=
  (if n.negative then "-" else "") ++ toString n.digits ++
    if n.exponent = 0 then "" else "e" ++ toString n.exponent

/-- The text of a value that has no parts. -/
def leafText : Json → String
  | bool true => "true"
  | bool false => "false"
  | natural value => toString value
  | number value => value.text
  | text value => quotedText value
  | _ => "null"

mutual

/-- The value on one line. -/
def compact : Json → String
  | array items => "[" ++ ",".intercalate (compactItems items) ++ "]"
  | object members => "\x7b" ++ ",".intercalate (compactMembers members) ++ "\x7d"
  | leaf => leaf.leafText

/-- The items on one line each. -/
def compactItems : List Json → List String
  | [] => []
  | item :: rest => item.compact :: compactItems rest

/-- The members on one line each. -/
def compactMembers : List (String × Json) → List String
  | [] => []
  | (name, value) :: rest => (quotedText name ++ ":" ++ value.compact) :: compactMembers rest

end

/-- A line break and the indentation of a level. -/
def newLine (level : Nat) : String := "\n" ++ String.ofList (List.replicate (2 * level) ' ')

mutual

/-- The value with one item or member on each line, inside `level` arrays and objects. -/
def prettyAt (level : Nat) : Json → String
  | array [] => "[]"
  | array items =>
    "[" ++ newLine (level + 1) ++
      ("," ++ newLine (level + 1)).intercalate (prettyItems (level + 1) items) ++
      newLine level ++ "]"
  | object [] => "\x7b\x7d"
  | object members =>
    "\x7b" ++ newLine (level + 1) ++
      ("," ++ newLine (level + 1)).intercalate (prettyMembers (level + 1) members) ++
      newLine level ++ "\x7d"
  | leaf => leaf.leafText

/-- The items, each in its own layout. -/
def prettyItems (level : Nat) : List Json → List String
  | [] => []
  | item :: rest => item.prettyAt level :: prettyItems level rest

/-- The members, each in its own layout. -/
def prettyMembers (level : Nat) : List (String × Json) → List String
  | [] => []
  | (name, value) :: rest =>
    (quotedText name ++ ": " ++ value.prettyAt level) :: prettyMembers level rest

end

/-- The value with one item or member on each line. -/
def pretty (value : Json) : String := value.prettyAt 0

end FibrePool.Json
